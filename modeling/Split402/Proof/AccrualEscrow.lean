import Split402.Base.Escrow
import Split402.Proof.PayoutRules
import Split402.Store.Schema

/-! # Accruals as the resources of an escrow

Both stores keep accruals under different ids and change them by mapping over all of them. What
the escrow sees of an accrual, its condition and its worth, is a function of the list of them;
the two stores differ in the record only (`IsAccrual`). -/

namespace Split402

open Base Base.Escrow

/-- The escrow condition of an accrual status. -/
def AccrualStatus.condition : AccrualStatus → Condition
  | .available => .free
  | .allocated => .held
  | .paid => .spent
  | _ => .other

theorem condition_eq_held {status : AccrualStatus} :
    status.condition = .held ↔ status = .allocated := by cases status <;> decide

theorem condition_eq_spent {status : AccrualStatus} :
    status.condition = .spent ↔ status = .paid := by cases status <;> decide

/-- A record of an accrual. -/
class IsAccrual (ρ : Type) where
  id : ρ → String
  status : ρ → AccrualStatus
  amountAtomic : ρ → String

instance : IsAccrual CommissionAccrual :=
  ⟨CommissionAccrual.id, CommissionAccrual.status, CommissionAccrual.amountAtomic⟩

instance : IsAccrual CommissionAccrualRow :=
  ⟨CommissionAccrualRow.id, CommissionAccrualRow.status, CommissionAccrualRow.amountAtomic⟩

@[simp] theorem CommissionAccrual.isAccrual_id (accrual : CommissionAccrual) :
    IsAccrual.id accrual = accrual.id := rfl

@[simp] theorem CommissionAccrual.isAccrual_status (accrual : CommissionAccrual) :
    IsAccrual.status accrual = accrual.status := rfl

@[simp] theorem CommissionAccrual.isAccrual_amountAtomic (accrual : CommissionAccrual) :
    IsAccrual.amountAtomic accrual = accrual.amountAtomic := rfl

@[simp] theorem CommissionAccrualRow.isAccrual_id (row : CommissionAccrualRow) :
    IsAccrual.id row = row.id := rfl

@[simp] theorem CommissionAccrualRow.isAccrual_status (row : CommissionAccrualRow) :
    IsAccrual.status row = row.status := rfl

@[simp] theorem CommissionAccrualRow.isAccrual_amountAtomic (row : CommissionAccrualRow) :
    IsAccrual.amountAtomic row = row.amountAtomic := rfl

variable {ρ : Type} [IsAccrual ρ] {rows : List ρ} {id : String}

/-- The accrual with an id. -/
def lookupAccrual (rows : List ρ) (id : String) : Option ρ :=
  rows.find? (fun row => IsAccrual.id row = id)

/-- The condition of an accrual; an unknown one is neither free nor held nor spent. -/
def condIn (rows : List ρ) (id : String) : Condition :=
  ((lookupAccrual rows id).map (fun row => (IsAccrual.status row).condition)).getD .other

def worthIn (rows : List ρ) (id : String) : Nat :=
  ((lookupAccrual rows id).map (fun row => atomicOf (IsAccrual.amountAtomic row))).getD 0

theorem lookupAccrual_mem {row : ρ} (h : lookupAccrual rows id = some row) :
    row ∈ rows ∧ IsAccrual.id row = id :=
  ⟨List.mem_of_find?_eq_some h, by simpa using List.find?_some h⟩

theorem lookupAccrual_of_mem (hids : (rows.map IsAccrual.id).Nodup) {row : ρ} (h : row ∈ rows) :
    lookupAccrual rows (IsAccrual.id row) = some row :=
  Table.find?_of_mem (t := (⟨rows, hids⟩ : Table (IsAccrual.id : ρ → String))) h

theorem condIn_of_lookup {row : ρ} (h : lookupAccrual rows id = some row) :
    condIn rows id = (IsAccrual.status row).condition := by simp [condIn, h]

theorem worthIn_of_lookup {row : ρ} (h : lookupAccrual rows id = some row) :
    worthIn rows id = atomicOf (IsAccrual.amountAtomic row) := by simp [worthIn, h]

/-- An id that is held or spent is the id of an accrual. -/
theorem exists_lookup (h : condIn rows id = .held ∨ condIn rows id = .spent) :
    ∃ row, lookupAccrual rows id = some row := by
  cases hr : lookupAccrual rows id with
  | some row => exact ⟨row, rfl⟩
  | none => simp [condIn, hr] at h

/-- Accruals that are added do not hide the ones that were there. -/
theorem lookupAccrual_append {row : ρ} (h : lookupAccrual rows id = some row) (added : List ρ) :
    lookupAccrual (rows ++ added) id = some row := by
  rw [lookupAccrual] at h
  rw [lookupAccrual, List.find?_append, h, Option.some_or]

section Map

variable {f : ρ → ρ}

theorem lookupAccrual_map (hid : ∀ row, IsAccrual.id (f row) = IsAccrual.id row) (rows : List ρ)
    (id : String) : lookupAccrual (rows.map f) id = (lookupAccrual rows id).map f := by
  rw [lookupAccrual, List.find?_map, lookupAccrual]
  congr 2
  funext row
  simp [hid]

theorem condIn_map (hid : ∀ row, IsAccrual.id (f row) = IsAccrual.id row) {row : ρ}
    (h : lookupAccrual rows id = some row) :
    condIn (rows.map f) id = (IsAccrual.status (f row)).condition := by
  rw [condIn, lookupAccrual_map hid, h]
  rfl

/-- An accrual whose status is left alone keeps its condition. -/
theorem condIn_map_kept (hid : ∀ row, IsAccrual.id (f row) = IsAccrual.id row)
    (h : ∀ row, lookupAccrual rows id = some row →
      IsAccrual.status (f row) = IsAccrual.status row) :
    condIn (rows.map f) id = condIn rows id := by
  rw [condIn, lookupAccrual_map hid, condIn]
  cases hr : lookupAccrual rows id with
  | none => rfl
  | some row => simp [h row hr]

theorem worthIn_map (hid : ∀ row, IsAccrual.id (f row) = IsAccrual.id row)
    (hamount : ∀ row, IsAccrual.amountAtomic (f row) = IsAccrual.amountAtomic row)
    (rows : List ρ) (id : String) : worthIn (rows.map f) id = worthIn rows id := by
  rw [worthIn, lookupAccrual_map hid, worthIn]
  cases lookupAccrual rows id with
  | none => rfl
  | some row => simp [hamount]

end Map

end Split402
