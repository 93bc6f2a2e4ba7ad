import Split402.Base.Decimal
import Split402.Base.Except
import Split402.Payouts.Types

/-! # Input checks

The small readers every payout function starts with. Each returns the checked value or throws
the error class and message of the source. -/

namespace Split402

variable (host : Host)

def assertNonEmptyString (value label : String) : Except PayoutError String :=
  if isBlank value then
    throw (.previewValidation s!"{label} must be a non-empty string")
  else pure value

/-- `value` as the host prints it, or an error when the host cannot parse it. -/
def normalizeTimestamp (value label : String) : Except PayoutError String :=
  if isBlank value then
    throw (.previewValidation s!"{label} must be an ISO timestamp")
  else
    match host.dateParse value with
    | none => throw (.previewValidation s!"{label} must be an ISO timestamp")
    | some timestamp => pure (host.toISOString timestamp)

/-- `input.now ?? new Date().toISOString()`. -/
def nowOrClock (env : CallEnv) (now : Option String) : String :=
  now.getD (host.toISOString env.clock)

/-- `/^(0|[1-9][0-9]*)$/`, and the number it stands for. -/
def parseAtomicAmount (value : String) : Option Nat := Base.Decimal.parse value

def serializeAtomicAmount (value : Nat) : String := toString value

@[simp] theorem parseAtomicAmount_serialize (n : Nat) :
    parseAtomicAmount (serializeAtomicAmount n) = some n := Base.Decimal.parse_toString n

def readAtomicAmount (value label : String) : Except PayoutError Nat :=
  match parseAtomicAmount value with
  | none =>
      throw (.previewValidation s!"{label} must be a non-negative decimal atomic amount")
  | some amount => pure amount

theorem readAtomicAmount_eq_ok {value label : String} {n : Nat} :
    readAtomicAmount value label = .ok n ↔ parseAtomicAmount value = some n := by
  rw [readAtomicAmount]
  split <;> simp_all

def readPositiveAtomicAmount (value label : String) : Except PayoutError Nat := do
  let amount ← readAtomicAmount value label
  if amount = 0 then
    throw (.batchValidation s!"{label} must be a positive atomic amount")
  else pure amount

theorem readPositiveAtomicAmount_eq_ok {value label : String} {n : Nat} :
    readPositiveAtomicAmount value label = .ok n ↔ parseAtomicAmount value = some n ∧ 0 < n := by
  rw [readPositiveAtomicAmount, Base.bind_eq_ok]
  constructor
  · rintro ⟨m, hm, h⟩
    split at h
    · exact absurd h Base.throw_ne_ok
    · rw [Base.pure_eq_ok] at h
      subst h
      exact ⟨readAtomicAmount_eq_ok.mp hm, by omega⟩
  · rintro ⟨hp, hn⟩
    exact ⟨n, readAtomicAmount_eq_ok.mpr hp, by rw [if_neg (by omega)]; rfl⟩

def readOptionalPositiveInteger (value : Option Int) (label : String) :
    Except PayoutError (Option Nat) :=
  match value with
  | none => pure none
  | some n =>
      if n ≤ 0 then throw (.previewValidation s!"{label} must be a positive integer")
      else pure (some n.toNat)

def assertNonNegativeInteger (value : Int) (label : String) : Except PayoutError Int :=
  if value < 0 then throw (.batchValidation s!"{label} must be a non-negative integer")
  else pure value

def assertPositiveInteger (value : Int) (label : String) : Except PayoutError Int :=
  if value ≤ 0 then throw (.batchValidation s!"{label} must be a positive integer")
  else pure value

/-- Check an optional value when it is there. -/
def checkOptional {α β : Type} (value : Option α) (check : α → Except PayoutError β) :
    Except PayoutError (Option β) :=
  match value with
  | none => pure none
  | some value => do
      let checked ← check value
      pure (some checked)

/-- `/^[a-z]{3}_[0-9a-f]{32,}$/`. -/
def isSplit402Id (value : String) : Bool :=
  match value.toList with
  | a :: b :: c :: '_' :: rest =>
      [a, b, c].all (fun x => 'a' ≤ x && x ≤ 'z') && 32 ≤ rest.length &&
        rest.all (fun x => ('0' ≤ x && x ≤ '9') || ('a' ≤ x && x ≤ 'f'))
  | _ => false

def assertSplit402Id (value label : String) : Except PayoutError String :=
  if isSplit402Id value then pure value
  else throw (.batchValidation s!"{label} must be a Split402 id")

theorem assertSplit402Id_eq_ok {value label id : String} :
    assertSplit402Id value label = .ok id ↔ isSplit402Id value = true ∧ value = id := by
  rw [assertSplit402Id]
  split <;> simp_all

/-- `/^[A-Za-z0-9+/]+={0,2}$/` on a string whose length is a multiple of four. -/
def isBase64 (value : String) : Bool :=
  let chars := value.toList.reverse
  let padding := chars.takeWhile (· == '=')
  let body := chars.dropWhile (· == '=')
  value.toList.length % 4 == 0 && padding.length ≤ 2 && !body.isEmpty &&
    body.all (fun x => x.isAlphanum || x == '+' || x == '/')

def assertBase64String (value label : String) : Except PayoutError String :=
  if isBase64 value then pure value
  else throw (.batchValidation s!"{label} must be base64")

/-! ## Drawn ids -/

def createPayoutBatchId (env : CallEnv) (draw : Nat) : String := "pbt_" ++ env.randomHex draw

def createPayoutItemId (env : CallEnv) (draw : Nat) : String := "pit_" ++ env.randomHex draw

def createPayoutTransactionId (env : CallEnv) (draw : Nat) : String :=
  "ptx_" ++ env.randomHex draw

def createLedgerTransactionId (env : CallEnv) (draw : Nat) : String :=
  "ldg_" ++ env.randomHex draw

def createLedgerEntryId (env : CallEnv) (draw : Nat) : String := "lde_" ++ env.randomHex draw

end Split402
