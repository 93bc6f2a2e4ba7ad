import Split402.Proof.SignedPayouts
import Split402.Solana.RemoteSigner

/-! # What the appliance reads

The appliance trims every string that it reads. So it reads a request of a delegate with its strings
trimmed, provided that none of them is blank and that amounts, hashes and bytes are written as they
should be; and it reads the request as it was written exactly when there is nothing to trim. -/

namespace Split402

open Base

/-! ## Strings with nothing to trim -/

theorem trimmed_of_no_whitespace {s : String} (hne : s.toList ≠ [])
    (h : ∀ c ∈ s.toList, isJsWhitespace c = false) : Trimmed s := by
  constructor
  · obtain ⟨c, hc⟩ := List.exists_mem_of_ne_nil _ hne
    rw [isBlank, List.all_eq_false]
    exact ⟨c, hc, by simp [h c hc]⟩
  · have hkeep : ∀ l : List Char, (∀ c ∈ l, isJsWhitespace c = false) →
        l.dropWhile isJsWhitespace = l := by
      intro l hl
      cases l with
      | nil => rfl
      | cons x xs => exact dropWhile_eq_self (hl x List.mem_cons_self)
    rw [jsTrim, hkeep _ h, hkeep _ fun c hc => h c (List.mem_reverse.mp hc), List.reverse_reverse,
      String.ofList_toList]

theorem isJsWhitespace_of_code {c : Char} (hlow : 33 ≤ c.toNat) (hhigh : c.toNat ≤ 126) :
    isJsWhitespace c = false := by
  unfold isJsWhitespace
  simp only [Bool.or_eq_false_iff, Bool.and_eq_false_iff, decide_eq_false_iff_not, beq_eq_false_iff_ne]
  omega

theorem isJsWhitespace_of_le {c a b : Char} (ha : 33 ≤ a.toNat) (hb : b.toNat ≤ 126) (h : a ≤ c)
    (h' : c ≤ b) : isJsWhitespace c = false := by
  have hac : a.toNat ≤ c.toNat := h
  have hcb : c.toNat ≤ b.toNat := h'
  exact isJsWhitespace_of_code (by omega) (by omega)

theorem trimmed_of_numeral {s : String} (h : decimalAmountRegex s = true) : Trimmed s := by
  obtain ⟨n, hn⟩ := Option.isSome_iff_exists.mp h
  rw [Decimal.eq_toString_of_parse hn, Nat.toString_eq_repr]
  refine trimmed_of_no_whitespace ?_ ?_
  · rw [Nat.toList_repr]
    exact Nat.toDigits_ne_nil
  · intro c hc
    rw [Nat.toList_repr] at hc
    have hdigit := Nat.isDigit_of_mem_toDigits (by decide) (by decide) hc
    rw [Char.isDigit, Bool.and_eq_true, decide_eq_true_eq, decide_eq_true_eq] at hdigit
    exact isJsWhitespace_of_le (by decide) (by decide) hdigit.1 hdigit.2

theorem trimmed_of_sha256 {s : String} (h : sha256Regex s = true) : Trimmed s := by
  unfold sha256Regex at h
  split at h
  · rename_i rest hlist
    rw [Bool.and_eq_true, List.all_eq_true] at h
    refine trimmed_of_no_whitespace (by rw [hlist]; exact List.cons_ne_nil _ _) ?_
    intro c hc
    rw [hlist] at hc
    simp only [List.mem_cons] at hc
    rcases hc with rfl | rfl | rfl | rfl | rfl | rfl | rfl | hc
    · rfl
    · rfl
    · rfl
    · rfl
    · rfl
    · rfl
    · rfl
    · have hhex := h.2 c hc
      simp only [isLowerHex, Bool.or_eq_true, Bool.and_eq_true, decide_eq_true_eq] at hhex
      rcases hhex with hhex | hhex
      · exact isJsWhitespace_of_le (by decide) (by decide) hhex.1 hhex.2
      · exact isJsWhitespace_of_le (by decide) (by decide) hhex.1 hhex.2
  · cases h

namespace PayoutSignerApp

variable {ν : Type}

/-! ## Records -/

theorem lookup_record {fields : List (String × Option (RpcJson ν))}
    (hfields : (fields.map Prod.fst).Nodup) (name : String) :
    (fields.filterMap fun field => field.2.map fun value => (field.1, value)).lookup name =
      (fields.lookup name).join := by
  induction fields with
  | nil => rfl
  | cons field rest ih =>
      obtain ⟨key, value⟩ := field
      rw [List.map_cons, List.nodup_cons] at hfields
      have hrest := ih hfields.2
      cases value with
      | some value =>
          show List.lookup name ((key, value) :: _) = _
          rw [List.lookup_cons, List.lookup_cons, hrest]
          by_cases hkey : name = key
          · rw [beq_iff_eq.mpr hkey]
            rfl
          · rw [beq_false_of_ne hkey]
      | none =>
          show List.lookup name (rest.filterMap _) = _
          rw [hrest, List.lookup_cons]
          by_cases hkey : name = key
          · have hnone : rest.lookup name = none := by
              rw [List.lookup_eq_none_iff]
              intro entry hentry
              rw [bne_iff_ne]
              intro h
              refine hfields.1 ?_
              rw [← hkey, h]
              exact List.mem_map.mpr ⟨entry, hentry, rfl⟩
            rw [hnone, beq_iff_eq.mpr hkey]
            rfl
          · rw [beq_false_of_ne hkey]

/-! ## Readers -/

theorem ensure_eq_ok {condition : Bool} {error : SignerError} {u : Unit} :
    ensure condition error = .ok u ↔ condition = true := by
  cases condition with
  | false => exact iff_of_false throw_ne_ok Bool.false_ne_true
  | true => exact iff_of_true rfl rfl

theorem ofControlPlane_eq_ok {α : Type} {result : Except String α} {a : α} :
    ofControlPlane result = .ok a ↔ result = .ok a := by
  cases result with
  | ok b => simp [ofControlPlane]
  | error message => simp [ofControlPlane]

theorem readRequiredString_eq_ok {s t label : String} :
    readRequiredString (some (.string s : RpcJson ν)) label = .ok t ↔
      isBlank s = false ∧ t = jsTrim s := by
  rw [readRequiredString]
  cases h : isBlank s with
  | true => simp
  | false => simp [eq_comm (a := jsTrim s)]

theorem readAtomicAmount_eq_ok {s t label : String} :
    readAtomicAmount (some (.string s : RpcJson ν)) label = .ok t ↔
      (isBlank s = false ∧ decimalAmountRegex (jsTrim s) = true) ∧ t = jsTrim s := by
  simp only [readAtomicAmount, bind_eq_ok, readRequiredString_eq_ok, ensure_eq_ok, pure_eq_ok]
  constructor
  · intro h
    obtain ⟨amount, ⟨hblank, hamount⟩, _, hregex, hsame⟩ := h
    rw [hamount] at hregex
    exact ⟨⟨hblank, hregex⟩, hsame.symm.trans hamount⟩
  · intro h
    obtain ⟨⟨hblank, hregex⟩, ht⟩ := h
    exact ⟨jsTrim s, ⟨hblank, rfl⟩, (), hregex, ht.symm⟩

theorem readHash_eq_ok {s t label : String} :
    readHash (some (.string s : RpcJson ν)) label = .ok t ↔
      (isBlank s = false ∧ sha256Regex (jsTrim s) = true) ∧ t = jsTrim s := by
  simp only [readHash, bind_eq_ok, readRequiredString_eq_ok, ensure_eq_ok, pure_eq_ok]
  constructor
  · intro h
    obtain ⟨hash, ⟨hblank, hhash⟩, _, hregex, hsame⟩ := h
    rw [hhash] at hregex
    exact ⟨⟨hblank, hregex⟩, hsame.symm.trans hhash⟩
  · intro h
    obtain ⟨⟨hblank, hregex⟩, ht⟩ := h
    exact ⟨jsTrim s, ⟨hblank, rfl⟩, (), hregex, ht.symm⟩

/-- The text is what the bytes it stands for are printed as. -/
def IsBase64Text (s : String) : Prop :=
  bufferFromBase64 s.toList ≠ [] ∧ base64Text (bufferFromBase64 s.toList) = s

theorem readBase64String_eq_ok {s t label : String} :
    readBase64String (some (.string s : RpcJson ν)) label = .ok t ↔
      (isBlank s = false ∧ IsBase64Text (jsTrim s)) ∧ t = jsTrim s := by
  simp only [readBase64String, bind_eq_ok, readRequiredString_eq_ok, ensure_eq_ok, pure_eq_ok,
    Bool.and_eq_true, Bool.not_eq_true', List.isEmpty_eq_false_iff, beq_iff_eq, IsBase64Text]
  constructor
  · intro h
    obtain ⟨raw, ⟨hblank, hraw⟩, _, hbytes, hsame⟩ := h
    rw [hraw] at hbytes
    exact ⟨⟨hblank, hbytes⟩, hsame.symm.trans hraw⟩
  · intro h
    obtain ⟨⟨hblank, hbytes⟩, ht⟩ := h
    exact ⟨jsTrim s, ⟨hblank, rfl⟩, (), hbytes, ht.symm⟩

theorem readBoolean_eq_ok {b c : Bool} {label : String} :
    readBoolean (some (.bool b : RpcJson ν)) label = .ok c ↔ c = b := by
  rw [readBoolean, pure_eq_ok, eq_comm]

/-- A field that may be absent is read when it is there. -/
theorem readOptional_eq_ok {α β : Type} {write : α → RpcJson ν} {g : α → β} {P : α → Prop}
    {read : Option (RpcJson ν) → Except SignerError β} {value : Option α} {result : Option β}
    (hread : ∀ a b, read (some (write a)) = .ok b ↔ P a ∧ b = g a) :
    readOptional (value.map write) read = .ok result ↔ (∀ a ∈ value, P a) ∧ result = value.map g := by
  cases value with
  | none =>
      rw [Option.map_none, Option.map_none, readOptional, pure_eq_ok, eq_comm]
      simp
  | some a =>
      rw [Option.map_some, Option.map_some]
      show some <$> read (some (write a)) = .ok result ↔ _
      rw [map_eq_ok]
      simp only [hread, Option.mem_some_iff, forall_eq']
      constructor
      · intro ⟨b, ⟨ha, hb⟩, hresult⟩
        rw [← hresult, hb]
        exact ⟨ha, rfl⟩
      · intro ⟨ha, hresult⟩
        exact ⟨g a, ⟨ha, rfl⟩, hresult.symm⟩

/-! ## Items and instructions -/

/-- The item as it is read. -/
def trimmedItem (item : SolanaPayoutPlannedItem) : SolanaPayoutPlannedItem where
  payoutItemId := jsTrim item.payoutItemId
  destinationWallet := jsTrim item.destinationWallet
  destinationTokenAccount := jsTrim item.destinationTokenAccount
  amountAtomic := jsTrim item.amountAtomic
  createAssociatedTokenAccount := item.createAssociatedTokenAccount

/-- The item can be read. -/
structure LegibleItem (item : SolanaPayoutPlannedItem) : Prop where
  texts : ∀ s ∈ [item.payoutItemId, item.destinationWallet, item.destinationTokenAccount,
    item.amountAtomic], isBlank s = false
  amount : decimalAmountRegex (jsTrim item.amountAtomic) = true

theorem readPlannedItem_json (item : SolanaPayoutPlannedItem) :
    readPlannedItem (RemoteSigner.plannedItemJson item : RpcJson ν) = (do
      let payoutItemId ← readRequiredString (some (.string item.payoutItemId : RpcJson ν))
        "payoutItemId"
      let destinationWallet ← readRequiredString (some (.string item.destinationWallet : RpcJson ν))
        "destinationWallet"
      let destinationTokenAccount ← readRequiredString
        (some (.string item.destinationTokenAccount : RpcJson ν)) "destinationTokenAccount"
      let amountAtomic ← readAtomicAmount (some (.string item.amountAtomic : RpcJson ν))
        "amountAtomic"
      let createAssociatedTokenAccount ← readBoolean
        (some (.bool item.createAssociatedTokenAccount : RpcJson ν)) "createAssociatedTokenAccount"
      pure ⟨payoutItemId, destinationWallet, destinationTokenAccount, amountAtomic,
        createAssociatedTokenAccount⟩) := rfl

theorem readPlannedItem_eq_ok {item read : SolanaPayoutPlannedItem} :
    readPlannedItem (RemoteSigner.plannedItemJson item : RpcJson ν) = .ok read ↔
      LegibleItem item ∧ read = trimmedItem item := by
  rw [readPlannedItem_json]
  simp only [bind_eq_ok, readRequiredString_eq_ok, readAtomicAmount_eq_ok, readBoolean_eq_ok,
    pure_eq_ok]
  constructor
  · intro h
    obtain ⟨_, ⟨hid, rfl⟩, _, ⟨hwallet, rfl⟩, _, ⟨haccount, rfl⟩, _, ⟨⟨hamount, hnumeral⟩, rfl⟩, _, rfl,
      rfl⟩ := h
    exact ⟨⟨by simp [hid, hwallet, haccount, hamount], hnumeral⟩, rfl⟩
  · intro h
    obtain ⟨hlegible, hread⟩ := h
    obtain ⟨htexts, hnumeral⟩ := hlegible
    simp only [List.forall_mem_cons] at htexts
    obtain ⟨hid, hwallet, haccount, hamount, -⟩ := htexts
    exact ⟨_, ⟨hid, rfl⟩, _, ⟨hwallet, rfl⟩, _, ⟨haccount, rfl⟩, _, ⟨⟨hamount, hnumeral⟩, rfl⟩, _, rfl,
      hread.symm⟩

section Numbers

variable {runtime : Runtime ν} {numbers : RpcNumbers ν}

theorem readInteger_eq_ok {n m : ν} {label : String} :
    readInteger numbers (some (.number n)) label = .ok m ↔
      (numbers.toInteger n).isSome = true ∧ m = n := by
  rw [readInteger]
  cases h : (numbers.toInteger n).isSome with
  | true => simp [eq_comm (a := n)]
  | false => simp

/-- The engine reads a whole number as it has written it, as long as it is safe. -/
def ReadsWhole (runtime : Runtime ν) (numbers : RpcNumbers ν) : Prop :=
  ∀ n : Nat, n < 9007199254740992 → numbers.toInteger (runtime.ofNat n) = some (n : Int)

theorem readNonNegativeInteger_eq_ok (hwhole : ReadsWhole runtime numbers) {n m : Nat}
    (hn : n < 9007199254740992) {label : String} :
    readNonNegativeInteger numbers (some (.number (runtime.ofNat n))) label = .ok m ↔ m = n := by
  have hread : readInteger numbers (some (.number (runtime.ofNat n))) label =
      .ok (runtime.ofNat n) :=
    readInteger_eq_ok.mpr ⟨by rw [hwhole n hn]; rfl, rfl⟩
  have hnonneg : (numbers.toInteger (runtime.ofNat n)).filter (0 ≤ ·) = some (n : Int) := by
    rw [hwhole n hn, Option.filter_some, if_pos (decide_eq_true (Int.natCast_nonneg n))]
  have hvalue : readNonNegativeInteger numbers (some (.number (runtime.ofNat n))) label = .ok n := by
    refine bind_eq_ok.mpr ⟨_, hread, ?_⟩
    rw [hnonneg]
    rfl
  rw [hvalue, Except.ok.injEq, eq_comm]

/-- The instruction as it is read. -/
def trimmedInstruction : SolanaPayoutInstructionPlan → SolanaPayoutInstructionPlan
  | .createAssociatedTokenIdempotent plan =>
      .createAssociatedTokenIdempotent ⟨jsTrim plan.programId, jsTrim plan.payer,
        jsTrim plan.associatedTokenAccount, jsTrim plan.owner, jsTrim plan.mint,
        jsTrim plan.tokenProgramId⟩
  | .transferChecked plan =>
      .transferChecked ⟨jsTrim plan.programId, jsTrim plan.source, jsTrim plan.mint,
        jsTrim plan.destination, jsTrim plan.authority, jsTrim plan.amountAtomic, plan.decimals,
        jsTrim plan.payoutItemId⟩

/-- The instruction can be read. -/
def LegibleInstruction : SolanaPayoutInstructionPlan → Prop
  | .createAssociatedTokenIdempotent plan =>
      ∀ s ∈ [plan.programId, plan.payer, plan.associatedTokenAccount, plan.owner, plan.mint,
        plan.tokenProgramId], isBlank s = false
  | .transferChecked plan =>
      (∀ s ∈ [plan.programId, plan.source, plan.mint, plan.destination, plan.authority,
        plan.amountAtomic, plan.payoutItemId], isBlank s = false) ∧
      decimalAmountRegex (jsTrim plan.amountAtomic) = true

/-- Its number of decimals is safe. -/
def SafeDecimals : SolanaPayoutInstructionPlan → Prop
  | .createAssociatedTokenIdempotent _ => True
  | .transferChecked plan => plan.decimals < 9007199254740992

/-- The kind of an instruction is read as it is written. -/
theorem read_kind (kind : String) (h : Trimmed kind) :
    readRequiredString (some (.string kind : RpcJson ν)) "instruction.kind" = .ok kind :=
  readRequiredString_eq_ok.mpr ⟨h.1, h.2.symm⟩

theorem readCreate_json (plan : SolanaCreateAssociatedTokenInstructionPlan) :
    readInstruction numbers (RemoteSigner.instructionJson runtime
      (.createAssociatedTokenIdempotent plan)) = (do
      let programId ← readRequiredString (some (.string plan.programId : RpcJson ν)) "programId"
      let payer ← readRequiredString (some (.string plan.payer : RpcJson ν)) "payer"
      let associatedTokenAccount ← readRequiredString
        (some (.string plan.associatedTokenAccount : RpcJson ν)) "associatedTokenAccount"
      let owner ← readRequiredString (some (.string plan.owner : RpcJson ν)) "owner"
      let mint ← readRequiredString (some (.string plan.mint : RpcJson ν)) "mint"
      let tokenProgramId ← readRequiredString (some (.string plan.tokenProgramId : RpcJson ν))
        "tokenProgramId"
      pure (.createAssociatedTokenIdempotent ⟨programId, payer, associatedTokenAccount, owner, mint,
        tokenProgramId⟩)) := by
  have hkind := @read_kind ν "createAssociatedTokenIdempotent" ⟨by decide, by decide⟩
  exact congrArg (· >>= readInstructionOfKind numbers _) hkind

theorem readTransfer_json (plan : SolanaTransferCheckedInstructionPlan) :
    readInstruction numbers (RemoteSigner.instructionJson runtime (.transferChecked plan)) = (do
      let programId ← readRequiredString (some (.string plan.programId : RpcJson ν)) "programId"
      let source ← readRequiredString (some (.string plan.source : RpcJson ν)) "source"
      let mint ← readRequiredString (some (.string plan.mint : RpcJson ν)) "mint"
      let destination ← readRequiredString (some (.string plan.destination : RpcJson ν)) "destination"
      let authority ← readRequiredString (some (.string plan.authority : RpcJson ν)) "authority"
      let amountAtomic ← readAtomicAmount (some (.string plan.amountAtomic : RpcJson ν)) "amountAtomic"
      let decimals ← readNonNegativeInteger numbers (some (.number (runtime.ofNat plan.decimals)))
        "decimals"
      let payoutItemId ← readRequiredString (some (.string plan.payoutItemId : RpcJson ν))
        "payoutItemId"
      pure (.transferChecked ⟨programId, source, mint, destination, authority, amountAtomic, decimals,
        payoutItemId⟩)) := by
  have hkind := @read_kind ν "transferChecked" ⟨by decide, by decide⟩
  exact congrArg (· >>= readInstructionOfKind numbers _) hkind

theorem readInstruction_eq_ok (hwhole : ReadsWhole runtime numbers)
    {instruction read : SolanaPayoutInstructionPlan} (hsafe : SafeDecimals instruction) :
    readInstruction numbers (RemoteSigner.instructionJson runtime instruction) = .ok read ↔
      LegibleInstruction instruction ∧ read = trimmedInstruction instruction := by
  cases instruction with
  | createAssociatedTokenIdempotent plan =>
      rw [readCreate_json]
      simp only [bind_eq_ok, readRequiredString_eq_ok, pure_eq_ok, LegibleInstruction,
        List.forall_mem_cons]
      constructor
      · intro h
        obtain ⟨_, ⟨hprogram, rfl⟩, _, ⟨hpayer, rfl⟩, _, ⟨haccount, rfl⟩, _, ⟨howner, rfl⟩, _,
          ⟨hmint, rfl⟩, _, ⟨htoken, rfl⟩, rfl⟩ := h
        exact ⟨⟨hprogram, hpayer, haccount, howner, hmint, htoken, by simp⟩, rfl⟩
      · intro h
        obtain ⟨⟨hprogram, hpayer, haccount, howner, hmint, htoken, _⟩, hread⟩ := h
        exact ⟨_, ⟨hprogram, rfl⟩, _, ⟨hpayer, rfl⟩, _, ⟨haccount, rfl⟩, _, ⟨howner, rfl⟩, _,
          ⟨hmint, rfl⟩, _, ⟨htoken, rfl⟩, hread.symm⟩
  | transferChecked plan =>
      rw [readTransfer_json]
      simp only [bind_eq_ok, readRequiredString_eq_ok, readAtomicAmount_eq_ok,
        readNonNegativeInteger_eq_ok hwhole hsafe, pure_eq_ok, LegibleInstruction,
        List.forall_mem_cons]
      constructor
      · intro h
        obtain ⟨_, ⟨hprogram, rfl⟩, _, ⟨hsource, rfl⟩, _, ⟨hmint, rfl⟩, _, ⟨hdestination, rfl⟩, _,
          ⟨hauthority, rfl⟩, _, ⟨⟨hamount, hnumeral⟩, rfl⟩, _, rfl, _, ⟨hid, rfl⟩, rfl⟩ := h
        exact ⟨⟨⟨hprogram, hsource, hmint, hdestination, hauthority, hamount, hid, by simp⟩, hnumeral⟩,
          rfl⟩
      · intro h
        obtain ⟨⟨⟨hprogram, hsource, hmint, hdestination, hauthority, hamount, hid, _⟩, hnumeral⟩,
          hread⟩ := h
        exact ⟨_, ⟨hprogram, rfl⟩, _, ⟨hsource, rfl⟩, _, ⟨hmint, rfl⟩, _, ⟨hdestination, rfl⟩, _,
          ⟨hauthority, rfl⟩, _, ⟨⟨hamount, hnumeral⟩, rfl⟩, _, rfl, _, ⟨hid, rfl⟩, hread.symm⟩

/-! ## Lists -/

/-- A list is read when each of its entries is. -/
theorem mapM_read_eq_ok {α β : Type} {write : α → RpcJson ν} {read : RpcJson ν → Except SignerError β}
    {P : α → Prop} {g : α → β} {xs : List α} {ys : List β}
    (h : ∀ x ∈ xs, ∀ y, read (write x) = .ok y ↔ P x ∧ y = g x) :
    (xs.map write).mapM read = .ok ys ↔ (∀ x ∈ xs, P x) ∧ ys = xs.map g := by
  rw [mapM_eq_ok_iff, List.forall₂_map_left_iff]
  induction xs generalizing ys with
  | nil =>
      rw [List.forall₂_nil_left_iff]
      simp
  | cons x xs ih =>
      rw [List.forall₂_cons_left_iff]
      have hrest := fun ys => @ih ys fun x' hx' => h x' (List.mem_cons_of_mem x hx')
      constructor
      · intro ⟨y, ys', hy, hys, hsame⟩
        obtain ⟨hx, rfl⟩ := (h x List.mem_cons_self y).mp hy
        obtain ⟨hxs, rfl⟩ := (hrest ys').mp hys
        exact ⟨List.forall_mem_cons.mpr ⟨hx, hxs⟩, hsame⟩
      · intro ⟨hall, hsame⟩
        obtain ⟨hx, hxs⟩ := List.forall_mem_cons.mp hall
        exact ⟨g x, xs.map g, (h x List.mem_cons_self _).mpr ⟨hx, rfl⟩, (hrest _).mpr ⟨hxs, rfl⟩, hsame⟩

/-! ## Transactions and policies -/

def trimmedTransaction (transaction : RemotePlannedTransaction ν) : RemotePlannedTransaction ν where
  index := transaction.index
  items := transaction.items.map trimmedItem
  instructions := transaction.instructions.map trimmedInstruction

structure LegibleTransaction (numbers : RpcNumbers ν) (transaction : RemotePlannedTransaction ν) :
    Prop where
  index : (numbers.toInteger transaction.index).isSome = true
  items : ∀ item ∈ transaction.items, LegibleItem item
  instructions : ∀ instruction ∈ transaction.instructions, LegibleInstruction instruction

theorem readPlannedTransaction_json (transaction : RemotePlannedTransaction ν) :
    readPlannedTransaction numbers
        (some (RemoteSigner.plannedTransactionJson runtime transaction)) = (do
      let index ← readInteger numbers (some (.number transaction.index)) "plannedTransaction.index"
      let items ← (transaction.items.map RemoteSigner.plannedItemJson : List (RpcJson ν)).mapM
        readPlannedItem
      let instructions ← (transaction.instructions.map (RemoteSigner.instructionJson runtime)).mapM
        (readInstruction numbers)
      pure ⟨index, items, instructions⟩) := rfl

theorem readPlannedTransaction_eq_ok (hwhole : ReadsWhole runtime numbers)
    {transaction read : RemotePlannedTransaction ν}
    (hsafe : ∀ instruction ∈ transaction.instructions, SafeDecimals instruction) :
    readPlannedTransaction numbers
        (some (RemoteSigner.plannedTransactionJson runtime transaction)) = .ok read ↔
      LegibleTransaction numbers transaction ∧ read = trimmedTransaction transaction := by
  have hitems := fun ys => @mapM_read_eq_ok ν _ _ RemoteSigner.plannedItemJson readPlannedItem
    LegibleItem trimmedItem transaction.items ys fun _ _ _ => readPlannedItem_eq_ok
  have hinstructions := fun ys => @mapM_read_eq_ok ν _ _ (RemoteSigner.instructionJson runtime)
    (readInstruction numbers) LegibleInstruction trimmedInstruction transaction.instructions ys
    fun instruction hinstruction _ => readInstruction_eq_ok hwhole (hsafe instruction hinstruction)
  rw [readPlannedTransaction_json]
  simp only [bind_eq_ok, readInteger_eq_ok, hitems, hinstructions, pure_eq_ok]
  constructor
  · intro h
    obtain ⟨_, ⟨hindex, rfl⟩, _, ⟨hitems, rfl⟩, _, ⟨hinstructions, rfl⟩, rfl⟩ := h
    exact ⟨⟨hindex, hitems, hinstructions⟩, rfl⟩
  · intro h
    obtain ⟨hlegible, hread⟩ := h
    exact ⟨_, ⟨hlegible.index, rfl⟩, _, ⟨hlegible.items, rfl⟩, _, ⟨hlegible.instructions, rfl⟩,
      hread.symm⟩

def trimmedPolicy (policy : SolanaPayoutSignerPolicy) : SolanaPayoutSignerPolicy where
  network := jsTrim policy.network
  signerReference := jsTrim policy.signerReference
  fundingWallet := jsTrim policy.fundingWallet
  sourceTokenAccount := jsTrim policy.sourceTokenAccount
  mint := jsTrim policy.mint
  allowedTokenProgramIds := policy.allowedTokenProgramIds.map (List.map jsTrim)
  maxTransactionAmountAtomic := policy.maxTransactionAmountAtomic.map jsTrim
  maxBatchAmountAtomic := policy.maxBatchAmountAtomic.map jsTrim
  requireSuccessfulSimulation := policy.requireSuccessfulSimulation
  expectedDestinationAmountListHash := policy.expectedDestinationAmountListHash.map jsTrim

/-- A string that is read as a numeral. -/
def LegibleAmount (s : String) : Prop := isBlank s = false ∧ decimalAmountRegex (jsTrim s) = true

/-- A string that is read as a hash. -/
def LegibleHash (s : String) : Prop := isBlank s = false ∧ sha256Regex (jsTrim s) = true

structure LegiblePolicy (policy : SolanaPayoutSignerPolicy) : Prop where
  texts : ∀ s ∈ [policy.network, policy.signerReference, policy.fundingWallet,
    policy.sourceTokenAccount, policy.mint], isBlank s = false
  programs : ∀ ids ∈ policy.allowedTokenProgramIds, ∀ id ∈ ids, isBlank id = false
  maxTransactionAmount : ∀ s ∈ policy.maxTransactionAmountAtomic, LegibleAmount s
  maxBatchAmount : ∀ s ∈ policy.maxBatchAmountAtomic, LegibleAmount s
  expectedHash : ∀ s ∈ policy.expectedDestinationAmountListHash, LegibleHash s

theorem readSignerPolicy_json (policy : SolanaPayoutSignerPolicy) :
    readSignerPolicy (some (RemoteSigner.policyJson policy : RpcJson ν)) = (do
      let network ← readRequiredString (some (.string policy.network : RpcJson ν)) "policy.network"
      let signerReference ← readRequiredString (some (.string policy.signerReference : RpcJson ν))
        "policy.signerReference"
      let fundingWallet ← readRequiredString (some (.string policy.fundingWallet : RpcJson ν))
        "policy.fundingWallet"
      let sourceTokenAccount ← readRequiredString
        (some (.string policy.sourceTokenAccount : RpcJson ν)) "policy.sourceTokenAccount"
      let mint ← readRequiredString (some (.string policy.mint : RpcJson ν)) "policy.mint"
      let allowedTokenProgramIds ← readOptional (policy.allowedTokenProgramIds.map fun ids =>
        (.array (ids.map RpcJson.string) : RpcJson ν)) readTokenProgramIds
      let maxTransactionAmountAtomic ← readOptional
        (policy.maxTransactionAmountAtomic.map (RpcJson.string : String → RpcJson ν))
        (readAtomicAmount · "policy.maxTransactionAmountAtomic")
      let maxBatchAmountAtomic ← readOptional
        (policy.maxBatchAmountAtomic.map (RpcJson.string : String → RpcJson ν))
        (readAtomicAmount · "policy.maxBatchAmountAtomic")
      let requireSuccessfulSimulation ← readOptional
        (policy.requireSuccessfulSimulation.map (RpcJson.bool : Bool → RpcJson ν))
        (readBoolean · "policy.requireSuccessfulSimulation")
      let expectedDestinationAmountListHash ← readOptional
        (policy.expectedDestinationAmountListHash.map (RpcJson.string : String → RpcJson ν))
        (readHash · "policy.expectedDestinationAmountListHash")
      pure ⟨network, signerReference, fundingWallet, sourceTokenAccount, mint,
        allowedTokenProgramIds, maxTransactionAmountAtomic, maxBatchAmountAtomic,
        requireSuccessfulSimulation, expectedDestinationAmountListHash⟩) := by
  have hnames : ["network", "signerReference", "fundingWallet", "sourceTokenAccount", "mint",
    "allowedTokenProgramIds", "maxTransactionAmountAtomic", "maxBatchAmountAtomic",
    "requireSuccessfulSimulation", "expectedDestinationAmountListHash"].Nodup := by decide
  have hlookup := @lookup_record ν (RemoteSigner.policyFields policy) hnames
  unfold readSignerPolicy RemoteSigner.policyJson
  show (pure _ >>= _) = _
  rw [pure_bind]
  simp only [hlookup]
  rfl

theorem readTokenProgramIds_eq_ok {ids read : List String} :
    readTokenProgramIds (some (.array (ids.map RpcJson.string) : RpcJson ν)) = .ok read ↔
      (∀ id ∈ ids, isBlank id = false) ∧ read = ids.map jsTrim := by
  have h := @mapM_read_eq_ok ν String String RpcJson.string
    (fun id => readRequiredString (some id) "allowedTokenProgramId") (isBlank · = false) jsTrim ids read
    fun _ _ _ => readRequiredString_eq_ok
  exact h

theorem readSignerPolicy_eq_ok {policy read : SolanaPayoutSignerPolicy} :
    readSignerPolicy (some (RemoteSigner.policyJson policy : RpcJson ν)) = .ok read ↔
      LegiblePolicy policy ∧ read = trimmedPolicy policy := by
  have hprograms := fun read => @readOptional_eq_ok ν (List String) (List String)
    (fun ids => .array (ids.map RpcJson.string)) (List.map jsTrim)
    (fun ids => ∀ id ∈ ids, isBlank id = false) readTokenProgramIds policy.allowedTokenProgramIds read
    fun _ _ => readTokenProgramIds_eq_ok
  have hamount := fun (value : Option String) label read => @readOptional_eq_ok ν String String
    RpcJson.string jsTrim LegibleAmount (readAtomicAmount · label) value read
    fun _ _ => readAtomicAmount_eq_ok
  have hhash := fun (value : Option String) label read => @readOptional_eq_ok ν String String
    RpcJson.string jsTrim LegibleHash (readHash · label) value read fun _ _ => readHash_eq_ok
  have hbool := fun (value : Option Bool) label read => @readOptional_eq_ok ν Bool Bool
    RpcJson.bool id (fun _ => True) (readBoolean · label) value read
    fun _ _ => by simp [readBoolean_eq_ok]
  rw [readSignerPolicy_json]
  simp only [bind_eq_ok, readRequiredString_eq_ok, hprograms, hamount, hhash, hbool, Option.map_id,
    id_eq, pure_eq_ok]
  constructor
  · intro h
    obtain ⟨_, ⟨hnetwork, rfl⟩, _, ⟨hreference, rfl⟩, _, ⟨hwallet, rfl⟩, _, ⟨hsource, rfl⟩, _,
      ⟨hmint, rfl⟩, _, ⟨hids, rfl⟩, _, ⟨hmax, rfl⟩, _, ⟨hbatch, rfl⟩, _, ⟨-, rfl⟩, _,
      ⟨hexpected, rfl⟩, rfl⟩ := h
    exact ⟨⟨by simp [hnetwork, hreference, hwallet, hsource, hmint], hids, hmax, hbatch, hexpected⟩, rfl⟩
  · intro h
    obtain ⟨hlegible, hread⟩ := h
    obtain ⟨htexts, hids, hmax, hbatch, hexpected⟩ := hlegible
    simp only [List.forall_mem_cons] at htexts
    obtain ⟨hnetwork, hreference, hwallet, hsource, hmint, -⟩ := htexts
    exact ⟨_, ⟨hnetwork, rfl⟩, _, ⟨hreference, rfl⟩, _, ⟨hwallet, rfl⟩, _, ⟨hsource, rfl⟩, _,
      ⟨hmint, rfl⟩, _, ⟨hids, rfl⟩, _, ⟨hmax, rfl⟩, _, ⟨hbatch, rfl⟩, _, ⟨fun _ _ => trivial, rfl⟩, _,
      ⟨hexpected, rfl⟩, hread.symm⟩

/-! ## Requests -/

def trimmedRequest (request : RemotePayoutSignRequest ν) : RemotePayoutSignRequest ν where
  batchId := jsTrim request.batchId
  network := jsTrim request.network
  signerReference := jsTrim request.signerReference
  destinationAmountListHash := jsTrim request.destinationAmountListHash
  transactionIndex := request.transactionIndex
  amountAtomic := jsTrim request.amountAtomic
  transactionBase64 := jsTrim request.transactionBase64
  plannedTransaction := trimmedTransaction request.plannedTransaction
  policy := trimmedPolicy request.policy

/-- The request can be read. -/
structure LegibleRequest (numbers : RpcNumbers ν) (request : RemotePayoutSignRequest ν) : Prop where
  texts : ∀ s ∈ [request.batchId, request.network, request.signerReference], isBlank s = false
  hash : LegibleHash request.destinationAmountListHash
  index : (numbers.toInteger request.transactionIndex).isSome = true
  amount : LegibleAmount request.amountAtomic
  bytes : isBlank request.transactionBase64 = false ∧ IsBase64Text (jsTrim request.transactionBase64)
  transaction : LegibleTransaction numbers request.plannedTransaction
  policy : LegiblePolicy request.policy

theorem readRequest_json (request : RemotePayoutSignRequest ν) :
    readRemotePayoutSignRequest numbers (RemoteSigner.requestJson runtime request) = (do
      let schema ← readRequiredString
        (some (.string REMOTE_PAYOUT_SIGN_REQUEST_SCHEMA : RpcJson ν)) "schema"
      ensure (schema = REMOTE_PAYOUT_SIGN_REQUEST_SCHEMA) (.invalidRequest "unsupported schema")
      let batchId ← readRequiredString (some (.string request.batchId : RpcJson ν)) "batchId"
      let network ← readRequiredString (some (.string request.network : RpcJson ν)) "network"
      let signerReference ← readRequiredString (some (.string request.signerReference : RpcJson ν))
        "signerReference"
      let destinationAmountListHash ← readHash
        (some (.string request.destinationAmountListHash : RpcJson ν)) "destinationAmountListHash"
      let transactionIndex ← readInteger numbers (some (.number request.transactionIndex))
        "transactionIndex"
      let amountAtomic ← readAtomicAmount (some (.string request.amountAtomic : RpcJson ν))
        "amountAtomic"
      let transactionBase64 ← readBase64String
        (some (.string request.transactionBase64 : RpcJson ν)) "transactionBase64"
      let plannedTransaction ← readPlannedTransaction numbers
        (some (RemoteSigner.plannedTransactionJson runtime request.plannedTransaction))
      let policy ← readSignerPolicy (some (RemoteSigner.policyJson request.policy : RpcJson ν))
      pure ⟨batchId, network, signerReference, destinationAmountListHash, transactionIndex,
        amountAtomic, transactionBase64, plannedTransaction, policy⟩) := rfl

/-- **A request is read with its strings trimmed**, if all of it is legible. -/
theorem readRequest_eq_ok (hwhole : ReadsWhole runtime numbers)
    {request read : RemotePayoutSignRequest ν}
    (hsafe : ∀ instruction ∈ request.plannedTransaction.instructions, SafeDecimals instruction) :
    readRemotePayoutSignRequest numbers (RemoteSigner.requestJson runtime request) = .ok read ↔
      LegibleRequest numbers request ∧ read = trimmedRequest request := by
  have hschema : isBlank REMOTE_PAYOUT_SIGN_REQUEST_SCHEMA = false ∧
      jsTrim REMOTE_PAYOUT_SIGN_REQUEST_SCHEMA = REMOTE_PAYOUT_SIGN_REQUEST_SCHEMA :=
    ⟨by decide, by decide⟩
  rw [readRequest_json]
  simp only [bind_eq_ok, readRequiredString_eq_ok, ensure_eq_ok, readHash_eq_ok, readInteger_eq_ok,
    readAtomicAmount_eq_ok, readBase64String_eq_ok, readPlannedTransaction_eq_ok hwhole hsafe,
    readSignerPolicy_eq_ok, pure_eq_ok]
  constructor
  · intro h
    obtain ⟨_, ⟨-, rfl⟩, _, -, _, ⟨hbatch, rfl⟩, _, ⟨hnetwork, rfl⟩, _, ⟨hreference, rfl⟩, _,
      ⟨hhash, rfl⟩, _, ⟨hindex, rfl⟩, _, ⟨hamount, rfl⟩, _, ⟨hbytes, rfl⟩, _, ⟨htransaction, rfl⟩, _,
      ⟨hpolicy, rfl⟩, rfl⟩ := h
    exact ⟨⟨by simp [hbatch, hnetwork, hreference], hhash, hindex, hamount, hbytes, htransaction,
      hpolicy⟩, rfl⟩
  · intro h
    obtain ⟨hlegible, hread⟩ := h
    obtain ⟨htexts, hhash, hindex, hamount, hbytes, htransaction, hpolicy⟩ := hlegible
    simp only [List.forall_mem_cons] at htexts
    obtain ⟨hbatch, hnetwork, hreference, -⟩ := htexts
    exact ⟨_, ⟨hschema.1, rfl⟩, (), decide_eq_true hschema.2, _, ⟨hbatch, rfl⟩, _, ⟨hnetwork, rfl⟩, _,
      ⟨hreference, rfl⟩, _, ⟨hhash, rfl⟩, _, ⟨hindex, rfl⟩, _, ⟨hamount, rfl⟩, _, ⟨hbytes, rfl⟩, _,
      ⟨htransaction, rfl⟩, _, ⟨hpolicy, rfl⟩, hread.symm⟩

end Numbers

end PayoutSignerApp

end Split402
