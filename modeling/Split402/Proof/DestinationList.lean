import Split402.Proof.ReceiptHash
import Split402.Proof.SignerChecks

/-! # The list of destinations

The control plane hashes the destinations of a whole plan, the appliance those of the one transaction
it is asked to sign. The two lists are JSON, so equal hashes mean equal lists: the same batch, as many
transactions, and in each the same items. -/

namespace Split402

open Base Base.Utf16

variable {ν : Type} {runtime : Runtime ν}

/-- The list of a plan. -/
def SolanaPayoutTransactionPlan.destinationAmountList (runtime : Runtime ν)
    (plan : SolanaPayoutTransactionPlan) : DestinationAmountList ν where
  batchId := plan.batchId
  network := plan.network
  asset := plan.asset
  tokenProgramId := plan.tokenProgramId
  sourceTokenAccount := plan.sourceTokenAccount
  transactions := plan.transactions.map fun transaction =>
    (runtime.ofNat transaction.index, transaction.items)

namespace DestinationAmountList

/-- The indexes of the list are finite numbers. -/
def Finite (runtime : Runtime ν) (list : DestinationAmountList ν) : Prop :=
  ∀ transaction ∈ list.transactions, runtime.numbers.isFinite transaction.1 = true

def toJson (list : DestinationAmountList ν) : JsValue ν :=
  PayoutSignerApp.destinationAmountListJson list

/-- The canonical bytes of a list. -/
def bytes (runtime : Runtime ν) (list : DestinationAmountList ν) : ByteArray :=
  utf8Bytes (list.toJson.canon runtime.numbers).print

/-- The bytes of a plan depend on how the engine has numbers. -/
theorem bytes_plan_eq {r s : Runtime ν} (hnumbers : r.numbers = s.numbers) (hofNat : r.ofNat = s.ofNat)
    (plan : SolanaPayoutTransactionPlan) :
    (plan.destinationAmountList r).bytes r = (plan.destinationAmountList s).bytes s := by
  rw [bytes, bytes, SolanaPayoutTransactionPlan.destinationAmountList,
    SolanaPayoutTransactionPlan.destinationAmountList, hnumbers, hofNat]

theorem isJson_item (item : SolanaPayoutPlannedItem) :
    IsJson runtime.numbers (plannedItemJson item) := by
  have hnames : ["payoutItemId", "destinationWallet", "destinationTokenAccount",
    "amountAtomic"].Nodup := by decide
  refine .object (nodup_ofString hnames) ?_
  intro field hfield _
  simp only [List.mem_cons, List.not_mem_nil, or_false] at hfield
  rcases hfield with rfl | rfl | rfl | rfl <;> exact isJson_stringField _ _

theorem isJson_toJson {list : DestinationAmountList ν} (hfinite : list.Finite runtime) :
    IsJson runtime.numbers list.toJson := by
  have hnames : ["schema", "batchId", "network", "asset", "tokenProgramId", "sourceTokenAccount",
    "transactions"].Nodup := by decide
  refine .object (nodup_ofString hnames) ?_
  intro field hfield _
  simp only [List.mem_cons, List.not_mem_nil, or_false] at hfield
  rcases hfield with rfl | rfl | rfl | rfl | rfl | rfl | rfl
  · exact isJson_stringField _ _
  · exact isJson_stringField _ _
  · exact isJson_stringField _ _
  · exact isJson_stringField _ _
  · exact isJson_stringField _ _
  · exact isJson_stringField _ _
  · refine .array ?_
    intro value hvalue
    obtain ⟨transaction, htransaction, rfl⟩ := List.mem_map.mp hvalue
    have hnames : ["index", "items"].Nodup := by decide
    refine .object (nodup_ofString hnames) ?_
    intro field hfield _
    simp only [List.mem_cons, List.not_mem_nil, or_false] at hfield
    rcases hfield with rfl | rfl
    · exact .number (hfinite transaction htransaction)
    · refine .array ?_
      intro item hitem
      obtain ⟨planned, -, rfl⟩ := List.mem_map.mp hitem
      exact isJson_item planned

theorem hash_eq (hstd : runtime.Standard) {list : DestinationAmountList ν}
    (hfinite : list.Finite runtime) :
    hashProtocolObject runtime.numbers runtime.sha256Hex list.toJson =
      .ok ("sha256:" ++ runtime.sha256Hex (list.bytes runtime)) := by
  rw [hashProtocolObject, canonicalizeToBytes_eq hstd.numbers (isJson_toJson hfinite)]
  rfl

theorem finite_of_plan (hstd : runtime.Standard) (plan : SolanaPayoutTransactionPlan) :
    (plan.destinationAmountList runtime).Finite runtime := by
  intro transaction htransaction
  obtain ⟨planned, -, rfl⟩ := List.mem_map.mp htransaction
  exact hstd.finite planned.index

theorem hashOfPlan_eq (hstd : runtime.Standard) (plan : SolanaPayoutTransactionPlan) :
    hashSolanaPayoutDestinationAmountList runtime plan =
      .ok ("sha256:" ++ runtime.sha256Hex ((plan.destinationAmountList runtime).bytes runtime)) := by
  rw [← hash_eq hstd (finite_of_plan hstd plan)]
  unfold hashSolanaPayoutDestinationAmountList toJson PayoutSignerApp.destinationAmountListJson
    SolanaPayoutTransactionPlan.destinationAmountList
  rw [List.map_map]
  rfl

/-! ## Equal lists -/

/-- Equal objects have equal values under one key. -/
theorem value_eq_of_jsonEq {numbers : JsNumbers ν} {p q : Bool} {fs gs : List (Text × JsValue ν)}
    (h : JsonEq numbers (.object p fs) (.object q gs)) {key : Text} {v w : JsValue ν}
    (hv : (key, v) ∈ fs) (hw : (key, w) ∈ gs) (hv' : v ≠ .undefined) (hw' : w ≠ .undefined) :
    JsonEq numbers v w := by
  cases h with
  | object _ hvalues =>
      exact hvalues key v w (mem_definedFields.mpr ⟨hv, hv'⟩) (mem_definedFields.mpr ⟨hw, hw'⟩)

theorem forall₂_of_jsonEq {numbers : JsNumbers ν} {xs ys : List (JsValue ν)}
    (h : JsonEq numbers (.array xs) (.array ys)) : List.Forall₂ (JsonEq numbers) xs ys := by
  cases h with
  | array h => exact h

/-- Two lists agree on the batch, and on the items of each transaction by their ids. -/
structure Agrees (a b : DestinationAmountList ν) : Prop where
  batchId : a.batchId = b.batchId
  items : List.Forall₂ (fun s t : ν × List SolanaPayoutPlannedItem =>
    s.2.map (·.payoutItemId) = t.2.map (·.payoutItemId)) a.transactions b.transactions

theorem itemIds_eq {numbers : JsNumbers ν} {xs ys : List SolanaPayoutPlannedItem}
    (h : List.Forall₂ (JsonEq numbers) (xs.map plannedItemJson) (ys.map plannedItemJson)) :
    xs.map (·.payoutItemId) = ys.map (·.payoutItemId) := by
  rw [List.forall₂_map_left_iff, List.forall₂_map_right_iff] at h
  induction h with
  | nil => rfl
  | cons hhead _ ih =>
      have hid := string_eq_of_jsonEq hhead List.mem_cons_self List.mem_cons_self
      rw [List.map_cons, List.map_cons, hid, ih]

theorem agrees_of_jsonEq {numbers : JsNumbers ν} {a b : DestinationAmountList ν}
    (h : JsonEq numbers a.toJson b.toJson) : Agrees a b := by
  constructor
  · exact string_eq_of_jsonEq h (List.mem_of_getElem? (i := 1) rfl) (List.mem_of_getElem? (i := 1) rfl)
  · have htransactions := forall₂_of_jsonEq (value_eq_of_jsonEq h (List.mem_of_getElem? (i := 6) rfl)
      (List.mem_of_getElem? (i := 6) rfl) nofun nofun)
    rw [List.forall₂_map_left_iff, List.forall₂_map_right_iff] at htransactions
    refine htransactions.imp fun s t hst => ?_
    exact itemIds_eq (forall₂_of_jsonEq (value_eq_of_jsonEq hst (List.mem_of_getElem? (i := 1) rfl)
      (List.mem_of_getElem? (i := 1) rfl) nofun nofun))

/-- Lists with the same bytes agree. -/
theorem agrees_of_bytes_eq (hstd : runtime.Standard) {a b : DestinationAmountList ν}
    (ha : a.Finite runtime) (hb : b.Finite runtime) (h : a.bytes runtime = b.bytes runtime) :
    Agrees a b := by
  refine agrees_of_jsonEq ((canonicalizeToBytes_eq_iff hstd.numbers (isJson_toJson ha)
    (isJson_toJson hb)).mp ?_)
  rw [canonicalizeToBytes_eq hstd.numbers (isJson_toJson ha),
    canonicalizeToBytes_eq hstd.numbers (isJson_toJson hb)]
  exact congrArg Except.ok h

end DestinationAmountList

end Split402
