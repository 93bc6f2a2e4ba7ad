import Split402.Base.Cost
import Split402.Proof.ReceiptHash
import Split402.Router.Execution

/-! # The budget of an execution

A quote keeps the providers whose price is within the budget, each by itself. An execution may pay
one after the other: an executor that has paid and then fails, or brings no receipt, is followed by
the next provider. So what an execution can spend is the sum of the prices of its quote. -/

namespace Split402

open Base (Async)
open Base.Async (Costs CostsAtMost)

variable {ν : Type}

/-- What an operation may pay: the executor the price of its provider, the recorder nothing. -/
def RouterOp.price : RouterOp ν → Nat
  | .execute input => (readProviderAtomicAmount input.provider).getD 0
  | .record _ => 0

/-- The sum of the prices of the providers that an execution of the quote may try. -/
def Split402RouterQuoteResult.totalPrice (quote : Split402RouterQuoteResult ν) : Nat :=
  (quote.rankedProviders.map (fun ranked => (readProviderAtomicAmount ranked.provider).getD 0)).sum

namespace Split402Router

variable (runtime : RouterRuntime ν) (router : Split402Router ν)

/-- An executor that never pays more than the price of its provider may have paid so much in one
execution, when it is over or as far as it has come. -/
def Spends (input : Split402RouterExecuteInput ν) (paid : Nat) : Prop :=
  Costs RouterOp.price (router.execute runtime input) paid

/-- No execution with the input spends more than its budget. -/
def KeepsBudget (input : Split402RouterExecuteInput ν) : Prop :=
  ∀ paid budget, router.Spends runtime input paid →
    parseAtomicAmount input.budget.maxAmountAtomic = some budget → paid ≤ budget

/-- The providers of the quote cost more than the budget in sum. -/
def Overcommits (input : Split402RouterExecuteInput ν) : Prop :=
  ∃ quote budget, quoteExecution runtime router.providers input = .ok quote ∧
    parseAtomicAmount input.budget.maxAmountAtomic = some budget ∧ budget < quote.totalPrice

variable {runtime router} {input : Split402RouterExecuteInput ν}
  {provider : Split402CapabilityProvider ν}

/-! ## What an execution can cost -/

theorem recordProviderReceipt_costs (receipt : Split402ReceiptV1)
    (referralClaim : Option ReferralClaimV1) :
    CostsAtMost RouterOp.price (router.recordProviderReceipt provider receipt referralClaim) 0 := by
  unfold recordProviderReceipt
  split
  · exact .done _
  · refine CostsAtMost.tryCatch (n := 0) (.call _) fun error => ?_
    exact CostsAtMost.bind (m := 0) (n := 0) (.done _) fun message => .done _

/-- An attempt pays its provider once. -/
theorem attempt_costs : CostsAtMost RouterOp.price (router.attempt runtime input provider)
    ((readProviderAtomicAmount provider).getD 0) := by
  unfold attempt
  refine CostsAtMost.bind (n := 0) (.call _) fun result => ?_
  refine CostsAtMost.bind (n := 0) (.done _) fun receipt => ?_
  refine CostsAtMost.bind (n := 0) (recordProviderReceipt_costs receipt _) fun recording => ?_
  exact CostsAtMost.bind (n := 0) (.done _) fun _ => .done _

/-- Every provider is paid at most once. -/
theorem tryProviders_costs (providers : List (Split402CapabilityProvider ν))
    (attempts : List Split402RouterAttempt) :
    CostsAtMost RouterOp.price (router.tryProviders runtime input attempts providers)
      (providers.map (fun provider => (readProviderAtomicAmount provider).getD 0)).sum := by
  induction providers generalizing attempts with
  | nil => exact .done _
  | cons provider rest ih =>
      rw [List.map_cons, List.sum_cons, tryProviders]
      have hattempt : CostsAtMost RouterOp.price
          (tryCatch (Except.ok <$> router.attempt runtime input provider)
            (fun error => pure (.error error)))
          ((readProviderAtomicAmount provider).getD 0 + 0) :=
        CostsAtMost.tryCatch (CostsAtMost.map attempt_costs) fun error => .done _
      refine CostsAtMost.bind hattempt fun outcome => ?_
      cases outcome with
      | ok result =>
          intro cost hcost
          have hzero := CostsAtMost.done _ cost hcost
          omega
      | error error =>
          dsimp only
          split
          · intro cost hcost
            have hzero := CostsAtMost.done _ cost hcost
            omega
          · split
            · exact ih _
            · intro cost hcost
              have hzero := CostsAtMost.done _ cost hcost
              omega

/-! ## An execution that costs all it can -/

/-- An executor that pays and then throws an error to retry after is followed by the next
provider. -/
theorem tryProviders_failed {rest : List (Split402CapabilityProvider ν)}
    {attempts : List Split402RouterAttempt} {error : RouterThrown} {message : String} {cost : Nat}
    (hmessage : error.errorMessage = .ok message) (herror : isRetryableProviderError error = true)
    (hrest : Costs RouterOp.price (router.tryProviders runtime input
      (attempts ++ [failedAttempt provider error message]) rest) cost) :
    Costs RouterOp.price (router.tryProviders runtime input attempts (provider :: rest))
      ((readProviderAtomicAmount provider).getD 0 + cost) := by
  refine Costs.await (.error error) (Nat.le_refl _) ?_
  dsimp only [Async.bind, Async.tryCatch, Async.pure_eq, Bind.bind]
  rw [hmessage]
  dsimp only
  rw [if_pos herror]
  exact hrest

/-- Executors that pay and then fail make every provider be paid. -/
theorem tryProviders_spends_all (providers : List (Split402CapabilityProvider ν))
    (attempts : List Split402RouterAttempt) :
    Costs RouterOp.price (router.tryProviders runtime input attempts providers)
      (providers.map (fun provider => (readProviderAtomicAmount provider).getD 0)).sum := by
  induction providers generalizing attempts with
  | nil => exact .stop _
  | cons provider rest ih =>
      rw [List.map_cons, List.sum_cons]
      have hretry : isRetryableProviderError (.ofMessage "socket hang up") = true := rfl
      exact tryProviders_failed rfl hretry (ih _)

/-! ## The budget -/

theorem totalPrice_eq (quote : Split402RouterQuoteResult ν) :
    quote.totalPrice = ((quote.rankedProviders.map (·.provider)).map
      (fun provider => (readProviderAtomicAmount provider).getD 0)).sum := by
  rw [List.map_map]
  rfl

/-- An execution spends at most what its quote costs. -/
theorem spends_le {quote : Split402RouterQuoteResult ν} {paid : Nat}
    (hquote : quoteExecution runtime router.providers input = .ok quote)
    (h : router.Spends runtime input paid) : paid ≤ quote.totalPrice := by
  unfold Spends execute at h
  rw [hquote] at h
  rw [totalPrice_eq]
  exact tryProviders_costs _ [] paid h

/-- An execution can spend all that its quote costs. -/
theorem spends_totalPrice {quote : Split402RouterQuoteResult ν}
    (hquote : quoteExecution runtime router.providers input = .ok quote) :
    router.Spends runtime input quote.totalPrice := by
  unfold Spends execute
  rw [hquote, totalPrice_eq]
  exact tryProviders_spends_all _ []

/-- An execution without a quote spends nothing. -/
theorem spends_eq_zero {error : QuoteError} {paid : Nat}
    (hquote : quoteExecution runtime router.providers input = .error error)
    (h : router.Spends runtime input paid) : paid = 0 := by
  unfold Spends execute at h
  rw [hquote] at h
  cases error with
  | router error => exact Nat.le_zero.mp (CostsAtMost.done _ paid h)
  | other message => exact Nat.le_zero.mp (CostsAtMost.done _ paid h)

theorem not_keepsBudget_of_overcommits (h : router.Overcommits runtime input) :
    ¬ router.KeepsBudget runtime input := by
  obtain ⟨quote, budget, hquote, hbudget, hover⟩ := h
  intro hkeeps
  have hspent := hkeeps _ budget (spends_totalPrice hquote) hbudget
  omega

/-- **An execution keeps its budget exactly when all the providers of its quote together do.** -/
theorem keepsBudget_iff : router.KeepsBudget runtime input ↔ ¬ router.Overcommits runtime input := by
  constructor
  · intro hkeeps hover
    exact not_keepsBudget_of_overcommits hover hkeeps
  · intro hnot paid budget hpaid hbudget
    cases hquote : quoteExecution runtime router.providers input with
    | error error =>
        have hzero := spends_eq_zero hquote hpaid
        omega
    | ok quote =>
        have hmost := spends_le hquote hpaid
        by_contra hover
        exact hnot ⟨quote, budget, hquote, hbudget, by omega⟩

/-! ## Two providers -/

end Split402Router

namespace Sample

def routerRuntime : RouterRuntime Whole where
  toRuntime := saleRuntime
  host := isoHost
  zod := zod
  receiptIssues _ := []
  validateJsonSchemaValue _ _ _ := .ok []

def translator (providerId : String) : Split402CapabilityProvider Whole where
  providerId := providerId
  capability := "translate"
  routeId := none
  merchantOrigin := "https://" ++ providerId ++ ".example"
  path := "/translate"
  method := .POST
  operationId := "translate"
  campaignId := "cmp_translate"
  referralClaim := none
  merchantPublicKey := some merchantPublicKey
  network := "solana:devnet"
  asset := wallet
  payToWallet := wallet
  amountAtomic := "10"
  reliability := none
  metadata := none

def router : Split402Router Whole := ⟨[translator "first", translator "second"], true, false⟩

def translation : Split402RouterExecuteInput Whole where
  capability := "translate"
  input := .string []
  budget := ⟨"solana:devnet", wallet, "15"⟩
  referralClaim := none
  maxAttempts := none

end Sample

/-- The budget is 15 and each of the two providers takes 10. -/
theorem not_keepsBudget_twoProviders : ¬ ∀ (runtime : RouterRuntime Whole)
    (router : Split402Router Whole) (input : Split402RouterExecuteInput Whole),
    router.KeepsBudget runtime input := by
  intro h
  refine Split402Router.not_keepsBudget_of_overcommits ?_
    (h Sample.routerRuntime Sample.router Sample.translation)
  have htotal : (quoteExecution Sample.routerRuntime Sample.router.providers
      Sample.translation).toOption.map (·.totalPrice) = some 20 := by
    decide +kernel
  cases hquote : quoteExecution Sample.routerRuntime Sample.router.providers Sample.translation with
  | error error =>
      rw [hquote] at htotal
      cases htotal
  | ok quote =>
      rw [hquote] at htotal
      have hprice : quote.totalPrice = 20 := Option.some.inj htotal
      refine ⟨quote, 15, hquote, by decide, ?_⟩
      omega

end Split402
