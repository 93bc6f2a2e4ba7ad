import Split402.Proof.PreviewOrder
import Split402.Proof.RouterDiscipline

/-! # The order of the provider list does not matter

The router ranks the providers that are left by their rate, price and latency, and last by their id,
so where the locale orders strings and tells the ids apart no two providers are ranked alike. Nothing
else of a quote reads the list but what the ranking makes of it. -/

namespace Split402

open Base

variable {ν : Type} {runtime : RouterRuntime ν} {providers providers' : List (Split402CapabilityProvider ν)}
  {input : Split402RouterExecuteInput ν}

/-! ## The comparator -/

/-- Amounts are ordered, before what is no amount, and that as the locale orders it. -/
theorem transCmp_compareAtomicAmount (hlocale : Std.TransCmp runtime.host.localeCompare) :
    Std.TransCmp (compareAtomicAmount runtime) where
  eq_swap {a b} := by
    unfold compareAtomicAmount
    cases parseAtomicAmount a with
    | none =>
        cases parseAtomicAmount b with
        | none =>
            show runtime.host.localeCompare a b = (runtime.host.localeCompare b a).swap
            exact Std.OrientedCmp.eq_swap
        | some right => rfl
    | some left =>
        cases parseAtomicAmount b with
        | none => rfl
        | some right =>
            show compare left right = (compare right left).swap
            exact Std.OrientedCmp.eq_swap
  isLE_trans {a b c} hab hbc := by
    unfold compareAtomicAmount at hab hbc ⊢
    cases ha : parseAtomicAmount a with
    | none =>
        cases hb : parseAtomicAmount b with
        | none =>
            cases hc : parseAtomicAmount c with
            | none =>
                simp only [ha, hb] at hab
                simp only [hb, hc] at hbc
                exact Std.TransCmp.isLE_trans hab hbc
            | some right =>
                rw [hb, hc] at hbc
                cases hbc
        | some middle =>
            rw [ha, hb] at hab
            cases hab
    | some left =>
        cases hc : parseAtomicAmount c with
        | none => rfl
        | some right =>
            cases hb : parseAtomicAmount b with
            | none =>
                rw [hb, hc] at hbc
                cases hbc
            | some middle =>
                simp only [ha, hb] at hab
                simp only [hb, hc] at hbc
                exact Std.TransCmp.isLE_trans hab hbc

theorem transCmp_compareProviders (hlocale : Std.TransCmp runtime.host.localeCompare) :
    Std.TransCmp (compareProviders runtime) := by
  have hreliability : Std.TransCmp fun left right : Split402CapabilityProvider ν =>
      compareOn readReliabilityBps right left := Std.TransCmp.opposite
  have hamount : Std.TransCmp fun left right : Split402CapabilityProvider ν =>
      compareAtomicAmount runtime left.amountAtomic right.amountAtomic :=
    have := transCmp_compareAtomicAmount hlocale
    { eq_swap := Std.OrientedCmp.eq_swap, isLE_trans := Std.TransCmp.isLE_trans }
  have hlatency : Std.TransCmp (compareOn (readMedianLatency (ν := ν))) := inferInstance
  have hid : Std.TransCmp fun left right : Split402CapabilityProvider ν =>
      runtime.host.localeCompare left.providerId right.providerId :=
    { eq_swap := Std.OrientedCmp.eq_swap, isLE_trans := Std.TransCmp.isLE_trans }
  exact inferInstanceAs (Std.TransCmp (compareLex
    (fun left right => compareOn readReliabilityBps right left)
    (compareLex (fun left right => compareAtomicAmount runtime left.amountAtomic right.amountAtomic)
      (compareLex (compareOn readMedianLatency)
        (fun left right => runtime.host.localeCompare left.providerId right.providerId)))))

theorem localeCompare_of_compareProviders {left right : Split402CapabilityProvider ν}
    (h : compareProviders runtime left right = .eq) :
    runtime.host.localeCompare left.providerId right.providerId = .eq := by
  rw [compareProviders, Ordering.then_eq_eq, Ordering.then_eq_eq, Ordering.then_eq_eq] at h
  exact h.2.2.2

/-- The locale tells the ids of the providers apart. -/
def TellsApart (runtime : RouterRuntime ν) (providers : List (Split402CapabilityProvider ν)) : Prop :=
  ∀ left ∈ providers, ∀ right ∈ providers,
    runtime.host.localeCompare left.providerId right.providerId = .eq →
      left.providerId = right.providerId

/-! ## The ranking -/

theorem rankProviders_perm (hlocale : Std.TransCmp runtime.host.localeCompare)
    (hapart : TellsApart runtime providers)
    (hids : (providers.map Split402CapabilityProvider.providerId).Nodup)
    (hperm : providers.Perm providers') :
    rankProviders runtime providers input = rankProviders runtime providers' input := by
  have htrans := transCmp_compareProviders hlocale
  unfold rankProviders
  cases assertQuoteInput input with
  | error error => rfl
  | ok _ =>
      cases hmax : readRouterAtomicAmount input.budget.maxAmountAtomic "budget.maxAmountAtomic" with
      | error error => rfl
      | ok maxAmount =>
          refine congrArg Except.ok ?_
          refine sortBy_perm_eq _ ((((hperm.filter _).filter _).filter _).filter _) ?_
          intro left hleft right hright heq
          have hleft : left ∈ providers := by
            simp only [List.mem_filter] at hleft
            exact hleft.1.1.1.1
          have hright : right ∈ providers := by
            simp only [List.mem_filter] at hright
            exact hright.1.1.1.1
          have hid := hapart left hleft right hright (localeCompare_of_compareProviders heq)
          exact List.inj_on_of_nodup_map hids hleft hright hid

theorem quoteExecution_perm (hlocale : Std.TransCmp runtime.host.localeCompare)
    (hapart : TellsApart runtime providers)
    (hids : (providers.map Split402CapabilityProvider.providerId).Nodup)
    (hperm : providers.Perm providers') :
    quoteExecution runtime providers input = quoteExecution runtime providers' input := by
  have havailable : ∀ available : Split402CapabilityProvider ν → Bool,
      (providers.filter available).isEmpty = (providers'.filter available).isEmpty := by
    intro available
    rw [Bool.eq_iff_iff, List.isEmpty_iff_length_eq_zero, List.isEmpty_iff_length_eq_zero,
      (hperm.filter available).length_eq]
  unfold quoteExecution
  rw [rankProviders_perm hlocale hapart hids hperm]
  simp only [havailable]

/-! ## The execution -/

namespace Split402Router

variable {router router' : Split402Router ν}

/-- The two routers verify and record alike. -/
structure SameChecks (router router' : Split402Router ν) : Prop where
  verifyReceipts : router.verifyReceipts = router'.verifyReceipts
  recordsReceipts : router.recordsReceipts = router'.recordsReceipts

theorem attempt_congr (h : SameChecks router router')
    (provider : Split402CapabilityProvider ν) :
    router.attempt runtime input provider = router'.attempt runtime input provider := by
  unfold attempt recordProviderReceipt
  rw [h.verifyReceipts, h.recordsReceipts]

/-- What a router does with the providers of a quote does not depend on its list. -/
theorem tryProviders_congr (h : SameChecks router router')
    (quoted : List (Split402CapabilityProvider ν)) (attempts : List Split402RouterAttempt) :
    router.tryProviders runtime input attempts quoted =
      router'.tryProviders runtime input attempts quoted := by
  induction quoted generalizing attempts with
  | nil => rfl
  | cons provider rest ih =>
      rw [tryProviders, tryProviders, attempt_congr h]
      simp only [ih]

/-- **Who is asked, in which order, and what comes of it does not depend on the order of the list of
providers**: a quote and an execution, as the tree of what it awaits and does with every answer, are
the same for every permutation of providers with distinct ids. -/
theorem execution_perm (hlocale : Std.TransCmp runtime.host.localeCompare)
    (hapart : TellsApart runtime providers)
    (hids : (providers.map Split402CapabilityProvider.providerId).Nodup)
    (hperm : providers.Perm providers') (input : Split402RouterExecuteInput ν)
    (verifyReceipts recordsReceipts : Bool) :
    quoteExecution runtime providers input = quoteExecution runtime providers' input ∧
      (Split402Router.mk providers verifyReceipts recordsReceipts).execute runtime input =
        (Split402Router.mk providers' verifyReceipts recordsReceipts).execute runtime input := by
  have hquote : quoteExecution runtime providers input = quoteExecution runtime providers' input :=
    quoteExecution_perm hlocale hapart hids hperm
  refine ⟨hquote, ?_⟩
  unfold execute
  rw [hquote]
  cases quoteExecution runtime providers' input with
  | error error => cases error <;> rfl
  | ok quote =>
      have hsame : SameChecks (Split402Router.mk providers verifyReceipts recordsReceipts)
          (Split402Router.mk providers' verifyReceipts recordsReceipts) := ⟨rfl, rfl⟩
      exact tryProviders_congr hsame _ _

end Split402Router

/-! ## Two providers in either order -/

/-- The provider that is listed last is ranked first. -/
theorem execution_perm_quoters :
    (quoteExecution Sample.schemaRuntime [Sample.quoter "second", Sample.quoter "first"]
      Sample.quoteExecuteInput).map Split402RouterQuoteResult.ranking =
        .ok [Sample.quoter "first", Sample.quoter "second"] := by
  have hapart : TellsApart Sample.schemaRuntime
      [Sample.quoter "second", Sample.quoter "first"] := by
    intro left hleft right hright heq
    simp only [List.mem_cons, List.not_mem_nil, or_false] at hleft hright
    rcases hleft with rfl | rfl <;> rcases hright with rfl | rfl
    · rfl
    · exact absurd heq (by decide)
    · exact absurd heq (by decide)
    · rfl
  have hlocale : Std.TransCmp Sample.schemaRuntime.host.localeCompare :=
    inferInstanceAs (Std.TransCmp compareUtf16)
  have hquote := (Split402Router.execution_perm hlocale hapart (by decide)
    (List.Perm.swap _ _ _) Sample.quoteExecuteInput true false).1
  rw [hquote]
  exact Sample.quoters_ranking

end Split402
