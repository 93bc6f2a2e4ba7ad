import Split402.Proof.PayoutModel
import Split402.Proof.PayoutRules

/-! # Signing an item once

The invariant that no item is paid twice: transactions of a batch that may still land pay different
items, a finalized item was paid by a finalized transaction, and a released item belongs to a
cancelled batch. The checks of a saving call do not look beyond the call, so the invariant is kept
only by the moves that meet `Disciplined`. -/

namespace Split402.Payouts

variable {p p' : Payouts}

/-- The invariant of disciplined runs. -/
structure SigningInv (p : Payouts) : Prop where
  single : ∀ id t, p.transaction id = some t → t.isLive →
    ∀ id' u, p.transaction id' = some u → u.isLive → u.batchId = t.batchId →
    ∀ i, t.pays i → u.pays i → id' = id
  paid : ∀ b i, p.item b i .finalized → ∃ id t, p.transaction id = some t ∧ t.batchId = b ∧
    t.pays i ∧ t.status = .finalized
  released : ∀ b i, p.item b i .released → p.batch b = some .cancelled

/-! ## Disciplined moves -/

/-- A saving call checks its transactions against the live ones of its batch as it checks them
against each other: an attempt is new only when the earlier attempts of its sequence are dead, and
an item that a live transaction pays stays with its sequence. -/
structure SignsSafely (p : Payouts) (batchId : String)
    (signed : String → Option SignedTransaction) : Prop where
  notCancelled : p.batch batchId ≠ some .cancelled
  retries : ∀ id t, signed id = some t → ∀ id' u, p.transaction id' = some u →
    u.batchId = batchId → u.sequence = t.sequence → ¬ u.isLive
  keepsSequence : ∀ id t, signed id = some t → ∀ id' u, p.transaction id' = some u →
    u.batchId = batchId → u.isLive → ∀ i, t.pays i → u.pays i → u.sequence = t.sequence
  sequences : ∀ id t, signed id = some t → ∀ id' u, signed id' = some u →
    u.sequence = t.sequence → id' = id

/-- A mark leaves finalized transactions finalized, revives a dead one only when no live transaction
pays one of its items, and rolls no cancelled batch up. -/
structure MarksSafely (p : Payouts) (id : String) (status : PayoutTransactionStatus)
    (rolls : Bool) (t : SignedTransaction) : Prop where
  finalized : t.status = .finalized → status = .finalized
  revives : ¬ t.isLive → status.isDead = false → ∀ id' u, p.transaction id' = some u → id' ≠ id →
    u.batchId = t.batchId → u.isLive → ∀ i, t.pays i → ¬ u.pays i
  notCancelled : rolls = true → p.batch t.batchId ≠ some .cancelled

def Disciplined (p : Payouts) : Move → Prop
  | .sign batchId signed => p.SignsSafely batchId signed
  | .mark id status rolls => ∀ t, p.transaction id = some t → p.MarksSafely id status rolls t
  | _ => True

/-! ## What a disciplined move keeps -/

/-- A new transaction pays nothing a live one pays. -/
theorem SignsSafely.disjoint {batchId : String} {signed : String → Option SignedTransaction}
    (h : p.SignsSafely batchId signed) {id id' : String} {t u : SignedTransaction}
    (ht : signed id = some t) (hu : p.transaction id' = some u) (hb : u.batchId = batchId)
    (hlive : u.isLive) {i : String} (hi : t.pays i) : ¬ u.pays i := by
  intro hi'
  have hseq := h.keepsSequence id t ht id' u hu hb hlive i hi hi'
  exact h.retries id t ht id' u hu hb hseq hlive

theorem SigningInv.congr (h : p.SigningInv) (hb : p'.batch = p.batch) (hi : p'.item = p.item)
    (ht : p'.transaction = p.transaction) : p'.SigningInv := by
  refine ⟨?_, ?_, ?_⟩
  · rw [ht]
    exact h.single
  · rw [hi, ht]
    exact h.paid
  · rw [hi, hb]
    exact h.released

/-- A change of batches that leaves transactions alone, finalizes no item, and releases only items
of cancelled batches. -/
theorem SigningInv.of_batches (h : p.SigningInv) (ht : p'.transaction = p.transaction)
    (hfinal : ∀ b i, p'.item b i .finalized → p.item b i .finalized)
    (hreleased : ∀ b i, p'.item b i .released → p'.batch b = some .cancelled) :
    p'.SigningInv := by
  refine ⟨?_, ?_, hreleased⟩
  · rw [ht]
    exact h.single
  · intro b i hi
    rw [ht]
    exact h.paid b i (hfinal b i hi)

theorem Signs.signingInv {batchId : String} {signed : String → Option SignedTransaction}
    (h : p.Signs batchId signed p') (hsafe : p.SignsSafely batchId signed) (hinv : p.SigningInv) :
    p'.SigningInv := by
  refine ⟨?_, ?_, ?_⟩
  · intro id t ht hlive id' u hu hlive' hb i hi hi'
    -- two old, one of each, or two new transactions
    rcases h.transaction_eq_some.mp ht with ht | ht
    · rcases h.transaction_eq_some.mp hu with hu | hu
      · exact hinv.single id t ht hlive id' u hu hlive' hb i hi hi'
      · exact absurd hi (hsafe.disjoint hu ht (hb.symm.trans (h.ofBatch id' u hu)) hlive hi')
    · rcases h.transaction_eq_some.mp hu with hu | hu
      · exact absurd hi' (hsafe.disjoint ht hu (hb.trans (h.ofBatch id t ht)) hlive' hi)
      · exact hsafe.sequences id t ht id' u hu (Signs.sequences h id t ht id' u hu i hi hi')
  · intro b i hi
    rw [Signs.item h] at hi
    obtain ⟨id, t, ht, hrest⟩ := hinv.paid b i hi
    exact ⟨id, t, h.transaction_eq_some.mpr (.inl ht), hrest⟩
  · rw [Signs.item h, Signs.batch h]
    exact hinv.released

/-- A status that a safe mark writes keeps the live transactions apart. -/
theorem MarksSafely.single {id : String} {status : PayoutTransactionStatus} {rolls : Bool}
    {t : SignedTransaction} (h : p.MarksSafely id status rolls t) (ht : p.transaction id = some t)
    (hinv : p.SigningInv) {id' : String} {u : SignedTransaction}
    (hu : p.transaction id' = some u) (hne : id' ≠ id) (hb : u.batchId = t.batchId)
    (hlive : status.isDead = false) (hlive' : u.isLive) {i : String} (hi : t.pays i) :
    ¬ u.pays i := by
  intro hi'
  by_cases hwas : t.isLive
  · exact hne (hinv.single id t ht hwas id' u hu hlive' hb i hi hi')
  · exact h.revives hwas hlive id' u hu hne hb hlive' i hi hi'

theorem SigningInv.setStatus (hinv : p.SigningInv) {id : String} {status : PayoutTransactionStatus}
    {rolls : Bool} {t : SignedTransaction} (ht : p.transaction id = some t)
    (h : p.MarksSafely id status rolls t) : (p.setStatus id status).SigningInv := by
  refine ⟨?_, ?_, hinv.released⟩
  · intro id₁ t₁ ht₁ hlive₁ id₂ t₂ ht₂ hlive₂ hb i hi₁ hi₂
    rcases setStatus_transaction.mp ht₁ with ⟨hne₁, hold₁⟩ | ⟨rfl, u₁, hu₁, rfl⟩
    · rcases setStatus_transaction.mp ht₂ with ⟨hne₂, hold₂⟩ | ⟨rfl, u₂, hu₂, rfl⟩
      · exact hinv.single id₁ t₁ hold₁ hlive₁ id₂ t₂ hold₂ hlive₂ hb i hi₁ hi₂
      · rw [ht] at hu₂
        injection hu₂ with hu₂
        subst hu₂
        exact absurd hi₁ (h.single ht hinv hold₁ hne₁ hb.symm hlive₂ hlive₁ hi₂)
    · rw [ht] at hu₁
      injection hu₁ with hu₁
      subst hu₁
      rcases setStatus_transaction.mp ht₂ with ⟨hne₂, hold₂⟩ | ⟨rfl, -⟩
      · exact absurd hi₂ (h.single ht hinv hold₂ hne₂ hb hlive₁ hlive₂ hi₁)
      · rfl
  · intro b i hi
    obtain ⟨id', u, hu, hb, hpays, hstatus⟩ := hinv.paid b i hi
    obtain ⟨v, hv, ⟨hvb, -, -, hvp⟩, hsame, hwritten⟩ := @setStatus_forth _ id _ status _ hu
    refine ⟨id', v, hv, hvb.trans hb, hvp ▸ hpays, ?_⟩
    by_cases hid : id' = id
    · rw [hwritten hid]
      subst hid
      rw [ht] at hu
      injection hu with hu
      exact h.finalized (hu ▸ hstatus)
    · rw [hsame hid]
      exact hstatus

theorem RollsUp.signingInv {b : String} (h : p.RollsUp b p') (hlive : p.batch b ≠ some .cancelled)
    (hinv : p.SigningInv) : p'.SigningInv := by
  refine ⟨?_, ?_, ?_⟩
  · rw [h.transaction]
    exact hinv.single
  · intro c i hi
    rw [h.transaction]
    by_cases hc : c = b
    · subst hc
      rcases h.itemFrom i _ hi with hi | ⟨id, t, ht, hb, hpays, hstatus⟩
      · exact hinv.paid c i hi
      · exact ⟨id, t, ht.stored, hb, hpays,
          payoutItemStatusForTransactionStatus_eq_finalized hstatus⟩
    · rw [(h.others c hc).2] at hi
      exact hinv.paid c i hi
  · intro c i hi
    by_cases hc : c = b
    · subst hc
      rcases h.itemFrom i _ hi with hi | ⟨id, t, -, -, -, hstatus⟩
      · exact absurd (hinv.released c i hi) hlive
      · exact absurd hstatus (payoutItemStatusForTransactionStatus_ne_released _)
    · rw [(h.others c hc).2] at hi
      rw [(h.others c hc).1]
      exact hinv.released c i hi

/-- **A disciplined move keeps the invariant.** -/
theorem Step.signingInv {move : Move} (h : p.Step move p') (hmove : p.Disciplined move)
    (hinv : p.SigningInv) : p'.SigningInv := by
  cases move with
  | idle => exact h ▸ hinv
  | create batchId =>
      have hcreates : p.Creates batchId p' := h
      refine hinv.of_batches hcreates.transaction ?_ ?_
      · intro b i hi
        by_cases hb : b = batchId
        · subst hb
          cases hcreates.item i _ hi
        · rw [(hcreates.others b hb).2] at hi
          exact hi
      · intro b i hi
        by_cases hb : b = batchId
        · subst hb
          cases hcreates.item i _ hi
        · rw [(hcreates.others b hb).2] at hi
          rw [(hcreates.others b hb).1]
          exact hinv.released b i hi
  | release batchId =>
      have hreleases : p.Releases batchId p' := h
      refine hinv.of_batches hreleases.transaction ?_ ?_
      · intro b i hi
        by_cases hb : b = batchId
        · subst hb
          cases hreleases.item i _ hi
        · rw [(hreleases.others b hb).2] at hi
          exact hi
      · intro b i hi
        by_cases hb : b = batchId
        · subst hb
          exact hreleases.batch
        · rw [(hreleases.others b hb).2] at hi
          rw [(hreleases.others b hb).1]
          exact hinv.released b i hi
  | sign batchId signed => exact Signs.signingInv h hmove hinv
  | mark id status rolls =>
      obtain ⟨t, ht, ⟨rfl, -⟩ | ⟨hrolls, hroll⟩⟩ := h.writes
      · exact hinv.setStatus ht (hmove t ht)
      · exact hroll.signingInv ((hmove t ht).notCancelled hrolls)
          (hinv.setStatus ht (hmove t ht))

/-- What a disciplined saving call signs is neither released nor finalized, nor paid by another
transaction that may land. -/
theorem Signs.fresh {batchId : String} {signed : String → Option SignedTransaction}
    (hsafe : p.SignsSafely batchId signed) (hinv : p.SigningInv) {id : String}
    {t : SignedTransaction} (ht : signed id = some t) {i : String} (hi : t.pays i) :
    ¬ p.item batchId i .released ∧ ¬ p.item batchId i .finalized ∧
      ∀ id' u, p.transaction id' = some u → u.batchId = batchId → u.pays i → ¬ u.isLive := by
  refine ⟨?_, ?_, ?_⟩
  · exact fun hreleased => hsafe.notCancelled (hinv.released batchId i hreleased)
  · intro hfinal
    obtain ⟨id', u, hu, hb, hpays, hstatus⟩ := hinv.paid batchId i hfinal
    have hlive : u.isLive := by
      rw [SignedTransaction.isLive, hstatus]
      rfl
    exact hsafe.disjoint ht hu hb hlive hi hpays
  · exact fun id' u hu hb hpays hlive => hsafe.disjoint ht hu hb hlive hi hpays

end Split402.Payouts
