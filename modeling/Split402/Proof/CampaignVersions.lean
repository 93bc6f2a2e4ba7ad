import Split402.Base.Numbered
import Split402.Proof.RegistryOps

/-! # The versions of a campaign

A campaign's versions are numbered without gaps and their terms are not repeated. What a version says
is fixed when it is made; the merchant's signature comes to it once. A campaign in use got there by
the signature of its current version, and a closed campaign stays closed. -/

namespace Split402

open Base

variable {ν : Type} {runtime : RegistryRuntime ν}

/-- The versions are numbered up to the campaign's current one, each with terms of its own. -/
structure CampaignRecord.HasVersions (campaign : CampaignRecord)
    (versions : List (CampaignVersionRecord ν)) : Prop where
  numbered : Numbered CampaignVersionRecord.version versions campaign.currentVersion
  distinct : (versions.map CampaignVersionRecord.termsHash).Nodup

/-- The fields that an activation sets. -/
def CampaignVersionRecord.signature (version : CampaignVersionRecord ν) :
    Option String × Option String × Option String :=
  (version.merchantKid, version.merchantSignature, version.activatedAt)

/-- One of the calls has brought the signature of the version, and it verified over the terms. -/
def CampaignVersionRecord.SignedBy (runtime : RegistryRuntime ν) (calls : List (RegistryCall ν))
    (version : CampaignVersionRecord ν) : Prop :=
  ∃ env input, .activateCampaignVersion env input ∈ calls ∧
    input.campaignId = version.campaignId ∧
    version.merchantKid = some input.merchantKid ∧
    version.merchantSignature = some input.merchantSignature ∧
    verifyCampaignTermsSignature runtime version.terms input.merchantPublicKey
      input.merchantSignature = true

theorem CampaignVersionRecord.SignedBy.mono {calls calls' : List (RegistryCall ν)}
    {version : CampaignVersionRecord ν} (h : version.SignedBy runtime calls) (hsub : calls ⊆ calls') :
    version.SignedBy runtime calls' := by
  obtain ⟨env, input, hmem, hsigned⟩ := h
  exact ⟨env, input, hsub hmem, hsigned⟩

/-- What the version says is as it was, and its signature too, when it had one. -/
structure CampaignVersionRecord.SameTerms (version later : CampaignVersionRecord ν) : Prop where
  terms : later.terms = version.terms
  termsHash : later.termsHash = version.termsHash
  signature : version.signature ≠ (none, none, none) → later.signature = version.signature

theorem CampaignVersionRecord.SameTerms.refl (version : CampaignVersionRecord ν) :
    version.SameTerms version :=
  ⟨rfl, rfl, fun _ => rfl⟩

theorem CampaignVersionRecord.SameTerms.trans {a b c : CampaignVersionRecord ν}
    (hab : a.SameTerms b) (hbc : b.SameTerms c) : a.SameTerms c where
  terms := hbc.terms.trans hab.terms
  termsHash := hbc.termsHash.trans hab.termsHash
  signature := by
    intro hsigned
    have hb := hab.signature hsigned
    rw [← hb] at hsigned ⊢
    exact hbc.signature hsigned

namespace CampaignRegistry

/-- The versions of a campaign, in the order they were made. -/
def historyOf (registry : CampaignRegistry ν) (campaignId : String) :
    List (CampaignVersionRecord ν) :=
  (registry.versions.filter (·.campaignId = campaignId)).rows

/-- The invariant of the campaigns, after some calls. -/
structure Consistent (runtime : RegistryRuntime ν) (calls : List (RegistryCall ν))
    (registry : CampaignRegistry ν) : Prop where
  versions : ∀ campaign ∈ registry.campaigns, campaign.HasVersions (registry.historyOf campaign.id)
  inUse : ∀ campaign ∈ registry.campaigns, campaign.status = .active ∨ campaign.status = .paused →
    ∃ version, registry.versions.find? (campaign.id, campaign.currentVersion) = some version ∧
      version.SignedBy runtime calls
  ofCampaigns : ∀ version ∈ registry.versions, registry.campaigns.has version.campaignId = true
  signed : ∀ version ∈ registry.versions, version.merchantKid = none → version.activatedAt = none

/-- Campaigns stay, closed ones closed, and versions stay as they are but for their first signature. -/
structure Keeps (registry after : CampaignRegistry ν) : Prop where
  campaigns : ∀ campaign ∈ registry.campaigns, ∃ later ∈ after.campaigns, later.id = campaign.id ∧
    (campaign.status = .closed → later.status = .closed)
  versions : ∀ version ∈ registry.versions, ∃ later ∈ after.versions, later.key = version.key ∧
    version.SameTerms later

theorem keeps_refl (registry : CampaignRegistry ν) : registry.Keeps registry where
  campaigns := fun campaign h => ⟨campaign, h, rfl, id⟩
  versions := fun version h => ⟨version, h, rfl, .refl version⟩

variable {registry after : CampaignRegistry ν} {env : CallEnv} {calls calls' : List (RegistryCall ν)}

theorem Keeps.trans {later : CampaignRegistry ν} (h : registry.Keeps after) (h' : after.Keeps later) :
    registry.Keeps later where
  campaigns := by
    intro campaign hcampaign
    obtain ⟨middle, hmiddle, hid, hclosed⟩ := h.campaigns campaign hcampaign
    obtain ⟨last, hlast, hid', hclosed'⟩ := h'.campaigns middle hmiddle
    exact ⟨last, hlast, hid'.trans hid, fun hstatus => hclosed' (hclosed hstatus)⟩
  versions := by
    intro version hversion
    obtain ⟨middle, hmiddle, hkey, hsame⟩ := h.versions version hversion
    obtain ⟨last, hlast, hkey', hsame'⟩ := h'.versions middle hmiddle
    exact ⟨last, hlast, hkey'.trans hkey, hsame.trans hsame'⟩

theorem consistent_empty : Consistent runtime calls (empty (ν := ν)) where
  versions := fun _ h => absurd h Table.not_mem_empty
  inUse := fun _ h => absurd h Table.not_mem_empty
  ofCampaigns := fun _ h => absurd h Table.not_mem_empty
  signed := fun _ h => absurd h Table.not_mem_empty

theorem Consistent.mono (h : registry.Consistent runtime calls) (hsub : calls ⊆ calls') :
    registry.Consistent runtime calls' where
  versions := h.versions
  inUse := by
    intro campaign hcampaign huse
    obtain ⟨version, hversion, hsigned⟩ := h.inUse campaign hcampaign huse
    exact ⟨version, hversion, hsigned.mono hsub⟩
  ofCampaigns := h.ofCampaigns
  signed := h.signed

theorem mem_historyOf {campaignId : String} {version : CampaignVersionRecord ν} :
    version ∈ registry.historyOf campaignId ↔
      version ∈ registry.versions ∧ version.campaignId = campaignId := by
  rw [historyOf, ← Table.mem_def, Table.mem_filter, decide_eq_true_eq]

/-- A campaign without a record has no versions. -/
theorem Consistent.historyOf_eq_nil (h : registry.Consistent runtime calls) {campaignId : String}
    (hnew : registry.campaigns.has campaignId = false) : registry.historyOf campaignId = [] := by
  rw [List.eq_nil_iff_forall_not_mem]
  intro version hversion
  obtain ⟨hmem, hof⟩ := mem_historyOf.mp hversion
  have hhas := h.ofCampaigns version hmem
  rw [hof, hnew] at hhas
  cases hhas

/-! ## New versions -/

/-- A version under a new key comes to the end of the history of its campaign. -/
theorem historyOf_append {version : CampaignVersionRecord ν} {campaigns : Table CampaignRecord.id}
    (hnew : ∀ other ∈ registry.versions, other.key ≠ version.key) (campaignId : String) :
    historyOf ⟨campaigns, registry.versions.upsert version⟩ campaignId =
      if version.campaignId = campaignId then registry.historyOf campaignId ++ [version]
      else registry.historyOf campaignId := by
  show ((registry.versions.upsert version).rows.filter _) = _
  rw [Table.rows_upsert_of_new hnew, List.filter_append, List.filter_singleton]
  by_cases hof : version.campaignId = campaignId
  · rw [if_pos hof, decide_eq_true hof]
    rfl
  · rw [if_neg hof, decide_eq_false hof]
    exact List.append_nil _

/-- A campaign and its new version, a draft, are written. -/
theorem Consistent.draft (h : registry.Consistent runtime calls) {campaign : CampaignRecord}
    {version : CampaignVersionRecord ν} (hdraft : campaign.status = .draft)
    (hversion : DraftVersion campaign.id campaign.currentVersion version)
    (hhistory : campaign.HasVersions (registry.historyOf campaign.id ++ [version]))
    (hclosed : ∀ old ∈ registry.campaigns, old.id = campaign.id → old.status ≠ .closed) :
    Consistent runtime calls
        ⟨registry.campaigns.upsert campaign, registry.versions.upsert version⟩ ∧
      registry.Keeps ⟨registry.campaigns.upsert campaign, registry.versions.upsert version⟩ := by
  -- the number is new in the history, and so the key
  have hnew : ∀ other ∈ registry.versions, other.key ≠ version.key := by
    intro other hother hkey
    rw [hversion.key] at hkey
    obtain ⟨hof, hnumber⟩ := Prod.mk.inj hkey
    have hlast : version ∈ registry.historyOf campaign.id ++ [version] :=
      List.mem_append_right _ List.mem_cons_self
    have hhad : other ∈ registry.historyOf campaign.id := mem_historyOf.mpr ⟨hother, hof⟩
    have hsame : other = version := hhistory.numbered.eq_of_number (List.mem_append_left _ hhad) hlast
      (hnumber.trans hversion.number.symm)
    have hnodup : (registry.historyOf campaign.id ++ [version]).Nodup :=
      List.Nodup.of_map _ hhistory.distinct
    rw [hsame] at hhad
    exact List.disjoint_of_nodup_append hnodup hhad List.mem_cons_self
  refine ⟨⟨?_, ?_, ?_, ?_⟩, ?_, ?_⟩
  · intro c hc
    rw [historyOf_append hnew]
    rcases Table.mem_upsert.mp hc with rfl | ⟨hc, hid⟩
    · rw [if_pos hversion.campaignId]
      exact hhistory
    · rw [if_neg (fun hof => hid (hof.symm.trans hversion.campaignId))]
      exact h.versions c hc
  · intro c hc huse
    rcases Table.mem_upsert.mp hc with rfl | ⟨hc, hid⟩
    · rw [hdraft] at huse
      rcases huse with huse | huse <;> cases huse
    · obtain ⟨v, hv, hsigned⟩ := h.inUse c hc huse
      refine ⟨v, ?_, hsigned⟩
      rw [Table.find?_upsert, if_neg]
      · exact hv
      · intro hkey
        rw [hversion.key] at hkey
        exact hid (Prod.mk.inj hkey).1.symm
  · intro v hv
    rw [Table.has_upsert]
    rcases Table.mem_upsert.mp hv with rfl | ⟨hv, -⟩
    · exact .inl hversion.campaignId.symm
    · exact .inr (h.ofCampaigns v hv)
  · intro v hv hkid
    rcases Table.mem_upsert.mp hv with rfl | ⟨hv, -⟩
    · exact hversion.activatedAt
    · exact h.signed v hv hkid
  · intro c hc
    by_cases hid : c.id = campaign.id
    · exact ⟨campaign, Table.mem_upsert.mpr (.inl rfl), hid.symm,
        fun hstatus => absurd hstatus (hclosed c hc hid)⟩
    · exact ⟨c, Table.mem_upsert.mpr (.inr ⟨hc, hid⟩), rfl, fun hstatus => hstatus⟩
  · intro v hv
    exact ⟨v, Table.mem_upsert.mpr (.inr ⟨hv, hnew v hv⟩), rfl, .refl v⟩

theorem Consistent.createCampaign (h : registry.Consistent runtime calls)
    {input : CreateCampaignInput ν} {profile : CampaignProfile ν}
    (hcall : registry.createCampaign runtime env input = .ok (profile, after)) :
    after.Consistent runtime calls ∧ registry.Keeps after := by
  obtain ⟨campaign, version, hnew, hstatus, hfirst, hdraft, rfl⟩ := createCampaign_eq_ok hcall
  have hempty := h.historyOf_eq_nil hnew
  -- there are no versions to remove
  have hall : registry.versions.filter (·.campaignId ≠ campaign.id) = registry.versions := by
    apply Table.ext
    rw [Table.rows_filter, List.filter_eq_self]
    intro other hother
    refine decide_eq_true ?_
    intro hof
    have hhad : other ∈ registry.historyOf campaign.id := mem_historyOf.mpr ⟨hother, hof⟩
    rw [hempty] at hhad
    cases hhad
  rw [hall]
  refine h.draft hstatus (by rw [hfirst]; exact hdraft) ?_ ?_
  · have hnumbered := numbered_singleton hdraft.number
    rw [← hfirst] at hnumbered
    rw [hempty]
    exact ⟨hnumbered, List.nodup_singleton _⟩
  · intro old hold hid
    exact absurd hid (Table.has_eq_false.mp hnew old hold)

theorem Consistent.createCampaignVersion (h : registry.Consistent runtime calls)
    {input : CreateCampaignVersionInput ν} {version : CampaignVersionRecord ν}
    (hcall : registry.createCampaignVersion runtime env input = .ok (version, after)) :
    after.Consistent runtime calls ∧ registry.Keeps after := by
  obtain ⟨campaign, hfound, hopen, hdraft, hterms, rfl⟩ := createCampaignVersion_eq_ok hcall
  have hmem := Table.mem_of_find? hfound
  have hhistory := h.versions campaign hmem
  refine h.draft rfl hdraft ⟨hhistory.numbered.append hdraft.number, ?_⟩ ?_
  · rw [List.map_append, List.map_singleton]
    refine List.Nodup.append hhistory.distinct (List.nodup_singleton _) ?_
    intro termsHash hhad hnew
    obtain ⟨other, hother, hhash⟩ := List.mem_map.mp hhad
    obtain ⟨hother, hof⟩ := mem_historyOf.mp hother
    exact hterms other hother hof (hhash.trans (List.mem_singleton.mp hnew))
  · intro old hold hid
    rw [Table.eq_of_key hold hmem hid]
    exact hopen

/-! ## Changes in place -/

/-- A version is exchanged for one under its key. -/
theorem historyOf_replace {version : CampaignVersionRecord ν}
    {change : CampaignVersionRecord ν → CampaignVersionRecord ν}
    {campaigns : Table CampaignRecord.id} (hmem : version ∈ registry.versions)
    (hkey : (change version).key = version.key) (campaignId : String) :
    historyOf ⟨campaigns, registry.versions.upsert (change version)⟩ campaignId =
      (registry.historyOf campaignId).map
        (fun other => if other.key = version.key then change version else other) := by
  show ((registry.versions.upsert (change version)).rows.filter _) = _
  rw [Table.rows_upsert_of_mem hmem hkey, List.filter_map]
  have hsame : ∀ other ∈ registry.versions.rows,
      (if other.key = version.key then change other else other) =
        if other.key = version.key then change version else other := by
    intro other hother
    by_cases hother' : other.key = version.key
    · rw [if_pos hother', if_pos hother', Table.eq_of_key hother hmem hother']
    · rw [if_neg hother', if_neg hother']
  have hfilter : registry.versions.rows.filter ((fun v => decide (v.campaignId = campaignId)) ∘
      fun other => if other.key = version.key then change other else other) =
      registry.historyOf campaignId := by
    refine List.filter_congr ?_
    intro other hother
    rw [Function.comp_apply]
    by_cases hother' : other.key = version.key
    · have hother'' := Table.eq_of_key hother hmem hother'
      subst hother''
      rw [if_pos rfl, (Prod.mk.inj hkey).1]
    · rw [if_neg hother']
  rw [hfilter]
  refine List.map_congr_left ?_
  intro other hother
  exact hsame other (mem_historyOf.mp hother).1

/-- The campaign is written in another status, in which it was in use before or is not now. -/
theorem Consistent.move (h : registry.Consistent runtime calls) {campaign : CampaignRecord}
    (hmem : campaign ∈ registry.campaigns) {status : CampaignStatus} {updatedAt : String}
    (huse : status = .active ∨ status = .paused →
      campaign.status = .active ∨ campaign.status = .paused)
    (hclosed : campaign.status = .closed → status = .closed) :
    Consistent runtime calls
        { registry with campaigns := registry.campaigns.upsert (campaign.moved status updatedAt) } ∧
      registry.Keeps
        { registry with
          campaigns := registry.campaigns.upsert (campaign.moved status updatedAt) } := by
  refine ⟨⟨?_, ?_, ?_, h.signed⟩, ?_, ?_⟩
  · intro c hc
    rcases Table.mem_upsert.mp hc with rfl | ⟨hc, -⟩
    · have hhistory := h.versions campaign hmem
      exact ⟨hhistory.numbered, hhistory.distinct⟩
    · exact h.versions c hc
  · intro c hc hcuse
    rcases Table.mem_upsert.mp hc with rfl | ⟨hc, -⟩
    · exact h.inUse campaign hmem (huse hcuse)
    · exact h.inUse c hc hcuse
  · intro v hv
    rw [Table.has_upsert]
    exact .inr (h.ofCampaigns v hv)
  · intro c hc
    by_cases hid : c.id = campaign.id
    · refine ⟨campaign.moved status updatedAt, Table.mem_upsert.mpr (.inl rfl), hid.symm, ?_⟩
      intro hstatus
      rw [Table.eq_of_key hc hmem hid] at hstatus
      exact hclosed hstatus
    · exact ⟨c, Table.mem_upsert.mpr (.inr ⟨hc, hid⟩), rfl, fun hstatus => hstatus⟩
  · exact fun v hv => ⟨v, hv, rfl, .refl v⟩

theorem Consistent.updateCampaignStatus (h : registry.Consistent runtime calls) {campaignId : String}
    {status : CampaignStatusTransition} {profile : Option (CampaignProfile ν)}
    (hcall : registry.updateCampaignStatus runtime env campaignId status = .ok (profile, after)) :
    after.Consistent runtime calls ∧ registry.Keeps after := by
  rcases updateCampaignStatus_eq_ok hcall with rfl | ⟨campaign, hfound, hbefore, rfl⟩
  · exact ⟨h, keeps_refl _⟩
  refine h.move (Table.mem_of_find? hfound) ?_ ?_
  · intro huse
    rcases hbefore with rfl | hbefore
    · rcases huse with huse | huse <;> cases huse
    · exact hbefore
  · intro hclosed
    rcases hbefore with rfl | hbefore
    · rfl
    · rw [hclosed] at hbefore
      rcases hbefore with hbefore | hbefore <;> cases hbefore

/-- **A signature that verifies brings the current version, and the campaign, into use.** -/
theorem Consistent.activateCampaignVersion (h : registry.Consistent runtime calls)
    {input : ActivateCampaignVersionInput} {profile : CampaignProfile ν}
    (hcall : registry.activateCampaignVersion runtime env input = .ok (profile, after))
    (hmade : .activateCampaignVersion env input ∈ calls) :
    after.Consistent runtime calls ∧ registry.Keeps after := by
  rcases activateCampaignVersion_eq_ok hcall with rfl | ⟨campaign, version, hsigns, rfl⟩
  · exact ⟨h, keeps_refl _⟩
  have hcampaign := Table.mem_of_find? hsigns.found
  have hid : campaign.id = input.campaignId := Table.key_of_find? hsigns.found
  have hversion := Table.mem_of_find? hsigns.current
  have hkey : version.key = (campaign.id, campaign.currentVersion) :=
    Table.key_of_find? hsigns.current
  generalize hsigned : version.activated input.merchantKid input.merchantSignature
    (now runtime env) = signed
  have hsignedKey : signed.key = version.key := by rw [← hsigned]; rfl
  have hsignedHash : signed.termsHash = version.termsHash := by rw [← hsigned]; rfl
  have hhistory := fun campaignId => @historyOf_replace ν registry version (fun _ => signed)
    (registry.campaigns.upsert (campaign.moved .active (now runtime env))) hversion hsignedKey
    campaignId
  refine ⟨⟨?_, ?_, ?_, ?_⟩, ?_, ?_⟩
  · -- the history has the same numbers and the same terms
    have hsame : ∀ c ∈ registry.campaigns, c.HasVersions
        ((registry.historyOf c.id).map
          (fun other => if other.key = version.key then signed else other)) := by
      intro c hc
      refine ⟨(h.versions c hc).numbered.map ?_, ?_⟩
      · intro other
        by_cases hother : other.key = version.key
        · rw [if_pos hother]
          exact (Prod.mk.inj (hsignedKey.trans hother.symm)).2
        · rw [if_neg hother]
      · have hhashes : ((registry.historyOf c.id).map
            (fun other => if other.key = version.key then signed else other)).map
              CampaignVersionRecord.termsHash =
            (registry.historyOf c.id).map CampaignVersionRecord.termsHash := by
          rw [List.map_map]
          refine List.map_congr_left ?_
          intro other hother
          rw [Function.comp_apply]
          by_cases hother' : other.key = version.key
          · rw [if_pos hother', Table.eq_of_key (mem_historyOf.mp hother).1 hversion hother',
              hsignedHash]
          · rw [if_neg hother']
        rw [hhashes]
        exact (h.versions c hc).distinct
    intro c hc
    rw [hhistory]
    rcases Table.mem_upsert.mp hc with rfl | ⟨hc, -⟩
    · have hcurrent := hsame campaign hcampaign
      exact ⟨hcurrent.numbered, hcurrent.distinct⟩
    · exact hsame c hc
  · intro c hc huse
    rcases Table.mem_upsert.mp hc with rfl | ⟨hc, hne⟩
    · refine ⟨signed, ?_, env, input, hmade, ?_⟩
      · rw [Table.find?_upsert]
        exact if_pos (hsignedKey.trans hkey)
      · have hof : version.campaignId = input.campaignId := (Prod.mk.inj hkey).1.trans hid
        rw [← hsigned]
        exact ⟨hof.symm, rfl, rfl, hsigns.verified⟩
    · obtain ⟨v, hv, hvsigned⟩ := h.inUse c hc huse
      refine ⟨v, ?_, hvsigned⟩
      rw [Table.find?_upsert, if_neg]
      · exact hv
      · intro hsame
        exact hne (Prod.mk.inj (hsame.symm.trans (hsignedKey.trans hkey))).1
  · intro v hv
    rw [Table.has_upsert]
    rcases Table.mem_upsert.mp hv with rfl | ⟨hv, -⟩
    · exact .inl (Prod.mk.inj (hsignedKey.trans hkey)).1.symm
    · exact .inr (h.ofCampaigns v hv)
  · intro v hv hkid
    rcases Table.mem_upsert.mp hv with rfl | ⟨hv, -⟩
    · rw [← hsigned] at hkid
      cases hkid
    · exact h.signed v hv hkid
  · intro c hc
    by_cases hsame : c.id = campaign.id
    · refine ⟨campaign.moved .active (now runtime env), Table.mem_upsert.mpr (.inl rfl), hsame.symm,
        ?_⟩
      intro hstatus
      rw [Table.eq_of_key hc hcampaign hsame] at hstatus
      exact absurd hstatus hsigns.isOpen
    · exact ⟨c, Table.mem_upsert.mpr (.inr ⟨hc, hsame⟩), rfl, fun hstatus => hstatus⟩
  · intro v hv
    by_cases hsame : v.key = version.key
    · refine ⟨signed, Table.mem_upsert.mpr (.inl rfl), hsignedKey.trans hsame.symm, ?_⟩
      rw [Table.eq_of_key hv hversion hsame]
      refine ⟨by rw [← hsigned]; rfl, hsignedHash, ?_⟩
      intro hhad
      have hnone := h.signed version hversion hsigns.unsigned.1
      exact absurd (by rw [CampaignVersionRecord.signature, hsigns.unsigned.1, hsigns.unsigned.2,
        hnone]) hhad
    · refine ⟨v, Table.mem_upsert.mpr (.inr ⟨hv, ?_⟩), rfl, .refl v⟩
      rw [hsignedKey]
      exact hsame

end CampaignRegistry

/-! ## Runs -/

namespace Registries

open CampaignRegistry

variable {s : Registries ν} {calls : List (RegistryCall ν)}

theorem campaigns_consistent_after {call : RegistryCall ν} (hmade : call ∈ calls)
    (h : s.campaigns.Consistent runtime calls) :
    (s.after runtime call).campaigns.Consistent runtime calls ∧
      s.campaigns.Keeps (s.after runtime call).campaigns := by
  have hchange := @changesCampaigns_after ν runtime s call
  generalize (s.after runtime call).campaigns = campaigns at hchange
  cases hchange with
  | none => exact ⟨h, keeps_refl _⟩
  | create hcall => exact h.createCampaign hcall
  | version hcall => exact h.createCampaignVersion hcall
  | activate hcall => exact h.activateCampaignVersion hcall hmade
  | move hcall => exact h.updateCampaignStatus hcall

theorem campaigns_consistent_foldl {made : List (RegistryCall ν)} (hmade : made ⊆ calls)
    (h : s.campaigns.Consistent runtime calls) :
    (made.foldl (after runtime) s).campaigns.Consistent runtime calls ∧
      s.campaigns.Keeps (made.foldl (after runtime) s).campaigns := by
  induction made generalizing s with
  | nil => exact ⟨h, keeps_refl _⟩
  | cons call made ih =>
      rw [List.cons_subset] at hmade
      obtain ⟨hnext, hkept⟩ := campaigns_consistent_after hmade.1 h
      obtain ⟨hlast, hrest⟩ := ih hmade.2 hnext
      exact ⟨hlast, hkept.trans hrest⟩

/-- **The invariant of the campaigns**: after any calls the versions of each campaign are numbered
without gaps up to the current one, with terms that are not repeated, and a campaign in use has a
current version that one of the calls has signed; whatever calls follow, versions keep their terms and
their first signature, and closed campaigns stay closed. -/
theorem campaign_histories_consistent (runtime : RegistryRuntime ν)
    (calls more : List (RegistryCall ν)) :
    (afterAll runtime calls).campaigns.Consistent runtime calls ∧
      (afterAll runtime calls).campaigns.Keeps (afterAll runtime (calls ++ more)).campaigns := by
  have hstart : (afterAll runtime calls).campaigns.Consistent runtime calls :=
    (campaigns_consistent_foldl (List.Subset.refl calls) consistent_empty).1
  refine ⟨hstart, ?_⟩
  have hmore : afterAll runtime (calls ++ more) = more.foldl (after runtime) (afterAll runtime calls) :=
    List.foldl_append
  rw [hmore]
  exact (campaigns_consistent_foldl (List.subset_append_right calls more)
    (hstart.mono (List.subset_append_left calls more))).2

end Registries

end Split402
