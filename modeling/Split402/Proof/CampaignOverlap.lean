import Split402.Proof.RegistryForms
import Split402.Proof.RegistryOps
import Split402.Registry.CampaignCalls

/-! # Overlapping calls on a campaign

A call of the Postgres registry decides on what it has read, and writes later. The versions of a
campaign stand that: their key lets only one call write the next one, and the terms of a version
never change, so a signature that has verified is one of the terms it is stored with. The status
does not: the transactions that draft a campaign and activate it ask neither whether it has been
closed nor whether the version is still the current one. -/

namespace Split402

open Base

variable {ν : Type} {runtime : RegistryRuntime ν}

/-! ## What the transactions write -/

namespace CampaignRegistry

variable {db db' : CampaignRegistry ν}

/-- The row of a campaign, when there is one, is set. -/
def Sets (campaignId : String) (set : CampaignRecord → CampaignRecord)
    (db db' : CampaignRegistry ν) : Prop :=
  ∀ k, db'.campaigns.find? k =
    if campaignId = k then (db.campaigns.find? k).map set else db.campaigns.find? k

theorem sets_updateCampaign (campaignId : String) (set : CampaignRecord → CampaignRecord)
    (hset : ∀ campaign, (set campaign).id = campaign.id) :
    Sets campaignId set db (db.updateCampaign campaignId set) := by
  intro k
  unfold updateCampaign
  cases hcampaign : db.campaigns.find? campaignId with
  | none =>
      by_cases hk : campaignId = k
      · rw [if_pos hk, ← hk, hcampaign]
        rfl
      · rw [if_neg hk]
  | some campaign =>
      have hkey : (set campaign).id = campaignId :=
        (hset campaign).trans (Table.key_of_find? hcampaign)
      show (db.campaigns.upsert (set campaign)).find? k = _
      rw [Table.find?_upsert, hkey]
      by_cases hk : campaignId = k
      · rw [if_pos hk, if_pos hk, ← hk, hcampaign]
        rfl
      · rw [if_neg hk, if_neg hk]

theorem Sets.cases {campaignId : String} {set : CampaignRecord → CampaignRecord}
    (h : Sets campaignId set db db') {id : String} {campaign' : CampaignRecord}
    (hcampaign' : db'.campaigns.find? id = some campaign') :
    (campaignId = id ∧ ∃ campaign, db.campaigns.find? id = some campaign ∧ set campaign = campaign') ∨
      (campaignId ≠ id ∧ db.campaigns.find? id = some campaign') := by
  rw [h id] at hcampaign'
  by_cases hid : campaignId = id
  · rw [if_pos hid] at hcampaign'
    exact .inl ⟨hid, Option.map_eq_some_iff.mp hcampaign'⟩
  · rw [if_neg hid] at hcampaign'
    exact .inr ⟨hid, hcampaign'⟩

theorem versions_updateCampaign (campaignId : String) (set : CampaignRecord → CampaignRecord) :
    (db.updateCampaign campaignId set).versions = db.versions := by
  unfold updateCampaign
  split <;> rfl

/-- A version has come to the tables, under a key that was free. -/
structure Inserts (version : CampaignVersionRecord ν) (db db' : CampaignRegistry ν) : Prop where
  free : db.versions.find? version.key = none
  versions : ∀ k, db'.versions.find? k = if version.key = k then some version
    else db.versions.find? k

theorem insertVersion_eq_some {version : CampaignVersionRecord ν}
    (h : db.insertVersion version = some db') :
    Inserts version db db' ∧ db'.campaigns = db.campaigns := by
  unfold insertVersion at h
  split at h
  · cases h
  · obtain ⟨versions, hversions, rfl⟩ := Option.map_eq_some_iff.mp h
    obtain ⟨hfree, hfind⟩ := Table.find?_insert? hversions
    exact ⟨⟨hfree, hfind⟩, rfl⟩

theorem commitCampaign_eq_some {campaign : CampaignRecord} {version : CampaignVersionRecord ν}
    (h : db.commitCampaign campaign version = some db') :
    Inserts version db db' ∧ db.campaigns.find? campaign.id = none ∧
      ∀ k, db'.campaigns.find? k = if campaign.id = k then some campaign
        else db.campaigns.find? k := by
  obtain ⟨campaigns, hcampaigns, h⟩ := Option.bind_eq_some_iff.mp h
  obtain ⟨hinserts, hsame⟩ := insertVersion_eq_some h
  rw [hsame]
  exact ⟨⟨hinserts.free, hinserts.versions⟩, Table.find?_insert? hcampaigns⟩

theorem commitVersion_eq_some {version : CampaignVersionRecord ν} {updatedAt : String}
    (h : db.commitVersion version updatedAt = some db') :
    (db.insertVersion version).isSome = true ∧ Inserts version db db' ∧ Sets version.campaignId (redraft version updatedAt) db db' := by
  obtain ⟨inserted, hinserted, h⟩ := Option.bind_eq_some_iff.mp h
  obtain rfl := Option.some.inj h
  obtain ⟨hinserts, hsame⟩ := insertVersion_eq_some hinserted
  refine ⟨Option.isSome_of_eq_some hinserted, ⟨hinserts.free, ?_⟩, ?_⟩
  · rw [versions_updateCampaign]
    exact hinserts.versions
  · intro k
    rw [sets_updateCampaign version.campaignId (redraft version updatedAt) (fun _ => rfl) k, hsame]

theorem unsigned_of_draft {campaignId : String} {number : Nat} {version : CampaignVersionRecord ν}
    (hfound : db.versions.find? (campaignId, number) = some version)
    (hdraft : DraftVersion campaignId number version) :
    db.unsigned campaignId number = some version := by
  refine Option.filter_eq_some_iff.mpr ⟨hfound, ?_⟩
  exact decide_eq_true ⟨hdraft.kid, hdraft.signature, hdraft.activatedAt⟩

theorem unsigned_congr {campaignId : String} {number : Nat}
    (h : db'.versions.find? (campaignId, number) = db.versions.find? (campaignId, number)) :
    db'.unsigned campaignId number = db.unsigned campaignId number := by
  rw [unsigned, unsigned, h]

theorem unsigned_eq_some {campaignId : String} {number : Nat} {version : CampaignVersionRecord ν}
    (h : db.unsigned campaignId number = some version) :
    db.versions.find? (campaignId, number) = some version ∧
      DraftVersion campaignId number version := by
  obtain ⟨hfound, hdraft⟩ := Option.filter_eq_some_iff.mp h
  rw [decide_eq_true_eq] at hdraft
  have hkey := Table.key_of_find? hfound
  rw [CampaignVersionRecord.key, Prod.mk.injEq] at hkey
  exact ⟨hfound, hkey.1, hkey.2, hdraft.1, hdraft.2.1, hdraft.2.2⟩

/-! ## What stays -/

/-- Campaigns and versions stay: the number of the current version only grows, and the terms of a
version do not change. -/
structure Persists (db db' : CampaignRegistry ν) : Prop where
  campaigns : ∀ id campaign, db.campaigns.find? id = some campaign →
    ∃ campaign', db'.campaigns.find? id = some campaign' ∧
      campaign.currentVersion ≤ campaign'.currentVersion
  versions : ∀ key version, db.versions.find? key = some version →
    ∃ version', db'.versions.find? key = some version' ∧ version'.terms = version.terms

theorem Persists.refl (db : CampaignRegistry ν) : Persists db db where
  campaigns _ campaign h := ⟨campaign, h, Nat.le_refl _⟩
  versions _ version h := ⟨version, h, rfl⟩

theorem Persists.trans {db'' : CampaignRegistry ν} (h : Persists db db') (h' : Persists db' db'') :
    Persists db db'' where
  campaigns id campaign hcampaign := by
    obtain ⟨campaign', hcampaign', hle⟩ := h.campaigns id campaign hcampaign
    obtain ⟨campaign'', hcampaign'', hle'⟩ := h'.campaigns id campaign' hcampaign'
    exact ⟨campaign'', hcampaign'', Nat.le_trans hle hle'⟩
  versions key version hversion := by
    obtain ⟨version', hversion', hterms⟩ := h.versions key version hversion
    obtain ⟨version'', hversion'', hterms'⟩ := h'.versions key version' hversion'
    exact ⟨version'', hversion'', hterms'.trans hterms⟩

/-- Every number from 1 to the current one has its version. -/
def Covered (db : CampaignRegistry ν) : Prop :=
  ∀ id campaign, db.campaigns.find? id = some campaign → 1 ≤ campaign.currentVersion ∧
    ∀ number, 1 ≤ number → number ≤ campaign.currentVersion →
      ∃ version, db.versions.find? (id, number) = some version

/-- A version comes under the next number, and no later one is there. -/
theorem Inserts.current_lt {version : CampaignVersionRecord ν} {campaign : CampaignRecord}
    (hinserts : Inserts version db db') (hcovered : Covered db)
    (hcampaign : db.campaigns.find? version.campaignId = some campaign)
    (hpos : 1 ≤ version.version) : campaign.currentVersion < version.version := by
  by_contra hlt
  obtain ⟨row, hrow⟩ := (hcovered _ _ hcampaign).2 version.version hpos (by omega)
  have hfree := hinserts.free
  rw [CampaignVersionRecord.key, hrow] at hfree
  cases hfree

theorem Inserts.keeps {version : CampaignVersionRecord ν} (h : Inserts version db db')
    {key : String × Nat} {row : CampaignVersionRecord ν}
    (hrow : db.versions.find? key = some row) : db'.versions.find? key = some row := by
  rw [h.versions, if_neg, hrow]
  intro hkey
  have hfree := h.free
  rw [hkey, hrow] at hfree
  cases hfree

theorem Sets.persists {campaignId : String} {set : CampaignRecord → CampaignRecord}
    (h : Sets campaignId set db db')
    (hset : ∀ campaign, db.campaigns.find? campaignId = some campaign →
      campaign.currentVersion ≤ (set campaign).currentVersion) (id : String)
    (campaign : CampaignRecord) (hcampaign : db.campaigns.find? id = some campaign) :
    ∃ campaign', db'.campaigns.find? id = some campaign' ∧
      campaign.currentVersion ≤ campaign'.currentVersion := by
  rw [h id, hcampaign]
  by_cases hid : campaignId = id
  · rw [if_pos hid]
    exact ⟨_, rfl, hset campaign (hid ▸ hcampaign)⟩
  · rw [if_neg hid]
    exact ⟨campaign, rfl, Nat.le_refl _⟩

end CampaignRegistry

/-! ## What calls rely on -/

namespace CampaignCalls

open Async CampaignRegistry

variable {db db' : CampaignRegistry ν}

/-- The call is an activation whose signature has verified over the terms of the version. -/
structure Verified (runtime : RegistryRuntime ν) (call : CampaignCall ν)
    (version : CampaignVersionRecord ν) (merchantKid merchantSignature : String) : Prop where
  of_call : ∃ env input, call = .activateCampaignVersion env input ∧
    input.campaignId = version.campaignId ∧ input.merchantKid = merchantKid ∧
    input.merchantSignature = merchantSignature ∧
    verifyCampaignTermsSignature runtime version.terms input.merchantPublicKey merchantSignature =
      true

/-- What a call has seen to when it writes. -/
def need (runtime : RegistryRuntime ν) (call : CampaignCall ν) (db : CampaignRegistry ν) :
    Op ν → Prop
  | .loadCampaign _ | .getCampaignVersion _ _ => True
  | .insertCampaign campaign version =>
      campaign.status = .draft ∧ campaign.currentVersion = 1 ∧ DraftVersion campaign.id 1 version
  | .insertCampaignVersion version _ =>
      ∃ campaign, db.campaigns.find? version.campaignId = some campaign ∧ 1 ≤ version.version ∧
        version.version ≤ campaign.currentVersion + 1 ∧
        DraftVersion version.campaignId version.version version
  | .activateCampaignVersion campaignId number merchantKid merchantSignature _ =>
      ∃ version, db.versions.find? (campaignId, number) = some version ∧
        Verified runtime call version merchantKid merchantSignature
  | .updateCampaignStatus _ current next _ =>
      ∃ transition : CampaignStatusTransition, next = transition.status ∧
        assertCampaignStatusTransition current transition = .ok ()

/-- What an operation has done to the tables: nothing, or what its transaction writes. -/
inductive Writes (db : CampaignRegistry ν) : Op ν → CampaignRegistry ν → Prop
  | nothing (op : Op ν) : Writes db op db
  | campaign {campaign : CampaignRecord} {version : CampaignVersionRecord ν}
      {db' : CampaignRegistry ν} : Inserts version db db' →
      db.campaigns.find? campaign.id = none →
      (∀ k, db'.campaigns.find? k = if campaign.id = k then some campaign
        else db.campaigns.find? k) → Writes db (.insertCampaign campaign version) db'
  | version {version : CampaignVersionRecord ν} {updatedAt : String} {db' : CampaignRegistry ν} :
      (db.insertVersion version).isSome = true → Inserts version db db' → Sets version.campaignId (redraft version updatedAt) db db' →
      Writes db (.insertCampaignVersion version updatedAt) db'
  | activation {campaignId merchantKid merchantSignature now : String} {number : Nat}
      {version : CampaignVersionRecord ν} {db' : CampaignRegistry ν} :
      db.unsigned campaignId number = some version →
      (∀ k, db'.versions.find? k = if (campaignId, number) = k then
        some (version.activated merchantKid merchantSignature now) else db.versions.find? k) →
      Sets campaignId (·.moved .active now) db db' →
      Writes db (.activateCampaignVersion campaignId number merchantKid merchantSignature now) db'
  | status {campaignId now : String} {current next : CampaignStatus} {campaign : CampaignRecord}
      {db' : CampaignRegistry ν} : db.campaigns.find? campaignId = some campaign →
      campaign.status = current → db'.versions = db.versions →
      Sets campaignId (·.moved next now) db db' →
      Writes db (.updateCampaignStatus campaignId current next now) db'

theorem writes_serve (db : CampaignRegistry ν) (op : Op ν) : Writes db op (serve db op).1 := by
  cases op with
  | loadCampaign campaignId => exact .nothing _
  | getCampaignVersion campaignId number => exact .nothing _
  | insertCampaign campaign version =>
      simp only [serve]
      cases hcommit : db.commitCampaign campaign version with
      | none => exact .nothing _
      | some db' =>
          obtain ⟨hinserts, hnew, hcampaigns⟩ := commitCampaign_eq_some hcommit
          exact .campaign hinserts hnew hcampaigns
  | insertCampaignVersion version updatedAt =>
      simp only [serve]
      cases hcommit : db.commitVersion version updatedAt with
      | none => exact .nothing _
      | some db' =>
          obtain ⟨hsome, hinserts, hsets⟩ := commitVersion_eq_some hcommit
          exact .version hsome hinserts hsets
  | activateCampaignVersion campaignId number merchantKid merchantSignature now =>
      simp only [serve, commitActivation]
      cases hunsigned : db.unsigned campaignId number with
      | none => exact .nothing _
      | some version =>
          refine .activation hunsigned ?_ ?_
          · intro k
            have hkey : (version.activated merchantKid merchantSignature now).key =
                (campaignId, number) := (unsigned_eq_some hunsigned).2.key
            dsimp only
            rw [versions_updateCampaign]
            dsimp only
            rw [Table.find?_upsert, hkey]
          · exact sets_updateCampaign campaignId (·.moved .active now) (fun _ => rfl)
  | updateCampaignStatus campaignId current next now =>
      simp only [serve, moveCampaign]
      cases hcampaign : (db.campaigns.find? campaignId).filter
          (fun campaign => campaign.status = current) with
      | none => exact .nothing _
      | some campaign =>
          obtain ⟨hfound, hstatus⟩ := Option.filter_eq_some_iff.mp hcampaign
          exact .status hfound (of_decide_eq_true hstatus) (versions_updateCampaign _ _)
            (sets_updateCampaign campaignId (·.moved next now) (fun _ => rfl))

theorem writes_of_handle {call : CampaignCall ν} {op : Op ν} {answer : Except CallError op.Answer}
    (h : handle call db op db' answer) : Writes db op db' := by
  rcases h.state with rfl | rfl
  · exact .nothing op
  · exact writes_serve db op

theorem serve_of_handle {call : CampaignCall ν} {op : Op ν} {answer : op.Answer}
    (h : handle call db op db' (.ok answer)) : serve db op = (db', .ok answer) :=
  Attempt.of_ok h

/-- What is there stays. -/
theorem Writes.persists {call : CampaignCall ν} {op : Op ν} (h : Writes db op db')
    (hcovered : Covered db) (hneed : need runtime call db op) : Persists db db' := by
  cases h with
  | nothing => exact .refl db
  | campaign hinserts hnew hcampaigns =>
      refine ⟨fun id row hrow => ⟨row, ?_, Nat.le_refl _⟩, fun _ row hrow => ⟨row, hinserts.keeps hrow, rfl⟩⟩
      rw [hcampaigns, if_neg, hrow]
      intro hid
      rw [hid, hrow] at hnew
      cases hnew
  | version _ hinserts hsets =>
      obtain ⟨campaign, hcampaign, hpos, -, -⟩ := hneed
      refine ⟨hsets.persists fun row hrow => ?_, fun _ row hrow => ⟨row, hinserts.keeps hrow, rfl⟩⟩
      exact Nat.le_of_lt (hinserts.current_lt hcovered hrow hpos)
  | @activation campaignId merchantKid merchantSignature now number version db' hunsigned hversions
      hsets =>
      refine ⟨hsets.persists fun row _ => Nat.le_refl _, fun key row hrow => ?_⟩
      rw [hversions, hrow]
      by_cases hkey : (campaignId, number) = key
      · rw [if_pos hkey]
        refine ⟨_, rfl, ?_⟩
        have hversion := (unsigned_eq_some hunsigned).1
        rw [hkey, hrow] at hversion
        rw [Option.some.inj hversion]
        rfl
      · rw [if_neg hkey]
        exact ⟨row, rfl, rfl⟩
  | status _ _ hversions hsets =>
      refine ⟨hsets.persists fun row _ => Nat.le_refl _, fun key row hrow => ?_⟩
      rw [hversions]
      exact ⟨row, hrow, rfl⟩

/-- The versions still cover every number: a new number comes with its version. -/
theorem Writes.covered {call : CampaignCall ν} {op : Op ν} (h : Writes db op db')
    (hcovered : Covered db) (hneed : need runtime call db op) : Covered db' := by
  have hpersists := h.persists hcovered hneed
  intro id campaign' hcampaign'
  have hold : ∀ campaign, db.campaigns.find? id = some campaign → ∀ number, 1 ≤ number →
      number ≤ campaign.currentVersion → ∃ version, db'.versions.find? (id, number) = some version := by
    intro campaign hcampaign number hpos hle
    obtain ⟨version, hversion⟩ := (hcovered id campaign hcampaign).2 number hpos hle
    obtain ⟨version', hversion', -⟩ := hpersists.versions _ _ hversion
    exact ⟨version', hversion'⟩
  -- a row whose number is that of an old row
  have hsame : ∀ campaign, db.campaigns.find? id = some campaign →
      campaign'.currentVersion = campaign.currentVersion → 1 ≤ campaign'.currentVersion ∧
        ∀ number, 1 ≤ number → number ≤ campaign'.currentVersion →
          ∃ version, db'.versions.find? (id, number) = some version := by
    intro campaign hcampaign hnumber
    rw [hnumber]
    exact ⟨(hcovered id campaign hcampaign).1, hold campaign hcampaign⟩
  cases h with
  | nothing => exact hsame campaign' hcampaign' rfl
  | @campaign campaign version db' hinserts _ hcampaigns =>
      obtain ⟨-, hcurrent, hdraft⟩ := hneed
      rw [hcampaigns] at hcampaign'
      by_cases hid : campaign.id = id
      · rw [if_pos hid] at hcampaign'
        obtain rfl := Option.some.inj hcampaign'
        refine ⟨by omega, fun number hpos hle => ?_⟩
        refine ⟨version, (hinserts.versions _).trans (if_pos ?_)⟩
        rw [hdraft.key, hid, Prod.mk.injEq]
        exact ⟨rfl, by omega⟩
      · rw [if_neg hid] at hcampaign'
        exact hsame campaign' hcampaign' rfl
  | @version version updatedAt db' _ hinserts hsets =>
      obtain ⟨campaign, hcampaign, hversion, hnext, -⟩ := hneed
      rcases hsets.cases hcampaign' with ⟨hid, row, hrow, rfl⟩ | ⟨-, hrow⟩
      · -- the campaign of the new version, whose number is the next one
        refine ⟨hversion, fun number hpos hle => ?_⟩
        by_cases hnew : number = version.version
        · exact ⟨version, (hinserts.versions _).trans (if_pos (by rw [hnew, ← hid]; rfl))⟩
        · rw [← hid] at hrow
          obtain rfl := Option.some.inj (hrow.symm.trans hcampaign)
          have hlt : number < version.version := Nat.lt_of_le_of_ne hle hnew
          exact hold row (hid ▸ hrow) number hpos (by omega)
      · exact hsame campaign' hrow rfl
  | activation _ _ hsets =>
      rcases hsets.cases hcampaign' with ⟨-, row, hrow, rfl⟩ | ⟨-, hrow⟩
      · exact hsame row hrow rfl
      · exact hsame campaign' hrow rfl
  | status _ _ _ hsets =>
      rcases hsets.cases hcampaign' with ⟨-, row, hrow, rfl⟩ | ⟨-, hrow⟩
      · exact hsame row hrow rfl
      · exact hsame campaign' hrow rfl

/-! ## What a call writes, by itself -/

/-- Any call, whatever it returns. -/
abbrev Sees (runtime : RegistryRuntime ν) {α : Type} (call : CampaignCall ν) (p : Await ν α)
    (db : CampaignRegistry ν) : Prop :=
  Meets handle Covered (fun _ _ => Persists) (need runtime) call (fun _ _ => True) p db

section Sees

variable {call : CampaignCall ν} {α β : Type}

theorem sees_done (result : Except CallError α) :
    Sees runtime call (.done result : Await ν α) db := .done trivial

theorem sees_bind {p : Await ν α} {next : α → Await ν β} (h : Sees runtime call p db)
    (hnext : ∀ db a, Sees runtime call (next a) db) : Sees runtime call (p >>= next) db :=
  h.bind (fun db a _ => hnext db a) (fun _ _ _ => trivial)

theorem sees_check {result : Except RegistryError α} {next : α → Await ν β}
    (h : ∀ a, result = .ok a → Sees runtime call (next a) db) :
    Sees runtime call (check result >>= next) db :=
  Meets.ofExcept_bind h (fun _ _ => trivial)

theorem sees_write {op : Op ν} {next : op.Answer → Await ν β}
    (hneed : ∀ db', Covered db' → Persists db db' → need runtime call db' op)
    (hnext : ∀ db' a, Sees runtime call (next a) db') :
    Sees runtime call (write op >>= next) db :=
  Meets.callMapError_bind hneed (fun _ u a _ _ _ => hnext u a) (fun _ _ _ _ _ _ => trivial)

theorem sees_loadCampaign {campaignId : String} {next : Option CampaignRecord → Await ν β}
    (hnext : ∀ db', Sees runtime call (next (db'.campaigns.find? campaignId)) db') :
    Sees runtime call (loadCampaign campaignId >>= next) db := by
  refine Meets.call_bind (fun _ _ _ => trivial) ?_ (fun _ _ _ _ _ _ => trivial)
  intro t u loaded _ _ hload
  obtain ⟨rfl, hloaded⟩ := Prod.mk.inj (serve_of_handle hload)
  obtain rfl := Except.ok.inj hloaded
  exact hnext t

theorem sees_getCampaignVersion {campaignId : String} {number : Nat}
    {next : Option (CampaignVersionRecord ν) → Await ν β}
    (hnext : ∀ db', Sees runtime call (next (db'.versions.find? (campaignId, number))) db') :
    Sees runtime call (getCampaignVersion campaignId number >>= next) db := by
  unfold getCampaignVersion
  rw [Async.bind_assoc]
  refine sees_check fun version hversion => ?_
  obtain rfl := assertPositiveVersion_eq_ok hversion
  refine Meets.call_bind (fun _ _ _ => trivial) ?_ (fun _ _ _ _ _ _ => trivial)
  intro t u loaded _ _ hload
  obtain ⟨rfl, hloaded⟩ := Prod.mk.inj (serve_of_handle hload)
  obtain rfl := Except.ok.inj hloaded
  exact hnext t

theorem sees_getCampaign (campaignId : String) :
    Sees runtime call (getCampaign campaignId) db := by
  unfold getCampaign
  refine sees_loadCampaign fun db' => ?_
  cases db'.campaigns.find? campaignId with
  | none => exact sees_done _
  | some campaign =>
      refine sees_getCampaignVersion fun db' => ?_
      cases db'.versions.find? (campaign.id, campaign.currentVersion) with
      | none => exact sees_done _
      | some current => exact sees_done _

end Sees

theorem sees_createCampaign (call : CampaignCall ν) (env : CallEnv)
    (input : CreateCampaignInput ν) : Sees runtime call (createCampaign runtime env input) db := by
  unfold createCampaign
  refine sees_check fun campaignId _ => ?_
  refine sees_check fun merchantId _ => ?_
  refine sees_check fun version hversion => ?_
  have hdraft := createCampaignVersionRecord_eq_ok hversion
  refine sees_write (fun _ _ _ => ⟨rfl, rfl, hdraft⟩) fun _ _ => ?_
  exact sees_done _

theorem sees_createCampaignVersion (call : CampaignCall ν) (env : CallEnv)
    (input : CreateCampaignVersionInput ν) :
    Sees runtime call (createCampaignVersion runtime env input) db := by
  unfold createCampaignVersion
  refine sees_loadCampaign fun read => ?_
  cases hcampaign : read.campaigns.find? input.campaignId with
  | none => exact sees_done _
  | some campaign =>
      refine sees_check fun _ _ => ?_
      refine sees_check fun version hversion => ?_
      have hdraft := createCampaignVersionRecord_eq_ok hversion
      refine sees_write ?_ fun _ _ => sees_done _
      intro db' _ hpersists
      obtain ⟨campaign', hcampaign', hle⟩ := hpersists.campaigns _ _ hcampaign
      have hid : version.campaignId = input.campaignId :=
        hdraft.campaignId.trans (Table.key_of_find? hcampaign)
      have hnumber := hdraft.number
      refine ⟨campaign', hid ▸ hcampaign', by omega, by omega, rfl, rfl, hdraft.kid,
        hdraft.signature, hdraft.activatedAt⟩

theorem sees_activateVersion (env : CallEnv) (input : ActivateCampaignVersionInput)
    {campaign : CampaignRecord} {versionNumber : Nat} {version : CampaignVersionRecord ν}
    (hid : campaign.id = input.campaignId)
    (hversion : db.versions.find? (campaign.id, versionNumber) = some version) :
    Sees runtime (.activateCampaignVersion env input)
      (activateVersion runtime env input campaign versionNumber version) db := by
  unfold activateVersion
  refine sees_check fun merchantKid hkid => ?_
  refine sees_check fun merchantPublicKey hkey => ?_
  refine sees_check fun merchantSignature hsignature => ?_
  obtain ⟨-, rfl⟩ := assertThat_eq_ok.mp hkid
  obtain ⟨-, rfl⟩ := assertThat_eq_ok.mp hkey
  obtain ⟨-, rfl⟩ := assertThat_eq_ok.mp hsignature
  split
  · split <;> exact sees_done _
  · split
    · exact sees_done _
    · rename_i hverified
      rw [Bool.not_eq_true', Bool.not_eq_false] at hverified
      refine sees_write ?_ fun _ activated => ?_
      · intro db' _ hpersists
        obtain ⟨version', hversion', hterms⟩ := hpersists.versions _ _ hversion
        have hkey := Table.key_of_find? hversion'
        rw [CampaignVersionRecord.key, Prod.mk.injEq] at hkey
        refine ⟨version', hversion', ⟨env, input, rfl, ?_, rfl, rfl, ?_⟩⟩
        · rw [hkey.1, hid]
        · rw [hterms]
          exact hverified
      · cases activated with
        | true => exact sees_done _
        | false =>
            unfold activatedByAnother
            refine sees_bind (sees_getCampaign _) fun db latest => ?_
            cases latest with
            | none => exact sees_done _
            | some latest =>
                dsimp only
                split <;> exact sees_done _

theorem sees_activateCampaignVersion (env : CallEnv) (input : ActivateCampaignVersionInput) :
    Sees runtime (.activateCampaignVersion env input)
      (activateCampaignVersion runtime env input) db := by
  unfold activateCampaignVersion
  refine sees_loadCampaign fun read => ?_
  cases hcampaign : read.campaigns.find? input.campaignId with
  | none => exact sees_done _
  | some campaign =>
      have hid : campaign.id = input.campaignId := Table.key_of_find? hcampaign
      refine sees_check fun _ _ => ?_
      refine sees_check fun versionNumber _ => ?_
      refine sees_check fun _ _ => ?_
      refine sees_getCampaignVersion fun read => ?_
      cases hversion : read.versions.find? (campaign.id, versionNumber) with
      | none => exact sees_done _
      | some version => exact sees_activateVersion env input hid hversion

theorem sees_updateCampaignStatus (call : CampaignCall ν) (env : CallEnv) (campaignId : String)
    (status : CampaignStatusTransition) :
    Sees runtime call (updateCampaignStatus runtime env campaignId status) db := by
  unfold updateCampaignStatus
  refine sees_loadCampaign fun read => ?_
  cases read.campaigns.find? campaignId with
  | none => exact sees_done _
  | some campaign =>
      refine sees_check fun u htransition => ?_
      refine Meets.call_bind (fun _ _ _ => ⟨status, rfl, htransition⟩) ?_
        (fun _ _ _ _ _ _ => trivial)
      intro _ _ updated _ _ _
      cases updated with
      | true => exact sees_getCampaign _
      | false =>
          refine sees_loadCampaign fun read => ?_
          cases read.campaigns.find? campaignId with
          | none => exact sees_done _
          | some latest =>
              refine sees_check fun _ _ => ?_
              exact sees_getCampaign _

theorem sees_program (call : CampaignCall ν) (db : CampaignRegistry ν) :
    Sees runtime call (program runtime call) db := by
  cases call with
  | createCampaign env input =>
      exact sees_bind (sees_createCampaign _ env input) fun _ _ => sees_done _
  | createCampaignVersion env input =>
      exact sees_bind (sees_createCampaignVersion _ env input) fun _ _ => sees_done _
  | activateCampaignVersion env input =>
      exact sees_bind (sees_activateCampaignVersion env input) fun _ _ => sees_done _
  | updateCampaignStatus env campaignId status =>
      exact sees_bind (sees_updateCampaignStatus _ env campaignId status) fun _ _ => sees_done _

/-! ## The calls together -/

/-- The tables, the calls and how they run. -/
abbrev Calls (ν : Type) : Type :=
  Pool (CampaignCall ν) (CampaignRegistry ν) (Op ν) Op.Answer CallError (CampaignAnswer ν)

abbrev CallEvent (ν : Type) : Type := Pool.Event (CampaignCall ν) Empty

variable {ok : Calls ν → CallEvent ν → Prop} {pool pool' : Calls ν} {event : CallEvent ν}

/-- The tables of a reachable state cover every number, and every call sees to what it needs. -/
theorem sees_of_reachable (h : (system runtime).Reachable ok pool) :
    Covered pool.shared ∧ ∀ entry ∈ pool.calls, Sees runtime entry.1 entry.2 pool.shared := by
  refine Pool.meets h ?_ ?_ nofun (fun call db _ => sees_program call db)
    (fun _ _ _ _ _ => Persists.trans) (fun _ _ => Persists.refl) (fun _ _ _ _ _ _ => trivial) ?_
  · rintro _ rfl id campaign hcampaign
    cases hcampaign
  · intro call db op db' answer hcovered hneed hhandle
    exact (writes_of_handle hhandle).covered hcovered hneed
  · intro pool pool' event i call p hcovered _ hstep hneed _ _
    cases hstep with
    | start c => exact .refl _
    | resume hi hhandle =>
        exact (writes_of_handle hhandle).persists hcovered (hneed _ _ _ _ rfl hi)
    | @outside x u hx => exact nomatch x

/-- What a call that is resumed has seen to. -/
theorem need_of_reachable (h : (system runtime).Reachable ok pool) {i : Nat}
    {call : CampaignCall ν} {op : Op ν}
    {resume : Except CallError op.Answer → Await ν (CampaignAnswer ν)}
    (hi : pool.calls[i]? = some (call, .await op resume)) :
    Covered pool.shared ∧ need runtime call pool.shared op := by
  obtain ⟨hcovered, hsees⟩ := sees_of_reachable h
  cases hsees _ (List.mem_of_getElem? hi) with
  | await hneed _ => exact ⟨hcovered, hneed _ hcovered (Persists.refl _)⟩

/-! ## Signatures and closed campaigns -/

/-- A call that has been started has verified the signature of the version over its terms. -/
def SignatureVerified (runtime : RegistryRuntime ν) (pool : Calls ν)
    (version : CampaignVersionRecord ν) : Prop :=
  ∃ call ∈ pool.calls.map Prod.fst, ∃ merchantKid merchantSignature,
    version.merchantKid = some merchantKid ∧ version.merchantSignature = some merchantSignature ∧
    Verified runtime call version merchantKid merchantSignature

/-- The versions with a signature have one that has verified, and the current version of a campaign
that is active or paused is among them. -/
structure Signed (runtime : RegistryRuntime ν) (pool : Calls ν) : Prop where
  versions : ∀ campaignId number version,
    pool.shared.versions.find? (campaignId, number) = some version →
    pool.shared.unsigned campaignId number = some version ∨ SignatureVerified runtime pool version
  current : ∀ campaignId campaign, pool.shared.campaigns.find? campaignId = some campaign →
    campaign.status = .active ∨ campaign.status = .paused →
    ∃ version, pool.shared.versions.find? (campaignId, campaign.currentVersion) = some version ∧
      SignatureVerified runtime pool version

/-- What an operation is about to write is overtaken: the campaign has been closed, or an activation
is left with a version that is not the current one, which has no signature. -/
def Overtaken (db : CampaignRegistry ν) : Op ν → Prop
  | .insertCampaignVersion version _ =>
      (db.insertVersion version).isSome ∧
        ∃ campaign, db.campaigns.find? version.campaignId = some campaign ∧
          campaign.status = .closed
  | .activateCampaignVersion campaignId number _ _ _ =>
      (db.unsigned campaignId number).isSome ∧
        ∃ campaign, db.campaigns.find? campaignId = some campaign ∧
          (campaign.status = .closed ∨ campaign.currentVersion ≠ number ∧
            (db.unsigned campaignId campaign.currentVersion).isSome)
  | _ => False

/-- The call that is resumed is not overtaken. -/
def NotOvertaken (pool : Calls ν) (event : CallEvent ν) : Prop :=
  ∀ i call op resume, event = .resume i → pool.calls[i]? = some (call, .await op resume) →
    ¬ Overtaken pool.shared op

theorem SignatureVerified.step {version : CampaignVersionRecord ν}
    (h : SignatureVerified runtime pool version)
    (hstep : (system runtime).step pool event pool') : SignatureVerified runtime pool' version := by
  obtain ⟨call, hcall, hsignature⟩ := h
  exact ⟨call, Pool.started_of_step hstep hcall, hsignature⟩

/-- A step that writes nothing. -/
theorem Signed.of_same (h : Signed runtime pool) (hstep : (system runtime).step pool event pool')
    (hsame : pool'.shared = pool.shared) : Signed runtime pool' := by
  constructor
  · intro campaignId number version hversion
    rw [hsame] at hversion ⊢
    rcases h.versions campaignId number version hversion with hdraft | hsigned
    · exact .inl hdraft
    · exact .inr (hsigned.step hstep)
  · intro campaignId campaign hcampaign hstatus
    rw [hsame] at hcampaign ⊢
    obtain ⟨version, hversion, hsigned⟩ := h.current campaignId campaign hcampaign hstatus
    exact ⟨version, hversion, hsigned.step hstep⟩

/-- The versions keep their signatures when a draft comes to them. -/
theorem Signed.versions_of_inserts {version : CampaignVersionRecord ν} (h : Signed runtime pool)
    (hstep : (system runtime).step pool event pool')
    (hinserts : Inserts version pool.shared pool'.shared)
    (hdraft : DraftVersion version.campaignId version.version version) (campaignId : String)
    (number : Nat) (row : CampaignVersionRecord ν)
    (hrow : pool'.shared.versions.find? (campaignId, number) = some row) :
    pool'.shared.unsigned campaignId number = some row ∨ SignatureVerified runtime pool' row := by
  have hfound := hrow
  rw [hinserts.versions] at hrow
  by_cases hkey : version.key = (campaignId, number)
  · rw [if_pos hkey] at hrow
    obtain rfl := Option.some.inj hrow
    rw [CampaignVersionRecord.key, Prod.mk.injEq] at hkey
    rw [hkey.1, hkey.2] at hdraft
    exact .inl (unsigned_of_draft hfound hdraft)
  · rw [if_neg hkey] at hrow
    rcases h.versions campaignId number row hrow with hunsigned | hsigned
    · rw [unsigned_congr (hfound.trans hrow.symm)]
      exact .inl hunsigned
    · exact .inr (hsigned.step hstep)

/-- A campaign is paused when it is active, and active again when it is paused. -/
theorem live_of_transition {current : CampaignStatus} {transition : CampaignStatusTransition}
    (h : assertCampaignStatusTransition current transition = .ok ())
    (hlive : transition.status = .active ∨ transition.status = .paused) :
    current = .active ∨ current = .paused := by
  cases transition with
  | closed => rcases hlive with hlive | hlive <;> cases hlive
  | paused =>
      rw [assertCampaignStatusTransition, throwIf_eq_ok, ne_eq, not_not] at h
      exact .inl h
  | active =>
      rw [assertCampaignStatusTransition, throwIf_eq_ok, ne_eq, not_not] at h
      exact .inr h

/-- Signatures still verify, and those of the current versions are there, after a step of a call
that is not overtaken. -/
theorem Signed.of_writes {call : CampaignCall ν} {op : Op ν} (h : Signed runtime pool)
    (hstep : (system runtime).step pool event pool') (hcall : call ∈ pool.calls.map Prod.fst)
    (hwrites : Writes pool.shared op pool'.shared) (hcovered : Covered pool.shared)
    (hneed : need runtime call pool.shared op) (hovertaken : ¬ Overtaken pool.shared op) :
    Signed runtime pool' := by
  generalize hdb' : pool'.shared = db' at hwrites
  cases hwrites with
  | nothing => exact h.of_same hstep hdb'
  | @campaign campaign version db' hinserts hnew hcampaigns =>
      obtain ⟨hstatus, hcurrent, hdraft⟩ := hneed
      subst hdb'
      have hdraft' : DraftVersion version.campaignId version.version version :=
        ⟨rfl, rfl, hdraft.kid, hdraft.signature, hdraft.activatedAt⟩
      refine ⟨h.versions_of_inserts hstep hinserts hdraft', ?_⟩
      intro id campaign' hcampaign' hlive
      rw [hcampaigns] at hcampaign'
      by_cases hid : campaign.id = id
      · rw [if_pos hid] at hcampaign'
        obtain rfl := Option.some.inj hcampaign'
        rw [hstatus] at hlive
        rcases hlive with hlive | hlive <;> cases hlive
      · rw [if_neg hid] at hcampaign'
        obtain ⟨row, hrow, hsigned⟩ := h.current id campaign' hcampaign' hlive
        exact ⟨row, hinserts.keeps hrow, hsigned.step hstep⟩
  | @version version updatedAt db' hsome hinserts hsets =>
      obtain ⟨campaign, hcampaign, -, -, hdraft⟩ := hneed
      subst hdb'
      refine ⟨h.versions_of_inserts hstep hinserts hdraft, ?_⟩
      intro id campaign' hcampaign' hlive
      rcases hsets.cases hcampaign' with ⟨-, row, hrow, rfl⟩ | ⟨-, hrow⟩
      · -- a campaign with a new version is a draft
        rcases hlive with hlive | hlive <;> cases hlive
      · obtain ⟨row, hrow, hsigned⟩ := h.current id campaign' hrow hlive
        exact ⟨row, hinserts.keeps hrow, hsigned.step hstep⟩
  | @activation campaignId merchantKid merchantSignature now number version db' hunsigned hversions
      hsets =>
      subst hdb'
      obtain ⟨version', hversion', hverified⟩ := hneed
      have hversion := (unsigned_eq_some hunsigned).1
      obtain rfl := Option.some.inj (hversion.symm.trans hversion')
      -- the version that is signed now
      have hsigned : SignatureVerified runtime pool'
          (version.activated merchantKid merchantSignature now) := by
        obtain ⟨env, input, rfl, hid, hkid, hsignature, hverify⟩ := hverified.of_call
        exact ⟨_, Pool.started_of_step hstep hcall, merchantKid, merchantSignature, rfl, rfl,
          ⟨env, input, rfl, hid, hkid, hsignature, hverify⟩⟩
      have hother : ∀ key, (campaignId, number) ≠ key →
          pool'.shared.versions.find? key = pool.shared.versions.find? key :=
        fun key hkey => (hversions key).trans (if_neg hkey)
      constructor
      · intro id n row hrow
        by_cases hkey : (campaignId, number) = (id, n)
        · rw [hversions, if_pos hkey] at hrow
          obtain rfl := Option.some.inj hrow
          exact .inr hsigned
        · rw [hother _ hkey] at hrow
          rcases h.versions id n row hrow with hdraft | hold
          · rw [unsigned_congr (hother _ hkey)]
            exact .inl hdraft
          · exact .inr (hold.step hstep)
      · intro id campaign' hcampaign' hlive
        rcases hsets.cases hcampaign' with ⟨rfl, campaign, hcampaign, rfl⟩ | ⟨hid, hcampaign⟩
        · by_cases hnumber : campaign.currentVersion = number
          · refine ⟨_, ?_, hsigned⟩
            rw [hversions]
            exact if_pos (by rw [← hnumber]; rfl)
          · -- the current version is another one, and it has a signature
            have hkey : (campaignId, number) ≠ (campaignId, campaign.currentVersion) := by
              intro hkey
              exact hnumber (Prod.mk.inj hkey).2.symm
            obtain ⟨hpos, hall⟩ := hcovered campaignId campaign hcampaign
            obtain ⟨row, hrow⟩ := hall campaign.currentVersion hpos (Nat.le_refl _)
            refine ⟨row, (hother _ hkey).trans hrow, ?_⟩
            rcases h.versions campaignId campaign.currentVersion row hrow with hdraft | hold
            · refine absurd ⟨?_, campaign, hcampaign, .inr ⟨hnumber, ?_⟩⟩ hovertaken
              · exact Option.isSome_of_eq_some hunsigned
              · exact Option.isSome_of_eq_some hdraft
            · exact hold.step hstep
        · obtain ⟨row, hrow, hold⟩ := h.current id campaign' hcampaign hlive
          refine ⟨row, (hother _ ?_).trans hrow, hold.step hstep⟩
          intro hkey
          exact hid (Prod.mk.inj hkey).1
  | @status campaignId now current next campaign db' hcampaign hcurrent hversions hsets =>
      subst hdb'
      obtain ⟨transition, rfl, htransition⟩ := hneed
      constructor
      · intro id n row hrow
        rw [hversions] at hrow
        rcases h.versions id n row hrow with hdraft | hold
        · have hsame : pool'.shared.unsigned id n = pool.shared.unsigned id n :=
            unsigned_congr (by rw [hversions])
          rw [hsame]
          exact .inl hdraft
        · exact .inr (hold.step hstep)
      · intro id campaign' hcampaign' hlive
        rw [hversions]
        have hwas : ∃ before, pool.shared.campaigns.find? id = some before ∧
            before.currentVersion = campaign'.currentVersion ∧
            (before.status = .active ∨ before.status = .paused) := by
          rcases hsets.cases hcampaign' with ⟨rfl, before, hbefore, rfl⟩ | ⟨-, hbefore⟩
          · obtain rfl := Option.some.inj (hbefore.symm.trans hcampaign)
            refine ⟨before, hbefore, rfl, ?_⟩
            rw [hcurrent]
            exact live_of_transition htransition hlive
          · exact ⟨campaign', hbefore, rfl, hlive⟩
        obtain ⟨before, hbefore, hnumber, hlive⟩ := hwas
        obtain ⟨row, hrow, hold⟩ := h.current id before hbefore hlive
        exact ⟨row, hnumber ▸ hrow, hold.step hstep⟩

/-- The signatures in the reachable states, when no call is overtaken. -/
theorem signed_of_reachable (h : (system runtime).Reachable NotOvertaken pool) :
    Signed runtime pool := by
  refine h.invariant (P := Signed runtime) ?_ ?_
  · rintro pool ⟨hempty, -⟩
    constructor
    · intro campaignId number version hversion
      rw [hempty] at hversion
      cases hversion
    · intro campaignId campaign hcampaign
      rw [hempty] at hcampaign
      cases hcampaign
  · intro pool event pool' hreachable ih hok hstep
    have hstep' := hstep
    cases hstep with
    | start call => exact ih.of_same hstep' rfl
    | @resume i call op resume u answer hi hhandle =>
        obtain ⟨hcovered, hneed⟩ := need_of_reachable hreachable hi
        have hcall : call ∈ pool.calls.map Prod.fst :=
          List.mem_map_of_mem (List.mem_of_getElem? hi)
        exact ih.of_writes hstep' hcall (writes_of_handle hhandle) hcovered hneed
          (hok i call op resume rfl hi)
    | @outside x u hx => exact nomatch x

/-- A closed campaign is closed after a step of a call that is not overtaken. -/
theorem Writes.closed {call : CampaignCall ν} {op : Op ν} (h : Writes db op db')
    (hneed : need runtime call db op) (hovertaken : ¬ Overtaken db op) {id : String}
    {campaign : CampaignRecord} (hcampaign : db.campaigns.find? id = some campaign)
    (hclosed : campaign.status = .closed) :
    ∃ campaign', db'.campaigns.find? id = some campaign' ∧ campaign'.status = .closed := by
  cases h with
  | nothing => exact ⟨campaign, hcampaign, hclosed⟩
  | campaign _ hnew hcampaigns =>
      refine ⟨campaign, ?_, hclosed⟩
      rw [hcampaigns, if_neg, hcampaign]
      intro hid
      rw [hid, hcampaign] at hnew
      cases hnew
  | @version version updatedAt db' hsome _ hsets =>
      rw [hsets id]
      by_cases hid : version.campaignId = id
      · exact absurd ⟨hsome, campaign, hid ▸ hcampaign, hclosed⟩ hovertaken
      · rw [if_neg hid]
        exact ⟨campaign, hcampaign, hclosed⟩
  | @activation campaignId merchantKid merchantSignature now number version db' hunsigned _ hsets =>
      rw [hsets id]
      by_cases hid : campaignId = id
      · refine absurd ⟨?_, campaign, hid ▸ hcampaign, .inl hclosed⟩ hovertaken
        exact Option.isSome_of_eq_some hunsigned
      · rw [if_neg hid]
        exact ⟨campaign, hcampaign, hclosed⟩
  | @status campaignId now current next row db' hrow hcurrent _ hsets =>
      rw [hsets id]
      by_cases hid : campaignId = id
      · rw [if_pos hid, hcampaign]
        obtain rfl := Option.some.inj (hrow.symm.trans (hid ▸ hcampaign))
        obtain ⟨transition, rfl, htransition⟩ := hneed
        refine ⟨_, rfl, ?_⟩
        show transition.status = .closed
        rw [← hcurrent, hclosed] at htransition
        cases transition with
        | closed => rfl
        | paused => cases htransition
        | active => cases htransition
      · rw [if_neg hid]
        exact ⟨campaign, hcampaign, hclosed⟩

theorem closed_of_run (hreachable : (system runtime).Reachable NotOvertaken pool)
    (hrun : (system runtime).Run NotOvertaken pool pool') {id : String}
    {campaign : CampaignRecord} (hcampaign : pool.shared.campaigns.find? id = some campaign)
    (hclosed : campaign.status = .closed) :
    ∃ campaign', pool'.shared.campaigns.find? id = some campaign' ∧
      campaign'.status = .closed := by
  induction hrun with
  | refl => exact ⟨campaign, hcampaign, hclosed⟩
  | tail hrun hok hstep ih =>
      obtain ⟨between, hbetween, hstatus⟩ := ih
      have hreachable' := hreachable.run hrun
      cases hstep with
      | start call => exact ⟨between, hbetween, hstatus⟩
      | @resume i call op resume u answer hi hhandle =>
          obtain ⟨-, hneed⟩ := need_of_reachable hreachable' hi
          exact (writes_of_handle hhandle).closed hneed (hok i call op resume rfl hi) hbetween
            hstatus
      | @outside x u hx => exact nomatch x

end CampaignCalls

/-! ## Closed campaigns and signed terms -/

/-- In every run whose steps are allowed, a closed campaign stays closed, and the current version of
a campaign that is active or paused carries a signature that has verified over its terms. -/
structure StatusesKept (runtime : RegistryRuntime ν)
    (allowed : CampaignCalls.Calls ν → CampaignCalls.CallEvent ν → Prop) : Prop where
  closed : ∀ pool pool', (CampaignCalls.system runtime).Reachable allowed pool →
    (CampaignCalls.system runtime).Run allowed pool pool' →
    ∀ campaignId campaign, pool.shared.campaigns.find? campaignId = some campaign →
      campaign.status = .closed →
      ∃ campaign', pool'.shared.campaigns.find? campaignId = some campaign' ∧
        campaign'.status = .closed
  signed : ∀ pool, (CampaignCalls.system runtime).Reachable allowed pool →
    ∀ campaignId campaign, pool.shared.campaigns.find? campaignId = some campaign →
      campaign.status = .active ∨ campaign.status = .paused →
      ∃ version,
        pool.shared.versions.find? (campaignId, campaign.currentVersion) = some version ∧
          CampaignCalls.SignatureVerified runtime pool version

namespace Sample

open Async CampaignCalls

/-! A campaign is closed while a call that has read it makes a new version. -/

def creates : CampaignCall Whole := .createCampaign registryEnv campaignInput

def versions : CampaignCall Whole := .createCampaignVersion registryEnv versionInput

def closes : CampaignCall Whole := .updateCampaignStatus registryEnv campaignId .closed

theorem program_creates : ∃ resume, program registryRuntime creates =
    .await (.insertCampaign draftCampaign firstVersion) resume := by
  have hid : Registry.assertSplit402Id campaignId "campaign id" = .ok campaignId := rfl
  have hmerchant : Registry.assertSplit402Id campaignMerchantId "merchant id" =
      .ok campaignMerchantId := rfl
  have hbps : Registry.assertBasisPoints (.finite 1000) "commissionBps" = .ok 1000 := rfl
  have hrecord := @createCampaignVersionRecord_sample 1 _ hbps registryNow
  rw [digest_firstTerms] at hrecord
  have hcreate : createCampaign registryRuntime registryEnv campaignInput =
      write (.insertCampaign draftCampaign firstVersion) >>=
        fun _ => pure ⟨draftCampaign, firstVersion⟩ := by
    unfold createCampaign
    rw [now_registryEnv]
    exact (ofExcept_bind hid).trans ((ofExcept_bind hmerchant).trans (ofExcept_bind hrecord))
  refine await_of_waitsFor ?_
  show (createCampaign registryRuntime registryEnv campaignInput >>= _).waitsFor = _
  rw [hcreate]
  rfl

/-- A call that makes a version of the campaign reads it, and waits to write. -/
theorem program_versions : ∃ resume, program registryRuntime versions =
    .await (.loadCampaign campaignId) resume ∧ ∃ resume', resume (.ok (some draftCampaign)) =
      .await (.insertCampaignVersion secondVersion registryNow) resume' := by
  have hbps : Registry.assertBasisPoints (.finite 500) "commissionBps" = .ok 500 := rfl
  have hrecord := @createCampaignVersionRecord_sample 2 _ hbps registryNow
  rw [digest_secondTerms] at hrecord
  refine ⟨_, rfl, await_of_waitsFor ?_⟩
  have hopen : throwIf (draftCampaign.status = .closed)
      (.validation "closed campaigns cannot be versioned") = .ok () := rfl
  show ((check _ >>= fun _ => check (createCampaignVersionRecord registryRuntime campaignId
    campaignMerchantId 2 (termsInput 500) registryNow) >>= _) >>= _).waitsFor = _
  unfold check
  rw [ofExcept_bind hopen, ofExcept_bind hrecord]
  rfl

/-- A call that closes the campaign reads it, and waits to write. -/
theorem program_closes : ∃ resume, program registryRuntime closes =
    .await (.loadCampaign campaignId) resume ∧ ∃ resume', resume (.ok (some draftCampaign)) =
      .await (.updateCampaignStatus campaignId .draft .closed registryNow) resume' :=
  ⟨_, rfl, _, rfl⟩

def createdTables : CampaignRegistry Whole :=
  (serve .empty (.insertCampaign draftCampaign firstVersion)).1

def closedTables : CampaignRegistry Whole :=
  (serve createdTables (.updateCampaignStatus campaignId .draft .closed registryNow)).1

def reopenedTables : CampaignRegistry Whole :=
  (serve closedTables (.insertCampaignVersion secondVersion registryNow)).1

theorem find_createdTables : createdTables.campaigns.find? campaignId = some draftCampaign := by
  decide

theorem find_closedTables : closedTables.campaigns.find? campaignId =
    some (draftCampaign.moved .closed registryNow) := by
  decide

theorem find_reopenedTables : reopenedTables.campaigns.find? campaignId =
    some (CampaignRegistry.redraft secondVersion registryNow
      (draftCampaign.moved .closed registryNow)) := by
  decide

/-- The states that are reached in any way. -/
abbrev Reached (db : CampaignRegistry Whole)
    (calls : List (CampaignCall Whole × Await Whole (CampaignAnswer Whole))) : Prop :=
  (system registryRuntime).Reachable (fun _ _ => True) ⟨db, calls⟩

variable {db db' : CampaignRegistry Whole}
  {calls : List (CampaignCall Whole × Await Whole (CampaignAnswer Whole))} {call : CampaignCall Whole}

theorem Reached.start {p : Await Whole (CampaignAnswer Whole)} (h : Reached db calls)
    (hp : program registryRuntime call = p) : Reached db (calls ++ [(call, p)]) := by
  rw [← hp]
  exact h.step trivial (Pool.Step.start (⟨db, calls⟩ : Calls Whole) call)

theorem resume_step {i : Nat} {op : Op Whole} {answer : Except CallError op.Answer}
    {resume : Except CallError op.Answer → Await Whole (CampaignAnswer Whole)}
    (hi : calls[i]? = some (call, .await op resume)) (hserve : serve db op = (db', answer)) :
    (system registryRuntime).step ⟨db, calls⟩ (.resume i)
      ⟨db', calls.set i (call, resume answer)⟩ :=
  .resume hi (Attempt.of_serve hserve)

theorem Reached.resume {i : Nat} {op : Op Whole} {answer : Except CallError op.Answer}
    {resume : Except CallError op.Answer → Await Whole (CampaignAnswer Whole)}
    {p : Await Whole (CampaignAnswer Whole)} (h : Reached db calls)
    (hi : calls[i]? = some (call, .await op resume)) (hserve : serve db op = (db', answer))
    (hp : resume answer = p) : Reached db' (calls.set i (call, p)) := by
  rw [← hp]
  exact System.Reachable.step h trivial (resume_step hi hserve)

end Sample

end Split402
