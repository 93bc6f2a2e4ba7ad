import Split402.Proof.RegistryOps
import Split402.Proof.ScopeAnswers
import Split402.Registry.RouteCalls

/-! # Overlapping rotations

The two writes of a rotation. Only one call can insert the next version of a route, since the
versions have a key, and until that call has updated the row of the route no other call can rotate
it: so a rotation is whole when both writes are, and a rotation whose second write is missing is
never mended. -/

namespace Split402

open Base

variable {ν : Type} {runtime : RegistryRuntime ν}

namespace RouteCalls

open Async RouteDb

variable {db db' : RouteDb}

/-! ## What the statements write -/

/-- The row of a route is set. -/
def Sets (routeId : String) (row : RouteRow) (db db' : RouteDb) : Prop :=
  ∀ k, db'.routes.find? k = if routeId = k then some row else db.routes.find? k

/-- What a statement has done to the tables: nothing, or what it writes. -/
inductive Writes (runtime : RegistryRuntime ν) (db : RouteDb) : Op → RouteDb → Prop
  | nothing (op : Op) : Writes runtime db op db
  | version {version : RouteVersionRecord} {row : RouteVersionRow} {db' : RouteDb} :
      routeVersionRow runtime version = .ok row →
      (∀ other ∈ db.routeVersions, other.claimHash ≠ row.claimHash) →
      db.routeVersions.find? row.key = none →
      (∀ k, db'.routeVersions.find? k = if row.key = k then some row
        else db.routeVersions.find? k) → db'.routes = db.routes →
      Writes runtime db (.insertRouteVersion version) db'
  | rotation {route : RouteRecord} {set : RouteRow → RouteRow} {row : RouteRow} {db' : RouteDb} :
      currentVersionSet runtime route = .ok set → db.routes.find? route.id = some row →
      row.currentVersion + 1 = route.currentVersion → db'.routeVersions = db.routeVersions →
      Sets route.id (set row) db db' → Writes runtime db (.updateRouteCurrentVersion route) db'
  | status {routeId : String} {source target : RouteStatus} {row : RouteRow} {db' : RouteDb} :
      db.routes.find? routeId = some row → row.status = source →
      db'.routeVersions = db.routeVersions → Sets routeId (row.moved target) db db' →
      Writes runtime db (.updateStatus routeId source target) db'

theorem currentVersionSet_eq_ok {route : RouteRecord} {set : RouteRow → RouteRow}
    (h : currentVersionSet runtime route = .ok set) (row : RouteRow) :
    (set row).id = row.id ∧ (set row).status = row.status ∧
      (set row).currentVersion = route.currentVersion ∧
      (set row).claimHash = route.claimHash ∧ (set row).payoutWallet = route.payoutWallet := by
  unfold currentVersionSet at h
  obtain ⟨number, hnumber, h⟩ := bind_eq_ok.mp h
  obtain ⟨_, _, h⟩ := bind_eq_ok.mp h
  obtain ⟨_, _, h⟩ := bind_eq_ok.mp h
  obtain ⟨_, _, h⟩ := bind_eq_ok.mp h
  rw [pure_eq_ok] at h
  subst h
  exact ⟨rfl, rfl, (integerColumn_eq_ok.mp hnumber).2.symm, rfl, rfl⟩

theorem routeVersionRow_eq_ok {version : RouteVersionRecord} {row : RouteVersionRow}
    (h : routeVersionRow runtime version = .ok row) :
    row.key = (version.routeId, version.version) ∧ row.claimHash = version.claimHash ∧
      row.payoutWallet = version.payoutWallet := by
  unfold routeVersionRow at h
  obtain ⟨number, hnumber, h⟩ := bind_eq_ok.mp h
  obtain ⟨_, _, h⟩ := bind_eq_ok.mp h
  obtain ⟨_, _, h⟩ := bind_eq_ok.mp h
  obtain ⟨_, _, h⟩ := bind_eq_ok.mp h
  obtain ⟨_, _, h⟩ := bind_eq_ok.mp h
  rw [pure_eq_ok] at h
  subst h
  refine ⟨?_, rfl, rfl⟩
  rw [RouteVersionRow.key, ← (integerColumn_eq_ok.mp hnumber).2]

/-- What goes into the row of a version goes into the row of the route. -/
theorem currentVersionSet_of_version {rotated : RouteRecord} {now : String} {row : RouteVersionRow}
    (h : routeVersionRow runtime (versionOf rotated now) = .ok row) :
    ∃ set, currentVersionSet runtime rotated = .ok set := by
  unfold routeVersionRow at h
  obtain ⟨number, hnumber, h⟩ := bind_eq_ok.mp h
  obtain ⟨_, hmin, h⟩ := bind_eq_ok.mp h
  obtain ⟨_, hissued, h⟩ := bind_eq_ok.mp h
  obtain ⟨_, hexpires, _⟩ := bind_eq_ok.mp h
  exact ⟨_, bind_eq_ok.mpr ⟨_, hnumber, bind_eq_ok.mpr ⟨_, hmin, bind_eq_ok.mpr ⟨_, hissued,
    bind_eq_ok.mpr ⟨_, hexpires, rfl⟩⟩⟩⟩⟩

theorem sets_upsert {routeId : String} {row : RouteRow} (h : row.id = routeId) :
    Sets routeId row db { db with routes := db.routes.upsert row } := by
  intro k
  show (db.routes.upsert row).find? k = _
  rw [Table.find?_upsert, h]

theorem writes_insertRouteVersion (version : RouteVersionRecord) :
    Writes runtime db (.insertRouteVersion version) (db.insertRouteVersion runtime version).1 := by
  unfold insertRouteVersion
  cases hrow : routeVersionRow runtime version with
  | error e => exact .nothing _
  | ok row =>
      dsimp only
      split
      · exact .nothing _
      · rename_i hhash
        split
        · exact .nothing _
        · rename_i hinsert
          obtain ⟨hfree, hfind⟩ := Table.find?_insert? hinsert
          refine .version hrow ?_ hfree hfind rfl
          rw [Bool.not_eq_true, List.any_eq_false] at hhash
          intro other hother hsame
          exact hhash other hother (decide_eq_true hsame)

theorem writes_updateRouteCurrentVersion (route : RouteRecord) :
    Writes runtime db (.updateRouteCurrentVersion route)
      (db.updateRouteCurrentVersion runtime route).1 := by
  unfold updateRouteCurrentVersion
  cases hset : currentVersionSet runtime route with
  | error e => exact .nothing _
  | ok set =>
      dsimp only
      split
      · exact .nothing _
      · rename_i row hrow
        obtain ⟨hfound, hnumber⟩ := Option.filter_eq_some_iff.mp hrow
        split
        · exact .nothing _
        · refine .rotation hset hfound (of_decide_eq_true hnumber) rfl (sets_upsert ?_)
          exact (currentVersionSet_eq_ok hset row).1.trans (Table.key_of_find? hfound)

theorem writes_updateStatus (routeId : String) (source target : RouteStatus) :
    Writes runtime db (.updateStatus routeId source target)
      (db.updateStatus routeId source target).1 := by
  unfold updateStatus
  split
  · exact .nothing _
  · rename_i row hrow
    obtain ⟨hfound, hstatus⟩ := Option.filter_eq_some_iff.mp hrow
    have hid : row.id = routeId := Table.key_of_find? hfound
    exact .status hfound (of_decide_eq_true hstatus) rfl (sets_upsert hid)

theorem writes_serve (runtime : RegistryRuntime ν) (db : RouteDb) (op : Op) :
    Writes runtime db op (serve runtime db op).1 := by
  cases op with
  | getRoute routeId => exact .nothing _
  | getRouteVersionByClaimHash claimHash => exact .nothing _
  | insertRouteVersion version => exact writes_insertRouteVersion version
  | updateRouteCurrentVersion route => exact writes_updateRouteCurrentVersion route
  | updateStatus routeId source target => exact writes_updateStatus routeId source target

theorem writes_of_handle {call : RouteCall} {op : Op} {answer : Except CallError op.Answer}
    (h : handle runtime call db op db' answer) : Writes runtime db op db' := by
  have hserved := writes_serve runtime db op
  unfold handle at h
  split at h
  · rcases StatementFate.state h with rfl | rfl
    · exact .nothing op
    · exact hserved
  · rcases h.state with rfl | rfl
    · exact .nothing op
    · exact hserved

/-! ## The versions of the routes -/

/-- The versions of the routes: they are numbered up to the current one, which the row of the route
agrees with, and no version is more than `ahead` of it. -/
structure Consistent (ahead : Nat) (db : RouteDb) : Prop where
  numbered : ∀ routeId row, db.routes.find? routeId = some row → 1 ≤ row.currentVersion ∧
    ∀ number, 1 ≤ number → number ≤ row.currentVersion →
      ∃ version, db.routeVersions.find? (routeId, number) = some version
  current : ∀ routeId row version, db.routes.find? routeId = some row →
    db.routeVersions.find? (routeId, row.currentVersion) = some version →
    version.claimHash = row.claimHash ∧ version.payoutWallet = row.payoutWallet
  greatest : ∀ routeId row number version, db.routes.find? routeId = some row →
    db.routeVersions.find? (routeId, number) = some version →
    number ≤ row.currentVersion + ahead
  hashes : ∀ key key' version version', db.routeVersions.find? key = some version →
    db.routeVersions.find? key' = some version' → version.claimHash = version'.claimHash →
    key = key'

/-- Routes and versions stay, and the number of the current version only grows. -/
structure Persists (db db' : RouteDb) : Prop where
  routes : ∀ routeId row, db.routes.find? routeId = some row →
    ∃ row', db'.routes.find? routeId = some row' ∧ row.currentVersion ≤ row'.currentVersion
  versions : ∀ key version, db.routeVersions.find? key = some version →
    db'.routeVersions.find? key = some version

theorem Persists.refl (db : RouteDb) : Persists db db where
  routes _ row h := ⟨row, h, Nat.le_refl _⟩
  versions _ _ h := h

theorem Persists.trans {db'' : RouteDb} (h : Persists db db') (h' : Persists db' db'') :
    Persists db db'' where
  routes routeId row hrow := by
    obtain ⟨row', hrow', hle⟩ := h.routes routeId row hrow
    obtain ⟨row'', hrow'', hle'⟩ := h'.routes routeId row' hrow'
    exact ⟨row'', hrow'', Nat.le_trans hle hle'⟩
  versions key version hversion := h'.versions key version (h.versions key version hversion)

/-- The version of a rotation is there. -/
def HasVersion (db : RouteDb) (route : RouteRecord) : Prop :=
  ∃ version, db.routeVersions.find? (route.id, route.currentVersion) = some version ∧
    version.claimHash = route.claimHash ∧ version.payoutWallet = route.payoutWallet

/-- What a call has seen to when it writes. -/
def need (runtime : RegistryRuntime ν) (_ : RouteCall) (db : RouteDb) : Op → Prop
  | .insertRouteVersion version =>
      ∃ row, db.routes.find? version.routeId = some row ∧ 1 ≤ version.version ∧
        version.version ≤ row.currentVersion + 1
  | .updateRouteCurrentVersion route =>
      (∃ set, currentVersionSet runtime route = .ok set) ∧ HasVersion db route
  | _ => True

/-- What is there stays. -/
theorem Writes.persists {op : Op} (h : Writes runtime db op db') : Persists db db' := by
  -- a row that is set under its own id, to a number that is not lower
  have hsets : ∀ {routeId row set}, db.routes.find? routeId = some row →
      row.currentVersion ≤ set.currentVersion → Sets routeId set db db' → ∀ id old,
      db.routes.find? id = some old →
      ∃ new, db'.routes.find? id = some new ∧ old.currentVersion ≤ new.currentVersion := by
    intro routeId row set hrow hle hsets id old hold
    rw [hsets id]
    by_cases hid : routeId = id
    · rw [if_pos hid]
      obtain rfl := Option.some.inj ((hid ▸ hrow).symm.trans hold)
      exact ⟨set, rfl, hle⟩
    · rw [if_neg hid]
      exact ⟨old, hold, Nat.le_refl _⟩
  cases h with
  | nothing => exact .refl db
  | @version version row db' hrow _ hfree hfind hroutes =>
      refine ⟨fun id old hold => ⟨old, hroutes ▸ hold, Nat.le_refl _⟩, fun key old hold => ?_⟩
      rw [hfind, if_neg, hold]
      intro hkey
      rw [hkey, hold] at hfree
      cases hfree
  | @rotation route set row db' hset hrow hnumber hversions hroutes =>
      refine ⟨hsets hrow ?_ hroutes, fun key old hold => hversions ▸ hold⟩
      have hcurrent := (currentVersionSet_eq_ok hset row).2.2.1
      omega
  | @status routeId source target row db' hrow _ hversions hroutes =>
      have hle : row.currentVersion ≤ (row.moved target).currentVersion := Nat.le_refl _
      exact ⟨hsets hrow hle hroutes, fun key old hold => hversions ▸ hold⟩

/-- A row that is set, or is not. -/
theorem Sets.cases {routeId id : String} {set row : RouteRow} (h : Sets routeId set db db')
    (hrow : db'.routes.find? id = some row) :
    (routeId = id ∧ set = row) ∨ (routeId ≠ id ∧ db.routes.find? id = some row) := by
  rw [h id] at hrow
  by_cases hid : routeId = id
  · rw [if_pos hid] at hrow
    exact .inl ⟨hid, Option.some.inj hrow⟩
  · rw [if_neg hid] at hrow
    exact .inr ⟨hid, hrow⟩

/-- A version is inserted under the next number of its route. -/
theorem next_of_free {version : RouteVersionRecord} {row : RouteRow} (h : Consistent 1 db)
    (hrow : db.routes.find? version.routeId = some row) (hpos : 1 ≤ version.version)
    (hle : version.version ≤ row.currentVersion + 1)
    (hfree : db.routeVersions.find? (version.routeId, version.version) = none) :
    version.version = row.currentVersion + 1 := by
  by_contra hne
  obtain ⟨_, hall⟩ := h.numbered _ _ hrow
  obtain ⟨old, hold⟩ := hall version.version hpos (by omega)
  rw [hold] at hfree
  cases hfree

/-- The versions of the routes stay consistent: at most the next version of a route is there before
the row of the route is updated. -/
theorem Writes.consistent {call : RouteCall} {op : Op} (h : Writes runtime db op db')
    (hdb : Consistent 1 db) (hneed : need runtime call db op) : Consistent 1 db' := by
  cases h with
  | nothing => exact hdb
  | @version version row db' hrow hhashes hfree hfind hroutes =>
      obtain ⟨route, hroute, hpos, hle⟩ := hneed
      obtain ⟨hkey, -, -⟩ := routeVersionRow_eq_ok hrow
      rw [hkey] at hfree hfind
      have hnext := next_of_free hdb hroute hpos hle hfree
      have hkeeps : ∀ key old, db.routeVersions.find? key = some old →
          db'.routeVersions.find? key = some old := by
        intro key old hold
        rw [hfind, if_neg, hold]
        intro hsame
        rw [hsame, hold] at hfree
        cases hfree
      constructor
      · intro id old hold
        rw [hroutes] at hold
        obtain ⟨hone, hall⟩ := hdb.numbered id old hold
        refine ⟨hone, fun number hnumber hlast => ?_⟩
        obtain ⟨before, hbefore⟩ := hall number hnumber hlast
        exact ⟨before, hkeeps _ _ hbefore⟩
      · intro id old current hold hcurrent
        rw [hroutes] at hold
        rw [hfind] at hcurrent
        by_cases hsame : (version.routeId, version.version) = (id, old.currentVersion)
        · -- the new version is not the current one
          obtain ⟨rfl, hnumber⟩ := Prod.mk.inj hsame
          obtain rfl := Option.some.inj (hroute.symm.trans hold)
          omega
        · rw [if_neg hsame] at hcurrent
          exact hdb.current id old current hold hcurrent
      · intro id old number found hold hfound
        rw [hroutes] at hold
        rw [hfind] at hfound
        by_cases hsame : (version.routeId, version.version) = (id, number)
        · obtain ⟨rfl, rfl⟩ := Prod.mk.inj hsame
          obtain rfl := Option.some.inj (hroute.symm.trans hold)
          exact hle
        · rw [if_neg hsame] at hfound
          exact hdb.greatest id old number found hold hfound
      · intro key key' found found' hfound hfound' hsame
        rw [hfind] at hfound hfound'
        by_cases hnew : (version.routeId, version.version) = key
        · by_cases hnew' : (version.routeId, version.version) = key'
          · exact hnew.symm.trans hnew'
          · rw [if_pos hnew, Option.some.injEq] at hfound
            rw [if_neg hnew'] at hfound'
            rw [← hfound] at hsame
            exact absurd hsame.symm (hhashes _ (Table.mem_of_find? hfound'))
        · rw [if_neg hnew] at hfound
          by_cases hnew' : (version.routeId, version.version) = key'
          · rw [if_pos hnew', Option.some.injEq] at hfound'
            rw [← hfound'] at hsame
            exact absurd hsame (hhashes _ (Table.mem_of_find? hfound))
          · rw [if_neg hnew'] at hfound'
            exact hdb.hashes key key' found found' hfound hfound' hsame
  | @rotation route set row db' hset hrow hnumber hversions hroutes =>
      obtain ⟨-, version, hversion, hhash, hwallet⟩ := hneed
      obtain ⟨-, -, hcurrent, hsetHash, hsetWallet⟩ := currentVersionSet_eq_ok hset row
      constructor
      · intro id new hnew
        rw [hversions]
        rcases hroutes.cases hnew with ⟨rfl, rfl⟩ | ⟨-, hold⟩
        · obtain ⟨hone, hall⟩ := hdb.numbered _ _ hrow
          refine ⟨by omega, fun number hpos hle => ?_⟩
          by_cases hlast : number = route.currentVersion
          · exact ⟨version, hlast ▸ hversion⟩
          · exact hall number hpos (by omega)
        · exact hdb.numbered id new hold
      · intro id new current hnew hfound
        rw [hversions] at hfound
        rcases hroutes.cases hnew with ⟨rfl, rfl⟩ | ⟨-, hold⟩
        · rw [hcurrent, hversion, Option.some.injEq] at hfound
          rw [← hfound, hsetHash, hsetWallet]
          exact ⟨hhash, hwallet⟩
        · exact hdb.current id new current hold hfound
      · intro id new number found hnew hfound
        rw [hversions] at hfound
        rcases hroutes.cases hnew with ⟨rfl, rfl⟩ | ⟨-, hold⟩
        · have hle := hdb.greatest _ _ number found hrow hfound
          omega
        · exact hdb.greatest id new number found hold hfound
      · intro key key' found found' hfound hfound'
        rw [hversions] at hfound hfound'
        exact hdb.hashes key key' found found' hfound hfound'
  | @status routeId source target row db' hrow _ hversions hroutes =>
      -- a row in another status has the number, the hash and the wallet that it had
      have hwas : ∀ id new, db'.routes.find? id = some new → ∃ old, db.routes.find? id = some old ∧
          old.currentVersion = new.currentVersion ∧ old.claimHash = new.claimHash ∧
          old.payoutWallet = new.payoutWallet := by
        intro id new hnew
        rcases hroutes.cases hnew with ⟨rfl, rfl⟩ | ⟨-, hold⟩
        · exact ⟨row, hrow, rfl, rfl, rfl⟩
        · exact ⟨new, hold, rfl, rfl, rfl⟩
      constructor
      · intro id new hnew
        obtain ⟨old, hold, hnumber, -⟩ := hwas id new hnew
        rw [hversions, ← hnumber]
        exact hdb.numbered id old hold
      · intro id new current hnew hcurrent
        obtain ⟨old, hold, hnumber, hhash, hwallet⟩ := hwas id new hnew
        rw [hversions, ← hnumber] at hcurrent
        rw [← hhash, ← hwallet]
        exact hdb.current id old current hold hcurrent
      · intro id new number found hnew hfound
        obtain ⟨old, hold, hnumber, -⟩ := hwas id new hnew
        rw [hversions] at hfound
        rw [← hnumber]
        exact hdb.greatest id old number found hold hfound
      · intro key key' found found' hfound hfound'
        rw [hversions] at hfound hfound'
        exact hdb.hashes key key' found found' hfound hfound'

/-! ## What a call writes, by itself -/

abbrev Sees (runtime : RegistryRuntime ν) {α : Type} (call : RouteCall)
    (post : RouteDb → Except CallError α → Prop) (p : Await α) (db : RouteDb) : Prop :=
  Meets (handle runtime) (Consistent 1) (fun _ _ => Persists) (need runtime) call post p db

/-- Whatever a call returns. -/
def Whatever {α : Type} (_ : RouteDb) (_ : Except CallError α) : Prop := True

section Sees

variable {call : RouteCall} {α β : Type}

theorem sees_done (result : Except CallError α) : Sees runtime call Whatever (.done result) db :=
  .done trivial

theorem sees_bind {p : Await α} {next : α → Await β} (h : Sees runtime call Whatever p db)
    (hnext : ∀ db a, Sees runtime call Whatever (next a) db) :
    Sees runtime call Whatever (p >>= next) db :=
  h.bind (fun db a _ => hnext db a) (fun _ _ _ => trivial)

theorem sees_check {result : Except RegistryError α} {next : α → Await β}
    (h : ∀ a, result = .ok a → Sees runtime call Whatever (next a) db) :
    Sees runtime call Whatever (check result >>= next) db :=
  Meets.ofExcept_bind h (fun _ _ => trivial)

theorem sees_call {op : Op} {next : op.Answer → Await β}
    (hneed : ∀ db', Persists db db' → need runtime call db' op)
    (hnext : ∀ db' a, Persists db db' → Sees runtime call Whatever (next a) db') :
    Sees runtime call Whatever (Async.call op >>= next) db := by
  refine Meets.call_bind (fun db' _ => hneed db') ?_ (fun _ _ _ _ _ _ => trivial)
  intro t u a _ hrely hhandle
  exact hnext u a (hrely.trans (writes_of_handle hhandle).persists)

/-- The row of a route is read, and what it maps to. -/
theorem sees_getRoute {routeId : String} {next : Option RouteRecord → Await β}
    (hnone : ∀ db', Sees runtime call Whatever (next none) db')
    (hsome : ∀ db' row route, db'.routes.find? routeId = some row →
      mapRoute runtime row = .ok route → Sees runtime call Whatever (next (some route)) db') :
    Sees runtime call Whatever (getRoute runtime routeId >>= next) db := by
  unfold getRoute mapRow
  rw [Async.bind_assoc]
  refine Meets.call_bind (fun _ _ _ => trivial) ?_ (fun _ _ _ _ _ _ => trivial)
  intro t u read _ _ hread
  have hserved : serve runtime t (.getRoute routeId) = (u, .ok read) := Attempt.of_ok hread
  obtain ⟨rfl, hanswer⟩ := Prod.mk.inj hserved
  obtain rfl := Except.ok.inj hanswer
  refine sees_check fun route hroute => ?_
  cases hrow : t.routes.find? routeId with
  | none =>
      rw [hrow] at hroute
      obtain rfl := Except.ok.inj hroute
      exact hnone t
  | some row =>
      rw [hrow] at hroute
      obtain ⟨mapped, hmapped, rfl⟩ := map_eq_ok.mp hroute
      exact hsome t row mapped hrow hmapped

theorem sees_getRouteVersionByClaimHash {claimHash : String}
    {next : Option RouteVersionRecord → Await β}
    (hnext : ∀ db' version, Persists db db' → Sees runtime call Whatever (next version) db') :
    Sees runtime call Whatever (getRouteVersionByClaimHash runtime claimHash >>= next) db := by
  unfold getRouteVersionByClaimHash
  rw [Async.bind_assoc]
  refine sees_call (fun _ _ => trivial) fun db' row hpersists => ?_
  exact sees_check fun version _ => hnext db' version hpersists

end Sees

/-- An insertion that answers has inserted the version. -/
theorem insertRouteVersion_eq_ok {version : RouteVersionRecord} {answer : Unit}
    (h : db.insertRouteVersion runtime version = (db', .ok answer)) :
    ∃ row, routeVersionRow runtime version = .ok row ∧
      db'.routeVersions.find? (version.routeId, version.version) = some row := by
  unfold insertRouteVersion at h
  cases hrow : routeVersionRow runtime version with
  | error e =>
      rw [hrow] at h
      cases (Prod.mk.inj h).2
  | ok row =>
      rw [hrow] at h
      dsimp only at h
      split at h
      · cases (Prod.mk.inj h).2
      · split at h
        · cases (Prod.mk.inj h).2
        · rename_i hinsert
          obtain ⟨rfl, -⟩ := Prod.mk.inj h
          refine ⟨row, rfl, ?_⟩
          rw [← (routeVersionRow_eq_ok hrow).1]
          exact ((Table.find?_insert? hinsert).2 _).trans (if_pos rfl)

theorem sees_writeRotation {call : RouteCall} {rotated : RouteRecord} {now : String}
    (hneed : ∀ db', Persists db db' →
      need runtime call db' (.insertRouteVersion (versionOf rotated now))) :
    Sees runtime call Whatever (writeRotation runtime rotated now) db := by
  unfold writeRotation
  refine Meets.call_bind (fun db' _ => hneed db') ?_ (fun _ _ _ _ _ _ => trivial)
  intro t u answer _ _ hinsert
  obtain ⟨row, hrow, hfound⟩ := insertRouteVersion_eq_ok (StatementFate.of_ok hinsert)
  obtain ⟨-, hhash, hwallet⟩ := routeVersionRow_eq_ok hrow
  refine sees_call ?_ fun _ updated _ => ?_
  · intro db' hpersists
    refine ⟨currentVersionSet_of_version hrow, row, hpersists.versions _ _ hfound, hhash, hwallet⟩
  · exact sees_check fun _ _ => sees_done _

theorem sees_afterFailedWrite (call : RouteCall) (rotated : RouteRecord) (error : CallError) :
    Sees runtime call Whatever (afterFailedWrite runtime rotated error) db := by
  unfold afterFailedWrite
  split
  · exact sees_done _
  · refine sees_getRouteVersionByClaimHash fun _ duplicate _ => ?_
    split
    · refine sees_getRoute (fun _ => sees_done _) fun _ _ _ _ _ => sees_done _
    · exact sees_done _

theorem sees_rotateRoutePayout (call : RouteCall) (env : CallEnv) (routeId : String)
    (claim : Option ReferralClaimV1) :
    Sees runtime call Whatever (rotateRoutePayout runtime env routeId claim) db := by
  unfold rotateRoutePayout
  refine sees_getRoute (fun _ => sees_done _) fun read row existing hrow hmapped => ?_
  obtain ⟨-, -, rfl⟩ := mapRoute_eq_ok.mp hmapped
  have hid : row.id = routeId := Table.key_of_find? hrow
  dsimp only
  unfold rotateRoute
  refine sees_check fun _ _ => ?_
  refine sees_check fun validated _ => ?_
  refine sees_check fun _ _ => ?_
  unfold rotateTo
  refine sees_getRouteVersionByClaimHash fun between version hbetween => ?_
  cases version with
  | some existingVersion => exact sees_check fun _ _ => sees_done _
  | none =>
      refine (sees_writeRotation ?_).tryCatch (fun _ _ _ => trivial)
        (fun _ e _ => sees_afterFailedWrite call _ e)
      intro db' hpersists
      obtain ⟨row', hrow', hle⟩ := (hbetween.trans hpersists).routes _ _ hrow
      refine ⟨row', ?_, Nat.le_add_left 1 _, Nat.add_le_add_right hle 1⟩
      show db'.routes.find? row.id = some row'
      rw [hid]
      exact hrow'

theorem sees_moveRoute (call : RouteCall) (source target : RouteStatus) (verb routeId : String) :
    Sees runtime call Whatever (moveRoute runtime source target verb routeId) db := by
  unfold moveRoute
  refine sees_getRoute (fun _ => sees_done _) fun _ _ existing _ _ => ?_
  dsimp only
  split
  · exact sees_done _
  · refine sees_check fun _ _ => ?_
    refine sees_call (fun _ _ => trivial) fun _ row _ => ?_
    refine sees_check fun moved _ => ?_
    cases moved with
    | some moved => exact sees_done _
    | none =>
        refine sees_getRoute (fun _ => sees_done _) fun _ _ current _ _ => ?_
        dsimp only
        split <;> exact sees_done _

theorem sees_program (call : RouteCall) (db : RouteDb) :
    Sees runtime call Whatever (program runtime call) db := by
  unfold program
  cases call.request with
  | rotateRoutePayout routeId claim =>
      exact sees_bind (sees_rotateRoutePayout call _ routeId claim) fun _ _ => sees_done _
  | suspendRoute routeId => exact sees_moveRoute call _ _ _ routeId
  | resumeRoute routeId => exact sees_moveRoute call _ _ _ routeId

/-! ## What follows an insertion -/

/-- An insertion that succeeds is followed by the update of the route. -/
def UpdatesAfter (op : Op)
    (resume : Except CallError op.Answer → Await (Option RouteRecord)) : Prop :=
  match op with
  | .insertRouteVersion version =>
      ∃ route next, resume (.ok ()) = .await (.updateRouteCurrentVersion route) next ∧
        route.id = version.routeId ∧ route.currentVersion = version.version
  | _ => True

section Follows

variable {α : Type} {next : α → Await (Option RouteRecord)}

theorem follows_check {result : Except RegistryError α}
    (h : ∀ a, Everywhere UpdatesAfter (next a)) : Everywhere UpdatesAfter (check result >>= next) := by
  cases result with
  | ok a => exact h a
  | error e => exact .done _

theorem follows_getRoute {routeId : String} {next : Option RouteRecord → Await (Option RouteRecord)}
    (h : ∀ route, Everywhere UpdatesAfter (next route)) :
    Everywhere UpdatesAfter (getRoute runtime routeId >>= next) := by
  refine .await trivial fun answer => ?_
  cases answer with
  | ok row => exact follows_check h
  | error e => exact .done _

theorem follows_getRouteVersionByClaimHash {claimHash : String}
    {next : Option RouteVersionRecord → Await (Option RouteRecord)}
    (h : ∀ version, Everywhere UpdatesAfter (next version)) :
    Everywhere UpdatesAfter (getRouteVersionByClaimHash runtime claimHash >>= next) := by
  refine .await trivial fun answer => ?_
  cases answer with
  | ok row => exact follows_check h
  | error e => exact .done _

theorem follows_afterFailedWrite {rotated : RouteRecord} {error : CallError}
    {next : RouteRecord → Await (Option RouteRecord)}
    (h : ∀ route, Everywhere UpdatesAfter (next route)) :
    Everywhere UpdatesAfter (afterFailedWrite runtime rotated error >>= next) := by
  unfold afterFailedWrite
  split
  · exact .done _
  · rw [Async.bind_assoc]
    refine follows_getRouteVersionByClaimHash fun duplicate => ?_
    split
    · rw [Async.bind_assoc]
      refine follows_getRoute fun current => ?_
      cases current with
      | none => exact .done _
      | some current => exact h current
    · exact .done _

theorem follows_writeRotation {rotated : RouteRecord} {now : String}
    {next : RouteRecord → Await (Option RouteRecord)}
    (h : ∀ route, Everywhere UpdatesAfter (next route)) :
    Everywhere UpdatesAfter
      ((writeRotation runtime rotated now).tryCatch (afterFailedWrite runtime rotated) >>= next) := by
  refine .await ⟨rotated, _, rfl, rfl, rfl⟩ fun inserted => ?_
  cases inserted with
  | error e => exact follows_afterFailedWrite h
  | ok _ =>
      refine .await trivial fun updated => ?_
      cases updated with
      | error e => exact follows_afterFailedWrite h
      | ok row =>
          show Everywhere UpdatesAfter
            ((mapRow runtime row >>= fun updated => pure (updated.getD rotated)).tryCatch
              (afterFailedWrite runtime rotated) >>= next)
          unfold mapRow check Async.ofExcept
          cases row.mapM (RouteDb.mapRoute runtime) with
          | error e => exact follows_afterFailedWrite h
          | ok route => exact h (route.getD rotated)

end Follows

theorem follows_moveRoute (source target : RouteStatus) (verb routeId : String) :
    Everywhere UpdatesAfter (moveRoute runtime source target verb routeId) := by
  unfold moveRoute
  refine follows_getRoute fun existing => ?_
  cases existing with
  | none => exact .done _
  | some existing =>
      dsimp only
      split
      · exact .done _
      · refine follows_check fun _ => ?_
        refine .await trivial fun answer => ?_
        cases answer with
        | error e => exact .done _
        | ok row =>
            refine follows_check fun moved => ?_
            cases moved with
            | some moved => exact .done _
            | none =>
                refine follows_getRoute fun current => ?_
                cases current with
                | none => exact .done _
                | some current =>
                    dsimp only
                    split <;> exact .done _

theorem follows_program (runtime : RegistryRuntime ν) (call : RouteCall) :
    Everywhere UpdatesAfter (program runtime call) := by
  unfold program
  cases call.request with
  | suspendRoute routeId => exact follows_moveRoute _ _ _ routeId
  | resumeRoute routeId => exact follows_moveRoute _ _ _ routeId
  | rotateRoutePayout routeId claim =>
      dsimp only
      unfold rotateRoutePayout
      rw [Async.bind_assoc]
      refine follows_getRoute fun existing => ?_
      cases existing with
      | none => exact .done _
      | some existing =>
          dsimp only
          unfold rotateRoute
          rw [Async.bind_assoc]
          refine follows_check fun _ => ?_
          rw [Async.bind_assoc]
          refine follows_check fun validated => ?_
          rw [Async.bind_assoc]
          refine follows_check fun _ => ?_
          unfold rotateTo
          rw [Async.bind_assoc]
          refine follows_getRouteVersionByClaimHash fun version => ?_
          cases version with
          | some existingVersion =>
              dsimp only
              rw [Async.bind_assoc]
              exact follows_check fun _ => .done _
          | none => exact follows_writeRotation fun _ => .done _

/-! ## The calls together -/

/-- The calls, on tables in which the row of every route agrees with its greatest version. -/
def system (runtime : RegistryRuntime ν) : System Calls CallEvent :=
  Pool.system (handle runtime) (fun _ x _ => nomatch x) (program runtime) (Consistent 0)

variable {ok : Calls → CallEvent → Prop} {pool pool' : Calls} {event : CallEvent}

theorem Consistent.mono {ahead ahead' : Nat} (h : Consistent ahead db) (hle : ahead ≤ ahead') :
    Consistent ahead' db where
  numbered := h.numbered
  current := h.current
  greatest routeId row number version hrow hversion :=
    Nat.le_trans (h.greatest routeId row number version hrow hversion) (Nat.add_le_add_left hle _)
  hashes := h.hashes

/-- The tables of a reachable state are consistent, and every call sees to what it needs. -/
theorem sees_of_reachable (h : (system runtime).Reachable ok pool) :
    Consistent 1 pool.shared ∧
      ∀ entry ∈ pool.calls, Sees runtime entry.1 Whatever entry.2 pool.shared := by
  refine Pool.meets h (fun db hdb => hdb.mono (Nat.zero_le 1)) ?_ nofun
    (fun call db _ => sees_program call db) (fun _ _ _ _ _ => Persists.trans)
    (fun _ _ => Persists.refl) (fun _ _ _ _ _ _ => trivial) ?_
  · intro call db op db' answer hdb hneed hhandle
    exact (writes_of_handle hhandle).consistent hdb hneed
  · intro pool pool' event i call p _ _ hstep _ _ _
    cases hstep with
    | start c => exact .refl _
    | resume hi hhandle => exact (writes_of_handle hhandle).persists
    | @outside x u hx => exact nomatch x

theorem follows_of_reachable (h : (system runtime).Reachable ok pool) :
    ∀ entry ∈ pool.calls, Everywhere UpdatesAfter entry.2 := by
  refine h.invariant (P := fun pool => ∀ entry ∈ pool.calls, Everywhere UpdatesAfter entry.2) ?_ ?_
  · rintro pool ⟨-, hempty⟩ entry hentry
    rw [hempty] at hentry
    cases hentry
  · intro pool event pool' _ ih _ hstep entry hentry
    rcases Pool.mem_calls_of_step hstep hentry with ⟨i, hi, -⟩ | ⟨call, -, rfl, -⟩ |
      ⟨i, call, op, resume, answer, -, hi, -, rfl⟩
    · exact ih entry (List.mem_of_getElem? hi)
    · exact follows_program runtime call
    · exact (ih _ (List.mem_of_getElem? hi)).resume.2 answer

/-- What a call that is resumed has seen to, and how it goes on. -/
theorem need_of_reachable (h : (system runtime).Reachable ok pool) {i : Nat} {call : RouteCall}
    {op : Op} {resume : Except CallError op.Answer → Await (Option RouteRecord)}
    (hi : pool.calls[i]? = some (call, .await op resume)) :
    Consistent 1 pool.shared ∧ need runtime call pool.shared op ∧ UpdatesAfter op resume := by
  obtain ⟨hdb, hsees⟩ := sees_of_reachable h
  have hfollows := follows_of_reachable h _ (List.mem_of_getElem? hi)
  cases hsees _ (List.mem_of_getElem? hi) with
  | await hneed _ => exact ⟨hdb, hneed _ hdb (Persists.refl _), hfollows.resume.1⟩

/-! ## The next version of a route -/

/-- A call waits to make a version the current one. -/
def Awaited (pool : Calls) (routeId : String) (number : Nat) : Prop :=
  ∃ (i : Nat) (call : RouteCall) (route : RouteRecord)
    (resume : Except CallError (Option RouteRow) → Await (Option RouteRecord)),
    pool.calls[i]? = some (call, .await (.updateRouteCurrentVersion route) resume) ∧
      route.id = routeId ∧ route.currentVersion = number

/-- The next version of a route is there only while a call waits to make it the current one. -/
def NextAwaited (pool : Calls) : Prop :=
  ∀ routeId row version, pool.shared.routes.find? routeId = some row →
    pool.shared.routeVersions.find? (routeId, row.currentVersion + 1) = some version →
    Awaited pool routeId (row.currentVersion + 1)

/-- The two writes of a rotation stay together: an insertion that inserts is acknowledged, and the
update that follows it is run, and not while the route is suspended. -/
def Unbroken (runtime : RegistryRuntime ν) (pool : Calls) (event : CallEvent) : Prop :=
  ∀ i call op resume, event = .resume i → pool.calls[i]? = some (call, .await op resume) →
    match op with
    | .insertRouteVersion version =>
        (pool.shared.insertRouteVersion runtime version).2 = .ok () →
          ∀ message, call.insertion ≠ .failedAfter message
    | .updateRouteCurrentVersion route =>
        ∀ row, pool.shared.routes.find? route.id = some row →
          row.currentVersion + 1 = route.currentVersion →
          row.status ≠ .suspended ∧ ∀ message, call.update ≠ .failedBefore message
    | _ => True

/-- A call that waits still waits after a step of another one. -/
theorem Awaited.keep {routeId : String} {number j : Nat} {call : RouteCall} {op : Op}
    {resume : Except CallError op.Answer → Await (Option RouteRecord)} {u : RouteDb}
    {p : Await (Option RouteRecord)} (h : Awaited pool routeId number)
    (hj : pool.calls[j]? = some (call, .await op resume))
    (hother : ∀ route, op = .updateRouteCurrentVersion route → route.id = routeId →
      route.currentVersion ≠ number) :
    Awaited ⟨u, pool.calls.set j (call, p)⟩ routeId number := by
  obtain ⟨i, waiting, route, next, hi, hid, hnumber⟩ := h
  have hij : j ≠ i := by
    rintro rfl
    rw [hi, Option.some.injEq, Prod.mk.injEq] at hj
    obtain ⟨hop, -⟩ := Async.await.inj hj.2
    exact hother route hop.symm hid hnumber
  refine ⟨i, waiting, route, next, ?_, hid, hnumber⟩
  show (pool.calls.set j (call, p))[i]? = _
  rw [List.getElem?_set_ne hij]
  exact hi

/-- An insertion fails and changes nothing, or succeeds. -/
theorem insertRouteVersion_cases (runtime : RegistryRuntime ν) (db : RouteDb)
    (version : RouteVersionRecord) :
    (∃ e, db.insertRouteVersion runtime version = (db, .error e)) ∨
      (db.insertRouteVersion runtime version).2 = .ok () := by
  unfold insertRouteVersion
  split
  · exact .inl ⟨_, rfl⟩
  · split
    · exact .inl ⟨_, rfl⟩
    · split
      · exact .inl ⟨_, rfl⟩
      · exact .inr rfl

/-- The update of a route at the version before sets its row: no other route has the hash. -/
theorem updateRouteCurrentVersion_eq {route : RouteRecord} {row : RouteRow} {call : RouteCall}
    (hdb : Consistent 1 db) (hneed : need runtime call db (.updateRouteCurrentVersion route))
    (hrow : db.routes.find? route.id = some row)
    (hnumber : row.currentVersion + 1 = route.currentVersion) :
    ∃ new, (db.updateRouteCurrentVersion runtime route).1 =
        { db with routes := db.routes.upsert new } ∧ new.id = route.id ∧
      new.currentVersion = route.currentVersion := by
  obtain ⟨⟨set, hset⟩, version, hversion, hhash, -⟩ := hneed
  obtain ⟨hid, -, hcurrent, -, -⟩ := currentVersionSet_eq_ok hset row
  refine ⟨set row, ?_, hid.trans (Table.key_of_find? hrow), hcurrent⟩
  have hfilter : (db.routes.find? route.id).filter
      (fun row => row.currentVersion + 1 = route.currentVersion) = some row :=
    Option.filter_eq_some_iff.mpr ⟨hrow, decide_eq_true hnumber⟩
  have hunique : ¬ db.routes.rows.any
      (fun other => other.id ≠ route.id ∧ other.claimHash = route.claimHash) = true := by
    intro hany
    obtain ⟨other, hother, hsame⟩ := List.any_eq_true.mp hany
    obtain ⟨hne, hsameHash⟩ := of_decide_eq_true hsame
    have hfound := Table.find?_of_mem (t := db.routes) hother
    obtain ⟨hone, hall⟩ := hdb.numbered _ _ hfound
    obtain ⟨current, hcurrent'⟩ := hall _ hone (Nat.le_refl _)
    obtain ⟨hcurrentHash, -⟩ := hdb.current _ _ _ hfound hcurrent'
    -- the current version of the other route would have the hash of the new one
    have hkey := hdb.hashes _ _ _ _ hcurrent' hversion
      (hcurrentHash.trans (hsameHash.trans hhash.symm))
    exact hne (Prod.mk.inj hkey).1
  unfold updateRouteCurrentVersion
  rw [hset]
  dsimp only
  rw [hfilter]
  dsimp only
  rw [if_neg hunique]

/-- A step that leaves the numbers of the routes and their versions, and does not take the update
that is awaited. -/
theorem NextAwaited.of_same {j : Nat} {call : RouteCall} {op : Op}
    {resume : Except CallError op.Answer → Await (Option RouteRecord)} {u : RouteDb}
    {p : Await (Option RouteRecord)} (h : NextAwaited pool)
    (hj : pool.calls[j]? = some (call, .await op resume))
    (hversions : u.routeVersions = pool.shared.routeVersions)
    (hrows : ∀ routeId row, u.routes.find? routeId = some row →
      ∃ old, pool.shared.routes.find? routeId = some old ∧
        old.currentVersion = row.currentVersion)
    (hother : ∀ routeId row route, pool.shared.routes.find? routeId = some row →
      op = .updateRouteCurrentVersion route → route.id = routeId →
      route.currentVersion ≠ row.currentVersion + 1) :
    NextAwaited ⟨u, pool.calls.set j (call, p)⟩ := by
  intro routeId row version hrow hversion
  obtain ⟨old, hold, hnumber⟩ := hrows routeId row hrow
  have hfound : pool.shared.routeVersions.find? (routeId, old.currentVersion + 1) = some version := by
    rw [hnumber, ← hversions]
    exact hversion
  rw [← hnumber]
  exact (h routeId old version hold hfound).keep hj fun route hop hid =>
    hother routeId old route hold hop hid

/-- An insertion that succeeds is awaited by the call that has made it. -/
theorem NextAwaited.of_insertion {j : Nat} {call : RouteCall} {version : RouteVersionRecord}
    {resume : Except CallError Unit → Await (Option RouteRecord)} {u : RouteDb}
    {answer : Except CallError Unit} (h : NextAwaited pool)
    (hj : pool.calls[j]? = some (call, .await (.insertRouteVersion version) resume))
    (hhandle : handle runtime call pool.shared (.insertRouteVersion version) u answer)
    (hfollows : UpdatesAfter (.insertRouteVersion version) resume)
    (hunbroken : (pool.shared.insertRouteVersion runtime version).2 = .ok () →
      ∀ message, call.insertion ≠ .failedAfter message) :
    NextAwaited ⟨u, pool.calls.set j (call, resume answer)⟩ := by
  have hsame : u = pool.shared → NextAwaited ⟨u, pool.calls.set j (call, resume answer)⟩ := by
    rintro rfl
    refine h.of_same hj rfl (fun _ row hrow => ⟨row, hrow, rfl⟩) ?_
    intro _ _ _ _ hop
    cases hop
  have hrun : (u, answer) = call.insertion.run pool.shared
    (pool.shared.insertRouteVersion runtime version) := hhandle
  rcases insertRouteVersion_cases runtime pool.shared version with ⟨e, hfailed⟩ | hinserted
  · -- nothing has been inserted
    rw [hfailed] at hrun
    rcases StatementFate.state hrun with heq | heq
    · exact hsame heq
    · exact hsame heq
  · cases hfate : call.insertion with
    | failedAfter message => exact absurd hfate (hunbroken hinserted message)
    | failedBefore message =>
        rw [hfate] at hrun
        exact hsame (Prod.mk.inj hrun).1
    | answered =>
        rw [hfate] at hrun
        have hserved : (u, answer) = pool.shared.insertRouteVersion runtime version := hrun
        have hanswer : answer = .ok () := (congrArg Prod.snd hserved).trans hinserted
        have hwrites : Writes runtime pool.shared (.insertRouteVersion version)
            (pool.shared.insertRouteVersion runtime version).1 := writes_insertRouteVersion version
        rw [← hserved] at hwrites
        obtain ⟨route, next, hnext, hid, hnumber⟩ := hfollows
        rw [hanswer, hnext]
        generalize hu : u = u' at hwrites
        cases hwrites with
        | nothing =>
            have hkept := hsame hu
            rw [hanswer, hnext, hu] at hkept
            exact hkept
        | @version _ added _ hadded _ _ hfind hroutes =>
            subst hu
            intro routeId row found hrow hfound
            rw [(routeVersionRow_eq_ok hadded).1] at hfind
            by_cases hnew : (version.routeId, version.version) = (routeId, row.currentVersion + 1)
            · -- the call waits for the update of this route
              obtain ⟨hroute, hversion⟩ := Prod.mk.inj hnew
              have hlt : j < pool.calls.length := (List.getElem?_eq_some_iff.mp hj).1
              exact ⟨j, call, route, next, List.getElem?_set_self hlt, hid.trans hroute,
                hnumber.trans hversion⟩
            · have hold : pool.shared.routeVersions.find? (routeId, row.currentVersion + 1) =
                  some found := ((hfind _).trans (if_neg hnew)).symm.trans hfound
              refine (h routeId row found (hroutes ▸ hrow) hold).keep hj ?_
              intro _ hop
              cases hop

/-- An update that is awaited makes the version the current one. -/
theorem NextAwaited.of_update {j : Nat} {call : RouteCall} {route : RouteRecord}
    {resume : Except CallError (Option RouteRow) → Await (Option RouteRecord)} {u : RouteDb}
    {answer : Except CallError (Option RouteRow)} (h : NextAwaited pool)
    (hj : pool.calls[j]? = some (call, .await (.updateRouteCurrentVersion route) resume))
    (hhandle : handle runtime call pool.shared (.updateRouteCurrentVersion route) u answer)
    (hdb : Consistent 1 pool.shared)
    (hneed : need runtime call pool.shared (.updateRouteCurrentVersion route))
    (hunbroken : ∀ row, pool.shared.routes.find? route.id = some row →
      row.currentVersion + 1 = route.currentVersion → ∀ message, call.update ≠ .failedBefore message) :
    NextAwaited ⟨u, pool.calls.set j (call, resume answer)⟩ := by
  have hrun : (u, answer) = call.update.run pool.shared
    (pool.shared.updateRouteCurrentVersion runtime route) := hhandle
  by_cases htakes : ∃ row, pool.shared.routes.find? route.id = some row ∧
      row.currentVersion + 1 = route.currentVersion
  · obtain ⟨row, hrow, hnumber⟩ := htakes
    obtain ⟨new, hserved, hid, hcurrent⟩ := updateRouteCurrentVersion_eq hdb hneed hrow hnumber
    have hu : u = { pool.shared with routes := pool.shared.routes.upsert new } := by
      rw [← hserved]
      cases hfate : call.update with
      | answered =>
          rw [hfate] at hrun
          exact congrArg Prod.fst hrun
      | failedAfter message =>
          rw [hfate] at hrun
          exact (Prod.mk.inj hrun).1
      | failedBefore message => exact absurd hfate (hunbroken row hrow hnumber message)
    subst hu
    intro routeId row' version hrow' hversion
    rcases (sets_upsert hid).cases hrow' with ⟨rfl, rfl⟩ | ⟨hne, hold⟩
    · -- no version is more than one ahead
      have hle := hdb.greatest _ _ _ _ hrow hversion
      omega
    · refine (h routeId row' version hold hversion).keep hj ?_
      intro other hop hother
      obtain rfl := Op.updateRouteCurrentVersion.inj hop
      exact absurd hother hne
  · -- the route is not at the version before
    have hsame : u = pool.shared := by
      have hwrites : Writes runtime pool.shared (.updateRouteCurrentVersion route) u :=
        writes_of_handle hhandle
      generalize hu : u = u' at hwrites
      cases hwrites with
      | nothing => rfl
      | @rotation _ set row _ _ hrow hnumber _ _ => exact absurd ⟨row, hrow, hnumber⟩ htakes
    subst hsame
    refine h.of_same hj rfl (fun _ row hrow => ⟨row, hrow, rfl⟩) ?_
    intro routeId row other hrow hop hid hnumber
    obtain rfl := Op.updateRouteCurrentVersion.inj hop
    exact htakes ⟨row, hid ▸ hrow, hnumber.symm⟩

/-- A step that neither inserts a version nor updates a route to one. -/
theorem NextAwaited.of_other {j : Nat} {call : RouteCall} {op : Op}
    {resume : Except CallError op.Answer → Await (Option RouteRecord)} {u : RouteDb}
    {p : Await (Option RouteRecord)} (h : NextAwaited pool)
    (hj : pool.calls[j]? = some (call, .await op resume))
    (hwrites : Writes runtime pool.shared op u)
    (hinsertion : ∀ version, op ≠ .insertRouteVersion version)
    (hupdate : ∀ route, op ≠ .updateRouteCurrentVersion route) :
    NextAwaited ⟨u, pool.calls.set j (call, p)⟩ := by
  have hother : ∀ routeId row route, pool.shared.routes.find? routeId = some row →
      op = .updateRouteCurrentVersion route → route.id = routeId →
      route.currentVersion ≠ row.currentVersion + 1 :=
    fun _ _ route _ hop => absurd hop (hupdate route)
  generalize hu : u = u' at hwrites
  cases hwrites with
  | nothing => exact h.of_same hj rfl (fun _ row hrow => ⟨row, hrow, rfl⟩) hother
  | version _ _ _ _ _ => exact absurd rfl (hinsertion _)
  | rotation _ _ _ _ _ => exact absurd rfl (hupdate _)
  | @status _ _ _ row _ hrow _ hversions hroutes =>
      refine h.of_same hj hversions ?_ hother
      intro id new hnew
      rcases hroutes.cases hnew with ⟨rfl, rfl⟩ | ⟨-, hold⟩
      · exact ⟨row, hrow, rfl⟩
      · exact ⟨new, hold, rfl⟩

theorem nextAwaited_of_reachable (h : (system runtime).Reachable (Unbroken runtime) pool) :
    NextAwaited pool := by
  refine h.invariant (P := NextAwaited) ?_ ?_
  · rintro pool ⟨hsettled, -⟩ routeId row version hrow hversion
    have hle := hsettled.greatest _ _ _ _ hrow hversion
    omega
  · intro pool event pool' hreachable ih hok hstep
    cases hstep with
    | start call =>
        intro routeId row version hrow hversion
        obtain ⟨i, waiting, route, resume, hi, hroute⟩ := ih routeId row version hrow hversion
        have hlt : i < pool.calls.length := (List.getElem?_eq_some_iff.mp hi).1
        exact ⟨i, waiting, route, resume, (List.getElem?_append_left hlt).trans hi, hroute⟩
    | @resume j call op resume u answer hj hhandle =>
        obtain ⟨hdb, hneed, hfollows⟩ := need_of_reachable hreachable hj
        have hunbroken := hok j call op resume rfl hj
        have hwrites : Writes runtime pool.shared op u := writes_of_handle hhandle
        cases op with
        | insertRouteVersion version => exact ih.of_insertion hj hhandle hfollows hunbroken
        | updateRouteCurrentVersion route =>
            exact ih.of_update hj hhandle hdb hneed fun row hrow hnumber =>
              (hunbroken row hrow hnumber).2
        | getRoute routeId => exact ih.of_other hj hwrites nofun nofun
        | getRouteVersionByClaimHash claimHash => exact ih.of_other hj hwrites nofun nofun
        | updateStatus routeId source target => exact ih.of_other hj hwrites nofun nofun
    | @outside x u hx => exact nomatch x

end RouteCalls

/-! ## Atomic rotations -/

open RouteCalls in
/-- In every run whose steps are allowed: once every call has returned or failed, the row of a route
has the number, the claim hash and the payout wallet of its greatest version; and no step rotates a
route that is suspended. -/
structure RotationsAtomic (runtime : RegistryRuntime ν) (allowed : Calls → CallEvent → Prop) :
    Prop where
  settled : ∀ pool, (system runtime).Reachable allowed pool →
    (∀ entry ∈ pool.calls, entry.2.waitsFor = none) →
    ∀ routeId row, pool.shared.routes.find? routeId = some row →
      (∃ version, pool.shared.routeVersions.find? (routeId, row.currentVersion) = some version ∧
        version.claimHash = row.claimHash ∧ version.payoutWallet = row.payoutWallet) ∧
      ∀ version ∈ pool.shared.routeVersions, version.routeId = routeId →
        version.version ≤ row.currentVersion
  suspended : ∀ pool event pool', (system runtime).Reachable allowed pool → allowed pool event →
    (system runtime).step pool event pool' →
    ∀ routeId row, pool.shared.routes.find? routeId = some row → row.status = .suspended →
      ∃ row', pool'.shared.routes.find? routeId = some row' ∧
        row'.currentVersion = row.currentVersion ∧ row'.claimHash = row.claimHash ∧
        row'.payoutWallet = row.payoutWallet

namespace RouteCalls

open Async RouteDb

variable {pool pool' : Calls} {event : CallEvent}

theorem settled_of_done (h : (system runtime).Reachable (Unbroken runtime) pool)
    (hdone : ∀ entry ∈ pool.calls, entry.2.waitsFor = none) {routeId : String} {row : RouteRow}
    (hrow : pool.shared.routes.find? routeId = some row) :
    (∃ version, pool.shared.routeVersions.find? (routeId, row.currentVersion) = some version ∧
      version.claimHash = row.claimHash ∧ version.payoutWallet = row.payoutWallet) ∧
    ∀ version ∈ pool.shared.routeVersions, version.routeId = routeId →
      version.version ≤ row.currentVersion := by
  obtain ⟨hdb, -⟩ := sees_of_reachable h
  constructor
  · obtain ⟨hone, hall⟩ := hdb.numbered routeId row hrow
    obtain ⟨version, hversion⟩ := hall row.currentVersion hone (Nat.le_refl _)
    exact ⟨version, hversion, hdb.current routeId row version hrow hversion⟩
  · intro version hmem hroute
    have hfound := Table.find?_of_mem hmem
    rw [RouteVersionRow.key, hroute] at hfound
    have hle := hdb.greatest routeId row version.version version hrow hfound
    by_contra hlt
    -- the next version is there, and the call that waits to make it the current one is not done
    have hnext : version.version = row.currentVersion + 1 := by omega
    rw [hnext] at hfound
    obtain ⟨i, call, route, resume, hi, -⟩ :=
      nextAwaited_of_reachable h routeId row version hrow hfound
    cases hdone _ (List.mem_of_getElem? hi)

/-- A rotation does not touch a suspended route. -/
theorem unrotated_of_step (hok : Unbroken runtime pool event)
    (hstep : (system runtime).step pool event pool') {routeId : String} {row : RouteRow}
    (hrow : pool.shared.routes.find? routeId = some row) (hsuspended : row.status = .suspended) :
    ∃ row', pool'.shared.routes.find? routeId = some row' ∧
      row'.currentVersion = row.currentVersion ∧ row'.claimHash = row.claimHash ∧
      row'.payoutWallet = row.payoutWallet := by
  cases hstep with
  | start call => exact ⟨row, hrow, rfl, rfl, rfl⟩
  | @resume j call op resume u answer hj hhandle =>
      have hunbroken := hok j call op resume rfl hj
      have hwrites : Writes runtime pool.shared op u := writes_of_handle hhandle
      show ∃ row', u.routes.find? routeId = some row' ∧ _
      cases hwrites with
      | nothing => exact ⟨row, hrow, rfl, rfl, rfl⟩
      | version _ _ _ _ hroutes => exact ⟨row, hroutes ▸ hrow, rfl, rfl, rfl⟩
      | @rotation route set old _ hset hold hnumber _ hroutes =>
          rw [hroutes routeId]
          by_cases hid : route.id = routeId
          · obtain rfl := Option.some.inj (hold.symm.trans (hid ▸ hrow))
            exact absurd hsuspended (hunbroken old hold hnumber).1
          · rw [if_neg hid]
            exact ⟨row, hrow, rfl, rfl, rfl⟩
      | @status id source target old _ hold _ _ hroutes =>
          rw [hroutes routeId]
          by_cases hid : id = routeId
          · obtain rfl := Option.some.inj (hold.symm.trans (hid ▸ hrow))
            rw [if_pos hid]
            exact ⟨_, rfl, rfl, rfl, rfl⟩
          · rw [if_neg hid]
            exact ⟨row, hrow, rfl, rfl, rfl⟩
  | @outside x u hx => exact nomatch x

end RouteCalls

namespace Sample

open Async RouteCalls RouteDb

/-! The referrer rotates the payout wallet of a route, and the connection is lost between the two
writes. -/

/-- The claim of the route so far: it pays another wallet. -/
def replacedClaim : ReferralClaimV1 :=
  { routeClaim wallet "2026-01-01T00:00:00Z" "claim-0000000000"
      "30gvzq0d6n1UJBUTYV_66VSrAjKIHiIwGPYKhKpAges9pXZBVHrxFm2u0I942msBrVGjmcPOMuXtI6uuB4W5CQ" with
    operationIds := ["GET /v1/search", "GET /v1/quote"] }

def replacedClaimHash : String :=
  "sha256:0f42343f75720cec36c7cdd9ff37917a1c20460fd88980213996641d91225c40"

def replacedRow : RouteRow where
  id := sampleRouteId
  currentVersion := 1
  campaignId := campaignId
  campaignVersionMin := 1
  referrerWallet := referrerWallet
  payoutWallet := wallet
  resourceOrigin := "https://merchant.example"
  operationIds := ["GET /v1/search", "GET /v1/quote"]
  claimHash := replacedClaimHash
  claimJson := replacedClaim
  status := .active
  issuedAt := 1767225600000
  expiresAt := 1798761600000
  nonce := "claim-0000000000"
  metadataHash := none
  createdAt := 1767225600000
  activatedAt := 1767225600000

def replacedVersion : RouteVersionRow where
  routeId := sampleRouteId
  version := 1
  campaignVersionMin := 1
  payoutWallet := wallet
  claimHash := replacedClaimHash
  claimJson := replacedClaim
  issuedAt := 1767225600000
  expiresAt := 1798761600000
  nonce := "claim-0000000000"
  metadataHash := none
  createdAt := 1767225600000

def replacedTables : RouteDb where
  routes := Table.empty.upsert replacedRow
  routeVersions := Table.empty.upsert replacedVersion

/-- The update of the route is lost. -/
def lostRotation : RouteCall where
  env := registryEnv
  request := .rotateRoutePayout sampleRouteId (some quotesClaim)
  insertion := .answered
  update := .failedBefore "Connection terminated unexpectedly"

theorem find_replacedTables (id : String) (row : RouteRow) :
    replacedTables.routes.find? id = some row ↔ sampleRouteId = id ∧ replacedRow = row := by
  have hkey : replacedRow.id = sampleRouteId := rfl
  rw [replacedTables, Table.find?_upsert, hkey]
  by_cases hid : sampleRouteId = id
  · rw [if_pos hid, Option.some.injEq]
    exact ⟨fun h => ⟨hid, h⟩, fun h => h.2⟩
  · rw [if_neg hid]
    exact iff_of_false nofun fun h => hid h.1

theorem findVersion_replacedTables (key : String × Nat) (version : RouteVersionRow) :
    replacedTables.routeVersions.find? key = some version ↔
      (sampleRouteId, 1) = key ∧ replacedVersion = version := by
  have hkey : replacedVersion.key = (sampleRouteId, 1) := rfl
  rw [replacedTables, Table.find?_upsert, hkey]
  by_cases hid : (sampleRouteId, 1) = key
  · rw [if_pos hid, Option.some.injEq]
    exact ⟨fun h => ⟨hid, h⟩, fun h => h.2⟩
  · rw [if_neg hid]
    exact iff_of_false nofun fun h => hid h.1

theorem replacedTables_consistent : Consistent 0 replacedTables where
  numbered := by
    intro id row hrow
    obtain ⟨rfl, rfl⟩ := (find_replacedTables _ _).mp hrow
    refine ⟨Nat.le_refl 1, fun number hpos hle => ?_⟩
    obtain rfl := Nat.le_antisymm hle hpos
    exact ⟨replacedVersion, (findVersion_replacedTables _ _).mpr ⟨rfl, rfl⟩⟩
  current := by
    intro id row version hrow hversion
    obtain ⟨rfl, rfl⟩ := (find_replacedTables _ _).mp hrow
    obtain ⟨-, rfl⟩ := (findVersion_replacedTables _ _).mp hversion
    exact ⟨rfl, rfl⟩
  greatest := by
    intro id row number version hrow hversion
    obtain ⟨-, rfl⟩ := (find_replacedTables _ _).mp hrow
    obtain ⟨hkey, -⟩ := (findVersion_replacedTables _ _).mp hversion
    rw [← (Prod.mk.inj hkey).2]
    exact Nat.le_refl 1
  hashes := by
    intro key key' version version' hversion hversion' _
    obtain ⟨hkey, -⟩ := (findVersion_replacedTables _ _).mp hversion
    obtain ⟨hkey', -⟩ := (findVersion_replacedTables _ _).mp hversion'
    exact hkey.symm.trans hkey'

/-- The route and the claim of the rotation, as they are read and validated. -/
def replacedRoute : RouteRecord :=
  routeOf quotesRuntime replacedRow replacedRow.operationIds replacedRow.claimJson

def validatedRoute : RouteRecord :=
  RouteRegistry.activatedRoute quotesRuntime registryEnv quotesClaim ("sha256:" ++ quotesClaimHash)

theorem replacedClaim_schema : referralClaimV1Schema zod replacedClaim = true := by
  have hwild : referralClaimV1Schema zod (routeClaim wallet "2026-01-01T00:00:00Z"
      "claim-0000000000" replacedClaim.signature.value) = true :=
    routeClaim_schema wallet_regex (rfc3339UtcSchema_ofList rfl (by decide)) (by decide)
      (base64UrlRegex_ofList (by decide))
  unfold referralClaimV1Schema at hwild ⊢
  simp only [Bool.and_eq_true] at hwild ⊢
  obtain ⟨⟨⟨⟨⟨⟨⟨⟨⟨hfields, -⟩, -⟩, hissued⟩, hexpires⟩, hshort⟩, hlong⟩, hmetadata⟩, hkey⟩, hvalue⟩ := hwild
  exact ⟨⟨⟨⟨⟨⟨⟨⟨⟨hfields, rfl⟩, by decide⟩, hissued⟩, hexpires⟩, hshort⟩, hlong⟩, hmetadata⟩, hkey⟩,
    hvalue⟩

theorem mapRoute_replacedRow : mapRoute quotesRuntime replacedRow = .ok replacedRoute := by
  refine mapRoute_eq_ok.mpr ⟨?_, replacedClaim_schema, rfl⟩
  refine ⟨by decide, fun h => absurd h (by decide), by decide⟩

theorem activate_quotesClaim : ∃ after, RouteRegistry.empty.activateRoute quotesRuntime registryEnv
    (some quotesClaim) = .ok (validatedRoute, after) := by
  have hstd : quotesRuntime.toRuntime.Standard := scopedRuntime_standard
  have hnew : RouteRegistry.IsNewRoute quotesRuntime .empty registryEnv (some quotesClaim) quotesClaim
      ("sha256:" ++ quotesClaimHash) :=
    scopedClaim_new (by decide) (base64UrlRegex_ofList (by decide))
      ⟨base64UrlDecode_ofList (by decide) (by decide +kernel), rfl⟩
  exact ⟨_, RouteRegistry.activateRoute_of_new hstd hnew⟩

def rotationTime : String := quotesRuntime.host.toISOString registryEnv.clock

/-- What a call does with the route it reads. -/
def rotateRead : Option RouteRecord → Await RouteRecord
  | none => throw (.registry (.validation s!"unknown route: {sampleRouteId}"))
  | some existing => rotateRoute quotesRuntime registryEnv existing (some quotesClaim)

/-- The call reads the route, looks for the claim, and goes on to its writes. -/
theorem program_lostRotation : ∃ read, program quotesRuntime lostRotation =
    .await (.getRoute sampleRouteId) read ∧ ∃ looked, read (.ok (some replacedRow)) =
      .await (.getRouteVersionByClaimHash validatedRoute.claimHash) looked ∧
    looked (.ok none) =
      ((writeRotation quotesRuntime (rotatedTo replacedRoute validatedRoute) rotationTime).tryCatch
        (afterFailedWrite quotesRuntime (rotatedTo replacedRoute validatedRoute)) >>=
          fun route => pure (some route)) := by
  obtain ⟨after, hactivate⟩ := activate_quotesClaim
  have hprogram : program quotesRuntime lostRotation = .await (.getRoute sampleRouteId)
      (fun answer => ((Async.done answer >>= mapRow quotesRuntime) >>= rotateRead) >>=
        fun route => pure (some route)) := rfl
  have hrow : (some replacedRow).mapM (mapRoute quotesRuntime) = .ok (some replacedRoute) :=
    map_eq_ok.mpr ⟨_, mapRoute_replacedRow, rfl⟩
  have hactive : throwIf (replacedRoute.status ≠ .active) (.validation
      ("route must be active to rotate payout; current status is " ++
        replacedRoute.status.toString)) = .ok () := rfl
  have hrotation : assertPostgresRouteRotation replacedRoute validatedRoute = .ok () := by
    decide
  have hrotate : rotateRead (some replacedRoute) =
      rotateTo quotesRuntime registryEnv replacedRoute validatedRoute :=
    (ofExcept_bind hactive).trans ((ofExcept_bind hactivate).trans (ofExcept_bind hrotation))
  have hread : (mapRow quotesRuntime (some replacedRow) >>= rotateRead) =
      rotateTo quotesRuntime registryEnv replacedRoute validatedRoute :=
    (ofExcept_bind hrow).trans hrotate
  refine ⟨_, hprogram, ?_⟩
  rw [done_ok_bind, hread]
  exact ⟨_, rfl, rfl⟩

def rotatedRoute : RouteRecord := rotatedTo replacedRoute validatedRoute

theorem routeVersionRow_rotatedRoute :
    ∃ row, routeVersionRow quotesRuntime (versionOf rotatedRoute rotationTime) = .ok row := by
  have hcolumn : ∀ text timestamp, postgresHost.parseTimestamptz text = some timestamp →
      timestamptzColumn quotesRuntime text = .ok timestamp :=
    fun _ _ h => timestamptzColumn_eq_ok.mpr h
  have htwo : integerColumn 2 = .ok 2 := rfl
  have hone : integerColumn 1 = .ok 1 := rfl
  have hissued := hcolumn "2026-01-01T00:00:00Z" 1767225600000 (by decide)
  have hexpires := hcolumn "2027-01-01T00:00:00Z" 1798761600000 (by decide)
  have hnow := hcolumn registryNow 1767225600000 (by decide)
  exact ⟨_, bind_eq_ok.mpr ⟨_, htwo, bind_eq_ok.mpr ⟨_, hone, bind_eq_ok.mpr ⟨_, hissued,
    bind_eq_ok.mpr ⟨_, hexpires, bind_eq_ok.mpr ⟨_, hnow, rfl⟩⟩⟩⟩⟩⟩

/-- The version is inserted: its number and its hash are new. -/
theorem insert_rotatedRoute : (replacedTables.insertRouteVersion quotesRuntime
    (versionOf rotatedRoute rotationTime)).2 = .ok () := by
  obtain ⟨row, hrow⟩ := routeVersionRow_rotatedRoute
  obtain ⟨hkey, hhash, -⟩ := routeVersionRow_eq_ok hrow
  have hnew : replacedTables.routeVersions.rows.any (fun other => other.claimHash = row.claimHash) =
      false := by
    rw [hhash]
    decide
  have hfree : ∀ other ∈ replacedTables.routeVersions, other.key ≠ row.key := by
    rw [hkey]
    intro other hother hsame
    have hfound := Table.find?_of_mem (t := replacedTables.routeVersions) hother
    obtain ⟨hfirst, -⟩ := (findVersion_replacedTables _ _).mp hfound
    have hnumber : (1 : Nat) = 2 := (Prod.mk.inj (hfirst.trans hsame)).2
    cases hnumber
  obtain ⟨versions, hversions⟩ := Option.isSome_iff_exists.mp (Table.insert?_isSome.mpr hfree)
  unfold insertRouteVersion
  rw [hrow]
  dsimp only
  rw [hnew, if_neg Bool.false_ne_true, hversions]

theorem routes_insertRouteVersion (db : RouteDb) (version : RouteVersionRecord) :
    (db.insertRouteVersion quotesRuntime version).1.routes = db.routes := by
  unfold insertRouteVersion
  split
  · rfl
  · split
    · rfl
    · split <;> rfl

/-- The states the call alone can come to. -/
abbrev Rotating (db : RouteDb) (p : Await (Option RouteRecord)) : Prop :=
  (system quotesRuntime).Reachable (fun _ _ => True) ⟨db, [(lostRotation, p)]⟩

theorem Rotating.resume {db db' : RouteDb} {op : Op} {answer : Except CallError op.Answer}
    {resume : Except CallError op.Answer → Await (Option RouteRecord)}
    {p : Await (Option RouteRecord)} (h : Rotating db (.await op resume))
    (hhandle : handle quotesRuntime lostRotation db op db' answer) (hp : resume answer = p) :
    Rotating db' p := by
  rw [← hp]
  exact System.Reachable.step h trivial (Pool.Step.resume (i := 0) rfl hhandle)

end Sample

end Split402
