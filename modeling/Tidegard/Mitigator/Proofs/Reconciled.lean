import Tidegard.Slots
import Tidegard.Mitigator.Proofs.Routes
import Tidegard.Mitigator.Proofs.Announced

namespace Tidegard.Mitigator.Proofs.Reconciled

open List Actions Slots Common Tables Mitigation.Prefix Mitigation.Action
open Mitigation.Mitigation (MitigationId MitigationRecord MitigationState)
open Route Service Service.Mitigator Routes IncidentPostgres.Mitigation
open Announced (live_bind liveMitigator addRow)
open Text (isDigit_toDigits)
open Mitigation.Proofs.Guarded (sampleHost)

/-- Nothing else happens, every call succeeds, and GoBGP holds `rib`. -/
def calm (now : Int) (rib : List Path) : World where
  now := fun _ => now
  paths := .ok rib

/-- What a call does to the paths GoBGP holds, of which it lists each in its own way. -/
def applySent (lists : Path → Path) (rib : List Path) : Sent → List Path
  | .announce _ path => put place rib (lists path)
  | .withdraw _ path => clear place rib (place path)

variable (setting : Setting) (m : Mitigator) (now : Int) (db : Database) (rib : List Path)
variable (lists : Path → Path)

def calls : List Sent := (m.reconcile (setting, calm now rib) { db }).2.log.map Entry.sent

def afterwards : List Path := (calls setting m now db rib).foldl (applySent lists) rib

/-- The mitigation is in the store, and its route was really sent. -/
def Claimed (r : MitigationRecord) : Prop :=
  ∃ (id : MitigationId) (row : Row), db.mitigations[id]? = some row ∧ row.record = r ∧ Mitigator.claims r = true

/-- The path is read back under the mitigation's key. -/
def Belongs (path : Path) (r : MitigationRecord) : Prop :=
  ∃ route, readBack setting.text path = .ok route ∧
    route.key = r.duplicateKey setting.text.showAddr

/-- GoBGP should hold the mitigation's route: it is active, or announcing and already there. -/
def Wanted (r : MitigationRecord) : Prop :=
  Claimed db r ∧ (r.state = .active ∨ ∃ path ∈ rib, Belongs setting path r)

/-- No claimed route is withdrawn; afterwards there is one route for each mitigation that should
have one and no other; and a second reconciliation does nothing. -/
structure Converges : Prop where
  spared : ∀ r path, Sent.withdraw r path ∈ calls setting m now db rib →
    ∀ held ∈ rib, place held = place path → ∀ r, Claimed db r → ¬ Belongs setting held r
  present : ∀ r, Wanted setting db rib r →
    ∃! path, path ∈ afterwards setting m now db rib lists ∧ Belongs setting path r
  nothingElse : ∀ path ∈ afterwards setting m now db rib lists,
    ∃ r, Wanted setting db rib r ∧ Belongs setting path r
  settled : calls setting m now db (afterwards setting m now db rib lists) = []

/-- What the schema and the domain keep of the stored mitigations. -/
structure WellStored : Prop where
  valid : ∀ (id : MitigationId) (row : Row), db.mitigations[id]? = some row →
    row.record.action.validateFor row.record.target = .ok ()
  oneLive : ∀ (id id' : MitigationId) (row row' : Row),
    db.mitigations[id]? = some row → db.mitigations[id']? = some row' →
    row.record.state.isTerminal = false → row'.record.state.isTerminal = false →
    row.record.duplicateKey setting.text.showAddr = row'.record.duplicateKey setting.text.showAddr →
    id = id'

/-- The paths list what Tidegard announced, at most one in a place. -/
structure OwnRib : Prop where
  announced : ∀ path ∈ rib, ∃ target action config, action.validateFor target = .ok () ∧
    config.localAsn = m.routes.localAsn ∧ Listed path (announcement setting.text target action config)
  distinct : Distinct place rib

variable {setting m now db rib lists}

def batchOf (db : Database) : List MitigationRecord := (db.live.take batch).map Row.record

def claimedBatch (db : Database) : List MitigationRecord := (batchOf db).filter Mitigator.claims

section Calls

variable {w : World} {s : Session}

/-- The session after calls on GoBGP. -/
def logged (s : Session) (sents : List Sent) : Session :=
  { s with log := s.log ++ sents.map fun sent => ⟨sent, s.switches⟩ }

theorem logged_nil (s : Session) : logged s [] = s := by simp [logged]

theorem logged_cons (s : Session) (sent : Sent) (sents : List Sent) :
    logged (logged s [sent]) sents = logged s (sent :: sents) := by simp [logged]

theorem send_calm (calm : w.refusal = fun _ => none) (sent : Sent) :
    send sent (setting, w) s = (.ok (), logged s [sent]) := by
  unfold send
  dsimp only
  rw [calm]
  rfl

def withdrawals (text : AddrText) (claimed : List String) (owned : List OwnedRoute) : List Sent :=
  (owned.filter fun route => !claimed.contains route.key).map fun route =>
    .withdraw none (withdrawal text route.target route.action)

theorem withdrawStale_calm (setting : Setting) (s : Session) (calm : w.refusal = fun _ => none) (claimed : List String)
    (owned : List OwnedRoute) : ∃ n, withdrawStale claimed owned (setting, w) s =
      (.ok n, logged s (withdrawals setting.text claimed owned)) := by
  induction owned generalizing s with
  | nil => exact ⟨0, congrArg (Prod.mk _) (logged_nil s).symm⟩
  | cons route owned ih =>
    unfold withdrawStale
    split
    · rename_i hclaimed
      obtain ⟨n, hn⟩ := ih s
      refine ⟨n, hn.trans ?_⟩
      simp only [withdrawals, filter_cons, hclaimed, Bool.not_true, Bool.false_eq_true,
        if_false]
    · rename_i hstale
      have hsend : sendWithdrawal none route.target route.action (setting, w) s = _ :=
        send_calm calm _
      obtain ⟨n, hn⟩ := ih (logged s
        [.withdraw none (withdrawal setting.text route.target route.action)])
      refine ⟨n + 1, ?_⟩
      rw [Action.bind_of_ok hsend, Action.bind_of_ok hn, logged_cons]
      simp only [withdrawals, filter_cons, hstale, Bool.not_false, if_true, map_cons]
      rfl

def announcements (m : Mitigator) (text : AddrText) (owned : List String)
    (claimed : List MitigationRecord) : List Sent :=
  (claimed.filter fun r =>
    r.state = .active && !owned.contains (r.duplicateKey text.showAddr)).map fun r =>
      .announce r (announcement text r.target r.action m.routes)

theorem restore_calm (setting : Setting) (m : Mitigator) (s : Session) (calm : w.refusal = fun _ => none) (owned : List String)
    (claimed : List MitigationRecord) :
    ∃ n, m.restore setting.text.showAddr owned claimed (setting, w) s =
      (.ok n, logged s (announcements m setting.text owned claimed)) := by
  induction claimed generalizing s with
  | nil => exact ⟨0, congrArg (Prod.mk _) (logged_nil s).symm⟩
  | cons r claimed ih =>
    unfold restore
    split
    · rename_i hmissing
      have hsend : m.sendAnnouncement r (setting, w) s = _ := send_calm calm _
      obtain ⟨n, hn⟩ := ih (logged s
        [.announce r (announcement setting.text r.target r.action m.routes)])
      refine ⟨n + 1, ?_⟩
      rw [Action.bind_of_ok hsend, Action.bind_of_ok hn, logged_cons]
      simp only [announcements, filter_cons, hmissing, if_true, map_cons]
      rfl
    · rename_i hmissing
      obtain ⟨n, hn⟩ := ih s
      refine ⟨n, hn.trans ?_⟩
      simp only [announcements, filter_cons, hmissing, Bool.false_eq_true, if_false]

theorem mapM_ok {α β ε : Type} {f : α → Except ε β} {l : List α}
    (h : ∀ a ∈ l, ∃ b, f a = .ok b) :
    ∃ bs, l.mapM f = .ok bs ∧ ∀ b, b ∈ bs ↔ ∃ a ∈ l, f a = .ok b := by
  induction l with
  | nil => exact ⟨[], rfl, by simp⟩
  | cons a l ih =>
    obtain ⟨b, hb⟩ := h a mem_cons_self
    obtain ⟨bs, hbs, hall⟩ := ih fun a' ha' => h a' (mem_cons_of_mem _ ha')
    refine ⟨b :: bs, by rw [mapM_cons, hb, hbs]; rfl, ?_⟩
    intro b'
    simp only [mem_cons, hall, exists_eq_or_imp, hb, Except.ok.injEq]
    exact or_congr_left eq_comm

end Calls

section Own

variable (faithful : Faithful setting.text)
variable {path : Path}
variable {config : RouteConfig} {r : MitigationRecord}

theorem own_isOwned (own : OwnRib setting m rib) (hpath : path ∈ rib) :
    isOwned path m.routes = true := by
  obtain ⟨target, action, config, -, hasn, listed⟩ := own.announced path hpath
  exact (listed.owned _).trans (isOwned_announcement hasn)

include faithful

theorem own_readBack (own : OwnRib setting m rib) (hpath : path ∈ rib) :
    ∃ route, readBack setting.text path = .ok route ∧
      routePlace setting.text route.target route.action = place path := by
  obtain ⟨target, action, config, hvalid, -, listed⟩ := own.announced path hpath
  obtain ⟨action', hread, -, hflow⟩ := readBack_announcement faithful.reads config hvalid
  refine ⟨_, readBack_listed listed hread, ?_⟩
  rw [listed.place, place_announcement]
  exact routePlace_congr hflow

theorem Belongs.place_eq (hvalid : action.validateFor target = .ok ())
    (listed : Listed path (announcement setting.text target action config))
    (h : Belongs setting path r) :
    place path = routePlace setting.text r.target r.action := by
  obtain ⟨route, hread, hkey⟩ := h
  obtain ⟨action', hread', -, -⟩ := readBack_announcement faithful.reads config hvalid
  rw [readBack_listed listed hread'] at hread
  cases hread
  obtain ⟨-, rfl, hflow⟩ := duplicateKey_inj faithful hkey
  rw [listed.place, place_announcement]
  exact routePlace_congr hflow

theorem announcement_belongs (hvalid : r.action.validateFor r.target = .ok ())
    (listed : Listed path (announcement setting.text r.target r.action config)) :
    Belongs setting path r := by
  obtain ⟨action', hread, -, -⟩ := readBack_announcement faithful.reads config hvalid
  exact ⟨_, readBack_listed listed hread, rfl⟩

/-- First the routes no claimed mitigation has, then those of active ones that are missing. -/
theorem calls_eq (now : Int) (db : Database) (connected : m.gobgp = true) (own : OwnRib setting m rib) :
    ∃ owned : List OwnedRoute,
      (∀ route, route ∈ owned ↔ ∃ path ∈ rib, readBack setting.text path = .ok route) ∧
      calls setting m now db rib =
        withdrawals setting.text ((claimedBatch db).map
          (MitigationRecord.duplicateKey setting.text.showAddr)) owned ++
        announcements m setting.text (owned.map OwnedRoute.key) (claimedBatch db) := by
  have hfilter : rib.filter (fun path => isOwned path m.routes) = rib :=
    List.filter_eq_self.mpr fun path hpath => own_isOwned own hpath
  obtain ⟨owned, hmapM, howned⟩ := mapM_ok (f := readBack setting.text) (l := rib)
    fun path hpath => (own_readBack faithful own hpath).imp fun _ h => h.1
  refine ⟨owned, howned, ?_⟩
  let t : Session := ⟨db, 1, [db.controls.engaged], []⟩
  have hwork : access (work m.guard batch) (setting, calm now rib) { db } =
      (.ok ((db.live.take batch).map (workItem m.guard.config.approvalWindowSeconds now)), t) := rfl
  have hread : m.ownedRoutes (setting, calm now rib) t = (.ok owned, t) := by
    unfold ownedRoutes
    dsimp only [calm]
    rw [hfilter, hmapM]
  have hbatch : ((db.live.take batch).map
      (workItem m.guard.config.approvalWindowSeconds now)).map WorkItem.record = batchOf db := by
    rw [map_map]
    rfl
  unfold calls reconcile
  rw [Action.bind_of_ok hwork, live_bind, if_pos connected, Action.bind_of_ok hread, hbatch,
    show (batchOf db).filter claims = claimedBatch db from rfl]
  obtain ⟨n, hstale⟩ := withdrawStale_calm setting t (w := calm now rib) rfl
    ((claimedBatch db).map (MitigationRecord.duplicateKey setting.text.showAddr)) owned
  obtain ⟨k, hrestored⟩ := restore_calm setting m (logged t _) (w := calm now rib) rfl (owned.map OwnedRoute.key) (claimedBatch db)
  unfold compareRoutes settle
  dsimp only
  rw [Action.bind_of_ok hstale, Action.bind_of_ok hrestored]
  change List.map Entry.sent (logged (logged t _) _).log = _
  simp [logged, t, Function.comp_def]

end Own

section Stored

variable {r : MitigationRecord}
variable {a b : MitigationRecord}

theorem mem_batchOf (h : r ∈ batchOf db) :
    ∃ (id : MitigationId) (row : Row), db.mitigations[id]? = some row ∧ row.record = r := by
  obtain ⟨row, hrow, rfl⟩ := List.mem_map.mp h
  exact ⟨_, row, (mem_live.mp (mem_of_mem_take hrow)).1, rfl⟩

theorem mem_claimedBatch : r ∈ claimedBatch db ↔ Claimed db r ∧ r ∈ batchOf db := by
  unfold claimedBatch
  rw [mem_filter]
  constructor
  · rintro ⟨hbatch, hclaims⟩
    obtain ⟨id, row, hrow, hr⟩ := mem_batchOf hbatch
    exact ⟨⟨id, row, hrow, hr, hclaims⟩, hbatch⟩
  · rintro ⟨⟨-, -, -, -, hclaims⟩, hbatch⟩
    exact ⟨hbatch, hclaims⟩

theorem live_of_claims (h : claims r = true) : r.state.isTerminal = false := by
  simp only [claims, Bool.and_eq_true, Bool.or_eq_true, decide_eq_true_eq] at h
  rcases h.1 with hstate | hstate <;> rw [hstate] <;> rfl

variable (stored : WellStored setting db)
include stored

theorem Claimed.valid (h : Claimed db r) : r.action.validateFor r.target = .ok () := by
  obtain ⟨id, row, hrow, rfl, -⟩ := h
  exact stored.valid id row hrow

theorem Claimed.eq_of_key (ha : Claimed db a) (hb : Claimed db b)
    (hkey : a.duplicateKey setting.text.showAddr = b.duplicateKey setting.text.showAddr) :
    a = b := by
  obtain ⟨id, row, hrow, rfl, hclaims⟩ := ha
  obtain ⟨id', row', hrow', rfl, hclaims'⟩ := hb
  obtain rfl := stored.oneLive id id' row row' hrow hrow' (live_of_claims hclaims)
    (live_of_claims hclaims') hkey
  rw [hrow] at hrow'
  cases hrow'
  rfl

theorem Belongs.unique (ha : Claimed db a) (hb : Claimed db b) (hpa : Belongs setting path a)
    (hpb : Belongs setting path b) : a = b := by
  obtain ⟨route, hread, hkey⟩ := hpa
  obtain ⟨route', hread', hkey'⟩ := hpb
  rw [hread] at hread'
  cases hread'
  exact ha.eq_of_key stored hb (hkey.symm.trans hkey')

end Stored

section Left

def Missing (setting : Setting) (db : Database) (rib : List Path) (r : MitigationRecord) : Prop :=
  r ∈ claimedBatch db ∧ r.state = .active ∧ ¬ ∃ path ∈ rib, Belongs setting path r

/-- What reconciliation does: the routes that stay are those of claimed mitigations of the batch,
and the missing ones are put to them. -/
structure Outcome (setting : Setting) (m : Mitigator) (now : Int) (db : Database)
    (rib : List Path) (lists : Path → Path) (kept : List Path) (restored : List MitigationRecord) :
    Prop where
  kept_iff : ∀ path, path ∈ kept ↔ path ∈ rib ∧ ∃ r ∈ claimedBatch db, Belongs setting path r
  distinct : Distinct place kept
  restored_iff : ∀ r, r ∈ restored ↔ Missing setting db rib r
  withdrawn : ∀ r path, Sent.withdraw r path ∈ calls setting m now db rib →
    ∀ held ∈ rib, place held = place path → held ∉ kept
  silent : (∀ path ∈ rib, path ∈ kept) → restored = [] → calls setting m now db rib = []
  result : afterwards setting m now db rib lists =
    (restored.map fun r => lists (announcement setting.text r.target r.action m.routes)).foldl
      (put place) kept

variable (faithful : Faithful setting.text) (connected : m.gobgp = true)
variable (own : OwnRib setting m rib)
include faithful own

theorem place_mem_stale {owned : List OwnedRoute}
    (howned : ∀ route, route ∈ owned ↔ ∃ path ∈ rib, readBack setting.text path = .ok route)
    (hpath : path ∈ rib) {route : OwnedRoute} (hread : readBack setting.text path = .ok route)
    (stale : OwnedRoute → Bool) :
    place path ∈ (owned.filter stale).map
      (fun route => routePlace setting.text route.target route.action) ↔ stale route = true := by
  have hplace : ∀ {path route}, path ∈ rib → readBack setting.text path = .ok route →
      routePlace setting.text route.target route.action = place path := by
    intro path route hpath hread
    obtain ⟨route', hread', hplace⟩ := own_readBack faithful own hpath
    rw [hread] at hread'
    cases hread'
    exact hplace
  rw [mem_map]
  constructor
  · rintro ⟨route', hmem, heq⟩
    obtain ⟨hmem, hstale⟩ := List.mem_filter.mp hmem
    obtain ⟨path', hpath', hread'⟩ := (howned route').mp hmem
    rw [hplace hpath' hread'] at heq
    obtain rfl := own.distinct.eq_of_place hpath' hpath heq
    rw [hread] at hread'
    cases hread'
    exact hstale
  · intro hstale
    refine ⟨route, List.mem_filter.mpr ⟨(howned route).mpr ⟨path, hpath, hread⟩, hstale⟩, ?_⟩
    exact hplace hpath hread

include connected

theorem outcome (now : Int) (db : Database) (lists : Path → Path) :
    ∃ kept restored, Outcome setting m now db rib lists kept restored := by
  obtain ⟨owned, howned, hcalls⟩ := calls_eq faithful now db connected own
  let keys := (claimedBatch db).map (MitigationRecord.duplicateKey setting.text.showAddr)
  let stale := fun route : OwnedRoute => !keys.contains route.key
  let gone := (owned.filter stale).map
    fun route => routePlace setting.text route.target route.action
  let missing := fun r : MitigationRecord => r.state = .active &&
    !(owned.map OwnedRoute.key).contains (r.duplicateKey setting.text.showAddr)
  have hstale : ∀ {path route}, readBack setting.text path = .ok route →
      (stale route = false ↔ ∃ r ∈ claimedBatch db, Belongs setting path r) := by
    intro path route hread
    simp only [stale, keys, Bool.not_eq_false', contains_eq_mem, decide_eq_true_eq,
      mem_map]
    constructor
    · rintro ⟨r, hr, hkey⟩
      exact ⟨r, hr, route, hread, hkey.symm⟩
    · rintro ⟨r, hr, route', hread', hkey⟩
      rw [hread] at hread'
      cases hread'
      exact ⟨r, hr, hkey.symm⟩
  have hkept : ∀ path, path ∈ gone.foldl (clear place) rib ↔
      path ∈ rib ∧ ∃ r ∈ claimedBatch db, Belongs setting path r := by
    intro path
    rw [mem_foldl_clear]
    refine and_congr_right fun hpath => ?_
    obtain ⟨route, hread, -⟩ := own_readBack faithful own hpath
    rw [place_mem_stale faithful own howned hpath hread stale, Bool.not_eq_true, hstale hread]
  have hmissing : ∀ r, r ∈ (claimedBatch db).filter missing ↔ Missing setting db rib r := by
    intro r
    simp only [missing, mem_filter, Bool.and_eq_true, decide_eq_true_eq, Bool.not_eq_true',
      contains_eq_mem, decide_eq_false_iff_not, mem_map, howned, Missing, Belongs]
    refine and_congr_right fun _ => and_congr_right fun _ => not_congr ?_
    constructor
    · rintro ⟨route, ⟨path, hpath, hread⟩, hkey⟩
      exact ⟨path, hpath, route, hread, hkey⟩
    · rintro ⟨path, hpath, route, hread, hkey⟩
      exact ⟨route, ⟨path, hpath, hread⟩, hkey⟩
  refine ⟨gone.foldl (clear place) rib, (claimedBatch db).filter missing, hkept,
    own.distinct.foldl_clear gone, hmissing, ?_, ?_, ?_⟩
  · intro r path hsent held hheld hplace hkeptHeld
    rw [hcalls, mem_append] at hsent
    rcases hsent with hsent | hsent
    · obtain ⟨route, hroute, heq⟩ := List.mem_map.mp hsent
      cases heq
      refine (mem_foldl_clear.mp hkeptHeld).2 ?_
      rw [hplace, place_withdrawal]
      exact List.mem_map.mpr ⟨route, hroute, rfl⟩
    · obtain ⟨r', -, heq⟩ := List.mem_map.mp hsent
      cases heq
  · intro hall hnone
    have hnostale : owned.filter stale = [] := by
      rw [filter_eq_nil_iff]
      intro route hroute
      obtain ⟨path, hpath, hread⟩ := (howned route).mp hroute
      rw [Bool.not_eq_true, hstale hread]
      exact ((hkept path).mp (hall path hpath)).2
    rw [hcalls]
    unfold withdrawals announcements
    rw [show owned.filter _ = [] from hnostale, show (claimedBatch db).filter _ = [] from hnone]
    rfl
  · unfold afterwards
    rw [hcalls, foldl_append]
    unfold withdrawals announcements
    rw [foldl_map, foldl_map, foldl_map, foldl_map]
    simp only [applySent, place_withdrawal]
    rfl

end Left

section Convergence

variable {kept : List Path} {restored : List MitigationRecord}
variable {path : Path} {r : MitigationRecord}
variable (listed : ∀ path, Listed (lists path) path)

include listed

theorem own_afterwards (own : OwnRib setting m rib) (stored : WellStored setting db)
    (h : Outcome setting m now db rib lists kept restored) :
    OwnRib setting m (afterwards setting m now db rib lists) := by
  rw [h.result]
  refine ⟨?_, h.distinct.foldl_put _⟩
  intro path hpath
  rcases mem_or_mem_of_foldl_put hpath with hkept | hput
  · exact own.announced path ((h.kept_iff path).mp hkept).1
  · obtain ⟨r, hr, rfl⟩ := List.mem_map.mp hput
    have hclaimed := (mem_claimedBatch.mp ((h.restored_iff r).mp hr).1).1
    exact ⟨r.target, r.action, m.routes, hclaimed.valid stored, rfl, listed _⟩

section

variable (faithful : Faithful setting.text)

include faithful

theorem afterwards_wanted (stored : WellStored setting db)
    (h : Outcome setting m now db rib lists kept restored)
    (hpath : path ∈ afterwards setting m now db rib lists) :
    ∃ r ∈ claimedBatch db, Wanted setting db rib r ∧ Belongs setting path r := by
  rw [h.result] at hpath
  rcases mem_or_mem_of_foldl_put hpath with hkept | hput
  · obtain ⟨hrib, r, hr, hbelongs⟩ := (h.kept_iff path).mp hkept
    exact ⟨r, hr, ⟨(mem_claimedBatch.mp hr).1, Or.inr ⟨path, hrib, hbelongs⟩⟩, hbelongs⟩
  · obtain ⟨r, hr, rfl⟩ := List.mem_map.mp hput
    obtain ⟨hbatch, hactive, -⟩ := (h.restored_iff r).mp hr
    have hclaimed := (mem_claimedBatch.mp hbatch).1
    exact ⟨r, hbatch, ⟨hclaimed, Or.inl hactive⟩,
      announcement_belongs faithful (hclaimed.valid stored) (listed _)⟩

omit listed in
theorem place_of_belongs (own : OwnRib setting m paths)
    (hpath : path ∈ paths) (h : Belongs setting path r) :
    place path = routePlace setting.text r.target r.action := by
  obtain ⟨target, action, config, hvalid, -, heq⟩ := own.announced path hpath
  exact h.place_eq faithful hvalid heq

theorem wanted_present (own : OwnRib setting m rib)
    (stored : WellStored setting db) (h : Outcome setting m now db rib lists kept restored)
    (hbatch : ∀ r, Wanted setting db rib r → r ∈ claimedBatch db)
    (apart : ∀ a b, Wanted setting db rib a → Wanted setting db rib b →
      routePlace setting.text a.target a.action = routePlace setting.text b.target b.action →
      a = b) (hr : Wanted setting db rib r) :
    ∃ path ∈ afterwards setting m now db rib lists, Belongs setting path r := by
  have hmissing : ∀ x ∈ restored.map
      (fun r => lists (announcement setting.text r.target r.action m.routes)), place x =
        routePlace setting.text r.target r.action →
      r ∈ restored ∧ x = lists (announcement setting.text r.target r.action m.routes) := by
    intro x hx hplace
    obtain ⟨r', hr', rfl⟩ := List.mem_map.mp hx
    rw [(listed _).place, place_announcement] at hplace
    obtain ⟨hmem, hactive, -⟩ := (h.restored_iff r').mp hr'
    obtain rfl := apart r' r ⟨(mem_claimedBatch.mp hmem).1, Or.inl hactive⟩ hr hplace
    exact ⟨hr', rfl⟩
  rw [h.result]
  by_cases hthere : ∃ path ∈ rib, Belongs setting path r
  · obtain ⟨path, hpath, hbelongs⟩ := hthere
    refine ⟨path, mem_foldl_put (Or.inl ?_) ?_, hbelongs⟩
    · exact (h.kept_iff path).mpr ⟨hpath, r, hbatch r hr, hbelongs⟩
    · intro x hx hplace
      rw [place_of_belongs faithful own hpath hbelongs] at hplace
      have habsent := ((h.restored_iff r).mp (hmissing x hx hplace).1).2.2
      exact absurd ⟨path, hpath, hbelongs⟩ habsent
  · have hactive := hr.2.resolve_right hthere
    have hrestored := (h.restored_iff r).mpr ⟨hbatch r hr, hactive, hthere⟩
    refine ⟨lists (announcement setting.text r.target r.action m.routes),
      mem_foldl_put (Or.inr ?_) ?_,
      announcement_belongs faithful (hr.1.valid stored) (listed _)⟩
    · exact List.mem_map.mpr ⟨r, hrestored, rfl⟩
    · intro x hx hplace
      rw [(listed (announcement _ _ _ _)).place, place_announcement] at hplace
      exact (hmissing x hx hplace).2

/-- GoBGP holds one path in a place, so two mitigations cannot both have theirs in it. -/
theorem apart_of_converges (connected : m.gobgp = true)
    (own : OwnRib setting m rib) (stored : WellStored setting db)
    (converges : Converges setting m now db rib lists)
    (ha : Wanted setting db rib a) (hb : Wanted setting db rib b)
    (hplace : routePlace setting.text a.target a.action =
      routePlace setting.text b.target b.action) : a = b := by
  obtain ⟨kept, restored, h⟩ := outcome faithful connected own now db lists
  have ownAfter := own_afterwards listed own stored h
  obtain ⟨path, ⟨hpath, hbelongs⟩, -⟩ := converges.present a ha
  obtain ⟨path', ⟨hpath', hbelongs'⟩, -⟩ := converges.present b hb
  have hsame : place path = place path' := by
    rw [place_of_belongs faithful ownAfter hpath hbelongs,
      place_of_belongs faithful ownAfter hpath' hbelongs', hplace]
  obtain rfl := ownAfter.distinct.eq_of_place hpath hpath' hsame
  exact Belongs.unique stored ha.1 hb.1 hbelongs hbelongs'

end

omit listed in
/-- Reconciliation converges exactly when the mitigations that should have a route are all in
the batch it looks at, and no two of them have one place in GoBGP. -/
theorem reconcile_converges_iff (setting : Setting) (faithful : Faithful setting.text)
    (lists : Path → Path) (listed : ∀ path, Listed (lists path) path)
    (m : Mitigator) (connected : m.gobgp = true) (now : Int) (db : Database)
    (stored : WellStored setting db) (rib : List Path) (own : OwnRib setting m rib) :
    Converges setting m now db rib lists ↔
      (∀ r, Wanted setting db rib r → r ∈ batchOf db) ∧
      (∀ a b, Wanted setting db rib a → Wanted setting db rib b →
        routePlace setting.text a.target a.action = routePlace setting.text b.target b.action →
        a = b) := by
  obtain ⟨kept, restored, h⟩ := outcome faithful connected own now db lists
  have ownAfter := own_afterwards listed own stored h
  constructor
  · intro converges
    constructor
    · intro r hr
      obtain ⟨path, ⟨hpath, hbelongs⟩, -⟩ := converges.present r hr
      obtain ⟨r', hbatch, hwanted, hbelongs'⟩ := afterwards_wanted listed faithful stored h hpath
      obtain rfl := Belongs.unique stored hr.1 hwanted.1 hbelongs hbelongs'
      exact (mem_claimedBatch.mp hbatch).2
    · exact fun a b => apart_of_converges listed faithful connected own stored converges
  · rintro ⟨inBatch, apart⟩
    have hbatch : ∀ r, Wanted setting db rib r → r ∈ claimedBatch db := fun r hr =>
      mem_claimedBatch.mpr ⟨hr.1, inBatch r hr⟩
    have hpresent := fun r hr => wanted_present listed faithful own stored h hbatch apart (r := r) hr
    refine ⟨?_, ?_, ?_, ?_⟩
    · intro r path hsent held hheld hplace r' hclaimed hbelongs
      have hr' := hbatch r' ⟨hclaimed, Or.inr ⟨held, hheld, hbelongs⟩⟩
      exact h.withdrawn r path hsent held hheld hplace
        ((h.kept_iff held).mpr ⟨hheld, r', hr', hbelongs⟩)
    · intro r hr
      obtain ⟨path, hpath, hbelongs⟩ := hpresent r hr
      refine ⟨path, ⟨hpath, hbelongs⟩, ?_⟩
      rintro path' ⟨hpath', hbelongs'⟩
      apply ownAfter.distinct.eq_of_place hpath' hpath
      rw [place_of_belongs faithful ownAfter hpath' hbelongs',
        place_of_belongs faithful ownAfter hpath hbelongs]
    · intro path hpath
      obtain ⟨r, -, hwanted, hbelongs⟩ := afterwards_wanted listed faithful stored h hpath
      exact ⟨r, hwanted, hbelongs⟩
    · obtain ⟨kept', restored', h'⟩ := outcome faithful connected ownAfter now db lists
      apply h'.silent
      · intro path hpath
        obtain ⟨r, hr, -, hbelongs⟩ := afterwards_wanted listed faithful stored h hpath
        exact (h'.kept_iff path).mpr ⟨hpath, r, hr, hbelongs⟩
      · rw [eq_nil_iff_forall_not_mem]
        intro r hr
        obtain ⟨hr, hactive, habsent⟩ := (h'.restored_iff r).mp hr
        exact habsent (hpresent r ⟨(mem_claimedBatch.mp hr).1, Or.inl hactive⟩)

end Convergence

/-- An IPv4 address as the standard library writes it. The samples have no other; an IPv6 address
is written as its number. -/
def dottedText : AddrText where
  showAddr
    | .v4 bits => String.ofList (['.'].intercalate
        ([24, 16, 8, 0].map fun place => Nat.toDigits 10 (bits.toNat / 2 ^ place % 256)))
    | .v6 bits => String.ofList (':' :: Nat.toDigits 10 bits.toNat)
  parseAddr written :=
    let value digits := Nat.ofDigitChars 10 digits 0
    match written.toList.splitOn '.' with
    | [a, b, c, d] => some (.v4 (BitVec.ofNat 32
        (((value a * 256 + value b) * 256 + value c) * 256 + value d)))
    | [':' :: digits] => some (.v6 (BitVec.ofNat 128 (value digits)))
    | _ => none

theorem dottedText_faithful : Faithful dottedText where
  reads a := by
    have hnumber : ∀ n c, c.isDigit = false → c ∉ Nat.toDigits 10 n := by
      intro n c hc hmem
      rw [isDigit_toDigits hmem] at hc
      cases hc
    have hvalue : ∀ n, Nat.ofDigitChars 10 (Nat.toDigits 10 n) 0 = n := fun n =>
      Nat.ofDigitChars_toDigits (by omega) le_rfl
    cases a with
    | v4 bits =>
      have hbits : ((bits.toNat / 2 ^ 24 % 256 * 256 + bits.toNat / 2 ^ 16 % 256) * 256 +
          bits.toNat / 2 ^ 8 % 256) * 256 + bits.toNat / 2 ^ 0 % 256 = bits.toNat := by
        have := bits.isLt
        omega
      simp only [dottedText, String.toList_ofList]
      rw [splitOn_intercalate '.' (by simp [hnumber]) (by simp)]
      simp only [map_cons, map_nil, hvalue, hbits, BitVec.ofNat_toNat, BitVec.setWidth_eq]
    | v6 bits =>
      have hsplit : (['.'].intercalate [':' :: Nat.toDigits 10 bits.toNat]).splitOn '.' =
          [':' :: Nat.toDigits 10 bits.toNat] :=
        splitOn_intercalate '.' (by simp [hnumber]) (by simp)
      rw [intercalate_singleton] at hsplit
      simp only [dottedText, String.toList_ofList, hsplit, hvalue, BitVec.ofNat_toNat,
        BitVec.setWidth_eq]
  plain a c hc := by
    have hdigit : ∀ n, c ∈ Nat.toDigits 10 n → c.isAlphanum = true := by
      intro n hn
      simp [Char.isAlphanum, isDigit_toDigits hn]
    cases a with
    | v4 bits =>
      simp only [dottedText, String.toList_ofList, map_cons, map_nil, intercalate_cons_cons,
        intercalate_singleton, mem_append, mem_singleton] at hc
      rcases hc with (h | h) | (h | h) | (h | h) | h
      all_goals first | exact .inl (hdigit _ h) | exact .inr (.inl h)
    | v6 bits =>
      simp only [dottedText, String.toList_ofList, mem_cons] at hc
      exact hc.elim (fun h => .inr (.inr h)) fun h => .inl (hdigit _ h)

def dottedSetting : Setting := ⟨dottedText, id⟩

def activeRecord (id : MitigationId) (action : Action) : MitigationRecord where
  id := id
  tenant := "acme"
  incidentId := none
  target := sampleHost
  action := action
  reason := "attack"
  duration := fromSecs 60
  state := .active
  version := 4
  requestedBy := .operator "alice"
  approvedBy := some (.operator "bob")
  dryRun := some false
  withdrawal := none
  lastError := none

def discarding : MitigationRecord := activeRecord "m1" (.flowspecDiscard {})

def limiting (flow : FlowMatch) : MitigationRecord :=
  activeRecord "m2" (.flowspecRateLimit flow 1000)

def udp : FlowMatch := { protocol := some 17#8 }

def twoStore (flow : FlowMatch) : Database :=
  addRow (addRow {} ⟨discarding, 0, none⟩) ⟨limiting flow, 0, none⟩

theorem twoStore_get {id : MitigationId} (h : (twoStore flow).mitigations[id]? = some row) :
    id = "m1" ∧ row.record = discarding ∨ id = "m2" ∧ row.record = limiting flow := by
  change (((∅ : Table MitigationId Row).insert "m1" ⟨discarding, 0, none⟩).insert "m2"
    ⟨limiting flow, 0, none⟩)[id]? = some row at h
  rw [get_insert, get_insert] at h
  split_ifs at h with hid hid'
  · cases h
    exact Or.inr ⟨hid.symm, rfl⟩
  · cases h
    exact Or.inl ⟨hid'.symm, rfl⟩
  · simp at h

theorem twoStore_wellStored (valid : (limiting flow).action.validateFor sampleHost = .ok ()) :
    WellStored dottedSetting (twoStore flow) where
  valid id row h := by
    rcases twoStore_get h with ⟨-, hr⟩ | ⟨-, hr⟩
    · rw [hr]
      decide
    · rw [hr]
      exact valid
  oneLive id id' row row' h h' _ _ hkey := by
    have hne : discarding.action.kind ≠ (limiting flow).action.kind := by
      intro h
      cases h
    rcases twoStore_get h with ⟨hid, hr⟩ | ⟨hid, hr⟩ <;>
      rcases twoStore_get h' with ⟨hid', hr'⟩ | ⟨hid', hr'⟩
    · exact hid.trans hid'.symm
    · rw [hr, hr'] at hkey
      exact absurd (duplicateKey_inj dottedText_faithful hkey).1 hne
    · rw [hr, hr'] at hkey
      exact absurd (duplicateKey_inj dottedText_faithful hkey).1.symm hne
    · exact hid.trans hid'.symm

/-- The end-of-list bit in every operator. -/
def withEnd (path : Path) : Path :=
  { path with nlri := path.nlri.map fun
    | .flowSpec rules => .flowSpec (rules.map fun
      | .component type items =>
        .component type (items.map fun item => { item with op := item.op ||| 0x80 })
      | rule => rule)
    | nlri => nlri }

theorem withEnd_listed (path : Path) : Listed (withEnd path) path where
  place := by
    have hbits : ∀ op, (op ||| 0x80) &&& opComparison = op &&& opComparison := by
      intro op
      rw [Nat.and_or_distrib_right]
      exact Nat.or_zero _
    obtain ⟨nlri, pattrs, family, isWithdraw⟩ := path
    simp only [place, withEnd, Option.map_map]
    congr 2
    funext nlri
    rcases nlri with _ | rules
    · rfl
    simp only [Function.comp, bare, map_map]
    congr 2
    funext rule
    cases rule <;> simp [bareRule, hbits]
  owned _ := rfl
  rate := rfl

/-- GoBGP lists the route of one of the two, and one that no mitigation has. -/
def sampleRib : List Path :=
  [withEnd (announcement dottedText sampleHost (limiting udp).action liveMitigator.routes),
    withEnd (announcement dottedText sampleHost .rtbh liveMitigator.routes)]

theorem sampleRib_own : OwnRib dottedSetting liveMitigator sampleRib where
  announced path hpath := by
    simp only [sampleRib, mem_cons, not_mem_nil, or_false] at hpath
    rcases hpath with rfl | rfl
    · exact ⟨_, _, _, by decide, rfl, withEnd_listed _⟩
    · exact ⟨_, _, _, by decide, rfl, withEnd_listed _⟩
  distinct := by
    refine pairwise_pair.mpr ?_
    rw [(withEnd_listed _).place, (withEnd_listed _).place, place_announcement, place_announcement]
    intro h
    cases (routePlace_inj dottedText_faithful.reads h).2

/-- The other route is restored, and the one that no mitigation has is withdrawn. -/
theorem reconcile_converges_iff_twoStore :
    Converges dottedSetting liveMitigator 0 (twoStore udp) sampleRib withEnd := by
  have hwanted : ∀ {r}, Wanted dottedSetting (twoStore udp) sampleRib r →
      r = discarding ∨ r = limiting udp := by
    rintro r ⟨⟨id, row, hrow, rfl, -⟩, -⟩
    exact (twoStore_get hrow).imp And.right And.right
  have hne : routePlace dottedText sampleHost discarding.action ≠
      routePlace dottedText sampleHost (limiting udp).action := by
    intro h
    cases (routePlace_inj dottedText_faithful.reads h).2
  refine (reconcile_converges_iff dottedSetting dottedText_faithful withEnd withEnd_listed
    liveMitigator rfl 0 _ (show WellStored _ (twoStore udp) from twoStore_wellStored (by decide)) _ sampleRib_own).mpr ⟨?_, ?_⟩
  · intro r hr
    rcases hwanted hr with rfl | rfl <;> decide +kernel
  · intro a b ha hb h
    rcases hwanted ha with rfl | rfl <;> rcases hwanted hb with rfl | rfl
    · rfl
    · exact absurd h hne
    · exact absurd h.symm hne
    · rfl

/-- A discard and a rate limit of the same traffic are two mitigations with one place in GoBGP. -/
theorem flowspec_pair_diverges : ∃ setting lists m now db rib, Faithful setting.text ∧
    (∀ path, Listed (lists path) path) ∧ m.gobgp = true ∧ WellStored setting db ∧
    OwnRib setting m rib ∧ ¬ Converges setting m now db rib lists := by
  have own : OwnRib dottedSetting liveMitigator [] := ⟨by simp, List.Pairwise.nil⟩
  have stored : WellStored dottedSetting (twoStore {}) := twoStore_wellStored (by decide)
  refine ⟨dottedSetting, withEnd, liveMitigator, 0, twoStore {}, [], dottedText_faithful,
    withEnd_listed, rfl, stored, own, ?_⟩
  intro converges
  have hclaimed : Claimed (twoStore {}) discarding ∧ Claimed (twoStore {}) (limiting {}) := by
    constructor
    · refine ⟨"m1", ⟨discarding, 0, none⟩, ?_, rfl, rfl⟩
      change ((addRow {} ⟨discarding, 0, none⟩).mitigations.insert "m2" _)["m1"]? = _
      rw [get_insert_ne _ _ (by decide)]
      exact get_insert_self _ _ _
    · exact ⟨"m2", ⟨limiting {}, 0, none⟩, get_insert_self _ _ _, rfl, rfl⟩
  have hsame := apart_of_converges withEnd_listed dottedText_faithful rfl own stored
    converges (a := discarding) (b := limiting {}) ⟨hclaimed.1, Or.inl rfl⟩
    ⟨hclaimed.2, Or.inl rfl⟩ rfl
  exact absurd (congrArg MitigationRecord.id hsame) (by decide)

end Tidegard.Mitigator.Proofs.Reconciled
