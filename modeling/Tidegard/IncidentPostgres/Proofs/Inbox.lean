import Tidegard.IncidentPostgres.Inbox
import Tidegard.Incident.Proofs.Calls

namespace Tidegard.IncidentPostgres.Proofs.Inbox

open Tables Runs Fallible Detector.Event Incident.Basics Incident.Record Incident.Store
open Incident.UnitOfWork Incident.Proofs.Writes Incident.Proofs.Calls IncidentPostgres.Inbox

def linkKey (event : DetectionEvent) : TenantId ×ₗ String :=
  toLex (event.target.tenant, event.dedupKey)

section Domain

variable {env : Env} {event : DetectionEvent}
variable {t : Session}

theorem marked_dedupSeen (u : IncidentUnitOfWork) (id : IncidentId) :
    (marked event u id).store.dedupSeen[linkKey event]? = some id := get_insert_self _ _ _

theorem ingest_links (h : Ingested env auth event u m o t)
    (changed : t.uow.store.incidents ≠ u.store.incidents) :
    u.store.dedupSeen[linkKey event]? = none ∧
      ∃ id, t.uow.store.dedupSeen[linkKey event]? = some id := by
  cases h with
  | refused | denied | turned =>
    exact absurd rfl changed
  | correlated o t admitted ran =>
    refine ⟨admitted.fresh, ?_⟩
    cases ran with
    | linked id o t active ran kept =>
      exact ⟨id, by rw [Written.dedupSeen ran]; exact marked_dedupSeen u id⟩
    | ended id t o t' active last ran recovers =>
      refine ⟨id, ?_⟩
      rw [Written.dedupSeen recovers, Written.dedupSeen ran]
      exact marked_dedupSeen u id
    | late candidate o t vacant found late ran
    | reopened candidate now o t vacant found new reading recurs ran =>
      exact ⟨_, by rw [Written.dedupSeen ran]; exact marked_dedupSeen u _⟩
    | created id t => exact ⟨id, marked_dedupSeen t.uow id⟩
    | quarantined | refused => exact absurd rfl changed

end Domain

section Flush

variable {store store' : InMemoryIncidentStore}

def Linked (store store' : InMemoryIncidentStore) : Prop :=
  ∀ key : TenantId ×ₗ String, store.dedupSeen[key]?.isSome = true → store'.dedupSeen[key]?.isSome = true

theorem writeIncident_links {change : IncidentId × Incident × Option Nat}
    (h : writeIncident store change = .ok store') : store'.dedupSeen = store.dedupSeen := by
  unfold writeIncident at h
  dsimp only at h
  split at h
  · cases h
  split at h
  · cases h
  split at h
  · cases h
  · cases h
    rfl

theorem writeIncidents_links {changes : List (IncidentId × Incident × Option Nat)}
    (h : changes.foldlM writeIncident store = .ok store') :
    store'.dedupSeen = store.dedupSeen := by
  induction changes generalizing store with
  | nil =>
    cases h
    rfl
  | cons change changes ih =>
    rw [List.foldlM_cons] at h
    obtain ⟨mid, hmid, hrest⟩ := bind_eq_ok.mp h
    exact (ih hrest).trans (writeIncident_links hmid)

theorem writeLink_ok (h : writeLink store link = .ok store') :
    store.dedupSeen[link.1]? = none ∧ store'.dedupSeen[link.1]?.isSome = true ∧
      Linked store store' ∧ store'.incidents = store.incidents := by
  unfold writeLink at h
  split at h
  · cases h
  · rename_i hfresh
    cases h
    refine ⟨by simpa using hfresh, by simp, fun key hkey => ?_, rfl⟩
    dsimp only
    rw [get_insert]
    split
    · rfl
    · exact hkey

theorem writeLinks_ok {links : List ((TenantId ×ₗ String) × IncidentId)}
    (h : links.foldlM writeLink store = .ok store') :
    (∀ link ∈ links, store.dedupSeen[link.1]? = none ∧
      store'.dedupSeen[link.1]?.isSome = true) ∧
      Linked store store' ∧ store'.incidents = store.incidents := by
  induction links generalizing store with
  | nil =>
    cases h
    exact ⟨fun _ h => absurd h List.not_mem_nil, fun _ h => h, rfl⟩
  | cons link links ih =>
    rw [List.foldlM_cons] at h
    obtain ⟨mid, hmid, hrest⟩ := bind_eq_ok.mp h
    obtain ⟨hfresh, hlinked, hmore, hsame⟩ := writeLink_ok hmid
    obtain ⟨hall, hmore', hsame'⟩ := ih hrest
    refine ⟨?_, fun key hkey => hmore' key (hmore key hkey), hsame'.trans hsame⟩
    intro other hother
    rcases List.mem_cons.mp hother with rfl | hother
    · exact ⟨hfresh, hmore' _ hlinked⟩
    · obtain ⟨hnone, hsome⟩ := hall other hother
      refine ⟨?_, hsome⟩
      -- what is free after a link was written was free before it
      by_contra hheld
      have := hmore other.1 (Option.isSome_iff_ne_none.mpr hheld)
      rw [hnone] at this
      cases this

theorem flush_ok {changes : ChangeSet} (h : flush changes store = .ok store') :
    (∀ link ∈ changes.dedupRecords, store.dedupSeen[link.1]? = none ∧
      store'.dedupSeen[link.1]?.isSome = true) ∧
      Linked store store' ∧ (changes.incidents = [] → store'.incidents = store.incidents) := by
  simp only [flush, bind_eq_ok, pure_eq_ok] at h
  obtain ⟨mid, hincidents, last, hlinks, rfl⟩ := h
  have hsame := writeIncidents_links hincidents
  obtain ⟨hall, hmore, hkept⟩ := writeLinks_ok hlinks
  refine ⟨fun link hlink => ?_, fun key hkey => ?_, fun hnone => ?_⟩
  · obtain ⟨hfresh, hlinked⟩ := hall link hlink
    exact ⟨by rw [← hsame]; exact hfresh, hlinked⟩
  · exact hmore key (by rw [hsame]; exact hkey)
  · rw [hnone] at hincidents
    cases hincidents
    exact hkept

end Flush

theorem ingestAttempt_ok (h : ingestAttempt env tenant event loaded current = .ok (o, after)) :
    Linked current.store after.store ∧
      (after.store.incidents ≠ current.store.incidents →
        current.store.dedupSeen[linkKey event]? = none ∧
          after.store.dedupSeen[linkKey event]?.isSome = true) := by
  have hends : Ingested env (correlator tenant) event loaded 0
      (ingestDetectionEvent (correlator tenant) event env ⟨loaded, 0⟩).1
      (ingestDetectionEvent (correlator tenant) event env ⟨loaded, 0⟩).2 :=
    ingestDetectionEvent_ends
  unfold ingestAttempt at h
  dsimp only at h
  generalize ingestDetectionEvent (correlator tenant) event env ⟨loaded, 0⟩ = called at h hends
  obtain ⟨outcome, t⟩ := called
  have hflushed : ∃ store, flush (intoChanges loaded.store t.uow.store) current.store = .ok store ∧
      after = { current with store } := by
    split at h
    · cases h
    · split at h
      · cases h
      · rename_i store hflush
        cases h
        exact ⟨store, hflush, rfl⟩
  obtain ⟨store, hflush, rfl⟩ := hflushed
  obtain ⟨hall, hmore, hkept⟩ := flush_ok hflush
  refine ⟨hmore, fun hchanged => ?_⟩
  have hincidents : t.uow.store.incidents ≠ loaded.store.incidents := by
    intro hsame
    refine hchanged (hkept ?_)
    simp only [intoChanges, hsame, List.map_eq_nil_iff, List.filter_eq_nil_iff]
    rintro ⟨id, i⟩ hmem
    simp [(mem_toList _ _ _).mp hmem]
  obtain ⟨hfresh, id, hid⟩ := ingest_links hends hincidents
  refine hall (linkKey event, id) (List.mem_filter.mpr ⟨(mem_toList _ _ _).mpr hid, ?_⟩)
  rw [hfresh]
  simp

section Steps

variable {inbox : Table InboxId InboxRow} {dead : List DeadLetter} {nextId id : InboxId} {t : State}
variable {after : Table InboxId InboxRow} {tables : InboxId × Table InboxId InboxRow}
variable {row' : InboxRow} {w : WorkerId}

/-- What a step does to the inbox and the dead letters. -/
inductive Settles (setting : Setting) (s : State) (i : Input) : State → Prop
  | aside (t : State) (inbox : t.inbox = s.inbox) (nextId : t.nextId = s.nextId)
      (dead : t.deadLetters = s.deadLetters) : Settles setting s i t
  | enqueued (t : State) (tenant : TenantId) (events : List DetectionEvent) (now : Int)
      (producer : i.worker = none) (tables : (t.nextId, t.inbox) = events.foldl (insertNew tenant now setting)
        (s.nextId, s.inbox)) (dead : t.deadLetters = s.deadLetters) : Settles setting s i t
  | locked (t : State) (w : InboxWorker) (now : Int) (skipped : InboxId → Bool)
      (input : i = .claim w now skipped) (idle : s.workers w.workerId = .batch [])
      (inbox : t.inbox = lock w now ((claimed w now skipped s.inbox).map Prod.fst) s.inbox)
      (nextId : t.nextId = s.nextId) (dead : t.deadLetters = s.deadLetters) : Settles setting s i t
  | processed (t : State) (w : WorkerId) (event : ClaimedEvent) (outcome : IngestOutcomeKind)
      (queue : List ClaimedEvent) (row : InboxRow) (worker : i.worker = some w)
      (phase : s.workers w = .ingested event outcome queue)
      (found : s.inbox[event.inboxId]? = some row) (held : row.heldBy w = true)
      (inbox : t.inbox = s.inbox.insert event.inboxId (row.processed outcome))
      (nextId : t.nextId = s.nextId) (dead : t.deadLetters = s.deadLetters) : Settles setting s i t
  | retried (t : State) (w : WorkerId) (id : InboxId) (row : InboxRow) (attempts : Nat)
      (error : String) (availableAt : Int) (worker : i.worker = some w)
      (found : s.inbox[id]? = some row) (held : row.heldBy w = true)
      (inbox : t.inbox = s.inbox.insert id (row.retried attempts error availableAt))
      (nextId : t.nextId = s.nextId) (dead : t.deadLetters = s.deadLetters) : Settles setting s i t
  | deadLettered (t : State) (w : WorkerId) (id : InboxId) (row : InboxRow) (attempts : Nat)
      (error : String) (worker : i.worker = some w) (found : s.inbox[id]? = some row)
      (held : row.heldBy w = true)
      (inbox : t.inbox = s.inbox.insert id (row.deadLettered attempts error))
      (nextId : t.nextId = s.nextId)
      (dead : t.deadLetters = s.deadLetters ++ [deadLetterOf row error attempts]) :
      Settles setting s i t

theorem commitIngest_aside :
    Settles setting s i (commitIngest setting s worker env fate event detection loaded attempt
      queue) := by
  unfold commitIngest
  dsimp only
  split <;> exact .aside _ rfl rfl rfl

theorem next_settles (setting : Setting) (s : State) (i : Input) :
    Settles setting s i (next setting s i) := by
  cases i with (unfold next; dsimp only)
  | enqueue tenant events now =>
    split
    · exact .aside _ rfl rfl rfl
    · rename_i nextId inbox h
      refine .enqueued _ tenant events now rfl ?_ rfl
      unfold enqueue at h
      split at h
      · cases h
      split at h
      · cases h
      · exact (Except.ok.inj h).symm
  | claim w now skipped =>
    split
    · rename_i hidle
      exact .locked _ w now skipped rfl hidle rfl rfl rfl
    · exact .aside _ rfl rfl rfl
  | startIngest =>
    split
    · split <;> exact .aside _ rfl rfl rfl
    · exact .aside _ rfl rfl rfl
  | commitIngest =>
    split
    · exact commitIngest_aside
    · exact .aside _ rfl rfl rfl
  | markProcessed worker =>
    split
    · rename_i event outcome queue hphase
      unfold markProcessed
      split
      · exact .aside _ rfl rfl rfl
      · rename_i row hrow
        split
        · rename_i hheld
          exact .processed _ worker event outcome queue row rfl hphase hrow hheld rfl rfl rfl
        · exact .aside _ rfl rfl rfl
    · exact .aside _ rfl rfl rfl
  | fail w =>
    split
    · rename_i event error poison queue hphase
      split
      · exact .aside _ rfl rfl rfl
      · rename_i outcome inbox deadLetters hfail
        unfold fail at hfail
        split at hfail
        · cases hfail
          exact .aside _ rfl rfl rfl
        · rename_i row hrow
          split at hfail
          · cases hfail
            exact .aside _ rfl rfl rfl
          · rename_i hheld
            simp only [Bool.not_eq_true', Bool.not_eq_false] at hheld
            split at hfail
            · cases hfail
            · dsimp only at hfail
              split at hfail
              · cases hfail
                exact .deadLettered _ w.workerId event.inboxId row _ error rfl hrow hheld rfl rfl rfl
              · cases hfail
                exact .retried _ w.workerId event.inboxId row _ error _ rfl hrow hheld rfl rfl rfl
    · exact .aside _ rfl rfl rfl
  | crash => exact .aside _ rfl rfl rfl

/-- What a step does to one row. -/
inductive RowStep (s : State) (i : Input) (id : InboxId) : Option InboxRow → Option InboxRow → Prop
  | same (row : Option InboxRow) : RowStep s i id row row
  | new (row : InboxRow) (producer : i.worker = none) (pending : row.status = .pending)
      (unlocked : row.lockedBy = none) :
      RowStep s i id none (some row)
  | locked (row : InboxRow) (w : InboxWorker) (now : Int) (skipped : InboxId → Bool)
      (input : i = .claim w now skipped) (idle : s.workers w.workerId = .batch [])
      (taken : id ∈ (claimed w now skipped s.inbox).map Prod.fst) (isOpen : row.status.isOpen = true) :
      RowStep s i id (some row)
        (some { row with lockedAt := some now, lockedBy := some w.workerId })
  | processed (row : InboxRow) (w : WorkerId) (event : ClaimedEvent) (outcome : IngestOutcomeKind)
      (queue : List ClaimedEvent) (worker : i.worker = some w) (about : event.inboxId = id)
      (phase : s.workers w = .ingested event outcome queue) (held : row.heldBy w = true) :
      RowStep s i id (some row) (some (row.processed outcome))
  | retried (row : InboxRow) (w : WorkerId) (attempts : Nat) (error : String) (availableAt : Int)
      (worker : i.worker = some w) (held : row.heldBy w = true) :
      RowStep s i id (some row) (some (row.retried attempts error availableAt))
  | deadLettered (row : InboxRow) (w : WorkerId) (attempts : Nat) (error : String)
      (worker : i.worker = some w) (held : row.heldBy w = true) :
      RowStep s i id (some row) (some (row.deadLettered attempts error))

theorem mem_claimed {w : InboxWorker} {now : Int} {skipped : InboxId → Bool}
    {e : InboxId × InboxRow} (h : e ∈ claimed w now skipped inbox) :
    inbox[e.1]? = some e.2 ∧ e.2.status.isOpen = true := by
  obtain ⟨hmem, hclaim⟩ := List.mem_filter.mp (List.mem_of_mem_take h)
  simp only [claimable, Bool.and_eq_true] at hclaim
  exact ⟨(mem_toList _ _ _).mp hmem, hclaim.1.1.1⟩

/-- The row a dead letter was copied from, as far as its columns tell. -/
def copyOf (row : InboxRow) (d : DeadLetter) : Bool :=
  decide (d.tenantId = row.tenantId ∧ d.dedupKey = row.dedupKey)

/-- Ids are handed out in turn, a tenant's deduplication key has one row, and a row was copied to
the dead letters once if it is dead-lettered and never otherwise. -/
structure Sound (nextId : InboxId) (inbox : Table InboxId InboxRow)
    (deadLetters : List DeadLetter) : Prop where
  fresh : ∀ (id : InboxId) row, inbox[id]? = some row → id < nextId
  distinct : ∀ (id id' : InboxId) row row', inbox[id]? = some row → inbox[id']? = some row' →
    row.tenantId = row'.tenantId → row.dedupKey = row'.dedupKey → id = id'
  stored : ∀ d ∈ deadLetters, ∃ (id : InboxId) (row : InboxRow), inbox[id]? = some row ∧
    copyOf row d = true
  copies : ∀ (id : InboxId) row, inbox[id]? = some row →
    deadLetters.countP (copyOf row) = if row.status = .deadLetter then 1 else 0

/-- Rows are kept as they are, and new ones are pending. -/
structure Extends (before after : Table InboxId InboxRow) : Prop where
  kept : ∀ (id : InboxId) row, before[id]? = some row → after[id]? = some row
  added : ∀ (id : InboxId) row, before[id]? = none → after[id]? = some row →
    row.status = .pending ∧ row.lockedBy = none

theorem Extends.refl (a : Table InboxId InboxRow) : Extends a a where
  kept _ _ h := h
  added id row hnone hrow := by
    rw [hnone] at hrow
    cases hrow

theorem Extends.trans (h : Extends a b) (h' : Extends b c) :
    Extends a c where
  kept id row hrow := h'.kept id row (h.kept id row hrow)
  added id row hnone hrow := by
    cases hmid : b[id]? with
    | none => exact h'.added id row hmid hrow
    | some mid =>
      obtain rfl : mid = row := Option.some.inj ((h'.kept id mid hmid).symm.trans hrow)
      exact h.added id mid hnone hmid

theorem Extends.row (h : Extends s.inbox after) (producer : i.worker = none) (id : InboxId) :
    RowStep s i id s.inbox[id]? after[id]? := by
  cases hbefore : s.inbox[id]? with
  | some row =>
    rw [h.kept id row hbefore]
    exact .same _
  | none =>
    cases hafter : after[id]? with
    | none => exact .same _
    | some row =>
      obtain ⟨hpending, hunlocked⟩ := h.added id row hbefore hafter
      exact .new row producer hpending hunlocked

theorem insertNew_sound (setting : Setting) (tenant : TenantId) (now : Int)
    (sound : Sound tables.1 tables.2 dead) (event : DetectionEvent) :
    Extends tables.2 (insertNew tenant now setting tables event).2 ∧
      Sound (insertNew tenant now setting tables event).1
        (insertNew tenant now setting tables event).2 dead := by
  unfold insertNew
  split
  · exact ⟨.refl _, sound⟩
  · rename_i hnew
    have hnone : tables.2[tables.1]? = none := by
      cases h : tables.2[tables.1]? with
      | none => rfl
      | some row => exact absurd (sound.fresh _ _ h) (Nat.lt_irrefl _)
    -- no row has the tenant and the key yet
    have hvacant (id : InboxId) (row : InboxRow) (hrow : tables.2[id]? = some row)
        (htenant : row.tenantId = tenant) (hkey : row.dedupKey = event.dedupKey) : False := by
      refine hnew (List.any_eq_true.mpr ⟨(id, row), (mem_toList _ _ _).mpr hrow, ?_⟩)
      simp [htenant, hkey]
    dsimp only
    have htenant : (newRow setting tenant now event).tenantId = tenant := rfl
    have hkey : (newRow setting tenant now event).dedupKey = event.dedupKey := rfl
    have hpending : (newRow setting tenant now event).status = .pending := rfl
    have hunlocked : (newRow setting tenant now event).lockedBy = none := rfl
    generalize newRow setting tenant now event = inserted at htenant hkey hpending hunlocked ⊢
    have hcases (id : InboxId) (row : InboxRow)
        (hrow : (tables.2.insert tables.1 inserted)[id]? = some row) :
        (id = tables.1 ∧ row = inserted) ∨ tables.2[id]? = some row :=
      forall_insert (P := fun id row => (id = tables.1 ∧ row = inserted) ∨ _)
        (fun _ _ => Or.inr) (Or.inl ⟨rfl, rfl⟩) hrow
    have hkept (id : InboxId) (row : InboxRow) (hrow : tables.2[id]? = some row) :
        (tables.2.insert tables.1 inserted)[id]? = some row := by
      rw [get_insert_ne]
      · exact hrow
      · intro hid
        rw [← hid, hnone] at hrow
        cases hrow
    refine ⟨⟨hkept, fun id row hnone' hrow => ?_⟩, ⟨fun id row hrow => ?_, ?_, fun d hd => ?_, ?_⟩⟩
    · rcases hcases id row hrow with ⟨-, rfl⟩ | hrow
      · exact ⟨hpending, hunlocked⟩
      · rw [hnone'] at hrow
        cases hrow
    · rcases hcases id row hrow with ⟨rfl, -⟩ | hrow
      · exact Nat.lt_succ_self _
      · exact Nat.lt_succ_of_lt (sound.fresh id row hrow)
    · intro id id' row row' hrow hrow' hsame hsame'
      rcases hcases id row hrow with ⟨hid, hnew⟩ | hold <;>
        rcases hcases id' row' hrow' with ⟨hid', hnew'⟩ | hold'
      · exact hid.trans hid'.symm
      · rw [hnew] at hsame hsame'
        exact (hvacant id' row' hold' (hsame.symm.trans htenant) (hsame'.symm.trans hkey)).elim
      · rw [hnew'] at hsame hsame'
        exact (hvacant id row hold (hsame.trans htenant) (hsame'.trans hkey)).elim
      · exact sound.distinct id id' row row' hold hold' hsame hsame'
    · obtain ⟨id, row, hrow, hcopy⟩ := sound.stored d hd
      exact ⟨id, row, hkept id row hrow, hcopy⟩
    · intro id row hrow
      rcases hcases id row hrow with ⟨-, rfl⟩ | hrow
      · rw [if_neg (by rw [hpending]; exact fun h => nomatch h), List.countP_eq_zero]
        intro d hd hcopy
        obtain ⟨id', row', hrow', hcopy'⟩ := sound.stored d hd
        simp only [copyOf, decide_eq_true_eq] at hcopy hcopy'
        exact hvacant id' row' hrow' (hcopy'.1.symm.trans (hcopy.1.trans htenant))
          (hcopy'.2.symm.trans (hcopy.2.trans hkey))
      · exact sound.copies id row hrow

theorem enqueued_sound (setting : Setting) (tenant : TenantId) (now : Int)
    (events : List DetectionEvent) (tables : InboxId × Table InboxId InboxRow)
    (sound : Sound tables.1 tables.2 dead) :
    Extends tables.2 (events.foldl (insertNew tenant now setting) tables).2 ∧
      Sound (events.foldl (insertNew tenant now setting) tables).1
        (events.foldl (insertNew tenant now setting) tables).2 dead := by
  induction events generalizing tables with
  | nil => exact ⟨.refl _, sound⟩
  | cons event events ih =>
    obtain ⟨hextends, hsound⟩ := insertNew_sound setting tenant now sound event
    obtain ⟨hextends', hsound'⟩ := ih _ hsound
    exact ⟨hextends.trans hextends', hsound'⟩

theorem Sound.distinct_of (sound : Sound nextId inbox dead)
    (before : ∀ (x : InboxId) (r : InboxRow), after[x]? = some r → ∃ r₀, inbox[x]? = some r₀ ∧
      r.tenantId = r₀.tenantId ∧ r.dedupKey = r₀.dedupKey) (id id' : InboxId) (row row' : InboxRow)
    (hrow : after[id]? = some row) (hrow' : after[id']? = some row')
    (tenant : row.tenantId = row'.tenantId) (key : row.dedupKey = row'.dedupKey) : id = id' := by
  obtain ⟨r₀, hr₀, ht₀, hk₀⟩ := before id row hrow
  obtain ⟨r₀', hr₀', ht₀', hk₀'⟩ := before id' row' hrow'
  exact sound.distinct id id' r₀ r₀' hr₀ hr₀' (ht₀.symm.trans (tenant.trans ht₀'))
    (hk₀.symm.trans (key.trans hk₀'))

theorem Sound.replace {row : InboxRow} (sound : Sound nextId inbox dead)
    (found : inbox[id]? = some row) (tenant : row'.tenantId = row.tenantId)
    (key : row'.dedupKey = row.dedupKey) (stored : ∀ d ∈ dead', d ∈ dead ∨ copyOf row d = true)
    (copies : dead'.countP (copyOf row) = if row'.status = .deadLetter then 1 else 0)
    (others : ∀ other, (∀ d, copyOf other d = true → copyOf row d = false) →
      dead'.countP (copyOf other) = dead.countP (copyOf other)) :
    Sound nextId (inbox.insert id row') dead' := by
  have hcopy (d : DeadLetter) : copyOf row' d = copyOf row d := by
    unfold copyOf
    rw [tenant, key]
  -- every row after it stands for one before it, of the same tenant and key
  have hbefore (x : InboxId) (r : InboxRow) (hr : (inbox.insert id row')[x]? = some r) :
      ∃ r₀, inbox[x]? = some r₀ ∧ r.tenantId = r₀.tenantId ∧ r.dedupKey = r₀.dedupKey := by
    rw [get_insert] at hr
    split at hr
    · rename_i hid
      cases hr
      exact ⟨row, hid ▸ found, tenant, key⟩
    · exact ⟨r, hr, rfl, rfl⟩
  have hafter (x : InboxId) (r : InboxRow) (hr : inbox[x]? = some r) :
      ∃ r₁, (inbox.insert id row')[x]? = some r₁ ∧ ∀ d, copyOf r₁ d = copyOf r d := by
    rw [get_insert]
    split
    · rename_i hid
      rw [← hid, found] at hr
      cases hr
      exact ⟨row', rfl, hcopy⟩
    · exact ⟨r, hr, fun _ => rfl⟩
  refine ⟨fun x r hr => ?_, sound.distinct_of hbefore, fun d hd => ?_, fun x r hr => ?_⟩
  · obtain ⟨r₀, hr₀, -⟩ := hbefore x r hr
    exact sound.fresh x r₀ hr₀
  · have hold : ∃ (x : InboxId) (r : InboxRow), inbox[x]? = some r ∧ copyOf r d = true := by
      rcases stored d hd with hd | hd
      · exact sound.stored d hd
      · exact ⟨id, row, found, hd⟩
    obtain ⟨x, r, hr, hd⟩ := hold
    obtain ⟨r₁, hr₁, hsame⟩ := hafter x r hr
    exact ⟨x, r₁, hr₁, (hsame d).trans hd⟩
  · rw [get_insert] at hr
    split at hr
    · cases hr
      rw [← copies]
      exact List.countP_congr fun d _ => by rw [hcopy]
    · rename_i hid
      rw [others r ?_]
      · exact sound.copies x r hr
      · intro d hd
        by_contra hboth
        simp only [Bool.not_eq_false] at hboth
        simp only [copyOf, decide_eq_true_eq] at hd hboth
        exact hid (sound.distinct id x row r found hr (hboth.1.symm.trans hd.1)
          (hboth.2.symm.trans hd.2))

theorem Sound.update {row : InboxRow} (sound : Sound nextId inbox dead)
    (found : inbox[id]? = some row) (tenant : row'.tenantId = row.tenantId)
    (key : row'.dedupKey = row.dedupKey)
    (same : row'.status = .deadLetter ↔ row.status = .deadLetter) :
    Sound nextId (inbox.insert id row') dead :=
  sound.replace found tenant key (fun _ h => Or.inl h)
    (by rw [sound.copies id row found]; simp only [same]) fun _ _ => rfl

theorem open_of_held {row : InboxRow} (h : row.heldBy w = true) :
    row.lockedBy = some w ∧ row.status.isOpen = true := by
  simp only [InboxRow.heldBy, Bool.and_eq_true, decide_eq_true_eq] at h
  exact h

theorem not_dead_of_open {row : InboxRow} (h : row.status.isOpen = true) :
    row.status ≠ .deadLetter := by
  intro hdead
  rw [hdead] at h
  cases h

theorem lock_row (w : InboxWorker) (now : Int) (ids : List InboxId)
    (inbox : Table InboxId InboxRow) (id : InboxId) :
    (lock w now ids inbox)[id]? = inbox[id]?.map fun row =>
      if id ∈ ids then { row with lockedAt := some now, lockedBy := some w.workerId } else row :=
  Std.ExtTreeMap.getElem?_map

theorem Sound.lock (sound : Sound nextId inbox dead) (w : InboxWorker) (now : Int)
    (ids : List InboxId) : Sound nextId (Inbox.lock w now ids inbox) dead := by
  have hbefore (x : InboxId) (r : InboxRow) (hr : (Inbox.lock w now ids inbox)[x]? = some r) :
      ∃ r₀, inbox[x]? = some r₀ ∧ r.tenantId = r₀.tenantId ∧ r.dedupKey = r₀.dedupKey ∧
        r.status = r₀.status := by
    rw [lock_row] at hr
    obtain ⟨r₀, hr₀, rfl⟩ := Option.map_eq_some_iff.mp hr
    refine ⟨r₀, hr₀, ?_⟩
    split <;> exact ⟨rfl, rfl, rfl⟩
  refine ⟨fun x r hr => ?_, sound.distinct_of fun x r hr => ?_, fun d hd => ?_, fun x r hr => ?_⟩
  · obtain ⟨r₀, hr₀, -⟩ := hbefore x r hr
    exact sound.fresh x r₀ hr₀
  · obtain ⟨r₀, hr₀, ht₀, hk₀, -⟩ := hbefore x r hr
    exact ⟨r₀, hr₀, ht₀, hk₀⟩
  · obtain ⟨x, r, hr, hcopy⟩ := sound.stored d hd
    refine ⟨x, _, by rw [lock_row, hr]; rfl, ?_⟩
    split <;> exact hcopy
  · obtain ⟨r₀, hr₀, ht, hk, hstatus⟩ := hbefore x r hr
    have hcopy : copyOf r = copyOf r₀ := by
      funext d
      unfold copyOf
      rw [ht, hk]
    rw [hcopy, hstatus]
    exact sound.copies x r₀ hr₀

theorem Settles.sound (h : Settles setting s i t) (sound : Sound s.nextId s.inbox s.deadLetters) :
    Sound t.nextId t.inbox t.deadLetters := by
  cases h with
  | aside inbox nextId dead =>
    rw [inbox, nextId, dead]
    exact sound
  | enqueued tenant events now producer tables dead =>
    have hsound := (enqueued_sound setting tenant now events (s.nextId, s.inbox) sound).2
    rw [← tables] at hsound
    rw [dead]
    exact hsound
  | locked w now skipped input idle inbox nextId dead =>
    rw [inbox, nextId, dead]
    exact sound.lock w now _
  | processed w event outcome queue row worker phase found held inbox nextId dead
  | retried w id row attempts error availableAt worker found held inbox nextId dead =>
    rw [inbox, nextId, dead]
    refine sound.update found rfl rfl ⟨(fun h => nomatch h), fun h => ?_⟩
    exact absurd h (not_dead_of_open (open_of_held held).2)
  | deadLettered w id row attempts error worker found held inbox nextId dead =>
    rw [inbox, nextId, dead]
    have hself : copyOf row (deadLetterOf row error attempts) = true := by
      simp [copyOf, deadLetterOf]
    refine sound.replace found rfl rfl (fun d hd => ?_) ?_ fun other hother => ?_
    · rcases List.mem_append.mp hd with hd | hd
      · exact Or.inl hd
      · rw [List.mem_singleton.mp hd]
        exact Or.inr hself
    · rw [List.countP_append, sound.copies id row found,
        if_neg (not_dead_of_open (open_of_held held).2), List.countP_singleton, hself]
      rfl
    · have hnot : ¬copyOf other (deadLetterOf row error attempts) = true := by
        intro h
        have hfalse := hother _ h
        rw [hself] at hfalse
        cases hfalse
      rw [List.countP_append, List.countP_singleton, if_neg hnot, Nat.add_zero]

theorem Settles.row (h : Settles setting s i t) (sound : Sound s.nextId s.inbox s.deadLetters)
    (id : InboxId) : RowStep s i id s.inbox[id]? t.inbox[id]? := by
  -- a statement on one row leaves the others
  have hone (x : InboxId) (row row' : InboxRow) (found : s.inbox[x]? = some row)
      (inbox : t.inbox = s.inbox.insert x row')
      (hrow : x = id → RowStep s i id (some row) (some row')) :
      RowStep s i id s.inbox[id]? t.inbox[id]? := by
    rw [inbox, get_insert]
    split
    · rename_i hid
      rw [← hid, found, hid]
      exact hrow hid
    · exact .same _
  cases h with
  | aside inbox =>
    rw [inbox]
    exact .same _
  | enqueued tenant events now producer tables dead =>
    have hextends := (enqueued_sound setting tenant now events (s.nextId, s.inbox) sound).1
    rw [← tables] at hextends
    exact hextends.row producer id
  | locked w now skipped input idle inbox =>
    rw [inbox, lock_row]
    cases hrow : s.inbox[id]? with
    | none => exact .same _
    | some row =>
      rw [Option.map_some]
      split
      · rename_i htaken
        obtain ⟨e, he, hid⟩ := List.mem_map.mp htaken
        obtain ⟨hfound, hopen⟩ := mem_claimed he
        rw [hid, hrow] at hfound
        cases hfound
        exact .locked e.2 w now skipped input idle htaken hopen
      · exact .same _
  | processed w event outcome queue row worker phase found held inbox =>
    exact hone _ row _ found inbox fun hid => .processed row w event outcome queue worker hid phase held
  | retried w x row attempts error availableAt worker found held inbox =>
    exact hone _ row _ found inbox fun _ => .retried row w attempts error availableAt worker held
  | deadLettered w x row attempts error worker found held inbox =>
    exact hone _ row _ found inbox fun _ => .deadLettered row w attempts error worker held

theorem RowStep.kept {row : InboxRow} {after : Option InboxRow}
    (h : RowStep s i id (some row) after) : ∃ row', after = some row' ∧
      row'.tenantId = row.tenantId ∧ row'.payload = row.payload := by
  cases h <;> exact ⟨_, rfl, rfl, rfl⟩

theorem RowStep.settled {row : InboxRow} {after : Option InboxRow}
    (h : RowStep s i id (some row) after) (closed : row.status.isOpen = false) :
    after = some row := by
  have hheld {w : WorkerId} (held : row.heldBy w = true) : False := by
    rw [(open_of_held held).2] at closed
    cases closed
  cases h with
  | same => rfl
  | locked _ w now skipped input idle taken isOpen =>
    rw [isOpen] at closed
    cases closed
  | processed _ w event outcome queue worker about phase held
  | retried _ w attempts error availableAt worker held
  | deadLettered _ w attempts error worker held => exact (hheld held).elim

/-- What a step leaves a worker at. -/
inductive PhaseStep (setting : Setting) (s : State) (i : Input) (t : State) (w : WorkerId) :
    Phase → Prop
  | kept : PhaseStep setting s i t w (s.workers w)
  | emptied : PhaseStep setting s i t w (.batch [])
  | claimed (worker : InboxWorker) (now : Int) (skipped : InboxId → Bool)
      (inbox : t.inbox = lock worker now ((Inbox.claimed worker now skipped s.inbox).map Prod.fst)
        s.inbox) :
      PhaseStep setting s i t w (.batch ((Inbox.claimed worker now skipped s.inbox).map claimedEvent))
  | poisoned (event : ClaimedEvent) (queue : List ClaimedEvent) (error : String)
      (phase : s.workers w = .batch (event :: queue)) :
      PhaseStep setting s i t w (.failing event error true queue)
  | started (event : ClaimedEvent) (queue : List ClaimedEvent) (detection : DetectionEvent)
      (phase : s.workers w = .batch (event :: queue))
      (decoded : setting.decode event.payload = .ok detection) :
      PhaseStep setting s i t w (.ingesting event detection s.incidents 1 queue)
  | reran (event : ClaimedEvent) (detection : DetectionEvent) (loaded : IncidentUnitOfWork)
      (attempt : Nat) (queue : List ClaimedEvent)
      (phase : s.workers w = .ingesting event detection loaded attempt queue) :
      PhaseStep setting s i t w (.ingesting event detection s.incidents (attempt + 1) queue)
  | failed (event : ClaimedEvent) (detection : DetectionEvent) (loaded : IncidentUnitOfWork)
      (attempt : Nat) (queue : List ClaimedEvent) (error : String)
      (phase : s.workers w = .ingesting event detection loaded attempt queue) :
      PhaseStep setting s i t w (.failing event error false queue)
  | ingested (event : ClaimedEvent) (detection : DetectionEvent) (loaded : IncidentUnitOfWork)
      (attempt : Nat) (queue : List ClaimedEvent) (env : Env) (result : IngestResult)
      (phase : s.workers w = .ingesting event detection loaded attempt queue)
      (input : i = .commitIngest w env .committed)
      (committed : ingestAttempt env event.tenantId detection loaded s.incidents =
        .ok (.ok result, t.incidents)) :
      PhaseStep setting s i t w (.ingested event result.outcomeKind queue)
  | processed (event : ClaimedEvent) (outcome : IngestOutcomeKind) (queue : List ClaimedEvent)
      (phase : s.workers w = .ingested event outcome queue) :
      PhaseStep setting s i t w (.batch queue)
  | counted (event : ClaimedEvent) (error : String) (poison : Bool) (queue : List ClaimedEvent)
      (phase : s.workers w = .failing event error poison queue) :
      PhaseStep setting s i t w (.batch queue)

theorem PhaseStep.set {s' : State} (same : s'.workers = s.workers)
    (h : worker = w → PhaseStep setting s i t w phase) :
    PhaseStep setting s i t w ((s'.setPhase worker phase).workers w) := by
  unfold State.setPhase
  dsimp only
  by_cases hw : w = worker
  · rw [hw, Function.update_self, ← hw]
    exact h hw.symm
  · rw [Function.update_of_ne hw, same]
    exact .kept

theorem commitIngest_phase
    (phase : s.workers worker = .ingesting event detection loaded attempt queue) :
    PhaseStep setting s (.commitIngest worker env fate)
      (commitIngest setting s worker env fate event detection loaded attempt queue) w
      ((commitIngest setting s worker env fate event detection loaded attempt queue).workers w) := by
  unfold commitIngest
  dsimp only
  split
  · exact .set rfl fun hw => .failed event detection loaded attempt queue _ (hw ▸ phase)
  · refine .set rfl fun hw => ?_
    unfold rerun
    split
    · exact .reran event detection loaded attempt queue (hw ▸ phase)
    · exact .failed event detection loaded attempt queue _ (hw ▸ phase)
  · exact .set rfl fun hw => .failed event detection loaded attempt queue _ (hw ▸ phase)
  · rename_i result incidents hcommitted
    refine .set rfl fun hw => ?_
    subst hw
    exact .ingested event detection loaded attempt queue env result phase rfl hcommitted
  · exact .set rfl fun hw => .failed event detection loaded attempt queue _ (hw ▸ phase)

theorem next_phase (setting : Setting) (s : State) (i : Input) (w : WorkerId) :
    PhaseStep setting s i (next setting s i) w ((next setting s i).workers w) := by
  cases i with (unfold next; dsimp only)
  | enqueue =>
    split <;> exact .kept
  | claim worker now skipped =>
    split
    · exact .set rfl fun _ => .claimed worker now skipped rfl
    · exact .kept
  | startIngest =>
    split
    · rename_i event queue hphase
      split
      · exact .set rfl fun hw => .poisoned event queue _ (hw ▸ hphase)
      · rename_i detection hdecoded
        exact .set rfl fun hw => .started event queue detection (hw ▸ hphase) hdecoded
    · exact .kept
  | commitIngest worker env fate =>
    split
    · rename_i hphase
      exact commitIngest_phase hphase
    · exact .kept
  | markProcessed =>
    split
    · rename_i event outcome queue hphase
      exact .set rfl fun hw => .processed event outcome queue (hw ▸ hphase)
    · exact .kept
  | fail =>
    split
    · rename_i event error poison queue hphase
      split
      · exact .set rfl fun _ => .emptied
      · exact .set rfl fun hw => .counted event error poison queue (hw ▸ hphase)
    · exact .kept
  | crash => exact .set rfl fun _ => .emptied

theorem next_incidents (setting : Setting) (s : State) (i : Input) :
    (next setting s i).incidents = s.incidents ∨
      ∃ w env fate event detection loaded attempt queue o, i = .commitIngest w env fate ∧
        s.workers w = .ingesting event detection loaded attempt queue ∧
        ingestAttempt env event.tenantId detection loaded s.incidents =
          .ok (o, (next setting s i).incidents) := by
  cases i with (unfold next; dsimp only)
  | commitIngest worker env fate =>
    split
    · rename_i event detection loaded attempt queue hphase
      unfold commitIngest
      dsimp only
      split
      · exact Or.inl rfl
      · exact Or.inl rfl
      -- whatever becomes of the commit's answer, the incidents are those of the attempt
      all_goals
        rename_i hcommitted
        exact Or.inr ⟨worker, env, _, event, detection, loaded, attempt, queue, _, rfl, hphase,
          hcommitted⟩
    · exact Or.inl rfl
  | enqueue | claim | markProcessed =>
    split <;> exact Or.inl rfl
  | startIngest | fail =>
    split
    · split <;> exact Or.inl rfl
    · exact Or.inl rfl
  | crash => exact Or.inl rfl

end Steps

abbrev InboxStep := Step State Input Unit

/-- The worker's transaction on the row's event, as far as the step is an attempt to commit it. -/
structure Ingests (setting : Setting) (id : InboxId) (st : InboxStep) (w : WorkerId) (env : Env)
    (fate : Fate) (tenant : TenantId) (detection : DetectionEvent) (loaded : IncidentUnitOfWork) :
    Prop where
  input : st.input = .commitIngest w env fate
  phase : ∃ event attempt queue,
    st.before.workers w = .ingesting event detection loaded attempt queue ∧ event.inboxId = id
  row : ∃ row, st.before.inbox[id]? = some row ∧ row.tenantId = tenant ∧
    setting.decode row.payload = .ok detection

/-- The step changes incidents for the row's event. -/
def Changes (setting : Setting) (id : InboxId) (st : InboxStep) : Prop :=
  st.after.incidents.store.incidents ≠ st.before.incidents.store.incidents ∧
    ∃ w env fate tenant detection loaded o,
      Ingests setting id st w env fate tenant detection loaded ∧
        ingestAttempt env tenant detection loaded st.before.incidents =
          .ok (o, st.after.incidents)

/-- The step commits an ingest of the row's event, and the worker is told so. -/
def Commits (setting : Setting) (id : InboxId) (st : InboxStep) : Prop :=
  ∃ w env tenant detection loaded result,
    Ingests setting id st w env .committed tenant detection loaded ∧
      ingestAttempt env tenant detection loaded st.before.incidents =
        .ok (.ok result, st.after.incidents)

/-- The step claims the row for the worker. -/
def Takes (w : WorkerId) (id : InboxId) (st : InboxStep) : Prop :=
  ∃ worker now skipped, st.input = .claim worker now skipped ∧ worker.workerId = w ∧
    st.before.workers w = .batch [] ∧
      id ∈ (claimed worker now skipped st.before.inbox).map Prod.fst

def Phase.events : Phase → List ClaimedEvent
  | .batch queue => queue
  | .ingesting event _ _ _ queue => event :: queue
  | .ingested event _ queue => event :: queue
  | .failing event _ _ queue => event :: queue

/-- What a worker holds of an event is what the row says. -/
def Copied (inbox : Table InboxId InboxRow) (event : ClaimedEvent) : Prop :=
  ∃ row, inbox[event.inboxId]? = some row ∧ row.tenantId = event.tenantId ∧
    row.payload = event.payload

/-- What holds of a state and of the steps that led to it. -/
structure Told (setting : Setting) (past : List InboxStep) (s : State) : Prop where
  sound : Sound s.nextId s.inbox s.deadLetters
  copied : ∀ w, ∀ event ∈ Phase.events (s.workers w), Copied s.inbox event
  decoded : ∀ w event detection loaded attempt queue,
    s.workers w = .ingesting event detection loaded attempt queue →
      setting.decode event.payload = .ok detection
  linked : ∀ id, (∃ st ∈ past, Changes setting id st) → ∃ row detection,
    s.inbox[id]? = some row ∧ setting.decode row.payload = .ok detection ∧
      s.incidents.store.dedupSeen[linkKey detection]?.isSome = true
  once : past.Pairwise fun a b => ∀ id, Changes setting id a → ¬Changes setting id b
  ingested : ∀ w event outcome queue, s.workers w = .ingested event outcome queue →
    ∃ st ∈ past, Commits setting event.inboxId st
  processed : ∀ (id : InboxId) row, s.inbox[id]? = some row → row.status = .processed →
    ∃ st ∈ past, Commits setting id st

section Runs

variable {w : WorkerId} {id : InboxId}
variable {event : ClaimedEvent}

section

variable (h : Told setting past s)

include h

theorem Told.row (i : Input) (id : InboxId) :
    RowStep s i id s.inbox[id]? (next setting s i).inbox[id]? :=
  (next_settles setting s i).row h.sound id

theorem Told.copied_next (i : Input) (hevent : Copied s.inbox event) :
    Copied (next setting s i).inbox event := by
  obtain ⟨row, hrow, htenant, hpayload⟩ := hevent
  have hstep := h.row i event.inboxId
  rw [hrow] at hstep
  obtain ⟨row', hrow', htenant', hpayload'⟩ := hstep.kept
  exact ⟨row', hrow', htenant'.trans htenant, hpayload'.trans hpayload⟩

theorem Told.ingests
    (phase : s.workers w = .ingesting event detection loaded attempt queue)
    (input : i = .commitIngest w env fate) :
    Ingests setting event.inboxId ((machine setting).stepAt s i) w env fate event.tenantId
      detection loaded := by
  refine ⟨input, ⟨event, attempt, queue, phase, rfl⟩, ?_⟩
  obtain ⟨row, hrow, htenant, hpayload⟩ := h.copied w event (by
    rw [phase]
    exact List.mem_cons_self)
  exact ⟨row, hrow, htenant, hpayload ▸ h.decoded w event detection loaded attempt queue phase⟩

theorem Told.copied_phase (i : Input) (w : WorkerId) :
    ∀ event ∈ Phase.events ((next setting s i).workers w),
      Copied (next setting s i).inbox event := by
  intro event hevent
  have hold (hmem : event ∈ Phase.events (s.workers w)) : Copied (next setting s i).inbox event :=
    h.copied_next i (h.copied w event hmem)
  generalize hphase : (next setting s i).workers w = phase at hevent
  have hstep := next_phase setting s i w
  rw [hphase] at hstep
  cases hstep with
  | kept => exact hold hevent
  | emptied => cases hevent
  | claimed =>
    obtain ⟨e, he, rfl⟩ := List.mem_map.mp hevent
    obtain ⟨hrow, -⟩ := mem_claimed he
    exact h.copied_next i ⟨e.2, hrow, rfl, rfl⟩
  | poisoned event' queue error hbefore | started event' queue detection hbefore decoded
  | reran event' detection loaded attempt queue hbefore
  | failed event' detection loaded attempt queue error hbefore
  | ingested event' detection loaded attempt queue env result hbefore =>
    rw [hbefore] at hold
    exact hold hevent
  | processed event' outcome queue hbefore | counted event' error poison queue hbefore =>
    rw [hbefore] at hold
    exact hold (List.mem_cons_of_mem _ hevent)

theorem Told.decoded_phase (i : Input)
    (hphase : (next setting s i).workers w = .ingesting event detection loaded attempt queue) :
    setting.decode event.payload = .ok detection := by
  have hstep := next_phase setting s i w
  rw [hphase] at hstep
  generalize hnew : Phase.ingesting event detection loaded attempt queue = phase at hstep
  cases hstep with
  | kept => exact h.decoded w event detection loaded attempt queue hnew.symm
  | started event' queue' detection' hbefore decoded =>
    cases hnew
    exact decoded
  | reran event' detection' loaded' attempt' queue' hbefore =>
    cases hnew
    exact h.decoded w _ _ _ _ _ hbefore
  | _ => cases hnew

end

theorem next_linked (setting : Setting) (s : State) (i : Input) :
    Linked s.incidents.store (next setting s i).incidents.store := by
  rcases next_incidents setting s i with hsame | ⟨w, env, fate, event, detection, loaded, attempt,
    queue, o, -, -, hcommitted⟩
  · rw [hsame]
    exact fun _ h => h
  · exact (ingestAttempt_ok hcommitted).1

theorem Changes.links (h : Changes setting id st) :
    ∃ row detection, st.before.inbox[id]? = some row ∧
      setting.decode row.payload = .ok detection ∧
      st.before.incidents.store.dedupSeen[linkKey detection]? = none ∧
      st.after.incidents.store.dedupSeen[linkKey detection]?.isSome = true := by
  obtain ⟨hchanged, w, env, fate, tenant, detection, loaded, o, hingests, hcommitted⟩ := h
  obtain ⟨row, hrow, -, hdecoded⟩ := hingests.row
  obtain ⟨hnone, hsome⟩ := (ingestAttempt_ok hcommitted).2 hchanged
  exact ⟨row, detection, hrow, hdecoded, hnone, hsome⟩

section

variable (h : Told setting past s)

include h

theorem Told.once_next (earlier : ∃ st ∈ past, Changes setting id st) :
    ¬Changes setting id ((machine setting).stepAt s i) := by
  intro hchanges
  obtain ⟨row, detection, hrow, hdecoded, hlinked⟩ := h.linked id earlier
  obtain ⟨row', detection', hrow', hdecoded', hnone, -⟩ := hchanges.links
  obtain rfl : row = row' := Option.some.inj (hrow.symm.trans hrow')
  obtain rfl : detection = detection' := Except.ok.inj (hdecoded.symm.trans hdecoded')
  rw [(machine setting).stepAt_before] at hnone
  rw [hnone] at hlinked
  cases hlinked

theorem Told.linked_next (i : Input) (id : InboxId)
    (hchanged : ∃ st ∈ past ++ [(machine setting).stepAt s i], Changes setting id st) :
    ∃ row detection, (next setting s i).inbox[id]? = some row ∧
      setting.decode row.payload = .ok detection ∧
      (next setting s i).incidents.store.dedupSeen[linkKey detection]?.isSome = true := by
  have hfound : ∃ row detection, s.inbox[id]? = some row ∧
      setting.decode row.payload = .ok detection ∧
      (next setting s i).incidents.store.dedupSeen[linkKey detection]?.isSome = true := by
    obtain ⟨st, hst, hchanges⟩ := hchanged
    rcases List.mem_append.mp hst with hst | hst
    · obtain ⟨row, detection, hrow, hdecoded, hlinked⟩ := h.linked id ⟨st, hst, hchanges⟩
      exact ⟨row, detection, hrow, hdecoded, next_linked setting s i _ hlinked⟩
    · rw [List.mem_singleton.mp hst] at hchanges
      obtain ⟨row, detection, hrow, hdecoded, -, hsome⟩ := hchanges.links
      exact ⟨row, detection, hrow, hdecoded, hsome⟩
  obtain ⟨row, detection, hrow, hdecoded, hlinked⟩ := hfound
  have hstep := h.row i id
  rw [hrow] at hstep
  obtain ⟨row', hrow', -, hpayload⟩ := hstep.kept
  exact ⟨row', detection, hrow', hpayload ▸ hdecoded, hlinked⟩

theorem Told.ingested_next (i : Input)
    (hphase : (next setting s i).workers w = .ingested event outcome queue) :
    ∃ st ∈ past ++ [(machine setting).stepAt s i], Commits setting event.inboxId st := by
  have hstep := next_phase setting s i w
  rw [hphase] at hstep
  generalize hnew : Phase.ingested event outcome queue = phase at hstep
  cases hstep with
  | kept =>
    obtain ⟨st, hst, hcommits⟩ := h.ingested w event outcome queue hnew.symm
    exact ⟨st, List.mem_append_left _ hst, hcommits⟩
  | ingested event' detection loaded attempt queue' env result hbefore input committed =>
    cases hnew
    exact ⟨_, List.mem_append_right _ List.mem_cons_self, w, env, event.tenantId, detection, loaded,
      result, h.ingests hbefore input, committed⟩
  | _ => cases hnew

theorem Told.processed_next (i : Input) (id : InboxId) (row : InboxRow)
    (hrow : (next setting s i).inbox[id]? = some row) (hprocessed : row.status = .processed) :
    ∃ st ∈ past ++ [(machine setting).stepAt s i], Commits setting id st := by
  have hstep := h.row i id
  rw [hrow] at hstep
  have hearlier : ∃ st ∈ past, Commits setting id st := by
    generalize hbefore : s.inbox[id]? = before at hstep
    cases hstep with
    | same => exact h.processed id row hbefore hprocessed
    | new _ producer pending unlocked =>
      rw [pending] at hprocessed
      cases hprocessed
    | locked row' w now skipped input idle taken isOpen =>
      have hopen : row'.status = .processed := hprocessed
      rw [hopen] at isOpen
      cases isOpen
    | processed row' w event outcome queue worker about phase held =>
      obtain ⟨st, hst, hcommits⟩ := h.ingested w event outcome queue phase
      exact ⟨st, hst, about ▸ hcommits⟩
    | retried | deadLettered => cases hprocessed
  obtain ⟨st, hst, hcommits⟩ := hearlier
  exact ⟨st, List.mem_append_left _ hst, hcommits⟩

end

theorem told_start (setting : Setting) (incidents : IncidentUnitOfWork) :
    Told setting [] { incidents } where
  sound := {
    fresh := fun id row h => by simp at h
    distinct := fun id id' row row' h => by simp at h
    stored := fun d h => absurd h List.not_mem_nil
    copies := fun id row h => by simp at h }
  copied _ event h := absurd h List.not_mem_nil
  decoded _ _ _ _ _ _ h := nomatch h
  linked _ h := by
    obtain ⟨st, hst, -⟩ := h
    cases hst
  once := .nil
  ingested _ _ _ _ h := nomatch h
  processed id row h := by simp at h

theorem Told.next (h : Told setting past s) (i : Input) :
    Told setting (past ++ [(machine setting).stepAt s i]) (Inbox.next setting s i) where
  sound := (next_settles setting s i).sound h.sound
  copied := h.copied_phase i
  decoded _ _ _ _ _ _ := h.decoded_phase i
  linked := h.linked_next i
  once := by
    refine List.pairwise_append.mpr ⟨h.once, List.pairwise_singleton _ _, ?_⟩
    intro a ha b hb id hchanges
    rw [List.mem_singleton.mp hb]
    exact h.once_next ⟨a, ha, hchanges⟩
  ingested _ _ _ _ := h.ingested_next i
  processed := h.processed_next i

theorem run_told (setting : Setting) (incidents : IncidentUnitOfWork) (inputs : List Input) :
    Told setting ((machine setting).trace { incidents } inputs)
      ((machine setting).run { incidents } inputs) :=
  (machine setting).history (G := fun _ => True) (P := Told setting) (told_start setting incidents)
    (fun _ _ i h _ => h.next i) inputs fun _ _ => trivial

def NotHeld (w : WorkerId) (id : InboxId) (s : State) : Prop :=
  ∀ row, s.inbox[id]? = some row → row.lockedBy ≠ some w

theorem RowStep.not_held (h : RowStep s i id s.inbox[id]? after) (free : NotHeld w id s)
    (nottaken : ¬Takes w id ((machine setting).stepAt s i)) :
    (i.worker = some w → after = s.inbox[id]?) ∧
      ∀ row, after = some row → row.lockedBy ≠ some w := by
  have hother {row : InboxRow} {w' : WorkerId} (hrow : s.inbox[id]? = some row)
      (held : row.heldBy w' = true) (worker : i.worker = some w') : i.worker ≠ some w := by
    intro hw
    obtain rfl : w' = w := Option.some.inj (worker.symm.trans hw)
    exact free row hrow (open_of_held held).1
  generalize hbefore : s.inbox[id]? = before at h
  cases h with
  | same _ => exact ⟨fun _ => rfl, fun row hrow => free row (hbefore.trans hrow)⟩
  | new row producer pending unlocked =>
    refine ⟨fun hw => ?_, fun row' hrow' => ?_⟩
    · rw [producer] at hw
      cases hw
    · cases hrow'
      rw [unlocked]
      exact fun h => nomatch h
  | locked row worker now skipped input idle taken isOpen =>
    have hne : worker.workerId ≠ w := by
      intro hw
      exact nottaken ⟨worker, now, skipped, input, hw, hw ▸ idle, taken⟩
    refine ⟨fun hw => ?_, fun row' hrow' => ?_⟩
    · rw [input] at hw
      exact absurd (Option.some.inj hw) hne
    · cases hrow'
      exact fun h => hne (Option.some.inj h)
  | processed row w' event outcome queue worker about phase held
  | retried row w' attempts error availableAt worker held
  | deadLettered row w' attempts error worker held =>
    refine ⟨fun hw => absurd hw (hother hbefore held worker), fun row' hrow' => ?_⟩
    cases hrow'
    exact fun h => nomatch h

theorem Takes.locks (hne : w ≠ w') (h : Takes w' id ((machine setting).stepAt s i)) :
    NotHeld w id (Inbox.next setting s i) := by
  obtain ⟨worker, now, skipped, hinput, hworker, hidle, htaken⟩ := h
  rw [(machine setting).stepAt_input] at hinput
  rw [(machine setting).stepAt_before] at hidle htaken
  subst hinput
  intro row hrow
  have hinbox : (Inbox.next setting s (.claim worker now skipped)).inbox =
      lock worker now ((claimed worker now skipped s.inbox).map Prod.fst) s.inbox := by
    simp only [Inbox.next, hworker, hidle]
    rfl
  rw [hinbox, lock_row] at hrow
  obtain ⟨row', -, rfl⟩ := Option.map_eq_some_iff.mp hrow
  rw [if_pos htaken, hworker]
  exact fun h => hne (Option.some.inj h).symm

end Runs

/-- In every interleaving of producers and workers, crashes included: an event changes incidents
at most once; a row is processed only after an ingest of its event was committed; a row that is
processed or dead-lettered stays as it is, and was copied to the dead letters once if it is
dead-lettered and never otherwise; and a worker whose row another has claimed since leaves the row
alone until it claims it again. -/
theorem effectively_once (setting : Setting) (incidents : IncidentUnitOfWork)
    (inputs : List Input) :
    ((∀ st ∈ (machine setting).trace { incidents } inputs,
        st.after.incidents.store.incidents ≠ st.before.incidents.store.incidents →
          ∃ id, Changes setting id st) ∧
      ((machine setting).trace { incidents } inputs).Pairwise fun a b =>
        ∀ id, Changes setting id a → ¬Changes setting id b) ∧
    (∀ (id : InboxId) row,
      ((machine setting).run { incidents } inputs).inbox[id]? = some row →
        row.status = .processed →
          ∃ st ∈ (machine setting).trace { incidents } inputs, Commits setting id st) ∧
    ((∀ st ∈ (machine setting).trace { incidents } inputs, ∀ (id : InboxId) row,
        st.before.inbox[id]? = some row → row.status = .processed ∨ row.status = .deadLetter →
          st.after.inbox[id]? = some row) ∧
      ∀ (id : InboxId) row, ((machine setting).run { incidents } inputs).inbox[id]? = some row →
        ((machine setting).run { incidents } inputs).deadLetters.countP (copyOf row) =
          if row.status = .deadLetter then 1 else 0) ∧
    (∀ past mid rest taken st, (machine setting).trace { incidents } inputs =
        past ++ taken :: (mid ++ st :: rest) →
      ∀ w w' id, w ≠ w' → Takes w' id taken → (∀ m ∈ mid, ¬Takes w id m) → ¬Takes w id st →
        st.input.worker = some w → st.after.inbox[id]? = st.before.inbox[id]?) := by
  have htold := run_told setting incidents inputs
  refine ⟨⟨fun st hst hchanged => ?_, htold.once⟩, htold.processed, ⟨?_, htold.sound.copies⟩, ?_⟩
  · obtain ⟨before, i, after, -, rfl⟩ := (machine setting).mem_trace.mp hst
    rcases next_incidents setting ((machine setting).run { incidents } before) i with
      hsame | ⟨w, env, fate, event, detection, loaded, attempt, queue, o, hinput, hphase, hcommitted⟩
    · exact absurd (congrArg (fun u : IncidentUnitOfWork => u.store.incidents) hsame) hchanged
    · exact ⟨event.inboxId, hchanged, w, env, fate, event.tenantId, detection, loaded, o,
        (run_told setting incidents before).ingests hphase hinput, hcommitted⟩
  · intro st hst id row hrow hclosed
    obtain ⟨before, i, after, -, rfl⟩ := (machine setting).mem_trace.mp hst
    have hstep := (run_told setting incidents before).row i id
    rw [(machine setting).stepAt_before] at hrow
    rw [hrow] at hstep
    refine hstep.settled ?_
    rcases hclosed with h | h <;> rw [h] <;> rfl
  · intro past mid rest taken st htrace w w' id hne htakes hmid hst hworker
    obtain ⟨before, i, after, rfl, -, rfl, hrest⟩ := (machine setting).trace_eq_split htrace
    obtain ⟨between, j, last, rfl, rfl, rfl, -⟩ := (machine setting).trace_eq_split hrest.symm
    -- the lease stays lost from the other's claim on
    have hstart : NotHeld w id ((machine setting).run { incidents } (before ++ [i])) := by
      rw [(machine setting).run_snoc]
      exact htakes.locks hne
    have hlost := (machine setting).invariant (G := fun m => ¬Takes w id m)
      (P := fun s => Sound s.nextId s.inbox s.deadLetters ∧ NotHeld w id s)
      (And.intro (run_told setting incidents _).sound hstart)
      (fun s i ⟨hs, hfree⟩ hnot => ⟨(next_settles setting s i).sound hs, fun row hrow =>
        (((next_settles setting s i).row hs id).not_held hfree hnot).2 row hrow⟩)
      between hmid
    exact (((next_settles setting _ j).row hlost.1 id).not_held hlost.2 hst).1 hworker

/-- Every payload reads as the one event of the sample. -/
def sampleSetting : Setting where
  encode event := event.dedupKey
  decode _ := .ok (sampleEvent "acme" "d0" .started 0)
  domainText _ := "refused"
  persistText _ := "persistence"

/-- One worker crashes between the commit and the mark, and another finishes after the lease. -/
def crashedRun : List Input := [
  .enqueue "acme" [sampleEvent "acme" "d0" .started 0] 0,
  .claim ⟨"first", {}⟩ 0 fun _ => false, .startIngest "first",
  .commitIngest "first" (sampleEnv 0 0) .committed, .crash "first",
  .claim ⟨"second", {}⟩ 60000000 fun _ => false, .startIngest "second",
  .commitIngest "second" (sampleEnv 60 1) .committed, .markProcessed "second"]

theorem effectively_once_crashed :
    ((machine sampleSetting).run { incidents := new {} {} 2026 } crashedRun).inbox[0]?.map
        InboxRow.status = some .processed ∧
      ∃ st ∈ (machine sampleSetting).trace { incidents := new {} {} 2026 } crashedRun,
        Commits sampleSetting 0 st := by
  have hstatus : ((machine sampleSetting).run { incidents := new {} {} 2026 }
      crashedRun).inbox[0]?.map InboxRow.status = some .processed := by
    decide +kernel
  obtain ⟨row, hrow, hprocessed⟩ := Option.map_eq_some_iff.mp hstatus
  exact ⟨hstatus, (effectively_once sampleSetting (new {} {} 2026) crashedRun).2.1 0 row hrow
    hprocessed⟩

end Tidegard.IncidentPostgres.Proofs.Inbox
