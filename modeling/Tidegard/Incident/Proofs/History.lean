import Tidegard.Incident.Proofs.Index

namespace Tidegard.Incident.Proofs.History

open List Tables Common Actions.Action Basics Time Record Store Commits UnitOfWork Changes Calls
open Moves Index

/-- What the timeline holds of an incident, in order. -/
def entriesOf (u : IncidentUnitOfWork) (id : IncidentId) : List TimelinePayload :=
  (u.store.timeline.filter fun entry => entry.incidentId = id).map (·.payload)

def edgesOf (u : IncidentUnitOfWork) (id : IncidentId) : List Edge :=
  (entriesOf u id).filterMap edgeOf

/-- The edges lead from one state to another without a gap. -/
def Path : IncidentState → List Edge → IncidentState → Prop
  | first, [], last => first = last
  | first, e :: rest, last => e.fromState = first ∧ Path e.toState rest last

theorem Path.snoc {next : IncidentState} (h : Path first path last)
    (cause : TransitionCause) : Path first (path ++ [⟨last, next, cause⟩]) next := by
  induction path generalizing first with
  | nil => exact ⟨h.symm, rfl⟩
  | cons e rest ih => exact ⟨h.1, ih h.2⟩

/-- The entries tell how the incident came to its state and how often it was reopened. -/
structure Tells (payloads : List TimelinePayload) (i : Incident) : Prop where
  path : Path .open_ (payloads.filterMap edgeOf) i.state
  legal : ∀ e ∈ payloads.filterMap edgeOf, e.legal = true
  reopened : i.reopenCount = payloads.countP isReopened
  returns : i.reopenCount = (payloads.filterMap edgeOf).countP Edge.isReopening

section Tells

variable {i : Incident}

theorem edges_eq : edges c = (c.entries.map (·.2)).filterMap edgeOf := by
  unfold edges
  rw [filterMap_map]
  rfl

theorem reopenings_eq : reopenings c = (c.entries.map (·.2)).countP isReopened := by
  unfold reopenings
  rw [countP_map]
  rfl

theorem Tells.traverse (h : Tells payloads i) (traverses : Traverses cause i c)
    (count : c.incident.reopenCount = i.reopenCount + reopenings c)
    (once : reopenings c = [Edge.mk i.state c.incident.state cause].countP Edge.isReopening) :
    Tells (payloads ++ c.entries.map (·.2)) c.incident where
  path := by
    rw [filterMap_append, ← edges_eq, traverses.edges]
    exact h.path.snoc cause
  legal := by
    rw [filterMap_append, ← edges_eq, traverses.edges]
    intro e he
    rcases List.mem_append.mp he with he | he
    · exact h.legal e he
    · obtain rfl := List.mem_singleton.mp he
      exact traverses.legal
  reopened := by rw [countP_append, ← reopenings_eq, count, h.reopened]
  returns := by
    rw [filterMap_append, ← edges_eq, traverses.edges, countP_append, ← once, count,
      h.returns]

theorem uncounted_once (uncounted : Uncounted i c)
    (other : Active i.state ∨ c.incident.state ≠ .open_) :
    c.incident.reopenCount = i.reopenCount + reopenings c ∧
      reopenings c = [Edge.mk i.state c.incident.state cause].countP Edge.isReopening := by
  refine ⟨by rw [uncounted.count, uncounted.none, Nat.add_zero], ?_⟩
  rw [uncounted.none]
  rcases other with ⟨hr, hc⟩ | hopen
  · simp [Edge.isReopening, hr, hc]
  · simp [Edge.isReopening, hopen]

theorem Tells.change (h : Tells payloads i)
    (life : Lifecycle active i c) : Tells (payloads ++ c.entries.map (·.2)) c.incident := by
  cases life with
  | stays index state edges uncounted =>
    rw [edges_eq] at edges
    refine ⟨?_, ?_, ?_, ?_⟩
    · rw [filterMap_append, edges, append_nil, state]
      exact h.path
    · rw [filterMap_append, edges, append_nil]
      exact h.legal
    · rw [countP_append, ← reopenings_eq, uncounted.none, uncounted.count]
      exact h.reopened
    · rw [filterMap_append, edges, append_nil, uncounted.count]
      exact h.returns
  | moves cause traverses index before after uncounted
  | resolves cause traverses index before after uncounted =>
    obtain ⟨count, once⟩ := uncounted_once uncounted (Or.inl before)
    exact h.traverse traverses count once
  | closes cause traverses index before after uncounted =>
    obtain ⟨count, once⟩ := uncounted_once uncounted (Or.inr (by rw [after]; decide))
    exact h.traverse traverses count once
  | reopens cause traverses index vacant before after count once =>
    refine h.traverse traverses (by rw [count, once]) ?_
    have reopenable : i.state = .resolved ∨ i.state = .closed := by
      unfold Active at before
      tauto
    rw [once, after]
    rcases reopenable with hs | hs <;> rw [hs] <;> rfl

theorem tells_fresh {id : IncidentId} (fresh : Fresh auth id c) :
    Tells (c.entries.map (·.2)) c.incident := by
  have edges := fresh.edges
  rw [edges_eq] at edges
  refine ⟨?_, ?_, ?_, ?_⟩
  · rw [edges, fresh.state]
    rfl
  · rw [edges]
    simp
  · rw [← reopenings_eq, fresh.reopenings, fresh.reopenCount]
  · rw [edges, fresh.reopenCount]
    rfl

theorem Tells.note (h : Tells payloads i) (noEdge : edgeOf payload = none)
    (noReopening : isReopened payload = false) : Tells (payloads ++ [payload]) i := by
  have hedges : (payloads ++ [payload]).filterMap edgeOf = payloads.filterMap edgeOf := by
    simp [noEdge]
  refine ⟨?_, ?_, ?_, ?_⟩
  · rw [hedges]
    exact h.path
  · rw [hedges]
    exact h.legal
  · simp [noReopening, h.reopened]
  · rw [hedges]
    exact h.returns

end Tells

section Entries

variable {auth : AuthorizationContext} {id : IncidentId}

theorem numbered_entries (id x : IncidentId) (sequence : Nat)
    (entries : List (Actor × TimelinePayload)) :
    ((numbered id sequence entries).filter fun entry => entry.incidentId = x).map (·.payload) =
      if id = x then entries.map (·.2) else [] := by
  induction entries generalizing sequence with
  | nil => simp [numbered]
  | cons entry rest ih =>
    have hrest := ih (saturatingAdd sequence 1)
    by_cases same : id = x
    · rw [if_pos same] at hrest ⊢
      simp [numbered, same, ← hrest]
    · rw [if_neg same] at hrest ⊢
      simpa [numbered, same] using hrest

theorem entriesOf_commit :
    entriesOf (u.commit auth id c) x =
      entriesOf u x ++ if id = x then c.entries.map (·.2) else [] := by
  unfold entriesOf
  rw [commit_timeline, filter_append, map_append, numbered_entries]

theorem entriesOf_appendTimeline :
    entriesOf (u.appendTimeline id actor payload) x =
      entriesOf u x ++ if id = x then [payload] else [] := by
  unfold entriesOf IncidentUnitOfWork.appendTimeline
  simp only [filter_append, map_append]
  by_cases same : id = x
  · simp [same]
  · simp [same]

end Entries

/-- The timeline tells of every incident, and of nothing else. -/
structure Storied (u : IncidentUnitOfWork) : Prop where
  tells : ∀ (id : IncidentId) i, u.store.incidents[id]? = some i → Tells (entriesOf u id) i
  silent : ∀ id : IncidentId, u.store.incidents[id]? = none → entriesOf u id = []

section Moves

variable {env : Env} {auth : AuthorizationContext}
variable {id : IncidentId}

theorem Storied.same (h : Storied u) (incidents : v.store.incidents = u.store.incidents)
    (timeline : v.store.timeline = u.store.timeline) : Storied v where
  tells x i hi := by
    unfold entriesOf
    rw [incidents] at hi
    rw [timeline]
    exact h.tells x i hi
  silent x hx := by
    unfold entriesOf
    rw [incidents] at hx
    rw [timeline]
    exact h.silent x hx

theorem Storied.commit (h : Storied u)
    (tells : Tells (entriesOf u id ++ c.entries.map (·.2)) c.incident) :
    Storied (u.commit auth id c) where
  tells x i hi := by
    rw [entriesOf_commit]
    rw [commit_incidents, get_insert] at hi
    by_cases same : id = x
    · subst same
      rw [if_pos rfl] at hi ⊢
      cases hi
      exact tells
    · rw [if_neg same] at hi ⊢
      rw [append_nil]
      exact h.tells x i hi
  silent x hx := by
    rw [entriesOf_commit]
    rw [commit_incidents, get_insert] at hx
    by_cases same : id = x
    · rw [if_pos same] at hx
      cases hx
    · rw [if_neg same] at hx ⊢
      rw [append_nil]
      exact h.silent x hx

theorem Storied.notify (h : Storied u) (found : u.store.incidents[id]? = some i) (actor : Actor)
    (channel eventType : String) (outcome : NotificationOutcome) :
    Storied (u.appendTimeline id actor (.notificationResult channel eventType outcome)) where
  tells x j hj := by
    rw [entriesOf_appendTimeline]
    have told := h.tells x j hj
    split
    · exact told.note rfl rfl
    · rw [append_nil]
      exact told
  silent x hx := by
    have absent : u.store.incidents[x]? = none := hx
    rw [entriesOf_appendTimeline, h.silent x absent]
    split
    · rename_i same
      rw [← same, found] at absent
      cases absent
    · rfl

theorem move_storied (sound : g.sound) (h : Move env auth g s t)
    (hs : Consistent s.uow ∧ Storied s.uow) : Consistent t.uow ∧ Storied t.uow := by
  refine ⟨(move_consistent sound h hs.1).1, ?_⟩
  obtain ⟨hconsistent, hstoried⟩ := hs
  cases h with
  | read => exact hstoried
  | deny | export_ | dedup | remember =>
    exact hstoried.same rfl rfl
  | notify id i found owned channel eventType outcome =>
    exact hstoried.notify found auth.actor channel eventType outcome
  | create id number now c k n generated allocated reading first last vacant unused opened =>
    apply hstoried.commit
    rw [hstoried.silent id (unused sound)]
    exact tells_fresh (Opened.fresh opened)
  | change id i now c k n found owned reading first last decided =>
    apply hstoried.commit
    exact (hstoried.tells id i found).change
      (decided.edit.lifecycle (hconsistent.restorable id i found))

end Moves

section Runs

variable (closurePolicy : ClosurePolicy) (reopenPolicy : ReopenPolicy) (year : Nat)

theorem new_storied : Storied (new closurePolicy reopenPolicy year) where
  tells := by simp [new]
  silent := by simp [new, entriesOf]

theorem run_storied (requests : List Request) (distinct : (handedOut requests).Nodup) :
    Storied (service.run (new closurePolicy reopenPolicy year) requests) := by
  induction requests using List.reverseRecOn with
  | nil => exact new_storied closurePolicy reopenPolicy year
  | append_singleton requests request ih =>
    have hpast := distinct_past distinct
    obtain ⟨hconsistent, hstored⟩ := run_consistent closurePolicy reopenPolicy year requests hpast
    rw [service.run_snoc]
    have sound : (groundsOf request _).sound := ⟨hconsistent, unused_of_distinct distinct hstored⟩
    exact (step_invariant (P := fun s => Consistent s.uow ∧ Storied s.uow)
      (fun _ _ => move_storied sound) ⟨hconsistent, ih hpast⟩).2

end Runs

theorem handleCommand_version {id : IncidentId}
    (succeeds : (service.step u ⟨env, auth, .handleCommand id command key⟩).1 =
      .ok (.version version))
    (new : ∀ k, key = some k → u.store.idempotency[toLex (auth.tenant, k)]? = none) :
    ∃ i j, u.store.incidents[id]? = some i ∧
      (service.step u ⟨env, auth, .handleCommand id command key⟩).2.store.incidents =
        u.store.incidents.insert id j ∧
      j.version = i.version + 1 ∧ version = j.version := by
  simp only [service, perform, bind_pure_apply] at succeeds ⊢
  have ends := handleCommand_ends env auth key id command (u := u) (s := ⟨u, 0⟩) ⟨rfl, le_rfl⟩
  unfold Ends at ends
  generalize handleCommand auth id command key env ⟨u, 0⟩ = ended at succeeds ends ⊢
  obtain ⟨o, t⟩ := ended
  dsimp only at succeeds ends ⊢
  cases ends with
  | refused | denied => cases succeeds
  | replayed k outcome a n later keyed stored same =>
    unfold InMemoryIncidentStore.checkIdempotency at stored
    rw [new k keyed] at stored
    cases stored
  | executed o t fresh ran =>
    obtain ⟨i, result, found, owned, current, written, answer⟩ := ran
    cases written with
    | wrote a c j now k n found' reading first last decided =>
      obtain ⟨rfl, decided⟩ := decided
      subst answer
      cases succeeds
      have incidents : (remembered (u.commit auth id a) auth.tenant key (.command id command)
          (storedOutcome (.mutated id) (.ok a.incident.version))).store.incidents =
            u.store.incidents.insert id a.incident := by
        rw [← commit_incidents u auth id a]
        unfold remembered
        split <;> rfl
      exact ⟨j, a.incident, found', incidents, decided.edit.version, rfl⟩
    | idle a n later idle => exact idle.elim
    | refused | denied =>
      subst answer
      cases succeeds

/-- In every run whose ids never repeat, the state changes in an incident's timeline lead from
Open to its state by edges of the tables their causes belong to, and its count of reopenings is
that of its Reopened entries and of its edges into Open from Resolved or Closed. A command that
succeeds and is not answered from a record raises its own incident's version by one, answers with
it, and leaves every other incident alone. -/
theorem timeline_tells_state (closurePolicy : ClosurePolicy) (reopenPolicy : ReopenPolicy)
    (year : Nat) (requests : List Request) (distinct : (handedOut requests).Nodup) :
    let u := service.run (new closurePolicy reopenPolicy year) requests
    (∀ (id : IncidentId) i, u.store.incidents[id]? = some i →
      Path .open_ (edgesOf u id) i.state ∧
      (∀ e ∈ edgesOf u id, e.legal = true) ∧
      i.reopenCount = (entriesOf u id).countP isReopened ∧
      i.reopenCount = (edgesOf u id).countP Edge.isReopening) ∧
    (∀ (env : Env) (auth : AuthorizationContext) (id : IncidentId) (command : Command)
      (key : Option IdempotencyKey) (version : Nat),
      (service.step u ⟨env, auth, .handleCommand id command key⟩).1 = .ok (.version version) →
      (∀ k, key = some k → u.store.idempotency[toLex (auth.tenant, k)]? = none) →
      ∃ i j, u.store.incidents[id]? = some i ∧
        (service.step u ⟨env, auth, .handleCommand id command key⟩).2.store.incidents[id]? =
          some j ∧
        j.version = i.version + 1 ∧ version = j.version ∧
        ∀ other, other ≠ id →
          (service.step u ⟨env, auth, .handleCommand id command key⟩).2.store.incidents[other]? =
            u.store.incidents[other]?) := by
  intro u
  have storied := run_storied closurePolicy reopenPolicy year requests distinct
  constructor
  · intro id i hi
    have told := storied.tells id i hi
    exact ⟨told.path, told.legal, told.reopened, told.returns⟩
  · intro env auth id command key version succeeds new
    obtain ⟨i, j, found, incidents, raised, answer⟩ := handleCommand_version succeeds new
    refine ⟨i, j, found, ?_, raised, answer, ?_⟩
    · rw [incidents, get_insert_self]
    · intro other different
      rw [incidents, get_insert_ne _ _ (Ne.symm different)]

theorem timeline_tells_state_reopened :
    (handedOut reopenedRun).Nodup ∧
    ∀ i, (service.run (new {} {} 2026) reopenedRun).store.incidents[sampleId 0]? = some i →
      Path .open_ (edgesOf (service.run (new {} {} 2026) reopenedRun) (sampleId 0)) i.state :=
  ⟨by decide, fun i hi =>
    ((timeline_tells_state {} {} 2026 reopenedRun (by decide)).1 (sampleId 0) i hi).1⟩

end Tidegard.Incident.Proofs.History
