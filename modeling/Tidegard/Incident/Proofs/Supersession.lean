import Tidegard.Incident.Proofs.Effects
import Tidegard.Incident.Proofs.Idempotency
import Tidegard.Incident.Proofs.Recovery

namespace Tidegard.Incident.Proofs.Supersession

open Tables Fallible Common Actions.Action Detector.Event Basics Time Record Store Commits
open UnitOfWork Changes Writes Calls Moves Index Effects
open Idempotency (Written.incidents_of_error)
open Recovery

def activeAt (u : IncidentUnitOfWork) (id : IncidentId) : Bool :=
  (u.store.incidents[id]?).any fun i => decide (Active i.state)

/-- The detection of the last `Started` event linked to the incident since it was last opened or
reopened, after one more step. -/
def startedAfter (id : IncidentId) (last : Option String) (st : ServiceStep) : Option String :=
  let since := if !activeAt st.before id && activeAt st.after id then none else last
  match st.input.call with
  | .ingestDetectionEvent event =>
    if linkedTo st.output = some id ∧ event.kind = .started then some event.detectionId else since
  | _ => since

def lastStarted (id : IncidentId) (steps : List ServiceStep) : Option String :=
  steps.foldl (startedAfter id) none

/-- An `Ended` event sends an incident into recovery only when no detection has started on it since
it was opened or reopened, or the last one to start is the one that ends. -/
def EndsItsOwn (past : List ServiceStep) (st : ServiceStep) : Prop :=
  ∀ id event, st.input.call = .ingestDetectionEvent event → event.kind = .ended →
    st.output = .ok (.ingested ⟨.updated, some id⟩) → EntersRecovery id st →
      ∀ detection ∈ lastStarted id past, detection = event.detectionId

/-- The request is an `Ended` event that passes every gate and finds the incident `id` under its
key, in a state that may recover, with the clock in range at both readings and not before the last
detection, and two versions left. -/
structure EndsOn (u : IncidentUnitOfWork) (request : Request) (id : IncidentId)
    (event : DetectionEvent) (i : Incident) (now later : DurableTimestamp) : Prop where
  call : request.call = .ingestDetectionEvent event
  last : event.kind = .ended
  admitted : Admitted request.auth event u
  active : u.store.openIndex[correlationKeyOf event]? = some id
  found : u.store.incidents[id]? = some i
  recovers : i.state.canAutomaticTransitionTo .recovering = true
  reading : DurableTimestamp.fromSystemTime (request.env.wall 0) = .ok now
  timely : i.lastDetectedAt ≤ now
  second : DurableTimestamp.fromSystemTime (request.env.wall 1) = .ok later
  version : i.version + 1 < u64Max

/-- Such an event arrives after another detection has started on the incident. -/
def Superseded (past : List ServiceStep) (u : IncidentUnitOfWork) (request : Request) : Prop :=
  ∃ id event i now later detection, EndsOn u request id event i now later ∧
    detection ∈ lastStarted id past ∧ detection ≠ event.detectionId

section Steps

variable {u : IncidentUnitOfWork} {event : DetectionEvent} {id : IncidentId}
variable {c : Commit}

theorem linkEvent_standing (h : Commit.linkEvent event false now i = .ok c) :
    c.incident.state = i.state ∧ c.incident.tenantId = i.tenantId ∧
      c.incident.version = i.version + 1 := by
  simp only [Commit.linkEvent, bind_eq_ok, pure_eq_ok, nextVersion_ok] at h
  obtain ⟨v, ⟨-, rfl⟩, rfl⟩ := h
  exact ⟨rfl, rfl, rfl⟩

theorem enterRecovering_decided :
    (∃ d, Commit.enterRecovering reason now i = .ok d) ↔
      i.state.canAutomaticTransitionTo .recovering = true ∧ i.version < u64Max := by
  simp only [Commit.enterRecovering, Transition.enterRecovering, bind_eq_ok, pure_eq_ok,
    nextVersion_ok]
  constructor
  · rintro ⟨d, _, hstate, v, ⟨small, -⟩, -⟩
    split at hstate
    · rename_i may
      exact ⟨may, small⟩
    · cases hstate
  · rintro ⟨may, small⟩
    exact ⟨_, (), if_pos may, _, ⟨small, rfl⟩, rfl⟩

theorem enterRecovering_ok (granted : auth.has .incidentIngest = true) :
    enterRecovering auth id reason env ⟨u, n⟩ = (.ok (), t) ↔
      ∃ later i d, DurableTimestamp.fromSystemTime (env.wall n) = .ok later ∧
        u.store.incidents[id]? = some i ∧ i.tenantId = auth.tenant ∧
        Commit.enterRecovering reason later i = .ok d ∧ t = ⟨u.commit auth id d, n + 1⟩ := by
  unfold enterRecovering
  rw [bind_of_ok (checkPermission_granted granted)]
  simp only [bind_ok, decisionTime_eq, findOwned_ok, commit_ok, pure_eq]
  constructor
  · rintro ⟨later, s, ⟨reading, rfl⟩, i, s', ⟨found, owned, rfl⟩, d, s'', ⟨hd, rfl⟩, -, rfl⟩
    exact ⟨later, i, d, reading, found, owned, hd, rfl⟩
  · rintro ⟨later, i, d, reading, found, owned, hd, rfl⟩
    exact ⟨later, _, ⟨reading, rfl⟩, i, _, ⟨found, owned, rfl⟩, d, _, ⟨hd, rfl⟩, trivial, rfl⟩

theorem ingestOpen_ended (last : event.kind = .ended)
    (hlink : linkEvent auth id event false env ⟨marked event u id, 0⟩ =
      (.ok ⟨.updated, some id⟩, s))
    (henter : enterRecovering auth id (endReasonOf event) env s = (o, t)) :
    ingestOpen auth event.target.tenant event id env ⟨u, 0⟩ =
      (.ok ⟨.updated, some id⟩, t) := by
  have hopen : linkEventToOpenIncident auth id event env ⟨marked event u id, 0⟩ =
      (.ok ⟨.updated, some id⟩, s) := hlink
  have hmark : dedupRecord event.target.tenant event.dedupKey id env ⟨u, 0⟩ =
      (.ok (), ⟨marked event u id, 0⟩) := rfl
  have htry : attempt (enterRecovering auth id (endReasonOf event)) env s = (.ok o, t) :=
    attempt_eq.mpr ⟨o, rfl, henter⟩
  unfold ingestOpen
  rw [bind_of_ok hmark, bind_of_ok hopen]
  simp only [last, decide_true, Bool.and_self, if_true]
  rw [bind_of_ok htry]
  rfl

theorem stateOf_commit : stateOf (u.commit auth id c) id = some c.incident.state := by
  unfold stateOf
  rw [commit_incidents, get_insert_self]
  rfl

theorem EndsOn.enters (consistent : Consistent u) (h : EndsOn u request id event i now later) :
    (service.step u request).1 = .ok (.ingested ⟨.updated, some id⟩) ∧
      EntersRecovery id (service.stepAt u request) := by
  obtain ⟨c, hc, hlink⟩ := linkEvent_timely h.found h.reading h.timely
    (Nat.lt_of_succ_lt h.version)
  obtain ⟨state, tenant, version⟩ := linkEvent_standing hc
  have owned : c.incident.tenantId = request.auth.tenant := by
    rw [tenant, (known_of_index consistent h.active i h.found).2.1]
    exact h.admitted.own
  obtain ⟨d, hd⟩ : ∃ d, Commit.enterRecovering (endReasonOf event) later c.incident = .ok d := by
    rw [enterRecovering_decided, state, version]
    exact ⟨h.recovers, h.version⟩
  have henter : enterRecovering request.auth id (endReasonOf event) request.env
      ⟨(marked event u id).commit request.auth id c, 1⟩ =
        (.ok (), ⟨((marked event u id).commit request.auth id c).commit request.auth id d, 2⟩) :=
    (enterRecovering_ok h.admitted.granted).mpr
      ⟨later, c.incident, d, h.second, by rw [commit_incidents, get_insert_self], owned, hd, rfl⟩
  have hingest := ingestOpen_ended h.last hlink henter
  rw [← correlate_open h.active, ← ingestDetectionEvent_admitted h.admitted] at hingest
  have hstep := step_ingest (u := u) h.call
  rw [hingest] at hstep
  refine ⟨congrArg Prod.fst hstep, ?_, ?_⟩
  · intro recovering
    obtain ⟨j, hj, hstate⟩ := stateOf_eq_some recovering
    cases h.found.symm.trans hj
    have may := h.recovers
    rw [hstate] at may
    cases may
  · change stateOf (service.step u request).2 id = _
    rw [hstep]
    change stateOf (IncidentUnitOfWork.commit _ _ _ _) id = _
    rw [stateOf_commit]
    simp only [Commit.enterRecovering, bind_eq_ok, pure_eq_ok] at hd
    obtain ⟨-, -, v, -, rfl⟩ := hd
    rfl

theorem endsOn_of_enters (call : request.call = .ingestDetectionEvent event)
    (last : event.kind = .ended)
    (output : (service.step u request).1 = .ok (.ingested ⟨.updated, some id⟩))
    (enters : EntersRecovery id (service.stepAt u request)) :
    ∃ i now later, EndsOn u request id event i now later := by
  obtain ⟨admitted, active, i, now, found, reading, timely, small⟩ :=
    ingest_updated (ingest_of_output call output)
  obtain ⟨c, hc, hlink⟩ := linkEvent_timely found reading timely small
  obtain ⟨state, tenant, version⟩ := linkEvent_standing hc
  rcases henter : enterRecovering request.auth id (endReasonOf event) request.env
    ⟨(marked event u id).commit request.auth id c, 1⟩ with ⟨o, t⟩
  have hingest := ingestOpen_ended last hlink henter
  rw [← correlate_open active, ← ingestDetectionEvent_admitted admitted] at hingest
  have hstep := step_ingest (u := u) call
  rw [hingest] at hstep
  cases o with
  | error e =>
    -- the link alone does not move the incident
    have written := enterRecovering_writes request.auth id (endReasonOf event) request.env
      ((marked event u id).commit request.auth id c) 1
      ⟨(marked event u id).commit request.auth id c, 1⟩ ⟨rfl, le_rfl⟩
    unfold Ends at written
    rw [henter] at written
    have hafter : stateOf (service.step u request).2 id = stateOf u id := by
      rw [hstep]
      unfold stateOf
      dsimp only
      rw [Written.incidents_of_error written, commit_incidents, get_insert_self, found]
      exact congrArg some state
    exact absurd (hafter.symm.trans enters.2) enters.1
  | ok a =>
    obtain ⟨later, j, d, second, hj, -, hd, -⟩ := (enterRecovering_ok admitted.granted).mp henter
    rw [commit_incidents, get_insert_self] at hj
    cases hj
    obtain ⟨may, more⟩ := enterRecovering_decided.mp ⟨d, hd⟩
    rw [state] at may
    rw [version] at more
    exact ⟨i, now, later, call, last, admitted, active, found, may, reading, timely, second, more⟩

theorem endsItsOwn_iff (consistent : Consistent u) :
    EndsItsOwn past (service.stepAt u request) ↔ ¬ Superseded past u request := by
  constructor
  · rintro law ⟨id, event, i, now, later, detection, h, started, other⟩
    obtain ⟨output, enters⟩ := h.enters consistent
    exact other (law id event h.call h.last output enters detection started)
  · intro own id event call last output enters detection started
    obtain ⟨i, now, later, h⟩ := endsOn_of_enters call last output enters
    by_contra other
    exact own ⟨id, event, i, now, later, detection, h, started, other⟩

end Steps

/-- In every run whose ids never repeat, the law is kept by each step exactly when it is not an
`Ended` event that could send its incident into recovery and is superseded: nothing compares the
detection that ends with the one that started last. -/
theorem ends_its_own_iff (closurePolicy : ClosurePolicy) (reopenPolicy : ReopenPolicy) (year : Nat)
    (past : List Request) (request : Request) (distinct : (handedOut past).Nodup) :
    let u := service.run (new closurePolicy reopenPolicy year) past
    let steps := service.trace (new closurePolicy reopenPolicy year) past
    EndsItsOwn steps (service.stepAt u request) ↔ ¬ Superseded steps u request :=
  endsItsOwn_iff (run_consistent closurePolicy reopenPolicy year past distinct).1

/-- Two detections start on one incident, and the first of them ends. -/
def overlapping : List Request :=
  [sampleIngest 0 0 "d0" .started 0, sampleIngest 10 1 "d1" .started 0]

/-- The detection that started last ends. -/
theorem ends_its_own_latest :
    (handedOut overlapping).Nodup ∧
    EntersRecovery (sampleId 0) (stepOf overlapping (sampleIngest 20 2 "d1" .ended 1)) ∧
    EndsItsOwn (service.trace (new {} {} 2026) overlapping)
      (stepOf overlapping (sampleIngest 20 2 "d1" .ended 1)) := by
  have distinct : (handedOut overlapping).Nodup := by decide
  refine ⟨distinct, by unfold EntersRecovery; decide +kernel,
    (ends_its_own_iff {} {} 2026 overlapping (sampleIngest 20 2 "d1" .ended 1) distinct).mpr ?_⟩
  rintro ⟨id, event, i, now, later, detection, h, started, other⟩
  have hevent : sampleEvent "acme" "d1" .ended 1 = event := Call.ingestDetectionEvent.inj h.call
  have hindex : (service.run (new {} {} 2026) overlapping).store.openIndex[
      correlationKeyOf (sampleEvent "acme" "d1" .ended 1)]? = some (sampleId 0) := by
    decide +kernel
  have hactive := h.active
  rw [← hevent, hindex] at hactive
  cases hactive
  have hlast : lastStarted (sampleId 0) (service.trace (new {} {} 2026) overlapping) =
      some "d1" := by
    decide +kernel
  rw [hlast] at started
  cases started
  exact other (congrArg DetectionEvent.detectionId hevent)

/-- The first detection ends while the second goes on, and the incident starts to recover. -/
theorem superseded_end_recovers :
    let st := stepOf overlapping (sampleIngest 20 2 "d0" .ended 1)
    st.output = .ok (.ingested ⟨.updated, some (sampleId 0)⟩) ∧ EntersRecovery (sampleId 0) st ∧
      lastStarted (sampleId 0) (service.trace (new {} {} 2026) overlapping) = some "d1" := by
  unfold EntersRecovery
  decide +kernel

end Tidegard.Incident.Proofs.Supersession
