import Tidegard.Incident.Proofs.Index

namespace Tidegard.Incident.Proofs.Recovery

open Common Runs Actions.Action Detector.Event Basics Time Record Store Commits UnitOfWork Changes
open Writes Calls Moves Index

def stateOf (u : IncidentUnitOfWork) (id : IncidentId) : Option IncidentState :=
  u.store.incidents[id]?.map (·.state)

/-- The step links to the incident an event that is not late and does not end its detection. -/
def LinksLive (id : IncidentId) (st : ServiceStep) : Prop :=
  ∃ event, st.input.call = .ingestDetectionEvent event ∧ event.kind ≠ .ended ∧
    st.output = .ok (.ingested ⟨.updated, some id⟩)

/-- A live event linked to a recovering incident sends it back to the state it recovered from. -/
def AbortsRecovery (st : ServiceStep) : Prop :=
  ∀ id i prior, LinksLive id st → st.before.store.incidents[id]? = some i →
    i.state = .recovering → i.stateBeforeRecovering = some prior →
      stateOf st.after id = some prior

def EntersRecovery (id : IncidentId) (st : ServiceStep) : Prop :=
  stateOf st.before id ≠ some .recovering ∧ stateOf st.after id = some .recovering

def ConfirmsRecovery (id : IncidentId) (st : ServiceStep) : Prop :=
  (∃ confirmation, st.input.call = .confirmRecoveryIfDue id confirmation) ∧
    st.output = .ok (.due true)

/-- No confirmed recovery had a live event linked since the incident last entered it. -/
def NeverRecoveredAway (trace : List ServiceStep) : Prop :=
  ∀ id before enters between confirms after,
    trace = before ++ enters :: (between ++ confirms :: after) → EntersRecovery id enters →
      (∀ st ∈ between, ¬ EntersRecovery id st) → ConfirmsRecovery id confirms →
        ∀ st ∈ between, ¬ LinksLive id st

/-- The request is a live event that passes every gate and finds the recovering incident `id`
under its key, with the clock in range and not before the last detection, and a version left. -/
structure LivesOnRecovering (u : IncidentUnitOfWork) (request : Request) (id : IncidentId)
    (event : DetectionEvent) (i : Incident) (now : DurableTimestamp) : Prop where
  call : request.call = .ingestDetectionEvent event
  live : event.kind ≠ .ended
  admitted : Admitted request.auth event u
  active : u.store.openIndex[correlationKeyOf event]? = some id
  found : u.store.incidents[id]? = some i
  recovering : i.state = .recovering
  reading : DurableTimestamp.fromSystemTime (request.env.wall 0) = .ok now
  timely : i.lastDetectedAt ≤ now
  version : i.version < u64Max

def LinksDuringRecovery (u : IncidentUnitOfWork) (request : Request) : Prop :=
  ∃ id event i now, LivesOnRecovering u request id event i now

section Steps

variable {u : IncidentUnitOfWork} {request : Request} {id : IncidentId}
variable {i : Incident}

theorem active_of_updated (h : Ingested env auth event u 0 (.ok ⟨.updated, some id⟩) t) :
    Admitted auth event u ∧ u.store.openIndex[correlationKeyOf event]? = some id := by
  cases h with
  | turned a n later kind => simp at kind
  | correlated o t admitted ran =>
    refine ⟨admitted, ?_⟩
    cases ran with
    | linked id' o t active ran kept =>
      cases ran with
      | wrote a c i now k n found reading first last decided =>
        obtain rfl : id = id' := Option.some.inj (congrArg IngestResult.incidentId decided.2)
        exact active
      | idle a n later answer => exact answer.elim
    | ended id' t o t' active => exact active
    | late candidate o t vacant found late ran =>
      cases ran with
      | wrote a c i now k n found reading first last decided =>
        have hkind := congrArg IngestResult.outcomeKind decided.2
        simp [Commit.isLate] at hkind
      | idle a n later answer => exact answer.elim
    | reopened candidate now o t vacant found new reading recurs ran =>
      cases ran with
      | wrote a c i now k n found reading first last decided =>
        cases congrArg IngestResult.outcomeKind decided.2
      | idle a n later answer => exact answer.elim

theorem ingest_updated
    (h : (ingestDetectionEvent request.auth event request.env ⟨u, 0⟩).1 =
      .ok ⟨.updated, some id⟩) :
    Admitted request.auth event u ∧ u.store.openIndex[correlationKeyOf event]? = some id ∧
      ∃ i now, u.store.incidents[id]? = some i ∧
        DurableTimestamp.fromSystemTime (request.env.wall 0) = .ok now ∧
        i.lastDetectedAt ≤ now ∧ i.version < u64Max := by
  have hends : Ingested request.env request.auth event u 0 _ _ := ingestDetectionEvent_ends
  rw [h] at hends
  obtain ⟨admitted, active⟩ := active_of_updated hends
  refine ⟨admitted, active, ?_⟩
  rw [ingestDetectionEvent_admitted admitted, correlate_open active, ingestOpen_answer] at h
  rcases hlink : linkEvent request.auth id event false request.env ⟨marked event u id, 0⟩
    with ⟨o, t⟩
  rw [hlink] at h
  cases h
  obtain ⟨now, i, c, reading, found, hc, ha, -⟩ := linkEvent_ok.mp hlink
  refine ⟨i, now, found, reading, ?_, linkEvent_decided.mp ⟨c, hc⟩⟩
  -- the answer would have been late otherwise
  by_contra hlate
  have hkind := congrArg IngestResult.outcomeKind ha
  simp [Commit.isLate, not_le.mp hlate] at hkind

theorem linkEvent_timely (found : u.store.incidents[id]? = some i)
    (reading : DurableTimestamp.fromSystemTime (request.env.wall 0) = .ok now)
    (timely : i.lastDetectedAt ≤ now) (version : i.version < u64Max) :
    ∃ c, Commit.linkEvent event false now i = .ok c ∧
      linkEvent request.auth id event false request.env ⟨marked event u id, 0⟩ =
        (.ok ⟨.updated, some id⟩, ⟨(marked event u id).commit request.auth id c, 1⟩) := by
  obtain ⟨c, hc⟩ : ∃ c, Commit.linkEvent event false now i = .ok c :=
    linkEvent_decided.mpr version
  have hlate : Commit.isLate false now i = false := by
    simp [Commit.isLate, timely]
  exact ⟨c, hc, linkEvent_ok.mpr ⟨now, i, c, reading, found, hc, by rw [hlate]; rfl, rfl⟩⟩

theorem LivesOnRecovering.stays (h : LivesOnRecovering u request id event i now) :
    (service.step u request).1 = .ok (.ingested ⟨.updated, some id⟩) ∧
      stateOf (service.step u request).2 id = some .recovering := by
  obtain ⟨c, hc, hlink⟩ := linkEvent_timely h.found h.reading h.timely h.version
  have hingest := ingestOpen_live (u := u) h.live hlink
  rw [← correlate_open h.active, ← ingestDetectionEvent_admitted h.admitted] at hingest
  rw [step_ingest h.call, hingest]
  refine ⟨rfl, ?_⟩
  have hstate : c.incident.state = i.state := by
    simp only [Commit.linkEvent, Fallible.bind_eq_ok, Fallible.pure_eq_ok] at hc
    obtain ⟨v, -, rfl⟩ := hc
    rfl
  simp [stateOf, hstate, h.recovering]

theorem stateOf_eq_some (h : stateOf u id = some state) :
    ∃ i, u.store.incidents[id]? = some i ∧ i.state = state := by
  unfold stateOf at h
  simpa using h

theorem ingest_of_output (hcall : request.call = .ingestDetectionEvent event)
    (houtput : (service.step u request).1 = .ok (.ingested a)) :
    (ingestDetectionEvent request.auth event request.env ⟨u, 0⟩).1 = .ok a := by
  rw [step_ingest hcall] at houtput
  cases hx : (ingestDetectionEvent request.auth event request.env ⟨u, 0⟩).1 with
  | error e =>
    rw [hx] at houtput
    cases houtput
  | ok b =>
    rw [hx] at houtput
    cases houtput
    rfl

theorem linksDuringRecovery_of_live (live : LinksLive id (service.stepAt u request))
    (recovering : stateOf u id = some .recovering) : LinksDuringRecovery u request := by
  obtain ⟨event, hcall, hkind, houtput⟩ := live
  obtain ⟨admitted, active, i, now, found, reading, timely, version⟩ :=
    ingest_updated (ingest_of_output hcall houtput)
  obtain ⟨j, hj, hstate⟩ := stateOf_eq_some recovering
  obtain rfl : i = j := Option.some.inj (found.symm.trans hj)
  exact ⟨id, event, i, now, hcall, hkind, admitted, active, found, hstate, reading, timely,
    version⟩

/-- A step keeps the law exactly when it links no live event to a recovering incident: ingestion
itself never sends an incident back. -/
theorem step_aborts_iff (restorable : ∀ (id : IncidentId) i, u.store.incidents[id]? = some i →
      Restorable i) :
    AbortsRecovery (service.stepAt u request) ↔ ¬ LinksDuringRecovery u request := by
  constructor
  · rintro law ⟨id, event, i, now, h⟩
    obtain ⟨houtput, hstate⟩ := h.stays
    obtain ⟨prior, hprior⟩ := (restorable id i h.found).known h.recovering
    have hback : stateOf (service.step u request).2 id = some prior :=
      law id i prior ⟨event, h.call, h.live, houtput⟩ h.found h.recovering hprior
    rw [hstate] at hback
    cases hback
    cases (restorable id i h.found).recovers _ hprior
  · intro none id i prior live found recovering hprior
    have hstate : stateOf u id = some .recovering := by
      change u.store.incidents[id]? = _ at found
      simp [stateOf, found, recovering]
    exact absurd (linksDuringRecovery_of_live live hstate) none

theorem recovering_of_confirms (h : ConfirmsRecovery id (service.stepAt u request)) :
    stateOf u id = some .recovering := by
  obtain ⟨⟨confirmation, hcall⟩, houtput⟩ := h
  change request.call = _ at hcall
  change (perform request.auth request.call request.env ⟨u, 0⟩).1 = _ at houtput
  rw [hcall] at houtput
  simp only [perform, bind_pure_apply] at houtput
  have hwritten := confirmRecoveryIfDue_writes request.auth id confirmation request.env u 0
    ⟨u, 0⟩ ⟨rfl, le_rfl⟩
  unfold Ends at hwritten
  generalize confirmRecoveryIfDue request.auth id confirmation request.env ⟨u, 0⟩ = result
    at houtput hwritten
  obtain ⟨o, t⟩ := result
  cases hwritten with
  | wrote a c i now k n found reading first last decided =>
    simp [stateOf, found, decided.2.2.1]
  | idle a n later answer =>
    obtain rfl : a = false := answer
    cases houtput
  | refused | denied => cases houtput

end Steps

theorem move_restorable (h : Move env auth g s t)
    (hs : ∀ (id : IncidentId) i, s.uow.store.incidents[id]? = some i → Restorable i) :
    ∀ (id : IncidentId) i, t.uow.store.incidents[id]? = some i → Restorable i := by
  cases h with
  | create id number now c k n generated allocated reading first last vacant unused opened =>
    have fresh := Opened.fresh opened
    apply stored_commit hs
    refine .settled ?_ fresh.before
    rw [fresh.state]
    decide
  | change id i now c k n found owned reading first last decided =>
    exact stored_commit hs (decided.edit.restorable (hs id i found))
  | _ => exact hs

theorem run_restorable (closurePolicy : ClosurePolicy) (reopenPolicy : ReopenPolicy) (year : Nat)
    (requests : List Request) (id : IncidentId) (i : Incident)
    (found : (service.run (new closurePolicy reopenPolicy year) requests).store.incidents[id]? =
      some i) : Restorable i := by
  refine service.invariant (G := fun _ => True)
    (P := fun u => ∀ (id : IncidentId) i, u.store.incidents[id]? = some i → Restorable i)
    ?_ ?_ requests (fun _ _ => trivial) id i found
  · simp [new]
  · intro u request hu _
    exact step_invariant (P := fun s => ∀ (id : IncidentId) i,
      s.uow.store.incidents[id]? = some i → Restorable i) (fun _ _ => move_restorable) hu

/-- In every run, a step sends a recovering incident back on a live event exactly when it links
no live event to a recovering incident; and in every run without such a step no recovery is
confirmed over a live event. -/
theorem recovery_aborted_iff (closurePolicy : ClosurePolicy) (reopenPolicy : ReopenPolicy)
    (year : Nat) (requests : List Request) :
    let trace := service.trace (new closurePolicy reopenPolicy year) requests
    (∀ st ∈ trace, AbortsRecovery st ↔ ¬ LinksDuringRecovery st.before st.input) ∧
    ((∀ st ∈ trace, ¬ LinksDuringRecovery st.before st.input) → NeverRecoveredAway trace) := by
  intro trace
  constructor
  · intro st hst
    obtain ⟨past, request, rest, -, rfl⟩ := service.mem_trace.mp hst
    exact step_aborts_iff (run_restorable closurePolicy reopenPolicy year past)
  · intro none id before enters between confirms after hsplit henters hbetween hconfirms st hst live
    have mem : ∀ st ∈ between ++ confirms :: after, ∃ u request,
        st = service.stepAt u request ∧ ¬ LinksDuringRecovery u request := by
      intro st hst
      have hmem : st ∈ trace := by
        rw [hsplit]
        simp only [List.mem_append, List.mem_cons] at hst ⊢
        tauto
      have hnone := none st hmem
      obtain ⟨past, request, rest, -, rfl⟩ := service.mem_trace.mp hmem
      exact ⟨_, request, rfl, hnone⟩
    have chained : (between ++ confirms :: after).IsChain fun a b => a.after = b.before := by
      have hchain := service.trace_chained (new closurePolicy reopenPolicy year) requests
      change trace.IsChain _ at hchain
      rw [hsplit, List.isChain_append] at hchain
      exact hchain.2.1.tail
    -- between entering and the confirmation the incident never stopped recovering
    have recovering : ∀ st ∈ between, stateOf st.before id = some .recovering := by
      apply holds_backwards (P := fun u => stateOf u id = some .recovering) chained
      · intro st hst hafter
        by_contra hbefore
        exact hbetween st hst ⟨hbefore, hafter⟩
      · obtain ⟨u, request, rfl, -⟩ := mem confirms (by simp)
        exact recovering_of_confirms hconfirms
    have hrecovering := recovering st hst
    obtain ⟨u, request, rfl, hnone⟩ := mem st (by simp [hst])
    exact hnone (linksDuringRecovery_of_live live hrecovering)

def confirmRequest : Request where
  env := sampleEnv 100 3
  auth := sampleAuth "acme"
  call := .confirmRecoveryIfDue (sampleId 0) 60000000000

def stepOf (past : List Request) (request : Request) : ServiceStep :=
  service.stepAt (service.run (new {} {} 2026) past) request

/-- An incident recovers and no later event reaches it. -/
def attackEnds : List Request :=
  [sampleIngest 0 0 "d0" .started 0, sampleIngest 10 1 "d0" .ended 1]

/-- The recovery of an attack that has ended is confirmed. -/
theorem recovery_aborted_iff_attackEnds :
    (∀ st ∈ service.trace (new {} {} 2026) (attackEnds ++ [confirmRequest]), AbortsRecovery st) ∧
    NeverRecoveredAway (service.trace (new {} {} 2026) (attackEnds ++ [confirmRequest])) ∧
    ConfirmsRecovery (sampleId 0) (stepOf attackEnds confirmRequest) := by
  have quiet : ∀ st ∈ service.trace (new {} {} 2026) (attackEnds ++ [confirmRequest]),
      ¬ LinksDuringRecovery st.before st.input := by
    intro st hst
    rintro ⟨id, event, i, now, h⟩
    have hst : st ∈ [stepOf [] (sampleIngest 0 0 "d0" .started 0),
      stepOf (attackEnds.take 1) (sampleIngest 10 1 "d0" .ended 1),
      stepOf attackEnds confirmRequest] := hst
    simp only [List.mem_cons, List.not_mem_nil, or_false] at hst
    rcases hst with rfl | rfl | rfl
    · have hnone : (new {} {} 2026).store.openIndex[correlationKeyOf event]? = none := rfl
      exact absurd (hnone.symm.trans h.active) (by simp)
    · have hevent : sampleEvent "acme" "d0" .ended 1 = event :=
        Call.ingestDetectionEvent.inj h.call
      exact h.live (hevent ▸ rfl)
    · exact absurd h.call (by simp [stepOf, Machine.stepAt, confirmRequest])
  obtain ⟨haborts, hnever⟩ := recovery_aborted_iff {} {} 2026 (attackEnds ++ [confirmRequest])
  exact ⟨fun st hst => (haborts st hst).mpr (quiet st hst), hnever quiet, ⟨_, rfl⟩,
    by decide +kernel⟩

/-- An incident recovers, and its attack goes on under a new detection. -/
def attackGoesOn : List Request :=
  attackEnds ++ [sampleIngest 20 2 "d1" .started 0]

/-- The recovery of an attack that goes on is confirmed all the same. -/
theorem recovered_away : ∃ requests,
    (∃ st ∈ service.trace (new {} {} 2026) requests, ¬ AbortsRecovery st) ∧
    ¬ NeverRecoveredAway (service.trace (new {} {} 2026) requests) := by
  have live : LinksLive (sampleId 0)
      (stepOf (attackGoesOn.take 2) (sampleIngest 20 2 "d1" .started 0)) :=
    ⟨_, rfl, by decide, by decide +kernel⟩
  refine ⟨attackGoesOn ++ [confirmRequest],
    ⟨stepOf (attackGoesOn.take 2) (sampleIngest 20 2 "d1" .started 0), ?_, ?_⟩, ?_⟩
  · exact List.mem_of_getElem? (i := 2) rfl
  · intro law
    have hbefore : (service.run (new {} {} 2026) (attackGoesOn.take 2)).store.incidents[
        sampleId 0]?.map (fun i => (i.state, i.stateBeforeRecovering)) =
        some (.recovering, some .open_) := by decide +kernel
    obtain ⟨i, found, hi⟩ := Option.map_eq_some_iff.mp hbefore
    have hback := law (sampleId 0) i .open_ live found (congrArg Prod.fst hi)
      (congrArg Prod.snd hi)
    exact absurd hback (by decide +kernel)
  · intro h
    refine h (sampleId 0) [stepOf [] (sampleIngest 0 0 "d0" .started 0)]
      (stepOf (attackGoesOn.take 1) (sampleIngest 10 1 "d0" .ended 1))
      [stepOf (attackGoesOn.take 2) (sampleIngest 20 2 "d1" .started 0)]
      (stepOf attackGoesOn confirmRequest) [] rfl ⟨by decide +kernel, by decide +kernel⟩ ?_
      ⟨⟨_, rfl⟩, by decide +kernel⟩ _ (by simp) live
    intro st hst
    rw [List.mem_singleton.mp hst]
    rintro ⟨hbefore, -⟩
    exact absurd hbefore (by decide +kernel)

end Tidegard.Incident.Proofs.Recovery
