import Tidegard.Incident.Proofs.Idempotency

namespace Tidegard.Incident.Proofs.Failures

open Common Fallible Actions Actions.Action Detector.Event Basics Time Record Store Commits
open UnitOfWork Changes Writes Calls Idempotency

/-- Nothing is written but, at most, one denied audit entry and the record of the call's own
key. -/
structure Intact (auth : AuthorizationContext) (key : Option IdempotencyKey)
    (u v : IncidentUnitOfWork) : Prop where
  incidents : v.store.incidents = u.store.incidents
  openIndex : v.store.openIndex = u.store.openIndex
  dedupSeen : v.store.dedupSeen = u.store.dedupSeen
  timeline : v.store.timeline = u.store.timeline
  outbox : v.store.outbox = u.store.outbox
  audit : v.store.audit = u.store.audit ∨
    ∃ entry, entry.outcome = .denied ∧ v.store.audit = u.store.audit ++ [entry]
  idempotency : ∀ tenant k, recordAt v tenant k ≠ recordAt u tenant k →
    tenant = auth.tenant ∧ key = some k

def keyOf (call : Call) : Option IdempotencyKey := (submission call).bind (·.key)

/-- If the step fails, it leaves the service intact. -/
def FailsIntact (st : ServiceStep) : Prop :=
  ∀ e, st.output = .error e → Intact st.input.auth (keyOf st.input.call) st.before st.after

/-- A link to the incident succeeds: the clock is in range and the version is not used up. -/
def Linkable (env : Env) (u : IncidentUnitOfWork) (id : IncidentId) (reading : Nat) : Prop :=
  (∃ now, DurableTimestamp.fromSystemTime (env.wall reading) = .ok now) ∧
    ∃ i, u.store.incidents[id]? = some i ∧ i.version < u64Max

/-- So does a reopening: the key is vacant, and the count of reopenings is not used up either. -/
def Reopenable (env : Env) (u : IncidentUnitOfWork) (id : IncidentId) (reading : Nat) : Prop :=
  (∃ now, DurableTimestamp.fromSystemTime (env.wall reading) = .ok now) ∧
    ∃ i, u.store.incidents[id]? = some i ∧ u.store.openIndex[i.correlationKey]? = none ∧
      (i.state = .resolved ∨ i.state = .closed) ∧ i.reopenCount < u32Max ∧ i.version < u64Max

/-- Whatever the event is to be attached to takes it. -/
structure Attaches (env : Env) (event : DetectionEvent) (u : IncidentUnitOfWork) : Prop where
  active : ∀ id, u.store.openIndex[correlationKeyOf event]? = some id → Linkable env u id 0
  late : ∀ candidate, u.store.openIndex[correlationKeyOf event]? = none →
    u.store.reopenCandidate env.rank (correlationKeyOf event) event.target.tenant =
      some candidate →
    (decide (event.kind = .ended) || alreadyHeld candidate event) = true →
    Linkable env u candidate.incidentId 0
  recurs : ∀ candidate now, u.store.openIndex[correlationKeyOf event]? = none →
    u.store.reopenCandidate env.rank (correlationKeyOf event) event.target.tenant =
      some candidate →
    (decide (event.kind = .ended) || alreadyHeld candidate event) = false →
    DurableTimestamp.fromSystemTime (env.wall 0) = .ok now →
    Transition.evaluateReopen candidate u.reopenPolicy now = .ok true →
    Reopenable env u candidate.incidentId 1

/-- An event that passes the gates is taken by what it is to be attached to. -/
def Taken (u : IncidentUnitOfWork) (request : Request) : Prop :=
  ∀ event, request.call = .ingestDetectionEvent event → Admitted request.auth event u →
    Attaches request.env event u

section Actions

variable {α : Type}
variable {id : IncidentId}

theorem Intact.refl (auth : AuthorizationContext) (key : Option IdempotencyKey)
    (u : IncidentUnitOfWork) : Intact auth key u u :=
  ⟨rfl, rfl, rfl, rfl, rfl, Or.inl rfl, fun _ _ h => absurd rfl h⟩

theorem intact_denied (permission : Permission) (resource : AttemptedResource) (reason : String) :
    Intact auth key u (u.appendAudit (AuditEntry.denied auth permission resource reason)) :=
  ⟨rfl, rfl, rfl, rfl, rfl, Or.inr ⟨_, rfl, rfl⟩, fun _ _ h => absurd rfl h⟩

/-- An end that is a failure leaves the service intact. -/
def IntactOnError (auth : AuthorizationContext) (key : Option IdempotencyKey)
    (u : IncidentUnitOfWork) (o : Except IncidentError α) (t : Session) : Prop :=
  ∀ e, o = .error e → Intact auth key u t.uow

theorem intact_refuses : Refuses (α := α) u m (IntactOnError auth key u) :=
  fun _ _ _ _ _ => .refl auth key u

theorem intact_denies : Denies (α := α) auth u m (IntactOnError auth key u) :=
  fun permission resource reason _ _ _ _ => intact_denied permission resource reason

theorem Written.intact (h : Written env auth id D u m (.error e : Except IncidentError α) t) :
    Intact auth key u t.uow := by
  cases h with
  | refused => exact .refl auth key u
  | denied permission resource reason => exact intact_denied permission resource reason

theorem Created.intact (h : Created env auth seen u m (.error e) t) : Intact auth key u t.uow := by
  cases h with
  | refused => exact .refl auth key u

theorem Intact.remembered (h : Intact auth none u v) (fingerprint : RequestFingerprint)
    (outcome : Option StoredOutcome) :
    Intact auth key u (remembered v auth.tenant key fingerprint outcome) := by
  have hown : ∀ tenant k, recordAt (UnitOfWork.remembered v auth.tenant key fingerprint outcome)
      tenant k ≠ recordAt u tenant k → tenant = auth.tenant ∧ key = some k := by
    intro tenant k changed
    rcases recordAt_remembered (u := v) auth rfl with same | ⟨own, keyed, -⟩
    · rw [same] at changed
      cases (h.idempotency tenant k changed).2
    · exact ⟨own, keyed⟩
  obtain ⟨incidents, openIndex, dedupSeen, timeline, outbox, audit, -⟩ := h
  unfold UnitOfWork.remembered at hown ⊢
  split at hown <;> exact ⟨incidents, openIndex, dedupSeen, timeline, outbox, audit, hown⟩

theorem Retried.intact (h : Retried auth key fingerprint mutated replay Ran u m o t)
    (ran : ∀ e t, Ran (.error e) t → Intact auth none u t.uow) : IntactOnError auth key u o t := by
  intro e he
  cases h with
  | refused => exact .refl auth key u
  | denied permission resource reason => exact intact_denied permission resource reason
  | replayed => cases he
  | executed o t new hran =>
    subst he
    exact (ran e t hran).remembered fingerprint _

theorem writesOnce_intact (h : WritesOnce auth id D x) :
    x.Ends env ⟨u, 0⟩ (IntactOnError auth key u) := by
  apply (h env u 0 ⟨u, 0⟩ ⟨rfl, le_rfl⟩).mono
  rintro o t written e rfl
  exact Written.intact written

theorem recordExport_intact :
    (recordExport auth id).Ends env ⟨u, 0⟩ (IntactOnError auth key u) := by
  apply intact_denies.after_check .start
  intro granted
  apply intact_refuses.after_findOwned .start
  intro i found owned e he
  cases he

theorem recordNotificationResult_intact :
    (recordNotificationResult auth id channel eventType outcome).Ends env ⟨u, 0⟩
      (IntactOnError auth key u) := by
  apply intact_denies.after_check .start
  intro granted
  apply intact_refuses.after_ofExcept .start
  intro _ _
  apply intact_refuses.after_findOwned .start
  intro i found owned e he
  cases he

end Actions

section Attachments

variable {event : DetectionEvent}
variable {id : IncidentId}

theorem linkEvent_succeeds_iff :
    (∃ a, (linkEvent auth id event late env ⟨marked event u id, m⟩).1 = .ok a) ↔
      Linkable env u id m := by
  constructor
  · rintro ⟨a, ha⟩
    obtain ⟨now, i, c, reading, found, decided, -⟩ := linkEvent_ok.mp (Prod.ext ha rfl)
    exact ⟨⟨now, reading⟩, i, found, linkEvent_decided.mp ⟨c, decided⟩⟩
  · rintro ⟨⟨now, reading⟩, i, found, version⟩
    obtain ⟨c, decided⟩ : ∃ c, Commit.linkEvent event late now i = .ok c :=
      linkEvent_decided.mpr version
    have linked : linkEvent auth id event late env ⟨marked event u id, m⟩ = _ :=
      linkEvent_ok.mpr ⟨now, i, c, reading, found, decided, rfl, rfl⟩
    exact ⟨_, congrArg Prod.fst linked⟩

theorem reopenIncidentInternal_decided :
    (∃ c, Commit.reopenIncidentInternal active event cause now i = .ok c) ↔
      active = none ∧ (i.state = .resolved ∨ i.state = .closed) ∧ i.reopenCount < u32Max ∧
        i.version < u64Max := by
  simp only [Commit.reopenIncidentInternal, bind_eq_ok, pure_eq_ok, nextVersion_ok,
    nextReopenCount_ok, require_ok, noneActive_ok, Bool.or_eq_true, decide_eq_true_eq]
  constructor
  · rintro ⟨c, -, vacant, -, state, n, ⟨count, -⟩, v, ⟨version, -⟩, -⟩
    exact ⟨vacant, state, count, version⟩
  · rintro ⟨vacant, state, count, version⟩
    exact ⟨_, (), vacant, (), state, _, ⟨count, rfl⟩, _, ⟨version, rfl⟩, rfl⟩

theorem reopenIncidentInternal_succeeds_iff :
    (∃ a, (reopenIncidentInternal auth id event cause env ⟨marked event u id, m⟩).1 = .ok a) ↔
      Reopenable env u id m := by
  constructor
  · rintro ⟨a, ha⟩
    have h : reopenIncidentInternal auth id event cause env ⟨marked event u id, m⟩ = (.ok a, _) :=
      Prod.ext ha rfl
    simp only [reopenIncidentInternal, bind_ok, decisionTime_eq, find_ok] at h
    obtain ⟨now, s, ⟨reading, rfl⟩, i, s', ⟨found, rfl⟩, active, s'', hactive, c, s3, hc, -⟩ := h
    obtain ⟨indexed, rfl⟩ := look_eq.mp hactive
    obtain ⟨decided, -⟩ := commit_ok.mp hc
    obtain ⟨vacant, state, count, version⟩ := reopenIncidentInternal_decided.mp ⟨c, decided⟩
    subst vacant
    exact ⟨⟨now, reading⟩, i, found, Except.ok.inj indexed, state, count, version⟩
  · rintro ⟨⟨now, reading⟩, i, found, vacant, state, count, version⟩
    obtain ⟨c, decided⟩ : ∃ c, Commit.reopenIncidentInternal none event cause now i = .ok c :=
      reopenIncidentInternal_decided.mpr ⟨rfl, state, count, version⟩
    have htime : decisionTime env ⟨marked event u id, m⟩ = (.ok now, ⟨marked event u id, m + 1⟩) :=
      decisionTime_eq.mpr ⟨reading, rfl⟩
    have hfind : find id env ⟨marked event u id, m + 1⟩ = (.ok i, ⟨marked event u id, m + 1⟩) :=
      find_ok.mpr ⟨found, rfl⟩
    have hactive : openIndexGet i.correlationKey env ⟨marked event u id, m + 1⟩ =
        (.ok none, ⟨marked event u id, m + 1⟩) := look_eq.mpr ⟨congrArg Except.ok vacant, rfl⟩
    refine ⟨⟨.reopened, some id⟩, ?_⟩
    unfold reopenIncidentInternal
    rw [bind_of_ok htime, bind_of_ok hfind, bind_of_ok hactive,
      bind_of_ok (commit_ok.mpr ⟨decided, rfl⟩)]
    rfl

/-- A failed attachment has recorded the key. -/
def Marks {α : Type} (event : DetectionEvent) (o : Except IncidentError α) (t : Session) : Prop :=
  (∃ e, o = .error e) ∧ t.uow.store.dedupSeen[toLex (event.target.tenant, event.dedupKey)]? ≠ none

theorem marks_of_written (h : Written env auth id D (marked event u id) m o t)
    (failed : ¬ ∃ a, o = .ok a) : Marks event o t := by
  constructor
  · cases o with
    | error e => exact ⟨e, rfl⟩
    | ok a => exact absurd ⟨a, rfl⟩ failed
  · rw [Written.dedupSeen h]
    simp [marked, IncidentUnitOfWork.dedupRecord]

theorem ingestOpen_marks (failed : ¬ Linkable env u id 0) :
    (ingestOpen auth event.target.tenant event id).Ends env ⟨u, 0⟩ (Marks event) := by
  apply ends_dedupRecord
  have ran := linkEvent_writes auth id event false env _ 0 ⟨marked event u id, 0⟩ ⟨rfl, le_rfl⟩
  have marks := marks_of_written ran (mt linkEvent_succeeds_iff.mp failed)
  apply Ends.bind
  · intro a t h
    rw [linkEventToOpenIncident] at h
    obtain ⟨⟨e, he⟩, -⟩ := marks
    rw [h] at he
    cases he
  · intro e t h
    rw [linkEventToOpenIncident] at h
    rwa [h] at marks

theorem correlate_candidate (vacant : u.store.openIndex[correlationKeyOf event]? = none)
    (found : u.store.reopenCandidate env.rank (correlationKeyOf event) event.target.tenant =
      some candidate) :
    correlate auth event.target.tenant (correlationKeyOf event) event env ⟨u, m⟩ =
      ingestCandidate auth event.target.tenant (correlationKeyOf event) event candidate env
        ⟨u, m⟩ := by
  have hactive : openIndexGet (correlationKeyOf event) env ⟨u, m⟩ = (.ok none, ⟨u, m⟩) :=
    look_eq.mpr ⟨congrArg Except.ok vacant, rfl⟩
  have hcandidate : reopenCandidate (correlationKeyOf event) event.target.tenant env ⟨u, m⟩ =
      (.ok (some candidate), ⟨u, m⟩) := look_eq.mpr ⟨congrArg Except.ok found, rfl⟩
  unfold correlate
  rw [bind_of_ok hactive]
  dsimp only
  rw [bind_of_ok hcandidate]

theorem ingestCandidate_marks_late
    (late : (decide (event.kind = .ended) || alreadyHeld candidate event) = true)
    (failed : ¬ Linkable env u candidate.incidentId 0) :
    (ingestCandidate auth event.target.tenant (correlationKeyOf event) event candidate).Ends env
      ⟨u, 0⟩ (Marks event) := by
  unfold ingestCandidate
  rw [if_pos late]
  apply ends_dedupRecord
  exact marks_of_written
    (linkEvent_writes auth _ event true env _ 0 ⟨marked event u candidate.incidentId, 0⟩
      ⟨rfl, le_rfl⟩) (mt linkEvent_succeeds_iff.mp failed)

theorem ingestCandidate_marks_recurring
    (new : (decide (event.kind = .ended) || alreadyHeld candidate event) = false)
    (reading : DurableTimestamp.fromSystemTime (env.wall 0) = .ok now)
    (recurs : Transition.evaluateReopen candidate u.reopenPolicy now = .ok true)
    (failed : ¬ Reopenable env u candidate.incidentId 1) :
    (ingestCandidate auth event.target.tenant (correlationKeyOf event) event candidate).Ends env
      ⟨u, 0⟩ (Marks event) := by
  have htime : decisionTime env ⟨u, 0⟩ = (.ok now, ⟨u, 1⟩) := decisionTime_eq.mpr ⟨reading, rfl⟩
  have hpolicy : look (fun _ u => .ok u.reopenPolicy) env ⟨u, 1⟩ = (.ok u.reopenPolicy, ⟨u, 1⟩) :=
    rfl
  have hrecurs : Action.ofExcept (Transition.evaluateReopen candidate u.reopenPolicy now) env
      (⟨u, 1⟩ : Session) = (.ok true, ⟨u, 1⟩) := ofExcept_eq.mpr ⟨recurs, rfl⟩
  unfold ingestCandidate Ends
  rw [if_neg (by rw [new]; decide), bind_of_ok htime, bind_of_ok hpolicy, bind_of_ok hrecurs,
    if_pos rfl]
  exact ends_dedupRecord (s := ⟨u, 1⟩) (Q := Marks event) (marks_of_written
    (reopenIncidentInternal_writes auth _ event .reopenedByRecurrence env _ 1
      ⟨marked event u candidate.incidentId, 1⟩ ⟨rfl, le_rfl⟩)
    (mt reopenIncidentInternal_succeeds_iff.mp failed))

theorem correlate_marks (failed : ¬ Attaches env event u) :
    (correlate auth event.target.tenant (correlationKeyOf event) event).Ends env ⟨u, 0⟩
      (Marks event) := by
  cases hactive : u.store.openIndex[correlationKeyOf event]? with
  | some id =>
    have unlinkable : ¬ Linkable env u id 0 := by
      intro linkable
      apply failed
      constructor <;> simp_all
    unfold Ends
    rw [correlate_open hactive]
    exact ingestOpen_marks unlinkable
  | none =>
    cases hcandidate :
      u.store.reopenCandidate env.rank (correlationKeyOf event) event.target.tenant with
    | none =>
      refine absurd ?_ failed
      constructor <;> simp_all
    | some candidate =>
      unfold Ends
      rw [correlate_candidate hactive hcandidate]
      cases late : decide (event.kind = .ended) || alreadyHeld candidate event with
      | true =>
        apply ingestCandidate_marks_late late
        intro linkable
        apply failed
        refine ⟨by simp_all, ?_, ?_⟩
        · intro candidate' _ hcandidate' _
          obtain rfl := Option.some.inj (hcandidate.symm.trans hcandidate')
          exact linkable
        · intro candidate' now _ hcandidate' new
          obtain rfl := Option.some.inj (hcandidate.symm.trans hcandidate')
          rw [late] at new
          cases new
      | false =>
        -- the reading, the recurrence and the failure are those of some instant
        by_contra hmarks
        apply failed
        refine ⟨by simp_all, by simp_all, ?_⟩
        intro candidate' now _ hcandidate' new reading recurs
        obtain rfl : candidate = candidate' := Option.some.inj (hcandidate.symm.trans hcandidate')
        by_contra unopenable
        exact hmarks (ingestCandidate_marks_recurring late reading recurs unopenable)

theorem correlate_intact (own : event.target.tenant = auth.tenant)
    (attaches : Attaches env event u) :
    (correlate auth event.target.tenant (correlationKeyOf event) event).Ends env ⟨u, 0⟩
      (IntactOnError auth none u) := by
  have created : ∀ s, Begun u 0 s →
      (ingestNew auth event.target.tenant (correlationKeyOf event) event).Ends env s
        (IntactOnError auth none u) := by
    intro s begun
    unfold ingestNew
    split
    · rintro e ⟨⟩
    · have ran := createIncidentInternal_ends env own begun
      unfold Ends at ran
      apply Ends.bind
      · rintro id t h e ⟨⟩
      · rintro e t h _ ⟨⟩
        rw [h] at ran
        exact Created.intact ran
  apply intact_refuses.after_lookup .start
  intro active hactive
  split
  case h_1 id =>
    obtain ⟨a, ha⟩ := linkEvent_succeeds_iff.mpr (attaches.active id (Except.ok.inj hactive))
    intro e he
    rw [ingestOpen_answer, ha] at he
    cases he
  case h_2 =>
    have vacant := Except.ok.inj hactive
    apply intact_refuses.after_lookup .start
    intro candidate hcandidate
    split
    case h_2 => exact created _ .start
    case h_1 candidate =>
      have hfound := Except.ok.inj hcandidate
      unfold ingestCandidate
      split
      case isTrue late =>
        obtain ⟨a, ha⟩ :=
          linkEvent_succeeds_iff.mpr (attaches.late candidate vacant hfound late)
        apply ends_dedupRecord
        intro e he
        rw [ha] at he
        cases he
      case isFalse new =>
        apply intact_refuses.after_look looks_decisionTime .start
        intro now t h begun
        obtain ⟨reading, rfl⟩ := decisionTime_eq.mp h
        apply intact_refuses.after_lookup begun
        rintro _ ⟨⟩
        apply intact_refuses.after_ofExcept begun
        intro recurs hrecurs
        split
        case isTrue yes =>
          subst yes
          obtain ⟨a, ha⟩ := reopenIncidentInternal_succeeds_iff.mpr
            (attaches.recurs candidate now vacant hfound (Bool.eq_false_of_not_eq_true new) reading
              hrecurs)
          apply ends_dedupRecord
          intro e he
          rw [ha] at he
          cases he
        case isFalse => exact created _ begun

end Attachments

section Steps

variable {event : DetectionEvent}

theorem ingestDetectionEvent_intact (taken : Admitted auth event u → Attaches env event u) :
    (ingestDetectionEvent auth event).Ends env ⟨u, 0⟩ (IntactOnError auth none u) := by
  by_cases admitted : Admitted auth event u
  · unfold Ends
    rw [ingestDetectionEvent_admitted admitted]
    exact correlate_intact admitted.own (taken admitted)
  · have ends : (ingestDetectionEvent auth event).Ends env ⟨u, 0⟩ _ := ingestDetectionEvent_ends
    apply ends.mono
    intro o t ended e he
    cases ended with
    | refused => exact .refl auth none u
    | denied permission resource reason => exact intact_denied permission resource reason
    | turned => cases he
    | correlated o t hadmitted ran => exact absurd hadmitted admitted

theorem step_intact (taken : Taken u request) : FailsIntact (service.stepAt u request) := by
  obtain ⟨env, auth, call⟩ := request
  intro e he
  change (perform auth call env ⟨u, 0⟩).1 = .error e at he
  change Intact auth (keyOf call) u (perform auth call env ⟨u, 0⟩).2.uow
  cases call with simp only [perform, bind_pure_apply] at he ⊢
  | ingestDetectionEvent event =>
    exact ingestDetectionEvent_intact (taken event rfl) e (error_of_map he)
  | createManualIncident request key =>
    have ends := createManualIncident_ends env auth key request (u := u) (s := ⟨u, 0⟩)
      ⟨rfl, le_rfl⟩
    exact Retried.intact ends (fun _ _ => Created.intact) e (error_of_map he)
  | handleCommand id command key =>
    have ends := handleCommand_ends env auth key id command (u := u) (s := ⟨u, 0⟩) ⟨rfl, le_rfl⟩
    refine Retried.intact ends ?_ e (error_of_map he)
    rintro e t ⟨i, result, -, -, -, ran, answer⟩
    cases result with
    | ok c => cases answer
    | error e' => exact Written.intact ran
  | recordExport => exact recordExport_intact e (error_of_map he)
  | recordNotificationResult => exact recordNotificationResult_intact e (error_of_map he)
  | enterRecovering id reason =>
    exact writesOnce_intact (enterRecovering_writes auth id reason) e (error_of_map he)
  | enterRecoveringIfSilent id silentAfter =>
    exact writesOnce_intact (enterRecoveringIfSilent_writes auth id silentAfter) e
      (error_of_map he)
  | confirmRecoveryIfDue id confirmation =>
    exact writesOnce_intact (confirmRecoveryIfDue_writes auth id confirmation) e
      (error_of_map he)
  | abortRecovery id => exact writesOnce_intact (abortRecovery_writes auth id) e (error_of_map he)
  | attemptAutomaticClosure id =>
    exact writesOnce_intact (attemptAutomaticClosure_writes auth id) e (error_of_map he)

theorem step_marks (admitted : Admitted auth event u) (failed : ¬ Attaches env event u) :
    ¬ FailsIntact (service.stepAt u ⟨env, auth, .ingestDetectionEvent event⟩) := by
  have marks : Marks event (ingestDetectionEvent auth event env ⟨u, 0⟩).1
      (ingestDetectionEvent auth event env ⟨u, 0⟩).2 := by
    rw [ingestDetectionEvent_admitted admitted]
    exact correlate_marks failed
  obtain ⟨⟨e, he⟩, recorded⟩ := marks
  intro intact
  have hintact := intact e (by rw [service.stepAt_output, step_ingest rfl, he]; rfl)
  apply recorded
  have hsame : (ingestDetectionEvent auth event env ⟨u, 0⟩).2.uow.store.dedupSeen =
      u.store.dedupSeen := by
    have h := hintact.dedupSeen
    rw [service.stepAt_after, step_ingest rfl] at h
    exact h
  rw [hsame]
  exact admitted.fresh

end Steps

/-- In every run, a call that fails leaves the incidents, the open index, the deduplication
records, the timeline and the outbox as they were, adds at most one denied audit entry and changes
at most its own idempotency record, exactly when an event it ingests past the gates is taken by
what it is to be attached to. -/
theorem failures_intact_iff (closurePolicy : ClosurePolicy) (reopenPolicy : ReopenPolicy)
    (year : Nat) (requests : List Request) :
    ∀ st ∈ service.trace (new closurePolicy reopenPolicy year) requests,
      FailsIntact st ↔ Taken st.before st.input := by
  intro st hst
  obtain ⟨past, request, rest, -, rfl⟩ := service.mem_trace.mp hst
  constructor
  · intro intact event hcall admitted
    by_contra failed
    obtain ⟨env, auth, call⟩ := request
    obtain rfl : call = .ingestDetectionEvent event := hcall
    exact step_marks admitted failed intact
  · exact step_intact

/-- A command that expects another version fails, and leaves the incident and all else as it was. -/
theorem failures_intact_iff_conflict :
    let u := service.run (new {} {} 2026) [sampleIngest 0 0 "d0" .started 0]
    let st := service.stepAt u (sampleCommand 1 1 (sampleId 0) (.resolveIncident 7 none))
    st.output = .error (.versionConflict 7 1 .open_) ∧ FailsIntact st := by
  refine ⟨by decide +kernel, (failures_intact_iff {} {} 2026 [sampleIngest 0 0 "d0" .started 0,
    sampleCommand 1 1 (sampleId 0) (.resolveIncident 7 none)] _
    (service.mem_trace.mpr ⟨[_], _, [], rfl, rfl⟩)).mpr ?_⟩
  intro _ hcall
  cases hcall

/-- The clock is past the last microsecond an `i64` holds when the second event comes. -/
def clockOutOfRange : List Request :=
  [sampleIngest 0 0 "d0" .started 0, sampleIngest 9223372036855 1 "d0" .updated 1]

theorem failure_marks_event : ∃ st ∈ service.trace (new {} {} 2026) clockOutOfRange,
    ¬ FailsIntact st := by
  refine ⟨service.stepAt (service.run (new {} {} 2026) [sampleIngest 0 0 "d0" .started 0])
    (sampleIngest 9223372036855 1 "d0" .updated 1), service.mem_trace.mpr ⟨_, _, [], rfl, rfl⟩, ?_⟩
  have failed : (service.stepAt (service.run (new {} {} 2026) [sampleIngest 0 0 "d0" .started 0])
      (sampleIngest 9223372036855 1 "d0" .updated 1)).output =
        .error (.validationError "timestamp is out of range") := by decide +kernel
  intro intact
  have same := (intact _ failed).dedupSeen
  have recorded : (service.stepAt
      (service.run (new {} {} 2026) [sampleIngest 0 0 "d0" .started 0])
      (sampleIngest 9223372036855 1 "d0" .updated 1)).after.store.dedupSeen.size = 2 := by
    decide +kernel
  rw [same] at recorded
  revert recorded
  decide +kernel

end Tidegard.Incident.Proofs.Failures
