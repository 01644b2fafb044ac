import Tidegard.Incident.Proofs.Calls

namespace Tidegard.Incident.Proofs.Idempotency

open Tables Runs Fallible Actions Actions.Action Detector.Event Basics Time Record Store Commits
open UnitOfWork Writes Calls

/-- A request that may carry a key: what it asks for, and the permission it requires. -/
structure Submission where
  key : Option IdempotencyKey
  fingerprint : RequestFingerprint
  permission : Permission

def submission : Call → Option Submission
  | .createManualIncident request key => some ⟨key, .manual request, .incidentCreate⟩
  | .handleCommand id command key => some ⟨key, .command id command, command.requiredPermission⟩
  | _ => none

/-- The request is made by the tenant and carries the key. -/
structure Bears (tenant : TenantId) (key : IdempotencyKey) (sub : Submission)
    (request : Request) : Prop where
  own : request.auth.tenant = tenant
  submitted : submission request.call = some sub
  keyed : sub.key = some key

/-- The caller holds the required permission and, for a command, names an incident of its own
tenant. -/
structure Permitted (u : IncidentUnitOfWork) (auth : AuthorizationContext)
    (sub : Submission) : Prop where
  granted : auth.has sub.permission = true
  named : ∀ id command, sub.fingerprint = .command id command →
    ∃ i, u.store.incidents[id]? = some i ∧ i.tenantId = auth.tenant

def recordAt (u : IncidentUnitOfWork) (tenant : TenantId) (key : IdempotencyKey) :
    Option IdempotencyRecord := u.store.idempotency[toLex (tenant, key)]?

/-- How a recorded outcome answers a request. -/
def answered (fingerprint : RequestFingerprint) : StoredOutcome → Except IncidentError Answer
  | .failed e => .error e
  | .mutated id version =>
    match fingerprint with
    | .command _ _ => .ok (.version version)
    | .manual _ => .ok (.created id)

/-- The id a recorded creation answers with. -/
def replayedId : StoredOutcome → Except IncidentError IncidentId
  | .mutated id _ => .ok id
  | .failed e => .error e

/-- The version a recorded command answers with. -/
def replayedVersion : StoredOutcome → Except IncidentError Nat
  | .mutated _ version => .ok version
  | .failed e => .error e

def ChangesIncident (st : ServiceStep) : Prop :=
  st.after.store.incidents ≠ st.before.store.incidents

/-- The step makes the record. -/
def Records (tenant : TenantId) (key : IdempotencyKey) (record : IdempotencyRecord)
    (st : ServiceStep) : Prop :=
  recordAt st.before tenant key = none ∧ recordAt st.after tenant key = some record

/-- The generator of ids and the allocator of numbers refuse only for want of room. -/
structure RefusesForCapacity (env : Env) : Prop where
  generate : ∀ e, env.generate = .error e → ∃ what, e = .capacityExceeded what
  allocate : ∀ tenant year e, env.allocate tenant year = .error e →
    ∃ what, e = .capacityExceeded what

/-- The ends that leave no record: an internal failure, another version than expected, no such
incident, or the required permission missing. -/
inductive Unrecorded (sub : Submission) (st : ServiceStep) : Prop
  | internal (detail : String) (ended : st.output = .error (.internalInvariantViolation detail))
  | version (expected current : Nat) (state : IncidentState)
      (ended : st.output = .error (.versionConflict expected current state))
  | absent (ended : st.output = .error .notFound)
  | forbidden (missing : st.input.auth.has sub.permission = false)

section Untouched

variable {env : Env} {auth : AuthorizationContext} {u : IncidentUnitOfWork} {m : Nat} {t : Session}
variable {α : Type} {id : IncidentId}
variable {e : IncidentError} {seen : DetectionEvent → Prop}
variable {event : DetectionEvent} {o : Except IncidentError IngestResult}

theorem Written.idempotency {o : Except IncidentError α} (h : Written env auth id D u m o t) :
    t.uow.store.idempotency = u.store.idempotency := by
  cases h with
  | wrote a c => exact commit_idempotency u auth id c
  | idle => rfl
  | refused => rfl
  | denied => rfl

theorem Written.incidents_of_error
    (h : Written env auth id D u m (.error e : Except IncidentError α) t) :
    t.uow.store.incidents = u.store.incidents := by
  cases h with
  | refused => rfl
  | denied => rfl

theorem Created.idempotency {o : Except IncidentError IncidentId}
    (h : Created env auth seen u m o t) : t.uow.store.idempotency = u.store.idempotency := by
  cases h with
  | created id number now c =>
    exact commit_idempotency u auth id c
  | refused => rfl

theorem Created.incidents_of_error (h : Created env auth seen u m (.error e) t) :
    t.uow.store.incidents = u.store.incidents := by
  cases h with
  | refused => rfl

theorem Correlated.idempotency (h : Correlated env auth event u m o t) :
    t.uow.store.idempotency = u.store.idempotency := by
  cases h with
  | linked id o t active ran kept | late candidate o t vacant found late ran =>
    have linked := Written.idempotency ran
    exact linked
  | ended id t o t' active last ran recovers =>
    have linked := Written.idempotency ran
    exact (Written.idempotency recovers).trans linked
  | reopened candidate now o t vacant found new reading recurs ran =>
    have reopened := Written.idempotency ran
    exact reopened
  | created id t notEnded ran =>
    have opened := Created.idempotency ran
    exact opened
  | quarantined => rfl
  | refused => rfl

theorem Ingested.idempotency (h : Ingested env auth event u m o t) :
    t.uow.store.idempotency = u.store.idempotency := by
  cases h with
  | refused => rfl
  | denied => rfl
  | turned => rfl
  | correlated o t admitted ran => exact Correlated.idempotency ran

/-- Whatever ends with the records as they were. -/
def Untouched {α : Type} (u : IncidentUnitOfWork) (_ : Except IncidentError α)
    (t : Session) : Prop := t.uow.store.idempotency = u.store.idempotency

theorem untouched_refuses : Refuses (α := α) u m (Untouched u) := fun _ _ _ => rfl

theorem untouched_denies : Denies (α := α) auth u m (Untouched u) :=
  fun _ _ _ _ _ => rfl

theorem writesOnce_untouched (h : WritesOnce auth id D x) : x.Ends env ⟨u, 0⟩ (Untouched u) :=
  (h env u 0 ⟨u, 0⟩ ⟨rfl, le_rfl⟩).mono fun _ _ => Written.idempotency

theorem recordExport_untouched : (recordExport auth id).Ends env ⟨u, 0⟩ (Untouched u) := by
  apply untouched_denies.after_check .start
  intro granted
  apply untouched_refuses.after_findOwned .start
  intro i found owned
  exact rfl

theorem recordNotificationResult_untouched :
    (recordNotificationResult auth id channel eventType outcome).Ends env ⟨u, 0⟩
      (Untouched u) := by
  apply untouched_denies.after_check .start
  intro granted
  apply untouched_refuses.after_ofExcept .start
  intro _ _
  apply untouched_refuses.after_findOwned .start
  intro i found owned
  exact rfl

theorem perform_untouched (h : submission call = none) :
    (perform auth call env ⟨u, 0⟩).2.uow.store.idempotency = u.store.idempotency := by
  cases call with simp only [perform, bind_pure_apply]
  | createManualIncident => cases h
  | handleCommand => cases h
  | ingestDetectionEvent => exact Ingested.idempotency ingestDetectionEvent_ends
  | recordExport => exact recordExport_untouched
  | recordNotificationResult => exact recordNotificationResult_untouched
  | enterRecovering id reason => exact writesOnce_untouched (enterRecovering_writes auth id reason)
  | enterRecoveringIfSilent id silentAfter =>
    exact writesOnce_untouched (enterRecoveringIfSilent_writes auth id silentAfter)
  | confirmRecoveryIfDue id confirmation =>
    exact writesOnce_untouched (confirmRecoveryIfDue_writes auth id confirmation)
  | abortRecovery id => exact writesOnce_untouched (abortRecovery_writes auth id)
  | attemptAutomaticClosure id =>
    exact writesOnce_untouched (attemptAutomaticClosure_writes auth id)

end Untouched

section Retried

variable {α : Type} {auth : AuthorizationContext} {key : Option IdempotencyKey}
variable {u : IncidentUnitOfWork} {m : Nat} {o : Except IncidentError α} {t : Session}
variable {k : IdempotencyKey}

theorem recordAt_remembered (auth : AuthorizationContext)
    (untouched : v.store.idempotency = u.store.idempotency) :
    recordAt (remembered v auth.tenant key fingerprint outcome) tenant k = recordAt u tenant k ∨
      tenant = auth.tenant ∧ key = some k ∧ ∃ stored, outcome = some stored ∧
        recordAt (remembered v auth.tenant key fingerprint outcome) tenant k =
          some ⟨fingerprint, stored⟩ := by
  unfold remembered recordAt
  split
  case h_1 k' stored =>
    simp only [IncidentUnitOfWork.idempotencyRecord, untouched]
    by_cases same : toLex (auth.tenant, k') = toLex (tenant, k)
    · cases toLex_inj.mp same
      exact Or.inr ⟨rfl, rfl, stored, rfl, get_insert_self _ _ _⟩
    · exact Or.inl (get_insert_ne _ _ same)
  case h_2 => exact Or.inl (by rw [untouched])

theorem recordAt_of_new (new : u.store.checkIdempotency auth.tenant k fingerprint = .new) :
    recordAt u auth.tenant k = none := by
  unfold InMemoryIncidentStore.checkIdempotency at new
  unfold recordAt
  split at new
  case h_1 none => exact none
  case h_2 record stored => split at new <;> cases new

theorem Retried.leaves (h : Retried auth key fingerprint mutated replay Ran u m o t)
    (untouched : ∀ o t, Ran o t → t.uow.store.idempotency = u.store.idempotency)
    (tenant : TenantId) (k : IdempotencyKey) :
    recordAt t.uow tenant k = recordAt u tenant k ∨
      tenant = auth.tenant ∧ key = some k ∧ recordAt u tenant k = none ∧
        ∃ stored, storedOutcome mutated o = some stored ∧
          recordAt t.uow tenant k = some ⟨fingerprint, stored⟩ := by
  cases h with
  | refused | denied | replayed => exact Or.inl rfl
  | executed o t new ran =>
    rcases recordAt_remembered auth (untouched o t ran) with same | made
    · exact Or.inl same
    · obtain ⟨rfl, keyed, stored, hstored, made⟩ := made
      exact Or.inr ⟨rfl, keyed, recordAt_of_new (new k keyed), stored, hstored, made⟩

theorem Retried.changes (h : Retried auth key fingerprint mutated replay Ran u m o t)
    (failed : ∀ e t, Ran (.error e) t → t.uow.store.incidents = u.store.incidents)
    (keyed : key = some k) (changed : t.uow.store.incidents ≠ u.store.incidents) :
    recordAt u auth.tenant k = none ∧ recordAt t.uow auth.tenant k ≠ none := by
  cases h with
  | refused | denied | replayed => exact absurd rfl changed
  | executed o t new ran =>
    refine ⟨recordAt_of_new (new k keyed), ?_⟩
    subst keyed
    cases o with
    | ok a =>
      simp [recordAt, remembered, storedOutcome, IncidentUnitOfWork.idempotencyRecord]
    | error e =>
      refine absurd ?_ changed
      have kept := failed e t ran
      cases hs : storedOutcome mutated (.error e : Except IncidentError α) with
      | none | some stored => exact kept

end Retried

/-- The errors of a request that is carried out. -/
def Ordinary : IncidentError → Prop
  | .notFound => False
  | .versionConflict _ _ _ => False
  | _ => True

theorem fails_require (h : Ordinary e) : Fails Ordinary (Commit.require condition e) :=
  .ite (.ok _) (.error h)

theorem fails_noneActive (active : Option IncidentId) :
    Fails Ordinary (Commit.noneActive active) := by
  cases active with
  | none => exact .ok _
  | some id => exact .error trivial

theorem fails_nextVersion (i : Incident) : Fails Ordinary i.nextVersion :=
  .ite (.ok _) (.error trivial)

theorem fails_nextReopenCount (i : Incident) : Fails Ordinary i.nextReopenCount :=
  .ite (.ok _) (.error trivial)

theorem fails_noteAt (i : Incident) (noteIndex : Nat) :
    Fails Ordinary (Commit.noteAt i noteIndex) := by
  unfold Commit.noteAt
  split
  · exact .ok _
  · exact .error trivial

theorem fails_notReplaced (i : Incident) (noteIndex : Nat) :
    Fails Ordinary (Commit.notReplaced i noteIndex) := by
  unfold Commit.notReplaced
  split
  · exact .ok _
  · exact .error trivial

theorem fails_fromSystemTime (wall : Int) :
    Fails Ordinary (DurableTimestamp.fromSystemTime wall) :=
  .ite (.ite (.ok _) (.error trivial))
    (.ite (.error trivial) (.ite (.ok _) (.error trivial)))

theorem fails_suppressionDeadline (start : DurableTimestamp) (duration : Nat) :
    Fails Ordinary (suppressionDeadline start duration) := by
  unfold suppressionDeadline
  split
  · exact .ok _
  · exact .error trivial

theorem fails_validateNoteBody (body : String) : Fails Ordinary (validateNoteBody body) :=
  .ite (.error trivial) (.ok _)

theorem fails_validateReason (reason : String) : Fails Ordinary (validateReason reason) :=
  .ite (.error trivial) (.ok _)

theorem fails_validateRedactionReason (reason : String) :
    Fails Ordinary (validateRedactionReason reason) :=
  .ite (.error trivial) (.ite (.error trivial) (.ok _))

theorem fails_validate (request : ManualIncident) : Fails Ordinary request.validate :=
  .ite (.error trivial) (.ite (.error trivial) (.ite (.error trivial) (.ite (.error trivial)
    (.ite (.ok _) (.error trivial)))))

section Decisions

variable {auth : AuthorizationContext} {now : DurableTimestamp} {i : Incident}

theorem fails_recordEdit : Fails Ordinary
      (Commit.recordEdit auth now i edited payload permission reason changed outbox) :=
  (fails_nextVersion i).bind fun _ => .ok _

theorem fails_resolveInternal : Fails Ordinary (Commit.resolveInternal auth cause note now i) :=
  .bind (fails_require (by trivial)) fun _ => .bind (fails_require (by trivial)) fun _ =>
    (fails_nextVersion i).bind fun _ => .ok _

theorem fails_closeInternal : Fails Ordinary (Commit.closeInternal auth reason cause now i) :=
  .bind (fails_require (by trivial)) fun _ => (fails_nextVersion i).bind fun _ => .ok _

theorem fails_guardedOperatorTransition : Fails Ordinary
      (Commit.guardedOperatorTransition auth toState kind permission extra now i) :=
  .bind (fails_require (by trivial)) fun _ => .bind (fails_require (by trivial)) fun _ =>
    (fails_nextVersion i).bind fun _ => .ok _

theorem fails_operatorReopen : Fails Ordinary (Commit.operatorReopen auth active reason now i) :=
  .bind (fails_require (by trivial)) fun _ => (fails_noneActive active).bind fun _ =>
    (fails_nextReopenCount i).bind fun _ => (fails_nextVersion i).bind fun _ => .ok _

theorem fails_changeSeverity :
    Fails Ordinary (Commit.changeSeverity auth newSeverity reason now i) :=
  .bind (fails_require (by trivial)) fun _ => fails_recordEdit

theorem fails_addNote : Fails Ordinary (Commit.addNote auth body visibility now i) :=
  .bind (fails_require (by trivial)) fun _ => fails_recordEdit

theorem fails_editNote : Fails Ordinary (Commit.editNote auth noteIndex original body now i) :=
  .bind (fails_require (by trivial)) fun _ => (fails_notReplaced i noteIndex).bind fun _ =>
    .bind (fails_require (by trivial)) fun _ => fails_recordEdit

theorem fails_redactNote : Fails Ordinary (Commit.redactNote auth noteIndex reason now i) :=
  (fails_nextVersion i).bind fun _ => (fails_noteAt i noteIndex).bind fun _ =>
    .bind (fails_require (by trivial)) fun _ => .ok _

theorem fails_addTag : Fails Ordinary (Commit.addTag auth key value now i) :=
  .bind (fails_require (by trivial)) fun _ => fails_recordEdit

end Decisions

/-- The failures an action ends in are ordinary ones. -/
def Ordinarily {α : Type} (o : Except IncidentError α) (_ : Session) : Prop := Fails Ordinary o

section Ordinarily

variable {α β : Type} {env : Env} {auth : AuthorizationContext} {id : IncidentId} {i : Incident}
variable {s : Session}
variable {f : α → Uow β}

theorem ordinarily_after_ofExcept (hx : Fails Ordinary x)
    (hf : ∀ a, (f a).Ends env s Ordinarily) : (Action.ofExcept x >>= f).Ends env s Ordinarily := by
  apply Ends.bind
  · intro a t h
    obtain ⟨-, rfl⟩ := ofExcept_eq.mp h
    exact hf a
  · intro e t h
    exact .error (hx.admits e (ofExcept_eq.mp h).1)

theorem ordinarily_after_look (hx : Fails Ordinary (g env s.uow))
    (hf : ∀ a, (f a).Ends env s Ordinarily) : (look g >>= f).Ends env s Ordinarily := by
  apply Ends.bind
  · intro a t h
    obtain ⟨-, rfl⟩ := look_eq.mp h
    exact hf a
  · intro e t h
    exact .error (hx.admits e (look_eq.mp h).1)

theorem ordinarily_after_time {f : DurableTimestamp → Uow β}
    (hf : ∀ now n, (f now).Ends env ⟨s.uow, n⟩ Ordinarily) :
    (decisionTime >>= f).Ends env s Ordinarily := by
  apply Ends.bind
  · intro now t h
    obtain ⟨-, rfl⟩ := decisionTime_eq.mp h
    exact hf now _
  · intro e t h
    exact .error ((fails_fromSystemTime _).admits e (decisionTime_eq.mp h).1)

theorem ordinarily_after_find {f : Incident → Uow β} (found : s.uow.store.incidents[id]? = some i)
    (hf : (f i).Ends env s Ordinarily) : (find id >>= f).Ends env s Ordinarily := by
  have hfind : find id env s = (.ok i, s) := find_ok.mpr ⟨found, rfl⟩
  unfold Ends
  rw [bind_of_ok hfind]
  exact hf

theorem ordinarily_commit (h : Fails Ordinary decided) :
    (UnitOfWork.commit auth id decided).Ends env s Ordinarily := by
  cases decided with
  | error e => exact .error (h.admits e rfl)
  | ok c => exact .ok c

theorem ordinarily_change {decide : DurableTimestamp → Incident → Except IncidentError Commit}
    (found : s.uow.store.incidents[id]? = some i) (h : ∀ now, Fails Ordinary (decide now i)) :
    (change auth id decide).Ends env s Ordinarily := by
  apply ordinarily_after_time
  intro now n
  refine ordinarily_after_find found ?_
  exact ordinarily_commit (h now)

theorem applyCommand_ordinarily (command : Command)
    (found : s.uow.store.incidents[id]? = some i) :
    (applyCommand auth id command).Ends env s Ordinarily := by
  cases command with
  | acknowledgeIncident | beginInvestigation | markMonitoring =>
    exact ordinarily_change found fun now => fails_guardedOperatorTransition
  | resolveIncident =>
    exact ordinarily_change found fun now => fails_resolveInternal
  | closeIncident =>
    exact ordinarily_change found fun now => fails_closeInternal
  | reopenIncident _ reason =>
    apply ordinarily_after_time
    intro now n
    refine ordinarily_after_find found ?_
    apply ordinarily_after_look (.ok _)
    intro active
    exact ordinarily_commit fails_operatorReopen
  | suppressIncident _ reason duration =>
    apply ordinarily_after_ofExcept (fails_validateReason reason)
    intro _
    apply ordinarily_after_time
    intro now n
    apply ordinarily_after_time
    intro later n'
    apply ordinarily_after_ofExcept (fails_suppressionDeadline later duration)
    intro deadline
    refine ordinarily_after_find found ?_
    exact ordinarily_commit fails_recordEdit
  | unsuppressIncident | assignIncident | unassignIncident | changePriority | removeTag =>
    exact ordinarily_change found fun now => fails_recordEdit
  | changeSeverity =>
    exact ordinarily_change found fun now => fails_changeSeverity
  | addNote body visibility =>
    apply ordinarily_after_ofExcept (fails_require (by trivial))
    intro _
    apply ordinarily_after_ofExcept (fails_validateNoteBody body)
    intro _
    exact ordinarily_change found fun now => fails_addNote
  | editNote noteIndex body =>
    apply ordinarily_after_ofExcept (fails_validateNoteBody body)
    intro _
    apply ordinarily_after_time
    intro now n
    refine ordinarily_after_find found ?_
    apply ordinarily_after_ofExcept (fails_noteAt i noteIndex)
    intro original
    split
    · exact ordinarily_commit fails_editNote
    · exact .error trivial
  | redactNote noteIndex reason =>
    apply ordinarily_after_ofExcept (fails_validateRedactionReason reason)
    intro _
    exact ordinarily_change found fun now => fails_redactNote
  | addTag =>
    apply ordinarily_after_ofExcept (fails_require (by trivial))
    intro _
    exact ordinarily_change found fun now => fails_addTag

theorem openManualIncident_ordinarily (request : ManualIncident)
    (contract : RefusesForCapacity env) :
    (openManualIncident auth request).Ends env s Ordinarily := by
  apply ordinarily_after_ofExcept (fails_validate request)
  intro _
  apply ordinarily_after_look (.ok _)
  intro active
  split
  · exact .error trivial
  · apply ordinarily_after_time
    intro now n
    apply ordinarily_after_look
    · constructor
      intro e h
      obtain ⟨what, rfl⟩ := contract.generate e h
      trivial
    · intro id
      apply ordinarily_after_look
      · constructor
        intro e h
        obtain ⟨what, rfl⟩ := contract.allocate _ _ e h
        trivial
      · intro number
        exact .ok id

end Ordinarily

/-- The errors of which no record is made. -/
def Omitted : IncidentError → Prop
  | .notFound => True
  | .versionConflict _ _ _ => True
  | .internalInvariantViolation _ => True
  | _ => False

def Omits {α : Type} (u : IncidentUnitOfWork) (o : Except IncidentError α) (t : Session) : Prop :=
  ∀ e, o = .error e → Omitted e → t.uow.store.idempotency = u.store.idempotency

section Omits

variable {α β : Type} {env : Env} {auth : AuthorizationContext} {key : Option IdempotencyKey}
variable {u : IncidentUnitOfWork} {m : Nat} {s : Session}

theorem omits_refuses : Refuses (α := α) u m (Omits u) := fun _ _ _ _ _ _ => rfl

theorem omits_denies : Denies (α := α) auth u m (Omits u) := fun _ _ _ _ _ _ _ _ => rfl

theorem Omits.execute (answer : Except IncidentError β → Except IncidentError α)
    (untouched : x.Ends env s (Untouched u))
    (ordinary : x.Ends env s fun o _ => Fails Ordinary (answer o)) :
    (Action.attempt x >>= fun result =>
      remember auth key fingerprint (storedOutcome mutated (answer result)) >>= fun _ =>
        Action.ofExcept (answer result)).Ends env s (Omits u) := by
  intro e he omitted
  have hanswer : answer (x env s).1 = .error e := he
  have hordinary : Ordinary e := ordinary.admits e hanswer
  change (remembered (x env s).2.uow auth.tenant key fingerprint
    (storedOutcome mutated (answer (x env s).1))).store.idempotency = u.store.idempotency
  rw [hanswer]
  cases e with
  | internalInvariantViolation =>
    unfold remembered
    cases key <;> exact untouched
  | notFound | versionConflict => exact hordinary.elim
  | _ => exact omitted.elim

theorem handleCommand_omits (id : IncidentId) (command : Command) :
    (handleCommand auth id command key).Ends env ⟨u, 0⟩ (Omits u) := by
  apply omits_denies.after_check .start
  intro granted
  apply omits_refuses.after_findOwned .start
  intro i found owned
  apply omits_refuses.after_lookup .start
  intro earlier hearlier
  split
  · intro e he
    cases he
  · exact omits_refuses.throw .start _
  · apply omits_refuses.after_ofExcept .start
    intro _ current
    apply Omits.execute fun (result : Except IncidentError Commit) =>
      result.map fun c => c.incident.version
    · exact (applyCommand_writes auth id command env u 0 ⟨u, 0⟩ .start).mono fun _ _ =>
        Written.idempotency
    · exact (applyCommand_ordinarily command found).mono fun _ _ => Fails.map

theorem createManualIncident_omits (request : ManualIncident)
    (contract : RefusesForCapacity env) :
    (createManualIncident auth request key).Ends env ⟨u, 0⟩ (Omits u) := by
  apply omits_denies.after_check .start
  intro granted
  apply omits_refuses.after_lookup .start
  intro earlier hearlier
  split
  · intro e he
    cases he
  · exact omits_refuses.throw .start _
  · apply Omits.execute fun result => result
    · exact (openManualIncident_ends .start).mono fun _ _ => Created.idempotency
    · exact openManualIncident_ordinarily request contract

end Omits

section Recorded

variable {env : Env} {auth : AuthorizationContext} {k : IdempotencyKey} {u : IncidentUnitOfWork}

theorem earlierOutcome_recorded (recorded : recordAt u auth.tenant k = some record) :
    earlierOutcome auth (some k) fingerprint env ⟨u, 0⟩ =
      (if fingerprint = record.fingerprint then .ok (some record.outcome)
        else .error .idempotencyConflict, ⟨u, 0⟩) := by
  have recorded' : u.store.idempotency[toLex (auth.tenant, k)]? = some record := recorded
  refine look_eq.mpr ⟨?_, rfl⟩
  simp only [InMemoryIncidentStore.checkIdempotency, recorded', eq_comm]
  split <;> rfl

theorem bind_earlierOutcome {α : Type} {f : Option StoredOutcome → Uow α}
    (answer : StoredOutcome → Except IncidentError α)
    (recorded : recordAt u auth.tenant k = some record)
    (answers : f (some record.outcome) env ⟨u, 0⟩ = (answer record.outcome, ⟨u, 0⟩)) :
    (earlierOutcome auth (some k) fingerprint >>= f) env ⟨u, 0⟩ =
      (if fingerprint = record.fingerprint then answer record.outcome
        else .error .idempotencyConflict, ⟨u, 0⟩) := by
  have earlier : earlierOutcome auth (some k) fingerprint env ⟨u, 0⟩ = _ :=
    earlierOutcome_recorded recorded
  split
  case isTrue same =>
    rw [if_pos same] at earlier
    rw [bind_of_ok earlier, answers]
  case isFalse other =>
    rw [if_neg other] at earlier
    exact bind_error.mpr (Or.inl earlier)

end Recorded

section Steps

variable {env : Env} {auth : AuthorizationContext} {u : IncidentUnitOfWork}
variable {key : IdempotencyKey}
variable {request : Request}
variable {stored : StoredOutcome} {id : IncidentId} {command : Command} {k : Option IdempotencyKey}

theorem step_createManualIncident (request : ManualIncident) (k : Option IdempotencyKey) :
    service.step u ⟨env, auth, .createManualIncident request k⟩ =
      ((createManualIncident auth request k env ⟨u, 0⟩).1.map .created,
        (createManualIncident auth request k env ⟨u, 0⟩).2.uow) := by
  simp only [service, perform, bind_pure_apply]

theorem step_handleCommand (id : IncidentId) (command : Command) (k : Option IdempotencyKey) :
    service.step u ⟨env, auth, .handleCommand id command k⟩ =
      ((handleCommand auth id command k env ⟨u, 0⟩).1.map .version,
        (handleCommand auth id command k env ⟨u, 0⟩).2.uow) := by
  simp only [service, perform, bind_pure_apply]

theorem answered_created {request : ManualIncident} {o : Except IncidentError IncidentId}
    (h : storedOutcome (.mutated · 1) o = some stored) :
    answered (.manual request) stored = o.map .created := by
  cases o with
  | ok id =>
    cases h
    rfl
  | error e => cases e <;> cases h <;> rfl

theorem answered_version (h : storedOutcome (.mutated id) o = some stored) :
    answered (.command id command) stored = o.map .version := by
  cases o with
  | ok version =>
    cases h
    rfl
  | error e => cases e <;> cases h <;> rfl

theorem step_leaves (u : IncidentUnitOfWork) (request : Request) (tenant : TenantId)
    (key : IdempotencyKey) :
    recordAt (service.step u request).2 tenant key = recordAt u tenant key ∨
      ∃ sub stored, Bears tenant key sub request ∧ recordAt u tenant key = none ∧
        recordAt (service.step u request).2 tenant key = some ⟨sub.fingerprint, stored⟩ ∧
        answered sub.fingerprint stored = (service.step u request).1 := by
  obtain ⟨env, auth, call⟩ := request
  cases hsub : submission call with
  | none =>
    have untouched : (perform auth call env ⟨u, 0⟩).2.uow.store.idempotency =
        u.store.idempotency := perform_untouched hsub
    exact Or.inl (congrArg (·[toLex (tenant, key)]?) untouched)
  | some sub =>
    cases call with
    | createManualIncident request k =>
      cases hsub
      rw [step_createManualIncident]
      have ends := createManualIncident_ends env auth k request (u := u) (s := ⟨u, 0⟩)
        ⟨rfl, le_rfl⟩
      rcases Retried.leaves ends (fun _ _ => Created.idempotency) tenant key with same | made
      · exact Or.inl same
      · obtain ⟨rfl, rfl, first, stored, hstored, made⟩ := made
        exact Or.inr ⟨_, stored, ⟨rfl, rfl, rfl⟩, first, made, answered_created hstored⟩
    | handleCommand id command k =>
      cases hsub
      rw [step_handleCommand]
      have ends := handleCommand_ends env auth k id command (u := u) (s := ⟨u, 0⟩)
        ⟨rfl, le_rfl⟩
      have untouched : ∀ o t, Carried env auth id command u 0 o t →
          t.uow.store.idempotency = u.store.idempotency := by
        rintro o t ⟨i, result, -, -, -, ran, -⟩
        exact Written.idempotency ran
      rcases Retried.leaves ends untouched tenant key with same | made
      · exact Or.inl same
      · obtain ⟨rfl, rfl, first, stored, hstored, made⟩ := made
        exact Or.inr ⟨_, stored, ⟨rfl, rfl, rfl⟩, first, made, answered_version hstored⟩
    | _ => cases hsub

theorem step_changes (bears : Bears tenant key sub request)
    (changed : (service.step u request).2.store.incidents ≠ u.store.incidents) :
    recordAt u tenant key = none ∧ recordAt (service.step u request).2 tenant key ≠ none := by
  obtain ⟨env, auth, call⟩ := request
  obtain ⟨rfl, submitted, keyed⟩ := bears
  cases call with
  | createManualIncident request k =>
    cases submitted
    rw [step_createManualIncident] at changed ⊢
    have ends := createManualIncident_ends env auth k request (u := u) (s := ⟨u, 0⟩)
      ⟨rfl, le_rfl⟩
    exact Retried.changes ends (fun _ _ => Created.incidents_of_error) keyed changed
  | handleCommand id command k =>
    cases submitted
    rw [step_handleCommand] at changed ⊢
    have ends := handleCommand_ends env auth k id command (u := u) (s := ⟨u, 0⟩)
      ⟨rfl, le_rfl⟩
    refine Retried.changes ends ?_ keyed changed
    rintro e t ⟨i, result, -, -, -, ran, answer⟩
    cases result with
    | ok c => cases answer
    | error e' => exact Written.incidents_of_error ran
  | _ => cases submitted

theorem step_recorded (recorded : recordAt u tenant key = some record)
    (bears : Bears tenant key sub request) (permitted : Permitted u request.auth sub) :
    service.step u request =
      (if sub.fingerprint = record.fingerprint then answered sub.fingerprint record.outcome
        else .error .idempotencyConflict, u) := by
  obtain ⟨env, auth, call⟩ := request
  obtain ⟨rfl, submitted, keyed⟩ := bears
  obtain ⟨granted, named⟩ := permitted
  cases call with
  | createManualIncident request k =>
    cases submitted
    obtain rfl : k = some key := keyed
    rw [step_createManualIncident]
    unfold createManualIncident
    rw [bind_of_ok (checkPermission_granted granted), bind_earlierOutcome replayedId recorded]
    · rcases record with ⟨fingerprint, _ | _⟩ <;> dsimp only <;> split <;> rfl
    · rcases record with ⟨fingerprint, _ | _⟩ <;> rfl
  | handleCommand id command k =>
    cases submitted
    obtain rfl : k = some key := keyed
    obtain ⟨i, found, owned⟩ := named id command rfl
    rw [step_handleCommand]
    unfold handleCommand
    rw [bind_of_ok (checkPermission_granted granted),
      bind_of_ok (findOwned_ok.mpr ⟨found, owned, rfl⟩),
      bind_earlierOutcome replayedVersion recorded]
    · rcases record with ⟨fingerprint, _ | _⟩ <;> dsimp only <;> split <;> rfl
    · rcases record with ⟨fingerprint, _ | _⟩ <;> rfl
  | _ => cases submitted

theorem handleCommand_forbidden (missing : auth.has command.requiredPermission = false) :
    (handleCommand auth id command k).Ends env ⟨u, 0⟩ (Untouched u) := by
  apply untouched_denies.after_check ⟨rfl, le_rfl⟩
  intro granted
  rw [missing] at granted
  cases granted

theorem createManualIncident_forbidden {request : ManualIncident}
    (missing : auth.has .incidentCreate = false) :
    (createManualIncident auth request k).Ends env ⟨u, 0⟩ (Untouched u) := by
  apply untouched_denies.after_check ⟨rfl, le_rfl⟩
  intro granted
  rw [missing] at granted
  cases granted

theorem error_of_map {α β : Type} {f : α → β} {o : Except IncidentError α}
    (h : o.map f = .error e) : o = .error e := by
  cases o with
  | error e' =>
    cases h
    rfl
  | ok a => cases h

theorem Unrecorded.omitted (h : Unrecorded sub st) :
    st.input.auth.has sub.permission = false ∨ ∃ e, st.output = .error e ∧ Omitted e := by
  cases h with
  | internal detail ended | version expected current state ended | absent ended =>
    exact Or.inr ⟨_, ended, trivial⟩
  | forbidden missing => exact Or.inl missing

theorem step_unrecorded (bears : Bears tenant key sub request)
    (contract : RefusesForCapacity request.env) (ended : Unrecorded sub (service.stepAt u request)) :
    (service.step u request).2.store.idempotency = u.store.idempotency := by
  obtain ⟨env, auth, call⟩ := request
  have submitted := bears.submitted
  cases call with
  | createManualIncident request k =>
    cases submitted
    rw [step_createManualIncident]
    rcases ended.omitted with missing | ⟨e, he, omitted⟩
    · exact createManualIncident_forbidden missing
    · rw [service.stepAt_output, step_createManualIncident] at he
      exact createManualIncident_omits request contract e (error_of_map he) omitted
  | handleCommand id command k =>
    cases submitted
    rw [step_handleCommand]
    rcases ended.omitted with missing | ⟨e, he, omitted⟩
    · exact handleCommand_forbidden missing
    · rw [service.stepAt_output, step_handleCommand] at he
      exact handleCommand_omits id command e (error_of_map he) omitted
  | _ => cases submitted

end Steps

/-- What a history says about one key of one tenant. -/
structure Accounted (tenant : TenantId) (key : IdempotencyKey) (past : List ServiceStep)
    (u : IncidentUnitOfWork) : Prop where
  once : past.Pairwise fun a b => ∀ first second, Bears tenant key first a.input →
    Bears tenant key second b.input → ChangesIncident a → ¬ ChangesIncident b
  kept : ∀ a ∈ past, ∀ sub, Bears tenant key sub a.input → ChangesIncident a →
    recordAt u tenant key ≠ none
  made : ∀ record, recordAt u tenant key = some record →
    ∃ a ∈ past, ∃ first, Bears tenant key first a.input ∧ Records tenant key record a ∧
      record.fingerprint = first.fingerprint ∧
      answered first.fingerprint record.outcome = a.output

section Runs

variable {key : IdempotencyKey}
variable {u : IncidentUnitOfWork}

theorem recordAt_kept (h : recordAt u tenant key ≠ none) :
    recordAt (service.step u request).2 tenant key = recordAt u tenant key := by
  rcases step_leaves u request tenant key with same | ⟨_, _, -, none, -⟩
  · exact same
  · exact absurd none h

theorem Accounted.step (h : Accounted tenant key past u) (request : Request) :
    Accounted tenant key (past ++ [service.stepAt u request]) (service.step u request).2 where
  once := by
    rw [List.pairwise_append]
    refine ⟨h.once, List.pairwise_singleton _ _, ?_⟩
    intro a ha b hb first second hfirst hsecond changed
    obtain rfl := List.mem_singleton.mp hb
    intro changes
    exact h.kept a ha first hfirst changed (step_changes hsecond changes).1
  kept := by
    intro a ha sub bears changed
    rcases List.mem_append.mp ha with ha | ha
    · have before := h.kept a ha sub bears changed
      rw [recordAt_kept before]
      exact before
    · obtain rfl := List.mem_singleton.mp ha
      exact (step_changes bears changed).2
  made := by
    intro record recorded
    rcases step_leaves u request tenant key with same | ⟨sub, stored, bears, first, made, answer⟩
    · obtain ⟨a, ha, rest⟩ := h.made record (same ▸ recorded)
      exact ⟨a, List.mem_append_left _ ha, rest⟩
    · obtain rfl : ⟨sub.fingerprint, stored⟩ = record := Option.some.inj (made.symm.trans recorded)
      exact ⟨_, List.mem_append_right _ (List.mem_singleton.mpr rfl), sub, bears, ⟨first, made⟩,
        rfl, answer⟩

theorem run_accounted (closurePolicy : ClosurePolicy) (reopenPolicy : ReopenPolicy) (year : Nat)
    (requests : List Request) (tenant : TenantId) (key : IdempotencyKey) :
    Accounted tenant key (service.trace (new closurePolicy reopenPolicy year) requests)
      (service.run (new closurePolicy reopenPolicy year) requests) := by
  apply service.history (G := fun _ => True) (P := Accounted tenant key)
  · refine ⟨.nil, by simp, ?_⟩
    intro record recorded
    simp [recordAt, new] at recorded
  · intro past u request h _
    exact h.step request
  · simp

end Runs

/-- Of the requests of one tenant under one key at most one changes an incident. Once there is a
record, it was made by one of them, and every later permitted request is answered as that one was
if it asks for the same and with a conflict otherwise, and changes nothing. An internal failure,
another version than expected, a missing incident or a missing permission leaves no record. -/
theorem requests_idempotent (closurePolicy : ClosurePolicy) (reopenPolicy : ReopenPolicy)
    (year : Nat) (requests : List Request) (tenant : TenantId) (key : IdempotencyKey) :
    let start := new closurePolicy reopenPolicy year
    ((service.trace start requests).Pairwise fun a b => ∀ first second,
      Bears tenant key first a.input → Bears tenant key second b.input →
        ChangesIncident a → ¬ ChangesIncident b) ∧
    (∀ past request rest, requests = past ++ request :: rest →
      ∀ record, recordAt (service.run start past) tenant key = some record →
        ∃ a ∈ service.trace start past, ∃ first, Bears tenant key first a.input ∧
          Records tenant key record a ∧
          ∀ second, Bears tenant key second request →
            Permitted (service.run start past) request.auth second →
            service.step (service.run start past) request =
              (if second.fingerprint = first.fingerprint then a.output
                else .error .idempotencyConflict, service.run start past)) ∧
    (∀ st ∈ service.trace start requests, ∀ sub, Bears tenant key sub st.input →
      RefusesForCapacity st.input.env → Unrecorded sub st →
      st.after.store.idempotency = st.before.store.idempotency) := by
  refine ⟨(run_accounted closurePolicy reopenPolicy year requests tenant key).once, ?_, ?_⟩
  · intro past request rest _ record recorded
    obtain ⟨a, ha, first, bears, records, same, answer⟩ :=
      (run_accounted closurePolicy reopenPolicy year past tenant key).made record recorded
    refine ⟨a, ha, first, bears, records, ?_⟩
    intro second hsecond permitted
    rw [step_recorded recorded hsecond permitted, same]
    split
    case isTrue equal => rw [equal, answer]
    case isFalse => rfl
  · intro st hst sub bears contract ended
    obtain ⟨past, request, rest, -, rfl⟩ := service.mem_trace.mp hst
    exact step_unrecorded bears contract ended

end Tidegard.Incident.Proofs.Idempotency
