import Tidegard.Incident.Proofs.Writes

namespace Tidegard.Incident.Proofs.Calls

open Actions Actions.Action Detector.Event Basics Time Record Store Commits UnitOfWork Changes
open Writes

/-- The incidents a caller can open. `seen` says for which events. -/
inductive Opened (auth : AuthorizationContext) (seen : DetectionEvent → Prop) (id : IncidentId)
    (number : IncidentNumber) (now : DurableTimestamp) : Commit → Prop
  | detected (event : DetectionEvent) (given : seen event)
      (own : event.target.tenant = auth.tenant) :
      Opened auth seen id number now (Commit.createIncidentInternal event event.target.tenant
        (correlationKeyOf event) id number now)
  | manual (request : ManualIncident) (valid : request.validate = .ok ()) :
      Opened auth seen id number now (Commit.openManualIncident auth request id number now)

/-- The ends of an action that opens an incident under a new id. -/
inductive Created (env : Env) (auth : AuthorizationContext) (seen : DetectionEvent → Prop)
    (u : IncidentUnitOfWork) (m : Nat) : Except IncidentError IncidentId → Session → Prop
  | created (id : IncidentId) (number : IncidentNumber) (now : DurableTimestamp) (c : Commit)
      (k n : Nat) (generated : env.generate = .ok id)
      (allocated : env.allocate auth.tenant u.numberAllocationYear = .ok number)
      (reading : DurableTimestamp.fromSystemTime (env.wall k) = .ok now)
      (first : m ≤ k) (last : k < n)
      (vacant : u.store.openIndex[c.incident.correlationKey]? = none)
      (opened : Opened auth seen id number now c) :
      Created env auth seen u m (.ok id) ⟨u.commit auth id c, n⟩
  | refused (e : IncidentError) (n : Nat) (later : m ≤ n) :
      Created env auth seen u m (.error e) ⟨u, n⟩

section Creations

variable {env : Env} {auth : AuthorizationContext} {u : IncidentUnitOfWork} {m : Nat}

theorem created_refuses :
    Refuses u m (Created env auth seen u m) := .refused

theorem createIncidentInternal_ends (env : Env) (own : event.target.tenant = auth.tenant)
    (begun : Begun u m s) :
    (createIncidentInternal auth event.target.tenant (correlationKeyOf event) event).Ends env s
      (Created env auth (· = event) u m) := by
  apply created_refuses.after_lookup begun
  rintro _ ⟨⟩
  apply created_refuses.after_ofExcept begun
  intro _ vacant
  apply created_refuses.after_decisionTime begun
  intro now k t reading first last begun
  apply created_refuses.after_lookup begun
  intro id generated
  apply created_refuses.after_lookup begun
  intro number allocated
  obtain ⟨v, n⟩ := t
  obtain rfl : v = u := begun.uow
  exact .created id number now _ k n generated (own ▸ allocated) reading first last
    (noneActive_ok.mp vacant) (.detected event rfl own)

theorem openManualIncident_ends (begun : Begun u m s) :
    (openManualIncident auth request).Ends env s (Created env auth (fun _ => False) u m) := by
  apply created_refuses.after_ofExcept begun
  intro _ valid
  apply created_refuses.after_lookup begun
  rintro active hactive
  split
  · exact created_refuses.throw begun _
  · apply created_refuses.after_decisionTime begun
    intro now k t reading first last begun
    apply created_refuses.after_lookup begun
    intro id generated
    apply created_refuses.after_lookup begun
    intro number allocated
    obtain ⟨v, n⟩ := t
    obtain rfl : v = u := begun.uow
    exact .created id number now _ k n generated allocated reading first last
      (Except.ok.inj hactive) (.manual request valid)

end Creations

/-- The ends of a request that may be answered from the idempotency records. -/
inductive Retried {α : Type} (auth : AuthorizationContext) (key : Option IdempotencyKey)
    (fingerprint : RequestFingerprint) (mutated : α → StoredOutcome) (replay : StoredOutcome → α → Prop)
    (Ran : Except IncidentError α → Session → Prop) (u : IncidentUnitOfWork) (m : Nat) :
    Except IncidentError α → Session → Prop
  | refused (e : IncidentError) (n : Nat) (later : m ≤ n) :
      Retried auth key fingerprint mutated replay Ran u m (.error e) ⟨u, n⟩
  | denied (permission : Permission) (resource : AttemptedResource) (reason : String) (n : Nat)
      (later : m ≤ n) : Retried auth key fingerprint mutated replay Ran u m (.error .unauthorized)
        ⟨u.appendAudit (AuditEntry.denied auth permission resource reason), n⟩
  | replayed (k : IdempotencyKey) (outcome : StoredOutcome) (a : α) (n : Nat) (later : m ≤ n)
      (keyed : key = some k)
      (stored : u.store.checkIdempotency auth.tenant k fingerprint = .replay outcome)
      (same : replay outcome a) : Retried auth key fingerprint mutated replay Ran u m (.ok a) ⟨u, n⟩
  | executed (o : Except IncidentError α) (t : Session)
      (new : ∀ k, key = some k → u.store.checkIdempotency auth.tenant k fingerprint = .new)
      (ran : Ran o t) : Retried auth key fingerprint mutated replay Ran u m o
        ⟨remembered t.uow auth.tenant key fingerprint (storedOutcome mutated o), t.readings⟩

section Retries

variable {α β : Type} {env : Env} {auth : AuthorizationContext} {key : Option IdempotencyKey}
variable {mutated : α → StoredOutcome}
variable {replay : StoredOutcome → α → Prop} {Ran : Except IncidentError α → Session → Prop}
variable {u : IncidentUnitOfWork} {m : Nat}

theorem retried_refuses : Refuses u m (Retried auth key fingerprint mutated replay Ran u m) :=
  .refused

theorem retried_denies : Denies auth u m (Retried auth key fingerprint mutated replay Ran u m) :=
  .denied

theorem Retried.execute (answer : Except IncidentError β → Except IncidentError α)
    (new : ∀ k, key = some k → u.store.checkIdempotency auth.tenant k fingerprint = .new)
    (ran : x.Ends env s fun o t => Ran (answer o) t) :
    (Action.attempt x >>= fun result =>
      remember auth key fingerprint (storedOutcome mutated (answer result)) >>= fun _ =>
        Action.ofExcept (answer result)).Ends env s
      (Retried auth key fingerprint mutated replay Ran u m) :=
  .executed _ _ new ran

/-- The request is answered from the record of an earlier one, or goes on as a new one. -/
theorem Retried.after_earlierOutcome {f : Option StoredOutcome → Uow α} (begun : Begun u m s)
    (old : ∀ k outcome, key = some k →
      u.store.checkIdempotency auth.tenant k fingerprint = .replay outcome →
      (f (some outcome)).Ends env s (Retried auth key fingerprint mutated replay Ran u m))
    (fresh : (∀ k, key = some k → u.store.checkIdempotency auth.tenant k fingerprint = .new) →
      (f none).Ends env s (Retried auth key fingerprint mutated replay Ran u m)) :
    (earlierOutcome auth key fingerprint >>= f).Ends env s
      (Retried auth key fingerprint mutated replay Ran u m) := by
  apply retried_refuses.after_lookup begun
  intro earlier h
  cases key with
  | none =>
    cases h
    apply fresh
    intro k hk
    cases hk
  | some k =>
    simp only at h
    cases hcheck : u.store.checkIdempotency auth.tenant k fingerprint with simp only [hcheck] at h
    | new =>
      cases h
      apply fresh
      rintro _ ⟨⟩
      exact hcheck
    | replay outcome =>
      cases h
      exact old k outcome rfl hcheck
    | conflict =>
      cases h

end Retries

section Requests

variable (env : Env) (auth : AuthorizationContext) (key : Option IdempotencyKey)
variable {u : IncidentUnitOfWork} {m : Nat}

/-- A command that is carried out as the contract says, and the version it leaves. -/
def CarriedBy (D : Contract Commit) (env : Env) (auth : AuthorizationContext) (id : IncidentId)
    (command : Command) (u : IncidentUnitOfWork) (m : Nat) (o : Except IncidentError Nat)
    (t : Session) : Prop :=
  ∃ i result, u.store.incidents[id]? = some i ∧ i.tenantId = auth.tenant ∧
    checkVersion command i = .ok () ∧ Written env auth id D u m result t ∧
    o = result.map fun c => c.incident.version

/-- A command that is carried out, and the version it leaves. -/
def Carried (env : Env) (auth : AuthorizationContext) (id : IncidentId) (command : Command)
    (u : IncidentUnitOfWork) (m : Nat) (o : Except IncidentError Nat) (t : Session) : Prop :=
  ∃ i result, u.store.incidents[id]? = some i ∧ i.tenantId = auth.tenant ∧
    checkVersion command i = .ok () ∧ Written env auth id (commanded auth command) u m result t ∧
    o = result.map fun c => c.incident.version

def replaysVersion (outcome : StoredOutcome) (version : Nat) : Prop :=
  ∃ id, outcome = .mutated id version

theorem handleCommand_keeps {id : IncidentId}
    (writes : WritesOnce auth id D (applyCommand auth id command)) (begun : Begun u m s) :
    (handleCommand auth id command key).Ends env s
      (Retried auth key (.command id command) (.mutated id) replaysVersion
        (CarriedBy D env auth id command u m) u m) := by
  apply retried_denies.after_check begun
  intro granted
  apply retried_refuses.after_findOwned begun
  intro i found owned
  apply Retried.after_earlierOutcome begun
  · intro k outcome keyed stored
    cases outcome with
    | mutated other version =>
      obtain ⟨v, n⟩ := s
      obtain rfl : v = u := begun.uow
      exact .replayed k _ version n begun.later keyed stored ⟨other, rfl⟩
    | failed e => exact retried_refuses.throw begun e
  · intro new
    apply retried_refuses.after_ofExcept begun
    intro _ current
    refine Retried.execute (fun (result : Except IncidentError Commit) =>
      result.map fun c => c.incident.version) new ?_
    exact (writes env u m s begun).mono fun o t h => ⟨i, o, found, owned, current, h, rfl⟩

theorem handleCommand_ends (id : IncidentId) (command : Command) (begun : Begun u m s) :
    (handleCommand auth id command key).Ends env s
      (Retried auth key (.command id command) (.mutated id) replaysVersion
        (Carried env auth id command u m) u m) :=
  handleCommand_keeps env auth key (applyCommand_writes auth id command) begun

def replaysIncident (outcome : StoredOutcome) (id : IncidentId) : Prop :=
  ∃ version, outcome = .mutated id version

theorem createManualIncident_ends (request : ManualIncident) (begun : Begun u m s) :
    (createManualIncident auth request key).Ends env s
      (Retried auth key (.manual request) (.mutated · 1) replaysIncident
        (Created env auth (fun _ => False) u m) u m) := by
  apply retried_denies.after_check begun
  intro granted
  apply Retried.after_earlierOutcome begun
  · intro k outcome keyed stored
    cases outcome with
    | mutated id version =>
      obtain ⟨v, n⟩ := s
      obtain rfl : v = u := begun.uow
      exact .replayed k _ id n begun.later keyed stored ⟨version, rfl⟩
    | failed e => exact retried_refuses.throw begun e
  · intro new
    exact Retried.execute (fun result => result) new (openManualIncident_ends begun)

end Requests

/-- The event passes the gates that come before the correlation. -/
structure Admitted (auth : AuthorizationContext) (event : DetectionEvent)
    (u : IncidentUnitOfWork) : Prop where
  granted : auth.has .incidentIngest = true
  own : event.target.tenant = auth.tenant
  understood : (decide (eventSchemaVersion < event.schemaVersion) || event.executed) = false
  fresh : u.store.dedupSeen[toLex (event.target.tenant, event.dedupKey)]? = none
  published : (!event.isPublishable && decide (event.action = .observed)) = false

def marked (event : DetectionEvent) (u : IncidentUnitOfWork) (id : IncidentId) :
    IncidentUnitOfWork :=
  u.dedupRecord event.target.tenant event.dedupKey id

/-- The ends of the correlation of an event. The key is recorded before the event is linked or
reopens an incident, and after an incident is created. -/
inductive Correlated (env : Env) (auth : AuthorizationContext) (event : DetectionEvent)
    (u : IncidentUnitOfWork) (m : Nat) : Except IncidentError IngestResult → Session → Prop
  | linked (id : IncidentId) (o : Except IncidentError IngestResult) (t : Session)
      (active : u.store.openIndex[correlationKeyOf event]? = some id)
      (ran : Written env auth id (linking event false id) (marked event u id) m o t)
      (kept : event.kind = .ended → o ≠ .ok ⟨.updated, some id⟩) :
      Correlated env auth event u m o t
  | ended (id : IncidentId) (t : Session) (o : Except IncidentError Unit) (t' : Session)
      (active : u.store.openIndex[correlationKeyOf event]? = some id) (last : event.kind = .ended)
      (ran : Written env auth id (linking event false id) (marked event u id) m
        (.ok ⟨.updated, some id⟩) t)
      (recovers : Written env auth id (recovering auth (endReasonOf event)) t.uow t.readings o t') :
      Correlated env auth event u m (.ok ⟨.updated, some id⟩) t'
  | late (candidate : Incident) (o : Except IncidentError IngestResult) (t : Session)
      (vacant : u.store.openIndex[correlationKeyOf event]? = none)
      (found : u.store.reopenCandidate env.rank (correlationKeyOf event) event.target.tenant =
        some candidate)
      (late : (decide (event.kind = .ended) || alreadyHeld candidate event) = true)
      (ran : Written env auth candidate.incidentId (linking event true candidate.incidentId)
        (marked event u candidate.incidentId) m o t) : Correlated env auth event u m o t
  | reopened (candidate : Incident) (now : DurableTimestamp)
      (o : Except IncidentError IngestResult) (t : Session)
      (vacant : u.store.openIndex[correlationKeyOf event]? = none)
      (found : u.store.reopenCandidate env.rank (correlationKeyOf event) event.target.tenant =
        some candidate)
      (new : (decide (event.kind = .ended) || alreadyHeld candidate event) = false)
      (reading : DurableTimestamp.fromSystemTime (env.wall m) = .ok now)
      (recurs : Transition.evaluateReopen candidate u.reopenPolicy now = .ok true)
      (ran : Written env auth candidate.incidentId
        (reopening event .reopenedByRecurrence candidate.incidentId)
        (marked event u candidate.incidentId) (m + 1) o t) : Correlated env auth event u m o t
  | created (id : IncidentId) (t : Session) (notEnded : event.kind ≠ .ended)
      (ran : Created env auth (· = event) u m (.ok id) t) :
      Correlated env auth event u m (.ok ⟨.created, some id⟩) ⟨marked event t.uow id, t.readings⟩
  | quarantined (n : Nat) (later : m ≤ n) :
      Correlated env auth event u m (.ok ⟨.quarantined, none⟩) ⟨u, n⟩
  | refused (e : IncidentError) (n : Nat) (later : m ≤ n) :
      Correlated env auth event u m (.error e) ⟨u, n⟩

section Ingestion

variable {env : Env} {auth : AuthorizationContext} {event : DetectionEvent}
variable {u : IncidentUnitOfWork} {m : Nat}
variable {id : IncidentId}
variable {t : Session} {a : IngestResult}

theorem correlated_refuses : Refuses u m (Correlated env auth event u m) := .refused

theorem ends_dedupRecord {α : Type} {f : Unit → Uow α} {Q : Except IncidentError α → Session → Prop}
    (next : (f ()).Ends env ⟨marked event s.uow id, s.readings⟩ Q) :
    (dedupRecord event.target.tenant event.dedupKey id >>= f).Ends env s Q := next

theorem ingestOpen_ends (active : u.store.openIndex[correlationKeyOf event]? = some id) :
    (ingestOpen auth event.target.tenant event id).Ends env ⟨u, m⟩
      (Correlated env auth event u m) := by
  apply ends_dedupRecord
  have ran := linkEvent_writes auth id event false env _ m ⟨marked event u id, m⟩ ⟨rfl, le_rfl⟩
  unfold Ends at ran
  apply Ends.bind
  · intro a t h
    have hran : Written env auth id (linking event false id) (marked event u id) m (.ok a) t := by
      rw [linkEventToOpenIncident] at h
      rwa [h] at ran
    split
    case isTrue updated =>
      simp only [Bool.and_eq_true, decide_eq_true_eq] at updated
      obtain ⟨kind, incident⟩ := a
      obtain rfl : incident = some id := by
        cases hran with
        | wrote a c i now k n found reading first last decided =>
          exact congrArg IngestResult.incidentId decided.2
        | idle a n later answer => exact answer.elim
      obtain ⟨ended, rfl⟩ := updated
      exact .ended id t _ _ active ended hran
        (enterRecovering_writes auth id (endReasonOf event) env t.uow t.readings t ⟨rfl, le_rfl⟩)
    case isFalse other =>
      refine .linked id _ t active hran ?_
      rintro ended ⟨⟩
      simp [ended] at other
  · intro e t h
    rw [linkEventToOpenIncident] at h
    rw [h] at ran
    refine .linked id _ t active ran ?_
    rintro - ⟨⟩

section

variable (own : event.target.tenant = auth.tenant)

include own

theorem ingestNew_ends (begun : Begun u m s) :
    (ingestNew auth event.target.tenant (correlationKeyOf event) event).Ends env s
      (Correlated env auth event u m) := by
  unfold ingestNew
  split
  · obtain ⟨v, n⟩ := s
    obtain rfl : v = u := begun.uow
    exact .quarantined n begun.later
  case isFalse notEnded =>
    have ran := createIncidentInternal_ends env own begun
    unfold Ends at ran
    apply Ends.bind
    · intro id t h
      rw [h] at ran
      exact .created id t notEnded ran
    · rintro e t h
      rw [h] at ran
      cases ran with
      | refused e n later => exact .refused e n later

theorem ingestCandidate_ends
    (vacant : u.store.openIndex[correlationKeyOf event]? = none)
    (found : u.store.reopenCandidate env.rank (correlationKeyOf event) event.target.tenant =
      some candidate) :
    (ingestCandidate auth event.target.tenant (correlationKeyOf event) event candidate).Ends env
      ⟨u, m⟩ (Correlated env auth event u m) := by
  unfold ingestCandidate
  split
  case isTrue late =>
    apply ends_dedupRecord
    exact .late candidate _ _ vacant found late
      (linkEvent_writes auth _ event true env _ m ⟨_, m⟩ ⟨rfl, le_rfl⟩)
  case isFalse new =>
    have begun : Begun u m ⟨u, m⟩ := ⟨rfl, le_rfl⟩
    apply correlated_refuses.after_look looks_decisionTime begun
    intro now t h begun
    obtain ⟨reading, rfl⟩ := decisionTime_eq.mp h
    apply correlated_refuses.after_lookup begun
    rintro _ ⟨⟩
    apply correlated_refuses.after_ofExcept begun
    intro recurs hrecurs
    split
    case isTrue yes =>
      subst yes
      apply ends_dedupRecord
      exact .reopened candidate now _ _ vacant found (Bool.eq_false_of_not_eq_true new) reading
        hrecurs (reopenIncidentInternal_writes auth _ event .reopenedByRecurrence env _ (m + 1)
          ⟨_, m + 1⟩ ⟨rfl, le_rfl⟩)
    case isFalse => exact ingestNew_ends own begun

theorem correlate_ends :
    (correlate auth event.target.tenant (correlationKeyOf event) event).Ends env ⟨u, m⟩
      (Correlated env auth event u m) := by
  have begun : Begun u m ⟨u, m⟩ := ⟨rfl, le_rfl⟩
  apply correlated_refuses.after_lookup begun
  intro active hactive
  split
  case h_1 id => exact ingestOpen_ends (Except.ok.inj hactive)
  case h_2 =>
    apply correlated_refuses.after_lookup begun
    intro candidate hcandidate
    split
    case h_1 candidate =>
      exact ingestCandidate_ends own (Except.ok.inj hactive) (Except.ok.inj hcandidate)
    case h_2 => exact ingestNew_ends own begun

end

/-- The ends of an ingestion: turned away at a gate, or correlated. -/
inductive Ingested (env : Env) (auth : AuthorizationContext) (event : DetectionEvent)
    (u : IncidentUnitOfWork) (m : Nat) : Except IncidentError IngestResult → Session → Prop
  | refused (e : IncidentError) (n : Nat) (later : m ≤ n) :
      Ingested env auth event u m (.error e) ⟨u, n⟩
  | denied (permission : Permission) (resource : AttemptedResource) (reason : String) (n : Nat)
      (later : m ≤ n) : Ingested env auth event u m (.error .unauthorized)
        ⟨u.appendAudit (AuditEntry.denied auth permission resource reason), n⟩
  | turned (a : IngestResult) (n : Nat) (later : m ≤ n)
      (kind : a.outcomeKind = .quarantined ∨ a.outcomeKind = .duplicate ∨
        a.outcomeKind = .observeOnly) : Ingested env auth event u m (.ok a) ⟨u, n⟩
  | correlated (o : Except IncidentError IngestResult) (t : Session)
      (admitted : Admitted auth event u) (ran : Correlated env auth event u m o t) :
      Ingested env auth event u m o t

theorem ingestDetectionEvent_ends :
    (ingestDetectionEvent auth event).Ends env ⟨u, m⟩ (Ingested env auth event u m) := by
  have refuses : Refuses u m (Ingested env auth event u m) := .refused
  have denies : Denies auth u m (Ingested env auth event u m) := .denied
  have begun : Begun u m ⟨u, m⟩ := ⟨rfl, le_rfl⟩
  apply denies.after_check begun
  intro granted
  dsimp only
  by_cases own : event.target.tenant = auth.tenant
  case neg =>
    rw [if_pos own]
    exact refuses.throw begun _
  case pos =>
    rw [if_neg (not_not.mpr own)]
    split
    case isTrue => exact .turned _ m le_rfl (Or.inl rfl)
    case isFalse understood =>
      apply refuses.after_lookup begun
      intro earlier hearlier
      split
      case h_1 existing => exact .turned _ m le_rfl (Or.inr (Or.inl rfl))
      case h_2 fresh =>
        have fresh : u.store.dedupSeen[toLex (event.target.tenant, event.dedupKey)]? = none := by
          rw [Except.ok.inj hearlier]
          cases earlier with
          | none => rfl
          | some id => exact absurd rfl (fresh id)
        split
        case isTrue => exact .turned _ m le_rfl (Or.inr (Or.inr rfl))
        case isFalse published =>
          exact .correlated _ _ ⟨granted, own, Bool.eq_false_of_not_eq_true understood, fresh,
            Bool.eq_false_of_not_eq_true published⟩ (correlate_ends own)

theorem ingestDetectionEvent_admitted (admitted : Admitted auth event u) :
    ingestDetectionEvent auth event env ⟨u, m⟩ =
      correlate auth event.target.tenant (correlationKeyOf event) event env ⟨u, m⟩ := by
  obtain ⟨granted, own, understood, fresh, published⟩ := admitted
  have hdedup : dedupGet event.target.tenant event.dedupKey env ⟨u, m⟩ = (.ok none, ⟨u, m⟩) :=
    look_eq.mpr ⟨congrArg Except.ok fresh, rfl⟩
  unfold ingestDetectionEvent
  rw [bind_of_ok (checkPermission_granted granted)]
  rw [if_neg (not_not.mpr own), understood, published]
  simp only [Bool.false_eq_true, if_false]
  rw [bind_of_ok hdedup]

theorem step_ingest (hcall : request.call = .ingestDetectionEvent event) :
    service.step u request =
      ((ingestDetectionEvent request.auth event request.env ⟨u, 0⟩).1.map .ingested,
        (ingestDetectionEvent request.auth event request.env ⟨u, 0⟩).2.uow) := by
  change ((perform request.auth request.call request.env ⟨u, 0⟩).1,
    (perform request.auth request.call request.env ⟨u, 0⟩).2.uow) = _
  rw [hcall]
  simp only [perform, bind_pure_apply]

theorem linkEvent_ok :
    linkEvent auth id event late env ⟨u, m⟩ = (.ok a, t) ↔
      ∃ now i c, DurableTimestamp.fromSystemTime (env.wall m) = .ok now ∧
        u.store.incidents[id]? = some i ∧ Commit.linkEvent event late now i = .ok c ∧
        a = ⟨if Commit.isLate late now i then .linkedLate else .updated, some id⟩ ∧
        t = ⟨u.commit auth id c, m + 1⟩ := by
  unfold linkEvent
  simp only [bind_ok, decisionTime_eq, find_ok, commit_ok, pure_eq]
  constructor
  · rintro ⟨now, s, ⟨reading, rfl⟩, i, s', ⟨found, rfl⟩, c, s'', ⟨hc, rfl⟩, ha, rfl⟩
    cases ha
    exact ⟨now, i, c, reading, found, hc, rfl, rfl⟩
  · rintro ⟨now, i, c, reading, found, hc, rfl, rfl⟩
    exact ⟨now, _, ⟨reading, rfl⟩, i, _, ⟨found, rfl⟩, c, _, ⟨hc, rfl⟩, rfl, rfl⟩

theorem correlate_open (active : u.store.openIndex[correlationKeyOf event]? = some id) :
    correlate auth event.target.tenant (correlationKeyOf event) event env ⟨u, m⟩ =
      ingestOpen auth event.target.tenant event id env ⟨u, m⟩ := by
  have hactive : openIndexGet (correlationKeyOf event) env ⟨u, m⟩ = (.ok (some id), ⟨u, m⟩) :=
    look_eq.mpr ⟨congrArg Except.ok active, rfl⟩
  unfold correlate
  rw [bind_of_ok hactive]

theorem ingestOpen_answer :
    (ingestOpen auth event.target.tenant event id env ⟨u, m⟩).1 =
      (linkEvent auth id event false env ⟨marked event u id, m⟩).1 := by
  apply ends_dedupRecord
    (Q := fun o _ => o = (linkEvent auth id event false env ⟨marked event u id, m⟩).1)
  apply Ends.bind
  · intro a t h
    rw [linkEventToOpenIncident] at h
    rw [h]
    split <;> rfl
  · intro e t h
    rw [linkEventToOpenIncident] at h
    rw [h]

theorem ingestOpen_live (live : event.kind ≠ .ended)
    (h : linkEvent auth id event false env ⟨marked event u id, m⟩ = (.ok a, t)) :
    ingestOpen auth event.target.tenant event id env ⟨u, m⟩ = (.ok a, t) := by
  have hlink : linkEventToOpenIncident auth id event env ⟨marked event u id, m⟩ = (.ok a, t) := h
  have hmark : dedupRecord event.target.tenant event.dedupKey id env ⟨u, m⟩ =
      (.ok (), ⟨marked event u id, m⟩) := rfl
  unfold ingestOpen
  rw [bind_of_ok hmark, bind_of_ok hlink]
  simp [live]

end Ingestion

end Tidegard.Incident.Proofs.Calls
