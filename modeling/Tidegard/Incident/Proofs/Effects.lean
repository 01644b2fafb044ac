import Tidegard.Incident.Proofs.Index

namespace Tidegard.Incident.Proofs.Effects

open Tables Actions.Action Detector.Event Basics Time Record Store Commits UnitOfWork Changes Writes
open Calls Moves Index

/-- The change a maintenance call or a command makes to the incident `id`. -/
def Maintained (auth : AuthorizationContext) (call : Call) (id : IncidentId)
    (active : Option IncidentId) (now : DurableTimestamp) (i : Incident) (c : Commit) : Prop :=
  match call with
  | .enterRecovering x reason => id = x ∧ Commit.enterRecovering reason now i = .ok c
  | .enterRecoveringIfSilent x _ => id = x ∧ Commit.enterRecovering .detectorSilent now i = .ok c
  | .confirmRecoveryIfDue x _ =>
    id = x ∧ Commit.resolveInternal auth (.automatic .recoveryConfirmed) none now i = .ok c
  | .abortRecovery x => id = x ∧ Commit.abortRecovery now i = .ok c
  | .attemptAutomaticClosure x =>
    id = x ∧ Commit.closeInternal auth .resolved (.automatic .automaticClosure) now i = .ok c
  | .handleCommand x command _ => id = x ∧ Ordered auth command active now i c
  | _ => False

/-- The parts of the store in which the incidents and their records live agree. -/
structure Agrees (v w : IncidentUnitOfWork) : Prop where
  incidents : v.store.incidents = w.store.incidents
  openIndex : v.store.openIndex = w.store.openIndex
  dedupSeen : v.store.dedupSeen = w.store.dedupSeen
  timeline : v.store.timeline = w.store.timeline
  outbox : v.store.outbox = w.store.outbox

theorem Agrees.refl (u : IncidentUnitOfWork) : Agrees u u := ⟨rfl, rfl, rfl, rfl, rfl⟩

theorem Agrees.trans (h : Agrees u v) (h' : Agrees v w) : Agrees u w :=
  ⟨h.incidents.trans h'.incidents, h.openIndex.trans h'.openIndex,
    h.dedupSeen.trans h'.dedupSeen, h.timeline.trans h'.timeline, h.outbox.trans h'.outbox⟩

theorem agrees_appendAudit (u : IncidentUnitOfWork) (entry : Nat → AuditEntry) :
    Agrees (u.appendAudit entry) u := ⟨rfl, rfl, rfl, rfl, rfl⟩

theorem agrees_remembered : Agrees (remembered u tenant key fingerprint outcome) u := by
  unfold remembered
  split
  · exact ⟨rfl, rfl, rfl, rfl, rfl⟩
  · exact .refl u

/-- The incident an ingestion says it linked its event to. -/
def linkedTo : Except IncidentError Answer → Option IncidentId
  | .ok (.ingested ⟨.created, id⟩) => id
  | .ok (.ingested ⟨.updated, id⟩) => id
  | .ok (.ingested ⟨.reopened, id⟩) => id
  | .ok (.ingested ⟨.linkedLate, id⟩) => id
  | _ => none

/-- Everything a call can do to the incidents and their records, with the answer it gives. -/
inductive Effect (request : Request) (u : IncidentUnitOfWork) :
    Except IncidentError Answer → IncidentUnitOfWork → Prop
  | still (o : Except IncidentError Answer) (v : IncidentUnitOfWork)
      (unlinked : linkedTo o = none) (agrees : Agrees v u) : Effect request u o v
  | notified (id : IncidentId) (i : Incident) (channel eventType : String)
      (outcome : NotificationOutcome) (v : IncidentUnitOfWork)
      (found : u.store.incidents[id]? = some i)
      (agrees : Agrees v (u.appendTimeline id request.auth.actor
        (.notificationResult channel eventType outcome))) : Effect request u (.ok .done) v
  | kept (event : DetectionEvent) (id : IncidentId) (e : IncidentError) (v : IncidentUnitOfWork)
      (call : request.call = .ingestDetectionEvent event)
      (admitted : Admitted request.auth event u) (agrees : Agrees v (marked event u id)) :
      Effect request u (.error e) v
  | changed (a : Answer) (id : IncidentId) (i : Incident) (now : DurableTimestamp) (c : Commit)
      (v : IncidentUnitOfWork) (unlinked : linkedTo (.ok a) = none)
      (found : u.store.incidents[id]? = some i)
      (decided : Maintained request.auth request.call id u.store.openIndex[i.correlationKey]? now
        i c)
      (agrees : Agrees v (u.commit request.auth id c)) : Effect request u (.ok a) v
  | opened (manual : ManualIncident) (id : IncidentId) (number : IncidentNumber)
      (now : DurableTimestamp) (v : IncidentUnitOfWork)
      (call : ∃ asked key, request.call = .createManualIncident asked key)
      (unused : u.store.incidents[id]? = none)
      (agrees : Agrees v (u.commit request.auth id
        (Commit.openManualIncident request.auth manual id number now))) :
      Effect request u (.ok (.created id)) v
  | created (event : DetectionEvent) (id : IncidentId) (number : IncidentNumber)
      (now : DurableTimestamp) (v : IncidentUnitOfWork)
      (call : request.call = .ingestDetectionEvent event)
      (admitted : Admitted request.auth event u) (unused : u.store.incidents[id]? = none)
      (notEnded : event.kind ≠ .ended)
      (agrees : Agrees v (marked event (u.commit request.auth id
        (Commit.createIncidentInternal event event.target.tenant (correlationKeyOf event) id number
          now)) id)) :
      Effect request u (.ok (.ingested ⟨.created, some id⟩)) v
  | linked (event : DetectionEvent) (id : IncidentId) (late : Bool) (i : Incident)
      (now : DurableTimestamp) (c : Commit) (v : IncidentUnitOfWork)
      (call : request.call = .ingestDetectionEvent event)
      (admitted : Admitted request.auth event u) (found : u.store.incidents[id]? = some i)
      (keyed : i.correlationKey = correlationKeyOf event)
      (owned : i.tenantId = event.target.tenant) (standing : late = false ↔ Active i.state)
      (decided : Commit.linkEvent event late now i = .ok c)
      (agrees : Agrees v ((marked event u id).commit request.auth id c)) :
      Effect request u
        (.ok (.ingested ⟨if Commit.isLate late now i then .linkedLate else .updated, some id⟩)) v
  | ended (event : DetectionEvent) (id : IncidentId) (i : Incident) (now later : DurableTimestamp)
      (c d : Commit) (v : IncidentUnitOfWork)
      (call : request.call = .ingestDetectionEvent event) (last : event.kind = .ended)
      (admitted : Admitted request.auth event u) (found : u.store.incidents[id]? = some i)
      (keyed : i.correlationKey = correlationKeyOf event)
      (owned : i.tenantId = event.target.tenant) (active : Active i.state)
      (decided : Commit.linkEvent event false now i = .ok c)
      (recovers : Commit.enterRecovering (endReasonOf event) later c.incident = .ok d)
      (agrees : Agrees v (((marked event u id).commit request.auth id c).commit request.auth id
        d)) :
      Effect request u (.ok (.ingested ⟨.updated, some id⟩)) v
  | reopened (event : DetectionEvent) (id : IncidentId) (i : Incident) (now : DurableTimestamp)
      (c : Commit) (v : IncidentUnitOfWork)
      (call : request.call = .ingestDetectionEvent event)
      (admitted : Admitted request.auth event u) (found : u.store.incidents[id]? = some i)
      (keyed : i.correlationKey = correlationKeyOf event)
      (owned : i.tenantId = event.target.tenant) (notEnded : event.kind ≠ .ended)
      (decided : Commit.reopenIncidentInternal u.store.openIndex[i.correlationKey]? event
        .reopenedByRecurrence now i = .ok c)
      (agrees : Agrees v ((marked event u id).commit request.auth id c)) :
      Effect request u (.ok (.ingested ⟨.reopened, some id⟩)) v

section Effects

variable {env : Env} {auth : AuthorizationContext} {u : IncidentUnitOfWork}
variable {t : Session} {request : Request}
variable {α : Type} {id : IncidentId} {call : Call} {event : DetectionEvent}
variable {o : Except IncidentError IngestResult}

theorem Written.effect {D : Contract α} {o : Except IncidentError α} {answer : α → Answer}
    (h : Written env auth id D u m o t) (plain : ∀ a, linkedTo (.ok (answer a)) = none)
    (decided : ∀ now active i a c, D.change now active i a c →
      Maintained auth call id active now i c) :
    Effect ⟨env, auth, call⟩ u (o.map answer) t.uow := by
  cases h with
  | wrote a c i now k n found reading first last hd =>
    exact .changed (answer a) id i now c _ (plain a) found (decided _ _ _ _ _ hd) (.refl _)
  | idle a => exact .still _ _ (plain a) (.refl u)
  | refused => exact .still _ _ rfl (.refl u)
  | denied => exact .still _ _ rfl (agrees_appendAudit u _)

theorem Effect.agrees {o : Except IncidentError Answer} {v w : IncidentUnitOfWork}
    (h : Effect request u o v) (agrees : Agrees w v) : Effect request u o w := by
  cases h with
  | still _ _ unlinked h => exact .still _ w unlinked (agrees.trans h)
  | notified id i channel eventType outcome _ found h =>
    exact .notified id i channel eventType outcome w found (agrees.trans h)
  | kept event id e _ call admitted h => exact .kept event id e w call admitted (agrees.trans h)
  | changed a id i now c _ unlinked found decided h =>
    exact .changed a id i now c w unlinked found decided (agrees.trans h)
  | opened manual id number now _ call unused h =>
    exact .opened manual id number now w call unused (agrees.trans h)
  | created event id number now _ call admitted unused notEnded h =>
    exact .created event id number now w call admitted unused notEnded (agrees.trans h)
  | linked event id late i now c _ call admitted found keyed owned standing decided h =>
    exact .linked event id late i now c w call admitted found keyed owned standing decided
      (agrees.trans h)
  | ended event id i now later c d _ call last admitted found keyed owned active decided recovers
      h =>
    exact .ended event id i now later c d w call last admitted found keyed owned active decided
      recovers (agrees.trans h)
  | reopened event id i now c _ call admitted found keyed owned notEnded decided h =>
    exact .reopened event id i now c w call admitted found keyed owned notEnded decided
      (agrees.trans h)

theorem Retried.effect {key : Option IdempotencyKey} {fingerprint : RequestFingerprint}
    {mutated : α → StoredOutcome} {replay : StoredOutcome → α → Prop}
    {Ran : Except IncidentError α → Session → Prop} {o : Except IncidentError α}
    {answer : α → Answer} (h : Retried auth key fingerprint mutated replay Ran u m o t)
    (plain : ∀ a, linkedTo (.ok (answer a)) = none)
    (ran : ∀ o t, Ran o t → Effect ⟨env, auth, call⟩ u (o.map answer) t.uow) :
    Effect ⟨env, auth, call⟩ u (o.map answer) t.uow := by
  cases h with
  | refused => exact .still _ _ rfl (.refl u)
  | denied => exact .still _ _ rfl (agrees_appendAudit u _)
  | replayed k outcome a => exact .still _ _ (plain a) (.refl u)
  | executed o t new hran => exact (ran o t hran).agrees agrees_remembered

theorem linked_effect (admitted : Admitted auth event u)
    (known : ∀ i, u.store.incidents[id]? = some i → i.correlationKey = correlationKeyOf event ∧
      i.tenantId = event.target.tenant ∧ (late = false ↔ Active i.state))
    (h : Written env auth id (linking event late id) (marked event u id) m o t) :
    Effect ⟨env, auth, .ingestDetectionEvent event⟩ u (o.map .ingested) t.uow := by
  cases h with
  | wrote a c i now k n found reading first last hd =>
    obtain ⟨decided, rfl⟩ := hd
    obtain ⟨keyed, owned, standing⟩ := known i found
    exact .linked event id late i now c _ rfl admitted found keyed owned standing decided (.refl _)
  | idle a n later idle => exact idle.elim
  | refused e => exact .kept event id e _ rfl admitted (.refl _)
  | denied =>
    exact .kept event id _ _ rfl admitted (agrees_appendAudit _ _)

/-- If an incident was created, this is what it was. -/
def Makes (env : Env) (auth : AuthorizationContext) (event : DetectionEvent)
    (u : IncidentUnitOfWork) (o : Except IncidentError IngestResult) (t : Session) : Prop :=
  ∀ id, o = .ok ⟨.created, some id⟩ → env.generate = .ok id ∧ ∃ number now,
    t.uow = marked event (u.commit auth id (Commit.createIncidentInternal event event.target.tenant
      (correlationKeyOf event) id number now)) id

section Makes

variable {event : DetectionEvent}
variable {x : IncidentId} {v : IncidentUnitOfWork} {o : Except IncidentError IngestResult}
variable {t : Session}

theorem makes_refuses : Refuses u m (Makes env auth event u) := by
  rintro e n later id ⟨⟩

theorem makes_denies : Denies auth u m (Makes env auth event u) := by
  rintro permission resource reason n later id ⟨⟩

theorem Written.unmade (h : Written env auth x D v m o t)
    (other : ∀ now active i a c, D.change now active i a c → a.outcomeKind ≠ .created)
    (never : ∀ a, ¬ D.idle a) (id : IncidentId) : o ≠ .ok ⟨.created, some id⟩ := by
  rintro rfl
  cases h with
  | wrote a c i now k n found reading first last hd => exact absurd rfl (other _ _ _ _ _ hd)
  | idle a n later idle => exact absurd idle (never _)

theorem linking_unmade (h : Written env auth x (linking event late x) v m o t)
    (id : IncidentId) : o ≠ .ok ⟨.created, some id⟩ := by
  refine Written.unmade h ?_ (fun a idle => idle) id
  rintro now active i a c ⟨-, rfl⟩
  dsimp only
  split <;> decide

theorem createIncidentInternal_makes (begun : Begun u m s) :
    (createIncidentInternal auth event.target.tenant (correlationKeyOf event) event).Ends env s
      fun o t => ∀ id, o = .ok id → env.generate = .ok id ∧ ∃ number now,
        t.uow = u.commit auth id (Commit.createIncidentInternal event event.target.tenant
          (correlationKeyOf event) id number now) := by
  have refuses : Refuses u m fun (o : Except IncidentError IncidentId) t => ∀ id, o = .ok id →
      env.generate = .ok id ∧ ∃ number now, t.uow = u.commit auth id
        (Commit.createIncidentInternal event event.target.tenant (correlationKeyOf event) id number
          now) := by
    rintro e n later id ⟨⟩
  apply refuses.after_lookup begun
  rintro _ ⟨⟩
  apply refuses.after_ofExcept begun
  intro _ vacant
  apply refuses.after_decisionTime begun
  intro now k t reading first last begun
  apply refuses.after_lookup begun
  intro id generated
  apply refuses.after_lookup begun
  intro number allocated
  obtain ⟨v, n⟩ := t
  obtain rfl : v = u := begun.uow
  rintro _ ⟨⟩
  exact ⟨generated, number, now, rfl⟩

theorem ingestNew_makes (begun : Begun u m s) :
    (ingestNew auth event.target.tenant (correlationKeyOf event) event).Ends env s
      (Makes env auth event u) := by
  unfold ingestNew
  split
  · rintro id ⟨⟩
  · have ran : (createIncidentInternal auth event.target.tenant (correlationKeyOf event) event).Ends
        env s _ := createIncidentInternal_makes begun
    unfold Ends at ran
    apply Ends.bind
    · intro id t h
      rw [h] at ran
      obtain ⟨generated, number, now, made⟩ := ran id rfl
      rintro _ ⟨⟩
      refine ⟨generated, number, now, ?_⟩
      rw [← made]
      rfl
    · rintro e t h id ⟨⟩

theorem ingestCandidate_makes :
    (ingestCandidate auth event.target.tenant (correlationKeyOf event) event candidate).Ends env
      ⟨u, m⟩ (Makes env auth event u) := by
  unfold ingestCandidate
  split
  · apply ends_dedupRecord
    exact fun x hx => absurd hx
      (linking_unmade (linkEvent_writes auth _ event true env _ m ⟨_, m⟩ ⟨rfl, le_rfl⟩) x)
  · have begun : Begun u m ⟨u, m⟩ := ⟨rfl, le_rfl⟩
    apply makes_refuses.after_look looks_decisionTime begun
    intro now t h begun
    apply makes_refuses.after_lookup begun
    rintro _ ⟨⟩
    apply makes_refuses.after_ofExcept begun
    intro recurs hrecurs
    split
    · apply ends_dedupRecord
      refine fun x hx => absurd hx (Written.unmade (reopenIncidentInternal_writes auth _ event
        .reopenedByRecurrence env _ _ ⟨_, t.readings⟩ ⟨rfl, le_rfl⟩) ?_ (fun a idle => idle) x)
      rintro now active i a c ⟨-, rfl⟩ h
      cases h
    · exact ingestNew_makes begun

theorem correlate_makes :
    (correlate auth event.target.tenant (correlationKeyOf event) event).Ends env ⟨u, m⟩
      (Makes env auth event u) := by
  have begun : Begun u m ⟨u, m⟩ := ⟨rfl, le_rfl⟩
  apply makes_refuses.after_lookup begun
  intro active hactive
  split
  case h_1 id =>
    have linked := linkEvent_writes auth id event false env _ m ⟨marked event u id, m⟩
      ⟨rfl, le_rfl⟩
    intro x hx
    have answer : (ingestOpen auth event.target.tenant event id env ⟨u, m⟩).1 = _ :=
      ingestOpen_answer
    rw [hx] at answer
    exact absurd answer.symm (linking_unmade linked x)
  case h_2 =>
    apply makes_refuses.after_lookup begun
    intro candidate hcandidate
    split
    · exact ingestCandidate_makes
    · exact ingestNew_makes begun

theorem ingestDetectionEvent_makes :
    (ingestDetectionEvent auth event).Ends env ⟨u, m⟩ (Makes env auth event u) := by
  have begun : Begun u m ⟨u, m⟩ := ⟨rfl, le_rfl⟩
  apply makes_denies.after_check begun
  intro granted
  dsimp only
  split
  · exact makes_refuses.throw begun _
  · split
    · rintro id ⟨⟩
    · apply makes_refuses.after_lookup begun
      intro earlier hearlier
      split
      · rintro id ⟨⟩
      · split
        · rintro id ⟨⟩
        · exact correlate_makes

end Makes

theorem Correlated.effect (consistent : Consistent u) (unused : Unused env u)
    (admitted : Admitted auth event u) (makes : Makes env auth event u o t)
    (h : Correlated env auth event u m o t) :
    Effect ⟨env, auth, .ingestDetectionEvent event⟩ u (o.map .ingested) t.uow := by
  cases h with
  | linked id o t active ran kept =>
    refine linked_effect admitted (fun i found => ?_) ran
    obtain ⟨hkey, htenant, hactive⟩ := known_of_index consistent active i found
    exact ⟨hkey, htenant, by simpa using hactive⟩
  | ended id t o t' active last ran recovers =>
    -- the link that was answered Updated, and then what recovering did
    cases ran with
    | idle a n later idle => exact idle.elim
    | wrote a c i now k n found reading first lastRead hd =>
      obtain ⟨decided, answer⟩ := hd
      obtain ⟨hkey, htenant, hactive⟩ := known_of_index consistent active i found
      have standing : false = false ↔ Active i.state := by simpa using hactive
      have linked : ∀ v, Agrees v ((marked event u id).commit auth id c) →
          Effect ⟨env, auth, .ingestDetectionEvent event⟩ u
            (.ok (.ingested ⟨.updated, some id⟩)) v := by
        intro v agrees
        rw [answer]
        exact .linked event id false i now c v rfl admitted found hkey htenant standing decided
          agrees
      cases recovers with
      | wrote a d j later k' n' found' reading' first' last' hd =>
        obtain ⟨-, hrecovers⟩ := hd
        dsimp only at found'
        rw [commit_incidents, get_insert_self] at found'
        cases found'
        exact .ended event id i now later c d _ rfl last admitted found hkey htenant hactive decided
          hrecovers (.refl _)
      | idle a n' later idle => exact idle.elim
      | refused => exact linked _ (.refl _)
      | denied => exact linked _ (agrees_appendAudit _ _)
  | late candidate o t vacant found late ran =>
    refine linked_effect admitted (fun i hi => ?_) ran
    obtain ⟨hkey, htenant, hretired⟩ := known_of_candidate consistent found i hi
    exact ⟨hkey, htenant, by simpa using hretired⟩
  | reopened candidate now o t vacant found new reading recurs ran =>
    have notEnded : event.kind ≠ .ended := by
      intro hended
      rw [hended] at new
      cases new
    cases ran with
    | wrote a c i now' k n hi reading' first last hd =>
      obtain ⟨decided, rfl⟩ := hd
      obtain ⟨hkey, htenant, -⟩ := known_of_candidate consistent found i hi
      exact .reopened event _ i now' c _ rfl admitted hi hkey htenant notEnded decided (.refl _)
    | idle a n later idle => exact idle.elim
    | refused e => exact .kept event _ e _ rfl admitted (.refl _)
    | denied =>
      exact .kept event _ _ _ rfl admitted (agrees_appendAudit _ _)
  | created id t notEnded ran =>
    obtain ⟨generated, number, now, made⟩ := makes id rfl
    refine .created event id number now _ rfl admitted (unused id generated) notEnded ?_
    rw [made]
    exact .refl _
  | quarantined | refused => exact .still _ _ rfl (.refl u)

def Recorded (request : Request) (u : IncidentUnitOfWork) (o : Except IncidentError Unit)
    (t : Session) : Prop :=
  Effect request u (o.map fun _ => .done) t.uow

theorem recorded_refuses : Refuses u 0 (Recorded request u) :=
  fun _ _ _ => .still _ _ rfl (.refl u)

theorem recorded_denies : Denies auth u 0 (Recorded request u) :=
  fun _ _ _ _ _ => .still _ _ rfl (agrees_appendAudit u _)

theorem step_effect (consistent : Consistent u) (request : Request)
    (unused : Unused request.env u) :
    Effect request u (service.step u request).1 (service.step u request).2 := by
  obtain ⟨env, auth, call⟩ := request
  cases call with simp only [service, perform, bind_pure_apply]
  | ingestDetectionEvent event =>
    have ends : (ingestDetectionEvent auth event).Ends env ⟨u, 0⟩ (Ingested env auth event u 0) :=
      ingestDetectionEvent_ends
    have makes : (ingestDetectionEvent auth event).Ends env ⟨u, 0⟩ (Makes env auth event u) :=
      ingestDetectionEvent_makes
    unfold Ends at ends makes
    generalize ingestDetectionEvent auth event env ⟨u, 0⟩ = ended at ends makes ⊢
    obtain ⟨o, t⟩ := ended
    dsimp only at ends makes ⊢
    cases ends with
    | refused => exact .still _ _ rfl (.refl u)
    | denied => exact .still _ _ rfl (agrees_appendAudit u _)
    | turned a n later kind =>
      obtain ⟨outcome, incident⟩ := a
      refine .still _ _ ?_ (.refl u)
      rcases kind with rfl | rfl | rfl <;> rfl
    | correlated o t admitted ran => exact Correlated.effect consistent unused admitted makes ran
  | createManualIncident manual key =>
    have ends := createManualIncident_ends env auth key manual (Begun.start (u := u))
    apply Retried.effect ends (fun _ => rfl)
    intro o t ran
    cases ran with
    | created id number now c k n generated allocated reading first last vacant opened =>
      cases opened with
      | detected event given own => exact given.elim
      | manual request valid =>
        exact .opened request id number now _ ⟨manual, key, rfl⟩ (unused id generated) (.refl _)
    | refused => exact .still _ _ rfl (.refl u)
  | recordExport =>
    apply recorded_denies.after_check .start
    intro granted
    apply recorded_refuses.after_findOwned .start
    intro i found owned
    exact .still _ _ rfl (agrees_appendAudit u _)
  | recordNotificationResult id channel eventType outcome =>
    apply recorded_denies.after_check .start
    intro granted
    apply recorded_refuses.after_ofExcept .start
    intro _ _
    apply recorded_refuses.after_findOwned .start
    intro i found owned
    exact .notified id i channel eventType outcome _ found (.refl _)
  | enterRecovering id reason =>
    apply Written.effect (enterRecovering_writes auth id reason env u 0 ⟨u, 0⟩ .start) fun _ => rfl
    rintro now active i a c ⟨-, h⟩
    exact ⟨rfl, h⟩
  | enterRecoveringIfSilent id silentAfter =>
    apply Written.effect (enterRecoveringIfSilent_writes auth id silentAfter env u 0 ⟨u, 0⟩ .start)
      fun _ => rfl
    rintro now active i a c ⟨-, -, h⟩
    exact ⟨rfl, h⟩
  | confirmRecoveryIfDue id confirmation =>
    apply Written.effect (confirmRecoveryIfDue_writes auth id confirmation env u 0 ⟨u, 0⟩ .start)
      fun _ => rfl
    rintro now active i a c ⟨-, -, -, h⟩
    exact ⟨rfl, h⟩
  | abortRecovery id =>
    apply Written.effect (abortRecovery_writes auth id env u 0 ⟨u, 0⟩ .start) fun _ => rfl
    rintro now active i a c ⟨-, h⟩
    exact ⟨rfl, h⟩
  | attemptAutomaticClosure id =>
    apply Written.effect (attemptAutomaticClosure_writes auth id env u 0 ⟨u, 0⟩ .start) fun _ => rfl
    rintro now active i a c ⟨-, -, h⟩
    exact ⟨rfl, h⟩
  | handleCommand id command key =>
    have ends := handleCommand_keeps env auth key (applyCommand_orders auth id command)
      (Begun.start (u := u))
    apply Retried.effect ends (fun _ => rfl)
    rintro o t ⟨i, result, found, owned, -, ran, rfl⟩
    have effect : Effect ⟨env, auth, .handleCommand id command key⟩ u
        (result.map fun c => .version c.incident.version) t.uow := by
      apply Written.effect ran fun _ => rfl
      rintro now active i a c ⟨-, h⟩
      exact ⟨rfl, h⟩
    cases result <;> exact effect

end Effects

theorem run_effect (closurePolicy : ClosurePolicy) (reopenPolicy : ReopenPolicy) (year : Nat)
    (requests : List Request) (request : Request)
    (distinct : (handedOut (requests ++ [request])).Nodup) :
    Effect request (service.run (new closurePolicy reopenPolicy year) requests)
      (service.step (service.run (new closurePolicy reopenPolicy year) requests) request).1
      (service.run (new closurePolicy reopenPolicy year) (requests ++ [request])) := by
  obtain ⟨hconsistent, hstored⟩ :=
    run_consistent closurePolicy reopenPolicy year requests (distinct_past distinct)
  rw [service.run_snoc]
  exact step_effect hconsistent request (unused_of_distinct distinct hstored)

/-- The incident `id` becomes `j`, and the others stay. -/
def Replaces (u v : IncidentUnitOfWork) (id : IncidentId) (j : Incident) : Prop :=
  ∀ x : IncidentId, v.store.incidents[x]? = if id = x then some j else u.store.incidents[x]?

section Replaces

variable {u v w : IncidentUnitOfWork} {auth : AuthorizationContext} {id : IncidentId}
variable {c : Commit}
variable {x : IncidentId}

theorem replaces_commit (agrees : Agrees v (w.commit auth id c))
    (same : w.store.incidents = u.store.incidents) : Replaces u v id c.incident := by
  intro x
  rw [agrees.incidents, commit_incidents, get_insert, same]

theorem replaces_marked
    (agrees : Agrees v (marked event (u.commit auth id c) x)) : Replaces u v id c.incident := by
  intro y
  rw [agrees.incidents]
  change (u.commit auth id c).store.incidents[y]? = _
  rw [commit_incidents, get_insert]

theorem replaces_commit_commit {d : Commit}
    (agrees : Agrees v ((w.commit auth id c).commit auth id d))
    (same : w.store.incidents = u.store.incidents) : Replaces u v id d.incident := by
  intro x
  rw [agrees.incidents, commit_incidents, get_insert, commit_incidents, get_insert, same]
  split <;> rfl

theorem Replaces.self (h : Replaces u v id j) : v.store.incidents[id]? = some j := by
  rw [h id, if_pos rfl]

theorem Replaces.other (h : Replaces u v id j) (other : id ≠ x) :
    v.store.incidents[x]? = u.store.incidents[x]? := by
  rw [h x, if_neg other]

end Replaces

end Tidegard.Incident.Proofs.Effects
