import Tidegard.Incident.Proofs.Index

namespace Tidegard.Incident.Proofs.Mediation

open Tables Actions.Action Detector.Event Basics Store Commits UnitOfWork Writes Calls Moves Index

/-- The permission a call requires. -/
def requiredPermission : Call → Permission
  | .ingestDetectionEvent _ | .enterRecovering .. | .enterRecoveringIfSilent ..
  | .confirmRecoveryIfDue .. | .abortRecovery _ | .attemptAutomaticClosure _ => .incidentIngest
  | .createManualIncident .. => .incidentCreate
  | .recordExport _ => .incidentExport
  | .recordNotificationResult .. => .incidentNotificationRecord
  | .handleCommand _ command _ => command.requiredPermission

def timelineOf (u : IncidentUnitOfWork) (id : IncidentId) : List TimelineEntry :=
  u.store.timeline.filter fun entry => entry.incidentId = id

def outboxOf (u : IncidentUnitOfWork) (id : IncidentId) : List OutboxMessage :=
  u.store.outbox.filter fun message => message.incidentId = id

/-- The incident itself, its timeline or its messages are not what they were. -/
def Altered (u v : IncidentUnitOfWork) (id : IncidentId) : Prop :=
  v.store.incidents[id]? ≠ u.store.incidents[id]? ∨ timelineOf v id ≠ timelineOf u id ∨
    outboxOf v id ≠ outboxOf u id

/-- The incident is altered, or enters or leaves the open index. -/
def Concerned (u v : IncidentUnitOfWork) (id : IncidentId) : Prop :=
  Altered u v id ∨ ∃ key : CorrelationKey,
    ¬(v.store.openIndex[key]? = some id ↔ u.store.openIndex[key]? = some id)

/-- The entry allows the caller something about the incident. -/
structure Allows (auth : AuthorizationContext) (id : IncidentId) (entry : AuditEntry) : Prop where
  outcome : entry.outcome = .allowed
  tenant : entry.tenant = auth.tenant
  actor : entry.actor = auth.actor
  resource : entry.resource = .incident id

/-- The tables only grow from `u` to `v`, and whatever is altered is audited. -/
structure Audited (auth : AuthorizationContext) (u v : IncidentUnitOfWork) : Prop where
  audit : ∃ added, v.store.audit = u.store.audit ++ added ∧
    ∀ id, Altered u v id → ∃ entry ∈ added, Allows auth id entry
  timeline : u.store.timeline <+: v.store.timeline
  outbox : u.store.outbox <+: v.store.outbox

section Audits

variable {auth : AuthorizationContext} {u v : IncidentUnitOfWork} {id : IncidentId}
variable {α : Type}
variable {event : DetectionEvent}

theorem Altered.split (h : Altered u w id) (v : IncidentUnitOfWork) :
    Altered u v id ∨ Altered v w id := by
  by_contra hneither
  simp only [Altered, not_or, not_not] at hneither
  obtain ⟨⟨hi, ht, ho⟩, hi', ht', ho'⟩ := hneither
  rcases h with h | h | h
  · exact h (hi'.trans hi)
  · exact h (ht'.trans ht)
  · exact h (ho'.trans ho)

theorem Audited.trans (h : Audited auth u v) (h' : Audited auth v w) : Audited auth u w := by
  obtain ⟨added, haudit, hnames⟩ := h.audit
  obtain ⟨added', haudit', hnames'⟩ := h'.audit
  refine ⟨⟨added ++ added', by rw [haudit', haudit, List.append_assoc], fun id halt => ?_⟩,
    h.timeline.trans h'.timeline, h.outbox.trans h'.outbox⟩
  rcases halt.split v with halt | halt
  · obtain ⟨entry, hentry, hallows⟩ := hnames id halt
    exact ⟨entry, List.mem_append_left _ hentry, hallows⟩
  · obtain ⟨entry, hentry, hallows⟩ := hnames' id halt
    exact ⟨entry, List.mem_append_right _ hentry, hallows⟩

theorem Audited.aside (incidents : v.store.incidents = u.store.incidents)
    (timeline : v.store.timeline = u.store.timeline) (outbox : v.store.outbox = u.store.outbox)
    (audit : v.store.audit = u.store.audit ++ added) : Audited auth u v := by
  refine ⟨⟨added, audit, fun id h => ?_⟩, by rw [timeline], by rw [outbox]⟩
  simp only [Altered, timelineOf, outboxOf, incidents, timeline, outbox, ne_eq, not_true_eq_false,
    or_self] at h

section

variable (auth : AuthorizationContext)

theorem Audited.refl (u : IncidentUnitOfWork) : Audited auth u u :=
  .aside rfl rfl rfl (List.append_nil _).symm

theorem Audited.noted (u : IncidentUnitOfWork)
    (entry : Nat → AuditEntry) : Audited auth u (u.appendAudit entry) :=
  .aside rfl rfl rfl rfl

theorem Audited.marked (event : DetectionEvent)
    (u : IncidentUnitOfWork) (id : IncidentId) : Audited auth u (marked event u id) :=
  .aside rfl rfl rfl (List.append_nil _).symm

theorem Audited.remembered (u : IncidentUnitOfWork)
    (key : Option IdempotencyKey) (fingerprint : RequestFingerprint)
    (outcome : Option StoredOutcome) :
    Audited auth u (remembered u auth.tenant key fingerprint outcome) := by
  unfold UnitOfWork.remembered
  split
  · exact .aside rfl rfl rfl (List.append_nil _).symm
  · exact .refl auth u

end

theorem mem_numbered {sequence : Nat}
    (h : entry ∈ numbered id sequence entries) : entry.incidentId = id := by
  induction entries generalizing sequence with
  | nil => cases h
  | cons first rest ih =>
    rcases List.mem_cons.mp h with rfl | h
    · rfl
    · exact ih h

theorem altered_commit (h : Altered u (u.commit auth id c) x) : x = id := by
  by_contra hne
  have hne' : id ≠ x := fun h => hne h.symm
  rcases h with h | h | h
  · rw [commit_incidents, get_insert_ne _ _ hne'] at h
    exact h rfl
  · refine h ?_
    unfold timelineOf
    rw [commit_timeline, List.filter_append, List.append_right_eq_self, List.filter_eq_nil_iff]
    intro entry hentry
    rw [mem_numbered hentry]
    simpa using hne'
  · refine h ?_
    unfold outboxOf
    rw [commit_eq]
    cases c.outbox with
    | none => simp
    | some event => simp [hne']

theorem Audited.commit (u : IncidentUnitOfWork) (id : IncidentId) (c : Commit) :
    Audited auth u (u.commit auth id c) := by
  refine ⟨⟨[AuditEntry.allowed auth c.permission id c.reason c.change u.auditSequence], ?_,
    fun x h => ?_⟩, ?_, ?_⟩
  · rw [commit_eq]
  · rw [altered_commit h]
    exact ⟨_, List.mem_cons_self, rfl, rfl, rfl, rfl⟩
  · rw [commit_timeline]
    exact List.prefix_append _ _
  · rw [commit_eq]
    exact List.prefix_append _ _

theorem Written.audited (h : Written env auth id D u m o t) : Audited auth u t.uow := by
  cases h with
  | wrote a c => exact .commit u id c
  | idle | refused => exact .refl auth u
  | denied => exact .noted auth u _

theorem Created.audited (h : Created env auth seen u m o t) : Audited auth u t.uow := by
  cases h with
  | created id number now c =>
    exact .commit u id c
  | refused => exact .refl auth u

theorem Correlated.audited (h : Correlated env auth event u m o t) : Audited auth u t.uow := by
  cases h with
  | linked id o t active ran kept => exact (Audited.marked auth event u id).trans (Written.audited ran)
  | ended id t o t' active last ran recovers =>
    exact ((Audited.marked auth event u id).trans (Written.audited ran)).trans
      (Written.audited recovers)
  | late candidate o t vacant found late ran
  | reopened candidate now o t vacant found new reading recurs ran =>
    exact (Audited.marked auth event u _).trans (Written.audited ran)
  | created id t notEnded ran =>
    exact (Created.audited ran).trans (Audited.marked auth event t.uow id)
  | quarantined | refused => exact .refl auth u

theorem Ingested.audited (h : Ingested env auth event u m o t) : Audited auth u t.uow := by
  cases h with
  | refused | turned => exact .refl auth u
  | denied => exact .noted auth u _
  | correlated o t admitted ran => exact Correlated.audited ran

theorem Retried.audited (h : Retried auth key fingerprint mutated replay Ran u m o t)
    (ran : ∀ o t, Ran o t → Audited auth u t.uow) : Audited auth u t.uow := by
  cases h with
  | refused | replayed => exact .refl auth u
  | denied => exact .noted auth u _
  | executed o t new hran => exact (ran o t hran).trans (.remembered auth t.uow _ _ _)

theorem recordExport_audited :
    (recordExport auth id).Ends env ⟨u, 0⟩ fun _ t => Audited auth u t.uow := by
  have denies : Denies (α := Unit) auth u 0 fun _ t => Audited auth u t.uow :=
    fun _ _ _ _ _ => .noted auth u _
  have refuses : Refuses (α := Unit) u 0 fun _ t => Audited auth u t.uow :=
    fun _ _ _ => .refl auth u
  apply denies.after_check .start
  intro granted
  apply refuses.after_findOwned .start
  intro i found owned
  exact .noted auth u _

theorem writesOnce_audited (h : WritesOnce auth id D x) :
    x.Ends env ⟨u, 0⟩ fun _ t => Audited auth u t.uow :=
  (h env u 0 ⟨u, 0⟩ ⟨rfl, le_rfl⟩).mono fun _ _ => Written.audited

/-- Only the result of a notification is written to a timeline without an audit entry. -/
theorem perform_audited
    (h : ∀ id channel eventType outcome,
      call ≠ .recordNotificationResult id channel eventType outcome) :
    Audited auth u (perform auth call env ⟨u, 0⟩).2.uow := by
  cases call with simp only [perform, bind_pure_apply]
  | recordNotificationResult => exact absurd rfl (h _ _ _ _)
  | ingestDetectionEvent => exact Ingested.audited ingestDetectionEvent_ends
  | createManualIncident request key =>
    exact Retried.audited (createManualIncident_ends env auth key request ⟨rfl, le_rfl⟩)
      fun _ _ => Created.audited
  | recordExport => exact recordExport_audited
  | enterRecovering id reason => exact writesOnce_audited (enterRecovering_writes auth id reason)
  | enterRecoveringIfSilent id silentAfter =>
    exact writesOnce_audited (enterRecoveringIfSilent_writes auth id silentAfter)
  | confirmRecoveryIfDue id confirmation =>
    exact writesOnce_audited (confirmRecoveryIfDue_writes auth id confirmation)
  | abortRecovery id => exact writesOnce_audited (abortRecovery_writes auth id)
  | attemptAutomaticClosure id => exact writesOnce_audited (attemptAutomaticClosure_writes auth id)
  | handleCommand id command key =>
    refine Retried.audited (handleCommand_ends env auth key id command ⟨rfl, le_rfl⟩) ?_
    rintro o t ⟨i, result, found, owned, -, ran, -⟩
    exact Written.audited ran

end Audits

section Permission

variable {auth : AuthorizationContext} {u : IncidentUnitOfWork} {α : Type}

/-- The service after the refusal of a call for a permission its caller lacks. -/
def deniedUow (auth : AuthorizationContext) (permission : Permission)
    (resource : AttemptedResource) (u : IncidentUnitOfWork) : IncidentUnitOfWork :=
  u.appendAudit (AuditEntry.denied auth permission resource "missing required permission")

theorem checkPermission_lacking (lacks : auth.has permission = false) (f : Unit → Uow α) :
    (checkPermission auth permission resource >>= f) env ⟨u, 0⟩ =
      (.error .unauthorized, ⟨deniedUow auth permission resource u, 0⟩) := by
  refine bind_error.mpr (Or.inl ?_)
  unfold checkPermission
  rw [if_neg (by rw [lacks]; exact Bool.false_ne_true)]
  rfl

/-- What a call is made on, as far as a refusal tells. -/
def attempted : Call → AttemptedResource
  | .ingestDetectionEvent event => .unresolved event.detectionId
  | .createManualIncident .. => .unresolved "new incident"
  | .recordExport id | .recordNotificationResult id .. | .enterRecovering id _
  | .enterRecoveringIfSilent id _ | .confirmRecoveryIfDue id _ | .abortRecovery id
  | .attemptAutomaticClosure id | .handleCommand id .. => .unresolved id.toCanonicalString

theorem perform_lacking (lacks : auth.has (requiredPermission call) = false) :
    perform auth call env ⟨u, 0⟩ =
      (.error .unauthorized, ⟨deniedUow auth (requiredPermission call) (attempted call) u, 0⟩) := by
  cases call <;> exact bind_error.mpr (Or.inl (checkPermission_lacking lacks _))

end Permission

section Owned

variable {auth : AuthorizationContext}
variable {u v : IncidentUnitOfWork} {id : IncidentId}

theorem not_altered (u : IncidentUnitOfWork) (id : IncidentId) : ¬Altered u u id := by
  simp [Altered]

def StoredFor (tenant : TenantId) (u : IncidentUnitOfWork) (id : IncidentId) : Prop :=
  ∃ i, u.store.incidents[id]? = some i ∧ i.tenantId = tenant

theorem altered_appendTimeline (h : Altered u (u.appendTimeline id actor payload) x) : x = id := by
  by_contra hne
  have hne' : id ≠ x := fun h => hne h.symm
  rcases h with h | h | h
  · exact h rfl
  · refine h ?_
    simp [timelineOf, IncidentUnitOfWork.appendTimeline, hne']
  · exact h rfl

theorem move_owned (sound : g.sound) (h : Move env auth g s t)
    (altered : Altered s.uow t.uow id) : StoredFor auth.tenant t.uow id := by
  cases h with
  | read | deny | export_ | dedup | remember => exact absurd altered (not_altered s.uow id)
  | notify x i found owned =>
    rw [altered_appendTimeline altered]
    exact ⟨i, found, owned⟩
  | create x number now c k n generated allocated reading first last vacant unused opened =>
    rw [altered_commit altered]
    exact ⟨c.incident, by rw [commit_incidents, get_insert_self], (Opened.fresh opened).tenantId⟩
  | change x i now c k n found owned reading first last decided =>
    rw [altered_commit altered]
    exact ⟨c.incident, by rw [commit_incidents, get_insert_self],
      decided.edit.identity.tenantId.trans (owned sound)⟩

theorem perform_owned (hu : Consistent u) (unused : Unused request.env u)
    (altered : Altered u (service.step u request).2 id) :
    StoredFor request.auth.tenant (service.step u request).2 id := by
  have sound : (groundsOf request u).sound := ⟨hu, unused⟩
  suffices h : Consistent (service.step u request).2 ∧ ∀ id,
      Altered u (service.step u request).2 id →
        StoredFor request.auth.tenant (service.step u request).2 id from h.2 id altered
  refine step_invariant (P := fun s => Consistent s.uow ∧
    ∀ id, Altered u s.uow id → StoredFor request.auth.tenant s.uow id) ?_
    ⟨hu, fun id h => absurd h (not_altered u id)⟩
  intro s t hmove ⟨hs, howned⟩
  obtain ⟨ht, hgrows⟩ := move_consistent sound hmove hs
  refine ⟨ht, fun id h => ?_⟩
  rcases h.split s.uow with h | h
  · obtain ⟨i, hi, htenant⟩ := howned id h
    obtain ⟨j, hj, identity⟩ := hgrows.kept id i hi
    exact ⟨j, hj, identity.tenantId.trans htenant⟩
  · exact move_owned sound hmove h

theorem Concerned.altered (hu : Consistent u) (hv : Consistent v) (h : Concerned u v id) :
    Altered u v id := by
  rcases h with h | ⟨key, h⟩
  · exact h
  · by_contra hsame
    have hincident : v.store.incidents[id]? = u.store.incidents[id]? :=
      not_not.mp fun hne => hsame (Or.inl hne)
    refine h ((hv.index key id).trans (Iff.trans ?_ (hu.index key id).symm))
    unfold HoldsKey
    rw [hincident]

def Changed (u v : IncidentUnitOfWork) : Prop :=
  v.store.incidents ≠ u.store.incidents ∨ v.store.openIndex ≠ u.store.openIndex ∨
    v.store.timeline ≠ u.store.timeline ∨ v.store.outbox ≠ u.store.outbox

/-- A list that grew has more of some incident. -/
theorem exists_filter_ne {β : Type} {before after : List β} (f : β → IncidentId)
    (grown : before <+: after) (hne : after ≠ before) :
    ∃ id, (after.filter fun b => f b = id) ≠ before.filter fun b => f b = id := by
  obtain ⟨added, rfl⟩ := grown
  cases added with
  | nil => exact absurd (List.append_nil _) hne
  | cons b rest =>
    refine ⟨f b, ?_⟩
    simp

theorem Audited.concerned (h : Audited auth u v) (changed : Changed u v) :
    ∃ id, Concerned u v id := by
  rcases changed with hne | hne | hne | hne
  · by_contra hnone
    refine hne (Std.ExtTreeMap.ext_getElem? fun id => ?_)
    exact not_not.mp fun h => hnone ⟨id, Or.inl (Or.inl h)⟩
  · by_contra hnone
    refine hne (Std.ExtTreeMap.ext_getElem? fun key => Option.ext fun id => ?_)
    exact not_not.mp fun h => hnone ⟨id, Or.inr ⟨key, h⟩⟩
  · obtain ⟨id, hid⟩ := exists_filter_ne TimelineEntry.incidentId h.timeline hne
    exact ⟨id, Or.inl (Or.inr (Or.inl hid))⟩
  · obtain ⟨id, hid⟩ := exists_filter_ne OutboxMessage.incidentId h.outbox hne
    exact ⟨id, Or.inl (Or.inr (Or.inr hid))⟩

end Owned

/-- What may come of a request made of `u`: the answer and the service after it. -/
structure Mediated (request : Request) (u : IncidentUnitOfWork)
    (answer : Except IncidentError Answer) (v : IncidentUnitOfWork) : Prop where
  /-- A change is made with the permission the call requires, and concerns some incident. -/
  permitted : Changed u v → request.auth.has (requiredPermission request.call) = true ∧
    ∃ id, Concerned u v id
  /-- Every incident concerned is the caller's, before and after, and the call has added an entry
  that allows it. -/
  audited : ∃ added, v.store.audit = u.store.audit ++ added ∧ ∀ id, Concerned u v id →
    (∀ i, u.store.incidents[id]? = some i → i.tenantId = request.auth.tenant) ∧
      StoredFor request.auth.tenant v id ∧ ∃ entry ∈ added, Allows request.auth id entry
  /-- A call refused for a missing permission adds one denied entry and does nothing else. -/
  denied : request.auth.has (requiredPermission request.call) = false →
    answer = .error .unauthorized ∧
      v = deniedUow request.auth (requiredPermission request.call) (attempted request.call) u

/-- In every run whose ids never repeat, every call but the record of a notification is mediated
and audited. -/
theorem calls_mediated (closurePolicy : ClosurePolicy) (reopenPolicy : ReopenPolicy) (year : Nat)
    (requests : List Request) (request : Request)
    (distinct : (handedOut (requests ++ [request])).Nodup)
    (other : ∀ id channel eventType outcome,
      request.call ≠ .recordNotificationResult id channel eventType outcome) :
    let u := service.run (new closurePolicy reopenPolicy year) requests
    Mediated request u (service.step u request).1 (service.step u request).2 := by
  intro u
  have hpast := distinct_past distinct
  obtain ⟨hu, hstored⟩ := run_consistent closurePolicy reopenPolicy year requests hpast
  have unused := unused_of_distinct distinct hstored
  obtain ⟨hv, hgrows⟩ := step_consistent request hu unused
  have haudited : Audited request.auth u (service.step u request).2 := perform_audited other
  have hdenied (lacks : request.auth.has (requiredPermission request.call) = false) :
      service.step u request = (.error .unauthorized,
        deniedUow request.auth (requiredPermission request.call) (attempted request.call) u) := by
    change ((perform request.auth request.call request.env ⟨u, 0⟩).1,
      (perform request.auth request.call request.env ⟨u, 0⟩).2.uow) = _
    rw [perform_lacking lacks]
  refine ⟨fun changed => ⟨?_, haudited.concerned changed⟩, ?_, fun lacks => ?_⟩
  · -- a refused call leaves the four tables as they were
    by_contra lacks
    rw [hdenied (Bool.eq_false_of_not_eq_true lacks)] at changed
    rcases changed with h | h | h | h <;> exact h rfl
  · obtain ⟨added, hadded, hallows⟩ := haudited.audit
    refine ⟨added, hadded, fun id hid => ?_⟩
    have haltered := hid.altered hu hv
    have howned := perform_owned hu unused haltered
    refine ⟨fun i hi => ?_, howned, hallows id haltered⟩
    obtain ⟨j, hj, htenant⟩ := howned
    obtain ⟨j', hj', identity⟩ := hgrows.kept id i hi
    rw [hj] at hj'
    cases hj'
    exact identity.tenantId.symm.trans htenant
  · rw [hdenied lacks]
    exact ⟨rfl, rfl⟩

/-- The resolution of an incident that a detection opened. -/
theorem calls_mediated_resolved :
    (handedOut [sampleIngest 0 0 "d0" .started 0,
      sampleCommand 10 1 (sampleId 0) (.resolveIncident 1 none)]).Nodup ∧
    Mediated (sampleCommand 10 1 (sampleId 0) (.resolveIncident 1 none))
      (service.run (new {} {} 2026) [sampleIngest 0 0 "d0" .started 0])
      (service.step (service.run (new {} {} 2026) [sampleIngest 0 0 "d0" .started 0])
        (sampleCommand 10 1 (sampleId 0) (.resolveIncident 1 none))).1
      (service.step (service.run (new {} {} 2026) [sampleIngest 0 0 "d0" .started 0])
        (sampleCommand 10 1 (sampleId 0) (.resolveIncident 1 none))).2 :=
  ⟨by decide, calls_mediated {} {} 2026 [sampleIngest 0 0 "d0" .started 0]
    (sampleCommand 10 1 (sampleId 0) (.resolveIncident 1 none)) (by decide)
    fun _ _ _ _ h => nomatch h⟩

end Tidegard.Incident.Proofs.Mediation
