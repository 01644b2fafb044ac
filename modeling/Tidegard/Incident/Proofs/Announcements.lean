import Tidegard.Incident.Proofs.Effects
import Tidegard.Incident.Proofs.Recovery

namespace Tidegard.Incident.Proofs.Announcements

open Fallible Detector.Event Basics Time Record Store Commits UnitOfWork Changes Writes Calls Index
open Effects
open Recovery (stateOf)

def sent (u v : IncidentUnitOfWork) : List OutboxMessage :=
  v.store.outbox.drop u.store.outbox.length

/-- A message about the incident was sent, and the new count if it was reopened. -/
structure Announced (u v : IncidentUnitOfWork) (id : IncidentId) : Prop where
  told : ∃ message ∈ sent u v, message.incidentId = id
  counted : ∀ i j, u.store.incidents[id]? = some i → v.store.incidents[id]? = some j →
    ¬ Active i.state → Active j.state →
    ∃ message ∈ sent u v, message.incidentId = id ∧
      message.event = .incidentReopened j.reopenCount

/-- The calls that change a state without a message. -/
def Silent : Call → Prop
  | .abortRecovery _ => True
  | .handleCommand _ command _ => command.kind = .acknowledge ∨
      command.kind = .beginInvestigation ∨ command.kind = .markMonitoring ∨
      command.kind = .reopen
  | _ => False

/-- The message a change of state sends, if any: on a reopening it carries the new count. -/
def Voiced (i : Incident) (c : Commit) : Prop :=
  ∃ event, c.outbox = some event ∧
    (¬ Active i.state → Active c.incident.state →
      event = .incidentReopened c.incident.reopenCount)

section Changes

variable {active : Option IncidentId}
variable {c : Commit}
variable {id : IncidentId}

theorem enterRecovering_voiced (h : Commit.enterRecovering reason now i = .ok c) : Voiced i c := by
  simp only [Commit.enterRecovering, transition_enterRecovering_ok, bind_eq_ok, pure_eq_ok,
    nextVersion_ok] at h
  obtain ⟨-, legal, v, -, rfl⟩ := h
  exact ⟨_, rfl, fun retired => absurd (active_of_recovers legal) retired⟩

theorem resolveInternal_voiced
    (h : Commit.resolveInternal auth cause note now i = .ok c) : Voiced i c := by
  simp only [Commit.resolveInternal, bind_eq_ok, pure_eq_ok, nextVersion_ok] at h
  obtain ⟨-, -, -, -, v, -, rfl⟩ := h
  exact ⟨_, rfl, fun _ revived => absurd rfl revived.1⟩

theorem closeInternal_voiced
    (h : Commit.closeInternal auth reason cause now i = .ok c) : Voiced i c := by
  simp only [Commit.closeInternal, bind_eq_ok, pure_eq_ok, nextVersion_ok] at h
  obtain ⟨-, -, v, -, rfl⟩ := h
  exact ⟨_, rfl, fun _ revived => absurd rfl revived.2⟩

theorem reopenIncidentInternal_voiced
    (h : Commit.reopenIncidentInternal active event cause now i = .ok c) : Voiced i c := by
  simp only [Commit.reopenIncidentInternal, bind_eq_ok, pure_eq_ok] at h
  obtain ⟨-, -, -, -, n, -, v, -, rfl⟩ := h
  exact ⟨_, rfl, fun _ _ => rfl⟩

theorem guardedOperatorTransition_silent
    (h : Commit.guardedOperatorTransition auth toState kind permission extra now i = .ok c) :
    c.outbox = none := by
  simp only [Commit.guardedOperatorTransition, bind_eq_ok, pure_eq_ok] at h
  obtain ⟨-, -, -, -, v, -, rfl⟩ := h
  rfl

theorem recordEdit_state {edited : Incident} {reason : Option String} {change : Option FieldChange}
    {outbox : Option OutboxEvent}
    (h : Commit.recordEdit auth now i edited payload permission reason change outbox = .ok c) :
    c.incident.state = edited.state := by
  simp only [Commit.recordEdit, bind_eq_ok, pure_eq_ok] at h
  obtain ⟨v, -, rfl⟩ := h
  rfl

theorem Ordered.voiced (h : Ordered auth command active now i c)
    (moved : c.incident.state ≠ i.state) :
    (Silent (.handleCommand id command key) → c.outbox = none) ∧
      (¬ Silent (.handleCommand id command key) → Voiced i c) := by
  cases command with
  | acknowledgeIncident =>
    exact ⟨fun _ => guardedOperatorTransition_silent h, fun loud => absurd (.inl rfl) loud⟩
  | beginInvestigation =>
    exact ⟨fun _ => guardedOperatorTransition_silent h, fun loud => absurd (.inr (.inl rfl)) loud⟩
  | markMonitoring =>
    exact ⟨fun _ => guardedOperatorTransition_silent h,
      fun loud => absurd (.inr (.inr (.inl rfl))) loud⟩
  | resolveIncident =>
    exact ⟨by simp [Silent, Command.kind], fun _ => resolveInternal_voiced h⟩
  | closeIncident =>
    exact ⟨by simp [Silent, Command.kind], fun _ => closeInternal_voiced h⟩
  | reopenIncident =>
    refine ⟨fun _ => ?_, fun loud => absurd (.inr (.inr (.inr rfl))) loud⟩
    simp only [Ordered, Commit.operatorReopen, bind_eq_ok, pure_eq_ok] at h
    obtain ⟨-, -, -, -, n, -, v, -, rfl⟩ := h
    rfl
  | suppressIncident =>
    obtain ⟨-, deadline, h⟩ := h
    exact absurd (recordEdit_state h) moved
  | unsuppressIncident | assignIncident | unassignIncident | changePriority | removeTag => exact absurd (recordEdit_state h) moved
  | changeSeverity =>
    obtain ⟨-, -, h⟩ := bind_eq_ok.mp h
    exact absurd (recordEdit_state h) moved
  | addNote =>
    obtain ⟨-, -, h⟩ := bind_eq_ok.mp h.2
    exact absurd (recordEdit_state h) moved
  | editNote =>
    obtain ⟨-, original, -, -, h⟩ := h
    simp only [Commit.editNote, bind_eq_ok] at h
    obtain ⟨-, -, -, -, -, -, h⟩ := h
    exact absurd (recordEdit_state h) moved
  | redactNote =>
    have same : c.incident.state = i.state := by
      obtain ⟨-, h⟩ := h
      simp only [Commit.redactNote, bind_eq_ok, pure_eq_ok] at h
      obtain ⟨v, -, note, -, -, -, rfl⟩ := h
      rfl
    exact absurd same moved
  | addTag =>
    obtain ⟨-, -, h⟩ := bind_eq_ok.mp h.2.2
    exact absurd (recordEdit_state h) moved

theorem Maintained.voiced (h : Maintained auth call id active now i c)
    (moved : c.incident.state ≠ i.state) :
    (Silent call → c.outbox = none) ∧ (¬ Silent call → Voiced i c) := by
  cases call with
  | enterRecovering | enterRecoveringIfSilent =>
    exact ⟨False.elim, fun _ => enterRecovering_voiced h.2⟩
  | confirmRecoveryIfDue =>
    exact ⟨False.elim, fun _ => resolveInternal_voiced h.2⟩
  | abortRecovery =>
    obtain ⟨-, h⟩ := h
    simp only [Commit.abortRecovery, bind_eq_ok, pure_eq_ok] at h
    obtain ⟨before, -, v, -, rfl⟩ := h
    exact ⟨fun _ => rfl, fun loud => absurd trivial loud⟩
  | attemptAutomaticClosure => exact ⟨False.elim, fun _ => closeInternal_voiced h.2⟩
  | handleCommand => exact Ordered.voiced h.2 moved
  | ingestDetectionEvent | createManualIncident | recordExport | recordNotificationResult => exact h.elim

end Changes

section Calls

variable {u : IncidentUnitOfWork} {id : IncidentId}
variable {c : Commit}

/-- The message of a change. -/
def messageOf (u : IncidentUnitOfWork) (auth : AuthorizationContext) (id : IncidentId)
    (event : OutboxEvent) : OutboxMessage where
  sequence := u.outboxSequence
  tenant := auth.tenant
  incidentId := id
  event := event

theorem commit_outbox : (u.commit auth id c).store.outbox =
    u.store.outbox ++ (c.outbox.map (messageOf u auth id)).toList := by
  rw [commit_eq]
  rfl

theorem sent_of_append (h : v.store.outbox = u.store.outbox ++ messages) : sent u v = messages := by
  unfold sent
  rw [h, List.drop_left]

theorem stateOf_same (h : v.store.incidents = u.store.incidents) : stateOf v x = stateOf u x := by
  unfold stateOf
  rw [h]

theorem Replaces.moved (h : Replaces u v id j) (moved : stateOf u x ≠ stateOf v x) : id = x := by
  by_contra other
  unfold stateOf at moved
  rw [h.other other] at moved
  exact moved rfl

theorem Replaces.differs (h : Replaces u v id j) (found : u.store.incidents[id]? = some i)
    (moved : stateOf u id ≠ stateOf v id) : j.state ≠ i.state := by
  unfold stateOf at moved
  rw [h.self, found] at moved
  intro same
  rw [Option.map_some, Option.map_some, same] at moved
  exact moved rfl

theorem linkEvent_state
    (h : Commit.linkEvent event late now i = .ok c) : c.incident.state = i.state := by
  simp only [Commit.linkEvent, bind_eq_ok, pure_eq_ok] at h
  obtain ⟨v, -, rfl⟩ := h
  rfl

theorem announced_of_sent (found : u.store.incidents[id]? = some i)
    (after : v.store.incidents[id]? = some j) (hsent : message ∈ sent u v)
    (about : message.incidentId = id) (counted : ¬ Active i.state → Active j.state →
      message.event = .incidentReopened j.reopenCount) : Announced u v id := by
  refine ⟨⟨message, hsent, about⟩, ?_⟩
  intro i' j' hi hj retired revived
  cases found.symm.trans hi
  cases after.symm.trans hj
  exact ⟨message, hsent, about, counted retired revived⟩

theorem announced_of_voiced (found : u.store.incidents[id]? = some i)
    (after : v.store.incidents[id]? = some c.incident)
    (outbox : v.store.outbox = u.store.outbox ++ (c.outbox.map (messageOf w auth id)).toList)
    (voiced : Voiced i c) : Announced u v id := by
  obtain ⟨event, hevent, counted⟩ := voiced
  have hsent : sent u v = [messageOf w auth id event] := by
    apply sent_of_append
    rw [outbox, hevent]
    rfl
  exact announced_of_sent found after (hsent ▸ List.mem_singleton_self _) rfl counted

theorem announced_of_new (unused : u.store.incidents[id]? = none)
    (outbox : v.store.outbox = u.store.outbox ++ [message]) (about : message.incidentId = id) :
    Announced u v id := by
  refine ⟨⟨message, by rw [sent_of_append outbox]; exact List.mem_singleton_self _, about⟩, ?_⟩
  intro i j hi
  rw [unused] at hi
  cases hi

theorem Effect.announced {request : Request} (h : Effect request u (.ok a) v)
    (moved : stateOf u x ≠ stateOf v x) : Announced u v x ↔ ¬ Silent request.call := by
  cases h with
  | still _ _ unlinked agrees | notified id i channel eventType outcome _ found agrees =>
    exact absurd (stateOf_same agrees.incidents).symm moved
  | changed a id i now c _ unlinked found decided agrees =>
    have replaces : Replaces u v id c.incident := replaces_commit agrees rfl
    obtain rfl := Replaces.moved replaces moved
    obtain ⟨silent, loud⟩ := Maintained.voiced decided (Replaces.differs replaces found moved)
    have outbox := agrees.outbox
    rw [commit_outbox] at outbox
    constructor
    · rintro ⟨⟨message, hmem, -⟩, -⟩ hsilent
      rw [silent hsilent] at outbox
      rw [sent_of_append outbox] at hmem
      cases hmem
    · intro hloud
      exact announced_of_voiced found replaces.self outbox (loud hloud)
  | opened manual id number now _ call unused agrees =>
    obtain rfl := Replaces.moved (replaces_commit agrees rfl) moved
    have outbox := agrees.outbox
    rw [commit_outbox] at outbox
    obtain ⟨asked, key, hcall⟩ := call
    rw [hcall]
    exact ⟨fun _ silent => silent, fun _ => announced_of_new unused outbox rfl⟩
  | created event id number now _ call admitted unused notEnded agrees =>
    have outbox := agrees.outbox
    change _ = (u.commit _ id _).store.outbox at outbox
    rw [commit_outbox] at outbox
    obtain rfl := Replaces.moved (replaces_marked agrees) moved
    rw [call]
    exact ⟨fun _ silent => silent, fun _ => announced_of_new unused outbox rfl⟩
  | linked event id late i now c _ call admitted found keyed owned standing decided agrees =>
    have replaces : Replaces u v id c.incident := replaces_commit agrees rfl
    obtain rfl := Replaces.moved replaces moved
    exact absurd (linkEvent_state decided) (Replaces.differs replaces found moved)
  | ended event id i now later c d _ call last admitted found keyed owned active decided recovers
      agrees =>
    have replaces : Replaces u v id d.incident := replaces_commit_commit agrees rfl
    obtain rfl := Replaces.moved replaces moved
    obtain ⟨event', hevent, -⟩ := enterRecovering_voiced recovers
    have outbox := agrees.outbox
    have unsent : (marked event u id).store.outbox = u.store.outbox := rfl
    rw [commit_outbox, commit_outbox, hevent, List.append_assoc, unsent] at outbox
    rw [call]
    refine ⟨fun _ silent => silent, fun _ => ?_⟩
    have hsent : messageOf ((marked event u id).commit request.auth id c) request.auth id event' ∈
        sent u v := by
      rw [sent_of_append outbox]
      exact List.mem_append_right _ (List.mem_singleton_self _)
    exact announced_of_sent found replaces.self hsent rfl fun retired => absurd active retired
  | reopened event id i now c _ call admitted found keyed owned notEnded decided agrees =>
    have replaces : Replaces u v id c.incident := replaces_commit agrees rfl
    obtain rfl := Replaces.moved replaces moved
    have outbox := agrees.outbox
    rw [commit_outbox] at outbox
    rw [call]
    exact ⟨fun _ silent => silent, fun _ => announced_of_voiced found replaces.self outbox
      (reopenIncidentInternal_voiced decided)⟩

end Calls

/-- In every run whose ids never repeat, a successful call after which the state of an incident
differs sends a message about it in the same call, with the new count on a reopening, exactly
when it is not one of the silent calls: an aborted recovery, and the commands that acknowledge,
begin an investigation, mark as monitoring and reopen. -/
theorem state_changes_announced_iff (closurePolicy : ClosurePolicy) (reopenPolicy : ReopenPolicy)
    (year : Nat) (requests : List Request) (request : Request)
    (distinct : (handedOut (requests ++ [request])).Nodup) (answer : Answer)
    (succeeds : (service.step (service.run (new closurePolicy reopenPolicy year) requests)
      request).1 = .ok answer) (id : IncidentId) :
    let u := service.run (new closurePolicy reopenPolicy year) requests
    let v := (service.step u request).2
    stateOf u id ≠ stateOf v id → (Announced u v id ↔ ¬ Silent request.call) := by
  intro u v moved
  have effect := run_effect closurePolicy reopenPolicy year requests request distinct
  rw [succeeds, service.run_snoc] at effect
  exact Effect.announced effect moved

/-- A resolution is announced. -/
theorem state_changes_announced_resolved :
    let u := service.run (new {} {} 2026) [sampleIngest 0 0 "d0" .started 0]
    let v := (service.step u (sampleCommand 10 1 (sampleId 0) (.resolveIncident 1 none))).2
    stateOf u (sampleId 0) ≠ stateOf v (sampleId 0) ∧ Announced u v (sampleId 0) := by
  have moved : stateOf (service.run (new {} {} 2026) [sampleIngest 0 0 "d0" .started 0])
      (sampleId 0) ≠ stateOf (service.step (service.run (new {} {} 2026)
        [sampleIngest 0 0 "d0" .started 0]) (sampleCommand 10 1 (sampleId 0)
          (.resolveIncident 1 none))).2 (sampleId 0) := by
    decide +kernel
  refine ⟨moved, (state_changes_announced_iff {} {} 2026 [sampleIngest 0 0 "d0" .started 0]
    (sampleCommand 10 1 (sampleId 0) (.resolveIncident 1 none)) (by decide) (.version 2)
    (by decide +kernel) (sampleId 0) moved).mpr ?_⟩
  simp [sampleCommand, Silent, Command.kind]

/-- An operator reopens a resolved incident, and no message is sent. -/
theorem operator_reopen_unannounced :
    let u := service.run (new {} {} 2026) [sampleIngest 0 0 "d0" .started 0,
      sampleCommand 10 1 (sampleId 0) (.resolveIncident 1 none)]
    let step := service.step u (sampleCommand 20 2 (sampleId 0) (.reopenIncident 2 "again"))
    step.1 = .ok (.version 3) ∧ stateOf u (sampleId 0) = some .resolved ∧
      stateOf step.2 (sampleId 0) = some .open_ ∧ sent u step.2 = [] := by
  decide +kernel

end Tidegard.Incident.Proofs.Announcements
