import Tidegard.Incident.Proofs.History
import Tidegard.Incident.Proofs.Idempotency

namespace Tidegard.Incident.Proofs.Guards

open Fallible Actions.Action Detector.Event Basics Time Record Store Commits UnitOfWork Changes
open Writes Calls Moves Index History

variable {x : Int} {now : DurableTimestamp}

/-- The call reads this time. -/
def ReadBy (env : Env) (now : DurableTimestamp) : Prop :=
  ∃ k, DurableTimestamp.fromSystemTime (env.wall k) = .ok now

def nanosBetween (earlier later : DurableTimestamp) : Int := (later.micros - earlier.micros) * 1000

/-- No step of the run left the incident with the severity Critical. -/
def NeverCritical (past : List ServiceStep) (id : IncidentId) : Prop :=
  ∀ st ∈ past, ∀ i, st.after.store.incidents[id]? = some i → i.severity ≠ .critical

/-- Closing is enabled, the delay has passed since the resolution, and an incident that was ever
critical is left to an operator where that is required. -/
structure ClosureDue (past : List ServiceStep) (env : Env) (policy : ClosurePolicy)
    (id : IncidentId) (i : Incident) : Prop where
  enabled : policy.automaticClosureEnabled = true
  waited : ∃ resolvedAt now, i.resolvedAt = some resolvedAt ∧ ReadBy env now ∧
    (policy.automaticClosureDelay : Int) ≤ nanosBetween resolvedAt now
  spared : policy.criticalManualClosureRequired = true → NeverCritical past id

/-- The confirmation asked for has passed since the incident began to recover. -/
def RecoveryDue (request : Request) (id : IncidentId) (i : Incident) : Prop :=
  ∃ confirmation since now, request.call = .confirmRecoveryIfDue id confirmation ∧
    i.recoveringSince = some since ∧ ReadBy request.env now ∧
    (confirmation : Int) ≤ nanosBetween since now

/-- The silence asked for has passed since the last detection, or the caller says it has. -/
def SilenceDue (request : Request) (id : IncidentId) (i : Incident) : Prop :=
  (∃ silentAfter now, request.call = .enterRecoveringIfSilent id silentAfter ∧
    ReadBy request.env now ∧ (silentAfter : Int) ≤ nanosBetween i.lastDetectedAt now) ∨
  request.call = .enterRecovering id .detectorSilent

/-- The event is of a new detection and comes within the window of the resolution or the closure.
Times further apart than an `i64` of microseconds are not told apart. -/
structure Recurs (request : Request) (policy : ReopenPolicy) (i : Incident)
    (event : DetectionEvent) : Prop where
  call : request.call = .ingestDetectionEvent event
  notEnded : event.kind ≠ .ended
  new : ∀ reference ∈ i.evidence.retained, reference.detectionId ≠ event.detectionId
  window : policy.window ≠ 0
  within : ∃ reference now, (i.state = .resolved → i.resolvedAt = some reference) ∧
    (i.state = .closed → i.closedAt = some reference) ∧ ReadBy request.env now ∧
    reference.micros ≤ now.micros ∧
    (now.micros - reference.micros < 2 ^ 63 → nanosBetween reference now ≤ policy.window)

/-- What was checked of the incident before an automatic state change was recorded. -/
structure Checked (past : List ServiceStep) (request : Request) (u : IncidentUnitOfWork)
    (id : IncidentId) (e : Edge) (cause : AutomaticCause) (i : Incident) : Prop where
  found : u.store.incidents[id]? = some i
  closes : e.toState = .closed → ClosureDue past request.env u.closurePolicy id i
  resolves : e.toState = .resolved → RecoveryDue request id i
  silent : e.toState = .recovering → cause = .detectorSilent → SilenceDue request id i
  reopens : e.toState = .open_ → e.fromState = .resolved ∨ e.fromState = .closed →
    ∃ event, Recurs request u.reopenPolicy i event

def Guarded (past : List ServiceStep) (request : Request) (u : IncidentUnitOfWork)
    (id : IncidentId) (e : Edge) : Prop :=
  ∀ cause, e.cause = .automatic cause → ∃ i, Checked past request u id e cause i

/-- The state changes recorded since are guarded. -/
def Extends (past : List ServiceStep) (request : Request) (u v : IncidentUnitOfWork) : Prop :=
  ∀ id, ∃ es, edgesOf v id = edgesOf u id ++ es ∧ ∀ e ∈ es, Guarded past request u id e

theorem bmod_le (h : 0 ≤ x) : ((Int.bmod x (2 ^ 64)).toNat : Int) ≤ x := by
  unfold Int.bmod
  dsimp only
  split <;> omega

theorem bmod_of_lt (h : 0 ≤ x) (small : x < 2 ^ 63) : ((Int.bmod x (2 ^ 64)).toNat : Int) = x := by
  unfold Int.bmod
  dsimp only
  split <;> omega

theorem elapsed_spec {elapsed : Nat} (h : now.checkedElapsedSince earlier = .ok elapsed) :
    earlier.micros ≤ now.micros ∧ (elapsed : Int) ≤ nanosBetween earlier now ∧
      (now.micros - earlier.micros < 2 ^ 63 → (elapsed : Int) = nanosBetween earlier now) := by
  unfold DurableTimestamp.checkedElapsedSince at h
  split at h
  · cases h
  case isFalse ordered =>
    cases h
    have hdiff : 0 ≤ now.micros - earlier.micros := by omega
    have hle := bmod_le hdiff
    have heq := bmod_of_lt hdiff
    generalize (Int.bmod (now.micros - earlier.micros) (2 ^ 64)).toNat = passed at hle heq ⊢
    unfold nanosBetween
    refine ⟨by omega, by push_cast; omega, ?_⟩
    intro small
    have hpassed := heq small
    push_cast
    omega

theorem evaluateReopen_recurs (h : Transition.evaluateReopen i policy now = .ok true) :
    policy.window ≠ 0 ∧ ∃ reference, (i.state = .resolved → i.resolvedAt = some reference) ∧
      (i.state = .closed → i.closedAt = some reference) ∧ reference.micros ≤ now.micros ∧
      (now.micros - reference.micros < 2 ^ 63 →
        nanosBetween reference now ≤ policy.window) := by
  unfold Transition.evaluateReopen at h
  split at h
  case isFalse => cases h
  split at h
  case h_2 => cases h
  case h_1 reference hreference =>
    unfold reopens at h
    split at h
    · cases h
    case isFalse window =>
      obtain ⟨elapsed, helapsed, within⟩ := bind_eq_ok.mp h
      have hwithin : elapsed ≤ policy.window := by simpa using within
      obtain ⟨ordered, -, exact_⟩ := elapsed_spec helapsed
      refine ⟨window, reference, ?_, ?_, ordered, ?_⟩
      · intro hs
        rw [← hreference]
        simp [Incident.reopenReferenceTimestamp, hs]
      · intro hs
        rw [← hreference]
        simp [Incident.reopenReferenceTimestamp, hs]
      · intro small
        rw [← exact_ small]
        exact_mod_cast hwithin

section Extends

variable {past : List ServiceStep} {request : Request} {u v : IncidentUnitOfWork}
variable {auth : AuthorizationContext} {id : IncidentId} {c : Commit}

theorem Extends.refl (past : List ServiceStep) (request : Request) (u : IncidentUnitOfWork) :
    Extends past request u u := fun _ => ⟨[], by simp, by simp⟩

theorem Extends.commit (h : Extends past request u v)
    (guarded : ∀ e ∈ edges c, Guarded past request u id e) :
    Extends past request u (v.commit auth id c) := by
  intro x
  obtain ⟨es, hes, hguarded⟩ := h x
  unfold edgesOf at hes ⊢
  rw [entriesOf_commit, List.filterMap_append, hes]
  by_cases same : id = x
  · subst same
    rw [if_pos rfl, ← edges_eq]
    refine ⟨es ++ edges c, by rw [List.append_assoc], ?_⟩
    intro e he
    rcases List.mem_append.mp he with he | he
    · exact hguarded e he
    · exact guarded e he
  · rw [if_neg same]
    exact ⟨es, by simp, hguarded⟩

theorem Written.extends {α : Type} {D : Contract α} {o : Except IncidentError α}
    (h : Written env auth id D w m o t) (base : Extends past request u w)
    (guarded : ∀ now active i a c, w.store.incidents[id]? = some i → D.change now active i a c →
      ∀ e ∈ edges c, Guarded past request u id e) : Extends past request u t.uow := by
  cases h with
  | wrote a c i now k n found reading first last decided =>
    exact base.commit (guarded now _ i a c found decided)
  | idle | refused | denied =>
    exact base

theorem Created.extends (h : Created env auth seen u m o t) : Extends past request u t.uow := by
  cases h with
  | created id number now c k n generated allocated reading first last vacant opened =>
    apply (Extends.refl past request u).commit
    rw [(Opened.fresh opened).edges]
    simp
  | refused => exact .refl past request u

theorem guarded_of_operator (h : ∃ kind, e.cause = .operator kind) :
    Guarded past request u id e := by
  intro cause hcause
  obtain ⟨kind, hkind⟩ := h
  rw [hkind] at hcause
  cases hcause

end Extends

/-- Every state change the commit records is an operator's. -/
def Operated (c : Commit) : Prop := ∀ e ∈ edges c, ∃ kind, e.cause = .operator kind

section Commands

variable {auth : AuthorizationContext} {now : DurableTimestamp} {i : Incident} {c : Commit}
variable {id : IncidentId}
variable {active : Option IncidentId}

theorem recordEdit_operated {change : Option FieldChange} (noEdge : edgeOf payload = none)
    (h : Commit.recordEdit auth now i edited payload permission reason change outbox = .ok c) :
    Operated c := by
  simp only [Commit.recordEdit, bind_eq_ok, pure_eq_ok] at h
  obtain ⟨v, -, rfl⟩ := h
  simp [Operated, edges, noEdge]

theorem guardedOperatorTransition_operated
    (h : Commit.guardedOperatorTransition auth toState kind permission extra now i = .ok c) :
    Operated c := by
  simp only [Commit.guardedOperatorTransition, bind_eq_ok, pure_eq_ok] at h
  obtain ⟨-, -, -, -, v, -, rfl⟩ := h
  simp [Operated, edges, edgeOf]

theorem resolveInternal_operated
    (h : Commit.resolveInternal auth (.operator kind) note now i = .ok c) : Operated c := by
  simp only [Commit.resolveInternal, bind_eq_ok, pure_eq_ok] at h
  obtain ⟨-, -, -, -, v, -, rfl⟩ := h
  simp [Operated, edges, edgeOf]

theorem closeInternal_operated
    (h : Commit.closeInternal auth reason (.operator kind) now i = .ok c) : Operated c := by
  simp only [Commit.closeInternal, bind_eq_ok, pure_eq_ok] at h
  obtain ⟨-, -, v, -, rfl⟩ := h
  simp [Operated, edges, edgeOf]

theorem operatorReopen_operated
    (h : Commit.operatorReopen auth active reason now i = .ok c) : Operated c := by
  simp only [Commit.operatorReopen, bind_eq_ok, pure_eq_ok] at h
  obtain ⟨-, -, -, -, n, -, v, -, rfl⟩ := h
  simp [Operated, edges, edgeOf]

/-- A command as far as its state changes go. -/
def operating : Contract Commit where
  change _ _ _ _ c := Operated c

theorem Ordered.operated (h : Ordered auth command active now i c) : Operated c := by
  cases command with
  | acknowledgeIncident | beginInvestigation | markMonitoring =>
    exact guardedOperatorTransition_operated h
  | resolveIncident => exact resolveInternal_operated h
  | closeIncident => exact closeInternal_operated h
  | reopenIncident => exact operatorReopen_operated h
  | suppressIncident =>
    obtain ⟨-, deadline, h⟩ := h
    exact recordEdit_operated rfl h
  | unsuppressIncident | assignIncident | unassignIncident | changePriority | removeTag => exact recordEdit_operated rfl h
  | changeSeverity =>
    obtain ⟨-, -, h⟩ := bind_eq_ok.mp h
    exact recordEdit_operated rfl h
  | addNote =>
    obtain ⟨-, -, h⟩ := bind_eq_ok.mp h.2
    exact recordEdit_operated rfl h
  | editNote =>
    obtain ⟨-, original, -, -, h⟩ := h
    simp only [Commit.editNote, bind_eq_ok] at h
    obtain ⟨-, -, -, -, -, -, h⟩ := h
    exact recordEdit_operated rfl h
  | redactNote =>
    obtain ⟨-, h⟩ := h
    simp only [Commit.redactNote, bind_eq_ok, pure_eq_ok] at h
    obtain ⟨v, -, -, -, -, -, rfl⟩ := h
    simp [Operated, edges, edgeOf]
  | addTag =>
    obtain ⟨-, -, h⟩ := bind_eq_ok.mp h.2.2
    exact recordEdit_operated rfl h

theorem applyCommand_operates (command : Command) :
    WritesOnce auth id operating (applyCommand auth id command) :=
  (applyCommand_orders auth id command).mono (fun _ _ _ _ _ h => Ordered.operated h.2)
    fun _ h => h

end Commands

section Automatic

variable {past : List ServiceStep} {request : Request} {auth : AuthorizationContext}
variable {u : IncidentUnitOfWork} {id : IncidentId} {i j : Incident} {now : DurableTimestamp}
variable {c : Commit}
variable {α : Type}
variable {reason : DetectionEndReason} {event : DetectionEvent} {cause : TransitionCause}

theorem silent_of_cause (h : reason.cause = .detectorSilent) : reason = .detectorSilent := by
  cases reason <;> first | rfl | cases h

theorem enterRecovering_guarded (found : u.store.incidents[id]? = some i)
    (silent : reason = .detectorSilent → SilenceDue request id i)
    (h : Commit.enterRecovering reason now j = .ok c) :
    ∀ e ∈ edges c, Guarded past request u id e := by
  simp only [Commit.enterRecovering, bind_eq_ok, pure_eq_ok] at h
  obtain ⟨-, -, v, -, rfl⟩ := h
  intro e he cause hcause
  obtain rfl := List.mem_singleton.mp he
  cases hcause
  exact ⟨i, found, by simp, by simp, fun _ hsilent => silent (silent_of_cause hsilent), by simp⟩

theorem abortRecovery_guarded (found : u.store.incidents[id]? = some i)
    (restorable : Restorable i) (h : Commit.abortRecovery now i = .ok c) :
    ∀ e ∈ edges c, Guarded past request u id e := by
  simp only [Commit.abortRecovery, transition_abortRecovery_ok, bind_eq_ok, pure_eq_ok] at h
  obtain ⟨state, ⟨-, hbefore⟩, v, -, rfl⟩ := h
  intro e he cause hcause
  obtain rfl := List.mem_singleton.mp he
  -- the state gone back to is one that recovers, so none of the guarded ones but Open
  have recovers := restorable.recovers state hbefore
  refine ⟨i, found, ?_, ?_, ?_, by simp⟩ <;> rintro rfl <;> cases recovers

theorem linkEvent_edges (h : Commit.linkEvent event late now i = .ok c) : edges c = [] := by
  simp only [Commit.linkEvent, bind_eq_ok, pure_eq_ok] at h
  obtain ⟨v, -, rfl⟩ := h
  cases Commit.isLate late now i <;>
    by_cases hc : deriveCategory (addMetrics i.matchedMetrics event) = i.category <;>
    simp [edges, edgeOf, hc]

theorem reopenIncidentInternal_guarded {active : Option IncidentId} {cause : AutomaticCause}
    (found : u.store.incidents[id]? = some i) (recurs : Recurs request u.reopenPolicy i event)
    (h : Commit.reopenIncidentInternal active event cause now j = .ok c) :
    ∀ e ∈ edges c, Guarded past request u id e := by
  simp only [Commit.reopenIncidentInternal, bind_eq_ok, pure_eq_ok] at h
  obtain ⟨-, -, -, -, n, -, v, -, rfl⟩ := h
  intro e he cause hcause
  obtain rfl := List.mem_singleton.mp he
  exact ⟨i, found, by simp, by simp, by simp, fun _ _ => ⟨event, recurs⟩⟩

theorem resolveInternal_guarded (found : u.store.incidents[id]? = some i)
    (due : RecoveryDue request id i) (h : Commit.resolveInternal auth cause note now j = .ok c) :
    ∀ e ∈ edges c, Guarded past request u id e := by
  simp only [Commit.resolveInternal, bind_eq_ok, pure_eq_ok] at h
  obtain ⟨-, -, -, -, v, -, rfl⟩ := h
  intro e he cause hcause
  obtain rfl := List.mem_singleton.mp he
  exact ⟨i, found, by simp, fun _ => due, by simp, by simp⟩

theorem closeInternal_guarded {reason : ClosureReason} (found : u.store.incidents[id]? = some i)
    (due : ClosureDue past request.env u.closurePolicy id i)
    (h : Commit.closeInternal auth reason cause now j = .ok c) :
    ∀ e ∈ edges c, Guarded past request u id e := by
  simp only [Commit.closeInternal, bind_eq_ok, pure_eq_ok] at h
  obtain ⟨-, -, v, -, rfl⟩ := h
  intro e he cause hcause
  obtain rfl := List.mem_singleton.mp he
  exact ⟨i, found, fun _ => due, by simp, by simp, by simp⟩

/-- An end whose new state changes are guarded. -/
def Extended {α : Type} (past : List ServiceStep) (request : Request) (u : IncidentUnitOfWork)
    (_ : Except IncidentError α) (t : Session) : Prop := Extends past request u t.uow

theorem extended_refuses :
    Refuses (α := α) u m (Extended past request u) := fun _ _ _ => .refl past request u

theorem extended_denies :
    Denies (α := α) auth u m (Extended past request u) := fun _ _ _ _ _ => .refl past request u

theorem extended_then {β : Type} {x : Uow α} {b : β} (h : x.Ends env s (Extended past request u)) :
    (x >>= fun _ => pure b).Ends env s (Extended past request u) := by
  simp only [Ends, bind_pure_apply]
  exact h

theorem extended_idle (begun : Begun u m s) :
    (pure a : Uow α).Ends env s (Extended past request u) := by
  obtain ⟨v, n⟩ := s
  obtain rfl : v = u := begun.uow
  exact .refl past request _

theorem writesOnce_extends {D : Contract α} {x : Uow α} (writes : WritesOnce auth id D x)
    (begun : Begun u m s)
    (guarded : ∀ now active i a c, u.store.incidents[id]? = some i → D.change now active i a c →
      ∀ e ∈ edges c, Guarded past request u id e) : x.Ends env s (Extended past request u) := by
  apply (writes env u m s begun).mono
  intro o t ran
  exact Written.extends ran (.refl past request u) guarded

theorem enterRecovering_extends (reason : DetectionEndReason) :
    (enterRecovering auth id reason).Ends env ⟨u, 0⟩
      (Extended past ⟨env, auth, .enterRecovering id reason⟩ u) := by
  apply writesOnce_extends (enterRecovering_writes auth id reason) .start
  rintro now active i a c found ⟨-, h⟩
  exact enterRecovering_guarded found (fun hr => Or.inr (hr ▸ rfl)) h

theorem enterRecoveringIfSilent_extends (silentAfter : Nat) :
    (enterRecoveringIfSilent auth id silentAfter).Ends env ⟨u, 0⟩
      (Extended past ⟨env, auth, .enterRecoveringIfSilent id silentAfter⟩ u) := by
  apply extended_denies.after_check .start
  intro granted
  apply extended_refuses.after_decisionTime .start
  intro now k t reading first last begun
  apply extended_refuses.after_findOwned begun
  intro i found owned
  apply extended_refuses.after_ofExcept begun
  intro elapsed helapsed
  split
  · exact extended_idle begun
  case isFalse due =>
    apply extended_then
    apply writesOnce_extends (enterRecovering_writes auth id .detectorSilent) begun
    rintro now' active j a c found' ⟨-, h⟩
    obtain ⟨-, passed, -⟩ := elapsed_spec helapsed
    exact enterRecovering_guarded found
      (fun _ => Or.inl ⟨silentAfter, now, rfl, ⟨k, reading⟩, by omega⟩) h

theorem confirmRecoveryIfDue_extends (confirmation : Nat) :
    (confirmRecoveryIfDue auth id confirmation).Ends env ⟨u, 0⟩
      (Extended past ⟨env, auth, .confirmRecoveryIfDue id confirmation⟩ u) := by
  apply extended_denies.after_check .start
  intro granted
  apply extended_refuses.after_decisionTime .start
  intro now k t reading first last begun
  apply extended_refuses.after_findOwned begun
  intro i found owned
  apply extended_refuses.after_ofExcept begun
  intro _ _
  apply extended_refuses.after_ofExcept begun
  intro since hsince
  apply extended_refuses.after_ofExcept begun
  intro elapsed helapsed
  split
  · exact extended_idle begun
  case isFalse due =>
    apply extended_then
    apply writesOnce_extends (resolveInternal_writes auth id _ none) begun
    rintro now' active j a c found' ⟨-, h⟩
    obtain ⟨-, passed, -⟩ := elapsed_spec helapsed
    exact resolveInternal_guarded found
      ⟨confirmation, since, now, rfl, recoveringSinceOf_ok.mp hsince, ⟨k, reading⟩, by omega⟩ h

theorem abortRecovery_extends (restorable : ∀ (id : IncidentId) i,
      u.store.incidents[id]? = some i → Restorable i) :
    (abortRecovery auth id).Ends env ⟨u, 0⟩ (Extended past request u) := by
  apply writesOnce_extends (abortRecovery_writes auth id) .start
  rintro now active i a c found ⟨-, h⟩
  exact abortRecovery_guarded found (restorable id i found) h

theorem resolvedAtOf_ok :
    resolvedAtOf i = .ok resolvedAt ↔ i.resolvedAt = some resolvedAt := by
  unfold resolvedAtOf
  split <;> simp_all

theorem attemptAutomaticClosure_ok (h : Transition.attemptAutomaticClosure i policy = .ok ()) :
    policy.automaticClosureEnabled = true ∧
      (policy.criticalManualClosureRequired = true → i.everCritical = false) := by
  unfold Transition.attemptAutomaticClosure at h
  split at h
  case isFalse => cases h
  case isTrue =>
    have allowed : policy.allowsAutomaticClosure
        (if i.everCritical then .critical else i.severity) = true := by
      by_contra refused
      rw [if_neg refused] at h
      cases h
    unfold ClosurePolicy.allowsAutomaticClosure at allowed
    cases hcritical : i.everCritical <;> cases henabled : policy.automaticClosureEnabled <;>
      cases hrequired : policy.criticalManualClosureRequired <;> simp_all

theorem attemptAutomaticClosure_extends
    (spared : ∀ (id : IncidentId) i, u.store.incidents[id]? = some i → i.everCritical = false →
      NeverCritical past id) :
    (attemptAutomaticClosure auth id).Ends env ⟨u, 0⟩
      (Extended past ⟨env, auth, .attemptAutomaticClosure id⟩ u) := by
  apply extended_denies.after_check .start
  intro granted
  apply extended_refuses.after_findOwned .start
  intro i found owned
  apply extended_refuses.after_lookup .start
  rintro _ ⟨⟩
  split
  · exact extended_idle .start
  · exact extended_refuses.throw .start _
  case h_3 allowed =>
    obtain ⟨enabled, hspared⟩ := attemptAutomaticClosure_ok allowed
    apply extended_refuses.after_ofExcept .start
    intro resolvedAt hresolvedAt
    apply extended_refuses.after_decisionTime .start
    intro now k t reading first last begun
    apply extended_refuses.after_ofExcept begun
    intro elapsed helapsed
    split
    · exact extended_idle begun
    case isFalse due =>
      apply extended_then
      apply writesOnce_extends (closeInternal_writes auth id _ _) begun
      rintro now' active j a c found' ⟨-, h⟩
      obtain ⟨-, passed, -⟩ := elapsed_spec helapsed
      refine closeInternal_guarded found ⟨enabled, ?_, fun hr => spared id i found (hspared hr)⟩ h
      exact ⟨resolvedAt, now, resolvedAtOf_ok.mp hresolvedAt, ⟨k, reading⟩, by omega⟩

end Automatic

section Ingestion

variable {past : List ServiceStep} {auth : AuthorizationContext}
variable {u : IncidentUnitOfWork} {event : DetectionEvent}

theorem endReasonOf_not_silent (event : DetectionEvent) : endReasonOf event ≠ .detectorSilent := by
  unfold endReasonOf
  split <;> simp

theorem recurs_of_candidate
    (new : (decide (event.kind = .ended) || alreadyHeld candidate event) = false)
    (reading : DurableTimestamp.fromSystemTime (env.wall m) = .ok now)
    (recurs : Transition.evaluateReopen candidate u.reopenPolicy now = .ok true) :
    Recurs ⟨env, auth, .ingestDetectionEvent event⟩ u.reopenPolicy candidate event := by
  rw [Bool.or_eq_false_iff] at new
  obtain ⟨notEnded, fresh⟩ := new
  obtain ⟨window, reference, resolved, closed, ordered, within⟩ := evaluateReopen_recurs recurs
  refine ⟨rfl, by simpa using notEnded, ?_, window, reference, now, resolved, closed,
    ⟨m, reading⟩, ordered, within⟩
  intro reference hreference
  simpa using List.any_eq_false.mp fresh reference hreference

theorem Correlated.extends (consistent : Consistent u) (h : Correlated env auth event u m o t) :
    Extends past ⟨env, auth, .ingestDetectionEvent event⟩ u t.uow := by
  have marks : ∀ id, Extends past ⟨env, auth, .ingestDetectionEvent event⟩ u (marked event u id) :=
    fun _ => .refl past _ u
  have links : ∀ {late : Bool} {id : IncidentId} {now : DurableTimestamp}
      {active : Option IncidentId} {i : Incident} {a : IngestResult} {c : Commit},
      (linking event late id).change now active i a c →
      ∀ e ∈ edges c, Guarded past ⟨env, auth, .ingestDetectionEvent event⟩ u id e := by
    rintro late id now active i a c ⟨h, -⟩
    rw [linkEvent_edges h]
    simp
  cases h with
  | linked id o t active ran kept =>
    exact Written.extends ran (marks id) fun _ _ _ _ _ _ h => links h
  | ended id t o t' active last ran recovers =>
    obtain ⟨i, found, -, -⟩ := (consistent.index _ _).mp active
    have linked := Written.extends ran (marks id) fun _ _ _ _ _ _ h => links h
    refine Written.extends recovers linked ?_
    rintro now active' j a c - ⟨-, h⟩
    exact enterRecovering_guarded found (fun hs => absurd hs (endReasonOf_not_silent event)) h
  | late candidate o t vacant found late ran =>
    exact Written.extends ran (marks _) fun _ _ _ _ _ _ h => links h
  | reopened candidate now o t vacant found new reading recurs ran =>
    obtain ⟨⟨id, hid⟩, -, -, -⟩ := reopenCandidate_some found
    have filed := consistent.filed id candidate hid
    refine Written.extends ran (marks _) ?_
    rintro now' active j a c - ⟨h, -⟩
    exact reopenIncidentInternal_guarded (filed ▸ hid) (recurs_of_candidate new reading recurs) h
  | created id t notEnded ran =>
    have opened : Extends past ⟨env, auth, .ingestDetectionEvent event⟩ u t.uow :=
      Created.extends ran
    exact opened
  | quarantined | refused => exact .refl past _ u

theorem ingestDetectionEvent_extends (consistent : Consistent u) :
    (ingestDetectionEvent auth event).Ends env ⟨u, 0⟩
      (Extended past ⟨env, auth, .ingestDetectionEvent event⟩ u) := by
  apply ingestDetectionEvent_ends.mono
  intro o t ended
  cases ended with
  | refused | denied | turned =>
    exact .refl past _ u
  | correlated o t admitted ran => exact Correlated.extends consistent ran

end Ingestion

section Calls

variable {past : List ServiceStep} {auth : AuthorizationContext}
variable {u : IncidentUnitOfWork} {request : Request}
variable {id : IncidentId}

theorem Retried.extends {α : Type} {mutated : α → StoredOutcome}
    {replay : StoredOutcome → α → Prop} {Ran : Except IncidentError α → Session → Prop}
    {o : Except IncidentError α} (h : Retried auth key fingerprint mutated replay Ran u m o t)
    (ran : ∀ o t, Ran o t → Extends past request u t.uow) : Extends past request u t.uow := by
  cases h with
  | refused | denied | replayed => exact .refl past request u
  | executed o t new hran =>
    have h := ran o t hran
    unfold remembered
    split <;> exact h

theorem recordExport_extends :
    (recordExport auth id).Ends env ⟨u, 0⟩ (Extended past request u) := by
  apply extended_denies.after_check .start
  intro granted
  apply extended_refuses.after_findOwned .start
  intro i found owned
  exact Extends.refl past request u

theorem recordNotificationResult_extends :
    (recordNotificationResult auth id channel eventType outcome).Ends env ⟨u, 0⟩
      (Extended past request u) := by
  apply extended_denies.after_check .start
  intro granted
  apply extended_refuses.after_ofExcept .start
  intro _ _
  apply extended_refuses.after_findOwned .start
  intro i found owned x
  refine ⟨[], ?_, by simp⟩
  change edgesOf (u.appendTimeline id auth.actor _) x = _
  unfold edgesOf
  rw [entriesOf_appendTimeline]
  split <;> simp [edgeOf]

theorem handleCommand_extends :
    (handleCommand auth id command key).Ends env ⟨u, 0⟩ (Extended past request u) := by
  apply (handleCommand_keeps env auth key (applyCommand_operates command) .start).mono
  intro o t retried
  apply Retried.extends retried
  rintro o t ⟨i, result, -, -, -, written, -⟩
  exact Written.extends written (.refl past request u) fun _ _ _ _ _ _ h e he =>
    guarded_of_operator (h e he)

theorem perform_extends (request : Request) (consistent : Consistent u)
    (spared : ∀ (id : IncidentId) i, u.store.incidents[id]? = some i → i.everCritical = false →
      NeverCritical past id) :
    Extends past request u (service.step u request).2 := by
  obtain ⟨env, auth, call⟩ := request
  change Extends past ⟨env, auth, call⟩ u (perform auth call env ⟨u, 0⟩).2.uow
  cases call with simp only [perform, bind_pure_apply]
  | ingestDetectionEvent => exact ingestDetectionEvent_extends consistent
  | createManualIncident request key =>
    have ends := createManualIncident_ends env auth key request (u := u) (s := ⟨u, 0⟩)
      ⟨rfl, le_rfl⟩
    exact Retried.extends ends fun _ _ => Created.extends
  | recordExport => exact recordExport_extends
  | recordNotificationResult => exact recordNotificationResult_extends
  | enterRecovering id reason => exact enterRecovering_extends reason
  | enterRecoveringIfSilent id silentAfter => exact enterRecoveringIfSilent_extends silentAfter
  | confirmRecoveryIfDue id confirmation => exact confirmRecoveryIfDue_extends confirmation
  | abortRecovery => exact abortRecovery_extends consistent.restorable
  | attemptAutomaticClosure => exact attemptAutomaticClosure_extends spared
  | handleCommand => exact handleCommand_extends

end Calls

/-- The states whose beginning an incident is stamped with. -/
inductive Phase where
  | recovering
  | resolved
  | closed

def Phase.state : Phase → IncidentState
  | .recovering => .recovering
  | .resolved => .resolved
  | .closed => .closed

def Phase.stamp : Phase → Incident → Option DurableTimestamp
  | .recovering, i => i.recoveringSince
  | .resolved, i => i.resolvedAt
  | .closed, i => i.closedAt

/-- What a change at `now` does to the stamps and to the mark. -/
structure Tracks (now : DurableTimestamp) (i j : Incident) : Prop where
  stamped : ∀ phase : Phase, j.state = phase.state →
    (i.state = phase.state ∧ phase.stamp j = phase.stamp i) ∨ phase.stamp j = some now
  marked : (i.severity = .critical → i.everCritical = true) →
    j.severity = .critical → j.everCritical = true
  forever : i.everCritical = true → j.everCritical = true

section Tracks

variable {auth : AuthorizationContext}
variable {active : Option IncidentId} {now : DurableTimestamp} {i j : Incident} {c : Commit}

theorem Tracks.still (state : j.state = i.state)
    (stamps : ∀ phase : Phase, phase.stamp j = phase.stamp i)
    (severity : j.severity = i.severity) (mark : j.everCritical = i.everCritical) :
    Tracks now i j where
  stamped phase h := Or.inl ⟨state ▸ h, stamps phase⟩
  marked h hs := by
    rw [mark]
    exact h (severity ▸ hs)
  forever h := mark.trans h

theorem Tracks.move (stamps : ∀ phase : Phase, j.state = phase.state → phase.stamp j = some now)
    (severity : j.severity = i.severity) (mark : j.everCritical = i.everCritical) :
    Tracks now i j where
  stamped phase h := Or.inr (stamps phase h)
  marked h hs := by
    rw [mark]
    exact h (severity ▸ hs)
  forever h := mark.trans h

theorem recordEdit_tracks {change : Option FieldChange}
    (h : Commit.recordEdit auth now i edited payload permission reason change outbox = .ok c)
    (tracks : Tracks now i edited) : Tracks now i c.incident := by
  simp only [Commit.recordEdit, bind_eq_ok, pure_eq_ok] at h
  obtain ⟨v, -, rfl⟩ := h
  refine ⟨?_, tracks.marked, tracks.forever⟩
  intro phase hphase
  have hstamped := tracks.stamped phase hphase
  cases phase <;> exact hstamped

theorem Decided.tracks (restorable : Restorable i) (h : Decided auth noted active now i c) :
    Tracks now i c.incident := by
  cases h with
  | linkEvent event late h =>
    simp only [Commit.linkEvent, bind_eq_ok, pure_eq_ok] at h
    obtain ⟨v, -, rfl⟩ := h
    exact .still rfl (fun phase => by cases phase <;> rfl) rfl rfl
  | reopenIncidentInternal event cause h =>
    simp only [Commit.reopenIncidentInternal, bind_eq_ok, pure_eq_ok] at h
    obtain ⟨-, -, -, -, n, -, v, -, rfl⟩ := h
    exact .move (fun phase => by cases phase <;> rintro ⟨⟩) rfl rfl
  | enterRecovering reason h =>
    simp only [Commit.enterRecovering, bind_eq_ok, pure_eq_ok] at h
    obtain ⟨-, -, v, -, rfl⟩ := h
    exact .move (fun phase => by cases phase <;> first | exact fun _ => rfl | rintro ⟨⟩) rfl rfl
  | abortRecovery h =>
    simp only [Commit.abortRecovery, transition_abortRecovery_ok, bind_eq_ok, pure_eq_ok] at h
    obtain ⟨state, ⟨-, hbefore⟩, v, -, rfl⟩ := h
    have recovers := restorable.recovers state hbefore
    refine .move (fun phase => ?_) rfl rfl
    cases phase <;> rintro rfl <;> cases recovers
  | resolveInternal cause note given h =>
    simp only [Commit.resolveInternal, bind_eq_ok, pure_eq_ok] at h
    obtain ⟨-, -, -, -, v, -, rfl⟩ := h
    exact .move (fun phase => by cases phase <;> first | exact fun _ => rfl | rintro ⟨⟩) rfl rfl
  | closeInternal reason cause h =>
    simp only [Commit.closeInternal, bind_eq_ok, pure_eq_ok] at h
    obtain ⟨-, -, v, -, rfl⟩ := h
    exact .move (fun phase => by cases phase <;> first | exact fun _ => rfl | rintro ⟨⟩) rfl rfl
  | acknowledge kind permission h =>
    simp only [Commit.guardedOperatorTransition, bind_eq_ok, pure_eq_ok] at h
    obtain ⟨-, -, -, -, v, -, rfl⟩ := h
    exact .move (fun phase => by cases phase <;> rintro ⟨⟩) rfl rfl
  | attend toState attends kind permission h =>
    simp only [Commit.guardedOperatorTransition, bind_eq_ok, pure_eq_ok] at h
    obtain ⟨-, -, -, -, v, -, rfl⟩ := h
    refine .move (fun phase => ?_) rfl rfl
    rcases attends with rfl | rfl <;> cases phase <;> rintro ⟨⟩
  | operatorReopen reason h =>
    simp only [Commit.operatorReopen, bind_eq_ok, pure_eq_ok] at h
    obtain ⟨-, -, -, -, n, -, v, -, rfl⟩ := h
    exact .move (fun phase => by cases phase <;> rintro ⟨⟩) rfl rfl
  | suppress reason valid deadline h | unsuppress h | assign assignee h
  | changePriority newPriority h | removeTag key h =>
    exact recordEdit_tracks h (.still rfl (fun phase => by cases phase <;> rfl) rfl rfl)
  | changeSeverity newSeverity reason h =>
    obtain ⟨-, -, h⟩ := bind_eq_ok.mp h
    refine recordEdit_tracks h ⟨?_, ?_, ?_⟩
    · intro phase hphase
      exact Or.inl ⟨hphase, by cases phase <;> rfl⟩
    · intro _ hcritical
      simp only at hcritical
      simp [hcritical]
    · intro hmark
      simp [hmark]
  | addNote body valid visibility h | addTag key value bounded h =>
    obtain ⟨-, -, h⟩ := bind_eq_ok.mp h
    exact recordEdit_tracks h (.still rfl (fun phase => by cases phase <;> rfl) rfl rfl)
  | editNote noteIndex original found body valid h =>
    simp only [Commit.editNote, bind_eq_ok] at h
    obtain ⟨-, -, -, -, -, -, h⟩ := h
    exact recordEdit_tracks h (.still rfl (fun phase => by cases phase <;> rfl) rfl rfl)
  | redactNote noteIndex reason valid h =>
    simp only [Commit.redactNote, bind_eq_ok, pure_eq_ok] at h
    obtain ⟨v, -, -, -, -, -, rfl⟩ := h
    exact .still rfl (fun phase => by cases phase <;> rfl) rfl rfl

end Tracks

/-- The incident is in the phase, and stamped with this time. -/
def Stands (phase : Phase) (u : IncidentUnitOfWork) (id : IncidentId)
    (since : DurableTimestamp) : Prop :=
  ∃ i, u.store.incidents[id]? = some i ∧ i.state = phase.state ∧ phase.stamp i = some since

/-- A step of the run read this time and brought the incident into the phase, where it has stood
before every later step. -/
def EnteredAt (phase : Phase) (past : List ServiceStep) (id : IncidentId)
    (since : DurableTimestamp) : Prop :=
  ∃ earlier st later, past = earlier ++ st :: later ∧ ReadBy st.input.env since ∧
    ¬ Stands phase st.before id since ∧ Stands phase st.after id since ∧
    ∀ st' ∈ later, Stands phase st'.before id since

/-- What the incidents keep of the run. -/
structure Kept (past : List ServiceStep) (u : IncidentUnitOfWork) : Prop where
  marked : ∀ (id : IncidentId) i, u.store.incidents[id]? = some i → i.severity = .critical →
    i.everCritical = true
  spared : ∀ (id : IncidentId) i, u.store.incidents[id]? = some i → i.everCritical = false →
    NeverCritical past id
  grown : ∀ st ∈ past, ∀ (id : IncidentId) i, st.after.store.incidents[id]? = some i →
    ∃ j, u.store.incidents[id]? = some j
  entered : ∀ (phase : Phase) (id : IncidentId) i, u.store.incidents[id]? = some i →
    i.state = phase.state → ∃ since, phase.stamp i = some since ∧ EnteredAt phase past id since

/-- What one call leaves of an incident, next to what it found. -/
structure Followed (env : Env) (u : IncidentUnitOfWork) (id : IncidentId) (j : Incident) :
    Prop where
  marked : j.severity = .critical → j.everCritical = true
  forever : ∀ i, u.store.incidents[id]? = some i → i.everCritical = true → j.everCritical = true
  stamped : ∀ phase : Phase, j.state = phase.state → ∃ since, phase.stamp j = some since ∧
    (Stands phase u id since ∨ ReadBy env since)

section Runs

variable {past : List ServiceStep} {u v : IncidentUnitOfWork}
variable {auth : AuthorizationContext}
variable {id : IncidentId}
variable {now : DurableTimestamp} {c : Commit}

def AllFollowed (env : Env) (u v : IncidentUnitOfWork) : Prop :=
  ∀ (id : IncidentId) j, v.store.incidents[id]? = some j → Followed env u id j

theorem Followed.change (h : Followed env u id i)
    (tracks : Tracks now i j) (read : ReadBy env now) :
    Followed env u id j where
  marked := tracks.marked h.marked
  forever x hx hmark := tracks.forever (h.forever x hx hmark)
  stamped phase hphase := by
    rcases tracks.stamped phase hphase with ⟨before, same⟩ | stamped
    · obtain ⟨since, hsince, hfrom⟩ := h.stamped phase before
      exact ⟨since, same.trans hsince, hfrom⟩
    · exact ⟨now, stamped, Or.inr read⟩

theorem opened_followed (unused : u.store.incidents[id]? = none)
    (h : Opened auth seen id number now c) :
    Followed env u id c.incident where
  marked := by
    cases h with
    | detected => exact fun hs => by simpa [Commit.createIncidentInternal] using hs
    | manual => exact fun hs => by simpa [Commit.openManualIncident] using hs
  forever i hi := by
    rw [unused] at hi
    cases hi
  stamped phase hphase := by
    rw [(Opened.fresh h).state] at hphase
    cases phase <;> cases hphase

theorem allFollowed_commit (h : AllFollowed env u v) (new : Followed env u id c.incident) :
    AllFollowed env u (v.commit auth id c) :=
  stored_commit h new

theorem move_followed (sound : g.sound)
    (unused : ∀ id, env.generate = .ok id → u.store.incidents[id]? = none)
    (h : Move env auth g s t) (hs : Consistent s.uow ∧ AllFollowed env u s.uow) :
    Consistent t.uow ∧ AllFollowed env u t.uow := by
  refine ⟨(move_consistent sound h hs.1).1, ?_⟩
  obtain ⟨consistent, followed⟩ := hs
  cases h with
  | read | deny | export_ | notify | dedup | remember =>
    exact followed
  | create id number now c k n generated allocated reading first last vacant _ opened =>
    exact allFollowed_commit followed (opened_followed (unused id generated) opened)
  | change id i now c k n found owned reading first last decided =>
    exact allFollowed_commit followed ((followed id i found).change
      (Decided.tracks (consistent.restorable id i found) decided) ⟨k, reading⟩)

theorem Kept.followed (h : Kept past u) : AllFollowed env u u := by
  intro id i hi
  refine ⟨h.marked id i hi, ?_, ?_⟩
  · intro j hj hmark
    rw [hi] at hj
    cases hj
    exact hmark
  · intro phase hphase
    obtain ⟨since, hsince, -⟩ := h.entered phase id i hi hphase
    exact ⟨since, hsince, Or.inl ⟨i, hi, hphase, hsince⟩⟩

theorem Kept.step (h : Kept past u) (consistent : Consistent u) (request : Request)
    (unused : Unused request.env u) :
    Kept (past ++ [service.stepAt u request]) (service.step u request).2 := by
  have sound : (groundsOf request u).sound := ⟨consistent, unused⟩
  have followed : AllFollowed request.env u (service.step u request).2 :=
    (step_invariant (P := fun s => Consistent s.uow ∧ AllFollowed request.env u s.uow)
      (fun _ _ => move_followed sound unused) ⟨consistent, h.followed⟩).2
  have grows := (step_consistent request consistent unused).2
  refine ⟨fun id i hi => (followed id i hi).marked, ?_, ?_, ?_⟩
  · intro id j hj unmarked st hst i hi
    rcases List.mem_append.mp hst with hst | hst
    · obtain ⟨x, hx⟩ := h.grown st hst id i hi
      have hunmarked : x.everCritical = false := by
        by_contra hmark
        have hmarked := (followed id j hj).forever x hx (by simpa using hmark)
        rw [unmarked] at hmarked
        cases hmarked
      exact h.spared id x hx hunmarked st hst i hi
    · obtain rfl := List.mem_singleton.mp hst
      intro hcritical
      obtain rfl : i = j := Option.some.inj (hi.symm.trans hj)
      have hmarked := (followed id i hj).marked hcritical
      rw [unmarked] at hmarked
      cases hmarked
  · intro st hst id i hi
    rcases List.mem_append.mp hst with hst | hst
    · obtain ⟨x, hx⟩ := h.grown st hst id i hi
      obtain ⟨y, hy, -⟩ := grows.kept id x hx
      exact ⟨y, hy⟩
    · obtain rfl := List.mem_singleton.mp hst
      exact ⟨i, hi⟩
  · intro phase id j hj hphase
    obtain ⟨since, hsince, hfrom⟩ := (followed id j hj).stamped phase hphase
    refine ⟨since, hsince, ?_⟩
    by_cases stands : Stands phase u id since
    · -- it stood there before the step already
      obtain ⟨i, hi, hstate, hstamp⟩ := stands
      obtain ⟨since', hsince', earlier, st, later, hsplit, read, before, after, stood⟩ :=
        h.entered phase id i hi hstate
      obtain rfl : since' = since := Option.some.inj (hsince'.symm.trans hstamp)
      refine ⟨earlier, st, later ++ [service.stepAt u request], by simp [hsplit], read, before,
        after, ?_⟩
      intro st' hst'
      rcases List.mem_append.mp hst' with hst' | hst'
      · exact stood st' hst'
      · obtain rfl := List.mem_singleton.mp hst'
        exact ⟨i, hi, hstate, hstamp⟩
    · have read : ReadBy request.env since := hfrom.resolve_left stands
      exact ⟨past, service.stepAt u request, [], rfl, read, stands, ⟨j, hj, hphase, hsince⟩,
        by simp⟩

theorem run_kept (closurePolicy : ClosurePolicy) (reopenPolicy : ReopenPolicy) (year : Nat)
    (requests : List Request) (distinct : (handedOut requests).Nodup) :
    Kept (service.trace (new closurePolicy reopenPolicy year) requests)
      (service.run (new closurePolicy reopenPolicy year) requests) := by
  induction requests using List.reverseRecOn with
  | nil => constructor <;> simp [new]
  | append_singleton requests request ih =>
    have hpast := distinct_past distinct
    obtain ⟨consistent, stored⟩ := run_consistent closurePolicy reopenPolicy year requests hpast
    rw [service.run_snoc, service.trace_snoc]
    exact (ih hpast).step consistent request (unused_of_distinct distinct stored)

end Runs

/-- In every run whose ids never repeat, every state change a call records with an automatic cause
was guarded: closing by the policy, its delay and the mark of a critical incident, resolving by the
confirmation, recovering for silence by the silence or the caller's word, reopening by a new
detection within the window. The stamps the guards are measured from are the times at which the
incident entered the state it stands in. -/
theorem automatic_changes_guarded (closurePolicy : ClosurePolicy) (reopenPolicy : ReopenPolicy)
    (year : Nat) (requests : List Request) (distinct : (handedOut requests).Nodup) :
    ∀ past request rest, requests = past ++ request :: rest →
      let start := new closurePolicy reopenPolicy year
      let u := service.run start past
      (∀ id, ∃ es, edgesOf (service.step u request).2 id = edgesOf u id ++ es ∧
        ∀ e ∈ es, Guarded (service.trace start past) request u id e) ∧
      ∀ (phase : Phase) (id : IncidentId) i, u.store.incidents[id]? = some i →
        i.state = phase.state → ∃ since, phase.stamp i = some since ∧
          EnteredAt phase (service.trace start past) id since := by
  intro past request rest hsplit start u
  have hpast : (handedOut past).Nodup := distinct_past (hsplit ▸ distinct)
  obtain ⟨consistent, -⟩ := run_consistent closurePolicy reopenPolicy year past hpast
  have kept := run_kept closurePolicy reopenPolicy year past hpast
  exact ⟨perform_extends request consistent kept.spared, kept.entered⟩

theorem automatic_changes_guarded_reopened :
    (handedOut reopenedRun).Nodup ∧
    ∃ es, edgesOf (service.run (new {} {} 2026) reopenedRun) (sampleId 0) =
      edgesOf (service.run (new {} {} 2026) (reopenedRun.take 2)) (sampleId 0) ++ es ∧
      ∀ e ∈ es, Guarded (service.trace (new {} {} 2026) (reopenedRun.take 2))
        (sampleIngest 20 2 "d1" .started 0)
        (service.run (new {} {} 2026) (reopenedRun.take 2)) (sampleId 0) e :=
  ⟨by decide, (automatic_changes_guarded {} {} 2026 reopenedRun (by decide) (reopenedRun.take 2)
    (sampleIngest 20 2 "d1" .started 0) [] rfl).1 (sampleId 0)⟩

/-- The caller of `enter_recovering` says that the detector went silent. -/
def saidSilent : Request where
  env := sampleEnv 0 1
  auth := sampleAuth "acme"
  call := .enterRecovering (sampleId 0) .detectorSilent

def resolvedLongAgo : List Request :=
  [sampleIngest (-4611686018428) 0 "d0" .started 0,
    sampleCommand (-4611686018428) 1 (sampleId 0) (.resolveIncident 1 none)]

/-- The incident is recorded as recovering for silence while no time has passed since the last
detection; and one resolved more than 2^63 microseconds ago is reopened, far past the window. -/
theorem silence_on_trust :
    let u := service.run (new {} {} 2026) [sampleIngest 0 0 "d0" .started 0]
    edgesOf (service.step u saidSilent).2 (sampleId 0) =
      edgesOf u (sampleId 0) ++ [⟨.open_, .recovering, .automatic .detectorSilent⟩] ∧
    (∀ i now, u.store.incidents[sampleId 0]? = some i → ReadBy saidSilent.env now →
      nanosBetween i.lastDetectedAt now = 0) ∧
    let v := service.run (new {} {} 2026) resolvedLongAgo
    edgesOf (service.step v (sampleIngest 4611686018427 2 "d1" .started 0)).2 (sampleId 0) =
      edgesOf v (sampleId 0) ++ [⟨.resolved, .open_, .automatic .reopenedByRecurrence⟩] ∧
    ∃ resolvedAt, (v.store.incidents[sampleId 0]?).map (·.resolvedAt) = some (some resolvedAt) ∧
      v.reopenPolicy.window < nanosBetween resolvedAt ⟨4611686018427000000⟩ := by
  intro u
  refine ⟨by decide +kernel, ?_, by decide +kernel, ⟨-4611686018428000000⟩, by decide +kernel⟩
  rintro i now found ⟨k, reading⟩
  have detected : (u.store.incidents[sampleId 0]?).map (·.lastDetectedAt) = some ⟨0⟩ := by
    decide +kernel
  rw [found] at detected
  have hdetected : i.lastDetectedAt = ⟨0⟩ := Option.some.inj detected
  have hnow : (⟨0⟩ : DurableTimestamp) = now := Except.ok.inj reading
  rw [hdetected, ← hnow]
  rfl

end Tidegard.Incident.Proofs.Guards
