import Tidegard.Incident.Commits

namespace Tidegard.Incident.Proofs.Changes

open Fallible Common Detector.Policy Detector.Event Basics Time Record Store Commits

variable {i : Incident}
variable {active : Option IncidentId} {index : Nat}

/-! What a change may do to the state of an incident, to the index of active incidents, to its
count of reopenings and to its recorded history, whichever change it is. -/

structure Edge where
  fromState : IncidentState
  toState : IncidentState
  cause : TransitionCause
  deriving DecidableEq

def Edge.legal (e : Edge) : Bool := e.cause.allows e.fromState e.toState

/-- Into Open from Resolved or Closed. -/
def Edge.isReopening (e : Edge) : Bool :=
  e.toState = .open_ && (e.fromState = .resolved || e.fromState = .closed)

def edgeOf : TimelinePayload → Option Edge
  | .stateChanged fromState toState cause => some ⟨fromState, toState, cause⟩
  | _ => none

def isReopened : TimelinePayload → Bool
  | .reopened .. => true
  | _ => false

def edges (c : Commit) : List Edge := c.entries.filterMap fun e => edgeOf e.2

def reopenings (c : Commit) : Nat := c.entries.countP fun e => isReopened e.2

/-- A recovering incident knows the state it would go back to, which is one that recovers. -/
structure Restorable (i : Incident) : Prop where
  recovers : ∀ state, i.stateBeforeRecovering = some state →
    state.canAutomaticTransitionTo .recovering = true
  known : i.state = .recovering → ∃ state, i.stateBeforeRecovering = some state

theorem Restorable.settled (state : i.state ≠ .recovering) (before : i.stateBeforeRecovering = none) :
    Restorable i where
  recovers st hst := by
    rw [before] at hst
    cases hst
  known h := absurd h state

/-- One legal edge from the state before to the state after. -/
structure Traverses (cause : TransitionCause) (i : Incident) (c : Commit) : Prop where
  edges : edges c = [⟨i.state, c.incident.state, cause⟩]
  legal : cause.allows i.state c.incident.state

/-- The count of reopenings, and the reopenings recorded, are left alone. -/
structure Uncounted (i : Incident) (c : Commit) : Prop where
  count : c.incident.reopenCount = i.reopenCount
  none : reopenings c = 0

inductive Lifecycle (active : Option IncidentId) (i : Incident) (c : Commit) : Prop where
  | stays (index : c.index = .keep) (state : c.incident.state = i.state) (edges : edges c = [])
      (uncounted : Uncounted i c)
  | moves (cause : TransitionCause) (traverses : Traverses cause i c) (index : c.index = .keep)
      (before : Active i.state) (after : Active c.incident.state) (uncounted : Uncounted i c)
  | resolves (cause : TransitionCause) (traverses : Traverses cause i c)
      (index : c.index = .release i.correlationKey) (before : Active i.state)
      (after : c.incident.state = .resolved) (uncounted : Uncounted i c)
  | closes (cause : TransitionCause) (traverses : Traverses cause i c) (index : c.index = .keep)
      (before : i.state = .resolved) (after : c.incident.state = .closed)
      (uncounted : Uncounted i c)
  | reopens (cause : TransitionCause) (traverses : Traverses cause i c)
      (index : c.index = .claim i.correlationKey) (vacant : active = none)
      (before : ¬ Active i.state) (after : c.incident.state = .open_)
      (count : c.incident.reopenCount = i.reopenCount + 1) (once : reopenings c = 1)

/-- What never changes about an incident. -/
structure SameIdentity (i j : Incident) : Prop where
  incidentId : j.incidentId = i.incidentId
  tenantId : j.tenantId = i.tenantId
  correlationKey : j.correlationKey = i.correlationKey

/-- What every change of one incident does. -/
structure Edit (active : Option IncidentId) (i : Incident) (c : Commit) : Prop where
  identity : SameIdentity i c.incident
  version : c.incident.version = i.version + 1
  lifecycle : Restorable i → Lifecycle active i c
  restorable : Restorable i → Restorable c.incident

@[simp] theorem require_ok :
    Commit.require condition e = .ok u ↔ condition = true := by
  unfold Commit.require
  cases condition <;> simp

@[simp] theorem noneActive_ok : Commit.noneActive active = .ok u ↔ active = none := by
  cases active <;> simp [Commit.noneActive]

@[simp] theorem nextVersion_ok :
    i.nextVersion = .ok v ↔ i.version < u64Max ∧ v = i.version + 1 := by
  unfold Incident.nextVersion
  split <;> simp_all [eq_comm]

@[simp] theorem nextReopenCount_ok :
    i.nextReopenCount = .ok n ↔ i.reopenCount < u32Max ∧ n = i.reopenCount + 1 := by
  unfold Incident.nextReopenCount
  split <;> simp_all [eq_comm]

theorem noteAt_ok :
    Commit.noteAt i index = .ok note ↔ i.notes[index]? = some note := by
  unfold Commit.noteAt
  split <;> simp_all

theorem notReplaced_ok : Commit.notReplaced i index = .ok u ↔ i.noteSupersededBy index = none := by
  unfold Commit.notReplaced
  split <;> simp_all

@[simp] theorem transition_enterRecovering_ok :
    Transition.enterRecovering i = .ok u ↔
      i.state.canAutomaticTransitionTo .recovering = true := by
  unfold Transition.enterRecovering
  split <;> simp_all

@[simp] theorem transition_confirmRecovery_ok :
    Transition.confirmRecovery i = .ok u ↔ i.state = .recovering := by
  unfold Transition.confirmRecovery
  split <;> simp_all

@[simp] theorem transition_abortRecovery_ok :
    Transition.abortRecovery i = .ok state ↔
      i.state = .recovering ∧ i.stateBeforeRecovering = some state := by
  unfold Transition.abortRecovery
  split
  · cases hb : i.stateBeforeRecovering <;> simp_all
  · simp_all

/-- A link is refused only for want of a version. -/
theorem linkEvent_decided :
    (∃ c, Commit.linkEvent event late now i = .ok c) ↔ i.version < u64Max := by
  simp only [Commit.linkEvent, bind_eq_ok, pure_eq_ok, nextVersion_ok]
  constructor
  · rintro ⟨c, v, ⟨h, -⟩, -⟩
    exact h
  · intro h
    exact ⟨_, _, ⟨h, rfl⟩, rfl⟩

/-- The changes a caller can bring about, with the checks made before the change is decided.
`noted` says which resolution notes are given to which incidents, since nothing checks them. -/
inductive Decided (auth : AuthorizationContext) (noted : Incident → Option String → Prop)
    (active : Option IncidentId) (now : DurableTimestamp) (i : Incident) (c : Commit) : Prop where
  | linkEvent (event : DetectionEvent) (late : Bool) (h : Commit.linkEvent event late now i = .ok c)
  | reopenIncidentInternal (event : DetectionEvent) (cause : AutomaticCause)
      (h : Commit.reopenIncidentInternal active event cause now i = .ok c)
  | enterRecovering (reason : DetectionEndReason)
      (h : Commit.enterRecovering reason now i = .ok c)
  | abortRecovery (h : Commit.abortRecovery now i = .ok c)
  | resolveInternal (cause : TransitionCause) (note : Option String) (given : noted i note)
      (h : Commit.resolveInternal auth cause note now i = .ok c)
  | closeInternal (reason : ClosureReason) (cause : TransitionCause)
      (h : Commit.closeInternal auth reason cause now i = .ok c)
  | acknowledge (kind : OperatorCommandKind) (permission : Permission)
      (h : Commit.guardedOperatorTransition auth .acknowledged kind permission
        (fun i now => { i with acknowledgedAt := some now }) now i = .ok c)
  | attend (toState : IncidentState) (attends : toState = .investigating ∨ toState = .monitoring)
      (kind : OperatorCommandKind) (permission : Permission)
      (h : Commit.guardedOperatorTransition auth toState kind permission (fun i _ => i) now i =
        .ok c)
  | operatorReopen (reason : String) (h : Commit.operatorReopen auth active reason now i = .ok c)
  | suppress (reason : String) (valid : validateReason reason = .ok ())
      (deadline : DurableTimestamp) (h : Commit.suppress auth reason deadline now i = .ok c)
  | unsuppress (h : Commit.unsuppress auth now i = .ok c)
  | assign (assignee : Option Assignee) (h : Commit.assign auth assignee now i = .ok c)
  | changeSeverity (newSeverity : Severity) (reason : Option String)
      (h : Commit.changeSeverity auth newSeverity reason now i = .ok c)
  | changePriority (newPriority : Priority)
      (h : Commit.changePriority auth newPriority now i = .ok c)
  | addNote (body : String) (valid : validateNoteBody body = .ok ()) (visibility : NoteVisibility)
      (h : Commit.addNote auth body visibility now i = .ok c)
  | editNote (noteIndex : Nat) (original : Note) (found : i.notes[noteIndex]? = some original)
      (body : String) (valid : validateNoteBody body = .ok ())
      (h : Commit.editNote auth noteIndex original body now i = .ok c)
  | redactNote (noteIndex : Nat) (reason : String) (valid : validateRedactionReason reason = .ok ())
      (h : Commit.redactNote auth noteIndex reason now i = .ok c)
  | addTag (key value : String)
      (bounded : key.utf8ByteSize ≤ tagKeyMaxLen ∧ value.utf8ByteSize ≤ tagValueMaxLen)
      (h : Commit.addTag auth key value now i = .ok c)
  | removeTag (key : String) (h : Commit.removeTag auth key now i = .ok c)

theorem Decided.noted {noted : Incident → Option String → Prop}
    (h : Decided auth noted active now i c)
    (given : ∀ note, noted i note → noted' i note) : Decided auth noted' active now i c := by
  cases h with
  | resolveInternal cause note hnote h => exact .resolveInternal cause note (given note hnote) h
  | linkEvent event late h => exact .linkEvent event late h
  | reopenIncidentInternal event cause h => exact .reopenIncidentInternal event cause h
  | enterRecovering reason h => exact .enterRecovering reason h
  | abortRecovery h => exact .abortRecovery h
  | closeInternal reason cause h => exact .closeInternal reason cause h
  | acknowledge kind permission h => exact .acknowledge kind permission h
  | attend toState attends kind permission h => exact .attend toState attends kind permission h
  | operatorReopen reason h => exact .operatorReopen reason h
  | suppress reason valid deadline h => exact .suppress reason valid deadline h
  | unsuppress h => exact .unsuppress h
  | assign assignee h => exact .assign assignee h
  | changeSeverity newSeverity reason h => exact .changeSeverity newSeverity reason h
  | changePriority newPriority h => exact .changePriority newPriority h
  | addNote body valid visibility h => exact .addNote body valid visibility h
  | editNote noteIndex original found body valid h =>
    exact .editNote noteIndex original found body valid h
  | redactNote noteIndex reason valid h => exact .redactNote noteIndex reason valid h
  | addTag key value bounded h => exact .addTag key value bounded h
  | removeTag key h => exact .removeTag key h

section Edits

variable {noted : Incident → Option String → Prop}
variable {active : Option IncidentId} {i : Incident}
variable {permission : Permission} {event : DetectionEvent} {state : IncidentState}
variable {cause : TransitionCause}

/-- A change that records neither a state change nor a reopening. -/
theorem Edit.quiet (identity : SameIdentity i c.incident)
    (version : c.incident.version = i.version + 1) (index : c.index = .keep)
    (state : c.incident.state = i.state) (count : c.incident.reopenCount = i.reopenCount)
    (before : c.incident.stateBeforeRecovering = i.stateBeforeRecovering)
    (edges : edges c = []) (none : reopenings c = 0) : Edit active i c where
  identity := identity
  version := version
  lifecycle _ := .stays index state edges ⟨count, none⟩
  restorable h := by
    refine ⟨fun st hst => h.recovers st (before ▸ hst), ?_⟩
    rw [state, before]
    exact h.known

/-- What an edit outside the lifecycle leaves of an incident. -/
structure Unmoved (i edited : Incident) : Prop where
  identity : SameIdentity i edited
  state : edited.state = i.state
  count : edited.reopenCount = i.reopenCount
  before : edited.stateBeforeRecovering = i.stateBeforeRecovering

theorem recordEdit_edit
    (h : Commit.recordEdit auth now i edited payload permission reason change outbox = .ok c)
    (unmoved : Unmoved i edited) (noEdge : edgeOf payload = none)
    (noReopening : isReopened payload = false) : Edit active i c := by
  simp only [Commit.recordEdit, bind_eq_ok, pure_eq_ok, nextVersion_ok] at h
  obtain ⟨v, ⟨-, rfl⟩, rfl⟩ := h
  have hid := unmoved.identity
  refine Edit.quiet ⟨hid.incidentId, hid.tenantId, hid.correlationKey⟩ rfl rfl unmoved.state
    unmoved.count unmoved.before ?_ ?_
  · simp [edges, noEdge]
  · simp [reopenings, noReopening]

theorem linkEvent_edit (h : Commit.linkEvent event late now i = .ok c) : Edit active i c := by
  simp only [Commit.linkEvent, bind_eq_ok, pure_eq_ok, nextVersion_ok] at h
  obtain ⟨v, ⟨-, rfl⟩, rfl⟩ := h
  -- neither kind of link, nor a new category, is a state change
  refine Edit.quiet ⟨rfl, rfl, rfl⟩ rfl rfl rfl rfl rfl ?_ ?_
  · cases Commit.isLate late now i <;>
      by_cases hc : deriveCategory (addMetrics i.matchedMetrics event) = i.category <;>
      simp [edges, edgeOf, hc]
  · cases Commit.isLate late now i <;>
      by_cases hc : deriveCategory (addMetrics i.matchedMetrics event) = i.category <;>
      simp [reopenings, isReopened, hc]

theorem not_active_of_reopenable (h : state = .resolved ∨ state = .closed) : ¬ Active state := by
  rcases h with rfl | rfl <;> decide

theorem active_of_recovers (h : state.canAutomaticTransitionTo .recovering = true) :
    Active state := by
  cases state <;> first | decide | cases h

theorem reopenIncidentInternal_edit {cause : AutomaticCause}
    (h : Commit.reopenIncidentInternal active event cause now i = .ok c) : Edit active i c := by
  simp only [Commit.reopenIncidentInternal, bind_eq_ok, pure_eq_ok, nextVersion_ok,
    nextReopenCount_ok, require_ok, noneActive_ok, Bool.or_eq_true, decide_eq_true_eq] at h
  obtain ⟨-, vacant, -, hstate, n, ⟨-, rfl⟩, v, ⟨-, rfl⟩, rfl⟩ := h
  refine ⟨⟨rfl, rfl, rfl⟩, rfl, fun _ => ?_, fun h => ⟨h.recovers, fun hs => by cases hs⟩⟩
  refine .reopens (.automatic cause) ⟨rfl, ?_⟩ rfl vacant (not_active_of_reopenable hstate) rfl rfl
    rfl
  rcases hstate with hs | hs <;> rw [hs] <;> rfl

theorem operatorReopen_edit
    (h : Commit.operatorReopen auth active reason now i = .ok c) : Edit active i c := by
  simp only [Commit.operatorReopen, bind_eq_ok, pure_eq_ok, nextVersion_ok, nextReopenCount_ok,
    require_ok, noneActive_ok] at h
  obtain ⟨-, legal, -, vacant, n, ⟨-, rfl⟩, v, ⟨-, rfl⟩, rfl⟩ := h
  refine ⟨⟨rfl, rfl, rfl⟩, rfl, fun _ => ?_, fun h => ⟨h.recovers, fun hs => by cases hs⟩⟩
  refine .reopens (.operator .reopen) ⟨rfl, legal⟩ rfl vacant ?_ rfl rfl rfl
  apply not_active_of_reopenable
  cases hs : i.state <;> rw [hs] at legal <;> simp_all [IncidentState.canOperatorTransitionTo]

theorem enterRecovering_edit
    (h : Commit.enterRecovering reason now i = .ok c) : Edit active i c := by
  simp only [Commit.enterRecovering, transition_enterRecovering_ok, bind_eq_ok, pure_eq_ok,
    nextVersion_ok] at h
  obtain ⟨-, legal, v, ⟨-, rfl⟩, rfl⟩ := h
  refine ⟨⟨rfl, rfl, rfl⟩, rfl, fun _ => ?_, fun _ => ?_⟩
  · exact .moves (.automatic reason.cause) ⟨rfl, legal⟩ rfl (active_of_recovers legal)
      ⟨by simp, by simp⟩ ⟨rfl, rfl⟩
  · refine ⟨?_, fun _ => ⟨i.state, rfl⟩⟩
    intro state hstate
    rw [← Option.some.inj hstate]
    exact legal

/-- An aborted recovery goes back to a state that recovers, so the edge is in the automatic
table. -/
theorem abortRecovery_edit (h : Commit.abortRecovery now i = .ok c) : Edit active i c := by
  simp only [Commit.abortRecovery, transition_abortRecovery_ok, bind_eq_ok, pure_eq_ok,
    nextVersion_ok] at h
  obtain ⟨before, ⟨recovering, hbefore⟩, v, ⟨-, rfl⟩, rfl⟩ := h
  refine ⟨⟨rfl, rfl, rfl⟩, rfl, fun restorable => ?_, fun restorable => ?_⟩
  case refine_2 =>
    refine .settled ?_ rfl
    rintro rfl
    cases restorable.recovers _ hbefore
  have recovers := restorable.recovers _ hbefore
  have legal : IncidentState.recovering.canAutomaticTransitionTo before = true := by
    cases before <;> first | rfl | cases recovers
  refine .moves (.automatic .recoveryAborted) ⟨?_, ?_⟩ rfl ?_ (active_of_recovers recovers)
    ⟨rfl, rfl⟩
  · rw [recovering]
    rfl
  · rw [recovering]
    exact legal
  · rw [recovering]
    decide

theorem resolveInternal_edit
    (h : Commit.resolveInternal auth cause note now i = .ok c) : Edit active i c := by
  simp only [Commit.resolveInternal, bind_eq_ok, pure_eq_ok, nextVersion_ok, require_ok,
    decide_eq_true_eq] at h
  obtain ⟨-, unresolved, -, legal, v, ⟨-, rfl⟩, rfl⟩ := h
  refine ⟨⟨rfl, rfl, rfl⟩, rfl, fun _ => ?_, fun _ => .settled (by simp) rfl⟩
  refine .resolves cause ⟨rfl, legal⟩ rfl ⟨unresolved, ?_⟩ rfl ⟨rfl, rfl⟩
  -- neither table leads from Closed to Resolved
  intro hclosed
  rw [hclosed] at legal
  cases cause <;> cases legal

theorem closeInternal_edit
    (h : Commit.closeInternal auth reason cause now i = .ok c) : Edit active i c := by
  simp only [Commit.closeInternal, bind_eq_ok, pure_eq_ok, nextVersion_ok, require_ok] at h
  obtain ⟨-, legal, v, ⟨-, rfl⟩, rfl⟩ := h
  refine ⟨⟨rfl, rfl, rfl⟩, rfl, fun _ => ?_, fun h => ⟨h.recovers, fun hs => by cases hs⟩⟩
  refine .closes cause ⟨rfl, legal⟩ rfl ?_ rfl ⟨rfl, rfl⟩
  cases hs : i.state <;> rw [hs] at legal <;> cases cause <;> first | rfl | cases legal

/-- Investigating, Monitoring and Acknowledged are reached from active states only. -/
theorem guardedOperatorTransition_edit (after : Active toState) (notOpen : toState ≠ .open_)
    (notRecovering : toState ≠ .recovering) (unmoved : ∀ j, Unmoved j (extra j now))
    (kept : ∀ j, (extra j now).version = j.version)
    (h : Commit.guardedOperatorTransition auth toState kind permission extra now i = .ok c) :
    Edit active i c := by
  simp only [Commit.guardedOperatorTransition, bind_eq_ok, pure_eq_ok, nextVersion_ok, require_ok,
    decide_eq_true_eq] at h
  obtain ⟨-, -, -, legal, v, ⟨-, rfl⟩, rfl⟩ := h
  have hu := unmoved { i with state := toState, lastUpdatedAt := now, version := i.version + 1 }
  have hid := hu.identity
  refine ⟨⟨hid.incidentId, hid.tenantId, hid.correlationKey⟩, kept _, fun _ => ?_, fun h => ?_⟩
  · refine .moves (.operator kind) ⟨?_, ?_⟩ rfl ?_ ?_ ⟨hu.count, rfl⟩
    · rw [hu.state]
      rfl
    · rw [hu.state]
      exact legal
    · -- a resolved or closed incident moves only to Closed or Open
      constructor <;> intro hs <;> rw [hs] at legal <;> revert after legal notOpen <;>
        cases toState <;> decide
    · rw [hu.state]
      exact after
  · refine ⟨fun state hs => h.recovers state (hu.before ▸ hs), ?_⟩
    rw [hu.state]
    exact fun hs => absurd hs notRecovering

theorem Decided.edit (h : Decided auth noted active now i c) : Edit active i c := by
  cases h with
  | linkEvent event late h => exact linkEvent_edit h
  | reopenIncidentInternal event cause h => exact reopenIncidentInternal_edit h
  | enterRecovering reason h => exact enterRecovering_edit h
  | abortRecovery h => exact abortRecovery_edit h
  | resolveInternal cause note given h => exact resolveInternal_edit h
  | closeInternal reason cause h => exact closeInternal_edit h
  | acknowledge kind permission h =>
    exact guardedOperatorTransition_edit (by decide) (by decide) (by decide)
      (fun _ => ⟨⟨rfl, rfl, rfl⟩, rfl, rfl, rfl⟩) (fun _ => rfl) h
  | attend toState attends kind permission h =>
    apply guardedOperatorTransition_edit _ _ _ (fun _ => ⟨⟨rfl, rfl, rfl⟩, rfl, rfl, rfl⟩)
      (fun _ => rfl) h
    · rcases attends with rfl | rfl <;> decide
    · rcases attends with rfl | rfl <;> decide
    · rcases attends with rfl | rfl <;> decide
  | operatorReopen reason h => exact operatorReopen_edit h
  | suppress reason valid deadline h | unsuppress h | assign assignee h
  | changePriority newPriority h | removeTag key h =>
    exact recordEdit_edit h ⟨⟨rfl, rfl, rfl⟩, rfl, rfl, rfl⟩ rfl rfl
  | changeSeverity newSeverity reason h | addNote body valid visibility h
  | addTag key value bounded h =>
    obtain ⟨-, -, h⟩ := bind_eq_ok.mp h
    exact recordEdit_edit h ⟨⟨rfl, rfl, rfl⟩, rfl, rfl, rfl⟩ rfl rfl
  | editNote noteIndex original found body valid h =>
    simp only [Commit.editNote, bind_eq_ok] at h
    obtain ⟨-, -, -, -, -, -, h⟩ := h
    exact recordEdit_edit h ⟨⟨rfl, rfl, rfl⟩, rfl, rfl, rfl⟩ rfl rfl
  | redactNote noteIndex reason valid h =>
    simp only [Commit.redactNote, bind_eq_ok, pure_eq_ok, nextVersion_ok] at h
    obtain ⟨v, ⟨-, rfl⟩, -, -, -, -, rfl⟩ := h
    exact Edit.quiet ⟨rfl, rfl, rfl⟩ rfl rfl rfl rfl rfl rfl rfl

end Edits

end Tidegard.Incident.Proofs.Changes
