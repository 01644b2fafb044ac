import Tidegard.Incident.Record

namespace Tidegard.Incident.Store

open Tables Common Detector.Policy Basics Time Record

inductive AutomaticCause where
  | trafficCleared
  | detectorStale
  | detectorSilent
  | policyWithdrawn
  | detectorReset
  | recoveryConfirmed
  | recoveryAborted
  | automaticClosure
  | reopenedByRecurrence
  deriving DecidableEq

inductive OperatorCommandKind where
  | acknowledge
  | beginInvestigation
  | markMonitoring
  | resolve
  | close
  | reopen
  | suppress
  | unsuppress
  | assign
  | unassign
  | claim
  | release
  | addNote
  | editNote
  | redactNote
  | changeSeverity
  | changePriority
  | addTag
  | removeTag
  | updateDetails
  deriving DecidableEq

inductive TransitionCause where
  | automatic (cause : AutomaticCause)
  | operator (kind : OperatorCommandKind)
  deriving DecidableEq

/-- The transition table a cause is held to. -/
def TransitionCause.allows (cause : TransitionCause) (fromState toState : IncidentState) : Bool :=
  match cause with
  | .automatic _ => fromState.canAutomaticTransitionTo toState
  | .operator _ => fromState.canOperatorTransitionTo toState

inductive NotificationOutcome where
  | delivered
  | failed
  | refused
  deriving DecidableEq

inductive TimelinePayload where
  | opened
  | eventLinked (evidence : EvidenceReference)
  | lateEventLinked (evidence : EvidenceReference)
  | duplicateIgnored (dedupKey : String)
  | stateChanged (fromState toState : IncidentState) (cause : TransitionCause)
  | categoryChanged (before after : IncidentCategory)
  | severityChanged (before after : Severity) (reason : Option String)
  | priorityChanged (before after : Priority)
  | assignmentChanged (before after : Option Assignee)
  | noteAdded (noteIndex : Nat)
  | noteSuperseded (noteIndex byNoteIndex : Nat)
  | noteRedacted (noteIndex : Nat)
  | suppressed (reason : String)
  | unsuppressed
  | reopened (reopenCount : Nat) (previousIncidentId : Option IncidentId) (reason : Option String)
  | limitReached (limitName : String)
  | tagAdded (key value : String)
  | tagRemoved (key : String)
  | notificationResult (channel eventType : String) (outcome : NotificationOutcome)
  deriving DecidableEq

structure TimelineEntry where
  sequence : Nat
  incidentId : IncidentId
  actor : Actor
  payload : TimelinePayload
  deriving DecidableEq

inductive AttemptedResource where
  | incident (id : IncidentId)
  | unresolved (what : String)
  deriving DecidableEq

inductive AuditOutcome where
  | allowed
  | denied
  deriving DecidableEq

structure FieldChange where
  field : String
  before : String
  after : String
  deriving DecidableEq

structure AuditEntry where
  sequence : Nat
  tenant : TenantId
  actor : Actor
  permission : Permission
  resource : AttemptedResource
  outcome : AuditOutcome
  reason : Option String := none
  change : Option FieldChange := none
  deriving DecidableEq

inductive OutboxEvent where
  | incidentOpened
  | incidentUpdated
  | incidentAcknowledged
  | incidentStateChanged (fromState toState : IncidentState)
  | incidentRecovering
  | incidentResolved
  | incidentClosed
  | incidentReopened (reopenCount : Nat)
  | incidentAssignmentChanged
  | incidentSeverityChanged (before after : Severity)
  | incidentPriorityChanged (before after : Priority)
  | incidentSuppressionChanged (suppressed : Bool)
  deriving DecidableEq

structure OutboxMessage where
  sequence : Nat
  tenant : TenantId
  incidentId : IncidentId
  event : OutboxEvent
  deriving DecidableEq

inductive Command where
  | acknowledgeIncident (expectedVersion : Nat)
  | beginInvestigation (expectedVersion : Nat)
  | markMonitoring (expectedVersion : Nat)
  | resolveIncident (expectedVersion : Nat) (resolutionNote : Option String)
  | closeIncident (expectedVersion : Nat) (reason : ClosureReason) (detail : Option String)
  | reopenIncident (expectedVersion : Nat) (reason : String)
  | suppressIncident (expectedVersion : Nat) (reason : String) (duration : Nat)
  | unsuppressIncident (expectedVersion : Nat)
  | assignIncident (expectedVersion : Nat) (assignee : Assignee)
  | unassignIncident (expectedVersion : Nat)
  | changeSeverity (expectedVersion : Nat) (newSeverity : Severity) (reason : Option String)
  | changePriority (expectedVersion : Nat) (newPriority : Priority)
  | addNote (body : String) (visibility : NoteVisibility)
  | editNote (noteIndex : Nat) (body : String)
  | redactNote (noteIndex : Nat) (reason : String)
  | addTag (key value : String)
  | removeTag (key : String)
  deriving DecidableEq

def Command.kind : Command → OperatorCommandKind
  | .acknowledgeIncident .. => .acknowledge
  | .beginInvestigation .. => .beginInvestigation
  | .markMonitoring .. => .markMonitoring
  | .resolveIncident .. => .resolve
  | .closeIncident .. => .close
  | .reopenIncident .. => .reopen
  | .suppressIncident .. => .suppress
  | .unsuppressIncident .. => .unsuppress
  | .assignIncident .. => .assign
  | .unassignIncident .. => .unassign
  | .changeSeverity .. => .changeSeverity
  | .changePriority .. => .changePriority
  | .addNote .. => .addNote
  | .editNote .. => .editNote
  | .redactNote .. => .redactNote
  | .addTag .. => .addTag
  | .removeTag .. => .removeTag

def Command.requiredPermission : Command → Permission
  | .acknowledgeIncident .. => .incidentAcknowledge
  | .beginInvestigation .. | .markMonitoring .. => .incidentInvestigate
  | .resolveIncident .. => .incidentResolve
  | .closeIncident .. => .incidentClose
  | .reopenIncident .. => .incidentReopen
  | .suppressIncident .. | .unsuppressIncident .. => .incidentSuppress
  | .assignIncident .. | .unassignIncident .. => .incidentAssign
  | .changeSeverity .. => .incidentSeverityChange
  | .changePriority .. => .incidentPriorityChange
  | .addNote .. | .editNote .. => .incidentNoteCreate
  | .redactNote .. => .incidentNoteRedact
  | .addTag .. | .removeTag .. => .incidentUpdate

def Command.expectedVersion : Command → Option Nat
  | .acknowledgeIncident v | .beginInvestigation v | .markMonitoring v | .resolveIncident v _
  | .closeIncident v _ _ | .reopenIncident v _ | .suppressIncident v _ _ | .unsuppressIncident v
  | .assignIncident v _ | .unassignIncident v | .changeSeverity v _ _ | .changePriority v _ => some v
  | .addNote .. | .editNote .. | .redactNote .. | .addTag .. | .removeTag .. => none

/-- A client's retry key, of 16 to 255 bytes. -/
structure IdempotencyKey where
  text : String
  bounded : 16 ≤ text.utf8ByteSize ∧ text.utf8ByteSize ≤ 255
  deriving DecidableEq

theorem IdempotencyKey.text_injective : Function.Injective IdempotencyKey.text := by
  rintro ⟨a, ha⟩ ⟨b, hb⟩ h
  cases h
  rfl

instance : LinearOrder IdempotencyKey :=
  LinearOrder.lift' IdempotencyKey.text IdempotencyKey.text_injective

instance : Std.TransCmp
    (compare : TenantId ×ₗ IdempotencyKey → TenantId ×ₗ IdempotencyKey → Ordering) := transCmp

/-- What a request asks for. The source compares the canonical JSON of the same two pairs, the
incident's id with the command, and a fixed name with the manual incident. -/
inductive RequestFingerprint where
  | command (incidentId : IncidentId) (command : Command)
  | manual (request : ManualIncident)
  deriving DecidableEq

inductive StoredOutcome where
  | mutated (incidentId : IncidentId) (version : Nat)
  | failed (error : IncidentError)
  deriving DecidableEq

structure IdempotencyRecord where
  fingerprint : RequestFingerprint
  outcome : StoredOutcome
  deriving DecidableEq

inductive IdempotencyCheck where
  | new
  | replay (outcome : StoredOutcome)
  | conflict
  deriving DecidableEq

structure InMemoryIncidentStore where
  incidents : Table IncidentId Incident := ∅
  openIndex : Table CorrelationKey IncidentId := ∅
  dedupSeen : Table (TenantId ×ₗ String) IncidentId := ∅
  timeline : List TimelineEntry := []
  audit : List AuditEntry := []
  outbox : List OutboxMessage := []
  idempotency : Table (TenantId ×ₗ IdempotencyKey) IdempotencyRecord := ∅

def InMemoryIncidentStore.checkIdempotency (s : InMemoryIncidentStore) (tenant : TenantId)
    (key : IdempotencyKey) (fingerprint : RequestFingerprint) : IdempotencyCheck :=
  match s.idempotency[toLex (tenant, key)]? with
  | none => .new
  | some record => if record.fingerprint = fingerprint then .replay record.outcome else .conflict

/-- Of two candidates, the one `max_by_key` keeps: the one with the later reference, and of two
equal ones the one the hash map visits last. `rank` is the position in that visiting order. -/
def laterCandidate (rank : IncidentId → Nat) (a b : Incident) : Incident :=
  let key (i : Incident) : WithBot DurableTimestamp := i.reopenReferenceTimestamp
  if key a < key b ∨ key a = key b ∧ rank a.incidentId < rank b.incidentId then b else a

def InMemoryIncidentStore.reopenCandidate (s : InMemoryIncidentStore) (rank : IncidentId → Nat)
    (key : CorrelationKey) (tenant : TenantId) : Option Incident :=
  let found := (s.incidents.toList.map Prod.snd).filter fun i =>
    i.correlationKey = key && i.isReopenCandidate && i.tenantId = tenant
  match found with
  | [] => none
  | first :: rest => some (rest.foldl (laterCandidate rank) first)

/-- The service: its store, the three sequence counters and its configuration. -/
structure IncidentUnitOfWork where
  store : InMemoryIncidentStore := {}
  timelineSequence : Nat := 0
  auditSequence : Nat := 0
  outboxSequence : Nat := 0
  numberAllocationYear : Nat := 2026
  closurePolicy : ClosurePolicy := {}
  reopenPolicy : ReopenPolicy := {}

def IncidentUnitOfWork.appendTimeline (u : IncidentUnitOfWork) (id : IncidentId) (actor : Actor)
    (payload : TimelinePayload) : IncidentUnitOfWork :=
  { u with
    timelineSequence := saturatingAdd u.timelineSequence 1
    store := { u.store with timeline := u.store.timeline ++
      [{ sequence := u.timelineSequence, incidentId := id, actor, payload }] } }

/-- The entry without its number, which it is given here. -/
def IncidentUnitOfWork.appendAudit (u : IncidentUnitOfWork) (entry : Nat → AuditEntry) :
    IncidentUnitOfWork :=
  { u with
    auditSequence := saturatingAdd u.auditSequence 1
    store := { u.store with audit := u.store.audit ++ [entry u.auditSequence] } }

def IncidentUnitOfWork.appendOutbox (u : IncidentUnitOfWork) (tenant : TenantId) (id : IncidentId)
    (event : OutboxEvent) : IncidentUnitOfWork :=
  { u with
    outboxSequence := saturatingAdd u.outboxSequence 1
    store := { u.store with outbox := u.store.outbox ++
      [{ sequence := u.outboxSequence, tenant, incidentId := id, event }] } }

def IncidentUnitOfWork.dedupRecord (u : IncidentUnitOfWork) (tenant : TenantId)
    (dedupKey : String) (id : IncidentId) : IncidentUnitOfWork :=
  { u with
    store := { u.store with dedupSeen := u.store.dedupSeen.insert (toLex (tenant, dedupKey)) id } }

def IncidentUnitOfWork.idempotencyRecord (u : IncidentUnitOfWork) (tenant : TenantId)
    (key : IdempotencyKey) (record : IdempotencyRecord) : IncidentUnitOfWork :=
  { u with
    store := { u.store with
      idempotency := u.store.idempotency.insert (toLex (tenant, key)) record } }

def AuditEntry.allowed (auth : AuthorizationContext) (permission : Permission) (id : IncidentId)
    (reason : Option String) (change : Option FieldChange) (sequence : Nat) : AuditEntry where
  sequence := sequence
  tenant := auth.tenant
  actor := auth.actor
  permission := permission
  resource := .incident id
  outcome := .allowed
  reason := reason
  change := change

def AuditEntry.denied (auth : AuthorizationContext) (permission : Permission)
    (resource : AttemptedResource) (reason : String) (sequence : Nat) : AuditEntry where
  sequence := sequence
  tenant := auth.tenant
  actor := auth.actor
  permission := permission
  resource := resource
  outcome := .denied
  reason := some reason

/-- What a change does to the open index. -/
inductive IndexUpdate where
  | keep
  | claim (key : CorrelationKey)
  | release (key : CorrelationKey)
  deriving DecidableEq

/-- Everything one change of one incident writes. -/
structure Commit where
  incident : Incident
  index : IndexUpdate := .keep
  entries : List (Actor × TimelinePayload)
  permission : Permission
  reason : Option String := none
  change : Option FieldChange := none
  outbox : Option OutboxEvent := none

def InMemoryIncidentStore.updateIndex (s : InMemoryIncidentStore) (id : IncidentId) :
    IndexUpdate → InMemoryIncidentStore
  | .keep => s
  | .claim key => { s with openIndex := s.openIndex.insert key id }
  | .release key => { s with openIndex := s.openIndex.erase key }

/-- The entries of one change, in order. -/
def IncidentUnitOfWork.appendEntries (u : IncidentUnitOfWork) (id : IncidentId)
    (entries : List (Actor × TimelinePayload)) : IncidentUnitOfWork :=
  entries.foldl (fun u entry => u.appendTimeline id entry.1 entry.2) u

/-- The writes of a change: the incident, the index, the timeline entries, one audit entry and
at most one outbox message. -/
def IncidentUnitOfWork.commit (u : IncidentUnitOfWork) (auth : AuthorizationContext)
    (id : IncidentId) (c : Commit) : IncidentUnitOfWork :=
  let written := { u.store with incidents := u.store.incidents.insert id c.incident }
  let u := { u with store := written.updateIndex id c.index }
  let u := u.appendEntries id c.entries
  let u := u.appendAudit (AuditEntry.allowed auth c.permission id c.reason c.change)
  match c.outbox with
  | none => u
  | some event => u.appendOutbox auth.tenant id event

/-- The entries of one change, numbered from `sequence` on. -/
def numbered (id : IncidentId) : Nat → List (Actor × TimelinePayload) → List TimelineEntry
  | _, [] => []
  | sequence, entry :: rest =>
    { sequence, incidentId := id, actor := entry.1, payload := entry.2 } ::
      numbered id (saturatingAdd sequence 1) rest

/-- The number after the last of a change's entries. -/
def numberAfter : Nat → List (Actor × TimelinePayload) → Nat
  | sequence, [] => sequence
  | sequence, _ :: rest => numberAfter (saturatingAdd sequence 1) rest

theorem appendEntries_eq (u : IncidentUnitOfWork) (id : IncidentId)
    (entries : List (Actor × TimelinePayload)) :
    u.appendEntries id entries =
      { u with
        timelineSequence := numberAfter u.timelineSequence entries
        store := { u.store with
          timeline := u.store.timeline ++ numbered id u.timelineSequence entries } } := by
  induction entries generalizing u with
  | nil => simp [IncidentUnitOfWork.appendEntries, numbered, numberAfter]
  | cons entry rest ih =>
    have hstep : u.appendEntries id (entry :: rest) =
        (u.appendTimeline id entry.1 entry.2).appendEntries id rest := rfl
    rw [hstep, ih]
    simp [IncidentUnitOfWork.appendTimeline, numbered, numberAfter]

section Commit

variable (u : IncidentUnitOfWork) (auth : AuthorizationContext) (id : IncidentId) (c : Commit)

theorem commit_eq :
    u.commit auth id c =
      { u with
        timelineSequence := numberAfter u.timelineSequence c.entries
        auditSequence := saturatingAdd u.auditSequence 1
        outboxSequence :=
          if c.outbox.isSome then saturatingAdd u.outboxSequence 1 else u.outboxSequence
        store := { u.store with
          incidents := u.store.incidents.insert id c.incident
          openIndex := (u.store.updateIndex id c.index).openIndex
          timeline := u.store.timeline ++ numbered id u.timelineSequence c.entries
          audit := u.store.audit ++
            [AuditEntry.allowed auth c.permission id c.reason c.change u.auditSequence]
          outbox := u.store.outbox ++ (c.outbox.map fun event =>
            { sequence := u.outboxSequence, tenant := auth.tenant, incidentId := id,
              event }).toList } } := by
  unfold IncidentUnitOfWork.commit
  dsimp only
  rw [appendEntries_eq]
  cases ho : c.outbox <;> cases hi : c.index <;>
    simp [IncidentUnitOfWork.appendAudit, IncidentUnitOfWork.appendOutbox,
      InMemoryIncidentStore.updateIndex]

@[simp] theorem commit_incidents :
    (u.commit auth id c).store.incidents = u.store.incidents.insert id c.incident := by
  rw [commit_eq]

@[simp] theorem commit_openIndex :
    (u.commit auth id c).store.openIndex = (u.store.updateIndex id c.index).openIndex := by
  rw [commit_eq]

@[simp] theorem commit_dedupSeen : (u.commit auth id c).store.dedupSeen = u.store.dedupSeen := by
  rw [commit_eq]

@[simp] theorem commit_idempotency :
    (u.commit auth id c).store.idempotency = u.store.idempotency := by
  rw [commit_eq]

@[simp] theorem commit_timeline :
    (u.commit auth id c).store.timeline =
      u.store.timeline ++ numbered id u.timelineSequence c.entries := by
  rw [commit_eq]

end Commit

end Tidegard.Incident.Store
