import Tidegard.Incident.Store

namespace Tidegard.Incident.Commits

open Common Detector.Input Detector.Policy Detector.Event Basics Time Record Store

inductive DetectionEndReason where
  | trafficCleared
  | detectorStale
  | detectorSilent
  | policyWithdrawn
  | detectorReset
  deriving DecidableEq

def DetectionEndReason.cause : DetectionEndReason → AutomaticCause
  | .trafficCleared => .trafficCleared
  | .detectorStale => .detectorStale
  | .detectorSilent => .detectorSilent
  | .policyWithdrawn => .policyWithdrawn
  | .detectorReset => .detectorReset

namespace Transition

/-- Whether an incident may start to recover; the reason plays no part. -/
def enterRecovering (i : Incident) : Except IncidentError Unit :=
  if i.state.canAutomaticTransitionTo .recovering then .ok ()
  else .error (.invalidTransition i.state .recovering)

def confirmRecovery (i : Incident) : Except IncidentError Unit :=
  if i.state = .recovering then .ok () else .error (.invalidTransition i.state .resolved)

/-- The state an aborted recovery goes back to. -/
def abortRecovery (i : Incident) : Except IncidentError IncidentState :=
  if i.state = .recovering then
    match i.stateBeforeRecovering with
    | some state => .ok state
    | none =>
      .error (.internalInvariantViolation "Recovering incident has no state_before_recovering")
  else .error (.invalidTransition i.state (i.stateBeforeRecovering.getD .open_))

/-- An incident that was ever critical is judged as critical. -/
def attemptAutomaticClosure (i : Incident) (policy : ClosurePolicy) : Except IncidentError Unit :=
  if i.state = .resolved then
    if policy.allowsAutomaticClosure (if i.everCritical then .critical else i.severity) then .ok ()
    else .error .manualClosureRequired
  else .error (.invalidTransition i.state .closed)

def evaluateReopen (i : Incident) (policy : ReopenPolicy) (now : DurableTimestamp) :
    Except IncidentError Bool :=
  if i.isReopenCandidate then
    match i.reopenReferenceTimestamp with
    | some reference => reopens policy reference now
    | none => .error (.internalInvariantViolation
        "a Resolved or Closed incident must have resolved_at or closed_at set")
  else .error (.invalidReopen "only a Resolved or Closed incident may reopen")

end Transition

/-- A transition made on the system's account is audited as ingestion. -/
def auditedPermissionFor (cause : TransitionCause) (operatorPermission : Permission) : Permission :=
  match cause with
  | .automatic _ => .incidentIngest
  | .operator _ => operatorPermission

namespace Commit

/-- Refuse with `e` unless `condition` holds. -/
def require (condition : Bool) (e : IncidentError) : Except IncidentError Unit :=
  if condition then .ok () else .error e

/-- Refuse when the open index already holds an incident. -/
def noneActive : Option IncidentId → Except IncidentError Unit
  | none => .ok ()
  | some other => .error (.correlation (.openIncidentAlreadyExists other))

def openManualIncident (auth : AuthorizationContext) (request : ManualIncident) (id : IncidentId)
    (number : IncidentNumber) (now : DurableTimestamp) : Commit where
  incident := {
    incidentId := id
    incidentNumber := number
    schemaVersion := incidentSchemaVersion
    tenantId := auth.tenant
    correlationKey := request.correlationKey auth.tenant
    addressFamily := request.addressFamily
    direction := request.direction
    targetType := request.targetType
    targetIdentity := request.targetIdentity
    createdBy := auth.actor
    title := request.title
    description := request.description
    state := .open_
    severity := request.severity
    severitySource := .operator
    everCritical := request.severity = .critical
    maximumDetectedSeverity := request.severity
    priority := request.priority.getD (Priority.defaultFor request.severity)
    closureReason := none
    stateBeforeRecovering := none
    suppression := none
    version := 1
    category := deriveCategory ∅
    matchedMetrics := ∅
    firstDetectedAt := now
    openedAt := now
    lastDetectedAt := now
    lastUpdatedAt := now
    acknowledgedAt := none
    recoveringSince := none
    resolvedAt := none
    closedAt := none
    reopenedAt := none
    reopenCount := 0
    assignee := none
    updatedBy := auth.actor
    evidence := {}
    notes := []
    tags := ∅
    policyRefs := []
    policyRefsOmitted := 0 }
  index := .claim (request.correlationKey auth.tenant)
  entries := [(auth.actor, .opened)]
  permission := .incidentCreate
  outbox := some .incidentOpened

/-- The evidence an event leaves. -/
def evidenceOf (event : DetectionEvent) (linkType : EvidenceLinkType)
    (metrics : List MetricKind) : EvidenceReference where
  detectionEventId := event.eventId
  dedupKey := event.dedupKey
  detectionId := event.detectionId
  linkType := linkType
  matchedMetrics := metrics

def policyRefOf (event : DetectionEvent) : PolicyRef where
  policyId := event.policyId
  policyVersion := event.policyVersion
  firstSeenSequence := event.sequence
  lastSeenSequence := event.sequence

def createIncidentInternal (event : DetectionEvent) (tenant : TenantId) (key : CorrelationKey)
    (id : IncidentId) (number : IncidentNumber) (now : DurableTimestamp) : Commit :=
  let metrics := addMetrics ∅ event
  let reference := evidenceOf event .opening metrics.keys
  { incident := {
      incidentId := id
      incidentNumber := number
      schemaVersion := incidentSchemaVersion
      tenantId := tenant
      correlationKey := key
      addressFamily := event.target.addressFamily
      direction := event.target.direction
      targetType := event.target.scopeType
      targetIdentity := event.target.scopeId
      createdBy := .system
      title := String.ofList (event.summary.toList.take titleMaxLen)
      description := none
      state := .open_
      severity := event.severity
      severitySource := .detection
      everCritical := event.severity = .critical
      maximumDetectedSeverity := event.severity
      priority := Priority.defaultFor event.severity
      closureReason := none
      stateBeforeRecovering := none
      suppression := none
      version := 1
      category := deriveCategory metrics
      matchedMetrics := metrics
      firstDetectedAt := now
      openedAt := now
      lastDetectedAt := now
      lastUpdatedAt := now
      acknowledgedAt := none
      recoveringSince := none
      resolvedAt := none
      closedAt := none
      reopenedAt := none
      reopenCount := 0
      assignee := none
      updatedBy := .system
      evidence := EvidenceLedger.record {} reference
      notes := []
      tags := ∅
      policyRefs := [policyRefOf event]
      policyRefsOmitted := 0 }
    index := .claim key
    entries := [(.system, .opened), (.system, .eventLinked reference)]
    permission := .incidentIngest
    outbox := some .incidentOpened }

/-- The range in which a policy was seen only widens, and an older event never sets its
version. -/
def PolicyRef.see (existing : PolicyRef) (event : DetectionEvent) : PolicyRef :=
  let existing :=
    if existing.lastSeenSequence ≤ event.sequence then
      { existing with lastSeenSequence := event.sequence, policyVersion := event.policyVersion }
    else existing
  { existing with firstSeenSequence := min existing.firstSeenSequence event.sequence }

/-- The policies seen and how many were not kept for want of room. -/
def seePolicy (refs : List PolicyRef) (omitted : Nat) (event : DetectionEvent) :
    List PolicyRef × Nat :=
  match refs.findIdx? fun p => p.policyId = event.policyId with
  | some index => (refs.modify index (PolicyRef.see · event), omitted)
  | none =>
    if refs.length < policyRefsMax then (refs ++ [policyRefOf event], omitted)
    else (refs, saturatingAdd omitted 1)

/-- An event is late when its caller says so or the clock stands before the last detection. -/
def isLate (late : Bool) (now : DurableTimestamp) (i : Incident) : Bool :=
  late || decide (now < i.lastDetectedAt)

def linkEvent (event : DetectionEvent) (late : Bool) (now : DurableTimestamp) (i : Incident) :
    Except IncidentError Commit := do
  let late := isLate late now i
  let newVersion ← i.nextVersion
  let metrics := addMetrics i.matchedMetrics event
  let (refs, omitted) := seePolicy i.policyRefs i.policyRefsOmitted event
  let newCategory := deriveCategory metrics
  let reference :=
    evidenceOf event (if late then .late else .update) (event.matched.map (·.metric))
  let linked := if late then .lateEventLinked reference else .eventLinked reference
  return {
    incident := { i with
      matchedMetrics := metrics
      policyRefs := refs
      policyRefsOmitted := omitted
      evidence := i.evidence.record reference
      lastDetectedAt := if late then i.lastDetectedAt else now
      lastUpdatedAt := now
      category := newCategory
      version := newVersion }
    entries := (.system, linked) ::
      if newCategory = i.category then []
      else [(.system, .categoryChanged i.category newCategory)]
    permission := .incidentIngest
    outbox := some .incidentUpdated }

/-- A recurrence reopens an incident whose key no active incident holds. -/
def reopenIncidentInternal (active : Option IncidentId) (event : DetectionEvent)
    (cause : AutomaticCause) (now : DurableTimestamp) (i : Incident) :
    Except IncidentError Commit := do
  noneActive active
  require (i.state = .resolved || i.state = .closed) (.invalidTransition i.state .open_)
  let newReopenCount ← i.nextReopenCount
  let newVersion ← i.nextVersion
  let metrics := addMetrics i.matchedMetrics event
  return {
    incident := { i with
      state := .open_
      reopenCount := newReopenCount
      reopenedAt := some now
      lastDetectedAt := now
      lastUpdatedAt := now
      closureReason := none
      resolvedAt := none
      closedAt := none
      matchedMetrics := metrics
      category := deriveCategory metrics
      evidence := i.evidence.record (evidenceOf event .opening (event.matched.map (·.metric)))
      version := newVersion }
    index := .claim i.correlationKey
    entries := [(.system, .stateChanged i.state .open_ (.automatic cause)),
      (.system, .reopened newReopenCount none none)]
    permission := .incidentIngest
    outbox := some (.incidentReopened newReopenCount) }

def enterRecovering (reason : DetectionEndReason) (now : DurableTimestamp) (i : Incident) :
    Except IncidentError Commit := do
  Transition.enterRecovering i
  let newVersion ← i.nextVersion
  return {
    incident := { i with
      stateBeforeRecovering := some i.state
      state := .recovering
      recoveringSince := some now
      lastUpdatedAt := now
      version := newVersion }
    entries := [(.system, .stateChanged i.state .recovering (.automatic reason.cause))]
    permission := .incidentIngest
    outbox := some .incidentRecovering }

def abortRecovery (now : DurableTimestamp) (i : Incident) : Except IncidentError Commit := do
  let restored ← Transition.abortRecovery i
  let newVersion ← i.nextVersion
  return {
    incident := { i with
      state := restored
      recoveringSince := none
      stateBeforeRecovering := none
      lastUpdatedAt := now
      version := newVersion }
    entries := [(.system, .stateChanged .recovering restored (.automatic .recoveryAborted))]
    permission := .incidentIngest }

/-- `notes.len() as u32`. -/
def nextNoteIndex (i : Incident) : Nat := i.notes.length % 2 ^ 32

/-- The resolution note is appended without the checks that `add_note` makes. -/
def resolveInternal (auth : AuthorizationContext) (cause : TransitionCause)
    (resolutionNote : Option String) (now : DurableTimestamp) (i : Incident) :
    Except IncidentError Commit := do
  require (i.state ≠ .resolved) (.stateUnchanged i.state)
  require (cause.allows i.state .resolved) (.invalidTransition i.state .resolved)
  let newVersion ← i.nextVersion
  let note := resolutionNote.map fun body =>
    ({ index := nextNoteIndex i, body, visibility := .internal, createdBy := auth.actor } : Note)
  return {
    incident := { i with
      state := .resolved
      resolvedAt := some now
      recoveringSince := none
      stateBeforeRecovering := none
      lastUpdatedAt := now
      version := newVersion
      notes := i.notes ++ note.toList }
    index := .release i.correlationKey
    entries := [(auth.actor, .stateChanged i.state .resolved cause)]
    permission := auditedPermissionFor cause .incidentResolve
    outbox := some .incidentResolved }

def closeInternal (auth : AuthorizationContext) (reason : ClosureReason) (cause : TransitionCause)
    (now : DurableTimestamp) (i : Incident) : Except IncidentError Commit := do
  require (cause.allows i.state .closed) (.invalidTransition i.state .closed)
  let newVersion ← i.nextVersion
  return {
    incident := { i with
      state := .closed
      closedAt := some now
      closureReason := some reason
      lastUpdatedAt := now
      version := newVersion }
    entries := [(auth.actor, .stateChanged i.state .closed cause)]
    permission := auditedPermissionFor cause .incidentClose
    outbox := some .incidentClosed }

def guardedOperatorTransition (auth : AuthorizationContext) (toState : IncidentState)
    (kind : OperatorCommandKind) (permission : Permission)
    (extra : Incident → DurableTimestamp → Incident) (now : DurableTimestamp) (i : Incident) :
    Except IncidentError Commit := do
  require (i.state ≠ toState) (.stateUnchanged i.state)
  require (i.state.canOperatorTransitionTo toState) (.invalidTransition i.state toState)
  let newVersion ← i.nextVersion
  return {
    incident := extra { i with
      state := toState
      lastUpdatedAt := now
      version := newVersion } now
    entries := [(auth.actor, .stateChanged i.state toState (.operator kind))]
    permission := permission }

def operatorReopen (auth : AuthorizationContext) (active : Option IncidentId) (reason : String)
    (now : DurableTimestamp) (i : Incident) : Except IncidentError Commit := do
  require (i.state.canOperatorTransitionTo .open_) (.invalidTransition i.state .open_)
  noneActive active
  let newReopenCount ← i.nextReopenCount
  let newVersion ← i.nextVersion
  return {
    incident := { i with
      state := .open_
      reopenCount := newReopenCount
      reopenedAt := some now
      closureReason := none
      resolvedAt := none
      closedAt := none
      lastUpdatedAt := now
      version := newVersion }
    index := .claim i.correlationKey
    entries := [(auth.actor, .stateChanged i.state .open_ (.operator .reopen)),
      (auth.actor, .reopened newReopenCount none (some reason))]
    permission := .incidentReopen }

/-- An operator's edit outside the lifecycle: the version is taken, the incident stamped and one
entry recorded. -/
def recordEdit (auth : AuthorizationContext) (now : DurableTimestamp) (i edited : Incident)
    (payload : TimelinePayload) (permission : Permission) (reason : Option String)
    (change : Option FieldChange) (outbox : Option OutboxEvent) : Except IncidentError Commit := do
  let newVersion ← i.nextVersion
  return {
    incident := { edited with version := newVersion, lastUpdatedAt := now }
    entries := [(auth.actor, payload)]
    permission := permission
    reason := reason
    change := change
    outbox := outbox }

def suppress (auth : AuthorizationContext) (reason : String) (deadline now : DurableTimestamp)
    (i : Incident) : Except IncidentError Commit :=
  recordEdit auth now i { i with suppression := some { deadline, reason, by_ := auth.actor } }
    (.suppressed reason) .incidentSuppress none none (some (.incidentSuppressionChanged true))

def unsuppress (auth : AuthorizationContext) (now : DurableTimestamp) (i : Incident) :
    Except IncidentError Commit :=
  recordEdit auth now i { i with suppression := none }
    .unsuppressed .incidentSuppress none none (some (.incidentSuppressionChanged false))

def assign (auth : AuthorizationContext) (assignee : Option Assignee) (now : DurableTimestamp)
    (i : Incident) : Except IncidentError Commit :=
  recordEdit auth now i { i with assignee := assignee }
    (.assignmentChanged i.assignee assignee) .incidentAssign none none
    (some .incidentAssignmentChanged)

/-- Reaching critical is never forgotten. -/
def changeSeverity (auth : AuthorizationContext) (newSeverity : Severity) (reason : Option String)
    (now : DurableTimestamp) (i : Incident) : Except IncidentError Commit := do
  require (severityLevel i.severity ≤ severityLevel newSeverity || reason.isSome)
    (.validationError "a reason is required when lowering severity")
  recordEdit auth now i
    { i with
      severity := newSeverity
      everCritical := i.everCritical || newSeverity = .critical
      severitySource := .operator }
    (.severityChanged i.severity newSeverity reason) .incidentSeverityChange reason
    (some { field := "severity", before := i.severity.asStr, after := newSeverity.asStr })
    (some (.incidentSeverityChanged i.severity newSeverity))

def changePriority (auth : AuthorizationContext) (newPriority : Priority) (now : DurableTimestamp)
    (i : Incident) : Except IncidentError Commit :=
  recordEdit auth now i { i with priority := newPriority }
    (.priorityChanged i.priority newPriority) .incidentPriorityChange none
    (some { field := "priority", before := i.priority.asStr, after := newPriority.asStr })
    (some (.incidentPriorityChanged i.priority newPriority))

def addNote (auth : AuthorizationContext) (body : String) (visibility : NoteVisibility)
    (now : DurableTimestamp) (i : Incident) : Except IncidentError Commit := do
  require (!i.notesAtCapacity) (.capacityExceeded "notes per incident")
  let index := nextNoteIndex i
  recordEdit auth now i
    { i with notes := i.notes ++ [{ index, body, visibility, createdBy := auth.actor }] }
    (.noteAdded index) .incidentNoteCreate none none none

def noteAt (i : Incident) (noteIndex : Nat) : Except IncidentError Note :=
  match i.notes[noteIndex]? with
  | some note => .ok note
  | none => .error (.validationError ("no note " ++ toString noteIndex))

def notReplaced (i : Incident) (noteIndex : Nat) : Except IncidentError Unit :=
  match i.noteSupersededBy noteIndex with
  | none => .ok ()
  | some later => .error (.validationError
      ("note " ++ toString noteIndex ++ " was already replaced by note " ++ toString later))

/-- The author has been checked; a redacted or already replaced note is not edited. -/
def editNote (auth : AuthorizationContext) (noteIndex : Nat) (original : Note) (body : String)
    (now : DurableTimestamp) (i : Incident) : Except IncidentError Commit := do
  require original.redaction.isNone
    (.validationError ("note " ++ toString noteIndex ++ " is redacted"))
  notReplaced i noteIndex
  require (!i.notesAtCapacity) (.capacityExceeded "notes per incident")
  let index := nextNoteIndex i
  let note : Note :=
    { index, body, visibility := original.visibility, createdBy := auth.actor
      supersedes := some noteIndex }
  recordEdit auth now i { i with notes := i.notes ++ [note] }
    (.noteSuperseded noteIndex index) .incidentNoteCreate none none none

/-- Unlike in the other edits, the version is taken before the note is looked up. -/
def redactNote (auth : AuthorizationContext) (noteIndex : Nat) (reason : String)
    (now : DurableTimestamp) (i : Incident) : Except IncidentError Commit := do
  let newVersion ← i.nextVersion
  let note ← noteAt i noteIndex
  require note.redaction.isNone
    (.validationError ("note " ++ toString noteIndex ++ " is already redacted"))
  let redacted := { note with body := "", redaction := some { by_ := auth.actor, reason } }
  return {
    incident := { i with
      notes := i.notes.set noteIndex redacted
      version := newVersion
      lastUpdatedAt := now }
    entries := [(auth.actor, .noteRedacted noteIndex)]
    permission := .incidentNoteRedact
    reason := some reason }

def addTag (auth : AuthorizationContext) (key value : String) (now : DurableTimestamp)
    (i : Incident) : Except IncidentError Commit := do
  require (i.tags.contains key || !i.tagsAtCapacity) (.capacityExceeded "tags per incident")
  recordEdit auth now i { i with tags := i.tags.insert key value }
    (.tagAdded key value) .incidentUpdate none none none

def removeTag (auth : AuthorizationContext) (key : String) (now : DurableTimestamp)
    (i : Incident) : Except IncidentError Commit :=
  recordEdit auth now i { i with tags := i.tags.erase key }
    (.tagRemoved key) .incidentUpdate none none none

end Commit

end Tidegard.Incident.Commits
