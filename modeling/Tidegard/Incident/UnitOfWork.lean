import Tidegard.Actions
import Tidegard.Runs
import Tidegard.Incident.Commits

namespace Tidegard.Incident.UnitOfWork

open Text Runs Actions Detector.Event
open Basics Time Record Store Commits

/-- What the outside supplies to one call: the clock, reading by reading, the identity and the
number it would hand out, and the order in which the hash map of incidents is visited. -/
structure Env where
  wall : Nat → Int
  generate : Except IncidentError IncidentId
  allocate : TenantId → Nat → Except IncidentError IncidentNumber
  rank : IncidentId → Nat

/-- The service within a call, and how often the call has read the clock. -/
structure Session where
  uow : IncidentUnitOfWork
  readings : Nat := 0

abbrev Uow := Action Env Session IncidentError

def decisionTime : Uow DurableTimestamp := fun env s =>
  (DurableTimestamp.fromSystemTime (env.wall s.readings), { s with readings := s.readings + 1 })

/-- Look something up without changing anything. -/
def look {α : Type} (f : Env → IncidentUnitOfWork → Except IncidentError α) : Uow α :=
  fun env s => (f env s.uow, s)

def update (f : IncidentUnitOfWork → IncidentUnitOfWork) : Uow Unit :=
  Action.modify fun s => { s with uow := f s.uow }

def find (id : IncidentId) : Uow Incident :=
  look fun _ u =>
    match u.store.incidents[id]? with
    | some incident => .ok incident
    | none => .error .notFound

def openIndexGet (key : CorrelationKey) : Uow (Option IncidentId) :=
  look fun _ u => .ok u.store.openIndex[key]?

def dedupGet (tenant : TenantId) (dedupKey : String) : Uow (Option IncidentId) :=
  look fun _ u => .ok u.store.dedupSeen[toLex (tenant, dedupKey)]?

def reopenCandidate (key : CorrelationKey) (tenant : TenantId) : Uow (Option Incident) :=
  look fun env u => .ok (u.store.reopenCandidate env.rank key tenant)

def generate : Uow IncidentId := look fun env _ => env.generate

def allocate (tenant : TenantId) : Uow IncidentNumber :=
  look fun env u => env.allocate tenant u.numberAllocationYear

def checkPermission (auth : AuthorizationContext) (permission : Permission)
    (resource : AttemptedResource) : Uow Unit := do
  if auth.has permission then
    return
  update (·.appendAudit (AuditEntry.denied auth permission resource "missing required permission"))
  Action.throw .unauthorized

theorem checkPermission_granted {auth : AuthorizationContext} (granted : auth.has permission = true) :
    checkPermission auth permission resource env s = (.ok (), s) := by
  unfold checkPermission
  rw [if_pos granted]
  rfl

def checkTenant (auth : AuthorizationContext) (incident : Incident) : Except IncidentError Unit :=
  if incident.tenantId = auth.tenant then .ok () else .error .notFound

/-- The incident under an id, unless it is another tenant's. -/
def findOwned (auth : AuthorizationContext) (id : IncidentId) : Uow Incident := do
  let incident ← find id
  Action.ofExcept (checkTenant auth incident)
  return incident

/-- Write what a change decided, if it was not refused. -/
def commit (auth : AuthorizationContext) (id : IncidentId)
    (decided : Except IncidentError Commit) : Uow Commit := do
  let c ← Action.ofExcept decided
  update (·.commit auth id c)
  return c

/-- Read the clock, look the incident up, decide and write. -/
def change (auth : AuthorizationContext) (id : IncidentId)
    (decide : DurableTimestamp → Incident → Except IncidentError Commit) : Uow Commit := do
  let now ← decisionTime
  let incident ← find id
  commit auth id (decide now incident)

inductive IngestOutcomeKind where
  | created
  | updated
  | reopened
  | linkedLate
  | duplicate
  | quarantined
  | observeOnly
  deriving DecidableEq

structure IngestResult where
  outcomeKind : IngestOutcomeKind
  incidentId : Option IncidentId
  deriving DecidableEq

def createIncidentInternal (auth : AuthorizationContext) (tenant : TenantId)
    (key : CorrelationKey) (event : DetectionEvent) : Uow IncidentId := do
  let active ← openIndexGet key
  Action.ofExcept (Commit.noneActive active)
  let now ← decisionTime
  let id ← generate
  let number ← allocate tenant
  let _ ← commit auth id (.ok (Commit.createIncidentInternal event tenant key id number now))
  return id

def linkEvent (auth : AuthorizationContext) (id : IncidentId) (event : DetectionEvent)
    (late : Bool) : Uow IngestResult := do
  let now ← decisionTime
  let incident ← find id
  let _ ← commit auth id (Commit.linkEvent event late now incident)
  return ⟨if Commit.isLate late now incident then .linkedLate else .updated, some id⟩

def linkEventToOpenIncident (auth : AuthorizationContext) (id : IncidentId)
    (event : DetectionEvent) : Uow IngestResult :=
  linkEvent auth id event false

def reopenIncidentInternal (auth : AuthorizationContext) (id : IncidentId)
    (event : DetectionEvent) (cause : AutomaticCause) : Uow IngestResult := do
  let now ← decisionTime
  let incident ← find id
  let active ← openIndexGet incident.correlationKey
  let _ ← commit auth id (Commit.reopenIncidentInternal active event cause now incident)
  return ⟨.reopened, some id⟩

def enterRecovering (auth : AuthorizationContext) (id : IncidentId)
    (reason : DetectionEndReason) : Uow Unit := do
  checkPermission auth .incidentIngest (.unresolved id.toCanonicalString)
  let now ← decisionTime
  let incident ← findOwned auth id
  let _ ← commit auth id (Commit.enterRecovering reason now incident)

def endReasonOf (event : DetectionEvent) : DetectionEndReason :=
  match event.reason with
  | .stale => .detectorStale
  | .policyWithdrawn => .policyWithdrawn
  | .manualReset => .detectorReset
  | _ => .trafficCleared

def dedupRecord (tenant : TenantId) (dedupKey : String) (id : IncidentId) : Uow Unit :=
  update (·.dedupRecord tenant dedupKey id)

/-- Step 4: the key has an active incident. -/
def ingestOpen (auth : AuthorizationContext) (tenant : TenantId) (event : DetectionEvent)
    (id : IncidentId) : Uow IngestResult := do
  dedupRecord tenant event.dedupKey id
  let result ← linkEventToOpenIncident auth id event
  if event.kind = .ended && result.outcomeKind = .updated then
    -- the incident may be past the states that recover, which is no failure here
    let _ ← Action.attempt (enterRecovering auth id (endReasonOf event))
    return result
  else
    return result

/-- Whether an incident already holds evidence of the event's detection. -/
def alreadyHeld (candidate : Incident) (event : DetectionEvent) : Bool :=
  candidate.evidence.retained.any fun reference => reference.detectionId = event.detectionId

/-- Step 6 and the creation after it: nothing to attach to. -/
def ingestNew (auth : AuthorizationContext) (tenant : TenantId) (key : CorrelationKey)
    (event : DetectionEvent) : Uow IngestResult := do
  if event.kind = .ended then
    return ⟨.quarantined, none⟩
  let id ← createIncidentInternal auth tenant key event
  dedupRecord tenant event.dedupKey id
  return ⟨.created, some id⟩

/-- Step 5: the key has a resolved or closed incident. -/
def ingestCandidate (auth : AuthorizationContext) (tenant : TenantId) (key : CorrelationKey)
    (event : DetectionEvent) (candidate : Incident) : Uow IngestResult := do
  if event.kind = .ended || alreadyHeld candidate event then
    dedupRecord tenant event.dedupKey candidate.incidentId
    linkEvent auth candidate.incidentId event true
  else
    let now ← decisionTime
    let policy ← look fun _ u => .ok u.reopenPolicy
    let recurs ← Action.ofExcept (Transition.evaluateReopen candidate policy now)
    if recurs then
      dedupRecord tenant event.dedupKey candidate.incidentId
      reopenIncidentInternal auth candidate.incidentId event .reopenedByRecurrence
    else
      ingestNew auth tenant key event

/-- Steps 4 to 6: what the event attaches to. -/
def correlate (auth : AuthorizationContext) (tenant : TenantId) (key : CorrelationKey)
    (event : DetectionEvent) : Uow IngestResult := do
  match ← openIndexGet key with
  | some id => ingestOpen auth tenant event id
  | none =>
    match ← reopenCandidate key tenant with
    | some candidate => ingestCandidate auth tenant key event candidate
    | none => ingestNew auth tenant key event

def ingestDetectionEvent (auth : AuthorizationContext) (event : DetectionEvent) :
    Uow IngestResult := do
  checkPermission auth .incidentIngest (.unresolved event.detectionId)
  let tenant := event.target.tenant
  if tenant ≠ auth.tenant then
    return ← Action.throw .tenantMismatch
  if eventSchemaVersion < event.schemaVersion || event.executed then
    return ⟨.quarantined, none⟩
  if let some existing ← dedupGet tenant event.dedupKey then
    return ⟨.duplicate, some existing⟩
  if !event.isPublishable && event.action = .observed then
    return ⟨.observeOnly, none⟩
  correlate auth tenant (correlationKeyOf event) event

/-- The outcome a retry under the same key is answered with, if there is one. An internal failure
is never kept: a retry may succeed once it clears. -/
def storedOutcome {α : Type} (mutated : α → StoredOutcome) :
    Except IncidentError α → Option StoredOutcome
  | .ok a => some (mutated a)
  | .error (.internalInvariantViolation _) => none
  | .error e => some (.failed e)

/-- The outcome of a request is kept under its key, if it has one. -/
def remembered (u : IncidentUnitOfWork) (tenant : TenantId) (key : Option IdempotencyKey)
    (fingerprint : RequestFingerprint) (outcome : Option StoredOutcome) : IncidentUnitOfWork :=
  match key, outcome with
  | some key, some outcome => u.idempotencyRecord tenant key { fingerprint, outcome }
  | _, _ => u

def remember (auth : AuthorizationContext) (key : Option IdempotencyKey)
    (fingerprint : RequestFingerprint) (outcome : Option StoredOutcome) : Uow Unit :=
  update (remembered · auth.tenant key fingerprint outcome)

/-- What an earlier request under the same key answers. -/
def earlierOutcome (auth : AuthorizationContext) (key : Option IdempotencyKey)
    (fingerprint : RequestFingerprint) : Uow (Option StoredOutcome) :=
  look fun _ u =>
    match key with
    | none => .ok none
    | some key =>
      match u.store.checkIdempotency auth.tenant key fingerprint with
      | .new => .ok none
      | .replay outcome => .ok (some outcome)
      | .conflict => .error .idempotencyConflict

def openManualIncident (auth : AuthorizationContext) (request : ManualIncident) :
    Uow IncidentId := do
  Action.ofExcept request.validate
  let key := request.correlationKey auth.tenant
  match ← openIndexGet key with
  | some existing => Action.throw (.duplicateActiveIncident existing)
  | none =>
    let now ← decisionTime
    let id ← generate
    let number ← allocate auth.tenant
    let _ ← commit auth id (.ok (Commit.openManualIncident auth request id number now))
    return id

def createManualIncident (auth : AuthorizationContext) (request : ManualIncident)
    (idempotencyKey : Option IdempotencyKey) : Uow IncidentId := do
  checkPermission auth .incidentCreate (.unresolved "new incident")
  let fingerprint := .manual request
  match ← earlierOutcome auth idempotencyKey fingerprint with
  | some (.mutated id _) => return id
  | some (.failed e) => Action.throw e
  | none =>
    let result ← Action.attempt (openManualIncident auth request)
    remember auth idempotencyKey fingerprint (storedOutcome (.mutated · 1) result)
    Action.ofExcept result

def recordExport (auth : AuthorizationContext) (id : IncidentId) : Uow Unit := do
  checkPermission auth .incidentExport (.unresolved id.toCanonicalString)
  let _ ← findOwned auth id
  update (·.appendAudit (AuditEntry.allowed auth .incidentExport id none none))

def notificationNameMaxLen : Nat := 64

/-- A short plain name. -/
def isPlainName (text : String) : Bool :=
  text ≠ "" && decide (text.utf8ByteSize ≤ notificationNameMaxLen) &&
    text.toList.all fun c => isAsciiAlphanumeric c || c = '-' || c = '_' || c = '.'

def recordNotificationResult (auth : AuthorizationContext) (id : IncidentId)
    (channel eventType : String) (outcome : NotificationOutcome) : Uow Unit := do
  checkPermission auth .incidentNotificationRecord (.unresolved id.toCanonicalString)
  Action.ofExcept (Commit.require (isPlainName channel && isPlainName eventType)
    (.validationError "a channel or event name is empty, too long, or not a plain name"))
  let _ ← findOwned auth id
  update (·.appendTimeline id auth.actor (.notificationResult channel eventType outcome))

def enterRecoveringIfSilent (auth : AuthorizationContext) (id : IncidentId)
    (silentAfter : Nat) : Uow Bool := do
  checkPermission auth .incidentIngest (.unresolved id.toCanonicalString)
  let now ← decisionTime
  let incident ← findOwned auth id
  let elapsed ← Action.ofExcept (now.checkedElapsedSince incident.lastDetectedAt)
  if elapsed < silentAfter then
    return false
  enterRecovering auth id .detectorSilent
  return true

def resolveInternal (auth : AuthorizationContext) (id : IncidentId) (cause : TransitionCause)
    (resolutionNote : Option String) : Uow Commit :=
  change auth id (Commit.resolveInternal auth cause resolutionNote)

def recoveringSinceOf (incident : Incident) : Except IncidentError DurableTimestamp :=
  match incident.recoveringSince with
  | some since => .ok since
  | none => .error (.internalInvariantViolation "Recovering incident has no recovering_since")

def confirmRecoveryIfDue (auth : AuthorizationContext) (id : IncidentId)
    (recoveryConfirmation : Nat) : Uow Bool := do
  checkPermission auth .incidentIngest (.unresolved id.toCanonicalString)
  let now ← decisionTime
  let incident ← findOwned auth id
  Action.ofExcept (Transition.confirmRecovery incident)
  let recoveringSince ← Action.ofExcept (recoveringSinceOf incident)
  let elapsed ← Action.ofExcept (now.checkedElapsedSince recoveringSince)
  if elapsed < recoveryConfirmation then
    return false
  let _ ← resolveInternal auth id (.automatic .recoveryConfirmed) none
  return true

def abortRecovery (auth : AuthorizationContext) (id : IncidentId) : Uow Unit := do
  checkPermission auth .incidentIngest (.unresolved id.toCanonicalString)
  let now ← decisionTime
  let incident ← findOwned auth id
  let _ ← commit auth id (Commit.abortRecovery now incident)

def closeInternal (auth : AuthorizationContext) (id : IncidentId) (reason : ClosureReason)
    (cause : TransitionCause) : Uow Commit :=
  change auth id (Commit.closeInternal auth reason cause)

def resolvedAtOf (incident : Incident) : Except IncidentError DurableTimestamp :=
  match incident.resolvedAt with
  | some at_ => .ok at_
  | none => .error (.internalInvariantViolation "Resolved incident has no resolved_at")

def attemptAutomaticClosure (auth : AuthorizationContext) (id : IncidentId) : Uow Bool := do
  checkPermission auth .incidentIngest (.unresolved id.toCanonicalString)
  let incident ← findOwned auth id
  let policy ← look fun _ u => .ok u.closurePolicy
  match Transition.attemptAutomaticClosure incident policy with
  | .error .manualClosureRequired => return false
  | .error e => Action.throw e
  | .ok () =>
    let resolvedAt ← Action.ofExcept (resolvedAtOf incident)
    let now ← decisionTime
    let elapsed ← Action.ofExcept (now.checkedElapsedSince resolvedAt)
    if elapsed < policy.automaticClosureDelay then
      return false
    let _ ← closeInternal auth id .resolved (.automatic .automaticClosure)
    return true

def suppressionDeadline (start : DurableTimestamp) (duration : Nat) :
    Except IncidentError DurableTimestamp :=
  match start.checkedPlus duration with
  | some deadline => .ok deadline
  | none => .error (.validationError
      "suppression duration is too large to represent as a deadline")

def suppress (auth : AuthorizationContext) (id : IncidentId) (reason : String)
    (duration : Nat) : Uow Commit := do
  Action.ofExcept (validateReason reason)
  let now ← decisionTime
  let later ← decisionTime
  let deadline ← Action.ofExcept (suppressionDeadline later duration)
  let incident ← find id
  commit auth id (Commit.suppress auth reason deadline now incident)

def operatorReopen (auth : AuthorizationContext) (id : IncidentId) (reason : String) :
    Uow Commit := do
  let now ← decisionTime
  let incident ← find id
  let active ← openIndexGet incident.correlationKey
  commit auth id (Commit.operatorReopen auth active reason now incident)

def addNote (auth : AuthorizationContext) (id : IncidentId) (body : String)
    (visibility : NoteVisibility) : Uow Commit := do
  Action.ofExcept (Commit.require (visibility ≠ .customerVisible)
    (.validationError "customer-visible notes are refused in Phase 5"))
  Action.ofExcept (validateNoteBody body)
  change auth id (Commit.addNote auth body visibility)

/-- An operator may replace only their own words. -/
def editNote (auth : AuthorizationContext) (id : IncidentId) (noteIndex : Nat)
    (body : String) : Uow Commit := do
  Action.ofExcept (validateNoteBody body)
  let now ← decisionTime
  let incident ← find id
  let original ← Action.ofExcept (Commit.noteAt incident noteIndex)
  if original.createdBy = auth.actor then
    commit auth id (Commit.editNote auth noteIndex original body now incident)
  else
    update (·.appendAudit (AuditEntry.denied auth .incidentNoteCreate (.incident id)
      "only a note's author may edit it"))
    Action.throw .unauthorized

def redactNote (auth : AuthorizationContext) (id : IncidentId) (noteIndex : Nat)
    (reason : String) : Uow Commit := do
  Action.ofExcept (validateRedactionReason reason)
  change auth id (Commit.redactNote auth noteIndex reason)

def addTag (auth : AuthorizationContext) (id : IncidentId) (key value : String) :
    Uow Commit := do
  Action.ofExcept (Commit.require
    (key.utf8ByteSize ≤ tagKeyMaxLen && value.utf8ByteSize ≤ tagValueMaxLen)
    (.validationError "tag key or value exceeds its bound"))
  change auth id (Commit.addTag auth key value)

/-- Three commands are one transition each; acknowledging also records when. -/
def guardedOperatorTransition (auth : AuthorizationContext) (id : IncidentId)
    (toState : IncidentState) (command : Command)
    (extra : Incident → DurableTimestamp → Incident) : Uow Commit :=
  change auth id (Commit.guardedOperatorTransition auth toState command.kind
    command.requiredPermission extra)

def applyCommand (auth : AuthorizationContext) (id : IncidentId) (command : Command) :
    Uow Commit :=
  match command with
  | .acknowledgeIncident _ =>
    guardedOperatorTransition auth id .acknowledged command
      fun i now => { i with acknowledgedAt := some now }
  | .beginInvestigation _ =>
    guardedOperatorTransition auth id .investigating command fun i _ => i
  | .markMonitoring _ => guardedOperatorTransition auth id .monitoring command fun i _ => i
  | .resolveIncident _ note => resolveInternal auth id (.operator command.kind) note
  | .closeIncident _ reason _ => closeInternal auth id reason (.operator command.kind)
  | .reopenIncident _ reason => operatorReopen auth id reason
  | .suppressIncident _ reason duration => suppress auth id reason duration
  | .unsuppressIncident _ => change auth id (Commit.unsuppress auth)
  | .assignIncident _ assignee => change auth id (Commit.assign auth (some assignee))
  | .unassignIncident _ => change auth id (Commit.assign auth none)
  | .changeSeverity _ newSeverity reason =>
    change auth id (Commit.changeSeverity auth newSeverity reason)
  | .changePriority _ newPriority => change auth id (Commit.changePriority auth newPriority)
  | .addNote body visibility => addNote auth id body visibility
  | .editNote noteIndex body => editNote auth id noteIndex body
  | .redactNote noteIndex reason => redactNote auth id noteIndex reason
  | .addTag key value => addTag auth id key value
  | .removeTag key => change auth id (Commit.removeTag auth key)

def checkVersion (command : Command) (incident : Incident) : Except IncidentError Unit :=
  match command.expectedVersion with
  | none => .ok ()
  | some expected => Commit.require (expected = incident.version)
      (.versionConflict expected incident.version incident.state)

/-- The version the command's incident is left with. -/
def handleCommand (auth : AuthorizationContext) (id : IncidentId) (command : Command)
    (idempotencyKey : Option IdempotencyKey) : Uow Nat := do
  checkPermission auth command.requiredPermission (.unresolved id.toCanonicalString)
  let incident ← findOwned auth id
  let fingerprint := .command id command
  match ← earlierOutcome auth idempotencyKey fingerprint with
  | some (.mutated _ version) => return version
  | some (.failed e) => Action.throw e
  | none =>
    Action.ofExcept (checkVersion command incident)
    let result ← Action.attempt (applyCommand auth id command)
    let result := result.map fun c => c.incident.version
    remember auth idempotencyKey fingerprint (storedOutcome (.mutated id) result)
    Action.ofExcept result

/-- The service as it is set up, over an empty store. -/
def new (closurePolicy : ClosurePolicy) (reopenPolicy : ReopenPolicy) (year : Nat) :
    IncidentUnitOfWork :=
  { numberAllocationYear := year, closurePolicy, reopenPolicy }

inductive Call where
  | ingestDetectionEvent (event : DetectionEvent)
  | createManualIncident (request : ManualIncident) (idempotencyKey : Option IdempotencyKey)
  | recordExport (id : IncidentId)
  | recordNotificationResult (id : IncidentId) (channel eventType : String)
      (outcome : NotificationOutcome)
  | enterRecovering (id : IncidentId) (reason : DetectionEndReason)
  | enterRecoveringIfSilent (id : IncidentId) (silentAfter : Nat)
  | confirmRecoveryIfDue (id : IncidentId) (recoveryConfirmation : Nat)
  | abortRecovery (id : IncidentId)
  | attemptAutomaticClosure (id : IncidentId)
  | handleCommand (id : IncidentId) (command : Command) (idempotencyKey : Option IdempotencyKey)

inductive Answer where
  | ingested (result : IngestResult)
  | created (id : IncidentId)
  | done
  | due (acted : Bool)
  | version (version : Nat)
  deriving DecidableEq

def perform (auth : AuthorizationContext) : Call → Uow Answer
  | .ingestDetectionEvent event => return .ingested (← ingestDetectionEvent auth event)
  | .createManualIncident request key => return .created (← createManualIncident auth request key)
  | .recordExport id => do
    recordExport auth id
    return .done
  | .recordNotificationResult id channel eventType outcome => do
    recordNotificationResult auth id channel eventType outcome
    return .done
  | .enterRecovering id reason => do
    enterRecovering auth id reason
    return .done
  | .enterRecoveringIfSilent id silentAfter =>
    return .due (← enterRecoveringIfSilent auth id silentAfter)
  | .confirmRecoveryIfDue id confirmation =>
    return .due (← confirmRecoveryIfDue auth id confirmation)
  | .abortRecovery id => do
    abortRecovery auth id
    return .done
  | .attemptAutomaticClosure id => return .due (← attemptAutomaticClosure auth id)
  | .handleCommand id command key => return .version (← handleCommand auth id command key)

/-- A call, who makes it, and what the outside supplies to it. -/
structure Request where
  env : Env
  auth : AuthorizationContext
  call : Call

/-- The service, call after call. -/
def service : Machine IncidentUnitOfWork Request (Except IncidentError Answer) where
  step u request :=
    let performed := perform request.auth request.call request.env { uow := u }
    (performed.1, performed.2.uow)

abbrev ServiceStep := Step IncidentUnitOfWork Request (Except IncidentError Answer)

def sampleId (n : Fin 256) : IncidentId := ⟨List.replicate 15 0 ++ [n], by simp⟩

/-- The clock stands at `seconds`, and `n` is the id handed out. -/
def sampleEnv (seconds : Int) (n : Fin 256) : Env where
  wall _ := seconds * 1000000000
  generate := .ok (sampleId n)
  allocate _ _ := .ok "WNM-2026-000001"
  rank _ := 0

def sampleAuth (tenant : TenantId) : AuthorizationContext where
  tenant := tenant
  actor := .operator "operator-1"
  granted := [.incidentIngest, .incidentCreate, .incidentAcknowledge, .incidentResolve,
    .incidentClose, .incidentReopen, .incidentNoteCreate]

/-- The `sequence`-th event of a detection on one host of a tenant. -/
def sampleEvent (tenant : TenantId) (detectionId : String) (kind : EventKind) (sequence : Nat) :
    DetectionEvent where
  schemaVersion := 1
  eventId := "event"
  detectionId := detectionId
  sequence := sequence
  kind := kind
  dedupKey := Tidegard.Detector.Event.dedupKey detectionId kind sequence
  policyId := "policy"
  policyName := "policy"
  policyVersion := 1
  severity := .major
  executionMode := .alertOnly
  action := .alerted
  labels := ∅
  target := ⟨tenant, .host, .host (.v4 0xCB007107#32), "host", .incoming, .ipv4⟩
  previousState := .pendingTrigger
  state := .active
  reason := .triggerSustained
  detectedAtMs := 0
  observedAtMs := 0
  durationMs := 0
  windowMs := 1000
  matched := []
  peak := []
  skipped := []
  rates := {}
  completeness := {}
  sampling := {}
  flowsObserved := 0
  exportersObserved := 0
  snapshotsInDetection := 0
  executed := false
  summary := "started"

def sampleIngest (seconds : Int) (n : Fin 256) (detectionId : String) (kind : EventKind)
    (sequence : Nat) : Request where
  env := sampleEnv seconds n
  auth := sampleAuth "acme"
  call := .ingestDetectionEvent (sampleEvent "acme" detectionId kind sequence)

def sampleCommand (seconds : Int) (n : Fin 256) (id : IncidentId) (command : Command) :
    Request where
  env := sampleEnv seconds n
  auth := sampleAuth "acme"
  call := .handleCommand id command none

end Tidegard.Incident.UnitOfWork
