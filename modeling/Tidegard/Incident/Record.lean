import Tidegard.Detector.Event
import Tidegard.Incident.Time

set_option linter.dupNamespace false

namespace Tidegard.Incident.Record

open Tables Text Common Detector.Input Detector.Policy Detector.Event Basics Time

def titleMaxLen : Nat := 200
def descriptionMaxLen : Nat := 8000
def noteBodyMaxLen : Nat := 16000
def notesPerIncidentMax : Nat := 500
def noteRedactionReasonMaxLen : Nat := 500
def tagsPerIncidentMax : Nat := 32
def tagKeyMaxLen : Nat := 64
def tagValueMaxLen : Nat := 256
def policyRefsMax : Nat := 64
def suppressionReasonMaxLen : Nat := 500
def evidenceRetainedLimit : Nat := 10000
def incidentSchemaVersion : Nat := 1

def incidentNumberMaxLen : Nat := 32

abbrev IncidentNumber := String

abbrev MetricSet := Table MetricKind Unit

inductive EvidenceLinkType where
  | opening
  | update
  | closing
  | late
  deriving DecidableEq

structure EvidenceReference where
  detectionEventId : String
  dedupKey : String
  detectionId : String
  linkType : EvidenceLinkType
  matchedMetrics : List MetricKind
  deriving DecidableEq

/-- The references kept, and how many were seen. -/
structure EvidenceLedger where
  retained : List EvidenceReference := []
  observedTotal : Nat := 0
  deriving DecidableEq

def EvidenceLedger.record (l : EvidenceLedger) (reference : EvidenceReference) :
    EvidenceLedger where
  retained :=
    if l.retained.length < evidenceRetainedLimit then l.retained ++ [reference] else l.retained
  observedTotal := saturatingAdd l.observedTotal 1

inductive NoteVisibility where
  | internal
  | customerVisible
  deriving DecidableEq

structure NoteRedaction where
  by_ : Actor
  reason : String
  deriving DecidableEq

structure Note where
  index : Nat
  body : String
  visibility : NoteVisibility
  createdBy : Actor
  supersedes : Option Nat := none
  redaction : Option NoteRedaction := none
  deriving DecidableEq

structure PolicyRef where
  policyId : String
  policyVersion : Nat
  firstSeenSequence : Nat
  lastSeenSequence : Nat
  deriving DecidableEq

structure Suppression where
  deadline : DurableTimestamp
  reason : String
  by_ : Actor
  deriving DecidableEq

inductive IncidentCategory where
  | tcpSynFlood
  | fragmentationFlood
  | icmpFlood
  | udpFlood
  | tcpFlood
  | packetRate
  | bandwidth
  | dropPressure
  | multiVector
  | unclassified
  deriving DecidableEq

def deriveCategory (matched : MetricSet) : IncidentCategory :=
  let has (metric : MetricKind) : Bool := matched.contains metric
  let hasTcpSyn := has .tcpSynBps || has .tcpSynPps
  let hasFragmentation := has .fragmentedBps || has .fragmentedPps
  let hasIcmp := has .icmpBps || has .icmpPps
  let hasUdp := has .udpBps || has .udpPps
  let hasTcp := has .tcpBps || has .tcpPps || hasTcpSyn
  let hasDrop := has .droppedBps || has .droppedPps
  let hasGenericRate := has .pps || has .fps
  let hasBandwidth := has .bps
  if 2 ≤ [hasTcp, hasUdp, hasIcmp].countP id then .multiVector
  else if hasTcpSyn then .tcpSynFlood
  else if hasFragmentation then .fragmentationFlood
  else if hasIcmp then .icmpFlood
  else if hasUdp then .udpFlood
  else if hasTcp then .tcpFlood
  else if hasGenericRate then .packetRate
  else if hasBandwidth then .bandwidth
  else if hasDrop then .dropPressure
  else .unclassified

structure Incident where
  incidentId : IncidentId
  incidentNumber : IncidentNumber
  schemaVersion : Nat
  tenantId : TenantId
  correlationKey : CorrelationKey
  addressFamily : AddressFamily
  direction : TrafficDirection
  targetType : ScopeType
  targetIdentity : ScopeId
  createdBy : Actor
  title : String
  description : Option String
  state : IncidentState
  severity : Severity
  severitySource : SeveritySource
  everCritical : Bool
  maximumDetectedSeverity : Severity
  priority : Priority
  closureReason : Option ClosureReason
  stateBeforeRecovering : Option IncidentState
  suppression : Option Suppression
  version : Nat
  category : IncidentCategory
  matchedMetrics : MetricSet
  firstDetectedAt : DurableTimestamp
  openedAt : DurableTimestamp
  lastDetectedAt : DurableTimestamp
  lastUpdatedAt : DurableTimestamp
  acknowledgedAt : Option DurableTimestamp
  recoveringSince : Option DurableTimestamp
  resolvedAt : Option DurableTimestamp
  closedAt : Option DurableTimestamp
  reopenedAt : Option DurableTimestamp
  reopenCount : Nat
  assignee : Option Assignee
  updatedBy : Actor
  evidence : EvidenceLedger
  notes : List Note
  tags : Table String String
  policyRefs : List PolicyRef
  policyRefsOmitted : Nat

/-- Resolved or closed. -/
def Incident.isReopenCandidate (i : Incident) : Bool :=
  i.state = .resolved || i.state = .closed

def Incident.reopenReferenceTimestamp (i : Incident) : Option DurableTimestamp :=
  match i.state with
  | .resolved => i.resolvedAt
  | .closed => i.closedAt
  | _ => none

def Incident.notesAtCapacity (i : Incident) : Bool := decide (notesPerIncidentMax ≤ i.notes.length)

def Incident.noteSupersededBy (i : Incident) (index : Nat) : Option Nat :=
  (i.notes.find? fun note => note.supersedes = some index).map (·.index)

def Incident.tagsAtCapacity (i : Incident) : Bool := decide (tagsPerIncidentMax ≤ i.tags.size)

/-- `version.checked_add(1)`, which refuses the whole change before any of it is written. -/
def Incident.nextVersion (i : Incident) : Except IncidentError Nat :=
  if i.version < u64Max then .ok (i.version + 1)
  else .error (.internalInvariantViolation "incident version overflowed u64")

def Incident.nextReopenCount (i : Incident) : Except IncidentError Nat :=
  if i.reopenCount < u32Max then .ok (i.reopenCount + 1)
  else .error (.internalInvariantViolation "reopen_count overflowed u32")

def validateNoteBody (body : String) : Except IncidentError Unit :=
  if noteBodyMaxLen < body.length then
    .error (.validationError "note body exceeds 16000 characters")
  else .ok ()

def validateRedactionReason (reason : String) : Except IncidentError Unit :=
  if isBlank reason then .error (.validationError "a redaction needs a reason")
  else if noteRedactionReasonMaxLen < reason.length then
    .error (.validationError "redaction reason exceeds 500 characters")
  else .ok ()

def validateReason (reason : String) : Except IncidentError Unit :=
  if suppressionReasonMaxLen < reason.length then
    .error (.validationError "suppression reason exceeds 500 characters")
  else .ok ()

structure ManualIncident where
  title : String
  description : Option String
  severity : Severity
  priority : Option Priority
  targetType : ScopeType
  targetIdentity : ScopeId
  direction : TrafficDirection
  addressFamily : AddressFamily
  deriving DecidableEq

def maxPrefix : AddressFamily → Nat
  | .ipv4 => 32
  | .ipv6 => 128

/-- No host bit below the prefix is set. -/
def isNetworkAddress (addr : IpAddr) (prefixLen : Nat) : Bool :=
  match addr with
  | .v4 bits => decide (32 ≤ prefixLen) || bits &&& (BitVec.allOnes 32 >>> prefixLen) == 0
  | .v6 bits => decide (128 ≤ prefixLen) || bits &&& (BitVec.allOnes 128 >>> prefixLen) == 0

/-- The target type, the target and the address family agree. -/
def ManualIncident.targetAgrees (m : ManualIncident) : Bool :=
  match m.targetType, m.targetIdentity with
  | .host, .host addr => AddressFamily.of addr = m.addressFamily
  | .prefix_, .network addr prefixLen =>
    AddressFamily.of addr = m.addressFamily && decide (prefixLen ≤ maxPrefix m.addressFamily)
  | .slash24, .network addr prefixLen =>
    prefixLen = 24 && addr.isIpv4 && m.addressFamily = .ipv4 && isNetworkAddress addr 24
  | .hostgroupTotal, .hostgroup name => !isBlank name && decide (name.length ≤ 128)
  | _, _ => false

def ManualIncident.validate (m : ManualIncident) : Except IncidentError Unit :=
  if isBlank m.title then .error (.validationError "the title is required")
  else if titleMaxLen < m.title.length then
    .error (.validationError "the title is longer than 200 characters")
  else if m.description.any fun d => decide (descriptionMaxLen < d.length) then
    .error (.validationError "the description is longer than 8000 characters")
  else if m.direction = .other || m.direction = .unknown then
    .error (.validationError "the direction must be incoming, outgoing or internal")
  else if m.targetAgrees then .ok ()
  else .error (.validationError "the target type, target and address family do not agree")

def ManualIncident.correlationKey (m : ManualIncident) (tenant : TenantId) : CorrelationKey where
  tenant := tenant
  targetType := m.targetType
  targetIdentity := m.targetIdentity
  direction := m.direction
  addressFamily := m.addressFamily

/-- What a detection event correlates on. -/
def correlationKeyOf (event : DetectionEvent) : CorrelationKey where
  tenant := event.target.tenant
  targetType := event.target.scopeType
  targetIdentity := event.target.scopeId
  direction := event.target.direction
  addressFamily := event.target.addressFamily

def addMetrics (metrics : MetricSet) (event : DetectionEvent) : MetricSet :=
  event.matched.foldl (fun set reason => set.insert reason.metric ()) metrics

end Tidegard.Incident.Record
