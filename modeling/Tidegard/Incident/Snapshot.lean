import Tidegard.Incident.Record

namespace Tidegard.Incident.Snapshot

open Tables Text Detector.Input Detector.Policy Basics Time Record

structure SuppressionDisplay where
  until_ : DurableTimestamp
  reason : String
  by_ : Actor
  deriving DecidableEq

/-- Everything an incident holds, as a document. -/
structure IncidentSnapshot where
  incidentId : IncidentId
  incidentNumber : IncidentNumber
  schemaVersion : Nat
  tenantId : TenantId
  correlationKey : CorrelationKey
  addressFamily : AddressFamily
  direction : TrafficDirection
  targetType : ScopeType
  targetIdentity : ScopeId
  createdBy : Actor
  title : String
  description : Option String
  state : IncidentState
  severity : Severity
  severitySource : SeveritySource
  everCritical : Bool
  maximumDetectedSeverity : Severity
  priority : Priority
  closureReason : Option ClosureReason
  stateBeforeRecovering : Option IncidentState
  suppression : Option SuppressionDisplay
  version : Nat
  category : IncidentCategory
  matchedMetrics : List MetricKind
  firstDetectedAt : DurableTimestamp
  openedAt : DurableTimestamp
  lastDetectedAt : DurableTimestamp
  lastUpdatedAt : DurableTimestamp
  acknowledgedAt : Option DurableTimestamp
  recoveringSince : Option DurableTimestamp
  resolvedAt : Option DurableTimestamp
  closedAt : Option DurableTimestamp
  reopenedAt : Option DurableTimestamp
  reopenCount : Nat
  assignee : Option Assignee
  updatedBy : Actor
  evidence : EvidenceLedger
  notes : List Note
  tags : Table String String
  policyRefs : List PolicyRef
  policyRefsOmitted : Nat

def Suppression.toDisplay (s : Suppression) : SuppressionDisplay := ⟨s.deadline, s.reason, s.by_⟩

def Suppression.ofDisplay (d : SuppressionDisplay) : Suppression := ⟨d.until_, d.reason, d.by_⟩

def toSnapshot (i : Incident) : IncidentSnapshot where
  incidentId := i.incidentId
  incidentNumber := i.incidentNumber
  schemaVersion := i.schemaVersion
  tenantId := i.tenantId
  correlationKey := i.correlationKey
  addressFamily := i.addressFamily
  direction := i.direction
  targetType := i.targetType
  targetIdentity := i.targetIdentity
  createdBy := i.createdBy
  title := i.title
  description := i.description
  state := i.state
  severity := i.severity
  severitySource := i.severitySource
  everCritical := i.everCritical
  maximumDetectedSeverity := i.maximumDetectedSeverity
  priority := i.priority
  closureReason := i.closureReason
  stateBeforeRecovering := i.stateBeforeRecovering
  suppression := i.suppression.map Suppression.toDisplay
  version := i.version
  category := i.category
  matchedMetrics := i.matchedMetrics.keys
  firstDetectedAt := i.firstDetectedAt
  openedAt := i.openedAt
  lastDetectedAt := i.lastDetectedAt
  lastUpdatedAt := i.lastUpdatedAt
  acknowledgedAt := i.acknowledgedAt
  recoveringSince := i.recoveringSince
  resolvedAt := i.resolvedAt
  closedAt := i.closedAt
  reopenedAt := i.reopenedAt
  reopenCount := i.reopenCount
  assignee := i.assignee
  updatedBy := i.updatedBy
  evidence := i.evidence
  notes := i.notes
  tags := i.tags
  policyRefs := i.policyRefs
  policyRefsOmitted := i.policyRefsOmitted

def corrupt (field detail : String) : IncidentError := .corruptSnapshot field detail

def require (condition : Prop) [Decidable condition] (field detail : String) :
    Except IncidentError Unit :=
  if condition then .ok () else .error (corrupt field detail)

def requireNotBefore (later : Option DurableTimestamp) (earlier : DurableTimestamp)
    (field : String) : Except IncidentError Unit :=
  match later with
  | some later =>
    if later < earlier then .error (corrupt field "precedes the incident's start") else .ok ()
  | none => .ok ()

def checkBounds (s : IncidentSnapshot) : Except IncidentError Unit := do
  require (1 ≤ s.schemaVersion ∧ s.schemaVersion ≤ incidentSchemaVersion)
    "schema_version" "is outside the range this build understands"
  require (1 ≤ s.version) "version" "must start at one"
  require (s.incidentNumber ≠ "" ∧ s.incidentNumber.utf8ByteSize ≤ incidentNumberMaxLen)
    "incident_number" "is empty or exceeds its length bound"
  require (s.title ≠ "" ∧ s.title.length ≤ titleMaxLen)
    "title" "is empty or exceeds its length bound"
  require (∀ d ∈ s.description, d.length ≤ descriptionMaxLen)
    "description" "exceeds its length bound"

/-- Whether every element is new to the set when it is put into it. -/
def allInserted : List Nat → Table Nat Unit → Bool
  | [], _ => true
  | n :: rest, replaced => !replaced.contains n && allInserted rest (replaced.insert n ())

/-- A redacted note has lost its body and says why. -/
def Note.redactedProperly (note : Note) : Prop :=
  ∀ redaction ∈ note.redaction, note.body = "" ∧ isBlank redaction.reason = false ∧
    redaction.reason.length ≤ noteRedactionReasonMaxLen

instance (note : Note) : Decidable (Note.redactedProperly note) :=
  inferInstanceAs (Decidable (∀ redaction ∈ note.redaction, _))

def checkNotes (notes : List Note) : Except IncidentError Unit := do
  require (notes.length ≤ notesPerIncidentMax) "notes" "exceeds the per-incident cap"
  require (∀ note ∈ notes, note.body.length ≤ noteBodyMaxLen)
    "notes" "contains a body over its length bound"
  require (∀ e ∈ notes.zipIdx, e.1.index = e.2) "notes" "indices are not contiguous from zero"
  require (∀ note ∈ notes, ∀ earlier ∈ note.supersedes, earlier < note.index)
    "notes" "a note supersedes itself or a later note"
  require (allInserted (notes.filterMap (·.supersedes)) ∅)
    "notes" "a note is superseded more than once"
  require (∀ note ∈ notes, Note.redactedProperly note)
    "notes" "a redacted note keeps a body or lacks a bounded reason"

def checkCollections (s : IncidentSnapshot) : Except IncidentError Unit := do
  checkNotes s.notes
  require (s.tags.size ≤ tagsPerIncidentMax) "tags" "exceeds the per-incident cap"
  require (∀ tag ∈ s.tags.toList, tag.1.length ≤ tagKeyMaxLen ∧ tag.2.length ≤ tagValueMaxLen)
    "tags" "contains a key or value over its length bound"
  require (s.policyRefs.length ≤ policyRefsMax) "policy_refs" "exceeds the per-incident cap"
  require (s.policyRefsOmitted = 0 ∨ s.policyRefs.length = policyRefsMax)
    "policy_refs_omitted" "counts omissions, but the policy references are below their cap"
  require (s.evidence.retained.length ≤ evidenceRetainedLimit)
    "evidence" "retains more references than the ledger permits"
  require (s.evidence.retained.length ≤ s.evidence.observedTotal)
    "evidence" "retains more references than it claims to have observed"
  require (∀ suppression ∈ s.suppression, suppression.reason.length ≤ suppressionReasonMaxLen)
    "suppression" "reason exceeds its length bound"

/-- A set of the listed metrics. -/
def collectMetrics (metrics : List MetricKind) : MetricSet :=
  metrics.foldl (fun set metric => set.insert metric ()) ∅

def checkDerived (s : IncidentSnapshot) (matchedMetrics : MetricSet) :
    Except IncidentError Unit := do
  require (matchedMetrics.size = s.matchedMetrics.length)
    "matched_metrics" "contains a duplicate metric"
  require (s.category = deriveCategory matchedMetrics)
    "category" "disagrees with the metrics it is derived from"
  require (s.correlationKey =
      ⟨s.tenantId, s.targetType, s.targetIdentity, s.direction, s.addressFamily⟩)
    "correlation_key" "disagrees with the denormalized identity fields beside it"

/-- The fields that depend on the state, and those that remember severities and reopenings. -/
def checkState (s : IncidentSnapshot) : Except IncidentError Unit := do
  require (s.stateBeforeRecovering.isSome ↔ s.state = .recovering)
    "state_before_recovering" "is set only for a Recovering incident, and required for one"
  require (s.recoveringSince.isSome ↔ s.state = .recovering)
    "recovering_since" "is set only for a Recovering incident, and required for one"
  require (s.stateBeforeRecovering ≠ some .recovering)
    "state_before_recovering" "cannot itself be Recovering"
  require (s.resolvedAt.isSome ↔ s.state = .resolved ∨ s.state = .closed)
    "resolved_at" "is set exactly for a Resolved or Closed incident"
  require (s.closedAt.isSome ↔ s.state = .closed)
    "closed_at" "is set exactly for a Closed incident"
  require (s.closureReason.isSome ↔ s.state = .closed)
    "closure_reason" "is set exactly for a Closed incident"
  require (s.severity ≠ .critical ∨ s.everCritical = true)
    "ever_critical" "must be set for an incident whose severity is Critical"
  require (s.maximumDetectedSeverity ≠ .critical ∨ s.everCritical = true)
    "ever_critical" "must be set for an incident that has ever detected Critical"
  require (s.severitySource ≠ .detection ∨
      severityLevel s.severity ≤ severityLevel s.maximumDetectedSeverity)
    "maximum_detected_severity" "is below a detection-sourced severity"
  require (0 < s.reopenCount ↔ s.reopenedAt.isSome)
    "reopened_at" "is set exactly when the incident has been reopened at least once"

def checkOrder (s : IncidentSnapshot) : Except IncidentError Unit := do
  require (s.firstDetectedAt ≤ s.openedAt) "opened_at" "precedes the first detection"
  require (s.firstDetectedAt ≤ s.lastDetectedAt) "last_detected_at" "precedes the first detection"
  require (s.openedAt ≤ s.lastUpdatedAt) "last_updated_at" "precedes the incident's start"
  requireNotBefore s.acknowledgedAt s.openedAt "acknowledged_at"
  requireNotBefore s.recoveringSince s.openedAt "recovering_since"
  requireNotBefore s.resolvedAt s.openedAt "resolved_at"
  requireNotBefore s.closedAt s.openedAt "closed_at"
  requireNotBefore s.reopenedAt s.openedAt "reopened_at"
  match s.resolvedAt, s.closedAt with
  | some resolvedAt, some closedAt =>
    require (resolvedAt ≤ closedAt) "closed_at" "precedes the resolution it closes"
  | _, _ => .ok ()

def reconstitute (s : IncidentSnapshot) : Except IncidentError Incident := do
  checkBounds s
  checkCollections s
  let matchedMetrics := collectMetrics s.matchedMetrics
  checkDerived s matchedMetrics
  checkState s
  checkOrder s
  return {
    incidentId := s.incidentId
    incidentNumber := s.incidentNumber
    schemaVersion := s.schemaVersion
    tenantId := s.tenantId
    correlationKey := s.correlationKey
    addressFamily := s.addressFamily
    direction := s.direction
    targetType := s.targetType
    targetIdentity := s.targetIdentity
    createdBy := s.createdBy
    title := s.title
    description := s.description
    state := s.state
    severity := s.severity
    severitySource := s.severitySource
    everCritical := s.everCritical
    maximumDetectedSeverity := s.maximumDetectedSeverity
    priority := s.priority
    closureReason := s.closureReason
    stateBeforeRecovering := s.stateBeforeRecovering
    suppression := s.suppression.map Suppression.ofDisplay
    version := s.version
    category := s.category
    matchedMetrics := matchedMetrics
    firstDetectedAt := s.firstDetectedAt
    openedAt := s.openedAt
    lastDetectedAt := s.lastDetectedAt
    lastUpdatedAt := s.lastUpdatedAt
    acknowledgedAt := s.acknowledgedAt
    recoveringSince := s.recoveringSince
    resolvedAt := s.resolvedAt
    closedAt := s.closedAt
    reopenedAt := s.reopenedAt
    reopenCount := s.reopenCount
    assignee := s.assignee
    updatedBy := s.updatedBy
    evidence := s.evidence
    notes := s.notes
    tags := s.tags
    policyRefs := s.policyRefs
    policyRefsOmitted := s.policyRefsOmitted }

end Tidegard.Incident.Snapshot
