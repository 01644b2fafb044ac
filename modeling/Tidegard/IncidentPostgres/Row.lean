import Tidegard.Incident.Snapshot

namespace Tidegard.IncidentPostgres.Row

open Tables Common Detector.Input Detector.Policy Incident.Basics Incident.Time Incident.Record
open Incident.Snapshot

inductive PersistError where
  | unrepresentable (field detail : String)
  | corrupt (column detail : String)
  | rejected (e : IncidentError)
  -- not an error of the source: reading the row panics
  | panicked
  deriving DecidableEq

/-- A JSON form of a type, with the texts of the library's errors. -/
structure Codec (α : Type) where
  encode : α → Except String String
  decode : String → Except String α

def Codec.RoundTrips {α : Type} (codec : Codec α) : Prop :=
  ∀ a, ∃ text, codec.encode a = .ok text ∧ codec.decode text = .ok a

/-- What the standard and the JSON library supply: how addresses and quoted texts are shown, and
the JSON forms of the columns that hold documents. -/
structure Library where
  showAddr : IpAddr → String
  quote : String → String
  correlationKey : Codec CorrelationKey
  matchedMetrics : Codec (List MetricKind)
  evidence : Codec EvidenceLedger
  incidentNumber : String → Except String IncidentNumber

/-- The JSON forms read back what they write. -/
structure Library.RoundTrips (lib : Library) : Prop where
  correlationKey : lib.correlationKey.RoundTrips
  matchedMetrics : lib.matchedMetrics.RoundTrips
  evidence : lib.evidence.RoundTrips
  incidentNumber : ∀ number, lib.incidentNumber number = .ok number

structure ActorColumns where
  actorType : String
  actorId : Option String
  deriving DecidableEq

structure SuppressionColumns where
  until_ : Int
  reason : String
  by_ : ActorColumns
  deriving DecidableEq

structure NoteRedactionColumns where
  by_ : ActorColumns
  reason : String
  deriving DecidableEq

structure NoteRow where
  noteIndex : Int
  body : String
  visibility : String
  createdBy : ActorColumns
  supersedes : Option Int
  redaction : Option NoteRedactionColumns
  deriving DecidableEq

structure PolicyRefRow where
  refIndex : Int
  policyId : String
  policyVersion : Int
  firstSeenSequence : Int
  lastSeenSequence : Int
  deriving DecidableEq

structure IncidentRow where
  incidentId : String
  incidentNumber : String
  schemaVersion : Int
  tenantId : String
  correlationKey : String
  addressFamily : Int
  direction : String
  targetType : String
  targetAddr : Option String
  targetNetwork : Option String
  targetHostgroup : Option String
  createdBy : ActorColumns
  title : String
  description : Option String
  state : String
  severity : String
  severitySource : String
  everCritical : Bool
  maximumDetectedSeverity : String
  priority : String
  closureReason : Option String
  stateBeforeRecovering : Option String
  suppression : Option SuppressionColumns
  version : Int
  category : String
  matchedMetrics : String
  firstDetectedAt : Int
  openedAt : Int
  lastDetectedAt : Int
  lastUpdatedAt : Int
  acknowledgedAt : Option Int
  recoveringSince : Option Int
  resolvedAt : Option Int
  closedAt : Option Int
  reopenedAt : Option Int
  reopenCount : Int
  assignedKind : Option String
  assignedId : Option String
  updatedBy : ActorColumns
  evidenceSummary : String
  notes : List NoteRow
  tags : List (String × String)
  policyRefs : List PolicyRefRow
  policyRefsOmitted : Int
  deriving DecidableEq

/-! Each enumeration has one table, read in both directions. -/

section Texts

variable {α : Type} [DecidableEq α]

def toText (table : List (α × String)) (value : α) : String :=
  match table.find? fun e => e.1 = value with
  | some e => e.2
  | none => ""

def fromText (quote : String → String) (table : List (α × String)) (column text : String) :
    Except PersistError α :=
  match table.find? fun e => e.2 = text with
  | some e => .ok e.1
  | none => .error (.corrupt column ("unknown value " ++ quote text))

end Texts

def stateTexts : List (IncidentState × String) :=
  [(.open_, "open"), (.acknowledged, "acknowledged"), (.investigating, "investigating"),
    (.monitoring, "monitoring"), (.recovering, "recovering"), (.resolved, "resolved"),
    (.closed, "closed")]

def severityTexts : List (Severity × String) :=
  [(.info, "info"), (.minor, "minor"), (.major, "major"), (.critical, "critical")]

def severitySourceTexts : List (SeveritySource × String) :=
  [(.detection, "detection"), (.operator, "operator")]

def priorityTexts : List (Priority × String) :=
  [(.p1, "P1"), (.p2, "P2"), (.p3, "P3"), (.p4, "P4")]

def closureReasonTexts : List (ClosureReason × String) :=
  [(.resolved, "resolved"), (.falsePositive, "false_positive"), (.duplicate, "duplicate"),
    (.expectedTraffic, "expected_traffic"), (.noActionRequired, "no_action_required"),
    (.other, "other")]

def categoryTexts : List (IncidentCategory × String) :=
  [(.tcpSynFlood, "tcp_syn_flood"), (.fragmentationFlood, "fragmentation_flood"),
    (.icmpFlood, "icmp_flood"), (.udpFlood, "udp_flood"), (.tcpFlood, "tcp_flood"),
    (.packetRate, "packet_rate"), (.bandwidth, "bandwidth"), (.dropPressure, "drop_pressure"),
    (.multiVector, "multi_vector"), (.unclassified, "unclassified")]

def directionTexts : List (TrafficDirection × String) :=
  [(.incoming, "incoming"), (.outgoing, "outgoing"), (.internal, "internal"), (.other, "other"),
    (.unknown, "unknown")]

def visibilityTexts : List (NoteVisibility × String) :=
  [(.internal, "internal"), (.customerVisible, "customer_visible")]

def stateText : IncidentState → String := toText stateTexts
def severityText : Severity → String := toText severityTexts
def severitySourceText : SeveritySource → String := toText severitySourceTexts
def priorityText : Priority → String := toText priorityTexts
def closureReasonText : ClosureReason → String := toText closureReasonTexts
def categoryText : IncidentCategory → String := toText categoryTexts
def directionText : TrafficDirection → String := toText directionTexts
def visibilityText : NoteVisibility → String := toText visibilityTexts

section Reading

variable (quote : String → String)

def stateFrom := fromText quote stateTexts "state"
def severityFrom := fromText quote severityTexts "severity"
def severitySourceFrom := fromText quote severitySourceTexts "severity_source"
def priorityFrom := fromText quote priorityTexts "priority"
def closureReasonFrom := fromText quote closureReasonTexts "closure_reason"
def categoryFrom := fromText quote categoryTexts "category"
def directionFrom := fromText quote directionTexts "direction"
def visibilityFrom := fromText quote visibilityTexts "visibility"

end Reading

def addressFamilyValue : AddressFamily → Int
  | .ipv4 => 4
  | .ipv6 => 6

def addressFamilyFrom (value : Int) : Except PersistError AddressFamily :=
  if value = 4 then .ok .ipv4
  else if value = 6 then .ok .ipv6
  else .error (.corrupt "address_family" ("unknown value " ++ toString value))

def targetTypeText : ScopeId → String
  | .host .. => "host"
  | .network .. => "network"
  | .hostgroup .. => "hostgroup"

def actorColumns (field : String) : Actor → Except PersistError ActorColumns
  | .operator id => .ok ⟨"operator", some id⟩
  | .serviceAccount id => .ok ⟨"service_account", some id⟩
  | .system => .ok ⟨"system", none⟩
  | .platform _ => .error (.unrepresentable field
      "the schema has no actor type for a platform actor (FU-48)")

def actorFrom (quote : String → String) (column : String) (columns : ActorColumns) :
    Except PersistError Actor :=
  match columns.actorType, columns.actorId with
  | "operator", some id => .ok (.operator id)
  | "service_account", some id => .ok (.serviceAccount id)
  | "system", none => .ok .system
  | other, id => .error (.corrupt column
      ("actor type " ++ quote other ++ " with id present: " ++ toString id.isSome))

def toI32 (field : String) (value : Nat) : Except PersistError Int :=
  if value < 2 ^ 31 then .ok value else .error (.unrepresentable field "exceeds INTEGER")

def toI64 (field : String) (value : Nat) : Except PersistError Int :=
  if value < 2 ^ 63 then .ok value else .error (.unrepresentable field "exceeds BIGINT")

/-- `u32::try_from` and `u64::try_from` on a column of the same width. -/
def toUnsigned (column : String) (value : Int) : Except PersistError Nat :=
  if 0 ≤ value then .ok value.toNat else .error (.corrupt column "is negative")

def toU32 : String → Int → Except PersistError Nat := toUnsigned

def toU64 : String → Int → Except PersistError Nat := toUnsigned

def toJson {α : Type} (codec : Codec α) (field : String) (value : α) :
    Except PersistError String :=
  (codec.encode value).mapError (.unrepresentable field)

def fromJson {α : Type} (codec : Codec α) (column text : String) : Except PersistError α :=
  (codec.decode text).mapError (.corrupt column)

def timestamp (micros : Int) : DurableTimestamp := ⟨micros⟩

/-- A value that may be absent; an absent one is not read. -/
def optionally {α β : Type} (f : α → Except PersistError β) :
    Option α → Except PersistError (Option β)
  | none => .ok none
  | some a => (f a).map some

def suppressionColumns (display : SuppressionDisplay) : Except PersistError SuppressionColumns := do
  let by_ ← actorColumns "suppression.by" display.by_
  return ⟨display.until_.micros, display.reason, by_⟩

def redactionColumns (redaction : NoteRedaction) : Except PersistError NoteRedactionColumns := do
  let by_ ← actorColumns "notes.redaction.by" redaction.by_
  return ⟨by_, redaction.reason⟩

def noteRow (note : Note) : Except PersistError NoteRow := do
  let noteIndex ← toI32 "notes.index" note.index
  let createdBy ← actorColumns "notes.created_by" note.createdBy
  let supersedes ← optionally (toI32 "notes.supersedes") note.supersedes
  let redaction ← optionally redactionColumns note.redaction
  return {
    noteIndex
    body := note.body
    visibility := visibilityText note.visibility
    createdBy
    supersedes
    redaction }

def policyRefRow (position : Nat) (reference : PolicyRef) : Except PersistError PolicyRefRow := do
  let refIndex ← toI32 "policy_refs" position
  let policyVersion ← toI32 "policy_refs.policy_version" reference.policyVersion
  let firstSeenSequence ←
    toI64 "policy_refs.first_seen_sequence" reference.firstSeenSequence
  let lastSeenSequence ← toI64 "policy_refs.last_seen_sequence" reference.lastSeenSequence
  return {
    refIndex
    policyId := reference.policyId
    policyVersion
    firstSeenSequence
    lastSeenSequence }

/-- The target's address, network and host group columns. -/
def targetColumns (showAddr : IpAddr → String) :
    ScopeId → Option String × Option String × Option String
  | .host addr => (some (showAddr addr), none, none)
  | .network addr prefixLen => (none, some (showAddr addr ++ "/" ++ toString prefixLen), none)
  | .hostgroup name => (none, none, some name)

def assigneeColumns : Option Assignee → Option String × Option String
  | none => (none, none)
  | some (.user id) => (some "user", some id)
  | some (.team id) => (some "team", some id)

/-- The columns are filled in the order in which a failure to do so is reported. -/
def fromSnapshot (lib : Library) (s : IncidentSnapshot) : Except PersistError IncidentRow := do
  let (targetAddr, targetNetwork, targetHostgroup) := targetColumns lib.showAddr s.targetIdentity
  let suppression ← optionally suppressionColumns s.suppression
  let (assignedKind, assignedId) := assigneeColumns s.assignee
  let notes ← s.notes.mapM noteRow
  let policyRefs ← s.policyRefs.zipIdx.mapM fun e => policyRefRow e.2 e.1
  let schemaVersion ← toI32 "schema_version" s.schemaVersion
  let correlationKey ← toJson lib.correlationKey "correlation_key" s.correlationKey
  let createdBy ← actorColumns "created_by" s.createdBy
  let version ← toI64 "version" s.version
  let matchedMetrics ← toJson lib.matchedMetrics "matched_metrics" s.matchedMetrics
  let reopenCount ← toI32 "reopen_count" s.reopenCount
  let updatedBy ← actorColumns "updated_by" s.updatedBy
  let evidenceSummary ← toJson lib.evidence "evidence_summary" s.evidence
  let policyRefsOmitted ← toI64 "policy_refs_omitted" s.policyRefsOmitted
  return {
    incidentId := s.incidentId.toCanonicalString
    incidentNumber := s.incidentNumber
    schemaVersion
    tenantId := s.tenantId
    correlationKey
    addressFamily := addressFamilyValue s.addressFamily
    direction := directionText s.direction
    targetType := targetTypeText s.targetIdentity
    targetAddr
    targetNetwork
    targetHostgroup
    createdBy
    title := s.title
    description := s.description
    state := stateText s.state
    severity := severityText s.severity
    severitySource := severitySourceText s.severitySource
    everCritical := s.everCritical
    maximumDetectedSeverity := severityText s.maximumDetectedSeverity
    priority := priorityText s.priority
    closureReason := s.closureReason.map closureReasonText
    stateBeforeRecovering := s.stateBeforeRecovering.map stateText
    suppression
    version
    category := categoryText s.category
    matchedMetrics
    firstDetectedAt := s.firstDetectedAt.micros
    openedAt := s.openedAt.micros
    lastDetectedAt := s.lastDetectedAt.micros
    lastUpdatedAt := s.lastUpdatedAt.micros
    acknowledgedAt := s.acknowledgedAt.map (·.micros)
    recoveringSince := s.recoveringSince.map (·.micros)
    resolvedAt := s.resolvedAt.map (·.micros)
    closedAt := s.closedAt.map (·.micros)
    reopenedAt := s.reopenedAt.map (·.micros)
    reopenCount
    assignedKind
    assignedId
    updatedBy
    evidenceSummary
    notes
    tags := s.tags.toList
    policyRefs
    policyRefsOmitted }

def fromIncident (lib : Library) (i : Incident) : Except PersistError IncidentRow :=
  fromSnapshot lib (toSnapshot i)

def targetTypeAgrees (lib : Library) (row : IncidentRow) (key : CorrelationKey) :
    Except PersistError Unit :=
  let derived := targetTypeText key.targetIdentity
  if row.targetType = derived then .ok ()
  else .error (.corrupt "target_type"
    (lib.quote row.targetType ++ " disagrees with the correlation key's " ++ lib.quote derived))

def suppressionFrom (lib : Library) (columns : SuppressionColumns) :
    Except PersistError SuppressionDisplay := do
  let by_ ← actorFrom lib.quote "suppressed_by_type" columns.by_
  return ⟨timestamp columns.until_, columns.reason, by_⟩

def assigneeFrom (lib : Library) (kind id : Option String) :
    Except PersistError (Option Assignee) :=
  match kind, id with
  | none, none => .ok none
  | some "user", some id => .ok (some (.user id))
  | some "team", some id => .ok (some (.team id))
  | kind, _ =>
    let shown := match kind with
      | none => "None"
      | some kind => "Some(" ++ lib.quote kind ++ ")"
    .error (.corrupt "assigned_kind" ("unknown or half-set assignment " ++ shown))

def redactionFrom (lib : Library) (columns : NoteRedactionColumns) :
    Except PersistError NoteRedaction := do
  let by_ ← actorFrom lib.quote "incident_notes.redacted_by_type" columns.by_
  return ⟨by_, columns.reason⟩

def noteFrom (lib : Library) (row : NoteRow) : Except PersistError Note := do
  let index ← toU32 "note_index" row.noteIndex
  let visibility ← visibilityFrom lib.quote row.visibility
  let createdBy ← actorFrom lib.quote "incident_notes.created_by_type" row.createdBy
  let supersedes ← optionally (toU32 "supersedes_note_id") row.supersedes
  let redaction ← optionally (redactionFrom lib) row.redaction
  return { index, body := row.body, visibility, createdBy, supersedes, redaction }

def policyRefFrom (row : PolicyRefRow) : Except PersistError PolicyRef := do
  let policyVersion ← toU32 "policy_version" row.policyVersion
  let firstSeenSequence ← toU64 "first_seen_sequence" row.firstSeenSequence
  let lastSeenSequence ← toU64 "last_seen_sequence" row.lastSeenSequence
  return { policyId := row.policyId, policyVersion, firstSeenSequence, lastSeenSequence }

def notesFrom (lib : Library) (rows : List NoteRow) : Except PersistError (List Note) :=
  (rows.mergeSort fun a b => a.noteIndex ≤ b.noteIndex).mapM (noteFrom lib)

def policyRefsFrom (rows : List PolicyRefRow) : Except PersistError (List PolicyRef) :=
  let rows := rows.mergeSort fun a b => a.refIndex ≤ b.refIndex
  -- a position past the largest `i32` equals no index
  if rows.zipIdx.any fun e => !decide ((e.2 : Int) = e.1.refIndex ∧ e.2 < 2 ^ 31) then
    .error (.corrupt "ref_index" "policy reference positions are not 0..n without gaps")
  else rows.mapM policyRefFrom

def incidentIdFrom (text : String) : Except PersistError IncidentId :=
  match IncidentId.parse text with
  | .ok id => .ok id
  | .error (.wrongLength length) => .error (.corrupt "incident_id"
      ("incident id must be exactly 32 hex characters (with or without hyphens), got " ++
        toString length))
  | .error .invalidHex =>
    .error (.corrupt "incident_id" "incident id contains a non-hex character")
  | .error .slicePanic => .error .panicked

def collectTags (tags : List (String × String)) : Table String String :=
  tags.foldl (fun table tag => table.insert tag.1 tag.2) ∅

/-- The target comes back from the correlation key, not from its own columns. -/
def intoSnapshot (lib : Library) (row : IncidentRow) : Except PersistError IncidentSnapshot := do
  let correlationKey ← fromJson lib.correlationKey "correlation_key" row.correlationKey
  targetTypeAgrees lib row correlationKey
  let incidentNumber ←
    (lib.incidentNumber row.incidentNumber).mapError (.corrupt "incident_number")
  let suppression ← optionally (suppressionFrom lib) row.suppression
  let assignee ← assigneeFrom lib row.assignedKind row.assignedId
  let notes ← notesFrom lib row.notes
  let policyRefs ← policyRefsFrom row.policyRefs
  let incidentId ← incidentIdFrom row.incidentId
  let schemaVersion ← toU32 "schema_version" row.schemaVersion
  let addressFamily ← addressFamilyFrom row.addressFamily
  let direction ← directionFrom lib.quote row.direction
  let createdBy ← actorFrom lib.quote "created_by_type" row.createdBy
  let state ← stateFrom lib.quote row.state
  let severity ← severityFrom lib.quote row.severity
  let severitySource ← severitySourceFrom lib.quote row.severitySource
  let maximumDetectedSeverity ← severityFrom lib.quote row.maximumDetectedSeverity
  let priority ← priorityFrom lib.quote row.priority
  let closureReason ← optionally (closureReasonFrom lib.quote) row.closureReason
  let stateBeforeRecovering ← optionally (stateFrom lib.quote) row.stateBeforeRecovering
  let version ← toU64 "version" row.version
  let category ← categoryFrom lib.quote row.category
  let matchedMetrics ← fromJson lib.matchedMetrics "matched_metrics" row.matchedMetrics
  let reopenCount ← toU32 "reopen_count" row.reopenCount
  let updatedBy ← actorFrom lib.quote "updated_by_type" row.updatedBy
  let evidence ← fromJson lib.evidence "evidence_summary" row.evidenceSummary
  let policyRefsOmitted ← toU64 "policy_refs_omitted" row.policyRefsOmitted
  return {
    incidentId
    incidentNumber
    schemaVersion
    tenantId := row.tenantId
    correlationKey
    addressFamily
    direction
    targetType := correlationKey.targetType
    targetIdentity := correlationKey.targetIdentity
    createdBy
    title := row.title
    description := row.description
    state
    severity
    severitySource
    everCritical := row.everCritical
    maximumDetectedSeverity
    priority
    closureReason
    stateBeforeRecovering
    suppression
    version
    category
    matchedMetrics
    firstDetectedAt := timestamp row.firstDetectedAt
    openedAt := timestamp row.openedAt
    lastDetectedAt := timestamp row.lastDetectedAt
    lastUpdatedAt := timestamp row.lastUpdatedAt
    acknowledgedAt := row.acknowledgedAt.map timestamp
    recoveringSince := row.recoveringSince.map timestamp
    resolvedAt := row.resolvedAt.map timestamp
    closedAt := row.closedAt.map timestamp
    reopenedAt := row.reopenedAt.map timestamp
    reopenCount
    assignee
    updatedBy
    evidence
    notes
    tags := collectTags row.tags
    policyRefs
    policyRefsOmitted }

def intoIncident (lib : Library) (row : IncidentRow) : Except PersistError Incident := do
  let snapshot ← intoSnapshot lib row
  (reconstitute snapshot).mapError .rejected

end Tidegard.IncidentPostgres.Row
