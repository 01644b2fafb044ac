import Tidegard.Detector.State

namespace Tidegard.Detector.Event

open Tables Common Input Policy Evaluate State

def eventSchemaVersion : Nat := 1

inductive EventKind where
  | started
  | updated
  | ended
  deriving DecidableEq

def EventKind.asStr : EventKind → String
  | .started => "started"
  | .updated => "updated"
  | .ended => "ended"

def EventKind.from : Signal → EventKind
  | .started => .started
  | .updated => .updated
  | .ended => .ended

inductive ActionTaken where
  | observed
  | alerted
  | dryRun
  deriving DecidableEq

def ActionTaken.forMode : ExecutionMode → Option ActionTaken
  | .disabled => none
  | .observe => some .observed
  | .alertOnly => some .alerted
  | .dryRun => some .dryRun

/-- No action of this version touches traffic. -/
def ActionTaken.executed : ActionTaken → Bool
  | .observed => false
  | .alerted => false
  | .dryRun => false

structure EventTarget where
  tenant : String
  scopeType : ScopeType
  scopeId : ScopeId
  display : String
  direction : TrafficDirection
  addressFamily : AddressFamily
  deriving DecidableEq

structure DetectionEvent where
  schemaVersion : Nat
  eventId : String
  detectionId : String
  sequence : Nat
  kind : EventKind
  dedupKey : String
  policyId : String
  policyName : String
  policyVersion : Nat
  severity : Severity
  executionMode : ExecutionMode
  action : ActionTaken
  labels : Table String String
  target : EventTarget
  previousState : DetectionState
  state : DetectionState
  reason : TransitionReason
  detectedAtMs : Nat
  observedAtMs : Nat
  durationMs : Nat
  windowMs : Nat
  matched : List MatchedReason
  peak : List MatchedReason
  skipped : List SkippedMetric
  rates : MetricRates
  completeness : DataCompleteness
  sampling : SamplingStatus
  flowsObserved : Nat
  exportersObserved : Nat
  snapshotsInDetection : Nat
  executed : Bool
  summary : String

def DetectionEvent.isPublishable (e : DetectionEvent) : Bool := e.executionMode.emitsEvents

/-- What the standard library supplies: the text of an address, and the hash of a detection's
instance, scope and age. -/
structure Runtime where
  showAddr : IpAddr → String
  hash : Nat → String → ScopeType → ScopeId → TrafficDirection → AddressFamily → Nat → Nat

structure EventFactory where
  runtime : Runtime
  instanceId : Nat
  origin : Nat
  counter : Nat

/-- `{:016x}`. -/
def hex16 (n : Nat) : String :=
  let digits := Nat.toDigits 16 n
  String.ofList (List.replicate (16 - digits.length) '0' ++ digits)

def EventFactory.detectionId (f : EventFactory) (target : EventTarget) (startedAt : Nat) : String :=
  hex16 f.instanceId ++ hex16 (f.runtime.hash f.instanceId target.tenant target.scopeType
    target.scopeId target.direction target.addressFamily (startedAt - f.origin))

/-- Unique per event; taking one advances the counter. -/
def EventFactory.nextEventId (f : EventFactory) : String × EventFactory :=
  (hex16 f.instanceId ++ "-" ++ hex16 f.counter, { f with counter := (f.counter + 1) % 2 ^ 64 })

def dedupKey (detectionId : String) (kind : EventKind) (sequence : Nat) : String :=
  detectionId ++ ":" ++ kind.asStr ++ ":" ++ toString sequence

/-- `Duration::as_millis`, capped at the largest `u64`. -/
def millis (d : Nat) : Nat := min (d / 1000000) u64Max

/-- A wall clock before the epoch reads as zero. -/
def unixMillis (at_ : Int) : Nat := if 0 ≤ at_ then millis at_.toNat else 0

def asSecs (d : Nat) : Nat := d / 1000000000

def displayScope (showAddr : IpAddr → String) : ScopeId → String
  | .host addr => showAddr addr
  | .network addr len => showAddr addr ++ "/" ++ toString len
  | .hostgroup name => name

def EventFactory.target (f : EventFactory) (key : ScopeKey) : EventTarget where
  tenant := key.tenant
  scopeType := key.scopeType
  scopeId := key.scopeId
  display := displayScope f.runtime.showAddr key.scopeId
  direction := key.direction
  addressFamily := key.addressFamily

inductive MetricUnit where
  | bitsPerSecond
  | packetsPerSecond
  | flowsPerSecond

def MetricUnit.asStr : MetricUnit → String
  | .bitsPerSecond => "bps"
  | .packetsPerSecond => "pps"
  | .flowsPerSecond => "fps"

def metricUnit : MetricKind → MetricUnit
  | .bps | .tcpBps | .udpBps | .icmpBps | .tcpSynBps | .fragmentedBps | .droppedBps =>
    .bitsPerSecond
  | .pps | .tcpPps | .udpPps | .icmpPps | .tcpSynPps | .fragmentedPps | .droppedPps =>
    .packetsPerSecond
  | .fps => .flowsPerSecond

/-- `max_by_key` on the ratio: of equal maxima the last one. -/
def worstReason : List MatchedReason → Option MatchedReason
  | [] => none
  | r :: rest =>
    match worstReason rest with
    | none => some r
    | some w => if r.ratioPercent ≤ w.ratioPercent then some w else some r

def reasonText (r : MatchedReason) : String :=
  toString r.observed ++ " " ++ (metricUnit r.metric).asStr ++ " (" ++ toString r.ratioPercent ++
    "% of the " ++ r.metric.asStr ++ " threshold)"

def summarize (target : EventTarget) (policy : DetectionPolicy) (kind : EventKind)
    (matched peak : List MatchedReason) (duration : Nat) : String :=
  let subject := target.direction.asStr ++ " " ++ target.scopeType.asStr ++ " " ++ target.display
  match kind with
  | .ended =>
    match worstReason peak with
    | some r => "ended: " ++ subject ++ " after " ++ toString (asSecs duration) ++
        "s, peaking at " ++ reasonText r ++ " under policy " ++ policy.id
    | none => "ended: " ++ subject ++ " after " ++ toString (asSecs duration) ++
        "s under policy " ++ policy.id
  | kind =>
    match worstReason matched <|> worstReason peak with
    | some r => policy.severity.asStr ++ " " ++ kind.asStr ++ ": " ++ subject ++ " at " ++
        reasonText r ++ " under policy " ++ policy.id
    | none => policy.severity.asStr ++ " " ++ kind.asStr ++ ": " ++ subject ++
        " under policy " ++ policy.id

def TransitionReason.asStr : TransitionReason → String
  | .thresholdCrossed => "thresholdCrossed"
  | .triggerSustained => "triggerSustained"
  | .triggerAborted => "triggerAborted"
  | .fellBelowClear => "fellBelowClear"
  | .clearSustained => "clearSustained"
  | .clearAborted => "clearAborted"
  | .cooldownExpired => "cooldownExpired"
  | .policyChanged => "policyChanged"
  | .policyWithdrawn => "policyWithdrawn"
  | .stale => "stale"
  | .manualReset => "manualReset"
  | .stillActive => "stillActive"

/-- The event for one signal; a policy that is disabled produces none. -/
def EventFactory.build (f : EventFactory) (record : SignalRecord) (policy : DetectionPolicy)
    (snapshot : DetectionSnapshot) (matched : List MatchedReason) (skipped : List SkippedMetric) :
    Option (DetectionEvent × EventFactory) :=
  match ActionTaken.forMode policy.executionMode with
  | none => none
  | some action =>
    let transition := record.transition
    let context := record.detection
    let kind := EventKind.from record.signal
    let target := f.target snapshot.key
    let detectionId := f.detectionId target context.startedAt
    let duration := snapshot.observedAt - context.startedAt
    some ({
      schemaVersion := eventSchemaVersion
      eventId := f.nextEventId.1
      detectionId := detectionId
      sequence := context.sequence
      kind := kind
      dedupKey := Event.dedupKey detectionId kind context.sequence
      policyId := transition.policyId
      policyName := policy.name
      policyVersion := transition.policyVersion
      severity := policy.severity
      executionMode := policy.executionMode
      action := action
      labels := policy.labels
      target := target
      previousState := transition.fromState
      state := transition.toState
      reason := transition.reason
      detectedAtMs := unixMillis context.startedWall
      observedAtMs := unixMillis snapshot.observedWall
      durationMs := millis duration
      windowMs := millis snapshot.window
      matched := matched
      peak := context.peak
      skipped := skipped
      rates := snapshot.rates
      completeness := snapshot.completeness
      sampling := snapshot.sampling
      flowsObserved := snapshot.flowsObserved
      exportersObserved := snapshot.exportersObserved
      snapshotsInDetection := context.snapshotsInDetection
      executed := action.executed
      summary := summarize target policy kind matched context.peak duration },
      f.nextEventId.2)

/-- The end event of a detection that no snapshot closed. -/
def EventFactory.buildClosing (f : EventFactory) (record : SignalRecord) (policy : DetectionPolicy)
    (closedWall : Int) : Option (DetectionEvent × EventFactory) :=
  match ActionTaken.forMode policy.executionMode with
  | none => none
  | some action =>
    let transition := record.transition
    let context := record.detection
    let target := f.target transition.key
    let detectionId := f.detectionId target context.startedAt
    let duration := transition.at_ - context.startedAt
    some ({
      schemaVersion := eventSchemaVersion
      eventId := f.nextEventId.1
      detectionId := detectionId
      sequence := context.sequence
      kind := .ended
      dedupKey := Event.dedupKey detectionId .ended context.sequence
      policyId := transition.policyId
      policyName := policy.name
      policyVersion := transition.policyVersion
      severity := policy.severity
      executionMode := policy.executionMode
      action := action
      labels := policy.labels
      target := target
      previousState := transition.fromState
      state := transition.toState
      reason := transition.reason
      detectedAtMs := unixMillis context.startedWall
      observedAtMs := unixMillis closedWall
      durationMs := millis duration
      windowMs := millis policy.window
      matched := []
      peak := context.peak
      skipped := []
      rates := {}
      completeness := {}
      sampling := {}
      flowsObserved := 0
      exportersObserved := 0
      snapshotsInDetection := context.snapshotsInDetection
      executed := action.executed
      summary := "ended (" ++ TransitionReason.asStr transition.reason ++ "): " ++
        target.direction.asStr ++ " " ++ target.scopeType.asStr ++ " " ++ target.display ++
        " after " ++ toString (asSecs duration) ++ "s under policy " ++ policy.id },
      f.nextEventId.2)

def sampleFactory : EventFactory where
  runtime := { showAddr := fun _ => "203.0.113.7", hash := fun _ _ _ _ _ _ nanos => nanos }
  instanceId := 1
  origin := 0
  counter := 0

end Tidegard.Detector.Event
