import Tidegard.Detector.Evaluate

namespace Tidegard.Detector.State

open Tables Common Input Policy Evaluate

/-- Where one scope stands under its winning policy. -/
inductive DetectionState where
  | idle
  | pendingTrigger
  | active
  | pendingClear
  | cooldown
  deriving DecidableEq

def DetectionState.isOpen : DetectionState → Bool
  | .active | .pendingClear => true
  | _ => false

def DetectionState.canTransitionTo (s next : DetectionState) : Bool :=
  match s, next with
  | s, .idle => s != .idle
  | .idle, .pendingTrigger => true
  | .idle, .active => true
  | .pendingTrigger, .active => true
  | .active, .pendingClear => true
  | .active, .cooldown => true
  | .pendingClear, .active => true
  | .pendingClear, .cooldown => true
  | _, _ => false

inductive TransitionReason where
  | thresholdCrossed
  | triggerSustained
  | triggerAborted
  | fellBelowClear
  | clearSustained
  | clearAborted
  | cooldownExpired
  | policyChanged
  | policyWithdrawn
  | stale
  | manualReset
  | stillActive
  deriving DecidableEq

structure StateTransition where
  key : ScopeKey
  policyId : String
  policyVersion : Nat
  fromState : DetectionState
  toState : DetectionState
  reason : TransitionReason
  at_ : Nat
  atWall : Int
  matched : List MatchedReason
  timeInPrevious : Nat
  deriving DecidableEq

inductive Signal where
  | started
  | updated
  | ended
  deriving DecidableEq

inductive StepIgnored where
  | windowMismatch
  | outOfOrder
  | duplicate
  | tableFull
  | modeDisabled
  deriving DecidableEq

inductive Suppression where
  | cooldown
  | holdDown
  deriving DecidableEq

structure DetectionContext where
  startedAt : Nat
  startedWall : Int
  sequence : Nat
  peak : List MatchedReason
  snapshotsInDetection : Nat
  deriving DecidableEq

structure SignalRecord where
  signal : Signal
  transition : StateTransition
  detection : DetectionContext
  deriving DecidableEq

structure StepOutcome where
  transitions : List StateTransition := []
  signal : Option SignalRecord := none
  state : Option DetectionState := none
  ignored : Option StepIgnored := none
  suppressed : Option Suppression := none
  deriving DecidableEq

def StepOutcome.skipped (reason : StepIgnored) (state : Option DetectionState) : StepOutcome where
  state := state
  ignored := some reason

/-- Everything the machine remembers about one scope. -/
structure ScopeState where
  key : ScopeKey
  policyId : String
  policyVersion : Nat
  state : DetectionState
  enteredAt : Nat
  activeSince : Option Nat
  activeSinceWall : Option Int
  lastSnapshotAt : Option Nat
  lastSnapshotWall : Option Int
  lastEventAt : Option Nat
  lastMatched : List MatchedReason
  peakMatched : List MatchedReason
  snapshotsInDetection : Nat
  eventsInDetection : Nat
  deriving DecidableEq

def ScopeState.new (key : ScopeKey) (policy : DetectionPolicy) (at_ : Nat) : ScopeState where
  key := key
  policyId := policy.id
  policyVersion := policy.version
  state := .idle
  enteredAt := at_
  activeSince := none
  activeSinceWall := none
  lastSnapshotAt := none
  lastSnapshotWall := none
  lastEventAt := none
  lastMatched := []
  peakMatched := []
  snapshotsInDetection := 0
  eventsInDetection := 0

/-- When the open detection started, on both clocks. -/
def ScopeState.opened (e : ScopeState) : Option (Nat × Int) :=
  match e.activeSince, e.activeSinceWall with
  | some at_, some wall => some (at_, wall)
  | _, _ => none

/-- The context of the next event, which takes the next sequence number. -/
def ScopeState.context (e : ScopeState) (started : Option (Nat × Int)) :
    Option (DetectionContext × ScopeState) :=
  match started <|> e.opened with
  | none => none
  | some (startedAt, startedWall) =>
    some ({ startedAt, startedWall, sequence := e.eventsInDetection, peak := e.peakMatched,
            snapshotsInDetection := e.snapshotsInDetection },
          { e with eventsInDetection := saturatingAdd e.eventsInDetection 1 })

def ScopeState.timeInState (e : ScopeState) (now : Nat) : Nat := now - e.enteredAt

def ScopeState.detectionAge (e : ScopeState) (now : Nat) : Option Nat :=
  e.activeSince.map (now - ·)

/-- The bookkeeping a move does on entering `toState`. -/
def ScopeState.enter (e : ScopeState) (toState : DetectionState) (at_ : Nat) (atWall : Int) :
    ScopeState :=
  let moved := { e with state := toState, enteredAt := at_ }
  match toState with
  | .active =>
    if e.activeSince.isNone then
      { moved with activeSince := some at_, activeSinceWall := some atWall,
                   snapshotsInDetection := 0, eventsInDetection := 0, peakMatched := [] }
    else moved
  | .idle | .cooldown => { moved with activeSince := none, activeSinceWall := none }
  | .pendingTrigger | .pendingClear => moved

def ScopeState.transition (e : ScopeState) (toState : DetectionState) (reason : TransitionReason)
    (at_ : Nat) (atWall : Int) (matched : List MatchedReason) :
    Option (StateTransition × ScopeState) :=
  if e.state.canTransitionTo toState then
    some ({ key := e.key, policyId := e.policyId, policyVersion := e.policyVersion,
            fromState := e.state, toState, reason, at_, atWall, matched,
            timeInPrevious := at_ - e.enteredAt },
          e.enter toState at_ atWall)
  else none

/-- Fold one reason into the peaks seen so far. -/
def recordPeak (peaks : List MatchedReason) (reason : MatchedReason) : List MatchedReason :=
  match peaks with
  | [] => [reason]
  | p :: rest =>
    if p.metric = reason.metric then
      (if p.observed < reason.observed then reason else p) :: rest
    else p :: recordPeak rest reason

def ScopeState.recordPeaks (e : ScopeState) (matched : List MatchedReason) : ScopeState :=
  { e with peakMatched := matched.foldl recordPeak e.peakMatched }

structure StateTableConfig where
  maxEntries : Nat := 100000
  idleTtl : Nat := fromSecs 300
  staleAfter : Nat := fromSecs 180
  deriving DecidableEq

structure Expiry where
  key : ScopeKey
  transition : Option StateTransition
  signal : Option Signal
  detection : Option DetectionContext
  deriving DecidableEq

structure StateTableStats where
  rejectedTableFull : Nat := 0
  ignoredOutOfOrder : Nat := 0
  ignoredDuplicate : Nat := 0
  ignoredWindowMismatch : Nat := 0
  expiredIdle : Nat := 0
  expiredStale : Nat := 0
  policyChanges : Nat := 0
  deriving DecidableEq

structure StateTable where
  config : StateTableConfig
  entries : Table ScopeKey ScopeState
  stats : StateTableStats

def StateTable.new (config : StateTableConfig) : StateTable where
  config := config
  entries := ∅
  stats := {}

/-- The entry and the outcome a step builds up together. -/
structure Progress where
  entry : ScopeState
  outcome : StepOutcome := {}

/-- `if let Some(detection) = entry.context(..) { outcome.signal = Some(..) }`. -/
def Progress.signal (p : Progress) (signal : Signal) (transition : StateTransition)
    (started : Option (Nat × Int)) : Progress :=
  match p.entry.context started with
  | none => p
  | some (detection, entry) =>
    { entry, outcome := { p.outcome with signal := some { signal, transition, detection } } }

/-- `if let Some(transition) = entry.transition(..) { body; outcome.transitions.push(..) }`. -/
def Progress.move (p : Progress) (toState : DetectionState) (reason : TransitionReason) (at_ : Nat)
    (atWall : Int) (matched : List MatchedReason)
    (body : StateTransition → Progress → Progress) : Progress :=
  match p.entry.transition toState reason at_ atWall matched with
  | none => p
  | some (t, entry) =>
    let q := body t { p with entry }
    { q with outcome := { q.outcome with transitions := q.outcome.transitions ++ [t] } }

def selectionDiffers (e : ScopeState) (policy : DetectionPolicy) : Bool :=
  e.policyId != policy.id || e.policyVersion != policy.version

/-- A policy swap resets the machine: its timers were measured against other thresholds. -/
def Progress.resetSelection (p : Progress) (policy : DetectionPolicy) (now : Nat)
    (wall : Int) : Progress :=
  if selectionDiffers p.entry policy then
    let wasOpen := p.entry.state.isOpen
    let opened := p.entry.opened
    let q := p.move .idle .policyChanged now wall [] fun t q =>
      if wasOpen then q.signal .ended t opened else q
    { q with entry := { q.entry with policyId := policy.id, policyVersion := policy.version,
                                     lastEventAt := none, peakMatched := [] } }
  else p

def Progress.recordSnapshot (p : Progress) (now : Nat) (wall : Int)
    (evaluation : Evaluation) : Progress :=
  { p with entry := { p.entry with lastSnapshotAt := some now, lastSnapshotWall := some wall,
                                   lastMatched := evaluation.matched } }

/-- Pass one: the only purely time-driven exit. -/
def Progress.expireCooldown (p : Progress) (policy : DetectionPolicy) (now : Nat)
    (wall : Int) : Progress :=
  if p.entry.state = .cooldown ∧ policy.cooldown ≤ p.entry.timeInState now then
    p.move .idle .cooldownExpired now wall [] fun _ q => q
  else p

def Progress.countSnapshot (p : Progress) (evaluation : Evaluation) : Progress :=
  if p.entry.state.isOpen then
    let counted := { p.entry with
      snapshotsInDetection := saturatingAdd p.entry.snapshotsInDetection 1 }
    { p with entry := counted.recordPeaks evaluation.matched }
  else p

/-- The body of a move into `active`. -/
def Progress.start (evaluation : Evaluation) (now : Nat) (t : StateTransition)
    (p : Progress) : Progress :=
  let marked := { p.entry.recordPeaks evaluation.matched with lastEventAt := some now }
  Progress.signal { p with entry := marked } .started t none

def Progress.close (p : Progress) (policy : DetectionPolicy) (now : Nat) (wall : Int) :
    Progress :=
  let toState := if policy.cooldown = 0 then .idle else .cooldown
  let opened := p.entry.opened
  p.move toState .clearSustained now wall [] fun t q =>
    Progress.signal { q with entry := { q.entry with lastEventAt := some now } } .ended t opened

/-- The detection has been open for at least the policy's hold-down. -/
def ScopeState.held (e : ScopeState) (policy : DetectionPolicy) (now : Nat) : Bool :=
  match e.detectionAge now with
  | some age => decide (policy.holdDown ≤ age)
  | none => true

/-- Pass two: the evaluation. -/
def Progress.judge (p : Progress) (policy : DetectionPolicy) (now : Nat) (wall : Int)
    (evaluation : Evaluation) : Progress :=
  let isOver := evaluation.isOverThreshold
  let matched := evaluation.matched
  match p.entry.state with
  | .idle =>
    if isOver then
      if policy.triggerFor = 0 then
        p.move .active .thresholdCrossed now wall matched (Progress.start evaluation now)
      else p.move .pendingTrigger .thresholdCrossed now wall matched fun _ q => q
    else p
  | .pendingTrigger =>
    if isOver then
      if policy.triggerFor ≤ p.entry.timeInState now then
        p.move .active .triggerSustained now wall matched (Progress.start evaluation now)
      else p
    else p.move .idle .triggerAborted now wall [] fun _ q => q
  | .active =>
    if evaluation.allBelowClear then
      if !p.entry.held policy now then { p with outcome := { p.outcome with suppressed := some .holdDown } }
      else if policy.clearFor = 0 then p.close policy now wall
      else p.move .pendingClear .fellBelowClear now wall [] fun _ q => q
    else p
  | .pendingClear =>
    if evaluation.allBelowClear then
      if policy.clearFor ≤ p.entry.timeInState now then p.close policy now wall else p
    else p.move .active .clearAborted now wall matched fun _ q => q
  | .cooldown =>
    if isOver then { p with outcome := { p.outcome with suppressed := some .cooldown } } else p

/-- The open detection last reported at least one update interval ago. -/
def ScopeState.updateDue (e : ScopeState) (policy : DetectionPolicy) (now : Nat) : Bool :=
  match e.lastEventAt with
  | some last => decide (policy.eventUpdateInterval ≤ now - last)
  | none => true

/-- A still-open detection emits a paced update, which is not a transition. -/
def Progress.paceUpdate (p : Progress) (policy : DetectionPolicy) (now : Nat)
    (wall : Int) (evaluation : Evaluation) : Progress :=
  if p.entry.state.isOpen && p.outcome.signal.isNone && evaluation.isOverThreshold then
    if p.entry.updateDue policy now then
      let e := { p.entry with lastEventAt := some now }
      let t : StateTransition :=
        { key := e.key, policyId := e.policyId, policyVersion := e.policyVersion,
          fromState := e.state, toState := e.state, reason := .stillActive, at_ := now, atWall := wall,
          matched := evaluation.matched, timeInPrevious := e.timeInState now }
      Progress.signal { p with entry := e } .updated t none
    else p
  else p

/-- What an accepted snapshot does to its entry. -/
def ScopeState.advance (e : ScopeState) (policy : DetectionPolicy) (now : Nat)
    (wall : Int) (evaluation : Evaluation) : Progress :=
  let p := (Progress.resetSelection { entry := e } policy now wall).recordSnapshot now wall evaluation
  let p := (p.expireCooldown policy now wall).countSnapshot evaluation
  let p := (p.judge policy now wall evaluation).paceUpdate policy now wall evaluation
  { p with outcome := { p.outcome with state := some p.entry.state } }

/-- The ordering guards, which run before any timer moves. -/
def ScopeState.refuses (e : ScopeState) (now : Nat) : Option StepIgnored :=
  match e.lastSnapshotAt with
  | none => none
  | some last =>
    if now < last then some .outOfOrder else if now = last then some .duplicate else none

def StateTableStats.countIgnored (s : StateTableStats) : StepIgnored → StateTableStats
  | .windowMismatch => { s with ignoredWindowMismatch := s.ignoredWindowMismatch + 1 }
  | .outOfOrder => { s with ignoredOutOfOrder := s.ignoredOutOfOrder + 1 }
  | .duplicate => { s with ignoredDuplicate := s.ignoredDuplicate + 1 }
  | .tableFull => { s with rejectedTableFull := s.rejectedTableFull + 1 }
  | .modeDisabled => s

def StateTable.skip (t : StateTable) (reason : StepIgnored) (state : Option DetectionState) :
    StepOutcome × StateTable :=
  (.skipped reason state, { t with stats := t.stats.countIgnored reason })

/-- The part of `step` that runs once the scope has an entry in the table. -/
def StateTable.stepEntry (t : StateTable) (policy : DetectionPolicy) (snapshot : DetectionSnapshot)
    (evaluation : Evaluation) (entry : ScopeState) : StepOutcome × StateTable :=
  match entry.refuses snapshot.observedAt with
  | some reason => t.skip reason (some entry.state)
  | none =>
    let p := entry.advance policy snapshot.observedAt snapshot.observedWall evaluation
    (p.outcome,
      { t with
        entries := t.entries.insert snapshot.key p.entry
        stats := { t.stats with policyChanges :=
          t.stats.policyChanges + (selectionDiffers entry policy).toNat } })

def StateTable.step (t : StateTable) (policy : DetectionPolicy) (snapshot : DetectionSnapshot)
    (evaluation : Evaluation) : StepOutcome × StateTable :=
  let state := t.entries[snapshot.key]?.map ScopeState.state
  if policy.executionMode.evaluates = false then t.skip .modeDisabled state
  else if snapshot.window ≠ policy.window then t.skip .windowMismatch state
  else
    match t.entries[snapshot.key]? with
    | some entry => t.stepEntry policy snapshot evaluation entry
    | none =>
      if t.config.maxEntries ≤ t.entries.size then t.skip .tableFull none
      else
        let entry := ScopeState.new snapshot.key policy snapshot.observedAt
        StateTable.stepEntry { t with entries := t.entries.insert snapshot.key entry } policy
          snapshot evaluation entry

def StateTable.manualReset (t : StateTable) (key : ScopeKey) (now : Nat) (wall : Int) :
    Option (StateTransition × Option DetectionContext) × StateTable :=
  match t.entries[key]? with
  | none => (none, t)
  | some entry =>
    let wasOpen := entry.state.isOpen
    let opened := entry.opened
    let entry := { entry with lastEventAt := some now }
    match entry.transition .idle .manualReset now wall [] with
    | none => (none, { t with entries := t.entries.insert key entry })
    | some (transition, entry) =>
      match (if wasOpen then entry.context opened else none) with
      | none => (some (transition, none), { t with entries := t.entries.insert key entry })
      | some (detection, entry) =>
        (some (transition, some detection), { t with entries := t.entries.insert key entry })

/-- The expiry of a removed entry: an open detection closes with it. -/
def ScopeState.expire (e : ScopeState) (key : ScopeKey) (reason : TransitionReason) (now : Nat)
    (wall : Int) : Expiry :=
  let wasOpen := e.state.isOpen
  let opened := e.opened
  let (transition, e') := match e.transition .idle reason now wall [] with
    | some (t, e') => (some t, e')
    | none => (none, e)
  { key := key
    transition := transition
    signal := if wasOpen then some .ended else none
    detection := if wasOpen then (e'.context opened).map Prod.fst else none }

/-- Why a policy swap removes an entry, if it does. -/
def ScopeState.staleSelection (e : ScopeState) (winner : Option (String × Nat)) :
    Option TransitionReason :=
  match winner with
  | none => some .policyWithdrawn
  | some (id, version) =>
    if id ≠ e.policyId ∨ version ≠ e.policyVersion then some .policyChanged else none

/-- Entries are visited in key order, which is the order the source sorts its expiries into. -/
def StateTable.withdrawStaleSelection (t : StateTable) (now : Nat) (wall : Int)
    (winner : ScopeKey → Option (String × Nat)) : List Expiry × StateTable :=
  let doomed := t.entries.toList.filterMap fun (key, entry) =>
    (entry.staleSelection (winner key)).map fun reason => (key, reason, entry)
  (doomed.map fun (key, reason, entry) => entry.expire key reason now wall,
    { t with
      entries := t.entries.filter fun key entry => (entry.staleSelection (winner key)).isNone
      stats := { t.stats with policyChanges :=
        t.stats.policyChanges + doomed.countP fun (_, reason, _) => reason == .policyChanged } })

/-- A scope that never produced a snapshot is measured from its admission. -/
def ScopeState.expired (e : ScopeState) (config : StateTableConfig) (now : Nat) : Bool :=
  let since := e.lastSnapshotAt.getD e.enteredAt
  let ttl := if e.state = .idle then config.idleTtl else config.staleAfter
  decide (ttl ≤ now - since)

/-- An idle entry leaves without a trace; any other one is stale. -/
def ScopeState.sweepExpiry (e : ScopeState) (key : ScopeKey) (now : Nat) (wall : Int) :
    Expiry :=
  if e.state = .idle then { key := key, transition := none, signal := none, detection := none }
  else e.expire key .stale now wall

def StateTable.sweep (t : StateTable) (now : Nat) (wall : Int) :
    List Expiry × StateTable :=
  let doomed := t.entries.toList.filter fun (_, entry) => entry.expired t.config now
  (doomed.map fun (key, entry) => entry.sweepExpiry key now wall,
    { t with
      entries := t.entries.filter fun _ entry => !entry.expired t.config now
      stats := { t.stats with
        expiredIdle := t.stats.expiredIdle + doomed.countP fun (_, e) => e.state == .idle
        expiredStale := t.stats.expiredStale + doomed.countP fun (_, e) => e.state != .idle } })

end Tidegard.Detector.State
