import Tidegard.Runs
import Tidegard.Detector.Event
import Tidegard.Detector.Precedence

namespace Tidegard.Detector.Engine

open Runs Input Policy Evaluate State Event Precedence

structure EngineReport where
  snapshotsSeen : Nat := 0
  unmatched : Nat := 0
  ignored : Nat := 0
  transitions : Nat := 0
  suppressed : Nat := 0
  eventsBuilt : Nat := 0
  eventsPublished : Nat := 0
  eventsFailed : Nat := 0
  detectionsOpened : Nat := 0
  detectionsClosed : Nat := 0
  deriving DecidableEq

def EngineReport.merge (r other : EngineReport) : EngineReport where
  snapshotsSeen := r.snapshotsSeen + other.snapshotsSeen
  unmatched := r.unmatched + other.unmatched
  ignored := r.ignored + other.ignored
  transitions := r.transitions + other.transitions
  suppressed := r.suppressed + other.suppressed
  eventsBuilt := r.eventsBuilt + other.eventsBuilt
  eventsPublished := r.eventsPublished + other.eventsPublished
  eventsFailed := r.eventsFailed + other.eventsFailed
  detectionsOpened := r.detectionsOpened + other.detectionsOpened
  detectionsClosed := r.detectionsClosed + other.detectionsClosed

/-- The engine, with the sink as the answers it gives. -/
structure ThresholdDetectionEngine where
  policies : PolicySet
  table : StateTable
  factory : EventFactory
  sinkAccepts : DetectionEvent → Bool

def ThresholdDetectionEngine.new (config : StateTableConfig) (factory : EventFactory)
    (sinkAccepts : DetectionEvent → Bool) : ThresholdDetectionEngine where
  policies := .empty
  table := .new config
  factory := factory
  sinkAccepts := sinkAccepts

def ThresholdDetectionEngine.withPolicies (e : ThresholdDetectionEngine) (policies : PolicySet) :
    ThresholdDetectionEngine := { e with policies := policies }

/-- What became of one signal of the state table. -/
structure Reported where
  key : ScopeKey
  record : SignalRecord
  event : Option DetectionEvent
  published : Bool

/-- The engine part way through a call, with what the call reports. -/
structure Pass where
  engine : ThresholdDetectionEngine
  report : EngineReport := {}
  transitions : List StateTransition := []
  reported : List Reported := []

/-- Count the event, and publish it if its policy publishes. -/
def emit (sinkAccepts : DetectionEvent → Bool) (event : DetectionEvent) (report : EngineReport) :
    Bool × EngineReport :=
  let report := { report with
    eventsBuilt := report.eventsBuilt + 1
    detectionsOpened := report.detectionsOpened + if event.kind = .started then 1 else 0
    detectionsClosed := report.detectionsClosed + if event.kind = .ended then 1 else 0 }
  if !event.isPublishable then (false, report)
  else if sinkAccepts event then
    (true, { report with eventsPublished := report.eventsPublished + 1 })
  else (false, { report with eventsFailed := report.eventsFailed + 1 })

def Pass.send (p : Pass) (key : ScopeKey) (record : SignalRecord) :
    Option (DetectionEvent × EventFactory) → Pass
  | none =>
    { p with reported := p.reported ++ [{ key, record, event := none, published := false }] }
  | some (event, factory) =>
    let sent := emit p.engine.sinkAccepts event p.report
    { p with
      engine := { p.engine with factory := factory }
      report := sent.2
      reported := p.reported ++ [{ key, record, event := some event, published := sent.1 }] }

/-- The loop body of `evaluate`, once the winning policy is known. -/
def Pass.step (p : Pass) (policy : DetectionPolicy) (snapshot : DetectionSnapshot) : Pass :=
  let evaluation := evaluate policy snapshot
  let answer := p.engine.table.step policy snapshot evaluation
  let outcome := answer.1
  let q : Pass :=
    { p with
      engine := { p.engine with table := answer.2 }
      report := { p.report with
        ignored := p.report.ignored + outcome.ignored.isSome.toNat
        suppressed := p.report.suppressed + outcome.suppressed.isSome.toNat
        transitions := p.report.transitions + outcome.transitions.length }
      transitions := p.transitions ++ outcome.transitions }
  match outcome.signal with
  | none => q
  | some record => q.send snapshot.key record
      (q.engine.factory.build record policy snapshot evaluation.matched evaluation.skipped)

def Pass.evaluateOne (p : Pass) (snapshot : DetectionSnapshot) : Pass :=
  match p.engine.policies.winnerFor snapshot.key with
  | none => { p with report := { p.report with unmatched := p.report.unmatched + 1 } }
  | some policy => p.step policy snapshot

def ThresholdDetectionEngine.evaluate (e : ThresholdDetectionEngine)
    (snapshots : List DetectionSnapshot) : Pass :=
  snapshots.foldl Pass.evaluateOne
    { engine := e, report := { snapshotsSeen := snapshots.length } }

/-- The loop body of `close_expired`. -/
def Pass.closeOne (policyFor : String → Option DetectionPolicy) (wall : Int) (p : Pass)
    (expiry : Expiry) : Pass :=
  match expiry.transition, expiry.detection with
  | some transition, some detection =>
    if expiry.signal ≠ some .ended then p
    else
      let q : Pass :=
        { p with
          report := { p.report with transitions := p.report.transitions + 1 }
          transitions := p.transitions ++ [transition] }
      let record : SignalRecord := { signal := .ended, transition, detection }
      match policyFor transition.policyId with
      | none =>
        -- the policy is gone: the end event is lost, and counted
        Pass.send { q with report := { q.report with eventsFailed := q.report.eventsFailed + 1 } }
          expiry.key record none
      | some policy =>
        q.send expiry.key record (q.engine.factory.buildClosing record policy wall)
  | _, _ => p

def Pass.closeExpired (p : Pass) (expiries : List Expiry) (wall : Int)
    (policyFor : String → Option DetectionPolicy) : Pass :=
  expiries.foldl (Pass.closeOne policyFor wall) p

def ThresholdDetectionEngine.sweep (e : ThresholdDetectionEngine) (now : Nat) (wall : Int) : Pass :=
  let answer := e.table.sweep now wall
  Pass.closeExpired { engine := { e with table := answer.2 } } answer.1 wall e.policies.get

/-- What an incoming policy set selects for a scope. -/
def selectionOf (policies : PolicySet) (key : ScopeKey) : Option (String × Nat) :=
  (policies.winnerFor key).map fun policy => (policy.id, policy.version)

/-- The outgoing set is what the open detections were opened under, so their end events read
severity and labels from it. -/
def ThresholdDetectionEngine.replacePolicies (e : ThresholdDetectionEngine) (policies : PolicySet)
    (now : Nat) (wall : Int) : Pass :=
  let answer := e.table.withdrawStaleSelection now wall (selectionOf policies)
  Pass.closeExpired { engine := { e with policies := policies, table := answer.2 } } answer.1 wall
    e.policies.get

/-- The calls of the engine; a swap takes its instant from the engine's clock. -/
inductive Call where
  | evaluate (snapshots : List DetectionSnapshot)
  | sweep (now : Nat) (wall : Int)
  | replacePolicies (policies : PolicySet) (now : Nat) (wall : Int)

def ThresholdDetectionEngine.perform (e : ThresholdDetectionEngine) : Call → Pass
  | .evaluate snapshots => e.evaluate snapshots
  | .sweep now wall => e.sweep now wall
  | .replacePolicies policies now wall => e.replacePolicies policies now wall

def engineMachine : Machine ThresholdDetectionEngine Call Pass :=
  ⟨fun e call => (e.perform call, (e.perform call).engine)⟩

/-- One evaluation and one sweep, as the collector runs them every window. -/
def cycle (e : ThresholdDetectionEngine) (snapshots : List DetectionSnapshot) (now : Nat)
    (wall : Int) : EngineReport × ThresholdDetectionEngine :=
  let evaluated := e.evaluate snapshots
  let swept := evaluated.engine.sweep now wall
  (evaluated.report.merge swept.report, swept.engine)

end Tidegard.Detector.Engine
