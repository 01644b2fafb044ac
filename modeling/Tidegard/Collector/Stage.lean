import Tidegard.Detector.Engine
import Tidegard.Detector.Window

namespace Tidegard.Collector.Stage

open Runs Common Classifier Detector.Input Detector.Policy Detector.Engine Detector.Window

/-- Where the collector hands classified flows to detection. -/
structure DetectionStage where
  windows : DetectionWindows
  engine : ThresholdDetectionEngine

def DetectionStage.new (config : WindowConfig) (engine : ThresholdDetectionEngine) (now : Nat) :
    DetectionStage where
  windows := .new config now
  engine := engine

structure StageOutput where
  /-- The snapshots of the window the call closed, if it closed one. -/
  closed : Option (List DetectionSnapshot) := none
  reported : List Reported := []
  report : EngineReport := {}

def DetectionStage.ingest (s : DetectionStage) (hashing : Hashing) (lookup : IpAddr → Option Nat)
    (flow : NormalizedFlow) (classification : ClassificationResult) (now : Nat) : DetectionStage :=
  { s with windows := s.windows.ingest hashing lookup flow classification now }

/-- The cycle runs on every tick; a tick before the window is due has no snapshots for it. -/
def DetectionStage.tick (s : DetectionStage) (now : Nat) (wall : Int) :
    StageOutput × DetectionStage :=
  let ticked := s.windows.tick now wall
  let evaluated := s.engine.evaluate ticked.1
  let answer := cycle s.engine ticked.1 now wall
  ({ closed := if s.windows.isDue now then some ticked.1 else none
     reported := evaluated.reported ++ (evaluated.engine.sweep now wall).reported
     report := answer.1 },
   { windows := ticked.2, engine := answer.2 })

inductive StageCall where
  | ingest (hashing : Hashing) (lookup : IpAddr → Option Nat) (flow : NormalizedFlow)
      (classification : ClassificationResult) (now : Nat)
  | tick (now : Nat) (wall : Int)

def StageCall.now : StageCall → Nat
  | .ingest _ _ _ _ now => now
  | .tick now _ => now

def DetectionStage.perform (s : DetectionStage) : StageCall → StageOutput × DetectionStage
  | .ingest hashing lookup flow classification now =>
    ({}, s.ingest hashing lookup flow classification now)
  | .tick now wall => s.tick now wall

def stageMachine : Machine DetectionStage StageCall StageOutput := ⟨DetectionStage.perform⟩

/-- In the closed window the scope was at or above at least one of the policy's thresholds. A
scope without a snapshot had no traffic, so it was not: thresholds are positive. -/
def ReachesThreshold (policy : DetectionPolicy) (key : ScopeKey)
    (snapshots : List DetectionSnapshot) : Prop :=
  ∃ s ∈ snapshots, s.key = key ∧ ∃ metric threshold,
    policy.thresholds[metric]? = some threshold ∧ threshold ≤ s.rates.get metric

/-- The call closed a window at the instant `u`. -/
def ClosedAt (st : Step DetectionStage StageCall StageOutput) (u : Nat)
    (snapshots : List DetectionSnapshot) : Prop :=
  (∃ wall, st.input = .tick u wall) ∧ st.output.closed = some snapshots

/-- The call, a tick at `t`, opened a detection of the scope after a sustained crossing. -/
def OpensAt (st : Step DetectionStage StageCall StageOutput) (t : Nat) (key : ScopeKey) : Prop :=
  (∃ wall, st.input = .tick t wall) ∧
    ∃ r ∈ st.output.reported, r.key = key ∧ r.record.signal = .started ∧
      r.record.transition.reason = .triggerSustained

/-- Every window closed in the `triggerFor` up to an opening was at or above a threshold. -/
def Sustained (policy : DetectionPolicy)
    (past : List (Step DetectionStage StageCall StageOutput)) : Prop :=
  ∀ opening ∈ past, ∀ t key, OpensAt opening t key →
    ∀ closing ∈ past, ∀ u snapshots, ClosedAt closing u snapshots →
      t < u + policy.triggerFor → u ≤ t → ReachesThreshold policy key snapshots

/-- No scope that is waiting for its trigger is silent in the window the call closes. -/
def NoSilentPending (st : Step DetectionStage StageCall StageOutput) : Prop :=
  ∀ snapshots, st.output.closed = some snapshots → ∀ (key : ScopeKey) x,
    st.before.engine.table.entries[key]? = some x → x.state = .pendingTrigger →
      ∃ s ∈ snapshots, s.key = key

end Tidegard.Collector.Stage
