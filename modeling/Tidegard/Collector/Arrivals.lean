import Tidegard.Classifier.Registry
import Tidegard.Collector.Stage
import Tidegard.Detector.Proofs.Rates

namespace Tidegard.Collector.Arrivals

open Runs Common Classifier.Registry Detector.Policy Detector.State Detector.Event
open Detector.Precedence Detector.Engine Detector.Window Detector.Proofs.Rates Stage

/-- What reaches the stage of a running collector: a flow, or the tick of its clock. -/
inductive Arrival where
  | flow (flow : NormalizedFlow) (now : Nat)
  | tick (now : Nat) (wall : Int)

def Arrival.now : Arrival → Nat
  | .flow _ now => now
  | .tick now _ => now

/-- A flow is classified against the registry it is counted with. -/
def Arrival.call (hashing : Hashing) (registry : PrefixRegistry) : Arrival → StageCall
  | .flow record now =>
    .ingest hashing (matchedLen registry) record (classify registry record) now
  | .tick now wall => .tick now wall

/-- The flow builder can return the flow: it is not empty, and its counters are the raw ones
times the sampling rate, without overflow. -/
def Normalized (flow : NormalizedFlow) : Prop :=
  ∃ rawBytes rawPackets, (rawBytes ≠ 0 ∨ rawPackets ≠ 0) ∧
    flow.bytes = rawBytes * flow.samplingRate.rate ∧ flow.bytes ≤ u64Max ∧
    flow.packets = rawPackets * flow.samplingRate.rate ∧ flow.packets ≤ u64Max

def engineFor (policy : ValidPolicy) (table : StateTableConfig) (factory : EventFactory)
    (sinkAccepts : DetectionEvent → Bool) : ThresholdDetectionEngine :=
  (ThresholdDetectionEngine.new table factory sinkAccepts).withPolicies
    (PolicySet.empty.add policy)

/-- Some call of the run opens a detection under the policy. -/
def Opened (policy : ValidPolicy) (past : List (Step DetectionStage StageCall StageOutput)) :
    Prop :=
  ∃ st ∈ past, ∃ r ∈ st.output.reported,
    r.record.signal = .started ∧ r.record.transition.policyId = policy.val.id

/-- Some registry, some window configuration with the policy's window and some traffic open a
detection under the policy, which is the only one of the engine. -/
def CanOpen (policy : ValidPolicy) (hashing : Hashing) (engine : ThresholdDetectionEngine) :
    Prop :=
  ∃ (registry : PrefixRegistry) (config : WindowConfig) (start : Nat) (arrivals : List Arrival),
    registry.Built ∧ config.window = policy.val.window ∧
    (∀ flow now, .flow flow now ∈ arrivals → Normalized flow) ∧
    arrivals.Pairwise (fun a b => a.now ≤ b.now) ∧
    Opened policy (stageMachine.trace (.new config engine start)
      (arrivals.map (Arrival.call hashing registry)))

/-- Some scope key the windows can produce is one the selector and the family accept. -/
def Addressable (p : DetectionPolicy) : Prop :=
  match p.selector with
  | .host addr => p.addressFamily.all (· == .of addr) = true
  | .network addr len =>
    p.addressFamily.all (· == .of addr) = true ∧ mask addr len = addr ∧
      (p.scopeType = .slash24 → addr.isIpv4 = true)
  | .hostgroup _ | .any => p.scopeType = .slash24 → p.addressFamily ≠ some .ipv6

/-- Some threshold is within what a full counter gives over one window. -/
def Reachable (p : DetectionPolicy) : Prop :=
  ∃ metric threshold, p.thresholds[metric]? = some threshold ∧ measured metric = true ∧
    threshold ≤ perSecond u64Max p.window

/-- What validation does not check: the policy watches a direction the windows count, an address
they key on, and a rate they fill. -/
structure Satisfiable (p : DetectionPolicy) : Prop where
  direction : p.direction = .incoming ∨ p.direction = .outgoing
  addressable : Addressable p
  reachable : Reachable p

end Tidegard.Collector.Arrivals
