import Tidegard.Aggregator
import Tidegard.Classifier
import Tidegard.Detector.Input

namespace Tidegard.Detector.Window

open Common Classifier Aggregator Input

variable {w : DetectionWindows} {now : Nat}

def unattributedTenant : String := "unattributed"

structure WindowConfig where
  window : Nat := fromSecs 5
  maxHosts : Nat := 100000
  maxNetworks : Nat := 20000
  maxSlash24 : Nat := 20000
  maxHostgroups : Nat := 1000
  deriving DecidableEq

structure WindowStats where
  flowsIngested : Nat := 0
  flowsUnscoped : Nat := 0
  snapshotsEmitted : Nat := 0
  evicted : Nat := 0
  rejected : Nat := 0
  skewedTicks : Nat := 0
  deriving DecidableEq

/-- What the standard library's hash maps and hasher answer. -/
structure Hashing where
  /-- `DefaultHasher` over an exporter's address. -/
  hash : IpAddr → Nat
  /-- Where a key stands in the visiting order of the map that makes room for the first one. -/
  visit : ScopeKey → ScopeKey → Nat

/-- A 64-bit sketch of the exporters seen. -/
structure ExporterSketch where
  bits : BitVec 64 := 0
  deriving DecidableEq

def ExporterSketch.observe (hash : IpAddr → Nat) (s : ExporterSketch) (exporter : IpAddr) :
    ExporterSketch :=
  ⟨s.bits ||| (1#64 <<< (hash exporter % 64))⟩

def ExporterSketch.count (s : ExporterSketch) : Nat :=
  (List.range 64).countP fun i => s.bits.getLsbD i

/-- One scope's traffic in the window being filled. -/
structure Accumulator where
  counters : TrafficCounters := {}
  completeness : DataCompleteness := {}
  sampling : SamplingStatus := {}
  exporters : ExporterSketch := {}
  deriving DecidableEq

def Accumulator.add (hash : IpAddr → Nat) (flow : NormalizedFlow) (a : Accumulator) :
    Accumulator where
  counters := a.counters.add flow
  completeness := a.completeness.merge
    { protocolSeen := flow.protocol.isSome
      tcpFlagsSeen := flow.tcpFlags.isSome
      -- the only evidence that fragmentation is reported at all is a fragmented flow
      fragmentationSeen := flow.fragmented
      forwardingStatusSeen := flow.forwardingStatusKnown }
  sampling := a.sampling.merge
    { corrected := decide (1 < flow.samplingRate.rate)
      usedGlobalDefault := flow.samplingSource == .globalDefault
      maxRate := flow.samplingRate.rate }
  exporters := a.exporters.observe hash flow.exporter

structure DetectionWindows where
  config : WindowConfig
  windowStart : Nat
  hosts : BoundedMap ScopeKey Accumulator
  networks : BoundedMap ScopeKey Accumulator
  slash24 : BoundedMap ScopeKey Accumulator
  hostgroups : BoundedMap ScopeKey Accumulator
  stats : WindowStats

def DetectionWindows.new (config : WindowConfig) (now : Nat) : DetectionWindows where
  config := config
  windowStart := now
  hosts := .new config.maxHosts
  networks := .new config.maxNetworks
  slash24 := .new config.maxSlash24
  hostgroups := .new config.maxHostgroups
  stats := {}

/-- The mask that keeps `len` leading bits. -/
def leadingMask (width len : Nat) : BitVec width := BitVec.allOnes width <<< (width - len)

def mask (addr : IpAddr) (prefixLen : Nat) : IpAddr :=
  match addr with
  | .v4 bits =>
    let len := min prefixLen 32
    .v4 (if len = 0 then 0 else bits &&& leadingMask 32 len)
  | .v6 bits =>
    let len := min prefixLen 128
    .v6 (if len = 0 then 0 else bits &&& leadingMask 128 len)

theorem addressFamily_mask (addr : IpAddr) (length : Nat) :
    AddressFamily.of (mask addr length) = AddressFamily.of addr := by
  cases addr <;> rfl

/-- The local end of a flow, as the windows count it. -/
structure Side where
  addr : IpAddr
  direction : TrafficDirection
  tenant : Option String
  hostgroup : Option String
  deriving DecidableEq

def sides (flow : NormalizedFlow) (classification : ClassificationResult) : List Side :=
  let inbound : Side :=
    { addr := flow.destinationAddr
      direction := .incoming
      tenant := classification.destinationMatchedTenant
      hostgroup := classification.destinationMatchedHostgroup }
  let outbound : Side :=
    { addr := flow.sourceAddr
      direction := .outgoing
      tenant := classification.sourceMatchedTenant
      hostgroup := classification.sourceMatchedHostgroup }
  match classification.direction with
  | .incoming => [inbound]
  | .outgoing => [outbound]
  | .internal => [inbound, outbound]
  | .other | .unknown => []

/-- Count one flow into one map; the statistics travel along. -/
def accumulate (hashing : Hashing) (flow : NormalizedFlow) (now : Nat) (key : ScopeKey)
    (map : BoundedMap ScopeKey Accumulator) (stats : WindowStats) :
    BoundedMap ScopeKey Accumulator × WindowStats :=
  let answer := map.upsert (hashing.visit key) key now {} (Accumulator.add hashing.hash flow)
  (answer.2,
    match answer.1 with
    | .insertedByEviction => { stats with evicted := saturatingAdd stats.evicted 1 }
    | .rejected => { stats with rejected := saturatingAdd stats.rejected 1 }
    | .inserted | .updated => stats)

def Side.key (side : Side) (scopeType : ScopeType) (scopeId : ScopeId) : ScopeKey where
  tenant := side.tenant.getD unattributedTenant
  scopeType := scopeType
  scopeId := scopeId
  direction := side.direction
  addressFamily := .of side.addr

/-- `lookup` answers the length of the registry's longest match. -/
def DetectionWindows.count (hashing : Hashing) (lookup : IpAddr → Option Nat)
    (flow : NormalizedFlow) (now : Nat) (w : DetectionWindows) (side : Side) : DetectionWindows :=
  let add := accumulate hashing flow now
  let (hosts, stats) := add (side.key .host (.host side.addr)) w.hosts w.stats
  let (networks, stats) := match lookup side.addr with
    | some prefixLen =>
      add (side.key .prefix_ (.network (mask side.addr prefixLen) prefixLen)) w.networks stats
    | none => (w.networks, stats)
  let (slash24, stats) :=
    if side.addr.isIpv4 then
      add (side.key .slash24 (.network (mask side.addr 24) 24)) w.slash24 stats
    else (w.slash24, stats)
  let (hostgroups, stats) := match side.hostgroup with
    | some name => add (side.key .hostgroupTotal (.hostgroup name)) w.hostgroups stats
    | none => (w.hostgroups, stats)
  { w with hosts, networks, slash24, hostgroups, stats }

def DetectionWindows.ingest (w : DetectionWindows) (hashing : Hashing)
    (lookup : IpAddr → Option Nat) (flow : NormalizedFlow) (classification : ClassificationResult)
    (now : Nat) : DetectionWindows :=
  let counted := { w with
    stats := { w.stats with flowsIngested := saturatingAdd w.stats.flowsIngested 1 } }
  match sides flow classification with
  | [] => { counted with
      stats := { counted.stats with flowsUnscoped := saturatingAdd counted.stats.flowsUnscoped 1 } }
  | found => found.foldl (DetectionWindows.count hashing lookup flow now) counted

/-- `value / seconds` in nanosecond resolution; the product of a `u64` fits the source's `u128`. -/
def perSecond (value elapsed : Nat) : Nat :=
  if elapsed = 0 then 0 else min (value * 1000000000 / elapsed) u64Max

def bitsPerSecond (bytes elapsed : Nat) : Nat := perSecond (saturatingMul bytes 8) elapsed

/-- More than a tenth away from the configured window in either direction. -/
def skewed (elapsed window : Nat) : Bool :=
  let tolerance := window / 10
  decide (window + tolerance < elapsed) || decide (elapsed + tolerance < window)

def snapshot (window elapsed now : Nat) (wall : Int) (key : ScopeKey) (a : Accumulator) :
    DetectionSnapshot where
  key := key
  window := window
  observedAt := now
  observedWall := wall
  rates :=
    { bps := bitsPerSecond a.counters.bytes elapsed
      pps := perSecond a.counters.packets elapsed
      fps := perSecond a.counters.flows elapsed
      tcpBps := bitsPerSecond a.counters.tcpBytes elapsed
      tcpPps := perSecond a.counters.tcpPackets elapsed
      udpBps := bitsPerSecond a.counters.udpBytes elapsed
      udpPps := perSecond a.counters.udpPackets elapsed
      icmpBps := bitsPerSecond a.counters.icmpBytes elapsed
      icmpPps := perSecond a.counters.icmpPackets elapsed
      -- there is no byte counter for these three, so their bit rates read zero
      tcpSynBps := 0
      tcpSynPps := perSecond a.counters.tcpSynPackets elapsed
      fragmentedBps := 0
      fragmentedPps := perSecond a.counters.fragmentedPackets elapsed
      droppedBps := 0
      droppedPps := perSecond a.counters.droppedPackets elapsed }
  completeness := a.completeness
  sampling := a.sampling
  flowsObserved := a.counters.flows
  exportersObserved := a.exporters.count

/-- The window is old enough to be closed. -/
def DetectionWindows.isDue (w : DetectionWindows) (now : Nat) : Bool :=
  decide (w.config.window ≤ now - w.windowStart)

/-- One snapshot of every scope that has counters, in key order. -/
def DetectionWindows.snapshots (w : DetectionWindows) (now : Nat) (wall : Int) :
    List DetectionSnapshot :=
  let found := [w.hosts, w.networks, w.slash24, w.hostgroups].flatMap BoundedMap.toList
  (found.map fun (key, a) =>
    snapshot w.config.window (now - w.windowStart) now wall key a).insertionSort
      fun a b => a.key ≤ b.key

def DetectionWindows.tick (w : DetectionWindows) (now : Nat) (wall : Int) :
    List DetectionSnapshot × DetectionWindows :=
  if !w.isDue now then ([], w)
  else
    let snapshots := w.snapshots now wall
    let skewedTicks :=
      if skewed (now - w.windowStart) w.config.window then saturatingAdd w.stats.skewedTicks 1
      else w.stats.skewedTicks
    (snapshots,
      { DetectionWindows.new w.config now with
        stats := { w.stats with
          skewedTicks := skewedTicks
          snapshotsEmitted := saturatingAdd w.stats.snapshotsEmitted snapshots.length } })

theorem mem_snapshots {wall : Int} {s : DetectionSnapshot} (h : s ∈ w.snapshots now wall) :
    s.window = w.config.window ∧ s.observedAt = now ∧ s.observedWall = wall := by
  unfold DetectionWindows.snapshots at h
  rw [List.mem_insertionSort, List.mem_map] at h
  obtain ⟨_, _, rfl⟩ := h
  exact ⟨rfl, rfl, rfl⟩

theorem tick_due (wall : Int) (h : w.isDue now = true) :
    (w.tick now wall).1 = w.snapshots now wall ∧ (w.tick now wall).2.windowStart = now ∧
      (w.tick now wall).2.config = w.config := by
  simp [DetectionWindows.tick, h, DetectionWindows.new]

theorem tick_not_due (wall : Int) (h : w.isDue now = false) : w.tick now wall = ([], w) := by
  simp [DetectionWindows.tick, h]

theorem ingest_frame (w : DetectionWindows) (hashing : Hashing) (lookup : IpAddr → Option Nat)
    (flow : NormalizedFlow) (classification : ClassificationResult) (now : Nat) :
    (w.ingest hashing lookup flow classification now).windowStart = w.windowStart ∧
      (w.ingest hashing lookup flow classification now).config = w.config := by
  have hfold (found : List Side) (v : DetectionWindows) :
      (found.foldl (DetectionWindows.count hashing lookup flow now) v).windowStart =
          v.windowStart ∧
        (found.foldl (DetectionWindows.count hashing lookup flow now) v).config = v.config := by
    induction found generalizing v with
    | nil => exact ⟨rfl, rfl⟩
    | cons side rest ih => exact ih (v.count hashing lookup flow now side)
  unfold DetectionWindows.ingest
  dsimp only
  split
  · exact ⟨rfl, rfl⟩
  · exact hfold _ _

end Tidegard.Detector.Window
