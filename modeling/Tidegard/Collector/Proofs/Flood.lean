import Tidegard.Collector.Proofs.Dead

namespace Tidegard.Collector.Proofs.Flood

open Common Aggregator Classifier Classifier.Registry Detector.Input Detector.Policy
open Detector.Evaluate Detector.Window Detector.Proofs.Rates Arrivals Dead

/-! The traffic that opens a detection under a satisfiable policy: a flood of one flow, window
after window, from or to an address the policy watches. -/

def target (p : DetectionPolicy) : IpAddr :=
  match p.selector with
  | .host addr => addr
  | .network addr _ => addr
  | .hostgroup _ | .any => if p.addressFamily = some .ipv6 then .v6 0 else .v4 0

/-- The length of the prefix that makes it local. -/
def targetLen (p : DetectionPolicy) : Nat :=
  match p.selector with
  | .network _ len => len
  | _ => 0

def targetGroup (p : DetectionPolicy) : String :=
  match p.selector with
  | .hostgroup name => name
  | _ => ""

/-- An address that a prefix of the other family never covers. -/
def opposite : IpAddr → IpAddr
  | .v4 _ => .v6 0
  | .v6 _ => .v4 0

def protocolFor : MetricKind → Protocol
  | .udpBps | .udpPps => .udp
  | .icmpBps | .icmpPps => .icmp
  | _ => .tcp

/-- One flow that fills every counter the metric may be read from. -/
def floodFlow (p : DetectionPolicy) (metric : MetricKind) : NormalizedFlow where
  sourceAddr := if p.direction = .outgoing then target p else opposite (target p)
  destinationAddr := if p.direction = .outgoing then opposite (target p) else target p
  protocol := some (protocolFor metric)
  tcpFlags := some tcpFlagSyn
  bytes := u64Max
  packets := u64Max
  samplingRate := ⟨1, Nat.one_pos⟩
  samplingSource := .unsampled
  exporter := .v4 0
  fragmented := true
  dropped := true
  forwardingStatusKnown := true

def targetSide (p : DetectionPolicy) : Side where
  addr := target p
  direction := p.direction
  tenant := some p.tenant
  hostgroup := some (targetGroup p)

def targetId (p : DetectionPolicy) : ScopeId :=
  match p.scopeType with
  | .host => .host (target p)
  | .prefix_ => .network (mask (target p) (targetLen p)) (targetLen p)
  | .slash24 => .network (mask (target p) 24) 24
  | .hostgroupTotal => .hostgroup (targetGroup p)

def targetKey (p : DetectionPolicy) : ScopeKey := (targetSide p).key p.scopeType (targetId p)

theorem normalized_floodFlow (p : DetectionPolicy) (metric : MetricKind) :
    Normalized (floodFlow p metric) := by
  refine ⟨u64Max, u64Max, Or.inl (by decide), ?_, le_refl _, ?_, le_refl _⟩
  · simp [floodFlow]
  · simp [floodFlow]

section Target

theorem targetLen_le (h : p.Accepted) : targetLen p ≤ width (target p) := by
  unfold targetLen target
  cases hs : p.selector with
  | network addr len =>
    have := h.selector.2 addr len hs
    cases addr <;> exact this
  | host | hostgroup | any => exact Nat.zero_le _

theorem isIpv4_opposite (addr : IpAddr) : (opposite addr).isIpv4 ≠ addr.isIpv4 := by
  cases addr <;> simp [opposite, IpAddr.isIpv4]

theorem target_isIpv4 (h : p.Accepted) (ha : Addressable p) (htype : p.scopeType = .slash24) :
    (target p).isIpv4 = true := by
  have hcompatible := h.selector.1
  unfold Addressable at ha
  unfold target
  cases hs : p.selector with
  | host | hostgroup => simp [hs, htype, selectorCompatible] at hcompatible
  | network =>
    rw [hs] at ha
    exact ha.2.2 htype
  | any =>
    rw [hs] at ha
    simp [ha htype, IpAddr.isIpv4]

theorem target_family (ha : Addressable p) :
    p.addressFamily.all (· == .of (target p)) = true := by
  unfold Addressable at ha
  unfold target
  cases hs : p.selector with
  | host =>
    rw [hs] at ha
    exact ha
  | network =>
    rw [hs] at ha
    exact ha.1
  | hostgroup | any => cases p.addressFamily with
    | none => rfl
    | some family => cases family <;> rfl

theorem target_selected (h : p.Accepted) (ha : Addressable p) :
    selectorMatches p.selector (targetId p) = true := by
  have hcompatible := h.selector.1
  unfold Addressable at ha
  unfold targetId target targetLen targetGroup
  cases hs : p.selector with
  | host | hostgroup =>
    cases ht : p.scopeType <;> simp [hs, ht, selectorCompatible] at hcompatible
    simp [selectorMatches]
  | network =>
    rw [hs] at ha
    cases ht : p.scopeType <;> simp [hs, ht, selectorCompatible] at hcompatible
    · simp [selectorMatches, ha.2.1]
    · subst hcompatible
      simp [selectorMatches, ha.2.1]
  | any => simp [selectorMatches]

theorem target_matches (h : p.Accepted) (henabled : p.enabled = true) (ha : Addressable p) :
    p.matchesScope (targetKey p) = true :=
  matchesScope_iff.mpr ⟨henabled, Or.inr rfl, rfl, rfl, target_family ha, target_selected h ha⟩

theorem target_produced (h : p.Accepted) (ha : Addressable p)
    (hlookup : lookup (target p) = some (targetLen p)) :
    Produces lookup (targetSide p) (targetKey p) := by
  unfold targetKey targetId
  cases ht : p.scopeType with
  | host => exact .host
  | prefix_ => exact .network hlookup
  | slash24 => exact .slash24 (target_isIpv4 h ha ht)
  | hostgroupTotal => exact .hostgroup rfl

theorem produced_unique (hlookup : lookup (target p) = some (targetLen p))
    (hkey : Produces lookup (targetSide p) key) (hmatch : p.matchesScope key = true) :
    key = targetKey p := by
  have htype := (matchesScope_iff.mp hmatch).2.2.1
  unfold targetKey targetId
  cases hkey with
  | host | slash24 => simp only [htype, Side.key]; rfl
  | network found =>
    have hlen : _ = targetLen p := Option.some.inj (found.symm.trans hlookup)
    simp only [htype, Side.key, hlen]
    rfl
  | hostgroup member =>
    have hname : targetGroup p = _ := Option.some.inj member
    simp only [htype, Side.key, hname]

theorem sides_floodFlow (hempty : registry.isEmpty = false)
    (hfound : registry.lookup (target p) =
      some ⟨⟨p.tenant, some (targetGroup p), targetLen p⟩, targetLen p⟩)
    (hother : registry.lookup (opposite (target p)) = none)
    (hdirection : p.direction = .incoming ∨ p.direction = .outgoing) (metric : MetricKind) :
    sides (floodFlow p metric) (classify registry (floodFlow p metric)) = [targetSide p] := by
  rcases hdirection with hd | hd
  · simp [sides, classify, hempty, floodFlow, hd, hfound, hother, targetSide]
  · simp [sides, classify, hempty, floodFlow, hd, hfound, hother, targetSide]

end Target

theorem saturatingAdd_full (n : Nat) : saturatingAdd n u64Max = u64Max := by
  unfold saturatingAdd
  omega

theorem saturatingMul_full : saturatingMul u64Max 8 = u64Max := by decide

theorem level_flood (p : DetectionPolicy) (hm : measured metric = true) (hfps : metric ≠ .fps)
    (c : TrafficCounters) : level (c.add (floodFlow p metric)) metric = u64Max := by
  cases metric <;>
    first
    | exact absurd rfl hfps
    | exact absurd hm (by decide)
    | simp [level, TrafficCounters.add, TrafficCounters.addProtocol, floodFlow, protocolFor,
        saturatingAdd_full, saturatingMul_full, NormalizedFlow.isTcpSyn, tcpFlagSyn]

theorem flows_add (c : TrafficCounters) (flow : NormalizedFlow) :
    (c.add flow).flows = saturatingAdd c.flows 1 := by
  unfold TrafficCounters.add TrafficCounters.addProtocol
  dsimp only
  repeat' split
  all_goals rfl

theorem evaluable_flood (p : DetectionPolicy) (metric : MetricKind) (hash : IpAddr → Nat)
    (a : Accumulator) (window elapsed now : Nat) (wall : Int) (key : ScopeKey) :
    evaluable (snapshot window elapsed now wall key
      (Accumulator.add hash (floodFlow p metric) a)) metric = true := by
  cases metric <;>
    simp [evaluable, MetricKind.requiredCompleteness, DataCompleteness.has, snapshot,
      Accumulator.add, DataCompleteness.merge, floodFlow]

section Flood

/-- The configuration of the flooded windows: the policy's window, and room by default. -/
def floodConfig (p : DetectionPolicy) : WindowConfig where
  window := p.window

/-- The window that began at `start`, after `n` flows of the flood. -/
structure Flooded (p : DetectionPolicy) (metric : MetricKind) (hashing : Hashing)
    (lookup : IpAddr → Option Nat) (start n : Nat) (w : DetectionWindows) : Prop where
  config : w.config = floodConfig p
  began : w.windowStart = start
  keys : Throughout (fun scopeType key _ => key.scopeType = scopeType ∧
    Produces lookup (targetSide p) key) w
  room : (mapOf w p.scopeType).maxEntries ≠ 0
  flows : (((mapOf w p.scopeType).entries[targetKey p]?.map Slot.value).getD {}).counters.flows =
    min n u64Max
  counted : n ≠ 0 → ∃ a at_, (mapOf w p.scopeType).entries[targetKey p]? =
    some ⟨Accumulator.add hashing.hash (floodFlow p metric) a, at_⟩

theorem flooded_new (stats : WindowStats) :
    Flooded p metric hashing lookup start 0
      { DetectionWindows.new (floodConfig p) start with stats := stats } := by
  refine ⟨rfl, rfl, ⟨every_new _, every_new _, every_new _, every_new _⟩, ?_, ?_, by simp⟩
  · cases p.scopeType <;> simp [mapOf, DetectionWindows.new, BoundedMap.new, floodConfig]
  · cases p.scopeType <;> simp [mapOf, DetectionWindows.new, BoundedMap.new]

theorem Flooded.ingest (h : Flooded p metric hashing lookup start n w)
    (hproduced : Produces lookup (targetSide p) (targetKey p))
    (hsides : sides (floodFlow p metric) classification = [targetSide p]) (now : Nat) :
    Flooded p metric hashing lookup start (n + 1)
      (w.ingest hashing lookup (floodFlow p metric) classification now) := by
  have hone : w.ingest hashing lookup (floodFlow p metric) classification now =
      DetectionWindows.count hashing lookup (floodFlow p metric) now
        { w with stats := { w.stats with flowsIngested := saturatingAdd w.stats.flowsIngested 1 } }
        (targetSide p) := by
    unfold DetectionWindows.ingest
    rw [hsides]
    rfl
  have hmap : mapOf (w.ingest hashing lookup (floodFlow p metric) classification now) p.scopeType =
      ((mapOf w p.scopeType).upsert (hashing.visit (targetKey p)) (targetKey p) now {}
        (Accumulator.add hashing.hash (floodFlow p metric))).2 := by
    rw [hone]
    refine (count_mapOf hproduced _ hashing (floodFlow p metric) now).trans ?_
    cases hs : (targetKey p).scopeType <;>
      rw [show p.scopeType = _ from hs] <;> rfl
  have hframe := ingest_frame w hashing lookup (floodFlow p metric) classification now
  have hself := upsert_self h.room (hashing.visit (targetKey p)) (targetKey p) now
    (Accumulator.add hashing.hash (floodFlow p metric))
  refine ⟨hframe.2.trans h.config, hframe.1.trans h.began, ?_, ?_, ?_, fun _ => ?_⟩
  · refine throughout_ingest h.keys classification ?_ fun side hside key hkey a ha => ha
    intro side hside key hkey
    rw [hsides, List.mem_singleton] at hside
    exact ⟨rfl, hside ▸ hkey⟩
  · rw [hmap, upsert_maxEntries]
    exact h.room
  · rw [hmap, hself]
    simp only [Option.map_some, Option.getD_some, Accumulator.add, flows_add, h.flows,
      saturatingAdd]
    omega
  · rw [hmap, hself]
    exact ⟨_, _, rfl⟩

theorem Flooded.level (h : Flooded p metric hashing lookup start u64Max w)
    (hm : measured metric = true) :
    ∃ a at_, (mapOf w p.scopeType).entries[targetKey p]? =
        some ⟨Accumulator.add hashing.hash (floodFlow p metric) a, at_⟩ ∧
      level (Accumulator.add hashing.hash (floodFlow p metric) a).counters metric = u64Max := by
  obtain ⟨a, at_, hslot⟩ := h.counted (by decide)
  refine ⟨a, at_, hslot, ?_⟩
  by_cases hfps : metric = .fps
  · have hflows := h.flows
    rw [hslot, min_self] at hflows
    rw [hfps] at hflows ⊢
    exact hflows
  · exact level_flood p hm hfps a.counters

theorem Flooded.snapshots (h : Flooded p metric hashing lookup start u64Max w)
    (hm : measured metric = true) (hlookup : lookup (target p) = some (targetLen p))
    (hget : p.thresholds[metric]? = some threshold) (hle : threshold ≤ perSecond u64Max p.window)
    (wall : Int) :
    (∃ s ∈ w.snapshots (start + p.window) wall, s.key = targetKey p) ∧
    ∀ s ∈ w.snapshots (start + p.window) wall, p.matchesScope s.key = true →
      s.key = targetKey p ∧ OverThreshold p s := by
  obtain ⟨a, at_, hslot, hlevel⟩ := h.level hm
  refine ⟨⟨_, mem_snapshots_iff.mpr ⟨_, _, _, hslot, rfl⟩, rfl⟩, ?_⟩
  intro s hs hmatch
  obtain ⟨scopeType, key, slot, hentry, rfl⟩ := mem_snapshots_iff.mp hs
  obtain ⟨htype, hproduced⟩ := h.keys.mapOf scopeType key slot hentry
  have hkey : key = targetKey p := produced_unique hlookup hproduced hmatch
  subst hkey
  subst htype
  rw [show (targetKey p).scopeType = p.scopeType from rfl, hslot] at hentry
  cases hentry
  refine ⟨rfl, metric, threshold, hget, evaluable_flood p metric hashing.hash a _ _ _ _ _, ?_⟩
  rw [rates_get, hlevel, h.began, Nat.add_sub_cancel_left]
  exact hle

end Flood

end Tidegard.Collector.Proofs.Flood
