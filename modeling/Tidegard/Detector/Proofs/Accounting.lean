import Tidegard.Detector.Proofs.Rates

namespace Tidegard.Detector.Proofs.Accounting

open List Tables Common Classifier Aggregator Input Window Rates

variable {lookup : IpAddr → Option Nat}
variable {w : DetectionWindows}
variable {all : List Arrival}

/-- The arguments of one `ingest`; `lookup` is the registry it is given. -/
structure Arrival where
  lookup : IpAddr → Option Nat
  flow : NormalizedFlow
  classification : ClassificationResult
  now : Nat

def arrive (hashing : Hashing) (w : DetectionWindows) (a : Arrival) : DetectionWindows :=
  w.ingest hashing a.lookup a.flow a.classification a.now

def run (hashing : Hashing) (w : DetectionWindows) (arrivals : List Arrival) : DetectionWindows :=
  arrivals.foldl (arrive hashing) w

def Arrival.sides (a : Arrival) : List Side := Window.sides a.flow a.classification

/-- The key a side is counted under in the map of a scope type. -/
def keyOf (lookup : IpAddr → Option Nat) (side : Side) : ScopeType → Option ScopeKey
  | .host => some (side.key .host (.host side.addr))
  | .prefix_ => (lookup side.addr).map fun len =>
      side.key .prefix_ (.network (mask side.addr len) len)
  | .slash24 =>
    if side.addr.isIpv4 then some (side.key .slash24 (.network (mask side.addr 24) 24)) else none
  | .hostgroupTotal => side.hostgroup.map fun name => side.key .hostgroupTotal (.hostgroup name)

def scopeTypes : List ScopeType := [.host, .prefix_, .slash24, .hostgroupTotal]

def keysOf (lookup : IpAddr → Option Nat) (side : Side) : List ScopeKey :=
  scopeTypes.filterMap (keyOf lookup side)

theorem keyOf_iff : keyOf lookup side scopeType = some key ↔
    Produces lookup side key ∧ key.scopeType = scopeType := by
  constructor
  · intro h
    cases scopeType with
    | host =>
      obtain rfl := Option.some.inj h
      exact ⟨.host, rfl⟩
    | prefix_ =>
      obtain ⟨len, found, rfl⟩ := Option.map_eq_some_iff.mp h
      exact ⟨.network found, rfl⟩
    | slash24 =>
      change (if side.addr.isIpv4 = true then _ else none) = some key at h
      split at h
      · rename_i v4
        obtain rfl := Option.some.inj h
        exact ⟨.slash24 v4, rfl⟩
      · cases h
    | hostgroupTotal =>
      obtain ⟨name, member, rfl⟩ := Option.map_eq_some_iff.mp h
      exact ⟨.hostgroup member, rfl⟩
  · rintro ⟨h, rfl⟩
    cases h <;> simp [keyOf, Side.key, *]

theorem scopeType_of_keyOf (h : keyOf lookup side scopeType = some key) :
    key.scopeType = scopeType := (keyOf_iff.mp h).2

theorem mem_keysOf : key ∈ keysOf lookup side ↔ keyOf lookup side key.scopeType = some key := by
  unfold keysOf
  rw [mem_filterMap]
  constructor
  · rintro ⟨scopeType, -, h⟩
    rwa [scopeType_of_keyOf h]
  · intro h
    refine ⟨key.scopeType, ?_, h⟩
    cases key.scopeType <;> simp [scopeTypes]

def produced (arrivals : List Arrival) : List ScopeKey :=
  arrivals.flatMap fun a => a.sides.flatMap (keysOf a.lookup)

/-- The flows attributed to a key, once for each side that produces it. -/
def attributedTo (key : ScopeKey) (arrivals : List Arrival) : List NormalizedFlow :=
  arrivals.flatMap fun a => (a.sides.filter fun s => key ∈ keysOf a.lookup s).map fun _ => a.flow

def attributed (key : ScopeKey) (a : Arrival) : Bool :=
  a.sides.any fun s => decide (key ∈ keysOf a.lookup s)

theorem direction_of_mem_keysOf (h : key ∈ keysOf lookup side) :
    key.direction = side.direction := by
  cases (keyOf_iff.mp (mem_keysOf.mp h)).1 <;> rfl

theorem sides_directions (a : Arrival) :
    a.sides.Pairwise fun s t => s.direction ≠ t.direction := by
  unfold Arrival.sides Window.sides
  dsimp only
  split <;> simp

/-- No flow is counted twice under one key. -/
theorem attributedTo_eq (key : ScopeKey) (arrivals : List Arrival) :
    attributedTo key arrivals = (arrivals.filter (attributed key)).map Arrival.flow := by
  have hone (a : Arrival) (found : List Side)
      (hfound : found.Pairwise fun s t => s.direction ≠ t.direction) :
      ((found.filter fun s => key ∈ keysOf a.lookup s).map fun _ => a.flow) =
        if found.any fun s => decide (key ∈ keysOf a.lookup s) then [a.flow] else [] := by
    induction found with
    | nil => rfl
    | cons side rest ih =>
      obtain ⟨hhead, htail⟩ := List.pairwise_cons.mp hfound
      by_cases hin : key ∈ keysOf a.lookup side
      · have hnone : (rest.filter fun s => key ∈ keysOf a.lookup s) = [] := by
          rw [filter_eq_nil_iff]
          intro s hs hkey
          refine hhead s hs ?_
          rw [← direction_of_mem_keysOf hin, ← direction_of_mem_keysOf (decide_eq_true_eq.mp hkey)]
        simp [hin, hnone]
      · simpa [hin] using ih htail
  unfold attributedTo
  induction arrivals with
  | nil => rfl
  | cons a rest ih =>
    rw [flatMap_cons, ih, hone a a.sides (sides_directions a)]
    cases hattr : attributed key a with
    | true =>
      rw [filter_cons_of_pos hattr, map_cons]
      unfold attributed at hattr
      rw [if_pos hattr]
      rfl
    | false =>
      rw [filter_cons_of_neg (by rw [hattr]; exact Bool.false_ne_true)]
      unfold attributed at hattr
      rw [hattr]
      rfl

def feed (scopeType : ScopeType) (a : Arrival) : List (ScopeKey × Arrival) :=
  a.sides.filterMap fun s => (keyOf a.lookup s scopeType).map (·, a)

def feeds (scopeType : ScopeType) (arrivals : List Arrival) : List (ScopeKey × Arrival) :=
  arrivals.flatMap (feed scopeType)

/-- The `upsert` of one entry of a feed. -/
def put (hashing : Hashing) (m : BoundedMap ScopeKey Accumulator) (e : ScopeKey × Arrival) :
    UpsertOutcome × BoundedMap ScopeKey Accumulator :=
  m.upsert (hashing.visit e.1) e.1 e.2.now {} (Accumulator.add hashing.hash e.2.flow)

def putAll (hashing : Hashing) (m : BoundedMap ScopeKey Accumulator)
    (l : List (ScopeKey × Arrival)) : BoundedMap ScopeKey Accumulator :=
  l.foldl (fun m e => (put hashing m e).2) m

/-- No entry of the feed makes the map evict or reject. -/
def Lossless (hashing : Hashing) :
    BoundedMap ScopeKey Accumulator → List (ScopeKey × Arrival) → Prop
  | _, [] => True
  | m, e :: rest =>
    ((put hashing m e).1 = .inserted ∨ (put hashing m e).1 = .updated) ∧
      Lossless hashing (put hashing m e).2 rest

def held (m : BoundedMap ScopeKey Accumulator) (key : ScopeKey) : Option Accumulator :=
  m.entries[key]?.map Slot.value

theorem mapOf_count (hashing : Hashing) (w : DetectionWindows) (a : Arrival) (side : Side)
    (scopeType : ScopeType) :
    mapOf (w.count hashing a.lookup a.flow a.now side) scopeType =
      match keyOf a.lookup side scopeType with
      | none => mapOf w scopeType
      | some key => (put hashing (mapOf w scopeType) (key, a)).2 := by
  cases scopeType with
  | host => rfl
  | prefix_ =>
    cases hl : a.lookup side.addr <;>
      simp [mapOf, DetectionWindows.count, accumulate, keyOf, put, hl]
  | slash24 =>
    cases hv : side.addr.isIpv4 <;>
      simp [mapOf, DetectionWindows.count, accumulate, keyOf, put, hv]
  | hostgroupTotal =>
    cases hg : side.hostgroup <;>
      simp [mapOf, DetectionWindows.count, accumulate, keyOf, put, hg]

theorem mapOf_arrive (hashing : Hashing) (w : DetectionWindows) (a : Arrival)
    (scopeType : ScopeType) :
    mapOf (arrive hashing w a) scopeType =
      putAll hashing (mapOf w scopeType) (feed scopeType a) := by
  have hfold (found : List Side) (v : DetectionWindows) :
      mapOf (found.foldl (DetectionWindows.count hashing a.lookup a.flow a.now) v) scopeType =
        putAll hashing (mapOf v scopeType)
          (found.filterMap fun s => (keyOf a.lookup s scopeType).map (·, a)) := by
    induction found generalizing v with
    | nil => rfl
    | cons side rest ih =>
      rw [foldl_cons, ih, mapOf_count]
      cases hkey : keyOf a.lookup side scopeType with
      | none => rw [filterMap_cons_none (by rw [hkey]; rfl)]
      | some key => rw [filterMap_cons_some (by rw [hkey]; rfl)]; rfl
  have hstats (v : DetectionWindows) (stats : WindowStats) :
      mapOf { v with stats := stats } scopeType = mapOf v scopeType := by cases scopeType <;> rfl
  unfold arrive DetectionWindows.ingest feed Arrival.sides
  dsimp only
  split
  · rename_i hnone
    rw [hnone, hstats]
    rfl
  · rw [hfold, hstats]

theorem mapOf_run (hashing : Hashing) (w : DetectionWindows) (arrivals : List Arrival)
    (scopeType : ScopeType) :
    mapOf (run hashing w arrivals) scopeType =
      putAll hashing (mapOf w scopeType) (feeds scopeType arrivals) := by
  induction arrivals generalizing w with
  | nil => rfl
  | cons a rest ih =>
    change mapOf (run hashing (arrive hashing w a) rest) scopeType = _
    rw [ih, mapOf_arrive]
    exact (foldl_append ..).symm

section Map

variable {m : BoundedMap ScopeKey Accumulator}

theorem put_lossless (h : (put hashing m e).1 = .inserted ∨ (put hashing m e).1 = .updated) :
    ∃ a, (put hashing m e).2 = { m with entries := m.entries.insert e.1 ⟨a, e.2.now⟩ } ∧
      a = Accumulator.add hashing.hash e.2.flow ((held m e.1).getD {}) := by
  unfold put BoundedMap.upsert at h ⊢
  by_cases hzero : m.maxEntries = 0
  · rw [if_pos hzero] at h
    rcases h with h | h <;> cases h
  · rw [if_neg hzero] at h ⊢
    cases hold : m.entries[e.1]? with
    | some slot => exact ⟨_, rfl, by simp [held, hold]⟩
    | none =>
      rw [hold] at h
      dsimp only at h ⊢
      by_cases hfull : m.maxEntries ≤ m.entries.size
      · rw [if_pos hfull] at h
        split at h <;> rcases h with h | h <;> cases h
      · rw [if_neg hfull]
        exact ⟨_, rfl, by simp [held, hold]⟩

theorem held_put (h : (put hashing m e).1 = .inserted ∨ (put hashing m e).1 = .updated)
    (key : ScopeKey) :
    held (put hashing m e).2 key =
      if e.1 = key then some (Accumulator.add hashing.hash e.2.flow ((held m key).getD {}))
      else held m key := by
  obtain ⟨a, hput, rfl⟩ := put_lossless h
  rw [hput]
  unfold held
  dsimp only
  rw [get_insert]
  split
  · rename_i heq
    rw [heq]
    rfl
  · rfl

def flowsAt (key : ScopeKey) (l : List (ScopeKey × Arrival)) : List NormalizedFlow :=
  (l.filter fun e => e.1 = key).map fun e => e.2.flow

theorem held_putAll (h : Lossless hashing m l) (key : ScopeKey) :
    held (putAll hashing m l) key =
      if flowsAt key l = [] then held m key
      else some ((flowsAt key l).foldl (fun a flow => Accumulator.add hashing.hash flow a)
        ((held m key).getD {})) := by
  induction l generalizing m with
  | nil => rfl
  | cons e rest ih =>
    obtain ⟨hput, hrest⟩ := h
    change held (putAll hashing (put hashing m e).2 rest) key = _
    rw [ih hrest, held_put hput]
    unfold flowsAt
    by_cases heq : e.1 = key
    · rw [filter_cons_of_pos (by simpa using heq), if_pos heq]
      by_cases hnil : (rest.filter fun e => e.1 = key).map (fun e => e.2.flow) = []
      · simp [hnil]
      · simp [hnil]
    · rw [filter_cons_of_neg (by simpa using heq), if_neg heq]

def keySet (m : BoundedMap ScopeKey Accumulator) : Finset ScopeKey :=
  (m.entries.toList.map Prod.fst).toFinset

theorem mem_keySet : key ∈ keySet m ↔ (m.entries[key]?).isSome = true := by
  unfold keySet
  rw [mem_toFinset, mem_map]
  constructor
  · rintro ⟨⟨k, slot⟩, hmem, rfl⟩
    rw [(mem_toList _ _ _).mp hmem]
    rfl
  · intro h
    obtain ⟨slot, hslot⟩ := Option.isSome_iff_exists.mp h
    exact ⟨(key, slot), (mem_toList _ _ _).mpr hslot, rfl⟩

theorem card_keySet (m : BoundedMap ScopeKey Accumulator) :
    (keySet m).card = m.entries.size := by
  unfold keySet
  rw [toFinset_card_of_nodup, length_map, Std.ExtTreeMap.length_toList]
  exact (toList_pairwise m.entries).map _ fun _ _ hne => hne

theorem keySet_insert (n : Nat) (entries : Table ScopeKey (Slot Accumulator)) (key : ScopeKey)
    (slot : Slot Accumulator) :
    keySet ⟨n, entries.insert key slot⟩ = insert key (keySet ⟨n, entries⟩) := by
  ext k
  rw [Finset.mem_insert, mem_keySet, mem_keySet]
  dsimp only
  rw [get_insert]
  split
  · rename_i heq
    simp [heq]
  · rename_i hne
    simp [Ne.symm hne]

section

variable (hsize : m.entries.size ≤ m.maxEntries)

include hsize

theorem put_lossless_iff :
    ((put hashing m e).1 = .inserted ∨ (put hashing m e).1 = .updated) ↔
      (insert e.1 (keySet m)).card ≤ m.maxEntries := by
  have hcard := card_keySet m
  unfold put BoundedMap.upsert
  by_cases hzero : m.maxEntries = 0
  · have hpos : 0 < (insert e.1 (keySet m)).card :=
      Finset.card_pos.mpr ⟨e.1, Finset.mem_insert_self _ _⟩
    rw [if_pos hzero]
    constructor
    · rintro (h | h) <;> cases h
    · intro h
      omega
  · rw [if_neg hzero]
    cases hold : m.entries[e.1]? with
    | some slot =>
      have hmem : e.1 ∈ keySet m := mem_keySet.mpr (by rw [hold]; rfl)
      rw [Finset.insert_eq_of_mem hmem, hcard]
      exact ⟨fun _ => hsize, fun _ => Or.inr rfl⟩
    | none =>
      have hmem : e.1 ∉ keySet m := by
        rw [mem_keySet, hold]
        exact Bool.false_ne_true
      rw [Finset.card_insert_of_notMem hmem, hcard]
      dsimp only
      by_cases hfull : m.maxEntries ≤ m.entries.size
      · rw [if_pos hfull]
        constructor
        · split <;> rintro (h | h) <;> cases h
        · intro h
          omega
      · rw [if_neg hfull]
        exact ⟨fun _ => by omega, fun _ => Or.inl rfl⟩

theorem put_keySet
    (h : (put hashing m e).1 = .inserted ∨ (put hashing m e).1 = .updated) :
    keySet (put hashing m e).2 = insert e.1 (keySet m) ∧
      (put hashing m e).2.maxEntries = m.maxEntries ∧
      (put hashing m e).2.entries.size ≤ (put hashing m e).2.maxEntries := by
  have hfits := (put_lossless_iff hsize).mp h
  obtain ⟨a, hput, -⟩ := put_lossless h
  have hkeys := keySet_insert m.maxEntries m.entries e.1 ⟨a, e.2.now⟩
  rw [← card_keySet, hput, hkeys]
  exact ⟨rfl, rfl, hfits⟩

theorem lossless_iff :
    Lossless hashing m l ↔ (keySet m ∪ (l.map Prod.fst).toFinset).card ≤ m.maxEntries := by
  induction l generalizing m with
  | nil =>
    rw [map_nil, toFinset_nil, Finset.union_empty, card_keySet]
    exact ⟨fun _ => hsize, fun _ => trivial⟩
  | cons e rest ih =>
    have hunion : keySet m ∪ ((e :: rest).map Prod.fst).toFinset =
        insert e.1 (keySet m) ∪ (rest.map Prod.fst).toFinset := by
      rw [map_cons, toFinset_cons, Finset.union_insert, Finset.insert_union]
    rw [hunion]
    constructor
    · rintro ⟨hput, hrest⟩
      obtain ⟨hkeys, hmax, hsize'⟩ := put_keySet hsize hput
      have hall := (ih hsize').mp hrest
      rwa [hkeys, hmax] at hall
    · intro hall
      have hfits : (insert e.1 (keySet m)).card ≤ m.maxEntries :=
        (Finset.card_le_card Finset.subset_union_left).trans hall
      have hput : (put hashing m e).1 = .inserted ∨ (put hashing m e).1 = .updated :=
        (put_lossless_iff hsize).mpr hfits
      obtain ⟨hkeys, hmax, hsize'⟩ := put_keySet hsize hput
      refine ⟨hput, (ih hsize').mpr ?_⟩
      rwa [hkeys, hmax]

end

theorem lossless_of_length_le (h : l.length ≤ n) : Lossless hashing (.new n) l := by
  have hempty : keySet (.new n) = ∅ := by
    ext key
    simp [mem_keySet, BoundedMap.new]
  rw [lossless_iff (Nat.zero_le _), hempty, Finset.empty_union]
  calc (l.map Prod.fst).toFinset.card ≤ (l.map Prod.fst).length := toFinset_card_le _
    _ = l.length := length_map _
    _ ≤ n := h

theorem Lossless.perm (h : Lossless hashing (.new n) l)
    (hperm : l.Perm l') : Lossless hashing (.new n) l' := by
  have hsize : (BoundedMap.new n : BoundedMap ScopeKey Accumulator).entries.size ≤
      (BoundedMap.new n : BoundedMap ScopeKey Accumulator).maxEntries := Nat.zero_le _
  rw [lossless_iff hsize] at h ⊢
  rwa [← toFinset_eq_of_perm _ _ (hperm.map Prod.fst)]

end Map

section Summary

def total (weight : NormalizedFlow → Nat) (flows : List NormalizedFlow) : Nat :=
  min (flows.map weight).sum u64Max

/-- The saturating sum over the flows a counter counts. -/
def totalOf (counts : NormalizedFlow → Bool) (weight : NormalizedFlow → Nat)
    (flows : List NormalizedFlow) : Nat :=
  total weight (flows.filter counts)

def isTcp (flow : NormalizedFlow) : Bool := flow.protocol == some .tcp

def isUdp (flow : NormalizedFlow) : Bool := flow.protocol == some .udp

def isIcmp (flow : NormalizedFlow) : Bool :=
  flow.protocol == some .icmp || flow.protocol == some .icmpv6

/-- The sums, disjunctions and maxima over a collection of flows. -/
def summary (hash : IpAddr → Nat) (flows : List NormalizedFlow) : Accumulator where
  counters :=
    { bytes := total NormalizedFlow.bytes flows
      packets := total NormalizedFlow.packets flows
      flows := total (fun _ => 1) flows
      tcpBytes := totalOf isTcp NormalizedFlow.bytes flows
      tcpPackets := totalOf isTcp NormalizedFlow.packets flows
      udpBytes := totalOf isUdp NormalizedFlow.bytes flows
      udpPackets := totalOf isUdp NormalizedFlow.packets flows
      icmpBytes := totalOf isIcmp NormalizedFlow.bytes flows
      icmpPackets := totalOf isIcmp NormalizedFlow.packets flows
      tcpSynPackets := totalOf NormalizedFlow.isTcpSyn NormalizedFlow.packets flows
      fragmentedPackets := totalOf NormalizedFlow.fragmented NormalizedFlow.packets flows
      droppedPackets :=
        totalOf (fun f => f.forwardingStatusKnown && f.dropped) NormalizedFlow.packets flows }
  completeness :=
    { protocolSeen := flows.any fun f => f.protocol.isSome
      tcpFlagsSeen := flows.any fun f => f.tcpFlags.isSome
      fragmentationSeen := flows.any NormalizedFlow.fragmented
      forwardingStatusSeen := flows.any NormalizedFlow.forwardingStatusKnown }
  sampling :=
    { corrected := flows.any fun f => decide (1 < f.samplingRate.rate)
      usedGlobalDefault := flows.any fun f => f.samplingSource == .globalDefault
      maxRate := (flows.map fun f => f.samplingRate.rate).foldl max 0 }
  exporters := (flows.map NormalizedFlow.exporter).foldl (ExporterSketch.observe hash) {}

theorem total_concat (weight : NormalizedFlow → Nat) (flows : List NormalizedFlow)
    (flow : NormalizedFlow) :
    total weight (flows ++ [flow]) = saturatingAdd (total weight flows) (weight flow) := by
  simp only [total, saturatingAdd, map_append, sum_append, map_cons, map_nil,
    sum_cons, sum_nil]
  omega

theorem totalOf_concat (counts : NormalizedFlow → Bool) (weight : NormalizedFlow → Nat)
    (flows : List NormalizedFlow) (flow : NormalizedFlow) :
    totalOf counts weight (flows ++ [flow]) =
      if counts flow then saturatingAdd (totalOf counts weight flows) (weight flow)
      else totalOf counts weight flows := by
  unfold totalOf
  rw [filter_append]
  split
  · rename_i hcounts
    rw [filter_cons_of_pos hcounts, filter_nil, total_concat]
  · rename_i hcounts
    rw [filter_cons_of_neg hcounts, filter_nil, append_nil]

theorem accumulator_ext {a b : Accumulator} (hcounters : a.counters = b.counters)
    (hcompleteness : a.completeness = b.completeness) (hsampling : a.sampling = b.sampling)
    (hexporters : a.exporters = b.exporters) : a = b := by
  cases a
  cases b
  cases hcounters
  cases hcompleteness
  cases hsampling
  cases hexporters
  rfl

theorem summary_concat (hash : IpAddr → Nat) (flows : List NormalizedFlow)
    (flow : NormalizedFlow) :
    summary hash (flows ++ [flow]) = Accumulator.add hash flow (summary hash flows) := by
  have hcounters : (summary hash (flows ++ [flow])).counters =
      (summary hash flows).counters.add flow := by
    simp only [summary, total_concat, totalOf_concat, TrafficCounters.add,
      TrafficCounters.addProtocol, isTcp, isUdp, isIcmp, NormalizedFlow.isTcpSyn]
    rcases Option.eq_none_or_eq_some flow.protocol with hp | ⟨protocol, hp⟩
    · simp [hp]
    · cases protocol <;> simp [hp]
  have hrest : (summary hash (flows ++ [flow])).completeness =
        (Accumulator.add hash flow (summary hash flows)).completeness ∧
      (summary hash (flows ++ [flow])).sampling =
        (Accumulator.add hash flow (summary hash flows)).sampling ∧
      (summary hash (flows ++ [flow])).exporters =
        (Accumulator.add hash flow (summary hash flows)).exporters := by
    simp [summary, Accumulator.add, DataCompleteness.merge, SamplingStatus.merge]
  exact accumulator_ext hcounters hrest.1 hrest.2.1 hrest.2.2

theorem foldl_add (hash : IpAddr → Nat) (flows : List NormalizedFlow) :
    flows.foldl (fun a flow => Accumulator.add hash flow a) {} = summary hash flows := by
  induction flows using List.reverseRecOn with
  | nil => rfl
  | append_singleton flows flow ih =>
    rw [foldl_append, ih, summary_concat]
    rfl

variable {flows : List NormalizedFlow}

theorem total_perm (h : flows.Perm flows') (weight : NormalizedFlow → Nat) :
    total weight flows = total weight flows' := by
  unfold total
  rw [(h.map weight).sum_nat]

theorem totalOf_perm (h : flows.Perm flows') (counts : NormalizedFlow → Bool)
    (weight : NormalizedFlow → Nat) : totalOf counts weight flows = totalOf counts weight flows' :=
  total_perm (h.filter counts) weight

theorem observe_comm (hash : IpAddr → Nat) (s : ExporterSketch) (a b : IpAddr) :
    (s.observe hash a).observe hash b = (s.observe hash b).observe hash a := by
  simp only [ExporterSketch.observe, BitVec.or_assoc]
  rw [BitVec.or_comm (1#64 <<< (hash a % 64))]

theorem summary_perm (hash : IpAddr → Nat) (h : flows.Perm flows') :
    summary hash flows = summary hash flows' := by
  have hmax := (h.map fun f => f.samplingRate.rate).foldl_eq' (f := max)
    (fun a _ b _ z => by rw [max_assoc, max_comm a b, ← max_assoc]) 0
  have hsketch := (h.map NormalizedFlow.exporter).foldl_eq' (f := ExporterSketch.observe hash)
    (fun a _ b _ s => observe_comm hash s a b) {}
  simp only [summary, total_perm h, totalOf_perm h, h.any_eq, hmax, hsketch]

end Summary

/-- A window nothing has been counted in: a new one, or the one a due tick opens. -/
inductive Opens (start : Nat) : DetectionWindows → Prop
  | new (config : WindowConfig) : Opens start (.new config start)
  | tick {w : DetectionWindows} (wall : Int) (due : w.isDue start = true) :
      Opens start (w.tick start wall).2

theorem Opens.eq (h : Opens start w) :
    w = { DetectionWindows.new w.config start with stats := w.stats } := by
  cases h with
  | new => rfl
  | tick wall due => simp [DetectionWindows.tick, due, DetectionWindows.new]

/-- How many entries the map of a scope type may hold. -/
def capacity (config : WindowConfig) : ScopeType → Nat
  | .host => config.maxHosts
  | .prefix_ => config.maxNetworks
  | .slash24 => config.maxSlash24
  | .hostgroupTotal => config.maxHostgroups

theorem Opens.mapOf (h : Opens start w) (scopeType : ScopeType) :
    mapOf w scopeType = .new (capacity w.config scopeType) := by
  rw [h.eq]
  cases scopeType <;> rfl

theorem run_frame (hashing : Hashing) (w : DetectionWindows) (arrivals : List Arrival) :
    (run hashing w arrivals).windowStart = w.windowStart ∧
      (run hashing w arrivals).config = w.config := by
  induction arrivals generalizing w with
  | nil => exact ⟨rfl, rfl⟩
  | cons a rest ih =>
    obtain ⟨hstart, hconfig⟩ := ih (arrive hashing w a)
    obtain ⟨hstart', hconfig'⟩ :=
      ingest_frame w hashing a.lookup a.flow a.classification a.now
    exact ⟨hstart.trans hstart', hconfig.trans hconfig'⟩

def KeepsAll (hashing : Hashing) (w : DetectionWindows) (arrivals : List Arrival) : Prop :=
  ∀ scopeType, Lossless hashing (mapOf w scopeType) (feeds scopeType arrivals)

theorem flowsAt_feeds (key : ScopeKey) (arrivals : List Arrival) :
    flowsAt key (feeds key.scopeType arrivals) = attributedTo key arrivals := by
  have hsides (a : Arrival) (found : List Side) :
      flowsAt key (found.filterMap fun s => (keyOf a.lookup s key.scopeType).map (·, a)) =
        (found.filter fun s => key ∈ keysOf a.lookup s).map fun _ => a.flow := by
    induction found with
    | nil => rfl
    | cons side rest ih =>
      unfold flowsAt at ih ⊢
      cases hkey : keyOf a.lookup side key.scopeType with
      | none =>
        have hnot : key ∉ keysOf a.lookup side := by simp [mem_keysOf, hkey]
        rw [filterMap_cons_none (by rw [hkey]; rfl), ih,
          filter_cons_of_neg (by simpa using hnot)]
      | some k =>
        rw [filterMap_cons_some (by rw [hkey]; rfl)]
        by_cases heq : k = key
        · have hin : key ∈ keysOf a.lookup side := by rw [mem_keysOf, hkey, heq]
          rw [filter_cons_of_pos (by simpa using heq), map_cons, ih,
            filter_cons_of_pos (by simpa using hin), map_cons]
        · have hnot : key ∉ keysOf a.lookup side := by
            rw [mem_keysOf, hkey]
            exact fun h => heq (Option.some.inj h)
          rw [filter_cons_of_neg (by simpa using heq), ih,
            filter_cons_of_neg (by simpa using hnot)]
  induction arrivals with
  | nil => rfl
  | cons a rest ih =>
    have happend : flowsAt key (feeds key.scopeType (a :: rest)) =
        flowsAt key (feed key.scopeType a) ++ flowsAt key (feeds key.scopeType rest) := by
      simp [flowsAt, feeds]
    rw [happend, ih]
    exact congrArg (· ++ _) (hsides a a.sides)

theorem flowsAt_other (h : key.scopeType ≠ scopeType) (arrivals : List Arrival) :
    flowsAt key (feeds scopeType arrivals) = [] := by
  unfold flowsAt
  rw [map_eq_nil_iff, filter_eq_nil_iff]
  rintro ⟨k, a⟩ hmem heq
  obtain ⟨b, -, hfeed⟩ := List.mem_flatMap.mp hmem
  obtain ⟨side, -, hside⟩ := List.mem_filterMap.mp hfeed
  obtain ⟨k', hkey, hpair⟩ := Option.map_eq_some_iff.mp hside
  cases hpair
  exact h (by rw [← scopeType_of_keyOf hkey, ← (decide_eq_true_eq.mp heq)])

theorem mem_produced :
    key ∈ produced arrivals ↔ attributedTo key arrivals ≠ [] := by
  unfold produced attributedTo
  rw [mem_flatMap, ne_eq, flatMap_eq_nil_iff]
  push Not
  refine exists_congr fun a => and_congr_right fun _ => ?_
  rw [mem_flatMap, ne_eq, map_eq_nil_iff, filter_eq_nil_iff]
  push Not
  simp only [decide_eq_true_eq]

section Emission

variable {w : DetectionWindows}

theorem held_run (hopen : Opens start w) (hkeeps : KeepsAll hashing w arrivals)
    (scopeType : ScopeType) (key : ScopeKey) :
    held (mapOf (run hashing w arrivals) scopeType) key =
      if key.scopeType = scopeType ∧ key ∈ produced arrivals then
        some (summary hashing.hash (attributedTo key arrivals))
      else none := by
  have hnone : held (mapOf w scopeType) key = none := by
    rw [hopen.mapOf]
    simp [held, BoundedMap.new]
  rw [mapOf_run, held_putAll (hkeeps scopeType), hnone, Option.getD_none, foldl_add]
  by_cases htype : key.scopeType = scopeType
  · subst htype
    rw [flowsAt_feeds]
    by_cases hnil : attributedTo key arrivals = []
    · rw [if_pos hnil, if_neg fun h => mem_produced.mp h.2 hnil]
    · rw [if_neg hnil, if_pos ⟨rfl, mem_produced.mpr hnil⟩]
  · rw [flowsAt_other htype, if_pos rfl, if_neg fun h => htype h.1]

theorem keys_nodup (hopen : Opens start w) (hkeeps : KeepsAll hashing w arrivals) (now : Nat)
    (wall : Int) :
    (((run hashing w arrivals).snapshots now wall).map DetectionSnapshot.key).Nodup := by
  have hkeys (m : BoundedMap ScopeKey Accumulator) : (m.toList.map Prod.fst).Nodup := by
    unfold BoundedMap.toList
    rw [map_map]
    exact (toList_pairwise m.entries).map _ fun _ _ hne => hne
  have htype (scopeType : ScopeType) (e : ScopeKey × Accumulator)
      (he : e ∈ (mapOf (run hashing w arrivals) scopeType).toList) :
      e.1.scopeType = scopeType := by
    obtain ⟨⟨key, slot⟩, hmem, rfl⟩ := List.mem_map.mp he
    have hheld : held (mapOf (run hashing w arrivals) scopeType) key = some slot.value := by
      unfold held
      rw [(mem_toList _ _ _).mp hmem]
      rfl
    rw [held_run hopen hkeeps] at hheld
    split at hheld
    · rename_i hin
      exact hin.1
    · cases hheld
  have hfound : (scopeTypes.flatMap fun t =>
      (mapOf (run hashing w arrivals) t).toList.map Prod.fst).Nodup := by
    rw [nodup_flatMap]
    refine ⟨fun t _ => hkeys _, ?_⟩
    have hdistinct : scopeTypes.Pairwise (· ≠ ·) := by decide
    refine hdistinct.imp fun {t t'} hne => ?_
    intro key hkey hkey'
    obtain ⟨e, he, rfl⟩ := List.mem_map.mp hkey
    obtain ⟨e', he', heq⟩ := List.mem_map.mp hkey'
    exact hne (by rw [← htype t e he, ← htype t' e' he', heq])
  unfold DetectionWindows.snapshots
  rw [((perm_insertionSort _ _).map DetectionSnapshot.key).nodup_iff, map_map]
  simpa [scopeTypes, mapOf, Function.comp_def, snapshot] using hfound

theorem snapshots_run (hopen : Opens start w) (hkeeps : KeepsAll hashing w arrivals) (now : Nat)
    (wall : Int) :
    (run hashing w arrivals).snapshots now wall =
      ((produced arrivals).toFinset.sort (· ≤ ·)).map fun key =>
        snapshot w.config.window (now - start) now wall key
          (summary hashing.hash (attributedTo key arrivals)) := by
  set emitted := (run hashing w arrivals).snapshots now wall with hemitted
  obtain ⟨hstart, hconfig⟩ := run_frame hashing w arrivals
  have hbegin : w.windowStart = start := by
    rw [hopen.eq]
    rfl
  have hmem (s : DetectionSnapshot) : s ∈ emitted ↔ s.key ∈ produced arrivals ∧
      s = snapshot w.config.window (now - start) now wall s.key
        (summary hashing.hash (attributedTo s.key arrivals)) := by
    rw [hemitted, mem_snapshots_iff, hstart, hconfig, hbegin]
    constructor
    · rintro ⟨scopeType, key, slot, hslot, rfl⟩
      have hheld : held (mapOf (run hashing w arrivals) scopeType) key = some slot.value := by
        rw [held, hslot]
        rfl
      rw [held_run hopen hkeeps] at hheld
      split at hheld
      · rename_i hin
        rw [← Option.some.inj hheld]
        exact ⟨hin.2, rfl⟩
      · cases hheld
    · rintro ⟨hin, heq⟩
      have hheld := held_run hopen hkeeps s.key.scopeType s.key
      rw [if_pos ⟨rfl, hin⟩] at hheld
      obtain ⟨slot, hslot, hvalue⟩ := Option.map_eq_some_iff.mp hheld
      exact ⟨s.key.scopeType, s.key, slot, hslot, by rw [hvalue]; exact heq⟩
  have hkeys : (emitted.map DetectionSnapshot.key).toFinset = (produced arrivals).toFinset := by
    ext key
    rw [mem_toFinset, mem_toFinset, mem_map]
    constructor
    · rintro ⟨s, hs, rfl⟩
      exact ((hmem s).mp hs).1
    · intro hin
      exact ⟨_, (hmem (snapshot w.config.window (now - start) now wall key
        (summary hashing.hash (attributedTo key arrivals)))).mpr ⟨hin, rfl⟩, rfl⟩
  have hsorted : (emitted.map DetectionSnapshot.key).Pairwise (· ≤ ·) := by
    have : Std.Total fun a b : DetectionSnapshot => a.key ≤ b.key :=
      ⟨fun a b => le_total a.key b.key⟩
    have : IsTrans DetectionSnapshot fun a b => a.key ≤ b.key :=
      ⟨fun _ _ _ hab hbc => le_trans hab hbc⟩
    rw [pairwise_map]
    exact pairwise_insertionSort _ _
  rw [← hkeys, (toFinset_sort (· ≤ ·) (keys_nodup hopen hkeeps now wall)).mpr hsorted,
    map_map]
  refine (List.map_id emitted).symm.trans (map_congr_left fun s hs => ?_)
  exact ((hmem s).mp hs).2

theorem KeepsAll.perm (hopen : Opens start w) (h : KeepsAll hashing w arrivals)
    (hperm : arrivals.Perm arrivals') : KeepsAll hashing w arrivals' := by
  intro scopeType
  have hlossless := h scopeType
  rw [hopen.mapOf] at hlossless ⊢
  exact hlossless.perm (hperm.flatMap_right _)

theorem attributedTo_perm (hperm : arrivals.Perm arrivals') (key : ScopeKey) :
    (attributedTo key arrivals).Perm (attributedTo key arrivals') :=
  hperm.flatMap_right _

theorem snapshots_perm (hopen : Opens start w) (hkeeps : KeepsAll hashing w arrivals)
    (hperm : arrivals.Perm arrivals') (now : Nat) (wall : Int) :
    (run hashing w arrivals').snapshots now wall = (run hashing w arrivals).snapshots now wall := by
  have hproduced : (produced arrivals').toFinset = (produced arrivals).toFinset :=
    toFinset_eq_of_perm _ _ (hperm.symm.flatMap_right _)
  rw [snapshots_run hopen hkeeps, snapshots_run hopen (hkeeps.perm hopen hperm), hproduced]
  refine map_congr_left fun key _ => ?_
  rw [summary_perm hashing.hash (attributedTo_perm hperm key)]

end Emission

def localFlows (arrivals : List Arrival) : Nat := arrivals.countP fun a => !a.sides.isEmpty

def unscoped (arrivals : List Arrival) : Nat := arrivals.countP fun a => a.sides.isEmpty

theorem local_add_unscoped (arrivals : List Arrival) :
    localFlows arrivals + unscoped arrivals = arrivals.length := by
  unfold localFlows unscoped
  have h := length_eq_countP_add_countP (fun a : Arrival => a.sides.isEmpty) (l := arrivals)
  simp only [Bool.not_eq_true] at h
  rw [h, Nat.add_comm]
  congr 1
  refine countP_congr fun a _ => ?_
  simp

theorem count_stats (hashing : Hashing) (lookup : IpAddr → Option Nat) (flow : NormalizedFlow)
    (now : Nat) (w : DetectionWindows) (side : Side) :
    (w.count hashing lookup flow now side).stats.flowsIngested = w.stats.flowsIngested ∧
      (w.count hashing lookup flow now side).stats.flowsUnscoped = w.stats.flowsUnscoped := by
  have hstep (key : ScopeKey) (map : BoundedMap ScopeKey Accumulator) (stats : WindowStats) :
      (accumulate hashing flow now key map stats).2.flowsIngested = stats.flowsIngested ∧
        (accumulate hashing flow now key map stats).2.flowsUnscoped = stats.flowsUnscoped := by
    unfold accumulate
    dsimp only
    split <;> exact ⟨rfl, rfl⟩
  unfold DetectionWindows.count
  dsimp only
  cases lookup side.addr <;> cases side.addr.isIpv4 <;> cases side.hostgroup <;> simp [hstep]

theorem arrive_stats (hashing : Hashing) (w : DetectionWindows) (a : Arrival) :
    (arrive hashing w a).stats.flowsIngested = saturatingAdd w.stats.flowsIngested 1 ∧
      (arrive hashing w a).stats.flowsUnscoped =
        if a.sides.isEmpty then saturatingAdd w.stats.flowsUnscoped 1
        else w.stats.flowsUnscoped := by
  have hfold (found : List Side) (v : DetectionWindows) :
      (found.foldl (DetectionWindows.count hashing a.lookup a.flow a.now) v).stats.flowsIngested =
          v.stats.flowsIngested ∧
        (found.foldl (DetectionWindows.count hashing a.lookup a.flow a.now) v).stats.flowsUnscoped =
          v.stats.flowsUnscoped := by
    induction found generalizing v with
    | nil => exact ⟨rfl, rfl⟩
    | cons side rest ih =>
      obtain ⟨hi, hu⟩ := count_stats hashing a.lookup a.flow a.now v side
      rw [foldl_cons, (ih _).1, (ih _).2]
      exact ⟨hi, hu⟩
  unfold arrive DetectionWindows.ingest Arrival.sides
  dsimp only
  split
  · rename_i hnone
    rw [hnone]
    exact ⟨rfl, rfl⟩
  · rename_i hsome
    have hne : (Window.sides a.flow a.classification).isEmpty = false := by
      rw [isEmpty_eq_false_iff]
      exact hsome
    rw [hne, (hfold _ _).1, (hfold _ _).2]
    exact ⟨rfl, rfl⟩

/-- The flows a window has been given since it was made, ticks or not: a tick opens the next
window and leaves the flow counters as they are. -/
inductive History (hashing : Hashing) : List Arrival → DetectionWindows → Prop
  | new (config : WindowConfig) (now : Nat) : History hashing [] (.new config now)
  | arrival {all : List Arrival} {w : DetectionWindows} (before : History hashing all w)
      (a : Arrival) : History hashing (all ++ [a]) (arrive hashing w a)
  | tick {all : List Arrival} {w : DetectionWindows} (before : History hashing all w) (now : Nat)
      (wall : Int) : History hashing all (w.tick now wall).2

theorem tick_flows (w : DetectionWindows) (now : Nat) (wall : Int) :
    (w.tick now wall).2.stats.flowsIngested = w.stats.flowsIngested ∧
      (w.tick now wall).2.stats.flowsUnscoped = w.stats.flowsUnscoped := by
  unfold DetectionWindows.tick
  split <;> exact ⟨rfl, rfl⟩

theorem History.stats (h : History hashing all w) :
    w.stats.flowsIngested = min all.length u64Max ∧
      w.stats.flowsUnscoped = min (unscoped all) u64Max := by
  induction h with
  | new => exact ⟨rfl, rfl⟩
  | @arrival all w before a ih =>
    obtain ⟨hi, hu⟩ := arrive_stats hashing w a
    have happend : unscoped (all ++ [a]) = unscoped all + if a.sides.isEmpty then 1 else 0 := by
      rw [unscoped, countP_append, countP_singleton, unscoped]
    rw [hi, hu, ih.1, ih.2, length_append, length_singleton, happend]
    unfold saturatingAdd
    -- the limit is a large literal that the arithmetic has no use for
    generalize u64Max = limit
    refine ⟨by omega, ?_⟩
    split <;> omega
  | @tick all w before now wall ih =>
    rw [(tick_flows w now wall).1, (tick_flows w now wall).2]
    exact ih

theorem history_run (h : History hashing all w) (arrivals : List Arrival) :
    History hashing (all ++ arrivals) (run hashing w arrivals) := by
  induction arrivals generalizing all w with
  | nil =>
    rw [append_nil]
    exact h
  | cons a rest ih =>
    have hnext := ih (h.arrival a)
    rwa [append_assoc] at hnext

/-- The accounting of one window, from the tick that opens it to the one that closes it. -/
theorem window_accounts {hashing : Hashing} {earlier arrivals : List Arrival}
    {w : DetectionWindows} {start now : Nat} (hbefore : History hashing earlier w)
    (hopen : Opens start w) (hdue : (run hashing w arrivals).isDue now = true)
    (hkeeps : KeepsAll hashing w arrivals) (wall : Int) :
    ((run hashing w arrivals).tick now wall).1 =
      ((produced arrivals).toFinset.sort (· ≤ ·)).map (fun key =>
        snapshot w.config.window (now - start) now wall key
          (summary hashing.hash ((arrivals.filter (attributed key)).map Arrival.flow))) ∧
    (∀ arrivals', arrivals.Perm arrivals' →
      ((run hashing w arrivals').tick now wall).1 = ((run hashing w arrivals).tick now wall).1) ∧
    (run hashing w arrivals).stats.flowsIngested =
      min (earlier ++ arrivals).length u64Max ∧
    (run hashing w arrivals).stats.flowsUnscoped =
      min (unscoped (earlier ++ arrivals)) u64Max ∧
    ((earlier ++ arrivals).length ≤ u64Max →
      (run hashing w arrivals).stats.flowsIngested - (run hashing w arrivals).stats.flowsUnscoped =
        localFlows (earlier ++ arrivals)) := by
  obtain ⟨hingested, hunscoped⟩ := (history_run hbefore arrivals).stats
  refine ⟨?_, ?_, hingested, hunscoped, ?_⟩
  · rw [(tick_due wall hdue).1, snapshots_run hopen hkeeps]
    simp only [attributedTo_eq]
  · intro arrivals' hperm
    have hdue' : (run hashing w arrivals').isDue now = true := by
      unfold DetectionWindows.isDue at hdue ⊢
      rw [(run_frame hashing w arrivals').1, (run_frame hashing w arrivals').2]
      rwa [(run_frame hashing w arrivals).1, (run_frame hashing w arrivals).2] at hdue
    rw [(tick_due wall hdue').1, (tick_due wall hdue).1]
    exact snapshots_perm hopen hkeeps hperm now wall
  · intro hfits
    have hsplit := local_add_unscoped (earlier ++ arrivals)
    rw [hingested, hunscoped, Nat.min_eq_left hfits, Nat.min_eq_left (by omega)]
    omega

def sampleFlow : NormalizedFlow where
  sourceAddr := .v4 0xC6336401#32
  destinationAddr := .v4 0xCB007107#32
  protocol := some .udp
  tcpFlags := none
  bytes := 1500
  packets := 1
  samplingRate := ⟨1, Nat.one_pos⟩
  samplingSource := .unsampled
  exporter := .v4 0xC0000201#32
  fragmented := false
  dropped := false
  forwardingStatusKnown := false

/-- The sample flow, classified with a direction, at the start of the clock. -/
def sampleArrival (direction : Direction) : Arrival where
  lookup := fun _ => none
  flow := sampleFlow
  classification :=
    { direction := direction
      sourceMatchedTenant := none
      destinationMatchedTenant := none
      sourceMatchedHostgroup := none
      destinationMatchedHostgroup := none }
  now := 0

def sampleHashing : Hashing where
  hash := fun _ => 0
  visit := fun _ _ => 0

theorem feeds_foreign (n : Nat) (arrivals : List Arrival) (scopeType : ScopeType) :
    feeds scopeType (List.replicate n (sampleArrival .other) ++ arrivals) =
      feeds scopeType arrivals := by
  unfold feeds
  rw [flatMap_append]
  have hnil : (List.replicate n (sampleArrival .other)).flatMap (feed scopeType) = [] := by
    rw [flatMap_eq_nil_iff]
    intro a ha
    rw [eq_of_mem_replicate ha]
    rfl
  rw [hnil, nil_append]

theorem keepsAll_foreign (n : Nat) (arrivals : List Arrival)
    (h : ∀ scopeType, (feeds scopeType arrivals).length ≤ 1000) :
    KeepsAll sampleHashing (.new {} 0)
      (List.replicate n (sampleArrival .other) ++ arrivals) := by
  intro scopeType
  rw [feeds_foreign]
  have hroom : 1000 ≤ capacity {} scopeType := by cases scopeType <;> decide
  have hopen : Opens 0 (.new {} 0) := .new {}
  rw [hopen.mapOf]
  exact lossless_of_length_le ((h scopeType).trans hroom)

theorem keepsAll_sample (n : Nat) (direction : Direction) :
    KeepsAll sampleHashing (.new {} 0)
      (List.replicate n (sampleArrival .other) ++ [sampleArrival direction]) := by
  refine keepsAll_foreign n _ fun scopeType => ?_
  cases direction <;> cases scopeType <;> decide

/-- One internal flow of the first window: a host and a /24 at either end. -/
theorem window_accounts_internal :
    ((run sampleHashing (.new {} 0) ([sampleArrival .other] ++ [sampleArrival .internal])).tick
        (fromSecs 5) 0).1 =
      ((produced ([sampleArrival .other] ++ [sampleArrival .internal])).toFinset.sort (· ≤ ·)).map
        (fun key => snapshot (fromSecs 5) (fromSecs 5 - 0) (fromSecs 5) 0 key
          (summary sampleHashing.hash
            ((([sampleArrival .other] ++ [sampleArrival .internal]).filter
              (attributed key)).map Arrival.flow))) ∧
    (produced ([sampleArrival .other] ++ [sampleArrival .internal])).toFinset.card = 4 :=
  ⟨(window_accounts (.new {} 0) (.new {})
    (decide_eq_true (by rw [(run_frame ..).1, (run_frame ..).2]; decide))
    (keepsAll_sample 1 .internal) 0).1, by decide⟩

/-- The number of flows fits no `u64` any more: the counters stand still, and one local flow
among them is not in their difference. -/
theorem flowsIngested_stands_still :
    KeepsAll sampleHashing (.new {} 0)
      (List.replicate u64Max (sampleArrival .other) ++ [sampleArrival .incoming]) ∧
    localFlows (List.replicate u64Max (sampleArrival .other) ++ [sampleArrival .incoming]) = 1 ∧
    (run sampleHashing (.new {} 0) (List.replicate u64Max (sampleArrival .other) ++
        [sampleArrival .incoming])).stats.flowsIngested -
      (run sampleHashing (.new {} 0) (List.replicate u64Max (sampleArrival .other) ++
        [sampleArrival .incoming])).stats.flowsUnscoped = 0 := by
  have hunscoped : unscoped (List.replicate u64Max (sampleArrival .other) ++
      [sampleArrival .incoming]) = u64Max := by
    unfold unscoped
    rw [countP_append, countP_replicate, if_pos (by decide)]
    rfl
  have hsplit := local_add_unscoped
    (List.replicate u64Max (sampleArrival .other) ++ [sampleArrival .incoming])
  have hmade : History sampleHashing [] (.new {} 0) := .new {} 0
  obtain ⟨hi, hu⟩ := (history_run hmade
    (List.replicate u64Max (sampleArrival .other) ++ [sampleArrival .incoming])).stats
  rw [hunscoped, length_append, length_replicate] at hsplit
  refine ⟨keepsAll_sample _ _, ?_, ?_⟩
  · rw [length_singleton] at hsplit
    exact Nat.add_right_cancel (hsplit.trans (Nat.add_comm _ _))
  · rw [hi, hu, nil_append, hunscoped, Nat.min_self]
    exact Nat.sub_eq_zero_of_le (Nat.min_le_right _ _)

end Tidegard.Detector.Proofs.Accounting
