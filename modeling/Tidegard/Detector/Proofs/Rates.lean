import Tidegard.Detector.Evaluate
import Tidegard.Detector.Window

namespace Tidegard.Detector.Proofs.Rates

open Tables Common Classifier Aggregator Input Window

/-- What a window's rate of a metric is computed from. -/
def level (c : TrafficCounters) : MetricKind → Nat
  | .bps => saturatingMul c.bytes 8
  | .pps => c.packets
  | .fps => c.flows
  | .tcpBps => saturatingMul c.tcpBytes 8
  | .tcpPps => c.tcpPackets
  | .udpBps => saturatingMul c.udpBytes 8
  | .udpPps => c.udpPackets
  | .icmpBps => saturatingMul c.icmpBytes 8
  | .icmpPps => c.icmpPackets
  | .tcpSynPps => c.tcpSynPackets
  | .fragmentedPps => c.fragmentedPackets
  | .droppedPps => c.droppedPackets
  | .tcpSynBps | .fragmentedBps | .droppedBps => 0

/-- The metrics a window has a counter for. -/
def measured : MetricKind → Bool
  | .tcpSynBps | .fragmentedBps | .droppedBps => false
  | _ => true

theorem level_of_not_measured (h : measured metric = false)
    (c : TrafficCounters) : level c metric = 0 := by
  cases metric <;> first | rfl | cases h

theorem perSecond_zero (elapsed : Nat) : perSecond 0 elapsed = 0 := by
  unfold perSecond
  split <;> simp

theorem rates_get (window elapsed now : Nat) (wall : Int) (key : ScopeKey) (a : Accumulator)
    (metric : MetricKind) :
    (snapshot window elapsed now wall key a).rates.get metric =
      perSecond (level a.counters metric) elapsed := by
  cases metric <;>
    simp [snapshot, MetricRates.get, level, bitsPerSecond, perSecond_zero]

theorem perSecond_mono (hv : value ≤ value') (hpos : 0 < elapsed) (he : elapsed ≤ elapsed') :
    perSecond value elapsed' ≤ perSecond value' elapsed := by
  unfold perSecond
  rw [if_neg (by omega), if_neg (by omega)]
  refine min_le_min_right _ ?_
  exact Nat.div_le_div (Nat.mul_le_mul_right _ hv) he (by omega)

theorem saturatingAdd_le (a b : Nat) : saturatingAdd a b ≤ u64Max := Nat.min_le_right _ _

theorem saturatingMul_le (a b : Nat) : saturatingMul a b ≤ u64Max := Nat.min_le_right _ _

/-- Every counter is a `u64`. -/
def Bounded (c : TrafficCounters) : Prop := ∀ metric, level c metric ≤ u64Max

theorem bounded_empty : Bounded {} := by
  intro metric
  cases metric <;> simp [level, saturatingMul]

theorem bounded_add (h : Bounded c) (flow : NormalizedFlow) : Bounded (c.add flow) := by
  intro metric
  have hm := h metric
  cases metric <;>
    simp only [level, TrafficCounters.add, TrafficCounters.addProtocol] at hm ⊢ <;>
    (repeat' split) <;>
    first
    | exact saturatingMul_le _ _
    | exact saturatingAdd_le _ _
    | exact hm

/-- The keys one side of a flow is counted under. -/
inductive Produces (lookup : IpAddr → Option Nat) (side : Side) : ScopeKey → Prop
  | host : Produces lookup side (side.key .host (.host side.addr))
  | network {len : Nat} (found : lookup side.addr = some len) :
      Produces lookup side (side.key .prefix_ (.network (mask side.addr len) len))
  | slash24 (v4 : side.addr.isIpv4 = true) :
      Produces lookup side (side.key .slash24 (.network (mask side.addr 24) 24))
  | hostgroup {name : String} (member : side.hostgroup = some name) :
      Produces lookup side (side.key .hostgroupTotal (.hostgroup name))

/-- What holds of every entry of a map. -/
def Every (P : ScopeKey → Accumulator → Prop) (m : BoundedMap ScopeKey Accumulator) : Prop :=
  ∀ (key : ScopeKey) slot, m.entries[key]? = some slot → P key slot.value

/-- What holds of every entry of the window, map by map. -/
structure Throughout (Q : ScopeType → ScopeKey → Accumulator → Prop) (w : DetectionWindows) :
    Prop where
  hosts : Every (Q .host) w.hosts
  networks : Every (Q .prefix_) w.networks
  slash24 : Every (Q .slash24) w.slash24
  hostgroups : Every (Q .hostgroupTotal) w.hostgroups

section Counting

variable {m : BoundedMap ScopeKey Accumulator}
variable {key : ScopeKey}

theorem every_new (n : Nat) : Every P (.new n) := by
  intro key slot h
  simp [BoundedMap.new] at h

theorem every_insert
    (h : Every P ⟨n, entries⟩) (ha : P key a) : Every P ⟨n, entries.insert key ⟨a, now⟩⟩ := by
  intro k slot hk
  exact forall_insert h ha hk

theorem every_upsert (h : Every P m) (rank : ScopeKey → Nat) (now : Nat) (hnew : P key (update {}))
    (hold : ∀ a, P key a → P key (update a)) : Every P (m.upsert rank key now {} update).2 := by
  unfold BoundedMap.upsert
  split
  · exact h
  · split
    · rename_i slot hslot
      exact every_insert h (hold _ (h key slot hslot))
    · split
      · split
        · exact h
        · refine every_insert (fun k slot hk => ?_) hnew
          exact h k slot (get_of_erase hk)
      · exact every_insert h hnew

theorem upsert_self (hroom : m.maxEntries ≠ 0) (rank : ScopeKey → Nat) (key : ScopeKey) (now : Nat)
    (update : Accumulator → Accumulator) :
    (m.upsert rank key now {} update).2.entries[key]? =
      some ⟨update ((m.entries[key]?.map Slot.value).getD {}), now⟩ := by
  unfold BoundedMap.upsert
  rw [if_neg hroom]
  split
  · rename_i slot hslot
    simp [hslot]
  · rename_i hnone
    split
    · rename_i hfull
      split
      · rename_i hvictim
        have hempty : m.entries.toList = [] := by
          unfold BoundedMap.leastRecentlyUpdatedKey at hvictim
          split at hvictim
          · assumption
          · cases hvictim
        have hsize : m.entries.size = 0 := by
          rw [← Std.ExtTreeMap.length_toList, hempty]
          rfl
        omega
      · simp [hnone]
    · simp [hnone]

theorem upsert_maxEntries (rank : ScopeKey → Nat) (key : ScopeKey) (now : Nat)
    (update : Accumulator → Accumulator) :
    (m.upsert rank key now {} update).2.maxEntries = m.maxEntries := by
  unfold BoundedMap.upsert
  repeat' split
  all_goals rfl

variable {now : Nat}

theorem throughout_new (config : WindowConfig) (now : Nat) : Throughout Q (.new config now) :=
  ⟨every_new _, every_new _, every_new _, every_new _⟩

theorem throughout_count (h : Throughout Q w)
    (hnew : ∀ key, Produces lookup side key → Q key.scopeType key (Accumulator.add hashing.hash flow {}))
    (hold : ∀ key, Produces lookup side key → ∀ a, Q key.scopeType key a →
      Q key.scopeType key (Accumulator.add hashing.hash flow a)) :
    Throughout Q (w.count hashing lookup flow now side) := by
  constructor
  · exact every_upsert h.hosts _ _ (hnew _ .host) (hold _ .host)
  · simp only [DetectionWindows.count]
    cases hl : lookup side.addr with
    | none => exact h.networks
    | some len =>
      exact every_upsert h.networks _ _ (hnew _ (.network hl)) (hold _ (.network hl))
  · simp only [DetectionWindows.count]
    split
    · rename_i hv4
      exact every_upsert h.slash24 _ _ (hnew _ (.slash24 hv4)) (hold _ (.slash24 hv4))
    · exact h.slash24
  · simp only [DetectionWindows.count]
    cases hg : side.hostgroup with
    | none => exact h.hostgroups
    | some name =>
      exact every_upsert h.hostgroups _ _ (hnew _ (.hostgroup hg)) (hold _ (.hostgroup hg))

theorem throughout_ingest (h : Throughout Q w) (classification : ClassificationResult)
    (hnew : ∀ side ∈ sides flow classification, ∀ key, Produces lookup side key →
      Q key.scopeType key (Accumulator.add hashing.hash flow {}))
    (hold : ∀ side ∈ sides flow classification, ∀ key, Produces lookup side key → ∀ a, Q key.scopeType key a →
      Q key.scopeType key (Accumulator.add hashing.hash flow a)) :
    Throughout Q (w.ingest hashing lookup flow classification now) := by
  have hfold (found : List Side) (hfound : ∀ side ∈ found, side ∈ sides flow classification)
      (v : DetectionWindows) (hv : Throughout Q v) :
      Throughout Q (found.foldl (DetectionWindows.count hashing lookup flow now) v) := by
    induction found generalizing v with
    | nil => exact hv
    | cons side rest ih =>
      have hside := hfound side (by simp)
      exact ih (fun s hs => hfound s (by simp [hs])) _
        (throughout_count hv (hnew side hside) (hold side hside))
  unfold DetectionWindows.ingest
  dsimp only
  split
  · exact ⟨h.hosts, h.networks, h.slash24, h.hostgroups⟩
  · rename_i heq
    exact hfold _ (fun side hside => hside) _ ⟨h.hosts, h.networks, h.slash24, h.hostgroups⟩

/-- The map a scope type is counted in. -/
def mapOf (w : DetectionWindows) : ScopeType → BoundedMap ScopeKey Accumulator
  | .host => w.hosts
  | .prefix_ => w.networks
  | .slash24 => w.slash24
  | .hostgroupTotal => w.hostgroups

theorem count_mapOf (h : Produces lookup side key) (w : DetectionWindows) (hashing : Hashing)
    (flow : NormalizedFlow) (now : Nat) :
    mapOf (w.count hashing lookup flow now side) key.scopeType =
      ((mapOf w key.scopeType).upsert (hashing.visit key) key now {}
        (Accumulator.add hashing.hash flow)).2 := by
  cases h with
  | host => rfl
  | network found => simp [mapOf, DetectionWindows.count, accumulate, Side.key, found]
  | slash24 v4 => simp [mapOf, DetectionWindows.count, accumulate, Side.key, v4]
  | hostgroup member => simp [mapOf, DetectionWindows.count, accumulate, Side.key, member]

end Counting

theorem mem_snapshots_iff :
    s ∈ w.snapshots now wall ↔ ∃ scopeType key slot,
      (mapOf w scopeType).entries[key]? = some slot ∧
        s = snapshot w.config.window (now - w.windowStart) now wall key slot.value := by
  have hmap (m : BoundedMap ScopeKey Accumulator) (key : ScopeKey) (a : Accumulator) :
      (key, a) ∈ m.toList ↔ ∃ slot, m.entries[key]? = some slot ∧ slot.value = a := by
    simp only [BoundedMap.toList, List.mem_map, Prod.mk.injEq, Prod.exists, mem_toList]
    constructor
    · rintro ⟨k, slot, hk, rfl, rfl⟩
      exact ⟨slot, hk, rfl⟩
    · rintro ⟨slot, hk, rfl⟩
      exact ⟨key, slot, hk, rfl, rfl⟩
  unfold DetectionWindows.snapshots
  rw [List.mem_insertionSort, List.mem_map]
  constructor
  · rintro ⟨⟨key, a⟩, hmem, rfl⟩
    obtain ⟨m, hm, hin⟩ := List.mem_flatMap.mp hmem
    obtain ⟨slot, hslot, rfl⟩ := (hmap m key a).mp hin
    simp only [List.mem_cons, List.not_mem_nil, or_false] at hm
    rcases hm with rfl | rfl | rfl | rfl
    · exact ⟨.host, key, slot, hslot, rfl⟩
    · exact ⟨.prefix_, key, slot, hslot, rfl⟩
    · exact ⟨.slash24, key, slot, hslot, rfl⟩
    · exact ⟨.hostgroupTotal, key, slot, hslot, rfl⟩
  · rintro ⟨scopeType, key, slot, hslot, rfl⟩
    refine ⟨(key, slot.value), List.mem_flatMap.mpr ⟨mapOf w scopeType, ?_,
      (hmap _ _ _).mpr ⟨slot, hslot, rfl⟩⟩, rfl⟩
    cases scopeType <;> simp [mapOf]

theorem Throughout.mapOf (h : Throughout Q w)
    (scopeType : ScopeType) : Every (Q scopeType) (mapOf w scopeType) := by
  cases scopeType
  · exact h.hosts
  · exact h.networks
  · exact h.slash24
  · exact h.hostgroups

section Exactness

def u128Max : Nat := 2 ^ 128 - 1

/-- `per_second` step by step, with the saturating product the source takes in `u128`. -/
def perSecondWide (value elapsed : Nat) : Nat :=
  if elapsed = 0 then 0 else min (min (value * 1000000000) u128Max / elapsed) u64Max

theorem scaled_fits (h : value ≤ u64Max) : value * 1000000000 ≤ u128Max := by
  unfold u64Max at h
  unfold u128Max
  omega

theorem perSecondWide_eq (h : value ≤ u64Max) (elapsed : Nat) :
    perSecondWide value elapsed = perSecond value elapsed := by
  unfold perSecondWide perSecond
  rw [min_eq_left (scaled_fits h)]

/-- A saturated product over more than a second is below the largest rate. -/
theorem saturated_quotient_lt (h : 1000000000 < n) : u64Max * 1000000000 / n < u64Max := by
  rw [Nat.div_lt_iff_lt_mul (by omega)]
  exact Nat.mul_lt_mul_of_pos_left h (by decide)

/-- Adding to the dividend leaves the quotient alone while the remainder has room for it. -/
theorem div_add_eq_iff (hn : 0 < n) : a / n = (a + b) / n ↔ a % n + b < n := by
  have hsplit : (a + b) / n = a / n + (a % n + b) / n := by
    conv_lhs => rw [← Nat.div_add_mod a n, Nat.add_assoc, Nat.mul_add_div hn]
  rw [hsplit, ← Nat.div_eq_zero_iff_lt hn]
  omega

theorem perSecond_pos (hn : 0 < n) : perSecond value n = min u64Max (value * 1000000000 / n) := by
  unfold perSecond
  rw [if_neg (by omega), min_comm]

/-- The early saturation of the product with eight, past the range of a `u64`. -/
theorem saturated_bits_iff (hbig : u64Max < bytes * 8) (hlong : 1000000000 < n) :
    bitsPerSecond bytes n = min u64Max (bytes * 8 * 1000000000 / n) ↔
      u64Max * 1000000000 % n + (bytes * 8 - u64Max) * 1000000000 < n := by
  have hsplit : bytes * 8 * 1000000000 =
      u64Max * 1000000000 + (bytes * 8 - u64Max) * 1000000000 := by
    rw [← Nat.add_mul, Nat.add_sub_cancel' hbig.le]
  have hlt := saturated_quotient_lt hlong
  have hsat : bitsPerSecond bytes n = u64Max * 1000000000 / n := by
    unfold bitsPerSecond saturatingMul
    rw [min_eq_right hbig.le, perSecond_pos (by omega), min_eq_right hlt.le]
  rw [hsat, ← div_add_eq_iff (by omega : 0 < n), hsplit]
  omega

/-- When the two rates of a window are the exact saturating quotients. The packet rate always is,
and its product stays inside the `u128`; the bit rate is when the eightfold counter fits a `u64`,
when the window is at most a second, or when the excess is lost in the rounding. -/
theorem bitsPerSecond_exact_iff {bytes value n : Nat} (hvalue : value ≤ u64Max) (hn : 0 < n) :
    (bitsPerSecond bytes n = min u64Max (bytes * 8 * 1000000000 / n) ↔
      bytes * 8 ≤ u64Max ∨ n ≤ 1000000000 ∨
        u64Max * 1000000000 % n + (bytes * 8 - u64Max) * 1000000000 < n) ∧
    perSecondWide value n = min u64Max (value * 1000000000 / n) ∧
    value * 1000000000 ≤ u128Max := by
  refine ⟨?_, ?_, scaled_fits hvalue⟩
  · by_cases hfits : bytes * 8 ≤ u64Max
    · simp [hfits, bitsPerSecond, saturatingMul, perSecond_pos hn]
    · by_cases hshort : n ≤ 1000000000
      · -- both sides have reached the largest `u64`
        have hfull {v : Nat} (hv : u64Max ≤ v) : u64Max ≤ v * 1000000000 / n := by
          rw [Nat.le_div_iff_mul_le hn]
          exact Nat.mul_le_mul hv hshort
        have hbig : u64Max ≤ bytes * 8 := by omega
        simp [hshort, bitsPerSecond, saturatingMul, perSecond_pos hn, min_eq_right hbig,
          min_eq_left (hfull hbig), min_eq_left (hfull le_rfl)]
      · simp only [hfits, hshort, false_or]
        exact saturated_bits_iff (by omega) (by omega)
  · rw [perSecondWide_eq hvalue, perSecond_pos hn]

theorem bitsPerSecond_exact_iff_sample :
    (bitsPerSecond 1000 5000000000 = min u64Max (1000 * 8 * 1000000000 / 5000000000) ↔
      1000 * 8 ≤ u64Max ∨ 5000000000 ≤ 1000000000 ∨
        u64Max * 1000000000 % 5000000000 + (1000 * 8 - u64Max) * 1000000000 < 5000000000) ∧
    perSecondWide 7 5000000000 = min u64Max (7 * 1000000000 / 5000000000) ∧
    7 * 1000000000 ≤ u128Max :=
  bitsPerSecond_exact_iff (by decide) (by decide)

/-- A counter of `2 ^ 62` bytes over five seconds reads half of its true rate. -/
theorem bitsPerSecond_saturated_early :
    bitsPerSecond (2 ^ 62) (fromSecs 5) = 3689348814741910323 ∧
      min u64Max (2 ^ 62 * 8 * 1000000000 / fromSecs 5) = 7378697629483820646 := by
  decide

end Exactness

end Tidegard.Detector.Proofs.Rates
