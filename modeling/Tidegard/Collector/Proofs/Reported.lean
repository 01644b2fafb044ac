import Tidegard.Collector.Export

namespace Tidegard.Collector.Proofs.Reported

open List Common Tables Classifier Tidegard.Aggregator Aggregator.Ingest Export

def lookup {κ : Type} [LinearOrder κ] (map : BoundedMap κ TrafficCounters) (key : κ) :
    TrafficCounters :=
  match map.entries[key]? with
  | some slot => slot.value
  | none => {}

/-- What the aggregator has counted under an entry; nothing, where it keeps no entry. -/
def counters (a : Aggregator) : TrafficKey → TrafficCounters
  | .totalIpv4 => a.totalIpv4Counters
  | .totalIpv6 => a.totalIpv6Counters
  | .ipv4Host address => lookup a.ipv4Hosts address
  | .ipv6Host address => lookup a.ipv6Hosts address
  | .ipv4Slash24 address => lookup a.ipv4Slash24 address
  | .ipv4Network address length => lookup a.ipv4Networks (toLex (address, length))
  | .ipv6Network address length => lookup a.ipv6Networks (toLex (address, length))
  | .hostgroup name => lookup a.hostgroups name
  | .asn number => lookup a.asns number
  | .exporter address => lookup a.exporters address

/-- The entry was counted and no other was dropped for it. -/
def Kept (outcome : UpsertOutcome) : Prop :=
  outcome = .inserted ∨ outcome = .updated

section Track

variable {rank : TrafficKey → Nat} {flow : NormalizedFlow} {now : Nat}

theorem lookup_trackIn {κ : Type} [LinearOrder κ] {map : BoundedMap κ TrafficCounters}
    {name : κ → TrafficKey} {key : κ} (hkept : Kept (trackIn rank flow now map name key).1)
    (other : κ) : lookup (trackIn rank flow now map name key).2 other =
      if other = key then (lookup map key).add flow else lookup map other := by
  have hinsert : ∀ (entries : Table κ (Slot TrafficCounters)) (value : TrafficCounters),
      lookup { map with entries := entries.insert key ⟨value, now⟩ } other =
        if other = key then value else lookup { map with entries } other := by
    intro entries value
    unfold lookup
    dsimp only
    rw [get_insert]
    by_cases h : other = key
    · subst h
      simp
    · rw [if_neg (Ne.symm h), if_neg h]
  unfold trackIn BoundedMap.upsert at hkept ⊢
  split at hkept
  · rcases hkept with h | h <;> cases h
  · rename_i hroom
    rw [if_neg hroom]
    split at hkept
    · rename_i slot hslot
      have hvalue : lookup map key = slot.value := by
        unfold lookup
        rw [hslot]
      rw [hvalue]
      exact hinsert _ _
    · rename_i hnone
      have hvalue : lookup map key = {} := by
        unfold lookup
        rw [hnone]
      split at hkept
      · split at hkept <;> rcases hkept with h | h <;> cases h
      · rename_i hfull
        rw [hvalue, if_neg hfull]
        exact hinsert _ _

theorem counters_track (hkept : Kept (track rank flow now a key).1) (other : TrafficKey) :
    counters (track rank flow now a key).2 other =
      if other = key then (counters a key).add flow else counters a other := by
  cases key <;> cases other <;>
    simp only [track, counters, reduceCtorEq, if_false, if_true, TrafficKey.ipv4Host.injEq,
      TrafficKey.ipv6Host.injEq, TrafficKey.ipv4Slash24.injEq, TrafficKey.ipv4Network.injEq,
      TrafficKey.ipv6Network.injEq, TrafficKey.hostgroup.injEq, TrafficKey.asn.injEq,
      TrafficKey.exporter.injEq] <;>
    first
    | exact lookup_trackIn hkept _
    | (rw [lookup_trackIn hkept]; simp [Prod.ext_iff])

theorem track_config (a : Aggregator) (key : TrafficKey) :
    (track rank flow now a key).2.config = a.config := by
  cases key <;> rfl

end Track

/-- A counter stops at its largest value. -/
def capped (n : Nat) : Nat := min n u64Max

theorem saturatingAdd_capped (x y : Nat) : saturatingAdd (capped x) y = capped (x + y) := by
  unfold saturatingAdd capped
  omega

theorem measure_add (measure : Measure) (c : TrafficCounters) (flow : NormalizedFlow) :
    measure.ofCounters (c.add flow) =
      saturatingAdd (measure.ofCounters c) (measure.ofFlow flow) := by
  have hprotocol : ∀ c : TrafficCounters,
      measure.ofCounters (c.addProtocol flow) = measure.ofCounters c := by
    intro c
    unfold TrafficCounters.addProtocol
    split <;> cases measure <;> rfl
  cases measure with
  | bytes | packets => exact hprotocol _

section Ingest

variable {rank : TrafficKey → Nat} {flow : NormalizedFlow} {now : Nat}
variable {keys : List TrafficKey} {x : Nat}

def Clean (report : IngestReport) : Prop := report.evictions = 0 ∧ report.rejections = 0

theorem clean_of_noted (h : Clean (report.noted outcome)) : Clean report ∧ Kept outcome := by
  cases outcome with
  | inserted => exact ⟨h, Or.inl rfl⟩
  | updated => exact ⟨h, Or.inr rfl⟩
  | insertedByEviction => exact absurd h.1 (Nat.succ_ne_zero _)
  | rejected => exact absurd h.2 (Nat.succ_ne_zero _)

theorem trackAll_cons (keys : List TrafficKey) (k : TrafficKey) (a : Aggregator)
    (report : IngestReport) : trackAll rank flow now (k :: keys) (a, report) =
      trackAll rank flow now keys
        ((track rank flow now a k).2, report.noted (track rank flow now a k).1) := rfl

theorem clean_of_trackAll (h : Clean (trackAll rank flow now keys (a, report)).2) :
    Clean report := by
  induction keys generalizing a report with
  | nil => exact h
  | cons k keys ih =>
    rw [trackAll_cons] at h
    exact (clean_of_noted (ih h)).1

theorem trackAll_config (keys : List TrafficKey) (a : Aggregator) (report : IngestReport) :
    (trackAll rank flow now keys (a, report)).1.config = a.config := by
  induction keys generalizing a report with
  | nil => rfl
  | cons k keys ih =>
    rw [trackAll_cons, ih]
    exact track_config a k

/-- By induction on the entries: with no eviction, each adds the flow once to its own counter. -/
theorem trackAll_counted (measure : Measure) (key : TrafficKey)
    (hclean : Clean (trackAll rank flow now keys (a, report)).2)
    (hx : measure.ofCounters (counters a key) = capped x) :
    measure.ofCounters (counters (trackAll rank flow now keys (a, report)).1 key) =
      capped (x + keys.count key * measure.ofFlow flow) := by
  induction keys generalizing a report x with
  | nil => simpa [trackAll] using hx
  | cons k keys ih =>
    rw [trackAll_cons] at hclean ⊢
    have hkept := (clean_of_noted (clean_of_trackAll hclean)).2
    have hhere : measure.ofCounters (counters (track rank flow now a k).2 key) =
        capped (x + if k = key then measure.ofFlow flow else 0) := by
      rw [counters_track hkept]
      by_cases hk : key = k
      · rw [if_pos hk, if_pos hk.symm, ← hk, measure_add, hx, saturatingAdd_capped]
      · rw [if_neg hk, if_neg (Ne.symm hk), hx, Nat.add_zero]
    rw [ih hclean hhere]
    congr 1
    by_cases hk : k = key
    · subst hk
      rw [if_pos rfl, count_cons_self]
      ring
    · rw [if_neg hk, count_cons_of_ne hk]
      ring

theorem ingest_counted (measure : Measure) (key : TrafficKey) (a : Aggregator) (flow : AsnFlow)
    (c : ClassificationResult) (hclean : Clean (a.ingest rank flow c now).2)
    (hx : measure.ofCounters (counters a key) = capped x) :
    measure.ofCounters (counters (a.ingest rank flow c now).1 key) =
      capped (x + (ingestKeys a.config flow c).count key *
        measure.ofFlow flow.toNormalizedFlow) :=
  trackAll_counted measure key hclean hx

end Ingest

section Snapshot

variable (measure : Measure) (key : TrafficKey) (start stop now : Int)

theorem reported_append (rows rows' : List TrafficRow) :
    reported measure key start stop (rows ++ rows') =
      reported measure key start stop rows + reported measure key start stop rows' := by
  simp [reported]

theorem reported_cons (row : TrafficRow) (rows : List TrafficRow) :
    reported measure key start stop (row :: rows) =
      (if row.key = key ∧ start ≤ row.timestamp ∧ row.timestamp < stop then
        measure.ofCounters row.counters else 0) + reported measure key start stop rows := by
  unfold reported
  rw [filter_cons]
  by_cases h : row.key = key ∧ start ≤ row.timestamp ∧ row.timestamp < stop
  · simp [h]
  · rw [if_neg h, if_neg (by simpa using h), Nat.zero_add]

variable {κ : Type} [LinearOrder κ] (map : BoundedMap κ TrafficCounters)

theorem rowsOf_eq (name : κ → TrafficKey) : rowsOf name now map =
    map.entries.toList.map fun e => ⟨name e.1, now, e.2.value⟩ := by
  unfold rowsOf BoundedMap.toList
  rw [map_map]
  rfl

theorem reported_rowsOf_other (name : κ → TrafficKey) (h : ∀ k, name k ≠ key) :
    reported measure key start stop (rowsOf name now map) = 0 := by
  unfold reported
  rw [rowsOf_eq, List.filter_eq_nil_iff.mpr]
  · rfl
  · intro row hrow
    obtain ⟨e, -, rfl⟩ := List.mem_map.mp hrow
    simp [h e.1]

theorem reported_rowsOf (name : κ → TrafficKey) (hname : Function.Injective name) (k : κ) :
    reported measure (name k) start stop (rowsOf name now map) =
      if start ≤ now ∧ now < stop then measure.ofCounters (lookup map k) else 0 := by
  unfold reported lookup
  rw [rowsOf_eq, filter_map]
  by_cases h : start ≤ now ∧ now < stop
  · have hcomp : ((fun row : TrafficRow => decide (row.key = name k ∧ start ≤ row.timestamp ∧
        row.timestamp < stop)) ∘ fun e : κ × Slot TrafficCounters =>
          (⟨name e.1, now, e.2.value⟩ : TrafficRow)) = fun e => decide (e.1 = k) := by
      funext e
      simp [hname.eq_iff, h]
    rw [hcomp, toList_filter_key, if_pos h]
    cases map.entries[k]? with
    | none => cases measure <;> rfl
    | some slot => simp
  · rw [if_neg h, List.filter_eq_nil_iff.mpr]
    · rfl
    · intro e _
      simp only [Function.comp_apply, decide_eq_true_eq]
      exact fun hin => h hin.2

end Snapshot

theorem reported_snapshot (measure : Measure) (key : TrafficKey) (start stop now : Int)
    (a : Aggregator) : reported measure key start stop (snapshot a now) =
      if start ≤ now ∧ now < stop then measure.ofCounters (counters a key) else 0 := by
  have hosts := reported_rowsOf measure start stop now a.ipv4Hosts .ipv4Host
    (fun _ _ h => by injection h)
  have hosts6 := reported_rowsOf measure start stop now a.ipv6Hosts .ipv6Host
    (fun _ _ h => by injection h)
  have slash24 := reported_rowsOf measure start stop now a.ipv4Slash24 .ipv4Slash24
    (fun _ _ h => by injection h)
  have networks := reported_rowsOf measure start stop now a.ipv4Networks
    (fun k => .ipv4Network (ofLex k).1 (ofLex k).2)
    (fun _ _ h => by injection h with h h'; exact ofLex_inj.mp (Prod.ext h h'))
  have networks6 := reported_rowsOf measure start stop now a.ipv6Networks
    (fun k => .ipv6Network (ofLex k).1 (ofLex k).2)
    (fun _ _ h => by injection h with h h'; exact ofLex_inj.mp (Prod.ext h h'))
  have hostgroups := reported_rowsOf measure start stop now a.hostgroups .hostgroup
    (fun _ _ h => by injection h)
  have asns := reported_rowsOf measure start stop now a.asns .asn
    (fun _ _ h => by injection h)
  have exporters := reported_rowsOf measure start stop now a.exporters .exporter
    (fun _ _ h => by injection h)
  unfold snapshot
  cases key with
  | ipv4Network address length =>
    have h := networks (toLex (address, length))
    simp only [ofLex_toLex] at h
    simp [reported_cons, reported_append, reported_rowsOf_other, counters, h]
  | ipv6Network address length =>
    have h := networks6 (toLex (address, length))
    simp only [ofLex_toLex] at h
    simp [reported_cons, reported_append, reported_rowsOf_other, counters, h]
  | _ =>
    simp [reported_cons, reported_append, reported_rowsOf_other, counters, hosts, hosts6, slash24,
      hostgroups, asns, exporters]

section Ingested

variable (measure : Measure) (key : TrafficKey) (config : AggregatorConfig)
variable {es : List Event}
variable {flow : AsnFlow} {now : Nat}

/-- What an event counts under the entry. -/
def contribution : Event → Nat
  | .ingest flow classification _ =>
    (ingestKeys config flow classification).count key * measure.ofFlow flow.toNormalizedFlow
  | .snapshot _ => 0

def counted (events : List Event) : Nat := (events.map (contribution measure key config)).sum

def isSnapshotBefore (stop : Int) : Event → Bool
  | .snapshot now => now < stop
  | .ingest .. => false

/-- The events up to the last snapshot before `stop`; none, when there is no such snapshot. -/
def upTo (stop : Int) (events : List Event) : List Event :=
  events.rdropWhile fun e => !isSnapshotBefore stop e

/-- What was counted after the last snapshot before `start` and no later than the last one before
`stop`. -/
def ingested (start stop : Int) (events : List Event) : Nat :=
  counted measure key config ((upTo stop events).drop (upTo start events).length)

def times (events : List Event) : List Int :=
  events.filterMap fun
    | .snapshot now => some now
    | .ingest .. => none

/-- Whenever a snapshot in the range was taken, every earlier snapshot found nothing counted. -/
def Quiet (start stop : Int) (events : List Event) : Prop :=
  ∀ past now rest, events = past ++ .snapshot now :: rest →
    (∃ later ∈ times rest, start ≤ later ∧ later < stop) → counted measure key config past = 0

/-- Every snapshot found nothing counted. -/
def Silent (events : List Event) : Prop :=
  ∀ past now rest, events = past ++ .snapshot now :: rest → counted measure key config past = 0

variable {measure key config} {start stop : Int}

theorem counted_append (a b : List Event) :
    counted measure key config (a ++ b) = counted measure key config a + counted measure key config b := by
  simp [counted]

theorem snoc_split :
    es ++ [x] = past ++ e :: rest ↔
      (rest = [] ∧ past = es ∧ e = x) ∨ ∃ rest', rest = rest' ++ [x] ∧ es = past ++ e :: rest' := by
  constructor
  · intro h
    rcases eq_nil_or_concat' rest with rfl | ⟨rest', y, rfl⟩
    · obtain ⟨rfl, hx⟩ := append_inj' h rfl
      exact Or.inl ⟨rfl, rfl, (List.cons.inj hx).1.symm⟩
    · rw [← cons_append, ← append_assoc] at h
      obtain ⟨rfl, hx⟩ := append_inj' h rfl
      cases hx
      exact Or.inr ⟨rest', rfl, rfl⟩
  · rintro (⟨rfl, rfl, rfl⟩ | ⟨rest', rfl, rfl⟩) <;> simp

theorem silent_snoc_ingest :
    Silent measure key config (es ++ [.ingest flow c now]) ↔ Silent measure key config es := by
  constructor
  · intro h past now' rest hes
    exact h past now' (rest ++ [.ingest flow c now]) (by rw [hes]; simp)
  · intro h past now' rest hes
    rcases snoc_split.mp hes with ⟨-, -, hx⟩ | ⟨rest', rfl, hes'⟩
    · cases hx
    · exact h past now' rest' hes'

theorem silent_snoc_snapshot {now : Int} :
    Silent measure key config (es ++ [.snapshot now]) ↔
      Silent measure key config es ∧ counted measure key config es = 0 := by
  constructor
  · intro h
    refine ⟨fun past now' rest hes => ?_, h es now [] rfl⟩
    exact h past now' (rest ++ [.snapshot now]) (by rw [hes]; simp)
  · rintro ⟨h, hzero⟩ past now' rest hes
    rcases snoc_split.mp hes with ⟨-, rfl, -⟩ | ⟨rest', rfl, hes'⟩
    · exact hzero
    · exact h past now' rest' hes'

theorem times_snoc_ingest : times (es ++ [.ingest flow c now]) = times es := by simp [times]

theorem times_snoc_snapshot {now : Int} :
    times (es ++ [.snapshot now]) = times es ++ [now] := by simp [times]

theorem quiet_snoc_ingest :
    Quiet measure key config start stop (es ++ [.ingest flow c now]) ↔
      Quiet measure key config start stop es := by
  constructor
  · intro h past now' rest hes hlater
    exact h past now' (rest ++ [.ingest flow c now]) (by rw [hes]; simp) (by rwa [times_snoc_ingest])
  · intro h past now' rest hes hlater
    rcases snoc_split.mp hes with ⟨-, -, hx⟩ | ⟨rest', rfl, hes'⟩
    · cases hx
    · exact h past now' rest' hes' (by rwa [times_snoc_ingest] at hlater)

theorem quiet_snoc_snapshot {now : Int} :
    Quiet measure key config start stop (es ++ [.snapshot now]) ↔
      Quiet measure key config start stop es ∧
        (start ≤ now ∧ now < stop → Silent measure key config es) := by
  constructor
  · intro h
    constructor
    · rintro past now' rest hes ⟨later, hlater, hin⟩
      refine h past now' (rest ++ [.snapshot now]) (by rw [hes]; simp) ⟨later, ?_, hin⟩
      rw [times_snoc_snapshot]
      exact mem_append_left _ hlater
    · intro hin past now' rest hes
      refine h past now' (rest ++ [.snapshot now]) (by rw [hes]; simp) ⟨now, ?_, hin⟩
      rw [times_snoc_snapshot]
      simp
  · rintro ⟨h, hsilent⟩ past now' rest hes ⟨later, hlater, hin⟩
    rcases snoc_split.mp hes with ⟨rfl, -, -⟩ | ⟨rest', rfl, hes'⟩
    · simp [times] at hlater
    · rw [times_snoc_snapshot, mem_append, mem_singleton] at hlater
      rcases hlater with hlater | rfl
      · exact h past now' rest' hes' ⟨later, hlater, hin⟩
      · exact hsilent hin past now' rest' hes'

theorem quiet_of_silent (h : Silent measure key config es) :
    Quiet measure key config start stop es := fun past now rest hes _ => h past now rest hes

theorem upTo_snoc_ingest (t : Int) (es : List Event) (flow : AsnFlow) (c : ClassificationResult)
    (now : Nat) : upTo t (es ++ [.ingest flow c now]) = upTo t es := by
  unfold upTo
  rw [rdropWhile_concat_pos]
  rfl

theorem upTo_snoc_snapshot (t : Int) (es : List Event) (now : Int) :
    upTo t (es ++ [.snapshot now]) = if now < t then es ++ [.snapshot now] else upTo t es := by
  unfold upTo
  split
  · rename_i h
    rw [rdropWhile_concat_neg]
    simpa [isSnapshotBefore] using h
  · rename_i h
    rw [rdropWhile_concat_pos]
    simpa [isSnapshotBefore] using h

theorem counted_snoc_snapshot (es : List Event) (now : Int) :
    counted measure key config (es ++ [.snapshot now]) = counted measure key config es := by
  simp [counted, contribution]

theorem counted_upTo_le (measure : Measure) (key : TrafficKey) (config : AggregatorConfig) (t : Int) (es : List Event) :
    counted measure key config (upTo t es) ≤ counted measure key config es := by
  obtain ⟨rest, hrest⟩ := List.rdropWhile_prefix (p := fun e => !isSnapshotBefore t e) es
  conv_rhs => rw [← hrest]
  rw [counted_append]
  exact Nat.le_add_right _ _

theorem upTo_prefix (hle : start ≤ stop) (es : List Event) : upTo start es <+: upTo stop es := by
  induction es using List.reverseRecOn with
  | nil => exact prefix_refl _
  | append_singleton es x ih =>
    cases x with
    | ingest => rwa [upTo_snoc_ingest, upTo_snoc_ingest]
    | snapshot now =>
      rw [upTo_snoc_snapshot, upTo_snoc_snapshot]
      by_cases hstart : now < start
      · rw [if_pos hstart, if_pos (by omega)]
      · rw [if_neg hstart]
        split
        · exact (List.rdropWhile_prefix _ es).trans (prefix_append _ _)
        · exact ih

theorem ingested_eq (measure : Measure) (key : TrafficKey) (config : AggregatorConfig) (hle : start ≤ stop) (es : List Event) :
    ingested measure key config start stop es + counted measure key config (upTo start es) =
      counted measure key config (upTo stop es) := by
  obtain ⟨rest, hrest⟩ := upTo_prefix hle es
  unfold ingested
  rw [← hrest, drop_left, counted_append, Nat.add_comm]

end Ingested

section Run

variable {rank : TrafficKey → Nat} {config : AggregatorConfig} {measure : Measure}
variable {key : TrafficKey} {start stop : Int}
variable {es : List Event}

/-- No entry was evicted or turned away. -/
def Roomy (rank : TrafficKey → Nat) (config : AggregatorConfig) (events : List Event) : Prop :=
  ∀ st ∈ (machine rank).trace (started config) events, Clean st.output

theorem Roomy.of_snoc {x : Event} (h : Roomy rank config (es ++ [x])) :
    Roomy rank config es ∧
      Clean ((machine rank).step ((machine rank).run (started config) es) x).1 := by
  unfold Roomy at h
  rw [(machine rank).trace_snoc] at h
  exact ⟨fun st hst => h st (mem_append_left _ hst),
    h _ (mem_append_right _ mem_cons_self)⟩

theorem counters_new (config : AggregatorConfig) (key : TrafficKey) :
    counters (Aggregator.new config) key = {} := by
  cases key <;> rfl

theorem run_counted (hroomy : Roomy rank config es) :
    ((machine rank).run (started config) es).aggregator.config = config ∧
      measure.ofCounters (counters ((machine rank).run (started config) es).aggregator key) =
        capped (counted measure key config es) := by
  induction es using List.reverseRecOn with
  | nil =>
    refine ⟨rfl, ?_⟩
    change measure.ofCounters (counters (Aggregator.new config) key) = _
    rw [counters_new]
    cases measure <;> rfl
  | append_singleton es x ih =>
    obtain ⟨hbefore, hclean⟩ := hroomy.of_snoc
    obtain ⟨hconfig, hcounted⟩ := ih hbefore
    rw [(machine rank).run_snoc, counted_append]
    cases x with
    | snapshot => exact ⟨hconfig, hcounted.trans (by simp [counted, contribution])⟩
    | ingest flow c now =>
      let a := ((machine rank).run (started config) es).aggregator
      have hsame : (a.ingest rank flow c now).1.config = a.config := trackAll_config _ _ _
      refine ⟨hsame.trans hconfig, ?_⟩
      have h := ingest_counted measure key a flow c hclean hcounted
      rw [hconfig] at h
      exact h.trans (by simp [counted, contribution])

/-- What the queries return after a run. -/
def answered (rank : TrafficKey → Nat) (config : AggregatorConfig) (measure : Measure)
    (key : TrafficKey) (start stop : Int) (events : List Event) : Nat :=
  reported measure key start stop ((machine rank).run (started config) events).rows

theorem answered_snoc_ingest (es : List Event) (flow : AsnFlow) (c : ClassificationResult)
    (now : Nat) : answered rank config measure key start stop (es ++ [.ingest flow c now]) =
      answered rank config measure key start stop es := by
  unfold answered
  rw [(machine rank).run_snoc]
  rfl

theorem answered_snoc_snapshot (hroomy : Roomy rank config es)
    (hfits : counted measure key config es ≤ u64Max) (now : Int) :
    answered rank config measure key start stop (es ++ [.snapshot now]) =
      answered rank config measure key start stop es +
        if start ≤ now ∧ now < stop then counted measure key config es else 0 := by
  unfold answered
  rw [(machine rank).run_snoc]
  change reported measure key start stop (_ ++ snapshot _ now) = _
  rw [reported_append, reported_snapshot, (run_counted hroomy).2, capped, min_eq_left hfits]

theorem silent_iff (measure : Measure) (key : TrafficKey) (start : Int)
    (hroomy : Roomy rank config es) (hfits : counted measure key config es ≤ u64Max)
    (htimes : ∀ t ∈ times es, t < stop) :
    answered rank config measure key start stop es = 0 ∧
        counted measure key config (upTo start es) = 0 ↔ Silent measure key config es := by
  induction es using List.reverseRecOn with
  | nil =>
    refine iff_of_true ⟨rfl, rfl⟩ ?_
    intro past now rest h
    simp at h
  | append_singleton es x ih =>
    obtain ⟨hbefore, -⟩ := hroomy.of_snoc
    rw [counted_append] at hfits
    cases x with
    | ingest =>
      rw [answered_snoc_ingest, upTo_snoc_ingest, silent_snoc_ingest]
      rw [times_snoc_ingest] at htimes
      exact ih hbefore (by omega) htimes
    | snapshot now =>
      simp only [times_snoc_snapshot, forall_mem_append, forall_mem_singleton] at htimes
      obtain ⟨hall, hnow⟩ := htimes
      have hin := ih hbefore (by omega) hall
      have hle := counted_upTo_le measure key config start es
      rw [answered_snoc_snapshot hbefore (by omega), upTo_snoc_snapshot, silent_snoc_snapshot,
        ← hin]
      by_cases hstart : now < start
      · rw [if_neg (by omega), if_pos hstart, counted_snoc_snapshot]
        omega
      · rw [if_pos ⟨by omega, hnow⟩, if_neg hstart]
        omega

theorem answered_of_early (measure : Measure) (key : TrafficKey) (stop : Int)
    (hroomy : Roomy rank config es) (hfits : counted measure key config es ≤ u64Max)
    (htimes : ∀ t ∈ times es, t < start) :
    answered rank config measure key start stop es = 0 ∧
      Quiet measure key config start stop es := by
  induction es using List.reverseRecOn with
  | nil =>
    refine ⟨rfl, ?_⟩
    intro past now rest h
    simp at h
  | append_singleton es x ih =>
    obtain ⟨hbefore, -⟩ := hroomy.of_snoc
    rw [counted_append] at hfits
    cases x with
    | ingest =>
      rw [answered_snoc_ingest, quiet_snoc_ingest]
      rw [times_snoc_ingest] at htimes
      exact ih hbefore (by omega) htimes
    | snapshot now =>
      simp only [times_snoc_snapshot, forall_mem_append, forall_mem_singleton] at htimes
      obtain ⟨hall, hnow⟩ := htimes
      have hin := ih hbefore (by omega) hall
      rw [answered_snoc_snapshot hbefore (by omega), quiet_snoc_snapshot, if_neg (by omega)]
      exact ⟨hin.1, hin.2, fun h => absurd h.1 (by omega)⟩

/-- The traffic API reports what was ingested exactly when every snapshot before one in the range
found nothing counted: a row holds the running total. -/
theorem reported_iff (rank : TrafficKey → Nat) (config : AggregatorConfig) (events : List Event)
    (roomy : Roomy rank config events) (increasing : (times events).Pairwise (· < ·))
    (measure : Measure) (key : TrafficKey) (fits : counted measure key config events ≤ u64Max)
    (start stop : Int) (hrange : start ≤ stop) :
    answered rank config measure key start stop events =
        ingested measure key config start stop events ↔
      Quiet measure key config start stop events := by
  have hsum := ingested_eq measure key config hrange events
  suffices h : answered rank config measure key start stop events +
      counted measure key config (upTo start events) =
        counted measure key config (upTo stop events) ↔
        Quiet measure key config start stop events by
    rw [← h]
    omega
  clear hsum
  induction events using List.reverseRecOn with
  | nil =>
    refine iff_of_true rfl ?_
    intro past now rest h
    simp at h
  | append_singleton es x ih =>
    obtain ⟨hbefore, -⟩ := roomy.of_snoc
    rw [counted_append] at fits
    cases x with
    | ingest =>
      rw [answered_snoc_ingest, upTo_snoc_ingest, upTo_snoc_ingest, quiet_snoc_ingest]
      exact ih hbefore (times_snoc_ingest ▸ increasing) (by omega)
    | snapshot now =>
      rw [times_snoc_snapshot, pairwise_append] at increasing
      have hearlier : ∀ t ∈ times es, t < now := fun t ht =>
        increasing.2.2 t ht now (by simp)
      have hes := ih hbefore increasing.1 (by omega)
      rw [answered_snoc_snapshot hbefore (by omega), upTo_snoc_snapshot, upTo_snoc_snapshot,
        quiet_snoc_snapshot]
      by_cases hlate : stop ≤ now
      · -- the snapshot is after the range
        rw [if_neg (by omega), if_neg (by omega), if_neg (by omega), Nat.add_zero, hes]
        exact ⟨fun h => ⟨h, fun hin => absurd hin.2 (by omega)⟩, And.left⟩
      by_cases hearly : now < start
      · -- it is before the range, as all before it are
        obtain ⟨hzero, hquiet⟩ := answered_of_early measure key stop hbefore (by omega)
          fun t ht => (hearlier t ht).trans hearly
        rw [if_neg (by omega), if_pos hearly, if_pos (by omega), hzero, Nat.zero_add]
        exact iff_of_true rfl ⟨hquiet, fun hin => absurd hin.1 (by omega)⟩
      · -- it is in the range: what it reports is all that should be reported
        have hsilent := silent_iff measure key start hbefore (by omega)
          fun t ht => (hearlier t ht).trans (show now < stop by omega)
        rw [if_pos (by omega), if_neg hearly, if_pos (by omega), counted_snoc_snapshot]
        constructor
        · intro h
          have hs := hsilent.mp (by omega)
          exact ⟨quiet_of_silent hs, fun _ => hs⟩
        · rintro ⟨-, hs⟩
          have := hsilent.mpr (hs (by omega))
          omega

end Run

def sampleConfig : AggregatorConfig where
  maxHosts := 8
  maxNetworks := 8
  maxHostgroups := 8
  maxAsns := 8
  maxExporters := 8
  ipv4PrefixLengths := []
  ipv6PrefixLengths := []

def sampleFlow : AsnFlow where
  sourceAddr := .v4 0xC0000201#32
  destinationAddr := .v4 0xC6336401#32
  protocol := none
  tcpFlags := none
  bytes := 1000
  packets := 1
  samplingRate := ⟨1, Nat.one_pos⟩
  samplingSource := .unsampled
  exporter := .v4 0xCB007101#32
  fragmented := false
  dropped := false
  forwardingStatusKnown := false
  sourceAsn := none
  destinationAsn := none

def sampleClassification : ClassificationResult := ⟨.other, none, none, none, none⟩

/-- The flow is ingested, and the aggregator is exported a given number of times after it. -/
def sampleEvents (snapshots : List Int) : List Event :=
  .ingest sampleFlow sampleClassification 0 :: snapshots.map .snapshot

instance (report : IngestReport) : Decidable (Clean report) :=
  inferInstanceAs (Decidable (_ ∧ _))

theorem sample_roomy (snapshots : List Int) :
    Roomy (fun _ => 0) sampleConfig (sampleEvents snapshots) := by
  intro st hst
  obtain ⟨past, i, rest, hsplit, rfl⟩ := (machine _).mem_trace.mp hst
  cases past with
  | nil =>
    cases hsplit
    decide +kernel
  | cons =>
    have hi : i ∈ snapshots.map Event.snapshot := by
      rw [(List.cons.inj hsplit).2]
      simp
    obtain ⟨now, -, rfl⟩ := List.mem_map.mp hi
    exact ⟨rfl, rfl⟩

theorem reported_iff_once :
    answered (fun _ => 0) sampleConfig .bytes .totalIpv4 0 100 (sampleEvents [10]) = 1000 ∧
      ingested .bytes .totalIpv4 sampleConfig 0 100 (sampleEvents [10]) = 1000 ∧
      Quiet .bytes .totalIpv4 sampleConfig 0 100 (sampleEvents [10]) :=
  ⟨by decide +kernel, by decide, (reported_iff _ _ _ (sample_roomy _) (by decide) _ _ (by decide)
    0 100 (by decide)).mp (by decide +kernel)⟩

/-- One flow of a thousand bytes, exported twice in the range: the queries return two thousand. -/
theorem counted_twice : Roomy (fun _ => 0) sampleConfig (sampleEvents [10, 20]) ∧
    (times (sampleEvents [10, 20])).Pairwise (· < ·) ∧
    counted .bytes .totalIpv4 sampleConfig (sampleEvents [10, 20]) ≤ u64Max ∧
    ingested .bytes .totalIpv4 sampleConfig 0 100 (sampleEvents [10, 20]) = 1000 ∧
    answered (fun _ => 0) sampleConfig .bytes .totalIpv4 0 100 (sampleEvents [10, 20]) = 2000 :=
  ⟨sample_roomy _, by decide, by decide, by decide, by decide +kernel⟩

end Tidegard.Collector.Proofs.Reported
