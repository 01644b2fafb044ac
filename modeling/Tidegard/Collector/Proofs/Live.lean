import Tidegard.Collector.Proofs.Flood
import Tidegard.Detector.Proofs.Independence

namespace Tidegard.Collector.Proofs.Live

open List Runs Tables Common Aggregator Classifier Classifier.Registry Detector.Input
open Detector.Policy Detector.Evaluate Detector.State Detector.Event Detector.Precedence
open Detector.Engine Detector.Window Detector.Proofs.Lifecycle
open Detector.Proofs.Selection Detector.Proofs.Independence Detector.Proofs.Rates Stage Arrivals
open Proofs.Sustained Dead Flood Progress ScopeState DetectionState

variable {policy : ValidPolicy} {p : DetectionPolicy}

/-! The engine waits out `trigger_for`, one flooded window after the other. -/

theorem winner_matches {key : ScopeKey} (h : policy.val.matchesScope key = true) :
    (PolicySet.empty.add policy).winnerFor key = some policy.val := by
  have hget : (PolicySet.empty.add policy).get policy.val.id = some policy.val :=
    get_insert_self _ _ _
  have hmem : policy.val ∈ (PolicySet.empty.add policy).candidates key :=
    mem_candidates.mpr ⟨hget, h⟩
  have hsome : ∃ q, (PolicySet.empty.add policy).winnerFor key = some q := by
    unfold PolicySet.winnerFor PolicySet.select
    cases hc : (PolicySet.empty.add policy).candidates key with
    | nil =>
      rw [hc] at hmem
      cases hmem
    | cons winner rest =>
      have hwinner : winner ∈ (PolicySet.empty.add policy).candidates key := by
        rw [hc]
        exact mem_cons_self
      exact ⟨winner, (mem_candidates.mp hwinner).1⟩
  obtain ⟨q, hq⟩ := hsome
  rw [hq, winner_single hq]

/-- The entry waits for its trigger under the policy since `since`. -/
structure Waits (policy : DetectionPolicy) (since last : Nat) (x : ScopeState) : Prop where
  state : x.state = .pendingTrigger
  entered : x.enteredAt = since
  snapshot : x.lastSnapshotAt = some last
  id : x.policyId = policy.id
  version : x.policyVersion = policy.version
  closed : x.activeSince = none

section Advance

variable {policy : DetectionPolicy} {evaluation : Evaluation}
  (hover : evaluation.isOverThreshold = true)

variable {now : Nat}

include hover

theorem advance_new (ht : 0 < policy.triggerFor) (key : ScopeKey) (now : Nat) (wall : Int) :
    Waits policy now now ((ScopeState.new key policy now).advance policy now wall
      evaluation).entry := by
  have htrigger : policy.triggerFor ≠ 0 := by omega
  constructor <;>
    simp [advance, resetSelection, selectionDiffers, ScopeState.new, recordSnapshot,
      expireCooldown, countSnapshot, isOpen, judge, hover, htrigger, Progress.move, transition,
      canTransitionTo, enter, paceUpdate]

variable {x : ScopeState} {since last : Nat} (h : Waits policy since last x)

include h

theorem Waits.advance (hshort : now - since < policy.triggerFor) (wall : Int) :
    Waits policy since now (x.advance policy now wall evaluation).entry := by
  have hwait : ¬policy.triggerFor ≤ now - since := by omega
  constructor <;>
    simp [ScopeState.advance, resetSelection, selectionDiffers, h.id, h.version, recordSnapshot,
      expireCooldown, countSnapshot, h.state, isOpen, judge, hover, timeInState, hwait, paceUpdate,
      h.entered, h.closed]

theorem Waits.starts (hlong : policy.triggerFor ≤ now - since) (wall : Int) :
    ∃ record, (x.advance policy now wall evaluation).outcome.signal = some record ∧
      record.signal = .started ∧ record.transition.policyId = policy.id := by
  simp [ScopeState.advance, resetSelection, selectionDiffers, h.id, h.version, recordSnapshot,
    expireCooldown, countSnapshot, h.state, isOpen, judge, hover, timeInState, h.entered, hlong,
    Progress.move, transition, canTransitionTo, enter, Progress.start, signal, context, opened,
    recordPeaks, paceUpdate, h.closed]

end Advance

/-- The engine with the one policy, and what its table holds of the target. -/
structure Holding (policy : ValidPolicy) (config : StateTableConfig)
    (E : Option ScopeState → Prop) (e : ThresholdDetectionEngine) : Prop where
  policies : e.policies = PolicySet.empty.add policy
  config : e.table.config = config
  entry : E e.table.entries[targetKey policy.val]?

theorem step_hands_on (p : Pass) (policy : DetectionPolicy) (snapshot : DetectionSnapshot)
    (h : (p.engine.table.step policy snapshot (evaluate policy snapshot)).1.signal =
      some record) : ∃ r ∈ (p.step policy snapshot).reported, r.record = record := by
  unfold Pass.step
  dsimp only
  rw [h]
  dsimp only
  unfold Pass.send
  split
  · exact ⟨_, mem_append_right _ (List.mem_singleton.mpr rfl), rfl⟩
  · exact ⟨_, mem_append_right _ (List.mem_singleton.mpr rfl), rfl⟩

theorem evaluateOne_reported (p : Pass) (snapshot : DetectionSnapshot) :
    ∃ rs, (p.evaluateOne snapshot).reported = p.reported ++ rs := by
  unfold Pass.evaluateOne
  split
  · exact ⟨[], by simp⟩
  · rename_i policy _
    obtain ⟨rs, hrep, -⟩ := step_reported p policy snapshot
    exact ⟨rs, hrep⟩

/-- The snapshots of a flooded window, closed at `now`. -/
structure Flooding (policy : DetectionPolicy) (now : Nat) (l : List DetectionSnapshot) : Prop where
  window : ∀ s ∈ l, s.window = policy.window ∧ s.observedAt = now
  hit : ∃ s ∈ l, policy.matchesScope s.key = true
  exceeds : ∀ s ∈ l, policy.matchesScope s.key = true →
    s.key = targetKey policy ∧ (evaluate policy s).isOverThreshold = true

section Evaluate

variable {policy : ValidPolicy} {config : StateTableConfig}
  {p : Pass} {s : DetectionSnapshot} {l : List DetectionSnapshot} {since last now : Nat}

variable {e : ThresholdDetectionEngine}

theorem evaluateOne_hit (hset : p.engine.policies = PolicySet.empty.add policy)
    (hmatch : policy.val.matchesScope s.key = true) :
    p.evaluateOne s = p.step policy.val s := by
  unfold Pass.evaluateOne
  rw [hset, winner_matches hmatch]

theorem evaluateOne_miss (hset : p.engine.policies = PolicySet.empty.add policy)
    (hmatch : ¬policy.val.matchesScope s.key = true) : (p.evaluateOne s).engine = p.engine := by
  unfold Pass.evaluateOne
  split
  · rfl
  · rename_i winner hwin
    rw [hset] at hwin
    have hmatched := (winnerFor_spec hwin).2.1
    rw [winner_single hwin] at hmatched
    exact absurd hmatched hmatch

theorem Holding.step (h : Holding policy config E p.engine)
    (hmatch : policy.val.matchesScope s.key = true)
    (hF : F (p.engine.table.step policy.val s
      (evaluate policy.val s)).2.entries[targetKey policy.val]?) :
    Holding policy config F (p.evaluateOne s).engine := by
  rw [evaluateOne_hit h.policies hmatch]
  refine ⟨(step_policies p _ _).trans h.policies, ?_, ?_⟩
  · rw [step_table]
    exact (step_config p.engine.table ⟨policy.val, s, evaluate policy.val s⟩).trans h.config
  · rw [step_table]
    exact hF

theorem Holding.miss (h : Holding policy config E p.engine)
    (hmatch : ¬policy.val.matchesScope s.key = true) :
    Holding policy config E (p.evaluateOne s).engine := by
  rw [evaluateOne_miss h.policies hmatch]
  exact h

/-- The table holds an entry of the target that waits. -/
def Waiting (policy : DetectionPolicy) (since last : Nat) (x : Option ScopeState) : Prop :=
  ∃ y, x = some y ∧ Waits policy since last y

theorem Holding.again (h : Holding policy config (Waiting policy.val since now) p.engine)
    (hl : Flooding policy.val now l) (hs : s ∈ l) :
    Holding policy config (Waiting policy.val since now) (p.evaluateOne s).engine := by
  by_cases hmatch : policy.val.matchesScope s.key = true
  · obtain ⟨y, hy, hwaits⟩ := h.entry
    have hkey := (hl.exceeds s hs hmatch).1
    refine h.step hmatch ?_
    rw [(step_refused (Or.inr ⟨y, .duplicate, hkey ▸ hy, ?_⟩)).2]
    · exact h.entry
    · rw [(hl.window s hs).2]
      exact refuses_judged hwaits.snapshot
  · exact h.miss hmatch

theorem Waits.not_refused
    (h : Waits policy since last x) (hlater : last < now) : x.refuses now = none := by
  simp only [refuses, h.snapshot]
  rw [if_neg (by omega), if_neg (by omega)]

variable (hmode : policy.val.executionMode.evaluates = true) (hl : Flooding policy.val now l)

include hmode hl

theorem evaluate_admits (hroom : 0 < config.maxEntries)
    (hset : e.policies = PolicySet.empty.add policy) (hconfig : e.table.config = config)
    (hempty : e.table.entries = ∅) :
    Holding policy config (Waiting policy.val now now) (e.evaluate l).engine := by
  refine foldl_reaches (fun s : DetectionSnapshot => policy.val.matchesScope s.key = true)
    (fun p : Pass => p.engine = e)
    (fun p : Pass => Holding policy config (Waiting policy.val now now) p.engine)
    ?_ ?_ ?_ hl.hit rfl
  · intro p s hs hmatch hp
    rw [evaluateOne_miss (by rw [hp, hset]) hmatch, hp]
  · intro p s hs hmatch hp
    obtain ⟨hkey, hover⟩ := hl.exceeds s hs hmatch
    have hbefore : Holding policy config (fun _ => True) p.engine := by
      rw [hp]
      exact ⟨hset, hconfig, trivial⟩
    refine hbefore.step hmatch ?_
    have hsize : ¬config.maxEntries ≤ (∅ : Table ScopeKey ScopeState).size := by
      simpa using hroom.ne'
    simp only [StateTable.step, hmode, (hl.window s hs).1, hp, hempty, hconfig, hsize,
      StateTable.stepEntry, refuses, ScopeState.new, ne_eq, not_true_eq_false,
      Bool.true_eq_false, if_false, Std.ExtTreeMap.getElem?_empty]
    rw [hkey, get_insert_self]
    refine ⟨_, rfl, ?_⟩
    rw [(hl.window s hs).2]
    exact advance_new hover policy.property.trigger_pos _ _ _
  · exact fun p s hs hp => hp.again hl hs

theorem evaluate_waits (h : Holding policy config (Waiting policy.val since last) e)
    (hlater : last < now) (hshort : now - since < policy.val.triggerFor) :
    Holding policy config (Waiting policy.val since now) (e.evaluate l).engine := by
  refine foldl_reaches (fun s : DetectionSnapshot => policy.val.matchesScope s.key = true)
    (fun p : Pass => Holding policy config (Waiting policy.val since last) p.engine)
    (fun p : Pass => Holding policy config (Waiting policy.val since now) p.engine)
    ?_ ?_ ?_ hl.hit h
  · exact fun p s hs hmatch hp => hp.miss hmatch
  · intro p s hs hmatch hp
    obtain ⟨y, hy, hwaits⟩ := hp.entry
    obtain ⟨hkey, hover⟩ := hl.exceeds s hs hmatch
    obtain ⟨hwindow, hnow⟩ := hl.window s hs
    refine hp.step hmatch ?_
    rw [(step_advances policy.val s (hkey ▸ hy) hmode hwindow
      (by rw [hnow]; exact hwaits.not_refused hlater) _).2, hkey, get_insert_self, hnow]
    exact ⟨_, rfl, hwaits.advance hover hshort _⟩
  · exact fun p s hs hp => hp.again hl hs

theorem evaluate_starts (h : Holding policy config (Waiting policy.val since last) e)
    (hlater : last < now) (hlong : policy.val.triggerFor ≤ now - since) :
    ∃ r ∈ (e.evaluate l).reported,
      r.record.signal = .started ∧ r.record.transition.policyId = policy.val.id := by
  refine foldl_reaches (fun s : DetectionSnapshot => policy.val.matchesScope s.key = true)
    (fun p : Pass => Holding policy config (Waiting policy.val since last) p.engine)
    (fun p : Pass => ∃ r ∈ p.reported,
      r.record.signal = .started ∧ r.record.transition.policyId = policy.val.id)
    ?_ ?_ ?_ hl.hit h
  · exact fun p s hs hmatch hp => hp.miss hmatch
  · intro p s hs hmatch hp
    obtain ⟨y, hy, hwaits⟩ := hp.entry
    obtain ⟨hkey, hover⟩ := hl.exceeds s hs hmatch
    obtain ⟨hwindow, hnow⟩ := hl.window s hs
    obtain ⟨record, hsignal, hstarted, hid⟩ := hwaits.starts hover hlong s.observedWall
    have hout := (step_advances policy.val s (hkey ▸ hy) hmode hwindow
      (by rw [hnow]; exact hwaits.not_refused hlater) (evaluate policy.val s)).1
    rw [hnow] at hout
    rw [← hout] at hsignal
    rw [evaluateOne_hit hp.policies hmatch]
    obtain ⟨r, hr, hrecord⟩ := step_hands_on p policy.val s hsignal
    exact ⟨r, hr, hrecord ▸ hstarted, hrecord ▸ hid⟩
  · rintro p s hs ⟨r, hr, hstarted⟩
    obtain ⟨rs, hrep⟩ := evaluateOne_reported p s
    exact ⟨r, hrep ▸ mem_append_left rs hr, hstarted⟩

end Evaluate

theorem Holding.sweep {config : StateTableConfig} {since now : Nat} {e : ThresholdDetectionEngine}
    (h : Holding policy config (Waiting policy.val since now) e) (hstale : 0 < config.staleAfter)
    (wall : Int) :
    Holding policy config (Waiting policy.val since now) (e.sweep now wall).engine := by
  obtain ⟨y, hy, hwaits⟩ := h.entry
  have hfresh : y.expired e.table.config now = false := by
    simpa [expired, hwaits.snapshot, hwaits.state, h.config] using hstale.ne'
  refine ⟨(sweep_policies e now wall).trans h.policies, ?_, y, ?_, hwaits⟩
  · rw [sweep_table]
    exact h.config
  · rw [sweep_table]
    refine (get_filter _ _ _).trans ?_
    rw [hy]
    simp [hfresh]

/-- A registry in which the target is local, under the policy's tenant and hostgroup. -/
structure Localises (p : DetectionPolicy) (registry : PrefixRegistry) : Prop where
  built : registry.Built
  nonempty : registry.isEmpty = false
  found : registry.lookup (target p) =
    some ⟨⟨p.tenant, some (targetGroup p), targetLen p⟩, targetLen p⟩
  other : registry.lookup (opposite (target p)) = none

theorem exists_localises (h : p.Accepted) : ∃ registry, Localises p registry := by
  obtain ⟨registry, hbuilt, hempty, hfound, hother⟩ :=
    exists_registry (target p) (targetLen_le h) p.tenant (some (targetGroup p))
  exact ⟨registry, hbuilt, hempty, hfound, hother _ (isIpv4_opposite _)⟩

theorem Localises.matchedLen (h : Localises p registry) :
    matchedLen registry (target p) = some (targetLen p) := by
  simp [Classifier.Registry.matchedLen, h.found]

def round (p : DetectionPolicy) (metric : MetricKind) (start : Nat) : List Arrival :=
  List.replicate u64Max (.flow (floodFlow p metric) start) ++ [.tick (start + p.window) 0]

section Stage

variable {policy : ValidPolicy} {threshold : Nat} {hashing : Hashing}
  {registry : PrefixRegistry} {config : StateTableConfig}

variable {start : Nat}

structure Paused (policy : ValidPolicy) (start : Nat) (Q : ThresholdDetectionEngine → Prop)
    (s : DetectionStage) : Prop where
  fresh : ∃ stats, s.windows =
    { DetectionWindows.new (floodConfig policy.val) start with stats := stats }
  engine : Q s.engine

/-- The policy, the traffic and the registry of a flood that reaches a threshold. -/
structure Effective (policy : ValidPolicy) (metric : MetricKind) (registry : PrefixRegistry) :
    Prop where
  enabled : policy.val.enabled = true
  evaluates : policy.val.executionMode.evaluates = true
  direction : policy.val.direction = .incoming ∨ policy.val.direction = .outgoing
  addressable : Addressable policy.val
  measured : measured metric = true
  reached : ∃ threshold, policy.val.thresholds[metric]? = some threshold ∧
    threshold ≤ perSecond u64Max policy.val.window
  localises : Localises policy.val registry

section

variable (h : Effective policy metric registry)

include h

theorem run_flood
    (hw : Flooded policy.val metric hashing (matchedLen registry) start 0 w)
    (e : ThresholdDetectionEngine) (n : Nat) :
    ∃ w', stageMachine.run ⟨w, e⟩ ((List.replicate n (Arrival.flow
        (floodFlow policy.val metric) start)).map (Arrival.call hashing registry)) = ⟨w', e⟩ ∧
      Flooded policy.val metric hashing (matchedLen registry) start n w' := by
  induction n with
  | zero => exact ⟨w, rfl, hw⟩
  | succ n ih =>
    obtain ⟨w', hrun, hflooded⟩ := ih
    have hsides := sides_floodFlow h.localises.nonempty h.localises.found h.localises.other
      h.direction metric
    have hproduced := target_produced policy.property h.addressable h.localises.matchedLen
    refine ⟨_, ?_, hflooded.ingest hproduced hsides start⟩
    rw [replicate_succ', map_append, map_singleton, stageMachine.run_snoc, hrun]
    rfl

theorem flooding_snapshots
    (hw : Flooded policy.val metric hashing (matchedLen registry) start u64Max w) (wall : Int) :
    Flooding policy.val (start + policy.val.window)
      (w.snapshots (start + policy.val.window) wall) := by
  obtain ⟨threshold, hget, hle⟩ := h.reached
  obtain ⟨⟨s, hs, hkey⟩, hexceeds⟩ :=
    hw.snapshots h.measured h.localises.matchedLen hget hle wall
  refine ⟨?_, ⟨s, hs, ?_⟩, ?_⟩
  · intro s hs
    obtain ⟨hwindow, hat, -⟩ := mem_snapshots hs
    exact ⟨hwindow.trans (congrArg WindowConfig.window hw.config), hat⟩
  · rw [hkey]
    exact target_matches policy.property h.enabled h.addressable
  · intro s hs hmatch
    exact ⟨(hexceeds s hs hmatch).1, (isOverThreshold_iff _ _).mpr (hexceeds s hs hmatch).2⟩

theorem run_round (hashing : Hashing)
    (hs : Paused policy start Q s) :
    ∃ l, Flooding policy.val (start + policy.val.window) l ∧
      (∃ st ∈ stageMachine.trace s ((round policy.val metric start).map
          (Arrival.call hashing registry)),
        ∀ r ∈ (s.engine.evaluate l).reported, r ∈ st.output.reported) ∧
      Paused policy (start + policy.val.window)
        (· = ((s.engine.evaluate l).engine.sweep (start + policy.val.window) 0).engine)
        (stageMachine.run s ((round policy.val metric start).map
          (Arrival.call hashing registry))) := by
  obtain ⟨stats, hfresh⟩ := hs.fresh
  obtain ⟨w, e⟩ := s
  dsimp only at hfresh
  subst hfresh
  have hnew : Flooded policy.val metric hashing (matchedLen registry) start 0
      { DetectionWindows.new (floodConfig policy.val) start with stats := stats } :=
    flooded_new stats
  obtain ⟨w, hrun, hw⟩ := run_flood h hnew e u64Max
  have hdue : w.isDue (start + policy.val.window) = true := by
    simp [DetectionWindows.isDue, hw.config, hw.began, floodConfig]
  rcases tick_windows w (start + policy.val.window) 0 with ⟨hnot, -⟩ | ⟨-, hsnap, stats', hnext⟩
  · rw [hdue] at hnot
    cases hnot
  · refine ⟨_, flooding_snapshots h hw 0,
      ⟨stageMachine.stepAt ⟨w, e⟩ (.tick (start + policy.val.window) 0), ?_, fun r hr => ?_⟩,
      ⟨stats', ?_⟩, ?_⟩
    · rw [round, map_append, map_singleton, stageMachine.trace_snoc, hrun]
      exact mem_append_right _ (List.mem_singleton.mpr rfl)
    · refine mem_append_left _ ?_
      rw [hsnap]
      exact hr
    · rw [round, map_append, map_singleton, stageMachine.run_snoc, hrun]
      rw [← hw.config]
      exact hnext
    · rw [round, map_append, map_singleton, stageMachine.run_snoc, hrun, ← hsnap]
      rfl

end

/-- The arrivals of a run so far: in order, normalized, and none after `now`. -/
structure Orderly (now : Nat) (arrivals : List Arrival) : Prop where
  normalized : ∀ flow at_, .flow flow at_ ∈ arrivals → Normalized flow
  ordered : arrivals.Pairwise fun a b => a.now ≤ b.now
  past : ∀ a ∈ arrivals, a.now ≤ now

theorem mem_round (ha : a ∈ round p metric start) :
    a = .flow (floodFlow p metric) start ∨ a = .tick (start + p.window) 0 := by
  rcases List.mem_append.mp ha with ha | ha
  · exact Or.inl (eq_of_mem_replicate ha)
  · exact Or.inr (List.mem_singleton.mp ha)

theorem Orderly.round (h : Orderly start arrivals) (p : DetectionPolicy)
    (metric : MetricKind) : Orderly (start + p.window) (arrivals ++ Live.round p metric start) := by
  have hbounds (a : Arrival) (ha : a ∈ Live.round p metric start) :
      start ≤ a.now ∧ a.now ≤ start + p.window := by
    rcases mem_round ha with rfl | rfl
    · exact ⟨le_refl _, Nat.le_add_right _ _⟩
    · exact ⟨Nat.le_add_right _ _, le_refl _⟩
  constructor
  · intro flow at_ hmem
    rcases List.mem_append.mp hmem with hmem | hmem
    · exact h.normalized flow at_ hmem
    · rcases mem_round hmem with heq | heq
      · cases heq
        exact normalized_floodFlow p metric
      · cases heq
  · refine List.pairwise_append.mpr ⟨h.ordered, ?_, fun a ha b hb =>
      (h.past a ha).trans (hbounds b hb).1⟩
    refine List.pairwise_append.mpr ⟨?_, pairwise_singleton _ _, ?_⟩
    · exact List.pairwise_replicate.mpr (Or.inr (le_refl _))
    · intro a ha b hb
      rw [eq_of_mem_replicate ha, List.mem_singleton.mp hb]
      exact Nat.le_add_right _ _
  · intro a ha
    rcases List.mem_append.mp ha with ha | ha
    · exact (h.past a ha).trans (Nat.le_add_right _ _)
    · exact (hbounds a ha).2

theorem campaign (hashing : Hashing) (h : Effective policy metric registry)
    (hroom : 0 < config.maxEntries)
    (hstale : 0 < config.staleAfter) (factory : EventFactory)
    (sinkAccepts : DetectionEvent → Bool) (k : Nat) :
    ∃ arrivals, Orderly ((k + 1) * policy.val.window) arrivals ∧
      (Opened policy (stageMachine.trace
          (.new (floodConfig policy.val) (engineFor policy config factory sinkAccepts) 0)
          (arrivals.map (Arrival.call hashing registry))) ∨
        k * policy.val.window < policy.val.triggerFor ∧
        Paused policy ((k + 1) * policy.val.window) (Holding policy config
            (Waiting policy.val policy.val.window ((k + 1) * policy.val.window)))
          (stageMachine.run
            (.new (floodConfig policy.val) (engineFor policy config factory sinkAccepts) 0)
            (arrivals.map (Arrival.call hashing registry)))) := by
  have hwindow := policy.property.checked.window_pos
  induction k with
  | zero =>
    have hempty : Orderly 0 [] := ⟨by simp, .nil, by simp⟩
    have hstart : Paused policy 0 (· = engineFor policy config factory sinkAccepts)
        (.new (floodConfig policy.val) (engineFor policy config factory sinkAccepts) 0) :=
      ⟨⟨{}, rfl⟩, rfl⟩
    obtain ⟨l, hl, -, hnext⟩ := run_round h hashing hstart
    rw [Nat.zero_add] at hl hnext
    refine ⟨_, by simpa using hempty.round policy.val metric, Or.inr ⟨?_, ?_⟩⟩
    · rw [Nat.zero_mul]
      exact policy.property.trigger_pos
    · rw [Nat.zero_add, Nat.one_mul]
      refine ⟨hnext.fresh, ?_⟩
      rw [hnext.engine]
      exact (evaluate_admits h.evaluates hl hroom rfl rfl rfl).sweep hstale 0
  | succ k ih =>
    obtain ⟨arrivals, horderly, hreached⟩ := ih
    have htime : (k + 1) * policy.val.window + policy.val.window =
        (k + 1 + 1) * policy.val.window := (Nat.succ_mul _ _).symm
    refine ⟨arrivals ++ round policy.val metric ((k + 1) * policy.val.window),
      htime ▸ horderly.round policy.val metric, ?_⟩
    rw [map_append, stageMachine.trace_append, stageMachine.run_append]
    rcases hreached with ⟨st, hst, hopened⟩ | ⟨-, hpaused⟩
    · exact Or.inl ⟨st, mem_append_left _ hst, hopened⟩
    · obtain ⟨l, hl, ⟨st, hst, hreported⟩, hnext⟩ := run_round h hashing hpaused
      rw [htime] at hl hnext
      have hlater : (k + 1) * policy.val.window < (k + 1 + 1) * policy.val.window := by omega
      have hwaited : (k + 1 + 1) * policy.val.window - policy.val.window =
          (k + 1) * policy.val.window := by omega
      by_cases hlong : policy.val.triggerFor ≤ (k + 1) * policy.val.window
      · obtain ⟨r, hr, hstarted⟩ := evaluate_starts h.evaluates hl hpaused.engine hlater
          (hwaited ▸ hlong)
        exact Or.inl ⟨st, mem_append_right _ hst, r, hreported r hr, hstarted⟩
      · refine Or.inr ⟨by omega, hnext.fresh, ?_⟩
        rw [hnext.engine]
        exact (evaluate_waits h.evaluates hl hpaused.engine hlater (by omega)).sweep hstale 0

end Stage

section Main

variable (policy : ValidPolicy) (hashing : Hashing) (config : StateTableConfig)
  (factory : EventFactory) (sinkAccepts : DetectionEvent → Bool)

theorem canOpen_of_satisfiable {policy : ValidPolicy} (henabled : policy.val.enabled = true)
    (hmode : policy.val.executionMode ≠ .disabled) (hroom : 0 < config.maxEntries)
    (hstale : 0 < config.staleAfter) (h : Satisfiable policy.val) :
    CanOpen policy hashing (engineFor policy config factory sinkAccepts) := by
  obtain ⟨metric, threshold, hget, hmeasured, hle⟩ := h.reachable
  obtain ⟨registry, hregistry⟩ := exists_localises policy.property
  have hevaluates : policy.val.executionMode.evaluates = true := by
    cases hm : policy.val.executionMode with
    | disabled => exact absurd hm hmode
    | observe => rfl
    | alertOnly => rfl
    | dryRun => rfl
  have heffective : Effective policy metric registry :=
    ⟨henabled, hevaluates, h.direction, h.addressable, hmeasured, ⟨threshold, hget, hle⟩,
      hregistry⟩
  obtain ⟨arrivals, horderly, hopened | ⟨hshort, -⟩⟩ := campaign hashing heffective hroom hstale
    factory sinkAccepts policy.val.triggerFor
  · exact ⟨registry, floodConfig policy.val, 0, arrivals, hregistry.built, rfl,
      horderly.normalized, horderly.ordered, hopened⟩
  · have hwindow := policy.property.checked.window_pos
    have := Nat.le_mul_of_pos_right policy.val.triggerFor hwindow
    omega

/-- An enabled policy that validation accepted and that is not switched off is alive exactly
when it watches a direction the windows count, an address they key on and a rate they fill. -/
theorem canOpen_iff_satisfiable (henabled : policy.val.enabled = true)
    (hmode : policy.val.executionMode ≠ .disabled) (hroom : 0 < config.maxEntries)
    (hstale : 0 < config.staleAfter) :
    CanOpen policy hashing (engineFor policy config factory sinkAccepts) ↔
      Satisfiable policy.val := by
  constructor
  · rintro ⟨registry, windows, start, arrivals, -, hwindow, -, -, hopened⟩
    exact satisfiable_of_opened hwindow config factory sinkAccepts start _ hopened
  · exact canOpen_of_satisfiable hashing config factory sinkAccepts henabled hmode hroom hstale

end Main

/-- Any host over ten bits per second is watched for good. -/
theorem canOpen_iff_satisfiable_sample :
    CanOpen ⟨samplePolicy .alertOnly 1, samplePolicy_accepted .alertOnly⟩
      ⟨fun _ => 0, fun _ _ => 0⟩
      (engineFor ⟨samplePolicy .alertOnly 1, samplePolicy_accepted .alertOnly⟩ {} sampleFactory
        fun _ => true) :=
  (canOpen_iff_satisfiable ⟨samplePolicy .alertOnly 1, samplePolicy_accepted .alertOnly⟩
    ⟨fun _ => 0, fun _ _ => 0⟩ {} sampleFactory (fun _ => true) rfl (by decide) (by decide)
    (by decide)).mpr
    ⟨Or.inl rfl, (fun h => nomatch h), .bps, 10, get_insert_self _ _ _, rfl, by decide⟩

/-- A draft that watches the bit rate of TCP SYN packets, and nothing else. -/
def synDraft : PolicyDraft :=
  { sampleDraft .alertOnly 1 with thresholds := (∅ : Thresholds).insert .tcpSynBps 10 }

def synPolicy : DetectionPolicy :=
  { samplePolicy .alertOnly 1 with thresholds := (∅ : Thresholds).insert .tcpSynBps 10 }

set_option maxRecDepth 4000 in
theorem synPolicy_accepted : synPolicy.Accepted := ⟨synDraft, ∅, rfl⟩

theorem synPolicy_unreachable : ¬Reachable synPolicy := by
  rintro ⟨metric, threshold, hget, hmeasured, -⟩
  have hentry : ((∅ : Thresholds).insert .tcpSynBps 10)[metric]? = some threshold := hget
  rw [get_insert] at hentry
  split at hentry
  · rename_i heq
    subst heq
    cases hmeasured
  · simp at hentry

/-- Validation accepts the SYN policy, and no registry, windows or traffic ever open a detection
under it: the windows have no byte counter for SYN packets. -/
theorem synPolicy_dead :
    synPolicy.enabled = true ∧ synPolicy.executionMode ≠ .disabled ∧
      ∀ hashing config factory sinkAccepts, ¬CanOpen ⟨synPolicy, synPolicy_accepted⟩ hashing
        (engineFor ⟨synPolicy, synPolicy_accepted⟩ config factory sinkAccepts) := by
  refine ⟨rfl, by decide, ?_⟩
  rintro hashing config factory sinkAccepts
    ⟨registry, windows, start, arrivals, -, hwindow, -, -, hopened⟩
  exact synPolicy_unreachable
    (satisfiable_of_opened hwindow config factory sinkAccepts start _ hopened).reachable

end Tidegard.Collector.Proofs.Live
