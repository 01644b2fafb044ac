import Tidegard.Collector.Arrivals
import Tidegard.Collector.Proofs.Sustained

namespace Tidegard.Collector.Proofs.Dead

open Common Aggregator Classifier Detector.Input
open Detector.Policy Detector.Evaluate Detector.State Detector.Event Detector.Precedence
open Detector.Engine Detector.Window Detector.Proofs.Lifecycle
open Detector.Proofs.Selection Detector.Proofs.Rates Stage Arrivals Proofs.Sustained

variable {key : ScopeKey} {policy : ValidPolicy}
variable {p : DetectionPolicy}

/-! A policy that opens a detection is satisfiable. -/

theorem mask_mask (addr : IpAddr) (len : Nat) : mask (mask addr len) len = mask addr len := by
  cases addr with
  | v4 bits =>
    simp only [mask, IpAddr.v4.injEq]
    split
    · rfl
    · rw [BitVec.and_assoc, BitVec.and_self]
  | v6 bits =>
    simp only [mask, IpAddr.v6.injEq]
    split
    · rfl
    · rw [BitVec.and_assoc, BitVec.and_self]

theorem isIpv4_mask (addr : IpAddr) (len : Nat) : (mask addr len).isIpv4 = addr.isIpv4 := by
  cases addr <;> rfl

theorem of_isIpv4 (h : addr.isIpv4 = true) : AddressFamily.of addr = .ipv4 := by
  cases addr with
  | v4 bits => rfl
  | v6 bits => cases h

theorem matchesScope_iff :
    p.matchesScope key = true ↔ p.enabled = true ∧
      (p.tenant = wildcardTenant ∨ p.tenant = key.tenant) ∧ p.scopeType = key.scopeType ∧
      p.direction = key.direction ∧ p.addressFamily.all (· == key.addressFamily) = true ∧
      selectorMatches p.selector key.scopeId = true := by
  simp [DetectionPolicy.matchesScope, and_assoc]

theorem addressable_of_produces (hkey : Produces lookup side key)
    (hmatch : p.matchesScope key = true) : Addressable p := by
  obtain ⟨-, -, htype, -, hfamily, hselector⟩ := matchesScope_iff.mp hmatch
  unfold Addressable
  cases hkey with
  | host =>
    cases hs : p.selector with
    | host addr =>
      have haddr : addr = side.addr := by simpa [hs, selectorMatches, Side.key] using hselector
      rw [haddr]
      exact hfamily
    | network => simp [hs, selectorMatches, Side.key] at hselector
    | hostgroup | any => exact fun h => absurd (htype.symm.trans h) (by simp [Side.key])
  | @network len found =>
    cases hs : p.selector with
    | host => simp [hs, selectorMatches, Side.key] at hselector
    | network addr len' =>
      have haddr : addr = mask side.addr len ∧ len' = len := by
        simpa [hs, selectorMatches, Side.key] using hselector
      obtain ⟨rfl, rfl⟩ := haddr
      refine ⟨?_, mask_mask _ _, fun h => absurd (htype.symm.trans h) (by simp [Side.key])⟩
      rw [addressFamily_mask]
      exact hfamily
    | hostgroup | any => exact fun h => absurd (htype.symm.trans h) (by simp [Side.key])
  | slash24 v4 =>
    have hnot : p.addressFamily ≠ some .ipv6 := by
      intro h
      simp [h, Side.key, of_isIpv4 v4] at hfamily
    cases hs : p.selector with
    | host => simp [hs, selectorMatches, Side.key] at hselector
    | network addr len =>
      have haddr : addr = mask side.addr 24 ∧ len = 24 := by
        simpa [hs, selectorMatches, Side.key] using hselector
      obtain ⟨rfl, rfl⟩ := haddr
      refine ⟨?_, mask_mask _ _, fun _ => (isIpv4_mask _ _).trans v4⟩
      rw [addressFamily_mask]
      exact hfamily
    | hostgroup | any => exact fun _ => hnot
  | hostgroup =>
    cases hs : p.selector with
    | host | network => simp [hs, selectorMatches, Side.key] at hselector
    | hostgroup | any => exact fun h => absurd (htype.symm.trans h) (by simp [Side.key])

/-- What the windows can hold: the key of a side that is incoming or outgoing, with counters
that are `u64`s. -/
def Countable (_ : ScopeType) (key : ScopeKey) (a : Accumulator) : Prop :=
  (∃ lookup side, Produces lookup side key ∧
    (side.direction = .incoming ∨ side.direction = .outgoing)) ∧ Bounded a.counters

theorem direction_of_sides (h : side ∈ sides flow classification) :
    side.direction = .incoming ∨ side.direction = .outgoing := by
  unfold sides at h
  dsimp only at h
  split at h <;> simp at h
  · simp [h]
  · simp [h]
  · rcases h with rfl | rfl
    · exact Or.inl rfl
    · exact Or.inr rfl

theorem countable_ingest (h : Throughout Countable w) (hashing : Hashing)
    (lookup : IpAddr → Option Nat) (flow : NormalizedFlow) (classification : ClassificationResult)
    (now : Nat) : Throughout Countable (w.ingest hashing lookup flow classification now) := by
  refine throughout_ingest h classification ?_ ?_
  · intro side hside key hkey
    exact ⟨⟨lookup, side, hkey, direction_of_sides hside⟩, bounded_add bounded_empty flow⟩
  · intro side hside key hkey a ha
    exact ⟨ha.1, bounded_add ha.2 flow⟩

theorem direction_of_produces (h : Produces lookup side key) : key.direction = side.direction := by
  cases h <;> rfl

theorem satisfiable_of_over
    (ha : Countable scopeType key a) (hmatch : policy.val.matchesScope key = true)
    {elapsed now : Nat} (helapsed : policy.val.window ≤ elapsed) (wall : Int)
    (hover : OverThreshold policy.val
      (snapshot policy.val.window elapsed now wall key a)) : Satisfiable policy.val := by
  obtain ⟨⟨lookup, side, hkey, hdirection⟩, hbounded⟩ := ha
  obtain ⟨metric, threshold, hget, -, hle⟩ := hover
  have checked := policy.property.checked
  rw [rates_get] at hle
  refine ⟨?_, addressable_of_produces hkey hmatch, metric, threshold, hget, ?_, ?_⟩
  · rw [(matchesScope_iff.mp hmatch).2.2.2.1, direction_of_produces hkey]
    exact hdirection
  · by_contra hnot
    rw [level_of_not_measured (by simpa using hnot), perSecond_zero] at hle
    have := checked.threshold_pos metric threshold hget
    omega
  · exact hle.trans (perSecond_mono (hbounded metric) checked.window_pos helapsed)

theorem evaluate_started (hsound : Sound e) (hpolicies : e.policies = PolicySet.empty.add policy)
    (snapshots : List DetectionSnapshot) :
    ∀ r ∈ (e.evaluate snapshots).reported, r.record.signal = .started →
      ∃ s ∈ snapshots, policy.val.matchesScope s.key = true ∧ OverThreshold policy.val s := by
  have hfold (rest : List DetectionSnapshot) (hrest : ∀ s ∈ rest, s ∈ snapshots) (p : Pass)
      (hp : Sound p.engine) (hset : p.engine.policies = PolicySet.empty.add policy)
      (hrep : ∀ r ∈ p.reported, r.record.signal = .started →
        ∃ s ∈ snapshots, policy.val.matchesScope s.key = true ∧ OverThreshold policy.val s) :
      ∀ r ∈ (rest.foldl Pass.evaluateOne p).reported, r.record.signal = .started →
        ∃ s ∈ snapshots, policy.val.matchesScope s.key = true ∧ OverThreshold policy.val s := by
    induction rest generalizing p with
    | nil => exact hrep
    | cons s rest ih =>
      refine ih (fun s' hs' => hrest s' (by simp [hs'])) _ (evaluateOne_sound hp s)
        ((evaluateOne_policies p s).trans hset) ?_
      unfold Pass.evaluateOne
      split
      · exact hrep
      · rename_i winner hwin
        have hwinner : winner = policy.val := winner_single (hset ▸ hwin)
        subst hwinner
        intro r hr hstarted
        obtain ⟨rs, heq, hrs⟩ := step_reported p policy.val s
        rw [heq] at hr
        rcases List.mem_append.mp hr with hr | hr
        · exact hrep r hr hstarted
        · have hsig := (hrs r hr).2
          rcases step_shape p.engine.table policy.val s (evaluate policy.val s) with
            ⟨hnone, -⟩ | ⟨z, hz, hout, -⟩
          · rw [hnone] at hsig
            cases hsig
          · have hshape : Shape (some z) := by
              rcases hz with hz | ⟨-, rfl⟩
              · rw [← hz]
                exact hp.shape s.key
              · exact Or.inl (quiet_some (new_closed _ _ _))
            rw [hout] at hsig
            exact ⟨s, hrest s (by simp), (winnerFor_spec hwin).2.1,
              (isOverThreshold_iff _ _).mp (advance_earned hshape s hsig hstarted).2.2⟩
  exact hfold snapshots (fun _ h => h) _ hsound hpolicies (by simp)

/-- What every run of the stage keeps. -/
structure Kept (policy : ValidPolicy) (s : DetectionStage) : Prop where
  sound : Sound s.engine
  policies : s.engine.policies = PolicySet.empty.add policy
  window : s.windows.config.window = policy.val.window
  countable : Throughout Countable s.windows

theorem tick_windows (w : DetectionWindows) (now : Nat) (wall : Int) :
    (w.isDue now = false ∧ w.tick now wall = ([], w)) ∨
    w.isDue now = true ∧ (w.tick now wall).1 = w.snapshots now wall ∧
      ∃ stats, (w.tick now wall).2 = { DetectionWindows.new w.config now with stats := stats } := by
  cases hdue : w.isDue now with
  | false => exact Or.inl ⟨rfl, tick_not_due wall hdue⟩
  | true =>
    refine Or.inr ⟨rfl, (tick_due wall hdue).1, ?_⟩
    simp only [DetectionWindows.tick, hdue]
    exact ⟨_, rfl⟩

theorem evaluate_policies (e : ThresholdDetectionEngine) (snapshots : List DetectionSnapshot) :
    (e.evaluate snapshots).engine.policies = e.policies := by
  have hfold (rest : List DetectionSnapshot) (p : Pass) :
      (rest.foldl Pass.evaluateOne p).engine.policies = p.engine.policies := by
    induction rest generalizing p with
    | nil => rfl
    | cons s rest ih => exact (ih _).trans (evaluateOne_policies p s)
  exact hfold snapshots _

theorem tick_kept (h : Kept policy s) (now : Nat) (wall : Int) :
    Kept policy (s.tick now wall).2 := by
  have hsound : Sound (s.engine.evaluate (s.windows.tick now wall).1).engine :=
    foldl_evaluateOne_sound _ h.sound
  refine ⟨sweep_sound hsound now wall, ?_, ?_, ?_⟩
  · exact (sweep_policies _ now wall).trans ((evaluate_policies _ _).trans h.policies)
  · rcases tick_windows s.windows now wall with ⟨-, heq⟩ | ⟨-, -, stats, heq⟩
    · simp only [DetectionStage.tick, heq]
      exact h.window
    · simp only [DetectionStage.tick, heq]
      exact h.window
  · rcases tick_windows s.windows now wall with ⟨-, heq⟩ | ⟨-, -, stats, heq⟩
    · simp only [DetectionStage.tick, heq]
      exact h.countable
    · simp only [DetectionStage.tick, heq]
      exact ⟨every_new _, every_new _, every_new _, every_new _⟩

theorem perform_kept (h : Kept policy s) (call : StageCall) : Kept policy (s.perform call).2 := by
  cases call with
  | ingest hashing lookup flow classification now =>
    refine ⟨h.sound, h.policies, ?_, ?_⟩
    · exact (congrArg WindowConfig.window (ingest_frame s.windows hashing lookup flow
        classification now).2).trans h.window
    · exact countable_ingest h.countable hashing lookup flow classification now
  | tick now wall => exact tick_kept h now wall

theorem perform_started (h : Kept policy s) (call : StageCall)
    (hr : r ∈ (s.perform call).1.reported) (hstarted : r.record.signal = .started) :
    Satisfiable policy.val := by
  cases call with
  | ingest => cases hr
  | tick now wall =>
    rcases List.mem_append.mp hr with hr | hr
    · obtain ⟨snap, hsnap, hmatch, hover⟩ :=
        evaluate_started h.sound h.policies _ r hr hstarted
      rcases tick_windows s.windows now wall with ⟨-, heq⟩ | ⟨hdue, heq, -⟩
      · rw [heq] at hsnap
        cases hsnap
      · rw [heq] at hsnap
        obtain ⟨scopeType, key, slot, hslot, rfl⟩ := mem_snapshots_iff.mp hsnap
        have hlong : policy.val.window ≤ now - s.windows.windowStart := by
          rw [← h.window]
          simpa [DetectionWindows.isDue] using hdue
        rw [h.window] at hover
        exact satisfiable_of_over (h.countable.mapOf scopeType key slot hslot) hmatch hlong wall
          hover
    · rw [sweep_reported _ _ _ r hr] at hstarted
      cases hstarted

theorem satisfiable_of_opened (hwindow : config.window = policy.val.window)
    (table : StateTableConfig) (factory : EventFactory) (sinkAccepts : DetectionEvent → Bool)
    (start : Nat) (calls : List StageCall) (h : Opened policy (stageMachine.trace
      (.new config (engineFor policy table factory sinkAccepts) start) calls)) :
    Satisfiable policy.val := by
  obtain ⟨st, hst, r, hr, hstarted, -⟩ := h
  obtain ⟨past, call, rest, -, rfl⟩ := stageMachine.mem_trace.mp hst
  have hkept : Kept policy (stageMachine.run
      (.new config (engineFor policy table factory sinkAccepts) start) past) :=
    stageMachine.invariant (G := fun _ => True) (P := Kept policy)
      ⟨new_sound _ _ _ _, rfl, hwindow, throughout_new _ _⟩
      (fun s call hs _ => perform_kept hs call) past (fun _ _ => trivial)
  exact perform_started hkept call hr hstarted

end Tidegard.Collector.Proofs.Dead
