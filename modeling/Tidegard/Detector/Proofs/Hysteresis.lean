import Tidegard.Detector.Proofs.Independence

namespace Tidegard.Detector.Proofs.Hysteresis

open Tables Common Input Policy Evaluate State Independence

variable {c : ClearPercent} {trigger : Nat}

theorem clearThreshold_le (c : ClearPercent) (trigger : Nat) :
    c.clearThreshold trigger ≤ trigger := by
  have hscaled : trigger * c.percent / 100 ≤ trigger := by
    apply Nat.div_le_of_le_mul
    rw [Nat.mul_comm 100]
    exact Nat.mul_le_mul_left trigger c.inRange.2
  exact (Nat.min_le_left _ _).trans hscaled

/-- Below a hundred percent the floored ratio stays strictly under the trigger. -/
theorem clearThreshold_lt (hc : c.percent ≠ 100) (ht : 0 < trigger) :
    c.clearThreshold trigger < trigger := by
  have hlt : c.percent < 100 := lt_of_le_of_ne c.inRange.2 hc
  have hscaled : trigger * c.percent / 100 < trigger := by
    apply Nat.div_lt_of_lt_mul
    rw [Nat.mul_comm 100]
    exact Nat.mul_lt_mul_of_pos_left hlt ht
  exact (Nat.min_le_left _ _).trans_lt hscaled

theorem clearThreshold_full (hc : c.percent = 100) (ht : trigger ≤ u64Max) :
    c.clearThreshold trigger = trigger := by
  rw [ClearPercent.clearThreshold, hc, Nat.mul_div_cancel _ (by decide), Nat.min_eq_left ht]

section

variable (policy : DetectionPolicy) (snapshot : DetectionSnapshot)

theorem foldl_evaluated
    (l : List (MetricKind × Nat)) (acc : Evaluation) :
    (l.foldl (evaluateMetric policy snapshot) acc).evaluated = 0 ↔
      acc.evaluated = 0 ∧ ∀ mt ∈ l, evaluable snapshot mt.1 = false := by
  induction l generalizing acc with
  | nil => simp
  | cons mt l ih =>
    obtain ⟨metric, threshold⟩ := mt
    rw [List.foldl_cons, ih]
    cases he : evaluable snapshot metric <;> simp [evaluateMetric, he]

theorem foldl_allBelowClear
    (l : List (MetricKind × Nat)) (acc : Evaluation) :
    (l.foldl (evaluateMetric policy snapshot) acc).allBelowClear = true ↔
      acc.allBelowClear = true ∧ ∀ mt ∈ l, evaluable snapshot mt.1 = true →
        snapshot.rates.get mt.1 ≤ policy.clearPercent.clearThreshold mt.2 := by
  induction l generalizing acc with
  | nil => simp
  | cons mt l ih =>
    obtain ⟨metric, threshold⟩ := mt
    rw [List.foldl_cons, ih]
    cases he : evaluable snapshot metric with
    | false => simp [evaluateMetric, he]
    | true =>
      by_cases hclear : policy.clearPercent.clearThreshold threshold < snapshot.rates.get metric
      · simp [evaluateMetric, he, hclear]
      · have hle := Nat.le_of_not_lt hclear
        simp [evaluateMetric, he, hclear, hle]

/-- A snapshot counts as clear when some metric could be judged and every such metric is within
its clear threshold. -/
theorem allBelowClear_iff :
    (evaluate policy snapshot).allBelowClear = true ↔
      (∃ metric threshold, policy.thresholds[metric]? = some threshold ∧
        evaluable snapshot metric = true) ∧
      ∀ metric threshold, policy.thresholds[metric]? = some threshold →
        evaluable snapshot metric = true →
        snapshot.rates.get metric ≤ policy.clearPercent.clearThreshold threshold := by
  have hev := foldl_evaluated policy snapshot policy.thresholds.toList { allBelowClear := true }
  have hall := foldl_allBelowClear policy snapshot policy.thresholds.toList
    { allBelowClear := true }
  unfold evaluate
  dsimp only
  split
  · rename_i hzero
    have hnone := (hev.mp hzero).2
    refine ⟨fun h => absurd h (by simp), ?_⟩
    rintro ⟨⟨metric, threshold, hget, hcan⟩, -⟩
    have h := hnone (metric, threshold) ((mem_toList _ _ _).mpr hget)
    rw [hcan] at h
    cases h
  · rename_i hsome
    rw [hall]
    constructor
    · rintro ⟨-, hclear⟩
      refine ⟨?_, fun metric threshold hget =>
        hclear (metric, threshold) ((mem_toList _ _ _).mpr hget)⟩
      by_contra hnone
      refine hsome (hev.mpr ⟨rfl, fun mt hmt => ?_⟩)
      rw [Bool.eq_false_iff]
      exact fun hcan => hnone ⟨mt.1, mt.2, (mem_toList _ _ _).mp hmt, hcan⟩
    · rintro ⟨-, hclear⟩
      exact ⟨rfl, fun mt hmt => hclear mt.1 mt.2 ((mem_toList _ _ _).mp hmt)⟩

end

/-- Some metric that can be judged sits exactly at its threshold, and none is above its own. -/
def AtThreshold (policy : DetectionPolicy) (snapshot : DetectionSnapshot) : Prop :=
  (∃ metric threshold, policy.thresholds[metric]? = some threshold ∧
    evaluable snapshot metric = true ∧ snapshot.rates.get metric = threshold) ∧
  ∀ metric threshold, policy.thresholds[metric]? = some threshold →
    evaluable snapshot metric = true → snapshot.rates.get metric ≤ threshold

/-- The trigger and the clear comparison agree only where they meet. -/
theorem over_and_clear_iff (checked : policy.Checked)
    (fits : ∀ (metric : MetricKind) threshold, policy.thresholds[metric]? = some threshold →
      threshold ≤ u64Max) (snapshot : DetectionSnapshot) :
    (evaluate policy snapshot).isOverThreshold = true ∧
        (evaluate policy snapshot).allBelowClear = true ↔
      policy.clearPercent.percent = 100 ∧ AtThreshold policy snapshot := by
  rw [isOverThreshold_iff, allBelowClear_iff]
  constructor
  · rintro ⟨⟨metric, threshold, hget, hcan, hover⟩, -, hclear⟩
    have hle := hclear metric threshold hget hcan
    have hfull : policy.clearPercent.percent = 100 := by
      by_contra hne
      have hlt := clearThreshold_lt hne (checked.threshold_pos metric threshold hget)
      omega
    have hbound := clearThreshold_le policy.clearPercent threshold
    refine ⟨hfull, ⟨metric, threshold, hget, hcan, by omega⟩, ?_⟩
    intro other bound hother hjudged
    exact (hclear other bound hother hjudged).trans (clearThreshold_le _ _)
  · rintro ⟨hfull, ⟨metric, threshold, hget, hcan, hat⟩, hle⟩
    refine ⟨⟨metric, threshold, hget, hcan, hat.ge⟩, ⟨metric, threshold, hget, hcan⟩, ?_⟩
    intro other bound hother hjudged
    rw [clearThreshold_full hfull (fits other bound hother)]
    exact hle other bound hother hjudged

/-- Every transition reported so far has a reason in `R`. -/
def Reasons (R : TransitionReason → Prop) (p : Progress) : Prop :=
  ∀ t ∈ p.outcome.transitions, R t.reason

theorem signal_transitions (p : Progress) (signal : Signal) (transition : StateTransition)
    (started : Option (Nat × Int)) :
    (p.signal signal transition started).outcome.transitions = p.outcome.transitions := by
  unfold Progress.signal
  split <;> rfl

section

section

variable (h : Reasons R p)

include h

theorem Reasons.move (hr : R reason) (now : Nat) (wall : Int)
    (matched : List MatchedReason)
    (hbody : ∀ t q, (body t q).outcome.transitions = q.outcome.transitions) :
    Reasons R (p.move toState reason now wall matched body) := by
  unfold Progress.move ScopeState.transition
  by_cases hcan : p.entry.state.canTransitionTo toState = true
  · rw [if_pos hcan]
    intro t ht
    simp only [hbody, List.mem_append, List.mem_singleton] at ht
    rcases ht with ht | rfl
    · exact h t ht
    · exact hr
  · rw [if_neg hcan]
    exact h

theorem Reasons.resetSelection (hr : R .policyChanged)
    (policy : DetectionPolicy) (now : Nat) (wall : Int) :
    Reasons R (p.resetSelection policy now wall) := by
  unfold Progress.resetSelection
  split
  · refine h.move hr now wall [] fun t q => ?_
    split
    · exact signal_transitions _ _ _ _
    · rfl
  · exact h

theorem Reasons.expireCooldown (hr : R .cooldownExpired)
    (policy : DetectionPolicy) (now : Nat) (wall : Int) :
    Reasons R (p.expireCooldown policy now wall) := by
  unfold Progress.expireCooldown
  split
  · exact h.move hr now wall [] fun _ _ => rfl
  · exact h

theorem Reasons.countSnapshot (evaluation : Evaluation) :
    Reasons R (p.countSnapshot evaluation) := by
  unfold Progress.countSnapshot
  split <;> exact h

theorem Reasons.paceUpdate (policy : DetectionPolicy) (now : Nat) (wall : Int)
    (evaluation : Evaluation) : Reasons R (p.paceUpdate policy now wall evaluation) := by
  unfold Progress.paceUpdate
  split
  · split
    · intro t ht
      rw [signal_transitions] at ht
      exact h t ht
    · exact h
  · exact h

end

end

/-- Neither the start nor the end of clearing. -/
def NotClearing (reason : TransitionReason) : Prop :=
  reason ≠ .fellBelowClear ∧ reason ≠ .clearSustained

theorem judge_notClearing (h : Reasons NotClearing p) (policy : DetectionPolicy) (now : Nat)
    (wall : Int) (hclear : evaluation.allBelowClear = false) :
    Reasons NotClearing (p.judge policy now wall evaluation) := by
  have hstart : ∀ t q, (Progress.start evaluation now t q).outcome.transitions =
      q.outcome.transitions := fun t q => signal_transitions _ _ _ _
  cases hs : p.entry.state with
  | idle =>
    simp only [Progress.judge, hs]
    split
    · split
      · exact h.move ⟨by decide, by decide⟩ now wall _ hstart
      · exact h.move ⟨by decide, by decide⟩ now wall _ fun _ _ => rfl
    · exact h
  | pendingTrigger =>
    simp only [Progress.judge, hs]
    split
    · split
      · exact h.move ⟨by decide, by decide⟩ now wall _ hstart
      · exact h
    · exact h.move ⟨by decide, by decide⟩ now wall _ fun _ _ => rfl
  | active =>
    simp only [Progress.judge, hs, hclear]
    exact h
  | pendingClear =>
    simp only [Progress.judge, hs, hclear]
    exact h.move ⟨by decide, by decide⟩ now wall _ fun _ _ => rfl
  | cooldown =>
    simp only [Progress.judge, hs]
    split <;> exact h

theorem advance_notClearing (e : ScopeState) (policy : DetectionPolicy) (now : Nat) (wall : Int)
    (hclear : evaluation.allBelowClear = false) :
    Reasons NotClearing (e.advance policy now wall evaluation) := by
  have hstart : Reasons NotClearing { entry := e } := fun t ht => nomatch ht
  have hreset := hstart.resetSelection ⟨by decide, by decide⟩ policy now wall
  have hrecord : Reasons NotClearing
      ((Progress.resetSelection { entry := e } policy now wall).recordSnapshot now wall
        evaluation) := hreset
  have hcounted := (hrecord.expireCooldown ⟨by decide, by decide⟩ policy now wall).countSnapshot
    evaluation
  exact (judge_notClearing hcounted policy now wall hclear).paceUpdate policy now wall evaluation

theorem stepEntry_notClearing (t : StateTable) (policy : DetectionPolicy)
    (snapshot : DetectionSnapshot) (hclear : evaluation.allBelowClear = false) (entry : ScopeState) :
    ∀ tr ∈ (t.stepEntry policy snapshot evaluation entry).1.transitions,
      NotClearing tr.reason := by
  unfold StateTable.stepEntry
  split
  · exact fun tr htr => nomatch htr
  · exact advance_notClearing entry policy _ _ hclear

theorem step_notClearing (t : StateTable) (policy : DetectionPolicy) (snapshot : DetectionSnapshot)
    (hclear : evaluation.allBelowClear = false) :
    ∀ tr ∈ (t.step policy snapshot evaluation).1.transitions, NotClearing tr.reason := by
  apply step_rule (Q := fun answer => ∀ tr ∈ answer.1.transitions, NotClearing tr.reason) t
    ⟨policy, snapshot, evaluation⟩
  · exact fun reason state tr htr => nomatch htr
  · exact fun e _ => stepEntry_notClearing t policy snapshot hclear e
  · exact fun _ => stepEntry_notClearing _ policy snapshot hclear _

/-- A snapshot over threshold is never clear, and moves no scope of any table towards clearing,
exactly when the policy keeps some hysteresis or the snapshot is not at its thresholds. -/
theorem over_never_clears_iff (policy : ValidPolicy) (snapshot : DetectionSnapshot)
    (fits : ∀ (metric : MetricKind) threshold, policy.1.thresholds[metric]? = some threshold →
      threshold ≤ u64Max) :
    ((evaluate policy.1 snapshot).matched ≠ [] →
        (evaluate policy.1 snapshot).allBelowClear = false ∧
        ∀ t : StateTable,
          ∀ tr ∈ (t.step policy.1 snapshot (evaluate policy.1 snapshot)).1.transitions,
            NotClearing tr.reason) ↔
      ¬(policy.1.clearPercent.percent = 100 ∧ AtThreshold policy.1 snapshot) := by
  have hmatched : (evaluate policy.1 snapshot).matched ≠ [] ↔
      (evaluate policy.1 snapshot).isOverThreshold = true := by
    rw [Evaluation.isOverThreshold, Bool.not_eq_true', List.isEmpty_eq_false_iff]
  rw [hmatched, ← over_and_clear_iff policy.2.checked fits snapshot]
  constructor
  · rintro h ⟨hover, hclear⟩
    rw [(h hover).1] at hclear
    cases hclear
  · intro h hover
    have hclear : (evaluate policy.1 snapshot).allBelowClear = false := by
      rw [Bool.eq_false_iff]
      exact fun hclear => h ⟨hover, hclear⟩
    exact ⟨hclear, fun t => step_notClearing t policy.1 snapshot hclear⟩

/-- The sample policy without hysteresis. -/
def fullClearDraft : PolicyDraft := { sampleDraft .alertOnly 1 with clearPercent := 100 }

set_option maxRecDepth 4000 in
def fullClearPolicy : ValidPolicy :=
  ⟨{ fullClearDraft with clearPercent := ⟨100, by decide⟩ }, fullClearDraft, ∅, rfl⟩

/-- A table that saw traffic exactly at the threshold in each of its first `n` windows. -/
def atThresholdTable (n : Nat) : StateTable :=
  (List.range n).foldl (fun t i => (t.step fullClearPolicy.1 (sampleSnapshot i 10)
    (evaluate fullClearPolicy.1 (sampleSnapshot i 10))).2) (.new {})

/-- Without hysteresis a flood that never leaves its threshold opens a detection, starts to clear
it and ends it. -/
theorem threshold_flood_clears :
    (evaluate fullClearPolicy.1 (sampleSnapshot 3 10)).matched ≠ [] ∧
    (evaluate fullClearPolicy.1 (sampleSnapshot 3 10)).allBelowClear = true ∧
    ((atThresholdTable 1).step fullClearPolicy.1 (sampleSnapshot 1 10)
        (evaluate fullClearPolicy.1 (sampleSnapshot 1 10))).1.transitions.map (·.reason) =
      [.triggerSustained] ∧
    ((atThresholdTable 2).step fullClearPolicy.1 (sampleSnapshot 2 10)
        (evaluate fullClearPolicy.1 (sampleSnapshot 2 10))).1.transitions.map (·.reason) =
      [.fellBelowClear] ∧
    ((atThresholdTable 3).step fullClearPolicy.1 (sampleSnapshot 3 10)
        (evaluate fullClearPolicy.1 (sampleSnapshot 3 10))).1.transitions.map (·.reason) =
      [.clearSustained] := by
  refine ⟨?_, rfl, rfl, rfl, rfl⟩
  exact fun h => nomatch h

theorem over_never_clears_iff_flood :
    ¬(fullClearPolicy.1.clearPercent.percent = 100 ∧
        AtThreshold fullClearPolicy.1 (sampleSnapshot 3 11)) ∧
    (evaluate fullClearPolicy.1 (sampleSnapshot 3 11)).matched ≠ [] ∧
    (evaluate fullClearPolicy.1 (sampleSnapshot 3 11)).allBelowClear = false := by
  have hget : ∀ (metric : MetricKind) threshold,
      fullClearPolicy.1.thresholds[metric]? = some threshold → metric = .bps ∧ threshold = 10 := by
    intro metric threshold h
    cases metric <;> cases h
    exact ⟨rfl, rfl⟩
  have habove : ¬(fullClearPolicy.1.clearPercent.percent = 100 ∧
      AtThreshold fullClearPolicy.1 (sampleSnapshot 3 11)) := by
    rintro ⟨-, -, hle⟩
    exact absurd (hle .bps 10 rfl rfl) (by decide)
  have hmatched : (evaluate fullClearPolicy.1 (sampleSnapshot 3 11)).matched ≠ [] :=
    fun h => nomatch h
  have hfits : ∀ (metric : MetricKind) threshold,
      fullClearPolicy.1.thresholds[metric]? = some threshold → threshold ≤ u64Max := by
    intro metric threshold h
    rw [(hget metric threshold h).2]
    decide
  exact ⟨habove, hmatched,
    ((over_never_clears_iff fullClearPolicy (sampleSnapshot 3 11) hfits).mpr habove hmatched).1⟩

end Tidegard.Detector.Proofs.Hysteresis
