import Tidegard.Detector.Policy

namespace Tidegard.Detector.Evaluate

open Tables Common Input Policy

/-- One metric at or above its threshold, with how far above. -/
structure MatchedReason where
  metric : MetricKind
  observed : Nat
  threshold : Nat
  excess : Nat
  ratioPercent : Nat
  deriving DecidableEq

def ratioPercent (observed threshold : Nat) : Nat :=
  if threshold = 0 then u64Max else min (observed * 100 / threshold) u64Max

def MatchedReason.new (metric : MetricKind) (observed threshold : Nat) : MatchedReason where
  metric := metric
  observed := observed
  threshold := threshold
  excess := observed - threshold
  ratioPercent := Evaluate.ratioPercent observed threshold

inductive SkipReason where
  | sourceFieldAbsent
  deriving DecidableEq

structure SkippedMetric where
  metric : MetricKind
  reason : SkipReason
  deriving DecidableEq

structure Evaluation where
  matched : List MatchedReason := []
  skipped : List SkippedMetric := []
  allBelowClear : Bool := false
  evaluated : Nat := 0
  deriving DecidableEq

def Evaluation.isOverThreshold (e : Evaluation) : Bool := !e.matched.isEmpty

/-- The metric's source field was seen, or it needs none. -/
def evaluable (snapshot : DetectionSnapshot) (metric : MetricKind) : Bool :=
  match metric.requiredCompleteness with
  | some flag => snapshot.completeness.has flag
  | none => true

/-- The loop body of `evaluate`. -/
def evaluateMetric (policy : DetectionPolicy) (snapshot : DetectionSnapshot) (acc : Evaluation) :
    MetricKind × Nat → Evaluation
  | (metric, threshold) =>
    if evaluable snapshot metric then
      let observed := snapshot.rates.get metric
      { acc with
        evaluated := acc.evaluated + 1
        matched :=
          if threshold ≤ observed then acc.matched ++ [.new metric observed threshold]
          else acc.matched
        allBelowClear :=
          if policy.clearPercent.clearThreshold threshold < observed then false
          else acc.allBelowClear }
    else { acc with skipped := acc.skipped ++ [⟨metric, .sourceFieldAbsent⟩] }

def evaluate (policy : DetectionPolicy) (snapshot : DetectionSnapshot) : Evaluation :=
  let e := policy.thresholds.toList.foldl (evaluateMetric policy snapshot) { allBelowClear := true }
  if e.evaluated = 0 then { e with allBelowClear := false } else e

/-- Some evaluable metric is at or above its threshold. -/
def OverThreshold (policy : DetectionPolicy) (snapshot : DetectionSnapshot) : Prop :=
  ∃ metric threshold, policy.thresholds[metric]? = some threshold ∧
    evaluable snapshot metric = true ∧ threshold ≤ snapshot.rates.get metric

theorem foldl_matched_isEmpty (policy : DetectionPolicy) (snapshot : DetectionSnapshot)
    (l : List (MetricKind × Nat)) (acc : Evaluation) :
    (l.foldl (evaluateMetric policy snapshot) acc).matched ≠ [] ↔
      acc.matched ≠ [] ∨ ∃ mt ∈ l, evaluable snapshot mt.1 = true ∧
        mt.2 ≤ snapshot.rates.get mt.1 := by
  induction l generalizing acc with
  | nil => simp
  | cons mt l ih =>
    obtain ⟨metric, threshold⟩ := mt
    rw [List.foldl_cons, ih]
    by_cases he : evaluable snapshot metric = true <;>
      by_cases ht : threshold ≤ snapshot.rates.get metric <;>
      simp [evaluateMetric, he, ht]

theorem isOverThreshold_iff (policy : DetectionPolicy) (snapshot : DetectionSnapshot) :
    (evaluate policy snapshot).isOverThreshold = true ↔ OverThreshold policy snapshot := by
  have hm : (evaluate policy snapshot).matched = (policy.thresholds.toList.foldl
      (evaluateMetric policy snapshot) { allBelowClear := true }).matched := by
    unfold evaluate
    dsimp only
    split <;> rfl
  have hiff := foldl_matched_isEmpty policy snapshot policy.thresholds.toList
    { allBelowClear := true }
  rw [Evaluation.isOverThreshold, hm, Bool.not_eq_true', List.isEmpty_eq_false_iff, hiff]
  constructor
  · rintro (h | ⟨⟨metric, threshold⟩, hmem, he, ht⟩)
    · exact absurd rfl h
    · exact ⟨metric, threshold, (mem_toList _ _ _).mp hmem, he, ht⟩
  · rintro ⟨metric, threshold, hget, he, ht⟩
    exact Or.inr ⟨(metric, threshold),
      (mem_toList _ _ _).mpr hget, he, ht⟩

end Tidegard.Detector.Evaluate
