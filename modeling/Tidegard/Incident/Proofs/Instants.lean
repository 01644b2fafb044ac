import Tidegard.Incident.Time

namespace Tidegard.Incident.Proofs.Instants

open Basics Time DurableTimestamp

/-- On both sides of the epoch the microseconds are the floor of the nanoseconds. -/
theorem fromSystemTime_floor (low : -2 ^ 63 < wall / 1000) (high : wall / 1000 < 2 ^ 63) :
    fromSystemTime wall = .ok ⟨wall / 1000⟩ := by
  unfold fromSystemTime i64Max
  dsimp only
  by_cases hwall : 0 ≤ wall
  · rw [if_pos hwall, if_pos (by omega)]
  · -- before the epoch a magnitude with a fraction is one more whole microsecond away
    have hrounded : -wall / 1000 + (if -wall % 1000 = 0 then 0 else 1) = -(wall / 1000) := by
      split <;> omega
    rw [if_neg hwall, if_neg (by omega), hrounded, if_pos (by omega), neg_neg]

/-- The magnitude of a count loses nothing on its way through seconds. -/
theorem toSystemTime_eq (low : -2 ^ 63 < t.micros)
    (h : toSystemTime representable t = some wall) : wall = t.micros * 1000 := by
  have habs : saturatingAbs t.micros = |t.micros| := if_neg (by omega)
  unfold toSystemTime microsToDuration at h
  dsimp only at h
  rw [habs, max_eq_left (abs_nonneg _)] at h
  obtain ⟨-, rfl⟩ : _ ∧ _ = wall := by simpa using h
  split
  case isTrue hpos =>
    rw [abs_of_nonneg hpos]
    omega
  case isFalse hneg =>
    rw [abs_of_neg (by omega)]
    omega

/-- A wall-clock time is floored to whole microseconds on both sides of the epoch, so that the
conversion keeps the order; and a timestamp that has a wall-clock time is read back from it. -/
theorem timestamps_floor :
    (∀ wall : Int, -2 ^ 63 < wall / 1000 → wall / 1000 < 2 ^ 63 →
      fromSystemTime wall = .ok ⟨wall / 1000⟩) ∧
    (∀ wall wall' : Int, wall ≤ wall' → -2 ^ 63 < wall / 1000 → wall' / 1000 < 2 ^ 63 →
      ∃ t t', fromSystemTime wall = .ok t ∧ fromSystemTime wall' = .ok t' ∧ t ≤ t') ∧
    ∀ (representable : Int → Bool) (t : DurableTimestamp) (wall : Int),
      -2 ^ 63 < t.micros → t.micros < 2 ^ 63 → toSystemTime representable t = some wall →
      fromSystemTime wall = .ok t := by
  refine ⟨fun wall low high => fromSystemTime_floor low high, ?_, ?_⟩
  · intro wall wall' hle low high
    have hfloors : wall / 1000 ≤ wall' / 1000 := Int.ediv_le_ediv (by decide) hle
    exact ⟨_, _, fromSystemTime_floor low (by omega), fromSystemTime_floor (by omega) high, hfloors⟩
  · intro representable t wall low high h
    obtain rfl := toSystemTime_eq low h
    have hback : t.micros * 1000 / 1000 = t.micros := Int.mul_ediv_cancel _ (by decide)
    rw [fromSystemTime_floor (by omega) (by omega), hback]

end Tidegard.Incident.Proofs.Instants
