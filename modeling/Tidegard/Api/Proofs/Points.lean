import Tidegard.Api.Traffic

namespace Tidegard.Api.Proofs.Points

open Tables Fallible Common.Rfc3339 Traffic

/-- The intervals, counted from the epoch, with a second of the range in them. -/
noncomputable def groups (start stop : Int) : Finset Int :=
  (Finset.Ico start stop).image (· / stepFor start stop)

theorem seconds_groups {step : Int} (hstep : 0 < step) (h : start < stop) :
    (Finset.Ico start stop).image (· / step) = Finset.Icc (start / step) ((stop - 1) / step) := by
  ext n
  simp only [Finset.mem_image, Finset.mem_Ico, Finset.mem_Icc]
  constructor
  · rintro ⟨s, ⟨hlow, hhigh⟩, rfl⟩
    exact ⟨Int.ediv_le_ediv hstep hlow, Int.ediv_le_ediv hstep (by omega)⟩
  · rintro ⟨hlow, hhigh⟩
    -- the first second of the interval, or of the range where that comes later
    refine ⟨max start (n * step), ⟨le_max_left _ _, ?_⟩, ?_⟩
    · have := (Int.le_ediv_iff_mul_le hstep).mp hhigh
      omega
    · have hnext : start < (n + 1) * step := (Int.ediv_lt_iff_lt_mul hstep).mp (by omega)
      rw [Int.ediv_eq_iff_of_pos hstep]
      have : (n + 1) * step = n * step + step := by ring
      omega

theorem range_ok (h : range parameters now = .ok (start, stop)) : start < stop := by
  unfold range at h
  obtain ⟨a, -, h⟩ := bind_eq_ok.mp h
  obtain ⟨b, -, h⟩ := bind_eq_ok.mp h
  dsimp only at h
  split at h
  · cases h
  · split at h <;> cases h
    omega

theorem stepFor_pos (start stop : Int) : 0 < stepFor start stop :=
  lt_of_lt_of_le (by decide) (le_max_right _ _)

/-- The step is ten seconds for every 5000 seconds of the range that are begun. -/
theorem stepFor_eq (h : start < stop) :
    stepFor start stop = 10 * ((stop - start + 4999) / 5000) := by
  unfold stepFor maxPoints minStepSeconds
  dsimp only
  have hraw : (stop - start + 500 - 1).tdiv 500 = (stop - start + 500 - 1) / 500 :=
    Int.tdiv_eq_ediv_of_nonneg (by omega)
  rw [hraw, Int.tdiv_eq_ediv_of_nonneg (by omega)]
  omega

/-- The summary has at most `maxPoints` groups exactly when what the range lacks to the next multiple
of 5000 seconds is no less than the seconds by which it starts after the beginning of an interval,
which is ten seconds long for every 5000 seconds begun. -/
theorem points_bounded_iff (accepted : range parameters now = .ok (start, stop)) :
    ((groups start stop).card : Int) ≤ maxPoints ↔
      start % (10 * ((stop - start + 4999) / 5000)) ≤
        5000 * ((stop - start + 4999) / 5000) - (stop - start) := by
  have hlt := range_ok accepted
  have hpos := stepFor_pos start stop
  have hall : 5000 * ((stop - start + 4999) / 5000) = maxPoints * stepFor start stop := by
    rw [stepFor_eq hlt, maxPoints]
    ring
  unfold groups
  rw [hall, ← stepFor_eq hlt]
  generalize stepFor start stop = step at hpos ⊢
  have hle : start / step ≤ (stop - 1) / step := Int.ediv_le_ediv hpos (by omega)
  rw [seconds_groups hpos hlt, Int.card_Icc, Int.toNat_of_nonneg (by omega)]
  have hsplit := Int.emod_add_mul_ediv start step
  have hlast : (stop - 1) / step < start / step + maxPoints ↔
      stop - 1 < (start / step + maxPoints) * step := Int.ediv_lt_iff_lt_mul hpos
  have hmul : (start / step + maxPoints) * step = step * (start / step) + maxPoints * step := by
    ring
  constructor
  · intro h
    have := hlast.mp (by omega)
    omega
  · intro h
    have := hlast.mpr (by omega)
    omega

theorem points_bounded_iff_default :
    range ∅ 5005 = .ok (1405, 5005) ∧ ((groups 1405 5005).card : Int) ≤ maxPoints := by
  have hrange : range ∅ 5005 = .ok (1405, 5005) := by
    simp only [range, seconds, Std.ExtTreeMap.getElem?_empty]
    decide
  exact ⟨hrange, (points_bounded_iff hrange).mpr (by decide)⟩

/-- A range that ends now and starts five seconds into an interval. -/
def sampleParameters : Table String String :=
  (∅ : Table String String).insert "from" "1970-01-01T00:00:05Z"

theorem range_sample : range sampleParameters 5005 = .ok (5, 5005) := by
  have hto : sampleParameters["to"]? = none := by simp [sampleParameters]
  have hfrom : sampleParameters["from"]? = some "1970-01-01T00:00:05Z" := get_insert_self ..
  have hparse : parseRfc3339 "1970-01-01T00:00:05Z" = .ok (some 5000000) := by decide +kernel
  simp only [range, seconds, hto, hfrom, hparse]
  decide

/-- One group more than a summary may have. -/
theorem one_point_too_many :
    range sampleParameters 5005 = .ok (5, 5005) ∧ ((groups 5 5005).card : Int) = maxPoints + 1 := by
  refine ⟨range_sample, ?_⟩
  have hstep : stepFor 5 5005 = 10 := by decide
  rw [groups, hstep, seconds_groups (by decide) (by decide), Int.card_Icc]
  decide

end Tidegard.Api.Proofs.Points
