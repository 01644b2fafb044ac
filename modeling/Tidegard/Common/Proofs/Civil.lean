import Tidegard.Common.Rfc3339
import Tidegard.Fallible
import Tidegard.Gregorian

namespace Tidegard.Common.Proofs.Civil

open Rfc3339 Gregorian Fallible

variable {day rest cycle year : Int} {y m d : Nat}
variable {month : Int}

theorem checked_ok {n : Int} (hlow : -2 ^ 63 ≤ n) (hhigh : n < 2 ^ 63) : checked n = .ok n :=
  if_pos ⟨hlow, hhigh⟩

theorem checked_bind {α : Type} {n : Int} {f : Int → Except Overflow α} (hlow : -2 ^ 63 ≤ n)
    (hhigh : n < 2 ^ 63) : (checked n >>= f) = f n := by
  rw [checked_ok hlow hhigh, ok_bind]

/-! The years of a cycle start in March, so that the leap day is the last day of its year. -/

/-- The days before the year in its cycle. -/
def cycleDays (year : Int) : Int := 365 * year + year / 4 - year / 100

/-- Centuries, then fours of years, then years; the last of each is a day longer, or shorter. -/
theorem cycle_split (hlow : 0 ≤ day) (hhigh : day < 146097) :
    ∃ c q r rest : Int, day = 36524 * c + 1461 * q + 365 * r + rest ∧
      (0 ≤ c ∧ c ≤ 3) ∧ (0 ≤ q ∧ q ≤ 24) ∧ (0 ≤ r ∧ r ≤ 3) ∧ (0 ≤ rest ∧ rest ≤ 365) ∧
      (rest = 365 → r = 3 ∧ (q = 24 → c = 3)) := by
  obtain ⟨c, hc, inCentury⟩ : ∃ c : Int, (0 ≤ c ∧ c ≤ 3) ∧
      0 ≤ day - 36524 * c ∧ day - 36524 * c ≤ 36524 ∧ (day - 36524 * c = 36524 → c = 3) := by
    by_cases hlast : day < 109572
    · exact ⟨day / 36524, by omega⟩
    · exact ⟨3, by omega⟩
  generalize hcentury : day - 36524 * c = century at inCentury
  obtain ⟨q, hq, inFour⟩ : ∃ q : Int, (0 ≤ q ∧ q ≤ 24) ∧
      0 ≤ century - 1461 * q ∧ century - 1461 * q ≤ 1460 := ⟨century / 1461, by omega⟩
  generalize hfour : century - 1461 * q = four at inFour
  obtain ⟨r, hr, inYear⟩ : ∃ r : Int, (0 ≤ r ∧ r ≤ 3) ∧
      0 ≤ four - 365 * r ∧ four - 365 * r ≤ 365 ∧ (four - 365 * r = 365 → r = 3) := by
    by_cases hlast : four < 1095
    · exact ⟨four / 365, by omega⟩
    · exact ⟨3, by omega⟩
  refine ⟨c, q, r, four - 365 * r, by omega, hc, hq, hr, ⟨inYear.1, inYear.2.1⟩, ?_⟩
  intro hleap
  have hr3 : r = 3 := inYear.2.2 hleap
  refine ⟨hr3, fun hq24 => inCentury.2.2 ?_⟩
  omega

/-- The corrections of the source count the leap days before a day of the cycle. -/
theorem cycle_corrections {c q r : Int} (hc : 0 ≤ c ∧ c ≤ 3) (hq : 0 ≤ q ∧ q ≤ 24)
    (hr : 0 ≤ r ∧ r ≤ 3) (hrest : 0 ≤ rest ∧ rest ≤ 365)
    (hleap : rest = 365 → r = 3 ∧ (q = 24 → c = 3))
    (hday : day = 36524 * c + 1461 * q + 365 * r + rest) :
    ∃ extra : Int, day / 1460 = 25 * c + q + extra ∧ day / 36524 - day / 146096 = c ∧
      0 ≤ rest - extra ∧ rest - extra < 365 := by
  -- The last day of the cycle is the one day both corrections see.
  have hcentury : day / 36524 - day / 146096 = c := by
    by_cases hlast : day = 146096
    · have hc3 : c = 3 := by omega
      rw [hlast, hc3]
      rfl
    · have hin : 0 ≤ day - 36524 * c ∧ day - 36524 * c < 36524 := by omega
      have hnone : day / 146096 = 0 := by omega
      omega
  by_cases hmore : 24 * c + q + 365 * r + rest < 1460
  · refine ⟨0, by omega, hcentury, by omega, ?_⟩
    by_contra hlong
    have hr3 : r = 3 := (hleap (by omega)).1
    omega
  · exact ⟨1, by omega, hcentury, by omega, by omega⟩

/-- What the source computes is the year a day of the cycle falls into. -/
theorem cycle_year (hlow : 0 ≤ day) (hhigh : day < 146097) :
    ∃ year rest : Int, (day - day / 1460 + day / 36524 - day / 146096) / 365 = year ∧
      day = cycleDays year + rest ∧ (0 ≤ year ∧ year < 400) ∧ (0 ≤ rest ∧ rest ≤ 365) ∧
      (rest = 365 → (year + 1) % 4 = 0 ∧ ((year + 1) % 100 ≠ 0 ∨ (year + 1) % 400 = 0)) := by
  obtain ⟨c, q, r, rest, hday, hc, hq, hr, hrest, hleap⟩ := cycle_split hlow hhigh
  have hyear : 0 ≤ 100 * c + 4 * q + r ∧ 100 * c + 4 * q + r < 400 := by omega
  obtain ⟨extra, hfours, hcentury, hfew⟩ := cycle_corrections hc hq hr hrest hleap hday
  refine ⟨100 * c + 4 * q + r, rest, ?_, ?_, hyear, hrest, ?_⟩
  · have hsum : day - day / 1460 + day / 36524 - day / 146096
        = 365 * (100 * c + 4 * q + r) + (rest - extra) := by
      rw [hfours]
      generalize day / 36524 = n at hcentury ⊢
      generalize day / 146096 = n' at hcentury ⊢
      clear hfours hleap hlow hhigh
      omega
    rw [hsum]
    clear hsum hfours hcentury hleap
    omega
  · clear hfours hcentury hleap
    have hquarter : (100 * c + 4 * q + r) / 4 = 25 * c + q := by omega
    have hhundredth : (100 * c + 4 * q + r) / 100 = c := by omega
    unfold cycleDays
    rw [hquarter, hhundredth, hday]
    ring
  · intro hlast
    obtain ⟨hr3, hq24⟩ := hleap hlast
    clear hfours hcentury hleap
    subst hr3
    refine ⟨by omega, ?_⟩
    by_cases hq' : q = 24
    · have hc3 : c = 3 := hq24 hq'
      rw [hq', hc3]
      exact .inr rfl
    · exact .inl (by omega)

theorem january_first (hy : (y : Int) = 400 * cycle + year + 1) (hyear : 0 ≤ year ∧ year < 400) :
    (daysBeforeYear y : Int) = 146097 * cycle + cycleDays year + 366 := by
  have hcount := daysBeforeYear_eq y
  have hfours : ((y : Int) + 3) / 4 = 100 * cycle + year / 4 + 1 := by omega
  have hcenturies : ((y : Int) + 99) / 100 = 4 * cycle + year / 100 + 1 := by omega
  have hcycles : ((y : Int) + 399) / 400 = cycle + 1 := by omega
  unfold cycleDays
  generalize daysBeforeYear y = n at hcount ⊢
  omega

theorem march_first (hy : (y : Int) = 400 * cycle + year) (hyear : 0 ≤ year ∧ year < 400) :
    (daysBeforeYear y : Int) + (if isLeap y then 60 else 59)
      = 146097 * cycle + cycleDays year + 60 := by
  have hnext : ((y + 1 : Nat) : Int) = 400 * cycle + year + 1 := by omega
  have hjanuary := january_first hnext hyear
  rw [daysBeforeYear_succ] at hjanuary
  unfold yearLength at hjanuary
  split at hjanuary
  · rename_i hleap
    rw [if_pos hleap]
    omega
  · rename_i hleap
    rw [if_neg hleap]
    omega

/-- The month, counted from March, and the day that stand `rest` days after the first of March. -/
theorem month_of_rest (hrest : 0 ≤ rest ∧ rest ≤ 365) :
    ∃ month : Int, (5 * rest + 2) / 153 = month ∧ (0 ≤ month ∧ month ≤ 11) ∧
      (153 * month + 2) / 5 ≤ rest ∧ rest - (153 * month + 2) / 5 ≤ 30 ∧
      (month = 11 → rest - (153 * month + 2) / 5 ≤ 28) ∧
      (month = 1 ∨ month = 3 ∨ month = 6 ∨ month = 8 → rest - (153 * month + 2) / 5 ≤ 29) ∧
      (month = 11 → rest - (153 * month + 2) / 5 = 28 → rest = 365) := by
  obtain ⟨month, hmonth⟩ : ∃ month : Int, (5 * rest + 2) / 153 = month := ⟨_, rfl⟩
  have hlow : 0 ≤ month := by omega
  have hhigh : month ≤ 11 := by omega
  refine ⟨month, hmonth, ⟨hlow, hhigh⟩, ?_⟩
  interval_cases month <;> omega

theorem daysBeforeMonth_eq (y : Nat) (hm : 1 ≤ m ∧ m ≤ 12) :
    (daysBeforeMonth y m : Int) = (153 * (((m : Int) + 9) % 12) + 2) / 5
      + (if m ≤ 2 then -306 else if isLeap y then 60 else 59) := by
  obtain ⟨hlow, hhigh⟩ := hm
  cases hleap : isLeap y <;> interval_cases m <;> simp [daysBeforeMonth, monthLengths, hleap]

theorem dayNumber_eq (hm : 1 ≤ m ∧ m ≤ 12) (hd : 1 ≤ d)
    (hy : (y : Int) = 400 * cycle + year + if m ≤ 2 then 1 else 0) (hyear : 0 ≤ year ∧ year < 400) :
    (dayNumber y m d : Int) = 146097 * cycle + cycleDays year
      + ((153 * (((m : Int) + 9) % 12) + 2) / 5 + d - 1) + 60 := by
  have hmonths := daysBeforeMonth_eq y hm
  have hsum : (dayNumber y m d : Int) = daysBeforeYear y + daysBeforeMonth y m + (d - 1) := by
    unfold dayNumber
    omega
  rw [hsum, hmonths]
  by_cases hearly : m ≤ 2
  · rw [if_pos hearly] at hy ⊢
    rw [january_first hy hyear]
    ring
  · rw [if_neg hearly, add_zero] at hy
    rw [if_neg hearly]
    have hmarch := march_first hy hyear
    linarith

theorem dayExists_of_rest (hmonth : 0 ≤ month ∧ month ≤ 11)
    (hm : (m : Int) = if month < 10 then month + 3 else month - 9) (hd : 1 ≤ d ∧ d ≤ 31)
    (hshort : month = 1 ∨ month = 3 ∨ month = 6 ∨ month = 8 → d ≤ 30)
    (hfebruary : month = 11 → d ≤ 29) (hleap : month = 11 → d = 29 → isLeap y = true) :
    DayExists y m d := by
  refine ⟨hd.1, ?_⟩
  obtain ⟨hlow, hhigh⟩ := hmonth
  by_cases hlast : month = 11
  · subst hlast
    obtain rfl : m = 2 := by omega
    have hmost := hfebruary rfl
    by_cases h29 : d = 29
    · simp [monthLength, monthLengths, hleap rfl h29, h29]
    · simp only [monthLength, monthLengths]
      simp
      split <;> omega
  · clear hfebruary hleap
    interval_cases month <;> norm_num at hm hshort hlast <;> norm_cast at hm <;> subst hm <;>
      simp [monthLength, monthLengths] <;> omega

/-- A day of the source's calendar; the years before 0 are only said to be before. -/
structure Stands (days y m d : Int) : Prop where
  month : 1 ≤ m ∧ m ≤ 12
  day : 1 ≤ d ∧ d ≤ 31
  counted : ∀ n : Nat, y = n → DayExists n m.toNat d.toNat ∧
    (dayNumber n m.toNat d.toNat : Int) = days + 719528
  before : y < 0 → days + 719528 < 0

theorem stands_of_rest {m d y : Int} (hyear : 0 ≤ year ∧ year < 400) (hrest : 0 ≤ rest ∧ rest ≤ 365)
    (hleap : rest = 365 → (year + 1) % 4 = 0 ∧ ((year + 1) % 100 ≠ 0 ∨ (year + 1) % 400 = 0))
    (hmonth : (5 * rest + 2) / 153 = month) (hm : m = if month < 10 then month + 3 else month - 9)
    (hd : d = rest - (153 * month + 2) / 5 + 1)
    (hy : y = year + cycle * 400 + if m ≤ 2 then 1 else 0) :
    Stands (146097 * cycle + cycleDays year + rest - 719468) y m d := by
  obtain ⟨month', hmonth', hrange, hfrom, hto, hfebruary, hshort, hlast⟩ := month_of_rest hrest
  obtain rfl : month' = month := hmonth'.symm.trans hmonth
  have hmrange : 1 ≤ m ∧ m ≤ 12 := by
    rw [hm]
    split <;> omega
  have hdrange : 1 ≤ d ∧ d ≤ 31 := by omega
  have hshift : (m + 9) % 12 = month' := by
    rw [hm]
    split <;> omega
  refine ⟨hmrange, hdrange, ?_, ?_⟩
  · intro n hn
    have hmNat : (m.toNat : Int) = m := Int.toNat_of_nonneg (by omega)
    have hdNat : (d.toNat : Int) = d := Int.toNat_of_nonneg (by omega)
    have hearly : m.toNat ≤ 2 ↔ m ≤ 2 := by omega
    have hnyear : (n : Int) = 400 * cycle + year + if m.toNat ≤ 2 then 1 else 0 := by
      simp only [hearly]
      rw [← hn, hy]
      ring
    constructor
    · refine dayExists_of_rest hrange (hmNat.trans hm) (by omega) (fun h => ?_) (fun h => ?_) ?_
      · have := hshort h
        omega
      · have := hfebruary h
        omega
      · intro h11 h29
        have hrule := hleap (hlast h11 (by omega))
        have hearly' : m.toNat ≤ 2 := by
          rw [hearly, hm, h11]
          decide
        rw [if_pos hearly'] at hnyear
        rw [isLeap_iff]
        clear hshift hmonth hmonth' hfebruary hshort hlast hleap
        omega
    · rw [dayNumber_eq (by omega) (by omega) hnyear hyear, hmNat, hdNat, hshift, hd]
      ring
  · intro hneg
    -- The year 0 starts 366 days before the March its successor's cycle year starts with.
    have hcycle : cycle ≤ -1 := by
      by_contra hpos
      split at hy <;> omega
    unfold cycleDays
    by_cases hearly : m ≤ 2
    · rw [if_pos hearly] at hy
      clear hshift hmonth hmonth' hfebruary hshort hlast hleap hfrom hto hm hd
      omega
    · have hmost : rest ≤ 305 := by
        rw [hm] at hearly
        split at hearly <;> omega
      rw [if_neg hearly] at hy
      clear hshift hmonth hmonth' hfebruary hshort hlast hleap hfrom hto hm hd
      omega

theorem civilFromDays_ok {days : Int} (hlow : -2 ^ 62 ≤ days) (hhigh : days < 2 ^ 62) :
    ∃ y m d, civilFromDays days = .ok (y, m, d) ∧ Stands days y m d := by
  have hin : 0 ≤ (days + 719468) % 146097 ∧ (days + 719468) % 146097 < 146097 := by omega
  have hera : -2 ^ 62 ≤ (days + 719468) / 146097 * 400 ∧
      (days + 719468) / 146097 * 400 < 2 ^ 61 := by omega
  have hsplit : days = 146097 * ((days + 719468) / 146097) + (days + 719468) % 146097 - 719468 := by
    omega
  unfold civilFromDays
  rw [checked_bind (by omega) (by omega)]
  generalize (days + 719468) / 146097 = cycle at hera hsplit ⊢
  generalize (days + 719468) % 146097 = day at hin hsplit ⊢
  obtain ⟨year, rest, hyear, hday, hyears, hrest, hleap⟩ := cycle_year hin.1 hin.2
  obtain ⟨month, hmonth, hrange, hfrom, hto, -⟩ := month_of_rest hrest
  have hpassed : day - (365 * year + year / 4 - year / 100) = rest := by
    rw [hday, cycleDays]
    ring
  obtain ⟨y, m, d, hm, hd, hy⟩ : ∃ y m d : Int,
      m = (if month < 10 then month + 3 else month - 9) ∧ d = rest - (153 * month + 2) / 5 + 1 ∧
      y = year + cycle * 400 + (if m ≤ 2 then 1 else 0) := ⟨_, _, _, rfl, rfl, rfl⟩
  have hstands : Stands days y m d := by
    rw [hsplit, hday, ← add_assoc]
    exact stands_of_rest hyears hrest hleap hmonth hm hd hy
  refine ⟨y, m, d, ?_, hstands⟩
  obtain ⟨hmonths, hdays, -, -⟩ := hstands
  clear hleap hsplit hday
  -- The year of the cycle, then the day of the year.
  dsimp only
  rw [Int.tdiv_eq_ediv_of_nonneg hin.1, Int.tdiv_eq_ediv_of_nonneg hin.1,
    Int.tdiv_eq_ediv_of_nonneg hin.1]
  iterate 3 rw [checked_bind (by omega) (by omega)]
  rw [Int.tdiv_eq_ediv_of_nonneg (by omega), hyear]
  clear hyear
  rw [Int.tdiv_eq_ediv_of_nonneg hyears.1, Int.tdiv_eq_ediv_of_nonneg hyears.1]
  iterate 3 rw [checked_bind (by omega) (by omega)]
  rw [hpassed]
  clear hpassed
  -- The month since March and the day of the month.
  iterate 3 rw [checked_bind (by omega) (by omega)]
  rw [Int.tdiv_eq_ediv_of_nonneg (by omega), hmonth]
  clear hmonth
  iterate 2 rw [checked_bind (by omega) (by omega)]
  rw [Int.tdiv_eq_ediv_of_nonneg (by omega)]
  iterate 2 rw [checked_bind (by omega) (by omega)]
  rw [← hd]
  clear hfrom hto hd
  have hresult : (do
      let eraYears ← checked (cycle * 400)
      let year ← checked (year + eraYears)
      let year ← checked (year + if m ≤ 2 then 1 else 0)
      pure (year, asU32 m, asU32 d)) = Except.ok (y, m, d) := by
    have hbit : 0 ≤ (if m ≤ 2 then (1 : Int) else 0) ∧ (if m ≤ 2 then (1 : Int) else 0) ≤ 1 := by
      split <;> decide
    have hmonth32 : asU32 m = m := Int.emod_eq_of_lt (by omega) (by omega)
    have hday32 : asU32 d = d := Int.emod_eq_of_lt (by omega) (by omega)
    generalize (if m ≤ 2 then (1 : Int) else 0) = bit at hy hbit ⊢
    iterate 3 rw [checked_bind (by omega) (by omega)]
    rw [hmonth32, hday32, hy]
    rfl
  by_cases hearly : month < 10
  · rw [if_pos hearly] at hm ⊢
    rw [checked_bind (by omega) (by omega), ← hm]
    exact hresult
  · rw [if_neg hearly] at hm ⊢
    rw [checked_bind (by omega) (by omega), ← hm]
    exact hresult

theorem daysInMonth_eq (hm : 1 ≤ m ∧ m ≤ 12) : daysInMonth y m = monthLength y m := by
  have hfour : (y : Int).tmod 4 = ((y % 4 : Nat) : Int) := rfl
  have hhundred : (y : Int).tmod 100 = ((y % 100 : Nat) : Int) := rfl
  have hcycle : (y : Int).tmod 400 = ((y % 400 : Nat) : Int) := rfl
  have hrule : ((y : Int).tmod 4 = 0 ∧ ((y : Int).tmod 100 ≠ 0 ∨ (y : Int).tmod 400 = 0))
      ↔ isLeap y = true := by
    rw [hfour, hhundred, hcycle, isLeap_iff]
    norm_cast
  unfold daysInMonth
  simp only [hrule]
  obtain ⟨hlow, hhigh⟩ := hm
  interval_cases m <;> simp [monthLength, monthLengths]

theorem daysFromCivil_ok (hy : y ≤ 9999) (hday : DayExists y m d) :
    daysFromCivil y m d = .ok (dayNumber y m d - 719528) := by
  have hm := month_of_dayExists hday
  have hd : 1 ≤ d ∧ d ≤ 31 := by
    refine ⟨hday.1, hday.2.trans ?_⟩
    obtain ⟨hlow, hhigh⟩ := hm
    interval_cases m <;> simp [monthLength, monthLengths]
    split <;> decide
  obtain ⟨shifted, hshifted⟩ : ∃ shifted : Int, shifted = (y : Int) - if m ≤ 2 then 1 else 0 :=
    ⟨_, rfl⟩
  have hfirst : yearFromMarch y m = .ok shifted := by
    unfold yearFromMarch
    by_cases hearly : m ≤ 2
    · rw [if_pos (by omega), checked_ok (by omega) (by omega), hshifted, if_pos hearly]
    · rw [if_neg (by omega), hshifted, if_neg hearly, sub_zero]
  have hyear : (y : Int) = 400 * (shifted / 400) + shifted % 400 + if m ≤ 2 then 1 else 0 := by
    rw [Int.mul_ediv_add_emod, hshifted]
    ring
  have hrange : 0 ≤ shifted % 400 ∧ shifted % 400 < 400 := by omega
  have hcycles : -1 ≤ shifted / 400 ∧ shifted / 400 ≤ 24 := by
    split at hshifted <;> omega
  have hnumber := dayNumber_eq hm hday.1 hyear hrange
  unfold daysFromCivil
  have hmod : ((m : Int) + 9).tmod 12 = ((m : Int) + 9) % 12 :=
    Int.tmod_eq_emod_of_nonneg (by omega)
  have hshift : 0 ≤ ((m : Int) + 9) % 12 ∧ ((m : Int) + 9) % 12 < 12 := by omega
  rw [hfirst, ok_bind]
  dsimp only
  rw [checked_bind (by omega) (by omega), hmod]
  rw [hnumber]
  clear hnumber hyear hfirst hshifted hday hmod
  generalize ((m : Int) + 9) % 12 = month at hshift ⊢
  generalize shifted / 400 = cycle at hcycles ⊢
  generalize shifted % 400 = year at hrange ⊢
  rw [checked_bind (by omega) (by omega), checked_bind (by omega) (by omega),
    Int.tdiv_eq_ediv_of_nonneg (by omega), Int.tdiv_eq_ediv_of_nonneg hrange.1,
    Int.tdiv_eq_ediv_of_nonneg hrange.1]
  iterate 8 rw [checked_bind (by omega) (by omega)]
  rw [checked_ok (by omega) (by omega)]
  unfold cycleDays
  congr 1
  ring

end Tidegard.Common.Proofs.Civil
