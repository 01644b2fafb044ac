import Mathlib

namespace Tidegard.Gregorian

variable {y : Nat}
variable {m d : Nat}

/-! The proleptic Gregorian calendar from the year 0 on, by counting days. -/

def isLeap (y : Nat) : Bool := y % 4 = 0 && (y % 100 ≠ 0 || y % 400 = 0)

def yearLength (y : Nat) : Nat := if isLeap y then 366 else 365

def monthLengths (y : Nat) : List Nat :=
  [31, if isLeap y then 29 else 28, 31, 30, 31, 30, 31, 31, 30, 31, 30, 31]

/-- The months are counted from 1; there is no other month. -/
def monthLength (y m : Nat) : Nat := if m = 0 then 0 else ((monthLengths y)[m - 1]?).getD 0

def DayExists (y m d : Nat) : Prop := 1 ≤ d ∧ d ≤ monthLength y m

/-- The days from the first of January of the year 0 to that of the year `y`. -/
def daysBeforeYear (y : Nat) : Nat := ((List.range y).map yearLength).sum

def daysBeforeMonth (y m : Nat) : Nat := ((monthLengths y).take (m - 1)).sum

/-- The days from the first of January of the year 0 to the day. -/
def dayNumber (y m d : Nat) : Nat := daysBeforeYear y + daysBeforeMonth y m + (d - 1)

theorem daysBeforeYear_succ (y : Nat) : daysBeforeYear (y + 1) = daysBeforeYear y + yearLength y := by
  simp [daysBeforeYear, List.range_succ]

theorem isLeap_iff : isLeap y = true ↔ y % 4 = 0 ∧ (y % 100 ≠ 0 ∨ y % 400 = 0) := by
  simp [isLeap]

/-- Every fourth year is a leap year but for three centuries of four. -/
theorem daysBeforeYear_eq (y : Nat) :
    daysBeforeYear y + (y + 99) / 100 = 365 * y + (y + 3) / 4 + (y + 399) / 400 := by
  induction y with
  | zero => rfl
  | succ =>
    rw [daysBeforeYear_succ]
    unfold yearLength
    split
    · rename_i hleap
      rw [isLeap_iff] at hleap
      omega
    · rename_i hleap
      rw [isLeap_iff] at hleap
      omega

theorem month_of_dayExists (h : DayExists y m d) : 1 ≤ m ∧ m ≤ 12 := by
  obtain ⟨hlow, hhigh⟩ := h
  by_contra hout
  have hnone : monthLength y m = 0 := by
    unfold monthLength
    by_cases hm : m = 0
    · rw [if_pos hm]
    · have hlen : (monthLengths y).length ≤ m - 1 := by
        change 12 ≤ m - 1
        omega
      rw [if_neg hm, List.getElem?_eq_none hlen]
      rfl
  omega

theorem dayNumber_lt (h : DayExists y m d) : dayNumber y m d < daysBeforeYear (y + 1) := by
  obtain ⟨hlow, hhigh⟩ := month_of_dayExists h
  obtain ⟨hd, hlen⟩ := h
  rw [daysBeforeYear_succ]
  unfold dayNumber yearLength
  cases hleap : isLeap y <;> interval_cases m <;>
    simp [monthLength, monthLengths, daysBeforeMonth, hleap] at hlen ⊢ <;> omega

theorem daysBeforeYear_mono {a b : Nat} (h : a ≤ b) : daysBeforeYear a ≤ daysBeforeYear b := by
  induction h with
  | refl => exact le_rfl
  | step _ ih => exact ih.trans (by rw [daysBeforeYear_succ]; omega)

end Tidegard.Gregorian
