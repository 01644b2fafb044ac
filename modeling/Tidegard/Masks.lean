import Mathlib

namespace Tidegard.Masks

variable {w : Nat}
variable {length : Nat}

/-- The leading `length` bits, the others cleared. -/
def maskBits (bits : BitVec w) (length : Nat) : BitVec w :=
  if length = 0 then 0 else bits &&& (BitVec.allOnes w <<< (w - length))

theorem getLsbD_maskBits (bits : BitVec w) (length i : Nat) (hl : length ≤ w) :
    (maskBits bits length).getLsbD i = (decide (w - length ≤ i) && bits.getLsbD i) := by
  unfold maskBits
  by_cases h : length = 0
  · rw [if_pos h]
    by_cases hi : i < w
    · have : ¬ w - length ≤ i := by omega
      simp [this]
    · simp [BitVec.getLsbD_of_ge bits i (by omega)]
  · rw [if_neg h]
    by_cases hi : i < w
    · by_cases hs : w - length ≤ i
      · simp [hi, hs, show ¬ i < w - length by omega]
      · simp [hs, show i < w - length by omega]
    · simp [BitVec.getLsbD_of_ge bits i (by omega)]

theorem maskBits_eq_iff (x y : BitVec w) (hl : length ≤ w) :
    maskBits x length = maskBits y length ↔
      ∀ i, w - length ≤ i → x.getLsbD i = y.getLsbD i := by
  constructor
  · intro h i hi
    have hbit := congrArg (·.getLsbD i) h
    simpa [getLsbD_maskBits, hl, hi] using hbit
  · intro h
    apply BitVec.eq_of_getLsbD_eq
    intro i _
    rw [getLsbD_maskBits x length i hl, getLsbD_maskBits y length i hl]
    by_cases hi : w - length ≤ i
    · simp [hi, h i hi]
    · simp [hi]

theorem maskBits_eq_iff_leading (x y : BitVec w) (hl : length ≤ w) :
    maskBits x length = maskBits y length ↔ ∀ i < length, x.getMsbD i = y.getMsbD i := by
  rw [maskBits_eq_iff x y hl]
  constructor
  · intro h i hi
    rw [BitVec.getMsbD_eq_getLsbD, BitVec.getMsbD_eq_getLsbD, h (w - 1 - i) (by omega)]
  · intro h i hi
    by_cases hw : i < w
    · have hbit := h (w - 1 - i) (by omega)
      rw [BitVec.getMsbD_eq_getLsbD, BitVec.getMsbD_eq_getLsbD] at hbit
      simpa [show w - 1 - i < w by omega, show w - 1 - (w - 1 - i) = i by omega] using hbit
    · rw [BitVec.getLsbD_of_ge x i (by omega), BitVec.getLsbD_of_ge y i (by omega)]

theorem maskBits_maskBits (x : BitVec w) {length' : Nat} (hl : length ≤ w) (hle : length' ≤ length) :
    maskBits (maskBits x length) length' = maskBits x length' := by
  rw [maskBits_eq_iff _ _ (hle.trans hl)]
  intro i hi
  rw [getLsbD_maskBits x length i hl]
  simp [show w - length ≤ i by omega]

theorem exists_agreeing (x : BitVec w) (hl : length < w) :
    ∃ y : BitVec w, maskBits y length = maskBits x length ∧
      ∀ longer, length < longer → longer ≤ w → maskBits y longer ≠ maskBits x longer := by
  refine ⟨x ^^^ BitVec.twoPow w (w - length - 1), ?_, ?_⟩
  · rw [maskBits_eq_iff _ _ hl.le]
    intro i hi
    simp [show ¬ (w - length - 1 = i) by omega]
  · intro longer hlonger hle h
    have hbit := (maskBits_eq_iff _ _ hle).mp h (w - length - 1) (by omega)
    simp [show w - length - 1 < w by omega] at hbit

end Tidegard.Masks
