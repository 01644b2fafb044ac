import Mathlib

namespace Tidegard.Indexes

variable {κ ι : Type*}

/-- The index lists under each key the one item that holds it. -/
def Exact (index : κ → Option ι) (holds : ι → κ → Prop) : Prop :=
  ∀ k x, index k = some x ↔ holds x k

variable {index index' : κ → Option ι} {holds holds' : ι → κ → Prop} {k : κ} {a : ι}

theorem Exact.unique (h : Exact index holds) (hx : holds x k) (hy : holds y k) : x = y := by
  have hkx := (h k x).mpr hx
  have hky := (h k y).mpr hy
  exact Option.some.inj (hkx.symm.trans hky)

theorem Exact.keep (h : Exact index holds) (hindex : ∀ k', index' k' = index k')
    (hholds : ∀ x k', holds' x k' ↔ holds x k') : Exact index' holds' := by
  intro k' x
  rw [hindex, hholds]
  exact h k' x

theorem Exact.claim [DecidableEq κ] (h : Exact index holds) (free : index k = none)
    (hindex : ∀ k', index' k' = if k = k' then some a else index k')
    (hholds : ∀ x k', holds' x k' ↔ holds x k' ∨ x = a ∧ k' = k) : Exact index' holds' := by
  intro k' x
  rw [hindex, hholds]
  by_cases hk : k = k'
  · subst hk
    have hnone : ¬ holds x k := by
      intro hx
      have := (h k x).mpr hx
      rw [free] at this
      cases this
    simp only [if_true, Option.some.injEq, hnone, false_or, and_true]
    exact eq_comm
  · simp only [hk, if_false, Ne.symm hk, and_false, or_false]
    exact h k' x

theorem Exact.release [DecidableEq κ] (h : Exact index holds) (held : holds a k)
    (hindex : ∀ k', index' k' = if k = k' then none else index k')
    (hholds : ∀ x k', holds' x k' ↔ holds x k' ∧ ¬ (x = a ∧ k' = k)) : Exact index' holds' := by
  intro k' x
  rw [hindex, hholds]
  by_cases hk : k = k'
  · subst hk
    simp only [if_true, and_true, false_iff, not_and, not_not, reduceCtorEq]
    intro hx
    exact h.unique hx held
  · simp only [hk, if_false, Ne.symm hk, and_false, not_false_eq_true, and_true]
    exact h k' x

end Tidegard.Indexes
