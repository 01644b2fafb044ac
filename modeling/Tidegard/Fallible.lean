import Mathlib

namespace Tidegard.Fallible

universe u v

variable {ε : Type u} {α β : Type v}

/-- A sequence succeeds exactly when its first part does and the rest does after it. -/
theorem bind_eq_ok {x : Except ε α} {f : α → Except ε β} {b : β} :
    x >>= f = .ok b ↔ ∃ a, x = .ok a ∧ f a = .ok b := by
  cases x with
  | error e => constructor <;> simp [bind, Except.bind]
  | ok a => simp [bind, Except.bind]

theorem ok_bind (a : α) (f : α → Except ε β) : Except.ok a >>= f = f a := rfl

@[simp] theorem pure_eq_ok : (pure a : Except ε α) = .ok b ↔ a = b := by
  simp [pure, Except.pure]

theorem mapError_eq_ok {ε' : Type*} {f : ε → ε'} {x : Except ε α} {a : α} :
    x.mapError f = .ok a ↔ x = .ok a := by
  cases x with
  | error e => constructor <;> simp [Except.mapError]
  | ok b => simp [Except.mapError]

theorem foldlM_keeps {f : β → α → Except ε β} {I : β → Prop} {l : List α}
    (step : ∀ a ∈ l, ∀ b b', I b → f b a = .ok b' → I b') {b b' : β}
    (h : l.foldlM f b = .ok b') (hb : I b) : I b' := by
  induction l generalizing b with
  | nil =>
    cases h
    exact hb
  | cons a l ih =>
    rw [List.foldlM_cons] at h
    obtain ⟨c, hc, hrest⟩ := bind_eq_ok.mp h
    exact ih (fun a' ha' => step a' (List.mem_cons_of_mem _ ha')) hrest
      (step a List.mem_cons_self b c hb hc)

/-- Every failure of `x` is one that `P` admits. -/
structure Fails (P : ε → Prop) (x : Except ε α) : Prop where
  admits : ∀ e, x = .error e → P e

section Fails

variable {x : Except ε α}

theorem Fails.ok (a : α) : Fails P (.ok a : Except ε α) where
  admits e h := by cases h

theorem Fails.error (h : P e) : Fails P (.error e : Except ε α) where
  admits e' he := by
    cases he
    exact h

theorem Fails.bind (hx : Fails P x) (hf : ∀ a, Fails P (f a)) : Fails P (x >>= f) := by
  cases x with
  | error e => exact .error (hx.admits e rfl)
  | ok a => exact hf a

theorem Fails.ite {c : Prop} [Decidable c] (hx : Fails P x) (hy : Fails P y) :
    Fails P (if c then x else y) := by
  split
  · exact hx
  · exact hy

theorem Fails.map (hx : Fails P x) : Fails P (x.map f) := by
  cases x with
  | error e => exact .error (hx.admits e rfl)
  | ok a => exact .ok _

end Fails

end Tidegard.Fallible
