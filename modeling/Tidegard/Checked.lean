import Tidegard.Actions

namespace Tidegard.Checked

open Actions

/-- How code ends without a value: with an error it reports, by an index or a subtraction out of
range, or because a loop was given too few turns. -/
inductive Fault (ε : Type) where
  | failed (e : ε)
  | panicked
  | exhausted
  deriving DecidableEq

variable {ε α β ρ σ : Type}

def failIf (bad : Prop) [Decidable bad] (e : ε) : Except (Fault ε) Unit :=
  if bad then .error (.failed e) else .ok ()

/-- `a - b` on unsigned integers. -/
def sub (a b : Nat) : Except (Fault ε) Nat := if b ≤ a then .ok (a - b) else .error .panicked

/-- `input[i]`. -/
def index (input : List α) (i : Nat) : Except (Fault ε) α :=
  match input[i]? with
  | some a => .ok a
  | none => .error .panicked

/-- `&input[start..]`. -/
def sliceFrom (input : List α) (start : Nat) : Except (Fault ε) (List α) :=
  if start ≤ input.length then .ok (input.drop start) else .error .panicked

/-- `&input[start..stop]`. -/
def slice (input : List α) (start stop : Nat) : Except (Fault ε) (List α) :=
  if start ≤ stop ∧ stop ≤ input.length then .ok ((input.take stop).drop start)
  else .error .panicked

/-- A value meets `Q`, a reported error is allowed, and nothing else happens. -/
def Safe (Q : α → Prop) : Except (Fault ε) α → Prop
  | .ok a => Q a
  | .error (.failed _) => True
  | .error _ => False

section Safe

theorem Safe.bind (hx : Safe Q x) (hf : ∀ a, Q a → Safe R (f a)) : Safe R (x >>= f) := by
  cases x with
  | ok a => exact hf a hx
  | error fault =>
    cases fault with
    | failed => trivial
    | panicked | exhausted => exact hx.elim

theorem Safe.mono (hx : Safe Q x) (imp : ∀ a, Q a → Q' a) : Safe Q' x := by
  cases x with
  | ok a => exact imp a hx
  | error fault => cases fault <;> exact hx

theorem Safe.of_ok (hx : Safe Q x) (h : x = .ok a) : Q a := by
  rw [h] at hx
  exact hx

theorem Safe.of_error (hx : Safe Q x) (h : x = .error f) : ∃ e, f = .failed e := by
  rw [h] at hx
  cases f with
  | failed e => exact ⟨e, rfl⟩
  | panicked | exhausted => exact hx.elim

theorem Safe.failIf (bad : Prop) [Decidable bad] (e : ε) : Safe (fun _ => ¬bad) (failIf bad e) := by
  unfold Checked.failIf
  by_cases h : bad
  · rw [if_pos h]
    trivial
  · rw [if_neg h]
    exact h

theorem Safe.sub (h : b ≤ a) : Safe (· = a - b) (sub a b : Except (Fault ε) Nat) := by
  unfold Checked.sub
  rw [if_pos h]
  exact rfl

theorem Safe.index (h : i < input.length) :
    Safe (fun _ => True) (index input i : Except (Fault ε) α) := by
  unfold Checked.index
  rw [List.getElem?_eq_getElem h]
  trivial

theorem Safe.sliceFrom (h : start ≤ input.length) :
    Safe (fun s => s.length = input.length - start)
      (sliceFrom input start : Except (Fault ε) (List α)) := by
  unfold Checked.sliceFrom
  rw [if_pos h]
  exact List.length_drop

theorem Safe.slice (h : start ≤ stop) (hlen : stop ≤ input.length) :
    Safe (fun s => s.length = stop - start) (slice input start stop : Except (Fault ε) (List α)) := by
  unfold Checked.slice
  rw [if_pos ⟨h, hlen⟩]
  change ((input.take stop).drop start).length = stop - start
  rw [List.length_drop, List.length_take, Nat.min_eq_left hlen]

end Safe

/-- The computation is safe from `s`, and leaves a state that meets `I` whatever happens. -/
def SafeFrom (x : Action ρ σ (Fault ε) α) (r : ρ) (s : σ) (I : σ → Prop) (Q : α → σ → Prop) :
    Prop :=
  x.Ends r s fun o t => Safe (fun a => Q a t) o ∧ I t

section SafeFrom

theorem SafeFrom.bind (hx : SafeFrom x r s I Q)
    (hf : ∀ a t, Q a t → I t → SafeFrom (f a) r t I R) : SafeFrom (x >>= f) r s I R := by
  unfold SafeFrom Action.Ends at hx
  apply Action.Ends.bind
  · intro a t h
    rw [h] at hx
    exact hf a t hx.1 hx.2
  · intro e t h
    rw [h] at hx
    cases e with
    | failed => exact ⟨trivial, hx.2⟩
    | panicked | exhausted => exact hx.1.elim

theorem SafeFrom.pure (hs : I s) (h : Q a s) :
    SafeFrom (pure a : Action ρ σ (Fault ε) α) r s I Q := ⟨h, hs⟩

theorem SafeFrom.ofExcept (hs : I s) (hy : Safe P y)
    (imp : ∀ a, P a → Q a s) : SafeFrom (Action.ofExcept y : Action ρ σ (Fault ε) α) r s I Q :=
  ⟨hy.mono imp, hs⟩

theorem SafeFrom.get (hs : I s) :
    SafeFrom (Action.get : Action ρ σ (Fault ε) σ) r s I fun a t => a = s ∧ t = s :=
  ⟨⟨rfl, rfl⟩, hs⟩

theorem SafeFrom.modify (hs : I (g s)) (h : Q () (g s)) :
    SafeFrom (Action.modify g : Action ρ σ (Fault ε) Unit) r s I Q := ⟨h, hs⟩

end SafeFrom

end Tidegard.Checked
