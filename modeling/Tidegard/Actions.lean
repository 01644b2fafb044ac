import Mathlib

namespace Tidegard.Actions

/-- A computation that reads an environment, changes a state and may fail. A failure keeps the
changes made before it. -/
def Action (ρ σ ε α : Type) : Type := ρ → σ → Except ε α × σ

variable {ρ σ ε α β γ : Type}

namespace Action

protected def pure (a : α) : Action ρ σ ε α := fun _ s => (.ok a, s)

protected def bind (x : Action ρ σ ε α) (f : α → Action ρ σ ε β) : Action ρ σ ε β := fun r s =>
  match x r s with
  | (.ok a, t) => f a r t
  | (.error e, t) => (.error e, t)

instance : Monad (Action ρ σ ε) where
  pure := Action.pure
  bind := Action.bind

protected def throw (e : ε) : Action ρ σ ε α := fun _ s => (.error e, s)

def ofExcept (x : Except ε α) : Action ρ σ ε α := fun _ s => (x, s)

protected def get : Action ρ σ ε σ := fun _ s => (.ok s, s)

protected def modify (f : σ → σ) : Action ρ σ ε Unit := fun _ s => (.ok (), f s)

/-- Run `x` and look at its outcome; its failure is not propagated. -/
def attempt (x : Action ρ σ ε α) : Action ρ σ ε (Except ε α) := fun r s =>
  (.ok (x r s).1, (x r s).2)

theorem map_id (x : Action ρ σ ε α) : id <$> x = x := by
  funext r s
  change Action.bind x Action.pure r s = x r s
  unfold Action.bind
  rcases x r s with ⟨e | a, t⟩ <;> rfl

theorem bind_then (x : Action ρ σ ε α) (f : α → Action ρ σ ε β) (g : β → Action ρ σ ε γ) :
    x >>= f >>= g = x >>= fun a => f a >>= g := by
  funext r s
  change Action.bind (Action.bind x f) g r s = Action.bind x (fun a => Action.bind (f a) g) r s
  unfold Action.bind
  rcases x r s with ⟨e | a, t⟩ <;> rfl

instance : LawfulMonad (Action ρ σ ε) :=
  LawfulMonad.mk' (Action ρ σ ε) map_id (fun _ _ => rfl) bind_then

@[simp] theorem ofExcept_ok_bind (a : α) (f : α → Action ρ σ ε β) :
    ofExcept (.ok a) >>= f = f a := rfl

section Outcomes

variable {x : Action ρ σ ε α} {f : α → Action ρ σ ε β} {r : ρ} {s t : σ}
variable {o : Except ε α}
variable {a : α}

theorem bind_ok {b : β} :
    (x >>= f) r s = (.ok b, t) ↔ ∃ a m, x r s = (.ok a, m) ∧ f a r m = (.ok b, t) := by
  change Action.bind x f r s = _ ↔ _
  unfold Action.bind
  split
  · rename_i a m h
    constructor
    · exact fun hf => ⟨a, m, h, hf⟩
    · rintro ⟨a', m', h', hf⟩
      rw [h] at h'
      cases h'
      exact hf
  · rename_i e m h
    constructor
    · intro he
      cases he
    · rintro ⟨a', m', h', -⟩
      rw [h] at h'
      cases h'

theorem bind_error {e : ε} :
    (x >>= f) r s = (.error e, t) ↔
      x r s = (.error e, t) ∨ ∃ a m, x r s = (.ok a, m) ∧ f a r m = (.error e, t) := by
  change Action.bind x f r s = _ ↔ _
  unfold Action.bind
  split
  · rename_i a m h
    constructor
    · exact fun hf => Or.inr ⟨a, m, h, hf⟩
    · rintro (h' | ⟨a', m', h', hf⟩)
      · rw [h] at h'
        cases h'
      · rw [h] at h'
        cases h'
        exact hf
  · rename_i e' m h
    constructor
    · intro he
      cases he
      exact Or.inl h
    · rintro (h' | ⟨a', m', h', -⟩)
      · rw [h] at h'
        cases h'
        rfl
      · rw [h] at h'
        cases h'

theorem bind_of_ok (h : x r s = (.ok a, t)) : (x >>= f) r s = f a r t := by
  change Action.bind x f r s = _
  unfold Action.bind
  rw [h]

theorem bind_pure_apply {g : α → β} :
    (x >>= fun a => pure (g a)) r s = ((x r s).1.map g, (x r s).2) := by
  change Action.bind x _ r s = _
  unfold Action.bind
  rcases x r s with ⟨e | a, t⟩ <;> rfl

@[simp] theorem pure_eq : (pure a : Action ρ σ ε α) r s = (o, t) ↔ o = .ok a ∧ t = s := by
  change ((.ok a, s) : Except ε α × σ) = _ ↔ _
  rw [Prod.mk.injEq]
  exact ⟨fun h => ⟨h.1.symm, h.2.symm⟩, fun h => ⟨h.1.symm, h.2.symm⟩⟩

@[simp] theorem ofExcept_eq {y : Except ε α} :
    (ofExcept y : Action ρ σ ε α) r s = (o, t) ↔ y = o ∧ t = s := by
  unfold ofExcept
  rw [Prod.mk.injEq]
  exact ⟨fun h => ⟨h.1, h.2.symm⟩, fun h => ⟨h.1, h.2.symm⟩⟩

@[simp] theorem attempt_eq {o : Except ε (Except ε α)} :
    attempt x r s = (o, t) ↔ ∃ y, o = .ok y ∧ x r s = (y, t) := by
  unfold attempt
  rw [Prod.mk.injEq]
  constructor
  · rintro ⟨rfl, rfl⟩
    exact ⟨_, rfl, rfl⟩
  · rintro ⟨y, rfl, h⟩
    rw [h]
    exact ⟨rfl, rfl⟩

end Outcomes

/-- The outcome and the state `x` ends in meet `Q`. -/
def Ends (x : Action ρ σ ε α) (r : ρ) (s : σ) (Q : Except ε α → σ → Prop) : Prop :=
  Q (x r s).1 (x r s).2

section Ends

variable {x : Action ρ σ ε α} {f : α → Action ρ σ ε β} {r : ρ} {s : σ}

/-- A sequence ends well when the rest does after every success of the first part, and every
failure of the first part is already a good end. -/
theorem Ends.bind {Q : Except ε β → σ → Prop}
    (success : ∀ a t, x r s = (.ok a, t) → (f a).Ends r t Q)
    (failure : ∀ e t, x r s = (.error e, t) → Q (.error e) t) : (x >>= f).Ends r s Q := by
  rcases h : x r s with ⟨e | a, t⟩
  · have hb : (x >>= f) r s = (.error e, t) := bind_error.mpr (Or.inl h)
    unfold Ends
    rw [hb]
    exact failure e t h
  · unfold Ends
    rw [bind_of_ok h]
    exact success a t h

theorem Ends.mono {Q Q' : Except ε α → σ → Prop} (h : x.Ends r s Q)
    (imp : ∀ o t, Q o t → Q' o t) : x.Ends r s Q' := imp _ _ h

end Ends

/-- What holds of the state before holds of the state after, whatever the outcome. -/
def Keeps (x : Action ρ σ ε α) (r : ρ) (I : σ → Prop) : Prop := ∀ s, I s → I (x r s).2

section Keeps

variable {x : Action ρ σ ε α} {f : α → Action ρ σ ε β} {r : ρ} {I : σ → Prop}

theorem Keeps.pure (a : α) : (pure a : Action ρ σ ε α).Keeps r I := fun _ h => h

theorem Keeps.throw (e : ε) : (Action.throw e : Action ρ σ ε α).Keeps r I := fun _ h => h

theorem Keeps.attempt (hx : x.Keeps r I) : x.attempt.Keeps r I := fun s h => hx s h

/-- The rest of a sequence is asked to keep only what can be reached. -/
theorem Keeps.bind_reached (hx : x.Keeps r I)
    (hf : ∀ s a t, I s → I t → x r s = (.ok a, t) → I (f a r t).2) : (x >>= f).Keeps r I := by
  intro s h
  have ht := hx s h
  rcases hxs : x r s with ⟨e | a, t⟩
  · have hb : (x >>= f) r s = (.error e, t) := bind_error.mpr (Or.inl hxs)
    rw [hb]
    rwa [hxs] at ht
  · rw [bind_of_ok hxs]
    rw [hxs] at ht
    exact hf s a t h ht hxs

theorem Keeps.bind (hx : x.Keeps r I) (hf : ∀ a, (f a).Keeps r I) : (x >>= f).Keeps r I := by
  apply hx.bind_reached
  intro s a t _ ht _
  exact hf a t ht

theorem Keeps.bind_attempt {f : Except ε α → Action ρ σ ε β} (hx : x.Keeps r I)
    (hf : ∀ s o t, I s → I t → x r s = (o, t) → I (f o r t).2) :
    (x.attempt >>= f).Keeps r I := by
  apply hx.attempt.bind_reached
  intro s o t h ht hxs
  obtain ⟨o', ho, hx'⟩ := attempt_eq.mp hxs
  cases ho
  exact hf s o t h ht hx'

end Keeps

end Action

end Tidegard.Actions
