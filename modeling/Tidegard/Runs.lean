import Mathlib

namespace Tidegard.Runs

variable {α : Type*}

/-- A deterministic machine: what one input answers, and the state it leaves. -/
structure Machine (σ ι ω : Type*) where
  step : σ → ι → ω × σ

/-- One step of a run, with the states on both sides of it. -/
structure Step (σ ι ω : Type*) where
  before : σ
  input : ι
  output : ω
  after : σ

variable {σ ι ω : Type*}

def Machine.stepAt (m : Machine σ ι ω) (s : σ) (i : ι) : Step σ ι ω :=
  ⟨s, i, (m.step s i).1, (m.step s i).2⟩

section

variable (m : Machine σ ι ω) (s : σ) (i : ι)

@[simp] theorem Machine.stepAt_before :
    (m.stepAt s i).before = s := rfl

@[simp] theorem Machine.stepAt_input :
    (m.stepAt s i).input = i := rfl

@[simp] theorem Machine.stepAt_output :
    (m.stepAt s i).output = (m.step s i).1 := rfl

@[simp] theorem Machine.stepAt_after :
    (m.stepAt s i).after = (m.step s i).2 := rfl

end

/-- The state a list of inputs leads to. -/
def Machine.run (m : Machine σ ι ω) : σ → List ι → σ
  | s, [] => s
  | s, i :: is => m.run (m.step s i).2 is

/-- The steps a list of inputs takes, in order. -/
def Machine.trace (m : Machine σ ι ω) : σ → List ι → List (Step σ ι ω)
  | _, [] => []
  | s, i :: is => m.stepAt s i :: m.trace (m.step s i).2 is

section

variable (m : Machine σ ι ω)

@[simp] theorem Machine.run_nil (s : σ) : m.run s [] = s := rfl

@[simp] theorem Machine.trace_nil (s : σ) : m.trace s [] = [] := rfl

theorem Machine.run_append (s : σ) (is js : List ι) :
    m.run s (is ++ js) = m.run (m.run s is) js := by
  induction is generalizing s with
  | nil => rfl
  | cons i is ih => exact ih _

theorem Machine.trace_append (s : σ) (is js : List ι) :
    m.trace s (is ++ js) = m.trace s is ++ m.trace (m.run s is) js := by
  induction is generalizing s with
  | nil => rfl
  | cons i is ih => exact congrArg (m.stepAt s i :: ·) (ih _)

@[simp] theorem Machine.run_snoc (s : σ) (is : List ι) (i : ι) :
    m.run s (is ++ [i]) = (m.step (m.run s is) i).2 := m.run_append s is [i]

@[simp] theorem Machine.trace_snoc (s : σ) (is : List ι) (i : ι) :
    m.trace s (is ++ [i]) = m.trace s is ++ [m.stepAt (m.run s is) i] := m.trace_append s is [i]

theorem Machine.map_input_trace (s : σ) (is : List ι) :
    (m.trace s is).map Step.input = is := by
  induction is generalizing s with
  | nil => rfl
  | cons i is ih => exact congrArg (i :: ·) (ih _)

theorem Machine.mem_trace :
    st ∈ m.trace s is ↔ ∃ past i rest, is = past ++ i :: rest ∧ st = m.stepAt (m.run s past) i := by
  induction is generalizing s with
  | nil => simp
  | cons j is ih =>
    change st ∈ m.stepAt s j :: m.trace (m.step s j).2 is ↔ _
    rw [List.mem_cons, ih]
    constructor
    · rintro (h | ⟨past, i, rest, hsplit, h⟩)
      · exact ⟨[], j, is, rfl, h⟩
      · exact ⟨j :: past, i, rest, by rw [hsplit]; rfl, h⟩
    · rintro ⟨past, i, rest, hsplit, h⟩
      cases past with
      | nil =>
        cases hsplit
        exact Or.inl h
      | cons k past =>
        cases hsplit
        exact Or.inr ⟨past, i, rest, rfl, h⟩

/-- A run split at one of its steps is a run of the inputs split there. -/
theorem Machine.trace_eq_split (h : m.trace s is = past ++ st :: rest) :
    ∃ before i after, is = before ++ i :: after ∧ past = m.trace s before ∧
      st = m.stepAt (m.run s before) i ∧ rest = m.trace (m.run s (before ++ [i])) after := by
  induction past generalizing s is with
  | nil =>
    cases is with
    | nil => cases h
    | cons i is =>
      obtain ⟨hst, hrest⟩ := List.cons_eq_cons.mp h
      exact ⟨[], i, is, rfl, rfl, hst.symm, hrest.symm⟩
  | cons first past ih =>
    cases is with
    | nil => cases h
    | cons j is =>
      obtain ⟨hfirst, htail⟩ := List.cons_eq_cons.mp h
      obtain ⟨before, i, after, rfl, rfl, rfl, rfl⟩ := ih htail
      exact ⟨j :: before, i, after, rfl, by rw [← hfirst]; rfl, rfl, rfl⟩

end

/-- What holds at each place of a list, and at the end for one more, holds at each place of the
longer list. -/
theorem split_snoc {P : List α → α → Prop} {l : List α}
    (h : ∀ pre a post, l = pre ++ a :: post → P pre a) (hlast : P l last) :
    ∀ pre a post, l ++ [last] = pre ++ a :: post → P pre a := by
  intro pre a post hsplit
  rcases List.eq_nil_or_concat post with rfl | ⟨post, final, rfl⟩
  · obtain ⟨rfl, ha⟩ := List.append_inj' hsplit rfl
    cases ha
    exact hlast
  · rw [List.concat_eq_append, ← List.cons_append, ← List.append_assoc] at hsplit
    exact h pre a post (List.append_inj' hsplit rfl).1

/-- The last element of a kind splits a list in one way. -/
theorem split_at_last {p : α → Prop} {l₁ l₂ r₁ r₂ : List α} {a b : α}
    (h : l₁ ++ a :: r₁ = l₂ ++ b :: r₂) (ha : p a) (hb : p b) (h₁ : ∀ x ∈ r₁, ¬p x)
    (h₂ : ∀ x ∈ r₂, ¬p x) : r₁ = r₂ := by
  rcases List.append_eq_append_iff.mp h with ⟨mid, -, hr⟩ | ⟨mid, -, hr⟩
  · cases mid with
    | nil => exact (List.cons_eq_cons.mp hr).2
    | cons =>
      have hin : b ∈ r₁ := by
        rw [(List.cons_eq_cons.mp hr).2]
        simp
      exact absurd hb (h₁ b hin)
  · cases mid with
    | nil => exact (List.cons_eq_cons.mp hr).2.symm
    | cons =>
      have hin : a ∈ r₂ := by
        rw [(List.cons_eq_cons.mp hr).2]
        simp
      exact absurd ha (h₂ a hin)

theorem Machine.trace_chained (m : Machine σ ι ω) (s : σ) (is : List ι) :
    (m.trace s is).IsChain fun a b => a.after = b.before := by
  induction is generalizing s with
  | nil => exact .nil
  | cons i is ih =>
    cases is with
    | nil => exact .singleton _
    | cons => exact .cons_cons rfl (ih _)

/-- What each step carries back from its end to its start, and holds before a later step, held
before every step in between. -/
theorem holds_backwards {P : σ → Prop} {mid post : List (Step σ ι ω)} {last : Step σ ι ω}
    (chained : (mid ++ last :: post).IsChain fun a b => a.after = b.before)
    (back : ∀ st ∈ mid, P st.after → P st.before) (hlast : P last.before) :
    ∀ st ∈ mid, P st.before := by
  induction mid with
  | nil => simp
  | cons first rest ih =>
    rw [List.cons_append, List.isChain_cons] at chained
    have hrest := ih chained.2 fun st hst => back st (by simp [hst])
    have hfirst : P first.before := by
      apply back first (by simp)
      cases rest with
      | nil =>
        rw [chained.1 last (by simp)]
        exact hlast
      | cons second rest =>
        rw [chained.1 second (by simp)]
        exact hrest second (by simp)
    intro st hst
    rcases List.mem_cons.mp hst with rfl | hst
    · exact hfirst
    · exact hrest st hst

/-- What holds of an empty history, and is carried from a history over one more step that
meets `G`, holds of every run whose steps all meet `G`. -/
theorem Machine.history (m : Machine σ ι ω) {G : Step σ ι ω → Prop}
    {P : List (Step σ ι ω) → σ → Prop} {s₀ : σ} (start : P [] s₀)
    (next : ∀ past s i, P past s → G (m.stepAt s i) →
      P (past ++ [m.stepAt s i]) (m.step s i).2)
    (is : List ι) (hg : ∀ st ∈ m.trace s₀ is, G st) : P (m.trace s₀ is) (m.run s₀ is) := by
  induction is using List.reverseRecOn with
  | nil => exact start
  | append_singleton is i ih =>
    rw [m.trace_snoc] at hg ⊢
    rw [m.run_snoc]
    exact next _ _ _ (ih fun st hst => hg st (by simp [hst])) (hg _ (by simp))

/-- The same rule for a property of the state alone. -/
theorem Machine.invariant (m : Machine σ ι ω) {G : Step σ ι ω → Prop} {P : σ → Prop} {s₀ : σ}
    (start : P s₀) (next : ∀ s i, P s → G (m.stepAt s i) → P (m.step s i).2)
    (is : List ι) (hg : ∀ st ∈ m.trace s₀ is, G st) : P (m.run s₀ is) :=
  m.history (P := fun _ s => P s) start (fun _ s i => next s i) is hg

/-- A fold that misses, hits once and keeps what the hit reached. -/
theorem foldl_reaches {σ : Type*} {f : σ → α → σ} {l : List α} (Hit : α → Prop)
    (Before After : σ → Prop) (miss : ∀ s, ∀ a ∈ l, ¬Hit a → Before s → Before (f s a))
    (hit : ∀ s, ∀ a ∈ l, Hit a → Before s → After (f s a))
    (keep : ∀ s, ∀ a ∈ l, After s → After (f s a)) (h : ∃ a ∈ l, Hit a) {s : σ} (hs : Before s) :
    After (l.foldl f s) := by
  induction l generalizing s with
  | nil => simp at h
  | cons a l ih =>
    have hrest {s : σ} (hs : After s) : After (l.foldl f s) :=
      List.foldlRecOn l f hs fun s hs b hb => keep s b (by simp [hb]) hs
    by_cases ha : Hit a
    · exact hrest (hit s a (by simp) ha hs)
    · refine ih (fun s b hb => miss s b (by simp [hb])) (fun s b hb => hit s b (by simp [hb]))
        (fun s b hb => keep s b (by simp [hb])) ?_ (miss s a (by simp) ha hs)
      obtain ⟨b, hb, hhit⟩ := h
      rcases List.mem_cons.mp hb with rfl | hb
      · exact absurd hhit ha
      · exact ⟨b, hb, hhit⟩

end Tidegard.Runs
