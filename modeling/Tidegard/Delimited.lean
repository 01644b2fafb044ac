import Mathlib

namespace Tidegard.Delimited

variable {α : Type*}

/-- A text before the first delimiter can be told from what follows. -/
theorem split_at_first (hl : d ∉ l) (hl' : d ∉ l')
    (h : l ++ d :: r = l' ++ d :: r') : l = l' ∧ r = r' := by
  induction l generalizing l' with
  | nil =>
    cases l' with
    | nil => exact ⟨rfl, (List.cons.inj h).2⟩
    | cons =>
      obtain ⟨rfl, -⟩ := List.cons.inj h
      exact absurd List.mem_cons_self hl'
  | cons c l ih =>
    cases l' with
    | nil =>
      obtain ⟨rfl, -⟩ := List.cons.inj h
      exact absurd List.mem_cons_self hl
    | cons =>
      obtain ⟨rfl, htail⟩ := List.cons.inj h
      obtain ⟨rfl, rfl⟩ := ih (fun hm => hl (List.mem_cons_of_mem _ hm))
        (fun hm => hl' (List.mem_cons_of_mem _ hm)) htail
      exact ⟨rfl, rfl⟩

/-- A field that may be left out: its name, its value and where the value ends. -/
def field (name : List α) (stop : α) : Option (List α) → List α
  | none => []
  | some value => name ++ (value ++ [stop])

/-- A field can be told from what follows, when that cannot start with the field's name. -/
theorem field_append_inj
    (hv : ∀ x ∈ v, stop ∉ x) (hv' : ∀ x ∈ v', stop ∉ x) (hr : ¬ name <+: r) (hr' : ¬ name <+: r')
    (h : field name stop v ++ r = field name stop v' ++ r') : v = v' ∧ r = r' := by
  cases v with
  | none =>
    cases v' with
    | none => exact ⟨rfl, h⟩
    | some x' =>
      refine absurd ⟨x' ++ [stop] ++ r', ?_⟩ hr
      simpa [field] using h.symm
  | some x =>
    cases v' with
    | none =>
      refine absurd ⟨x ++ [stop] ++ r, ?_⟩ hr'
      simpa [field] using h
    | some x' =>
      have hrest : x ++ stop :: r = x' ++ stop :: r' := by
        simpa [field] using h
      obtain ⟨rfl, rfl⟩ := split_at_first (hv x rfl) (hv' x' rfl) hrest
      exact ⟨rfl, rfl⟩

end Tidegard.Delimited
