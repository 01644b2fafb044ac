import Mathlib

namespace Tidegard.Slots

variable {α π : Type*} {place : α → π}
variable {l : List α} {y : α}
variable {xs : List α}

/-- No two entries have one place. -/
def Distinct (place : α → π) (l : List α) : Prop := l.Pairwise fun a b => place a ≠ place b

theorem Distinct.eq_of_place (h : Distinct place l) (ha : a ∈ l) (hb : b ∈ l)
    (hplace : place a = place b) : a = b := by
  induction l with
  | nil => cases ha
  | cons c l ih =>
    obtain ⟨hhead, htail⟩ := List.pairwise_cons.mp h
    rcases List.mem_cons.mp ha with rfl | hla
    · rcases List.mem_cons.mp hb with rfl | hlb
      · rfl
      · exact absurd hplace (hhead b hlb)
    · rcases List.mem_cons.mp hb with rfl | hlb
      · exact absurd hplace.symm (hhead a hla)
      · exact ih htail hla hlb

variable [DecidableEq π]

def put (place : α → π) (l : List α) (x : α) : List α :=
  l.filter (fun y => place y ≠ place x) ++ [x]

def clear (place : α → π) (l : List α) (q : π) : List α := l.filter fun y => place y ≠ q

theorem mem_put {x : α} : y ∈ put place l x ↔ y ∈ l ∧ place y ≠ place x ∨ y = x := by
  simp [put]

theorem mem_clear {q : π} : y ∈ clear place l q ↔ y ∈ l ∧ place y ≠ q := by
  simp [clear]

theorem Distinct.put (h : Distinct place l) (x : α) : Distinct place (put place l x) := by
  refine List.pairwise_append.mpr ⟨h.filter _, List.pairwise_singleton _ _, ?_⟩
  intro a ha b hb
  obtain rfl := List.mem_singleton.mp hb
  simpa using (List.mem_filter.mp ha).2

theorem Distinct.clear (h : Distinct place l) (q : π) :
    Distinct place (clear place l q) := h.filter _

theorem mem_foldl_clear {qs : List π} : y ∈ qs.foldl (clear place) l ↔ y ∈ l ∧ place y ∉ qs := by
  induction qs generalizing l with
  | nil => simp
  | cons q qs ih =>
    rw [List.foldl_cons, ih, mem_clear, List.mem_cons, not_or, and_assoc]

theorem Distinct.foldl_clear (h : Distinct place l) (qs : List π) :
    Distinct place (qs.foldl (Slots.clear place) l) := by
  induction qs generalizing l with
  | nil => exact h
  | cons q qs ih => exact ih (h.clear q)

theorem Distinct.foldl_put (h : Distinct place l) (xs : List α) :
    Distinct place (xs.foldl (Slots.put place) l) := by
  induction xs generalizing l with
  | nil => exact h
  | cons x xs ih => exact ih (h.put x)

theorem mem_or_mem_of_foldl_put (h : y ∈ xs.foldl (put place) l) : y ∈ l ∨ y ∈ xs := by
  induction xs generalizing l with
  | nil => exact Or.inl h
  | cons x xs ih =>
    rcases ih h with hl | hxs
    · rcases mem_put.mp hl with ⟨hmem, -⟩ | rfl
      · exact Or.inl hmem
      · exact Or.inr List.mem_cons_self
    · exact Or.inr (List.mem_cons_of_mem _ hxs)

/-- What is put is there in the end, unless something else is put in its place. -/
theorem mem_foldl_put (hy : y ∈ l ∨ y ∈ xs) (halone : ∀ x ∈ xs, place x = place y → x = y) :
    y ∈ xs.foldl (put place) l := by
  induction xs generalizing l with
  | nil => exact hy.resolve_right List.not_mem_nil
  | cons x xs ih =>
    have hrest := fun x' hx' => halone x' (List.mem_cons_of_mem _ hx')
    apply ih _ hrest
    by_cases hplace : place x = place y
    · exact Or.inl (mem_put.mpr (Or.inr (halone x List.mem_cons_self hplace).symm))
    · rcases hy with hl | hxs
      · exact Or.inl (mem_put.mpr (Or.inl ⟨hl, fun h => hplace h.symm⟩))
      · rcases List.mem_cons.mp hxs with rfl | hxs
        · exact absurd rfl hplace
        · exact Or.inr hxs

end Tidegard.Slots
