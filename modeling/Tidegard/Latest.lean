import Mathlib.Data.List.Induction

namespace Tidegard.Latest

/-! The last write to a place decides what a left fold leaves there. -/

variable {σ δ β : Type}

/-- What the last change that writes here leaves here. -/
def lastWrite (write : δ → Option β) (log : List δ) : Option β := log.reverse.findSome? write

theorem read_foldl {apply : σ → δ → σ} (read : σ → β)
    (step : ∀ s d, read (apply s d) = (write d).getD (read s)) (log : List δ) (s : σ) :
    read (log.foldl apply s) = (lastWrite write log).getD (read s) := by
  induction log using List.reverseRecOn with
  | nil => rfl
  | append_singleton log d ih =>
    rw [List.foldl_append, List.foldl_cons, List.foldl_nil, step, ih]
    unfold lastWrite
    rw [List.reverse_append, List.reverse_singleton, List.singleton_append, List.findSome?_cons]
    cases write d <;> rfl

theorem lastWrite_map {γ : Type} (write : δ → Option β) (f : β → γ) (log : List δ) :
    lastWrite (fun d => (write d).map f) log = (lastWrite write log).map f := by
  unfold lastWrite
  rw [List.map_findSome?]
  rfl

end Tidegard.Latest
