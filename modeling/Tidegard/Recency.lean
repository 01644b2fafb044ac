import Mathlib

namespace Tidegard.Recency

variable {κ : Type*} [DecidableEq κ]

/-- The distinct keys of a history, the one used last first. -/
def recent (keys : List κ) : List κ := keys.dedup.reverse

theorem nodup_recent (keys : List κ) : (recent keys).Nodup :=
  List.nodup_reverse.mpr keys.nodup_dedup

theorem dedup_snoc (keys : List κ) (k : κ) :
    (keys ++ [k]).dedup = keys.dedup.filter (· != k) ++ [k] := by
  induction keys with
  | nil => rfl
  | cons a keys ih =>
    rw [List.cons_append, List.dedup_cons, List.dedup_cons, ih]
    by_cases ha : a ∈ keys
    · simp [ha]
    · by_cases hk : a = k
      · subst hk
        simp [ha]
      · simp [ha, hk]

theorem recent_snoc (keys : List κ) (k : κ) :
    recent (keys ++ [k]) = k :: (recent keys).erase k := by
  rw [(nodup_recent keys).erase_eq_filter]
  unfold recent
  rw [dedup_snoc, List.reverse_append, List.reverse_singleton, List.singleton_append,
    List.filter_reverse]

/-- What a cache of `n` keys that drops the least recently used one holds, the one used last
first. -/
def kept (n : Nat) (keys : List κ) : List κ := (recent keys).take n

section Kept

variable {n : Nat} {keys : List κ} {k : κ}

theorem kept_length (n : Nat) (keys : List κ) : (kept n keys).length = min n keys.dedup.length := by
  simp [kept, recent]

theorem kept_hit (h : k ∈ kept n keys) : kept n (keys ++ [k]) = k :: (kept n keys).erase k := by
  unfold kept at h ⊢
  -- the key stands at a place before `n`, so that the places up to it move back by one
  obtain ⟨front, back, hfront, hsplit, herase⟩ := List.exists_erase_eq (List.mem_of_mem_take h)
  rw [recent_snoc, herase, hsplit]
  rw [hsplit] at h
  have hlt : front.length < n := by
    by_contra hge
    rw [List.take_append_of_le_length (Nat.le_of_not_lt hge)] at h
    exact hfront (List.mem_of_mem_take h)
  obtain ⟨m, rfl⟩ : ∃ m, n = (front.length + m) + 1 := ⟨n - front.length - 1, by omega⟩
  have hback : front.length + m + 1 - front.length = m + 1 := by omega
  rw [List.take_succ_cons, List.take_append, List.take_append, Nat.add_sub_cancel_left, hback,
    List.take_of_length_le (by omega : front.length ≤ front.length + m),
    List.take_of_length_le (by omega : front.length ≤ front.length + m + 1), List.take_succ_cons,
    List.erase_append_right _ hfront, List.erase_cons_head]

theorem kept_miss (h : k ∉ kept (n + 1) keys) : kept (n + 1) (keys ++ [k]) = k :: kept n keys := by
  unfold kept at h ⊢
  rw [recent_snoc, List.take_succ_cons]
  by_cases hmem : k ∈ recent keys
  · obtain ⟨front, back, -, hsplit, herase⟩ := List.exists_erase_eq hmem
    rw [herase, hsplit]
    rw [hsplit] at h
    have hle : n ≤ front.length := by
      by_contra hlt
      apply h
      obtain ⟨m, hm⟩ : ∃ m, n + 1 - front.length = m + 1 := ⟨n - front.length, by omega⟩
      rw [List.take_append, hm, List.take_succ_cons]
      simp
    rw [List.take_append_of_le_length hle, List.take_append_of_le_length hle]
  · rw [List.erase_of_not_mem hmem]

theorem kept_all (h : (kept (n + 1) keys).length ≤ n) : kept (n + 1) keys = kept n keys := by
  unfold kept at h ⊢
  rw [List.length_take] at h
  rw [List.take_of_length_le (by omega), List.take_of_length_le (by omega)]

/-- In a full cache the last place is the one that goes. -/
theorem kept_full (h : (kept (n + 1) keys).length = n + 1) :
    ∃ last, kept (n + 1) keys = kept n keys ++ [last] := by
  unfold kept at h ⊢
  rw [List.length_take] at h
  have hlt : n < (recent keys).length := by omega
  exact ⟨(recent keys)[n], List.take_succ_eq_append_getElem hlt⟩

end Kept

end Tidegard.Recency
