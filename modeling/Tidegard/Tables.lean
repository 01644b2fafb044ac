import Mathlib

namespace Tidegard.Tables

variable {κ ν : Type*} [LinearOrder κ]

instance lawfulEqCmp : Std.LawfulEqCmp (compare : κ → κ → Ordering) where
  eq_of_compare := compare_eq_iff_eq.mp

instance transCmp : Std.TransCmp (compare : κ → κ → Ordering) := inferInstance

/-- A finite map whose entries are listed in key order. -/
abbrev Table (κ ν : Type*) [LinearOrder κ] := Std.ExtTreeMap κ ν compare

/-- Keys are compared with whatever equality test the caller has at hand. -/
theorem get_insert [DecidableEq κ] (t : Table κ ν) (k a : κ) (v : ν) :
    (t.insert k v)[a]? = if k = a then some v else t[a]? := by
  rw [Std.ExtTreeMap.getElem?_insert]
  simp only [compare_eq_iff_eq]

@[simp] theorem get_insert_self (t : Table κ ν) (k : κ) (v : ν) :
    (t.insert k v)[k]? = some v := by
  rw [get_insert, if_pos rfl]

theorem get_insert_ne (t : Table κ ν) (v : ν) (h : k ≠ a) : (t.insert k v)[a]? = t[a]? := by
  rw [get_insert, if_neg h]

theorem forall_insert {t : Table κ ν} {P : κ → ν → Prop} (h : ∀ (a : κ) w, t[a]? = some w → P a w)
    (hv : P k v) {a : κ} (hw : (t.insert k v)[a]? = some w) : P a w := by
  rw [get_insert] at hw
  split at hw
  · rename_i hk
    cases hw
    exact hk ▸ hv
  · exact h a w hw

theorem get_erase [DecidableEq κ] (t : Table κ ν) (k a : κ) :
    (t.erase k)[a]? = if k = a then none else t[a]? := by
  rw [Std.ExtTreeMap.getElem?_erase]
  simp only [compare_eq_iff_eq]

theorem get_of_erase {t : Table κ ν} {k a : κ} (h : (t.erase k)[a]? = some v) :
    t[a]? = some v := by
  rw [get_erase] at h
  split at h
  · cases h
  · exact h

theorem get_filter (t : Table κ ν) (p : κ → ν → Bool) (k : κ) :
    (t.filter p)[k]? = t[k]?.filter (p k) := Std.ExtTreeMap.getElem?_filter'

theorem mem_toList (t : Table κ ν) (k : κ) (v : ν) : (k, v) ∈ t.toList ↔ t[k]? = some v :=
  Std.ExtTreeMap.mem_toList_iff_getElem?_eq_some

theorem toList_pairwise (t : Table κ ν) : t.toList.Pairwise fun a b => a.1 ≠ b.1 := by
  have h := Std.ExtTreeMap.distinct_keys_toList (t := t)
  simpa only [ne_eq, compare_eq_iff_eq] using h

theorem filter_key_of_pairwise {κ ν : Type*} [DecidableEq κ] (l : List (κ × ν))
    (hl : l.Pairwise fun a b => a.1 ≠ b.1) (k : κ) (v : ν) (hv : (k, v) ∈ l) :
    l.filter (fun e => e.1 = k) = [(k, v)] := by
  induction l with
  | nil => cases hv
  | cons e l ih =>
    obtain ⟨hhead, htail⟩ := List.pairwise_cons.mp hl
    rcases List.mem_cons.mp hv with he | hm
    · subst he
      have hnone : l.filter (fun e => e.1 = k) = [] := by
        rw [List.filter_eq_nil_iff]
        intro b hb
        simpa using (hhead b hb).symm
      simp [hnone]
    · have hne : e.1 ≠ k := hhead _ hm
      simp [hne, ih htail hm]

theorem toList_filter_key [DecidableEq κ] (t : Table κ ν) (k : κ) :
    t.toList.filter (fun e => e.1 = k) = (t[k]?.map (k, ·)).toList := by
  cases h : t[k]? with
  | none =>
    rw [Option.map_none, Option.toList_none, List.filter_eq_nil_iff]
    rintro ⟨a, v⟩ hm heq
    simp only [decide_eq_true_eq] at heq
    subst heq
    rw [mem_toList, h] at hm
    cases hm
  | some v =>
    exact filter_key_of_pairwise _ (toList_pairwise t) k v ((mem_toList t k v).mpr h)

theorem toList_filterMap_key [DecidableEq κ] {β : Type*} (t : Table κ ν) (k : κ)
    (f : κ → ν → Option β) :
    t.toList.filterMap (fun e => if e.1 = k then f e.1 e.2 else none) =
      (t[k]?.bind (f k)).toList := by
  have hsplit : t.toList.filterMap (fun e => if e.1 = k then f e.1 e.2 else none) =
      (t.toList.filter (fun e => e.1 = k)).filterMap fun e => f e.1 e.2 := by
    rw [List.filterMap_filter]
    simp only [decide_eq_true_eq]
  rw [hsplit, toList_filter_key]
  cases h : t[k]? with
  | none => rfl
  | some v => cases hf : f k v <;> simp [hf]

theorem get_foldl_insert {l : List (κ × ν)} (distinct : l.Pairwise fun a b => a.1 ≠ b.1)
    (t : Table κ ν) (k : κ) (v : ν) :
    (l.foldl (fun t e => t.insert e.1 e.2) t)[k]? = some v ↔
      (k, v) ∈ l ∨ (∀ e ∈ l, e.1 ≠ k) ∧ t[k]? = some v := by
  induction l generalizing t with
  | nil => simp
  | cons e l ih =>
    obtain ⟨hhead, htail⟩ := List.pairwise_cons.mp distinct
    rw [List.foldl_cons, ih htail]
    by_cases hk : e.1 = k
    · subst hk
      have hother : ∀ b ∈ l, b.1 ≠ e.1 := fun b hb => (hhead b hb).symm
      have hnot : (e.1, v) ∉ l := fun hmem => hother _ hmem rfl
      rw [get_insert_self]
      constructor
      · rintro (h | ⟨-, h⟩)
        · exact absurd h hnot
        · rw [← Option.some.inj h]
          exact Or.inl List.mem_cons_self
      · rintro (h | ⟨h, -⟩)
        · rcases List.mem_cons.mp h with h | h
          · rw [← h]
            exact Or.inr ⟨fun b hb => by rw [h]; exact hother b hb, rfl⟩
          · exact absurd h hnot
        · exact absurd rfl (h e List.mem_cons_self)
    · rw [get_insert_ne _ _ hk]
      have hne : (k, v) ≠ e := fun h => hk (by rw [← h])
      simp [hne, hk]

theorem foldl_insert_toList (t : Table κ ν) :
    t.toList.foldl (fun t e => t.insert e.1 e.2) ∅ = t := by
  apply Std.ExtTreeMap.ext_getElem?
  intro k
  apply Option.ext
  intro v
  rw [get_foldl_insert (toList_pairwise t), mem_toList]
  simp

theorem toList_nodup (t : Table κ ν) : t.toList.Nodup :=
  (toList_pairwise t).imp fun h heq => h (congrArg Prod.fst heq)

theorem toList_perm_erase [DecidableEq κ] {t : Table κ ν} (h : t[k]? = some v) :
    t.toList.Perm ((k, v) :: (t.erase k).toList) := by
  have hnot : (k, v) ∉ (t.erase k).toList := by simp
  rw [List.perm_ext_iff_of_nodup (toList_nodup t) (List.nodup_cons.mpr ⟨hnot, toList_nodup _⟩)]
  rintro ⟨a, w⟩
  rw [List.mem_cons, mem_toList, mem_toList, get_erase, Prod.mk.injEq]
  by_cases hk : k = a
  · subst hk
    simp [h, eq_comm]
  · simp [hk, Ne.symm hk]

theorem erase_insert_self [DecidableEq κ] (t : Table κ ν) (k : κ) (v : ν) :
    (t.insert k v).erase k = t.erase k := by
  apply Std.ExtTreeMap.ext_getElem?
  intro a
  rw [get_erase, get_erase, get_insert]
  split <;> rfl

/-- The sum of a measure over the values of a table. -/
def total (f : ν → Nat) (t : Table κ ν) : Nat := (t.toList.map fun e => f e.2).sum

theorem total_of_get [DecidableEq κ] (f : ν → Nat) {t : Table κ ν}
    (h : t[k]? = some v) : total f t = f v + total f (t.erase k) := by
  have hsum := ((toList_perm_erase h).map fun e => f e.2).sum_eq
  simpa [total] using hsum

theorem total_insert [DecidableEq κ] (f : ν → Nat) (t : Table κ ν) (k : κ) (v : ν) :
    total f (t.insert k v) = f v + total f (t.erase k) := by
  rw [total_of_get f (get_insert_self t k v), erase_insert_self]

theorem erase_of_get_none [DecidableEq κ] {t : Table κ ν} (h : t[k]? = none) : t.erase k = t := by
  apply Std.ExtTreeMap.ext_getElem?
  intro a
  rw [get_erase]
  split
  · rename_i heq
    rw [← heq, h]
  · rfl

end Tidegard.Tables
