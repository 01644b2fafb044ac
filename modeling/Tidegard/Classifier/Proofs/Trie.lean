import Tidegard.Classifier.Registry

namespace Tidegard.Classifier.Proofs.Trie

open List Registry

variable {α : Type}
variable {n : Node α} {path : List Bool} {a : α}

def get : Node α → List Bool → Option α
  | .absent, _ => none
  | .node _ _ entry, [] => entry
  | .node zero one _, bit :: path => if bit then get one path else get zero path

def push (bit : Bool) (e : List Bool × α) : List Bool × α := (bit :: e.1, e.2)

def entries : Node α → List (List Bool × α)
  | .absent => []
  | .node zero one entry =>
    entry.toList.map ([], ·) ++ ((entries zero).map (push false) ++ (entries one).map (push true))

theorem mem_entries : (path, a) ∈ entries n ↔ get n path = some a := by
  induction n generalizing path with
  | absent => simp [entries, get]
  | node zero one entry ihz iho =>
    cases path with
    | nil => simp [entries, get, push]
    | cons bit path => cases bit <;> simp [entries, get, push, ihz, iho]

theorem get_cons (n : Node α) (bit : Bool) (path : List Bool) :
    get n (bit :: path) = get (n.child bit) path := by
  cases n with
  | absent => rfl
  | node => cases bit <;> rfl

theorem get_nil (n : Node α) : get n [] = n.entry := by cases n <;> rfl

theorem get_getOrInsert (n : Node α) (path : List Bool) : get n.getOrInsert path = get n path := by
  cases n with
  | absent =>
    cases path with
    | nil => rfl
    | cons bit path => cases bit <;> rfl
  | node => rfl

theorem entries_getOrInsert (n : Node α) : entries n.getOrInsert = entries n := by
  cases n <;> rfl

/-- One of the two paths leads through the end of the other. -/
def related (path other : List Bool) : Bool := other.isPrefixOf path || path.isPrefixOf other

/-- How an insertion at the end of `path` reports an entry on its way or below it. -/
def overlap (path : List Bool) (depth : Nat) (e : List Bool × α) : OverlapKind :=
  ⟨decide (e.1.length < path.length), depth + e.1.length⟩

def overlaps (path : List Bool) (depth : Nat) (n : Node α) : List OverlapKind :=
  ((entries n).filter fun e => related path e.1).map (overlap path depth)

theorem lengths_entries (n : Node α) (depth : Nat) :
    (entries n).map (fun e => (⟨false, depth + e.1.length⟩ : OverlapKind)) =
      (if n.entry.isSome then [⟨false, depth⟩] else []) ++ n.collectDescendantLengths depth := by
  induction n generalizing depth with
  | absent => rfl
  | node zero one entry ihz iho =>
    have hdeeper (bit : Bool) (e : List Bool × α) :
        depth + (push bit e).1.length = depth + 1 + e.1.length := by
      simp only [push, length_cons]
      omega
    simp only [entries, Node.collectDescendantLengths, map_append, map_map,
      Function.comp_def, hdeeper, ihz, iho]
    cases entry <;> rfl

theorem overlaps_nil (h : get n [] = none) (depth : Nat) :
    overlaps [] depth n = n.collectDescendantLengths depth := by
  have hall := lengths_entries n depth
  rw [get_nil] at h
  rw [h] at hall
  have hkind : overlap (α := α) [] depth = fun e => ⟨false, depth + e.1.length⟩ := by
    funext e
    simp [overlap]
  simpa [overlaps, hkind, related] using hall

theorem related_cons (bit bit' : Bool) (path other : List Bool) :
    related (bit :: path) (bit' :: other) = (bit == bit' && related path other) := by
  cases bit <;> cases bit' <;> simp [related, List.isPrefixOf]

theorem overlaps_push (bit bit' : Bool) (path : List Bool) (depth : Nat) (n : Node α) :
    (((entries n).map (push bit')).filter fun e => related (bit :: path) e.1).map
        (overlap (bit :: path) depth) =
      if bit = bit' then overlaps path (depth + 1) n else [] := by
  rw [filter_map]
  have hrelated : (fun e : List Bool × α => related (bit :: path) e.1) ∘ push bit' =
      fun e => bit == bit' && related path e.1 := by
    funext e
    exact related_cons bit bit' path e.1
  have hkind : overlap (bit :: path) depth ∘ push bit' = overlap (α := α) path (depth + 1) := by
    funext e
    simp only [Function.comp_apply, overlap, push, length_cons, OverlapKind.mk.injEq]
    exact ⟨by simp, by omega⟩
  rw [hrelated, map_map, hkind]
  split
  · rename_i heq
    simp [heq, overlaps]
  · rename_i hne
    simp [hne]

/-- The overlaps on one level: the node's own entry, and what lies in the child taken. -/
theorem overlaps_cons (bit : Bool) (path : List Bool) (depth : Nat) (n : Node α) :
    overlaps (bit :: path) depth n =
      (if n.entry.isSome then [⟨true, depth⟩] else []) ++
        overlaps path (depth + 1) (n.child bit) := by
  cases n with
  | absent => rfl
  | node zero one entry =>
    have hown : ((entry.toList.map fun a => (([] : List Bool), a)).filter fun e =>
        related (bit :: path) e.1).map (overlap (bit :: path) depth) =
        if entry.isSome then [⟨true, depth⟩] else [] := by
      cases entry <;> simp [related, overlap]
    conv_lhs => unfold overlaps entries
    rw [filter_append, filter_append, map_append, map_append, hown,
      overlaps_push, overlaps_push]
    cases bit <;> cases entry <;> simp [Node.child, Node.entry]

theorem entries_setChild {m : Node α} (hn : n ≠ .absent) (bit : Bool)
    (h : (entries m).Perm ((path, a) :: entries (n.child bit))) :
    (entries (n.setChild bit m)).Perm ((bit :: path, a) :: entries n) := by
  cases n with
  | absent => exact absurd rfl hn
  | node =>
    have hpush := h.map (push bit)
    rw [map_cons] at hpush
    cases bit with
    | false =>
      refine ((hpush.append_right _).append_left _).trans ?_
      exact perm_middle
    | true =>
      refine ((hpush.append_left _).append_left _).trans ?_
      rw [← append_assoc]
      refine List.perm_middle.trans ?_
      rw [append_assoc]
      exact List.Perm.refl _

theorem getOrInsert_ne_absent (n : Node α) : n.getOrInsert ≠ .absent := by
  cases n <;> simp [Node.getOrInsert, Node.new]

/-- At the end of a free path the entry is added, and every entry above and below is reported. -/
theorem insert_free (entry : α) (h : get n path = none) (depth : Nat) :
    ∃ m, Node.insert entry path depth n = .ok (overlaps path depth n, m) ∧
      (entries m).Perm ((path, entry) :: entries n) := by
  induction path generalizing n depth with
  | nil =>
    rw [overlaps_nil h]
    cases n with
    | absent => exact ⟨_, rfl, List.Perm.refl _⟩
    | node zero one found =>
      change found = none at h
      subst h
      exact ⟨_, rfl, List.Perm.refl _⟩
  | cons bit path ih =>
    rw [← get_getOrInsert, get_cons] at h
    obtain ⟨m, hm, hperm⟩ := ih h (depth + 1)
    refine ⟨n.getOrInsert.setChild bit m, ?_, ?_⟩
    · have hsame : overlaps (bit :: path) depth n = overlaps (bit :: path) depth n.getOrInsert := by
        unfold overlaps
        rw [entries_getOrInsert]
      rw [hsame, overlaps_cons]
      simp only [Node.insert, hm]
      rfl
    · have hset := entries_setChild (getOrInsert_ne_absent n) bit hperm
      rwa [entries_getOrInsert] at hset

/-- A taken path refuses the entry; all nodes on it were there already. -/
theorem insert_taken (entry : α) (h : get n path = some a) (depth : Nat) :
    Node.insert entry path depth n = .error .duplicatePrefix ∧ n.walked path = n := by
  induction path generalizing n depth with
  | nil =>
    cases n with
    | absent => cases h
    | node zero one found =>
      change found = some a at h
      subst h
      exact ⟨rfl, rfl⟩
  | cons bit path ih =>
    cases n with
    | absent => cases h
    | node =>
      rw [get_cons] at h
      obtain ⟨herror, hwalked⟩ := ih h (depth + 1)
      constructor
      · simp only [Node.insert, Node.getOrInsert, herror]
        rfl
      · simp only [Node.walked, Node.getOrInsert, hwalked]
        cases bit <;> rfl

/-- The lookup answers the last entry on the path, or what it was given when there is none. -/
theorem lookup_spec (n : Node α) (path : List Bool) (depth : Nat) (best : Option (α × Nat)) :
    (∃ q a, q <+: path ∧ get n q = some a ∧ n.lookup depth best path = some (a, depth + q.length) ∧
      ∀ q' a', q' <+: path → get n q' = some a' → q'.length ≤ q.length) ∨
    ((∀ q, q <+: path → get n q = none) ∧ n.lookup depth best path = best) := by
  induction path generalizing n depth best with
  | nil =>
    cases hentry : n.entry with
    | none =>
      refine Or.inr ⟨fun q hq => ?_, by simp [Node.lookup, hentry]⟩
      rw [List.prefix_nil.mp hq, get_nil, hentry]
    | some a =>
      refine Or.inl ⟨[], a, nil_prefix, by rw [get_nil, hentry], ?_, ?_⟩
      · simp [Node.lookup, hentry]
      · intro q' a' hq' _
        rw [List.prefix_nil.mp hq']
  | cons bit path ih =>
    have hlookup : n.lookup depth best (bit :: path) =
        (n.child bit).lookup (depth + 1) ((n.entry.map (·, depth)).or best) path := by
      rw [Node.lookup]
      cases hchild : n.child bit with
      | absent =>
        cases path with
        | nil => rfl
        | cons => rfl
      | node => rfl
    rw [hlookup]
    rcases ih (n.child bit) (depth + 1) ((n.entry.map (·, depth)).or best) with
      ⟨q, a, hq, hget, hfound, hlongest⟩ | ⟨hnone, hbest⟩
    · refine Or.inl ⟨bit :: q, a, List.cons_prefix_cons.mpr ⟨rfl, hq⟩, ?_, ?_, ?_⟩
      · rw [get_cons]
        exact hget
      · rw [hfound, length_cons]
        congr 2
        omega
      · intro q' a' hq' hget'
        cases q' with
        | nil => exact Nat.zero_le _
        | cons b q' =>
          obtain ⟨rfl, htail⟩ := List.cons_prefix_cons.mp hq'
          rw [get_cons] at hget'
          exact Nat.succ_le_succ (hlongest q' a' htail hget')
    · have hbelow : ∀ q, q <+: bit :: path → q ≠ [] → get n q = none := by
        intro q hq hne
        cases q with
        | nil => exact absurd rfl hne
        | cons b q =>
          obtain ⟨rfl, htail⟩ := List.cons_prefix_cons.mp hq
          rw [get_cons]
          exact hnone q htail
      rw [hbest]
      cases hentry : n.entry with
      | none =>
        refine Or.inr ⟨fun q hq => ?_, by simp⟩
        by_cases hne : q = []
        · rw [hne, get_nil, hentry]
        · exact hbelow q hq hne
      | some a =>
        refine Or.inl ⟨[], a, nil_prefix, by rw [get_nil, hentry], by simp, ?_⟩
        intro q' a' hq' hget'
        by_contra hlong
        rw [hbelow q' hq' (by rintro rfl; exact hlong le_rfl)] at hget'
        cases hget'

end Tidegard.Classifier.Proofs.Trie
