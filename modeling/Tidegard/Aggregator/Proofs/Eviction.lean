import Tidegard.Aggregator
import Tidegard.Recency
import Tidegard.Runs

namespace Tidegard.Aggregator.Proofs.Eviction

open List Tables Runs Recency Aggregator

variable {κ ν : Type} [LinearOrder κ]

/-- One call of `upsert`. The hash map may be visited in another order each time. -/
structure Upsert (κ ν : Type) where
  rank : κ → Nat
  key : κ
  now : Nat
  default : ν
  update : ν → ν

def upserts : Machine (BoundedMap κ ν) (Upsert κ ν) UpsertOutcome where
  step m u := m.upsert u.rank u.key u.now u.default u.update

def get (m : BoundedMap κ ν) (key : κ) : Option ν := m.entries[key]?.map Slot.value

def Tracked (m : BoundedMap κ ν) (key : κ) : Prop := (m.entries[key]?).isSome

/-- The list holds the keys of the table, the one updated last first. -/
structure Ordered (order : List κ) (entries : Table κ (Slot ν)) : Prop where
  keys : ∀ k, k ∈ order ↔ ∃ slot, entries[k]? = some slot
  nodup : order.Nodup
  aged : order.Pairwise fun a b => ∀ s t, entries[a]? = some s → entries[b]? = some t →
    t.lastUpdated < s.lastUpdated

section Ordered

variable {order : List κ} {entries : Table κ (Slot ν)} {k : κ}

theorem Ordered.empty : Ordered [] (∅ : Table κ (Slot ν)) where
  keys k := by simp
  nodup := .nil
  aged := .nil

theorem Ordered.erase (h : Ordered order entries) (k : κ) :
    Ordered (order.erase k) (entries.erase k) where
  keys j := by
    rw [h.nodup.mem_erase_iff, h.keys, get_erase]
    by_cases hj : k = j
    · simp [hj]
    · simp [hj, Ne.symm hj]
  nodup := h.nodup.erase k
  aged := by
    apply (h.aged.sublist (erase_sublist)).imp
    intro a b hab s t hs ht
    exact hab s t (get_of_erase hs) (get_of_erase ht)

theorem Ordered.insert (h : Ordered order entries) (new : k ∉ order) (slot : Slot ν)
    (latest : ∀ (j : κ) s, entries[j]? = some s → s.lastUpdated < slot.lastUpdated) :
    Ordered (k :: order) (entries.insert k slot) where
  keys j := by
    rw [mem_cons, h.keys, get_insert]
    by_cases hj : k = j
    · simp [hj]
    · simp [hj, Ne.symm hj]
  nodup := List.nodup_cons.mpr ⟨new, h.nodup⟩
  aged := by
    have other : ∀ j ∈ order, (entries.insert k slot)[j]? = entries[j]? := by
      intro j hj
      apply get_insert_ne
      rintro rfl
      exact new hj
    refine List.pairwise_cons.mpr ⟨?_, ?_⟩
    · intro b hb s t hs ht
      rw [get_insert_self] at hs
      cases hs
      rw [other b hb] at ht
      exact latest b t ht
    · apply h.aged.imp_of_mem
      intro a b ha hb hab
      rw [other a ha, other b hb]
      exact hab

theorem Ordered.size (h : Ordered order entries) : entries.size = order.length := by
  rw [← Std.ExtTreeMap.length_keys]
  apply List.Perm.length_eq
  rw [perm_ext_iff_of_nodup Std.ExtTreeMap.nodup_keys h.nodup]
  intro k
  rw [Std.ExtTreeMap.mem_keys, h.keys, Std.ExtTreeMap.mem_iff_isSome_getElem?,
    Option.isSome_iff_exists]

end Ordered

omit [LinearOrder κ] in
theorem foldl_older (rank : κ → Nat) (rest : List (κ × Slot ν)) (first : κ × Slot ν) :
    rest.foldl (older rank) first ∈ first :: rest ∧
      ∀ e ∈ first :: rest,
        (rest.foldl (older rank) first).2.lastUpdated ≤ e.2.lastUpdated := by
  induction rest generalizing first with
  | nil => simp
  | cons next rest ih =>
    obtain ⟨hmem, hmin⟩ := ih (older rank first next)
    have hpick : older rank first next = first ∨ older rank first next = next := by
      unfold older
      split
      · exact Or.inr rfl
      · exact Or.inl rfl
    have hfirst : (older rank first next).2.lastUpdated ≤ first.2.lastUpdated := by
      unfold older
      split <;> omega
    have hnext : (older rank first next).2.lastUpdated ≤ next.2.lastUpdated := by
      unfold older
      split <;> omega
    rw [foldl_cons]
    have hleast := hmin _ mem_cons_self
    constructor
    · rcases List.mem_cons.mp hmem with h | h
      · rw [h]
        rcases hpick with hp | hp <;> simp [hp]
      · simp [h]
    · intro e he
      rcases List.mem_cons.mp he with rfl | he
      · exact hleast.trans hfirst
      · rcases List.mem_cons.mp he with rfl | he
        · exact hleast.trans hnext
        · exact hmin e (mem_cons_of_mem _ he)

/-- Whatever order the hash map is visited in, the key that goes is the one updated longest ago. -/
theorem leastRecentlyUpdatedKey_last {m : BoundedMap κ ν} (h : Ordered (front ++ [last]) m.entries)
    (rank : κ → Nat) : m.leastRecentlyUpdatedKey rank = some last := by
  obtain ⟨slot, hslot⟩ := (h.keys last).mp (by simp)
  unfold BoundedMap.leastRecentlyUpdatedKey
  split
  · rename_i hnil
    have hlisted := (mem_toList _ _ _).mpr hslot
    rw [hnil] at hlisted
    cases hlisted
  · rename_i first rest hcons
    obtain ⟨hmem, hmin⟩ := foldl_older rank rest first
    rw [← hcons] at hmem hmin
    generalize rest.foldl (older rank) first = victim at hmem hmin
    obtain ⟨k, oldest⟩ := victim
    have holdest := (mem_toList _ _ _).mp hmem
    have hle : oldest.lastUpdated ≤ slot.lastUpdated := hmin _ ((mem_toList _ _ _).mpr hslot)
    rcases List.mem_append.mp ((h.keys k).mpr ⟨oldest, holdest⟩) with hk | hk
    · have hlt := (List.pairwise_append.mp h.aged).2.2 k hk last (by simp) oldest slot holdest hslot
      omega
    · rw [List.mem_singleton.mp hk]

def Inserts (k : κ) (st : Step (BoundedMap κ ν) (Upsert κ ν) UpsertOutcome) : Prop :=
  st.input.key = k ∧ (st.output = .inserted ∨ st.output = .insertedByEviction)

/-- The value is the fold of the updates of the key since it was last inserted. -/
def Folded (k : κ) (past : List (Step (BoundedMap κ ν) (Upsert κ ν) UpsertOutcome)) (v : ν) :
    Prop :=
  ∃ earlier st later, past = earlier ++ st :: later ∧ Inserts k st ∧
    (∀ x ∈ later, ¬Inserts k x) ∧
    v = (later.filter fun x => x.input.key = k).foldl (fun v x => x.input.update v)
      (st.input.update st.input.default)

def Drops (st : Step (BoundedMap κ ν) (Upsert κ ν) UpsertOutcome) : Prop :=
  ∃ k, Tracked st.before k ∧ ¬Tracked st.after k

section Folded

variable {k : κ}

theorem Folded.inserted (h : Inserts k st) :
    Folded k (past ++ [st]) (st.input.update st.input.default) :=
  ⟨past, st, [], rfl, h, by simp, rfl⟩

theorem Folded.updated (h : Folded k past v) (key : st.input.key = k) (not : ¬Inserts k st) :
    Folded k (past ++ [st]) (st.input.update v) := by
  obtain ⟨earlier, first, later, rfl, hfirst, hlater, rfl⟩ := h
  refine ⟨earlier, first, later ++ [st], by simp, hfirst, ?_, by simp [key]⟩
  intro x hx
  rcases List.mem_append.mp hx with hx | hx
  · exact hlater x hx
  · rw [List.mem_singleton.mp hx]
    exact not

theorem Folded.other (h : Folded k past v) (key : st.input.key ≠ k) :
    Folded k (past ++ [st]) v := by
  obtain ⟨earlier, first, later, rfl, hfirst, hlater, rfl⟩ := h
  refine ⟨earlier, first, later ++ [st], by simp, hfirst, ?_, by simp [key]⟩
  intro x hx
  rcases List.mem_append.mp hx with hx | hx
  · exact hlater x hx
  · rw [List.mem_singleton.mp hx]
    exact fun inserts => key inserts.1

end Folded

/-- After the calls of `past`, the map holds what a cache of `n` keys holds that drops the least
recently used one. -/
structure Tracks (n : Nat) (past : List (Step (BoundedMap κ ν) (Upsert κ ν) UpsertOutcome))
    (m : BoundedMap κ ν) : Prop where
  capacity : m.maxEntries = n
  ordered : Ordered (kept n (past.map (·.input.key))) m.entries
  dated : ∀ (k : κ) slot, m.entries[k]? = some slot → ∃ st ∈ past, st.input.now = slot.lastUpdated
  folded : ∀ (k : κ) slot, m.entries[k]? = some slot → Folded k past slot.value
  evicts : ∀ st ∈ past, st.output = .insertedByEviction ↔ Drops st

section Step

variable {n : Nat}
variable {m : BoundedMap κ ν} {u : Upsert κ ν}
variable {entries : Table κ (Slot ν)} {slot : Slot ν}

theorem Tracks.new (n : Nat) : Tracks n [] (BoundedMap.new n : BoundedMap κ ν) where
  capacity := rfl
  ordered := by
    have hnone : kept n ([] : List κ) = [] := by simp [kept, recent]
    rw [map_nil, hnone]
    exact .empty
  dated := by simp [BoundedMap.new]
  folded := by simp [BoundedMap.new]
  evicts := by simp

theorem Tracks.latest (h : Tracks n past m) (later : ∀ st ∈ past, st.input.now < u.now) (k : κ)
    (slot : Slot ν) (hslot : m.entries[k]? = some slot) : slot.lastUpdated < u.now := by
  obtain ⟨st, hst, hnow⟩ := h.dated k slot hslot
  rw [← hnow]
  exact later st hst

theorem Tracks.next (h : Tracks n past m)
    (hstep : upserts.step m u =
      (outcome, { m with entries := entries.insert u.key ⟨v, u.now⟩ }))
    (sub : ∀ (k : κ) slot, entries[k]? = some slot → m.entries[k]? = some slot)
    (ordered : Ordered (kept n ((past ++ [upserts.stepAt m u]).map (·.input.key)))
      (entries.insert u.key ⟨v, u.now⟩)) (value : Folded u.key (past ++ [upserts.stepAt m u]) v)
    (evicts : outcome = .insertedByEviction ↔ Drops (upserts.stepAt m u)) :
    Tracks n (past ++ [upserts.stepAt m u]) (upserts.step m u).2 where
  capacity := by
    rw [hstep]
    exact h.capacity
  ordered := by
    rw [hstep]
    exact ordered
  dated k slot hslot := by
    rw [hstep] at hslot
    rw [get_insert] at hslot
    split at hslot
    · cases hslot
      exact ⟨upserts.stepAt m u, by simp, rfl⟩
    · obtain ⟨st, hst, hnow⟩ := h.dated k slot (sub k slot hslot)
      exact ⟨st, by simp [hst], hnow⟩
  folded k slot hslot := by
    rw [hstep] at hslot
    rw [get_insert] at hslot
    split at hslot
    · rename_i hk
      cases hslot
      rw [← hk]
      exact value
    · rename_i hk
      exact (h.folded k slot (sub k slot hslot)).other hk
  evicts st hst := by
    rcases List.mem_append.mp hst with hst | hst
    · exact h.evicts st hst
    · rw [List.mem_singleton.mp hst, upserts.stepAt_output, hstep]
      exact evicts

theorem tracked_insert :
    ((entries.insert k slot)[j]?).isSome ↔ k = j ∨ (entries[j]?).isSome := by
  rw [get_insert]
  split <;> simp [*]

theorem insert_eq_erase_insert (entries : Table κ (Slot ν)) (k : κ) (slot : Slot ν) :
    entries.insert k slot = (entries.erase k).insert k slot := by
  apply Std.ExtTreeMap.ext_getElem?
  intro j
  rw [get_insert, get_insert, get_erase]
  split <;> rfl

theorem not_drops (hstep : upserts.step m u =
    (outcome, { m with entries := m.entries.insert u.key slot })) :
    ¬Drops (upserts.stepAt m u) := by
  rintro ⟨k, hbefore, hafter⟩
  apply hafter
  rw [Tracked, upserts.stepAt_after, hstep, tracked_insert]
  exact Or.inr hbefore

theorem Tracks.room (h : Tracks (n + 1) past m) : m.maxEntries ≠ 0 := by
  rw [h.capacity]
  omega

theorem Tracks.hit (h : Tracks (n + 1) past m) (later : ∀ st ∈ past, st.input.now < u.now)
    (hslot : m.entries[u.key]? = some slot) :
    Tracks (n + 1) (past ++ [upserts.stepAt m u]) (upserts.step m u).2 := by
  have hstep : upserts.step m u = (.updated, { m with
      entries := (m.entries.erase u.key).insert u.key ⟨u.update slot.value, u.now⟩ }) := by
    rw [← insert_eq_erase_insert]
    change m.upsert u.rank u.key u.now u.default u.update = _
    unfold BoundedMap.upsert
    rw [if_neg h.room, hslot]
  have hkept : u.key ∈ kept (n + 1) (past.map (·.input.key)) := (h.ordered.keys _).mpr ⟨slot, hslot⟩
  refine h.next hstep (fun _ _ => get_of_erase) ?_ ?_ ?_
  · rw [map_append, map_singleton, upserts.stepAt_input, kept_hit hkept]
    apply (h.ordered.erase u.key).insert
    · exact fun hin => (h.ordered.nodup.mem_erase_iff.mp hin).1 rfl
    · exact fun j s hs => h.latest later j s (get_of_erase hs)
  · apply (h.folded u.key slot hslot).updated rfl
    rintro ⟨-, hout⟩
    rw [upserts.stepAt_output, hstep] at hout
    rcases hout with hout | hout <;> cases hout
  · rw [← insert_eq_erase_insert] at hstep
    exact iff_of_false (by simp) (not_drops hstep)

theorem Tracks.missed (h : Tracks (n + 1) past m) (hnone : m.entries[u.key]? = none) :
    u.key ∉ kept (n + 1) (past.map (·.input.key)) := by
  rw [h.ordered.keys, hnone]
  simp

/-- In a full map, a key that is not tracked takes the place of the one updated longest ago. -/
theorem Tracks.evict (h : Tracks (n + 1) past m) (later : ∀ st ∈ past, st.input.now < u.now)
    (hnone : m.entries[u.key]? = none) (hfull : m.maxEntries ≤ m.entries.size) :
    Tracks (n + 1) (past ++ [upserts.stepAt m u]) (upserts.step m u).2 := by
  have hkept := h.missed hnone
  have hordered := h.ordered
  have hlength : (kept (n + 1) (past.map (·.input.key))).length = n + 1 := by
    have hsize := hordered.size
    rw [h.capacity] at hfull
    rw [kept_length] at hsize ⊢
    omega
  obtain ⟨last, hlast⟩ := kept_full hlength
  rw [hlast] at hordered hkept
  have hstep : upserts.step m u = (.insertedByEviction, { m with
      entries := (m.entries.erase last).insert u.key ⟨u.update u.default, u.now⟩ }) := by
    change m.upsert u.rank u.key u.now u.default u.update = _
    unfold BoundedMap.upsert
    rw [if_neg h.room, hnone]
    dsimp only
    rw [if_pos hfull, leastRecentlyUpdatedKey_last hordered]
  have hfront : last ∉ kept n (past.map (·.input.key)) := fun hin =>
    (List.nodup_append.mp hordered.nodup).2.2 last hin last (by simp) rfl
  have herased := hordered.erase last
  rw [erase_append_right _ hfront, erase_cons_head, append_nil] at herased
  refine h.next hstep (fun _ _ => get_of_erase) ?_ (.inserted ⟨rfl, ?_⟩) ?_
  · rw [map_append, map_singleton, upserts.stepAt_input, kept_miss (h.missed hnone)]
    apply herased.insert
    · exact fun hin => hkept (mem_append_left _ hin)
    · exact fun j s hs => h.latest later j s (get_of_erase hs)
  · rw [upserts.stepAt_output, hstep]
    exact Or.inr rfl
  · refine iff_of_true rfl ⟨last, ?_, ?_⟩
    · obtain ⟨slot, hslot⟩ := (hordered.keys last).mp (by simp)
      rw [Tracked, upserts.stepAt_before, hslot]
      rfl
    · have hother : u.key ≠ last := by
        rintro rfl
        exact hkept (by simp)
      rw [Tracked, upserts.stepAt_after, hstep, tracked_insert, get_erase]
      simp [hother]

theorem Tracks.fill (h : Tracks (n + 1) past m) (later : ∀ st ∈ past, st.input.now < u.now)
    (hnone : m.entries[u.key]? = none) (hfull : ¬m.maxEntries ≤ m.entries.size) :
    Tracks (n + 1) (past ++ [upserts.stepAt m u]) (upserts.step m u).2 := by
  have hstep : upserts.step m u = (.inserted, { m with
      entries := m.entries.insert u.key ⟨u.update u.default, u.now⟩ }) := by
    change m.upsert u.rank u.key u.now u.default u.update = _
    unfold BoundedMap.upsert
    rw [if_neg h.room, hnone]
    dsimp only
    rw [if_neg hfull]
  have hfree : (kept (n + 1) (past.map (·.input.key))).length ≤ n := by
    have hsize := h.ordered.size
    rw [h.capacity] at hfull
    omega
  have hkept := h.missed hnone
  refine h.next hstep (fun _ _ hs => hs) ?_ (.inserted ⟨rfl, ?_⟩)
    (iff_of_false (by simp) (not_drops hstep))
  · rw [map_append, map_singleton, upserts.stepAt_input, kept_miss hkept, ← kept_all hfree]
    exact h.ordered.insert hkept _ (h.latest later)
  · rw [upserts.stepAt_output, hstep]
    exact Or.inl rfl

theorem Tracks.step (hn : 1 ≤ n) (h : Tracks n past m)
    (later : ∀ st ∈ past, st.input.now < u.now) :
    Tracks n (past ++ [upserts.stepAt m u]) (upserts.step m u).2 := by
  obtain ⟨n, rfl⟩ : ∃ k, n = k + 1 := ⟨n - 1, by omega⟩
  cases hslot : m.entries[u.key]? with
  | some slot => exact h.hit later hslot
  | none =>
    by_cases hfull : m.maxEntries ≤ m.entries.size
    · exact h.evict later hslot hfull
    · exact h.fill later hslot hfull

end Step

theorem run_tracks (hn : 1 ≤ n) (calls : List (Upsert κ ν))
    (increasing : calls.Pairwise fun a b => a.now < b.now) :
    Tracks n (upserts.trace (.new n) calls) (upserts.run (.new n) calls) := by
  induction calls using List.reverseRecOn with
  | nil => exact .new n
  | append_singleton calls u ih =>
    obtain ⟨hpast, -, hlast⟩ := List.pairwise_append.mp increasing
    rw [upserts.trace_snoc, upserts.run_snoc]
    apply (ih hpast).step hn
    intro st hst
    apply hlast st.input _ u (by simp)
    rw [← upserts.map_input_trace (.new n) calls]
    exact mem_map_of_mem hst

/-- With room for at least one key and strictly increasing instants, the tracked keys are the `n`
distinct ones used last, or all of them if there are fewer; a tracked value is the fold of its key's
updates since the key was last inserted; and a call answers that it evicted exactly when some key
left the map. -/
theorem bounded_map_is_lru {n : Nat} (hn : 1 ≤ n) (calls : List (Upsert κ ν))
    (increasing : calls.Pairwise fun a b => a.now < b.now) :
    let m := upserts.run (.new n) calls
    (∀ k, Tracked m k ↔ k ∈ (recent (calls.map (·.key))).take n) ∧
    m.entries.size = min n (calls.map (·.key)).dedup.length ∧ m.entries.size ≤ n ∧
    (∀ k v, get m k = some v → Folded k (upserts.trace (.new n) calls) v) ∧
    ∀ st ∈ upserts.trace (.new n) calls, st.output = .insertedByEviction ↔ Drops st := by
  intro m
  have h := run_tracks hn calls increasing
  have hkeys : (upserts.trace (.new n) calls).map (·.input.key) = calls.map (·.key) := by
    have hinputs := congrArg (List.map Upsert.key) (upserts.map_input_trace (.new n) calls)
    rwa [map_map] at hinputs
  have hordered := h.ordered
  rw [hkeys] at hordered
  have hsize : m.entries.size = min n (calls.map (·.key)).dedup.length := by
    rw [hordered.size, kept_length]
  refine ⟨?_, hsize, by omega, ?_, h.evicts⟩
  · intro k
    rw [Tracked, Option.isSome_iff_exists]
    exact (hordered.keys k).symm
  · intro k v hv
    obtain ⟨slot, hslot, rfl⟩ := Option.map_eq_some_iff.mp hv
    exact h.folded k slot hslot

/-- One is touched again before three arrives, so that two has to go. -/
def touchedCalls : List (Upsert Nat Nat) :=
  [⟨id, 1, 10, 0, (· + 1)⟩, ⟨id, 2, 20, 0, (· + 1)⟩, ⟨id, 1, 30, 0, (· + 1)⟩,
    ⟨id, 3, 40, 0, (· + 1)⟩]

theorem bounded_map_is_lru_touched :
    (touchedCalls.Pairwise fun a b => a.now < b.now) ∧
    ∀ k, Tracked (upserts.run (.new 2) touchedCalls) k ↔ k ∈ [3, 1] := by
  have increasing : touchedCalls.Pairwise fun a b => a.now < b.now := by simp [touchedCalls]
  have hrecent : (recent (touchedCalls.map (·.key))).take 2 = [3, 1] := by decide
  refine ⟨increasing, fun k => ?_⟩
  rw [← hrecent]
  exact (bounded_map_is_lru (by decide : 1 ≤ 2) touchedCalls increasing).1 k

end Tidegard.Aggregator.Proofs.Eviction
