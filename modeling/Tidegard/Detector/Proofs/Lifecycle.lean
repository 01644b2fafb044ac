import Tidegard.Detector.Lifecycle
import Tidegard.Detector.Proofs.Advance

namespace Tidegard.Detector.Proofs.Lifecycle

open List Runs Tables Common Input Policy Evaluate State Detector.Lifecycle Advance ScopeState

variable {x : ScopeState} {present : Option Nat} {now s n : Nat} {d : Detection}
variable {c : DetectionContext}
variable {after : Option ScopeState} {key : ScopeKey}
variable {policy : DetectionPolicy} {seen : List Nat}

def Quiet (e : Option ScopeState) : Prop := ∀ x, e = some x → Closed x

/-- The scope has an open detection, started at `s`, with `n` events reported. -/
def OpenAt (s n : Nat) (e : Option ScopeState) : Prop := ∃ x, e = some x ∧ Open s n x

/-- A trigger that is pending afterwards was pending before, or began now. -/
def Fresh (present : Option Nat) (before after : Option ScopeState) : Prop :=
  ∀ x, after = some x → x.state = .pendingTrigger → present = some x.enteredAt ∨
    ∃ y, before = some y ∧ y.state = .pendingTrigger ∧ x.enteredAt = y.enteredAt

/-- What one operation can do to a scope, and which signals it can report for it. -/
inductive Effect (present : Option Nat) (before after : Option ScopeState) : List Emission → Prop
  | quiet (hb : Quiet before) (ha : Quiet after) (hf : Fresh present before after) :
      Effect present before after []
  | started {now : Nat} {c : DetectionContext} {x : ScopeState} (hb : Quiet before)
      (hx : before = some x) (hpending : x.state = .pendingTrigger) (hlate : x.enteredAt < now)
      (hnow : present = some now) (ha : OpenAt now 1 after) (hs : c.startedAt = now)
      (hq : c.sequence = 0) : Effect present before after [(.started, some c)]
  | silent {s n : Nat} (hb : OpenAt s n before) (ha : OpenAt s n after) :
      Effect present before after []
  | updated {s n : Nat} {c : DetectionContext} (hb : OpenAt s n before)
      (ha : OpenAt s (n + 1) after) (hs : c.startedAt = s) (hq : c.sequence = min n u64Max) :
      Effect present before after [(.updated, some c)]
  | ended {s n : Nat} {c : DetectionContext} (hb : OpenAt s n before) (ha : Quiet after)
      (hf : Fresh present before after) (hs : c.startedAt = s) (hq : c.sequence = min n u64Max) :
      Effect present before after [(.ended, some c)]

/-- Between operations a scope has no open detection, or a well-counted one. -/
def Shape (e : Option ScopeState) : Prop := Quiet e ∨ ∃ s n, OpenAt s n e

theorem Effect.same (h : Shape e) (present : Option Nat) : Effect present e e [] := by
  rcases h with hq | ⟨s, n, ho⟩
  · exact .quiet hq hq fun x hx hp => Or.inr ⟨x, hx, hp, rfl⟩
  · exact .silent ho ho

theorem Shape.none : Shape none := Or.inl fun _ h => by cases h

theorem Shape.cases (h : Shape (some x)) : Closed x ∨ ∃ s n, Open s n x := by
  rcases h with hq | ⟨s, n, y, hy, ho⟩
  · exact Or.inl (hq x rfl)
  · cases hy
    exact Or.inr ⟨s, n, ho⟩

theorem quiet_some (h : Closed x) : Quiet (some x) := by
  intro y hy
  cases hy
  exact h

theorem fresh_of_ne (h : x.state ≠ .pendingTrigger) : Fresh present before (some x) := by
  intro y hy hp
  cases hy
  exact absurd hp h

theorem Effect.removed_quiet (h : Quiet e) (present : Option Nat) : Effect present e none [] :=
  .quiet h (fun _ hx => by cases hx) fun _ hx => by cases hx

theorem Effect.shape (h : Effect present before after out) : Shape after := by
  cases h with
  | quiet _ ha | ended _ ha => exact Or.inl ha
  | started _ _ _ _ _ ha | silent _ ha | updated _ ha => exact Or.inr ⟨_, _, ha⟩

theorem Effect.entries (h : Effect present before after out) {em : Emission} (hem : em ∈ out) :
    (em.1 = .ended → ∃ x, before = some x ∧ x.state.isOpen = true) ∧
      (em.1 = .started → ∃ x, after = some x ∧ x.state.isOpen = true) := by
  cases h with
  | quiet | silent => cases hem
  | started _ _ _ _ _ ha =>
    rw [mem_singleton] at hem
    subst hem
    obtain ⟨x, hx, ho⟩ := ha
    exact ⟨fun h => (by cases h), fun _ => ⟨x, hx, ho.state⟩⟩
  | updated =>
    rw [mem_singleton] at hem
    subst hem
    exact ⟨fun h => (by cases h), fun h => (by cases h)⟩
  | ended hb =>
    rw [mem_singleton] at hem
    subst hem
    obtain ⟨x, hx, ho⟩ := hb
    exact ⟨fun _ => ⟨x, hx, ho.state⟩, fun h => by cases h⟩

theorem new_closed (key : ScopeKey) (policy : DetectionPolicy) (now : Nat) :
    Closed (ScopeState.new key policy now) := ⟨rfl, rfl⟩

theorem advance_effect (hx : Shape (some x)) (policy : ValidPolicy) (now : Nat) (wall : Int)
    (evaluation : Evaluation) :
    Effect (some now) (some x) (some (x.advance policy now wall evaluation).entry)
      ((x.advance policy now wall evaluation).outcome.signal.toList.map fun r =>
        (r.signal, some r.detection)) := by
  have ht := policy.property.trigger_pos
  rcases hx.cases with hc | ⟨s, n, ho⟩
  · rcases advance_closed hc ht now wall evaluation with
      ⟨hq, hsig, hpend⟩ | ⟨hs, -, hlong, ho, record, hr, hkind, hstart, hseq, -⟩
    · rw [hsig]
      refine .quiet (quiet_some hc) (quiet_some hq) ?_
      intro y hy hp
      cases hy
      obtain ⟨-, hnow | ⟨hs, he⟩⟩ := hpend hp
      · exact Or.inl (by rw [hnow])
      · exact Or.inr ⟨x, rfl, hs, he⟩
    · rw [hr]
      simp only [Option.toList_some, map_cons, map_nil, hkind]
      exact .started (quiet_some hc) rfl hs (by omega) rfl ⟨_, rfl, ho⟩ hstart hseq
  · rcases advance_open ho ht now wall evaluation with
      ⟨ho', hsig⟩ | ⟨ho', record, hr, hkind, hstart, hseq⟩ |
      ⟨hc, ⟨record, hr, hkind, hstart, hseq, -⟩, hpend⟩
    · rw [hsig]
      exact .silent ⟨x, rfl, ho⟩ ⟨_, rfl, ho'⟩
    · rw [hr]
      simp only [Option.toList_some, map_cons, map_nil, hkind]
      exact .updated ⟨x, rfl, ho⟩ ⟨_, rfl, ho'⟩ hstart hseq
    · rw [hr]
      simp only [Option.toList_some, map_cons, map_nil, hkind]
      refine .ended ⟨x, rfl, ho⟩ (quiet_some hc) ?_ hstart hseq
      intro y hy hp
      cases hy
      exact Or.inl (by rw [(hpend hp).2])

theorem Effect.of_new (h : Effect (some now) (some (ScopeState.new key policy now)) after out) :
    Effect (some now) none after out := by
  have hclosed := new_closed key policy now
  have hfresh (hf : Fresh (some now) (some (ScopeState.new key policy now)) after) :
      Fresh (some now) none after := by
    intro x hx hp
    rcases hf x hx hp with h | ⟨y, hy, hpend, -⟩
    · exact Or.inl h
    · cases hy
      cases hpend
  cases h with
  | quiet _ ha hf => exact .quiet (fun _ h => by cases h) ha (hfresh hf)
  | started _ hx hp => cases hx; cases hp
  | silent hb | updated hb | ended hb =>
    obtain ⟨x, hx, ho⟩ := hb; cases hx; exact (hclosed.not_open ho).elim

theorem step_shape (t : StateTable) (policy : DetectionPolicy) (snapshot : DetectionSnapshot)
    (evaluation : Evaluation) :
    ((t.step policy snapshot evaluation).1.signal = none ∧
      (t.step policy snapshot evaluation).2.entries = t.entries) ∨
    ∃ x, (t.entries[snapshot.key]? = some x ∨ t.entries[snapshot.key]? = none ∧
        x = ScopeState.new snapshot.key policy snapshot.observedAt) ∧
      (t.step policy snapshot evaluation).1 =
        (x.advance policy snapshot.observedAt snapshot.observedWall evaluation).outcome ∧
      ∀ key, (t.step policy snapshot evaluation).2.entries[key]? =
        if snapshot.key = key then
          some (x.advance policy snapshot.observedAt snapshot.observedWall evaluation).entry
        else t.entries[key]? := by
  unfold StateTable.step
  dsimp only
  split
  · exact Or.inl ⟨rfl, rfl⟩
  · split
    · exact Or.inl ⟨rfl, rfl⟩
    · split
      · rename_i x hx
        unfold StateTable.stepEntry
        split
        · exact Or.inl ⟨rfl, rfl⟩
        · exact Or.inr ⟨x, Or.inl hx, rfl, fun key => get_insert _ _ _ _⟩
      · rename_i hnone
        split
        · exact Or.inl ⟨rfl, rfl⟩
        · refine Or.inr ⟨_, Or.inr ⟨hnone, rfl⟩, rfl, fun key => ?_⟩
          simp only [StateTable.stepEntry, refuses, ScopeState.new, get_insert]
          split <;> rfl

theorem step_advances {t : StateTable} (policy : DetectionPolicy) (snapshot : DetectionSnapshot)
    (hx : t.entries[snapshot.key]? = some x) (hmode : policy.executionMode.evaluates = true)
    (hwindow : snapshot.window = policy.window) (hguard : x.refuses snapshot.observedAt = none)
    (evaluation : Evaluation) :
    let q := x.advance policy snapshot.observedAt snapshot.observedWall evaluation
    (t.step policy snapshot evaluation).1 = q.outcome ∧
      (t.step policy snapshot evaluation).2.entries = t.entries.insert snapshot.key q.entry := by
  simp only [StateTable.step, hmode, hwindow, hx, StateTable.stepEntry, hguard, ne_eq,
    not_true_eq_false, Bool.true_eq_false, if_false, and_self]

theorem forKey_map (key : ScopeKey) (l : List α) (k : ScopeKey) (f : α → Emission) :
    forKey key (l.map fun a => (k, f a)) = if k = key then l.map f else [] := by
  unfold forKey
  rw [filterMap_map]
  split
  · rename_i h
    simp [h]
  · rename_i h
    simp [h]

theorem step_effect (t : StateTable) (policy : ValidPolicy) (snapshot : DetectionSnapshot)
    (key : ScopeKey) (hs : Shape t.entries[key]?) :
    Effect ((Op.step policy snapshot).presents key) t.entries[key]?
      (perform t (.step policy snapshot)).2.entries[key]?
      (forKey key (perform t (.step policy snapshot)).1) := by
  dsimp only [perform, Op.presents]
  rw [forKey_map]
  rcases step_shape t policy snapshot (evaluate policy snapshot) with
    ⟨hsig, hent⟩ | ⟨x, hx, hout, hent⟩
  · rw [hent, hsig]
    simp only [Option.toList_none, map_nil, ite_self]
    exact .same hs _
  · rw [hent, hout]
    split
    · rename_i hkey
      subst hkey
      rcases hx with hx | ⟨hnone, rfl⟩
      · rw [hx] at hs ⊢
        exact advance_effect hs policy _ _ _
      · rw [hnone]
        exact (advance_effect (Or.inl (quiet_some (new_closed _ _ _))) policy _ _ _).of_new
    · exact .same hs _

/-- Ending the open detection of an entry on its way to `idle`, as `manual_reset`, `sweep` and
`withdraw_stale_selection` all do. -/
theorem transition_idle_context (ho : Open s n x) (reason : TransitionReason) (now : Nat)
    (wall : Int) :
    ∃ t c, x.transition .idle reason now wall [] = some (t, x.enter .idle now wall) ∧
      (x.enter .idle now wall).context x.opened =
        some (c, { x.enter .idle now wall with
          eventsInDetection := saturatingAdd (x.enter .idle now wall).eventsInDetection 1 }) ∧
      c.startedAt = s ∧ c.sequence = min n u64Max ∧ t.key = x.key := by
  obtain ⟨w, hw⟩ := ho.opened
  obtain ⟨c, hctx, hs, hq⟩ := context_some (x.enter .idle now wall) s w x.opened (by simp [hw])
  have hcan : x.state.canTransitionTo .idle = true :=
    isOpen_canTransitionTo ho.state (Or.inl rfl)
  refine ⟨_, c, if_pos hcan, hctx, hs, hq.trans ho.events, rfl⟩

theorem manualReset_other (t : StateTable) (hne : k ≠ key) (now : Nat) (wall : Int) :
    (t.manualReset k now wall).2.entries[key]? = t.entries[key]? := by
  unfold StateTable.manualReset
  dsimp only
  repeat' split
  all_goals first
    | rfl
    | exact get_insert_ne _ _ hne

theorem manualReset_effect (t : StateTable) (k : ScopeKey) (now : Nat) (wall : Int)
    (key : ScopeKey) (hs : Shape t.entries[key]?) :
    Effect ((Op.manualReset k now wall).presents key) t.entries[key]?
      (perform t (.manualReset k now wall)).2.entries[key]?
      (forKey key (perform t (.manualReset k now wall)).1) := by
  dsimp only [perform, Op.presents]
  rw [forKey_map]
  by_cases hkey : k = key
  · subst hkey
    simp only [if_true]
    cases hx : t.entries[k]? with
    | none =>
      simp only [StateTable.manualReset, hx]
      exact .same .none _
    | some x =>
      rw [hx] at hs
      rcases hs.cases with hc | ⟨s, n, ho⟩
      · have hsig : ((t.manualReset k now wall).1.bind Prod.snd) = none := by
          simp only [StateTable.manualReset, hx, hc.state]
          split <;> rfl
        obtain ⟨y, hy, hcy, hne⟩ : ∃ y, (t.manualReset k now wall).2.entries[k]? = some y ∧
            Closed y ∧ y.state ≠ .pendingTrigger := by
          simp only [StateTable.manualReset, hx, hc.state, transition]
          by_cases hidle : x.state = .idle
          · simp only [hidle, DetectionState.canTransitionTo, bne_self_eq_false,
              Bool.false_eq_true, if_false, get_insert_self]
            refine ⟨_, rfl, ⟨?_, hc.since⟩, ?_⟩
            · simpa [hidle] using hc.state
            · simp
          · have hcan : x.state.canTransitionTo .idle = true := by
              simp [DetectionState.canTransitionTo, hidle]
            simp only [hcan, if_true, Bool.false_eq_true, if_false, get_insert_self]
            exact ⟨_, rfl, ⟨rfl, rfl⟩, by simp [enter]⟩
        rw [hsig, hy]
        exact .quiet (quiet_some hc) (quiet_some hcy) (fresh_of_ne hne)
      · have ho' : Open s n { x with lastEventAt := some now } :=
          ⟨ho.state, ho.since, ho.wall, ho.events⟩
        obtain ⟨tr, c, htr, hctx, hst, hseq, -⟩ := transition_idle_context ho' .manualReset now wall
        have hopened : opened { x with lastEventAt := some now } = x.opened := rfl
        rw [hopened] at hctx
        simp only [StateTable.manualReset, hx, htr, ho.state, if_true, hctx, get_insert_self]
        refine .ended ⟨x, rfl, ho⟩ (quiet_some ⟨rfl, rfl⟩) ?_ hst hseq
        exact fresh_of_ne (by simp [enter])
  · rw [if_neg hkey, if_neg hkey, manualReset_other t hkey]
    exact .same hs _

/-- The signal an expiry reports. -/
def expirySignal (x : Expiry) : Option Emission := x.signal.map fun signal => (signal, x.detection)

theorem forKey_expiries (entries : Table ScopeKey ScopeState)
    (f : ScopeKey → ScopeState → Option Expiry)
    (hf : ∀ k e x, f k e = some x → x.key = k) (key : ScopeKey) :
    forKey key ((entries.toList.filterMap fun e => f e.1 e.2).filterMap expiryEmission) =
      ((entries[key]?.bind (f key)).bind expirySignal).toList := by
  have hone : forKey key ((entries.toList.filterMap fun e => f e.1 e.2).filterMap expiryEmission) =
      entries.toList.filterMap fun e =>
        if e.1 = key then (f e.1 e.2).bind expirySignal else none := by
    unfold forKey
    rw [filterMap_filterMap, filterMap_filterMap]
    congr 1
    funext e
    cases hfe : f e.1 e.2 with
    | none => simp
    | some x =>
      have hk := hf _ _ _ hfe
      cases hsig : x.signal <;> simp [expiryEmission, expirySignal, hsig, hk]
  rw [hone, toList_filterMap_key entries key fun k e => (f k e).bind expirySignal,
    Option.bind_assoc]

theorem expire_effect (hx : Shape (some x)) (present : Option Nat) (key : ScopeKey)
    (reason : TransitionReason) (now : Nat) (wall : Int) :
    Effect present (some x) none (expirySignal (x.expire key reason now wall)).toList := by
  rcases hx.cases with hc | ⟨s, n, ho⟩
  · have hnone : expirySignal (x.expire key reason now wall) = none := by
      simp [expirySignal, ScopeState.expire, hc.state]
    rw [hnone]
    exact .removed_quiet (quiet_some hc) present
  · obtain ⟨tr, c, htr, hctx, hst, hseq, -⟩ := transition_idle_context ho reason now wall
    have hsome : expirySignal (x.expire key reason now wall) = some (.ended, some c) := by
      simp [expirySignal, ScopeState.expire, ho.state, htr, hctx]
    rw [hsome]
    exact .ended ⟨x, rfl, ho⟩ (fun _ h => by cases h) (fun _ h => by cases h) hst hseq

/-- What taking out the entry of a scope gives: nothing to report of an idle one, or its expiry. -/
inductive Leaves (key : ScopeKey) (e : ScopeState) (now : Nat) (wall : Int) : Expiry → Prop
  | idle (h : e.state = .idle) :
      Leaves key e now wall { key := key, transition := none, signal := none, detection := none }
  | expired (reason : TransitionReason) : Leaves key e now wall (e.expire key reason now wall)

section

variable {x : Expiry}

theorem Leaves.key_eq (h : Leaves key e now wall x) : x.key = key := by cases h <;> rfl

theorem Leaves.signal (h : Leaves key e now wall x) :
    x.signal = none ∨ x.signal = some .ended := by
  cases h with
  | idle => exact Or.inl rfl
  | expired =>
    unfold ScopeState.expire
    cases e.state.isOpen <;> simp

theorem Leaves.effect (hs : Shape (some e)) (h : Leaves key e now wall x) (present : Option Nat) :
    Effect present (some e) none (expirySignal x).toList := by
  cases h with
  | idle hidle =>
    rcases hs.cases with hc | ⟨s, n, ho⟩
    · exact .removed_quiet (quiet_some hc) _
    · have := ho.state
      rw [hidle] at this
      cases this
  | expired reason => exact expire_effect hs _ _ reason now wall

/-- The answer of an operation that takes out the entries `f` gives an expiry of. -/
structure Removal (t : StateTable) (now : Nat) (wall : Int) (answer : List Expiry × StateTable)
    (f : ScopeKey → ScopeState → Option Expiry) : Prop where
  listed : answer.1 = t.entries.toList.filterMap fun e => f e.1 e.2
  kept : ∀ key : ScopeKey,
    answer.2.entries[key]? = t.entries[key]?.filter fun e => (f key e).isNone
  leaves : ∀ key e x, f key e = some x → Leaves key e now wall x

variable {t : StateTable} {answer : List Expiry × StateTable}
variable {f : ScopeKey → ScopeState → Option Expiry}

theorem Removal.mem (h : Removal t now wall answer f) (hx : x ∈ answer.1) :
    ∃ e, t.entries[x.key]? = some e ∧ Leaves x.key e now wall x := by
  rw [h.listed] at hx
  obtain ⟨⟨key, e⟩, hmem, hfe⟩ := List.mem_filterMap.mp hx
  have hleaves := h.leaves key e x hfe
  obtain rfl := hleaves.key_eq
  exact ⟨e, (mem_toList _ _ _).mp hmem, hleaves⟩

theorem Removal.entry {key : ScopeKey} (h : Removal t now wall answer f)
    (hx : answer.2.entries[key]? = some e) : t.entries[key]? = some e := by
  rw [h.kept, Option.filter_eq_some_iff] at hx
  exact hx.1

theorem Removal.effect {key : ScopeKey} (h : Removal t now wall answer f)
    (hs : Shape t.entries[key]?) (present : Option Nat) :
    Effect present t.entries[key]? answer.2.entries[key]?
      (forKey key (answer.1.filterMap expiryEmission)) := by
  rw [h.listed, h.kept, forKey_expiries t.entries f fun k e x hx => (h.leaves k e x hx).key_eq]
  cases hx : t.entries[key]? with
  | none => exact .same .none _
  | some e =>
    rw [hx] at hs
    cases hfe : f key e with
    | none =>
      simp only [Option.filter_some, hfe, Option.isNone_none, if_true, Option.bind_some,
        Option.bind_none, Option.toList_none]
      exact .same hs _
    | some x =>
      simp only [Option.filter_some, hfe, Option.isNone_some, Bool.false_eq_true, if_false,
        Option.bind_some]
      exact (h.leaves key e x hfe).effect hs present

end

section

variable (t : StateTable)

theorem sweep_removal (now : Nat) (wall : Int) : Removal t now wall (t.sweep now wall) fun key e =>
    if e.expired t.config now then some (e.sweepExpiry key now wall) else none where
  listed := by
    unfold StateTable.sweep
    dsimp only
    rw [← filterMap_eq_map', filterMap_filter]
  kept key := by
    refine (get_filter _ _ _).trans ?_
    congr
    funext e
    cases e.expired t.config now <;> rfl
  leaves key e x h := by
    split at h
    · cases h
      unfold sweepExpiry
      split
      · rename_i hidle
        exact .idle hidle
      · exact .expired .stale
    · cases h

theorem withdraw_removal (now : Nat) (wall : Int) (winner : ScopeKey → Option (String × Nat)) :
    Removal t now wall (t.withdrawStaleSelection now wall winner) fun key e =>
      (e.staleSelection (winner key)).map fun reason => e.expire key reason now wall where
  listed := by
    unfold StateTable.withdrawStaleSelection
    dsimp only
    rw [map_filterMap]
    simp only [Option.map_map, Function.comp_def]
  kept key := by
    refine (get_filter _ _ _).trans ?_
    simp only [Option.isNone_map]
  leaves key e x h := by
    obtain ⟨reason, -, rfl⟩ := Option.map_eq_some_iff.mp h
    exact .expired reason

theorem perform_effect (op : Op) (key : ScopeKey) (hs : Shape t.entries[key]?) :
    Effect (op.presents key) t.entries[key]? (perform t op).2.entries[key]?
      (forKey key (perform t op).1) := by
  cases op with
  | step policy snapshot => exact step_effect t policy snapshot key hs
  | manualReset k now wall => exact manualReset_effect t k now wall key hs
  | sweep now wall => exact (sweep_removal t now wall).effect hs _
  | withdrawStaleSelection now wall winner => exact (withdraw_removal t now wall winner).effect hs _

end

/-- One more event of a detection. -/
def Detection.add (d : Detection) (em : Emission) : Detection :=
  { d with events := d.events ++ [em] }

theorem Numbered.add (h : d.Numbered) (hs : c.startedAt = d.startedAt)
    (hq : c.sequence = min d.events.length u64Max) :
    (Detection.add d (signal, some c)).Numbered := by
  intro i em hem
  change (d.events ++ [(signal, some c)])[i]? = some em at hem
  rcases Nat.lt_trichotomy i d.events.length with hlt | rfl | hgt
  · rw [List.getElem?_append_left hlt] at hem
    exact h i em hem
  · rw [List.getElem?_append_right le_rfl, Nat.sub_self] at hem
    cases hem
    exact ⟨c, rfl, hs, hq⟩
  · rw [List.getElem?_eq_none (by simp; omega)] at hem
    cases hem

theorem Ongoing.updated (h : d.Ongoing) (hs : c.startedAt = d.startedAt)
    (hq : c.sequence = min d.events.length u64Max) :
    (Detection.add d (.updated, some c)).Ongoing := by
  obtain ⟨⟨n, hn⟩, hnum⟩ := h
  refine ⟨⟨n + 1, ?_⟩, Numbered.add hnum hs hq⟩
  simp [Detection.add, hn, replicate_succ']

theorem Ongoing.ended (h : d.Ongoing) (hs : c.startedAt = d.startedAt)
    (hq : c.sequence = min d.events.length u64Max) :
    (Detection.add d (.ended, some c)).Completed := by
  obtain ⟨⟨n, hn⟩, hnum⟩ := h
  exact ⟨⟨n, by simp [Detection.add, hn]⟩, Numbered.add hnum hs hq⟩

theorem ongoing_start (hs : c.startedAt = now) (hq : c.sequence = 0) :
    Detection.Ongoing ⟨now, [(.started, some c)]⟩ := by
  refine ⟨⟨0, rfl⟩, ?_⟩
  intro i em hem
  cases i with
  | zero =>
    cases hem
    exact ⟨c, rfl, hs, by simp [hq]⟩
  | succ i => cases hem

/-- The signals of a scope so far, read as detections, and how its entry continues them. -/
structure Account (log : List Emission) (seen : List Nat) (entry : Option ScopeState)
    (completed : List Detection) (current : Option Detection) : Prop where
  log_eq : log = completed.flatMap (·.events) ++ (current.map (·.events)).getD []
  completed_ok : ∀ d ∈ completed, d.Completed
  current_ok : ∀ d, current = some d → d.Ongoing ∧ OpenAt d.startedAt d.events.length entry
  quiet : current = none → Quiet entry
  seen_start : ∀ d ∈ completed ++ current.toList, d.startedAt ∈ seen
  increasing : seen.Pairwise (· ≤ ·) →
    ((completed ++ current.toList).map Detection.startedAt).Pairwise (· < ·)
  pending : seen.Pairwise (· ≤ ·) → ∀ x, entry = some x → x.state = .pendingTrigger →
    ∀ d ∈ completed ++ current.toList, d.startedAt ≤ x.enteredAt

theorem Quiet.not_open (hq : Quiet e) (ho : OpenAt s n e) : False := by
  obtain ⟨x, hx, hopen⟩ := ho
  exact (hq x hx).not_open hopen

/-- The entry fixes the start of its detection, and the event count up to saturation. -/
theorem OpenAt.unique (h : OpenAt s n e) (h' : OpenAt s' n' e) :
    s = s' ∧ min n u64Max = min n' u64Max := by
  obtain ⟨x, hx, ho⟩ := h
  obtain ⟨y, hy, ho'⟩ := h'
  rw [hx] at hy
  cases hy
  exact ⟨Option.some.inj (ho.since.symm.trans ho'.since), ho.events.symm.trans ho'.events⟩

theorem OpenAt.recount (h : OpenAt s n e) (hn : min n u64Max = min n' u64Max) : OpenAt s n' e := by
  obtain ⟨x, hx, ho⟩ := h
  exact ⟨x, hx, ho.state, ho.since, ho.wall, ho.events.trans hn⟩

section

variable (h : Account log seen entry completed current)

include h

theorem Account.shape : Shape entry := by
  cases hc : current with
  | none => exact Or.inl (h.quiet hc)
  | some d => exact Or.inr ⟨_, _, (h.current_ok d hc).2⟩

theorem Account.none_of_quiet (hq : Quiet entry) :
    current = none := by
  cases hc : current with
  | none => rfl
  | some d => exact (hq.not_open (h.current_ok d hc).2).elim

theorem Account.some_of_open
    (ho : OpenAt s n entry) :
    ∃ d, current = some d ∧ d.startedAt = s ∧ min d.events.length u64Max = min n u64Max := by
  cases hc : current with
  | none => exact ((h.quiet hc).not_open ho).elim
  | some d => exact ⟨d, rfl, (h.current_ok d hc).2.unique ho⟩

end

theorem sorted_of_append (h : (seen ++ present.toList).Pairwise (· ≤ ·)) : seen.Pairwise (· ≤ ·) :=
  (List.pairwise_append.mp h).1

theorem le_present (h : (seen ++ present.toList).Pairwise (· ≤ ·)) (hp : present = some now)
    (hs : s ∈ seen) : s ≤ now := by
  subst hp
  exact (List.pairwise_append.mp h).2.2 s hs now (by simp)

/-- A trigger pending after an operation that starts nothing began no earlier than any
detection so far. -/
theorem Account.pending_next (h : Account log seen entry completed current)
    (hf : Fresh present entry entry') (hsorted : (seen ++ present.toList).Pairwise (· ≤ ·))
    (hx : entry' = some x) (hp : x.state = .pendingTrigger) (hd : d ∈ completed ++ current.toList) :
    d.startedAt ≤ x.enteredAt := by
  rcases hf x hx hp with hnow | ⟨y, hy, hpy, he⟩
  · exact le_present hsorted hnow (h.seen_start d hd)
  · rw [he]
    exact h.pending (sorted_of_append hsorted) y hy hpy d hd

theorem open_not_pending (ho : OpenAt s n e) (hx : e = some x) (hp : x.state = .pendingTrigger) :
    False := by
  obtain ⟨y, hy, hopen⟩ := ho
  rw [hx] at hy
  cases hy
  have := hopen.state
  rw [hp] at this
  cases this

theorem Account.seen_next (h : Account log seen entry completed current) (present : Option Nat)
    (hd : d ∈ completed ++ current.toList) :
    d.startedAt ∈ seen ++ present.toList := mem_append_left _ (h.seen_start d hd)

theorem Account.keep (h : Account log seen entry completed current)
    (hcurrent : ∀ d, current = some d → OpenAt d.startedAt d.events.length entry')
    (hquiet : current = none → Quiet entry')
    (hf : Fresh present entry entry') :
    Account log (seen ++ present.toList) entry' completed current where
  log_eq := h.log_eq
  completed_ok := h.completed_ok
  current_ok := fun d hd => ⟨(h.current_ok d hd).1, hcurrent d hd⟩
  quiet := hquiet
  seen_start := fun _ hd => h.seen_next present hd
  increasing := fun hsorted => h.increasing (sorted_of_append hsorted)
  pending := fun hsorted _ hx hp _ hd => h.pending_next hf hsorted hx hp hd

theorem fresh_of_open (ho : OpenAt s n after) : Fresh present before after :=
  fun _ hx hp => (open_not_pending ho hx hp).elim

theorem Account.started (h : Account log seen entry completed none) (hx : entry = some x)
    (hpending : x.state = .pendingTrigger) (hlate : x.enteredAt < now) (ha : OpenAt now 1 entry')
    (hs : c.startedAt = now) (hq : c.sequence = 0) :
    Account (log ++ [(.started, some c)]) (seen ++ [now]) entry' completed
      (some ⟨now, [(.started, some c)]⟩) where
  log_eq := by simp [h.log_eq]
  completed_ok := h.completed_ok
  current_ok := by
    intro d hd
    cases hd
    exact ⟨ongoing_start hs hq, ha⟩
  quiet := fun hnone => by cases hnone
  seen_start := by
    intro d hd
    rcases List.mem_append.mp hd with hd | hd
    · exact mem_append_left _ (h.seen_start d (mem_append_left _ hd))
    · simp only [Option.toList_some, mem_singleton] at hd
      subst hd
      simp
  increasing := by
    intro hsorted
    have hsorted' := (List.pairwise_append.mp hsorted).1
    have hprev := h.increasing hsorted'
    have hpend := h.pending hsorted' x hx hpending
    simp only [Option.toList_none, append_nil] at hprev hpend
    simp only [Option.toList_some, map_append, map_cons, map_nil,
      pairwise_append]
    refine ⟨hprev, pairwise_singleton _ _, ?_⟩
    intro a ha b hb
    obtain ⟨d, hd, rfl⟩ := List.mem_map.mp ha
    have hle := hpend d hd
    rw [mem_singleton] at hb
    omega
  pending := fun _ _ hy hp => (open_not_pending ha hy hp).elim

section

variable (h : Account log seen entry completed (some d))

include h

theorem Account.started_eq {ds : List Detection}
    (hds : ds.map Detection.startedAt = (completed ++ [d]).map Detection.startedAt) :
    (∀ d' ∈ ds, ∃ d₀ ∈ completed ++ [d], d₀.startedAt = d'.startedAt) ∧
      (seen.Pairwise (· ≤ ·) → (ds.map Detection.startedAt).Pairwise (· < ·)) := by
  refine ⟨fun d' hd' => ?_, fun hsorted => ?_⟩
  · have hmem := mem_map_of_mem (f := Detection.startedAt) hd'
    rw [hds] at hmem
    exact List.mem_map.mp hmem
  · rw [hds]
    exact h.increasing hsorted

theorem Account.updated (present : Option Nat)
    (hs : c.startedAt = d.startedAt) (hq : c.sequence = min d.events.length u64Max)
    (ha : OpenAt d.startedAt (d.events.length + 1) entry') :
    Account (log ++ [(.updated, some c)]) (seen ++ present.toList) entry' completed
      (some (Detection.add d (.updated, some c))) where
  log_eq := by simp [h.log_eq, Detection.add]
  completed_ok := h.completed_ok
  current_ok := by
    intro d' hd'
    cases hd'
    exact ⟨Ongoing.updated (h.current_ok d rfl).1 hs hq, by simpa [Detection.add] using ha⟩
  quiet := fun hnone => by cases hnone
  seen_start := by
    intro d' hd'
    obtain ⟨d₀, hd₀, heq⟩ := (h.started_eq (by simp [Detection.add])).1 d' hd'
    rw [← heq]
    exact h.seen_next present hd₀
  increasing := fun hsorted =>
    (h.started_eq (by simp [Detection.add])).2 (sorted_of_append hsorted)
  pending := fun _ _ hy hp => (open_not_pending ha hy hp).elim

theorem Account.ended
    (hs : c.startedAt = d.startedAt) (hq : c.sequence = min d.events.length u64Max)
    (ha : Quiet entry') (hf : Fresh present entry entry') :
    Account (log ++ [(.ended, some c)]) (seen ++ present.toList) entry'
      (completed ++ [Detection.add d (.ended, some c)]) none where
  log_eq := by simp [h.log_eq, Detection.add]
  completed_ok := by
    intro d' hd'
    rcases List.mem_append.mp hd' with hd' | hd'
    · exact h.completed_ok d' hd'
    · rw [mem_singleton] at hd'
      subst hd'
      exact Ongoing.ended (h.current_ok d rfl).1 hs hq
  current_ok := fun _ hd => by cases hd
  quiet := fun _ => ha
  seen_start := by
    intro d' hd'
    obtain ⟨d₀, hd₀, heq⟩ := (h.started_eq (by simp [Detection.add])).1 d' hd'
    rw [← heq]
    exact h.seen_next present hd₀
  increasing := fun hsorted =>
    (h.started_eq (by simp [Detection.add])).2 (sorted_of_append hsorted)
  pending := by
    intro hsorted x hx hp d' hd'
    obtain ⟨d₀, hd₀, heq⟩ := (h.started_eq (by simp [Detection.add])).1 d' hd'
    rw [← heq]
    exact h.pending_next hf hsorted hx hp hd₀

end

theorem Account.next (h : Account log seen entry completed current)
    (he : Effect present entry entry' out) :
    ∃ completed' current',
      Account (log ++ out) (seen ++ present.toList) entry' completed' current' := by
  cases he with
  | quiet hb ha hf =>
    have hnone := h.none_of_quiet hb
    subst hnone
    rw [append_nil]
    exact ⟨_, _, h.keep (fun _ hd => by cases hd) (fun _ => ha) hf⟩
  | started hb hx hpending hlate hnow ha hs hq =>
    have hnone := h.none_of_quiet hb
    subst hnone hnow
    exact ⟨_, _, h.started hx hpending hlate ha hs hq⟩
  | silent hb ha =>
    obtain ⟨d, hd, hs, hn⟩ := h.some_of_open hb
    subst hd hs
    rw [append_nil]
    refine ⟨_, _, h.keep (fun d' hd' => ?_) (fun hnone => by cases hnone) (fresh_of_open ha)⟩
    cases hd'
    exact ha.recount hn.symm
  | updated hb ha hs hq =>
    obtain ⟨d, hd, hs', hn⟩ := h.some_of_open hb
    subst hd hs'
    exact ⟨_, _, h.updated present hs (hq.trans hn.symm) (ha.recount (by omega))⟩
  | ended hb ha hf hs hq =>
    obtain ⟨d, hd, hs', hn⟩ := h.some_of_open hb
    subst hd hs'
    exact ⟨_, _, h.ended hs (hq.trans hn.symm) ha hf⟩

theorem emitted_snoc (key : ScopeKey) (past : List (Step StateTable Op (List (ScopeKey × Emission))))
    (st : Step StateTable Op (List (ScopeKey × Emission))) :
    emitted key (past ++ [st]) = emitted key past ++ forKey key st.output := by
  simp [emitted]

theorem run_account (config : StateTableConfig) (ops : List Op) (key : ScopeKey) :
    ∃ completed current, Account (emitted key (tableMachine.trace (.new config) ops))
      (((tableMachine.trace (.new config) ops).map Step.input).filterMap (Op.presents key))
      (tableMachine.run (.new config) ops).entries[key]? completed current := by
  refine tableMachine.history (G := fun _ => True)
    (P := fun past t => ∃ completed current, Account (emitted key past)
      ((past.map Step.input).filterMap (Op.presents key)) t.entries[key]? completed current)
    ?_ ?_ ops (fun _ _ => trivial)
  · refine ⟨[], none, ?_⟩
    have hnone : (StateTable.new config).entries[key]? = none := by simp [StateTable.new]
    rw [hnone]
    exact ⟨rfl, by simp, by simp, fun _ => (fun _ h => by cases h), by simp, by simp, by simp⟩
  · rintro past t op ⟨completed, current, h⟩ -
    have heff := perform_effect t op key h.shape
    obtain ⟨completed', current', h'⟩ := h.next heff
    refine ⟨completed', current', ?_⟩
    rw [emitted_snoc, map_append, filterMap_append]
    have hseen : List.filterMap (Op.presents key) ([tableMachine.stepAt t op].map Step.input) =
        (op.presents key).toList := by
      cases hp : op.presents key <;> simp [hp]
    rw [hseen]
    exact h'

theorem getLast_ongoing (h : d.Ongoing) :
    ∃ em, d.events.getLast? = some em ∧ (em.1 = .started ∨ em.1 = .updated) := by
  obtain ⟨⟨n, hn⟩, -⟩ := h
  have hlast : (d.events.map Prod.fst).getLast? = some .started ∨
      (d.events.map Prod.fst).getLast? = some .updated := by
    rw [hn]
    cases n with
    | zero => exact Or.inl rfl
    | succ n => right; rw [replicate_succ', ← cons_append, List.getLast?_concat]
  rw [List.getLast?_map] at hlast
  cases he : d.events.getLast? with
  | none => simp [he] at hlast
  | some em => exact ⟨em, rfl, by simpa [he] using hlast⟩

theorem getLast_completed (h : d.Completed) :
    ∃ em, d.events.getLast? = some em ∧ em.1 = .ended := by
  obtain ⟨⟨n, hn⟩, -⟩ := h
  have hlast : (d.events.map Prod.fst).getLast? = some .ended := by
    rw [hn, List.getLast?_concat]
  rw [List.getLast?_map] at hlast
  exact Option.map_eq_some_iff.mp hlast

theorem Account.openAt_iff (h : Account log seen t.entries[key]? completed current) :
    openAt t key = true ↔
      ∃ em, log.getLast? = some em ∧ (em.1 = .started ∨ em.1 = .updated) := by
  rw [h.log_eq]
  cases hc : current with
  | some d =>
    obtain ⟨hongoing, x, hx, ho⟩ := h.current_ok d hc
    obtain ⟨em, hem, hkind⟩ := getLast_ongoing hongoing
    have hlast : (completed.flatMap (·.events) ++ ((some d).map (·.events)).getD []).getLast? =
        some em := by
      simp [List.getLast?_append, hem]
    rw [hlast]
    exact ⟨fun _ => ⟨em, rfl, hkind⟩, fun _ => by simp [openAt, hx, ho.state]⟩
  | none =>
    have hquiet := h.quiet hc
    have hfalse : openAt t key = false := by
      unfold openAt
      cases hx : t.entries[key]? with
      | none => rfl
      | some x => exact (hquiet x hx).state
    simp only [hfalse, Bool.false_eq_true, false_iff, Option.map_none, Option.getD_none,
      append_nil]
    rintro ⟨em, hem, hkind⟩
    rcases eq_nil_or_concat completed with hnil | ⟨init, d, hcat⟩
    · simp [hnil] at hem
    · obtain ⟨last, hlast, hended⟩ := getLast_completed (h.completed_ok d (by simp [hcat]))
      have : last = em := by
        rw [hcat] at hem
        simpa [List.getLast?_append, hlast] using hem
      subst this
      rw [hended] at hkind
      rcases hkind with hk | hk <;> cases hk

/-- The signals of every scope in every run are detections one after the other, each a start,
updates and an end, the last one possibly still without its end; the scope's entry is open
exactly while the last signal is not an end; and when the instants presented to the scope never
decrease, each detection starts later than the ones before it. -/
theorem signals_form_detections (config : StateTableConfig) (ops : List Op) (key : ScopeKey) :
    ∃ (completed : List Detection) (current : Option Detection),
      emitted key (tableMachine.trace (.new config) ops) =
        completed.flatMap (·.events) ++ (current.map (·.events)).getD [] ∧
      (∀ d ∈ completed, d.Completed) ∧
      (∀ d, current = some d → d.Ongoing) ∧
      (openAt (tableMachine.run (.new config) ops) key = true ↔
        ∃ em, (emitted key (tableMachine.trace (.new config) ops)).getLast? = some em ∧
          (em.1 = .started ∨ em.1 = .updated)) ∧
      ((ops.filterMap (Op.presents key)).Pairwise (· ≤ ·) →
        ((completed ++ current.toList).map Detection.startedAt).Pairwise (· < ·)) := by
  obtain ⟨completed, current, h⟩ := run_account config ops key
  refine ⟨completed, current, h.log_eq, h.completed_ok, fun d hd => (h.current_ok d hd).1,
    h.openAt_iff, ?_⟩
  rw [← tableMachine.map_input_trace (.new config) ops]
  exact h.increasing

theorem advance_update (ho : Open s n x) (hactive : x.state = .active)
    (hsame : selectionDiffers x policy = false) (hover : evaluation.isOverThreshold = true)
    (hclear : evaluation.allBelowClear = false) (hdue : x.updateDue policy now = true) (wall : Int) :
    let q := x.advance policy now wall evaluation
    q.entry.state = .active ∧ q.entry.lastEventAt = some now ∧ Updates s n q.outcome.signal := by
  obtain ⟨w, hw⟩ := ho.opened
  unfold updateDue at hdue
  simp only [advance, Progress.resetSelection, hsame, Bool.false_eq_true, if_false,
    Progress.recordSnapshot, Progress.expireCooldown, hactive, reduceCtorEq, false_and,
    Progress.countSnapshot, DetectionState.isOpen, if_true, Progress.judge, hclear, recordPeaks,
    Progress.paceUpdate, hover, Option.isNone_none, Bool.and_self, updateDue, hdue]
  obtain ⟨c, hctx, hs, hq⟩ := context_some
    { x with
      lastSnapshotAt := some now, lastSnapshotWall := some wall, lastMatched := evaluation.matched,
      snapshotsInDetection := saturatingAdd x.snapshotsInDetection 1,
      peakMatched := evaluation.matched.foldl recordPeak x.peakMatched,
      lastEventAt := some now } s w none hw
  rw [hactive] at hctx
  simp only [Progress.signal, hctx]
  exact ⟨trivial, trivial, _, rfl, rfl, hs, hq.trans ho.events⟩

def samplePolicyAlert : ValidPolicy := ⟨samplePolicy .alertOnly 1, samplePolicy_accepted _⟩

/-- Traffic at the threshold in every window, from instant zero on. -/
def floodOps (n : Nat) : List Op :=
  (List.range n).map fun i => .step samplePolicyAlert (sampleSnapshot i 10)

theorem floodOps_succ (n : Nat) : floodOps (n + 1) =
    floodOps n ++ [.step samplePolicyAlert (sampleSnapshot n 10)] := by simp [floodOps, range_succ]

theorem flood_over (i : Nat) :
    (evaluate samplePolicyAlert (sampleSnapshot i 10)).isOverThreshold = true ∧
      (evaluate samplePolicyAlert (sampleSnapshot i 10)).allBelowClear = false := ⟨rfl, rfl⟩

theorem flood_reports (n : Nat) :
    (∃ x, (tableMachine.run (.new {}) (floodOps (n + 2))).entries[sampleKey]? = some x ∧
      x.state = .active ∧ x.lastEventAt = some (n + 1) ∧
      filing x = (sampleKey, "sample", 1, some (n + 1)) ∧ Shape (some x)) ∧
    (emitted sampleKey (tableMachine.trace (.new {}) (floodOps (n + 2)))).map Prod.fst =
      .started :: List.replicate n .updated := by
  induction n with
  | zero =>
    refine ⟨⟨_, rfl, rfl, rfl, rfl, Or.inr ⟨1, 1, _, rfl, rfl, rfl, rfl, rfl⟩⟩, rfl⟩
  | succ n ih =>
    obtain ⟨⟨x, hx, hactive, hevent, hfile, hshape⟩, hlog⟩ := ih
    obtain ⟨s, m, ho⟩ : ∃ s m, Open s m x := by
      rcases hshape.cases with hc | h
      · have := hc.state
        rw [hactive] at this
        cases this
      · exact h
    simp only [filing, Prod.mk.injEq] at hfile
    have hsame : selectionDiffers x samplePolicyAlert.val = false := by
      simp [selectionDiffers, hfile, samplePolicyAlert, samplePolicy, sampleDraft]
    have hdue : x.updateDue samplePolicyAlert.val (n + 2) = true := by
      simp [updateDue, hevent, samplePolicyAlert, samplePolicy, sampleDraft]
    have hguard : x.refuses (n + 2) = none := by simp [refuses, hfile]
    obtain ⟨hstate, hev, record, hr, hkind, -⟩ := advance_update ho hactive hsame
      (flood_over (n + 2)).1 (flood_over (n + 2)).2 hdue
      ((n + 2 : Nat) : Int)
    obtain ⟨hout, hent⟩ := step_advances samplePolicyAlert.val
      (sampleSnapshot (n + 2) 10) hx rfl rfl hguard
      (evaluate samplePolicyAlert.val (sampleSnapshot (n + 2) 10))
    have hfile' := advance_filing x samplePolicyAlert.val (n + 2) ((n + 2 : Nat) : Int)
      (evaluate samplePolicyAlert.val (sampleSnapshot (n + 2) 10))
    have heffect := advance_effect hshape samplePolicyAlert (n + 2) ((n + 2 : Nat) : Int)
      (evaluate samplePolicyAlert.val (sampleSnapshot (n + 2) 10))
    rw [floodOps_succ, tableMachine.run_snoc, tableMachine.trace_snoc, emitted_snoc, map_append,
      hlog]
    refine ⟨⟨_, ?_, hstate, hev, ?_, heffect.shape⟩, ?_⟩
    · exact (congrArg (·[sampleKey]?) hent).trans (get_insert_self _ _ _)
    · rw [hfile', hfile.1]
      rfl
    · have hsig : ((tableMachine.run (.new {}) (floodOps (n + 2))).step samplePolicyAlert.val
          (sampleSnapshot (n + 2) 10) (evaluate samplePolicyAlert.val
            (sampleSnapshot (n + 2) 10))).1.signal = some record :=
        (congrArg StepOutcome.signal hout).trans hr
      have hforKey : (forKey sampleKey (perform (tableMachine.run (.new {}) (floodOps (n + 2)))
          (.step samplePolicyAlert (sampleSnapshot (n + 2) 10))).1).map Prod.fst = [.updated] := by
        dsimp only [perform]
        rw [hsig, forKey_map]
        simp [hkind, sampleSnapshot]
      rw [replicate_succ', ← cons_append]
      exact congrArg (Signal.started :: List.replicate n .updated ++ ·) hforKey

theorem flood_sequence (n : Nat) : ∃ s, ∀ i ≤ n, ∃ signal c,
    (emitted sampleKey (tableMachine.trace (.new {}) (floodOps (n + 2))))[i]? =
      some (signal, some c) ∧ c.startedAt = s ∧ c.sequence = min i u64Max := by
  have hlog := (flood_reports n).2
  obtain ⟨completed, current, h⟩ := run_account {} (floodOps (n + 2)) sampleKey
  generalize emitted sampleKey (tableMachine.trace (.new {}) (floodOps (n + 2))) = log at hlog h ⊢
  have hnone : completed = [] := by
    rw [eq_nil_iff_forall_not_mem]
    intro d hd
    obtain ⟨em, hem, hended⟩ := getLast_completed (h.completed_ok d hd)
    have hmem : em ∈ log := by
      rw [h.log_eq]
      exact mem_append_left _ (List.mem_flatMap.mpr ⟨d, hd, List.mem_of_getLast? hem⟩)
    have hkind := mem_map_of_mem (f := Prod.fst) hmem
    rw [hlog, hended] at hkind
    simp at hkind
  subst hnone
  cases hc : current with
  | none =>
    have hempty := h.log_eq
    simp [hc] at hempty
    simp [hempty] at hlog
  | some d =>
    have heq : log = d.events := by simpa [hc] using h.log_eq
    have hlength : log.length = n + 1 := by
      rw [← length_map (f := Prod.fst), hlog]
      simp
    refine ⟨d.startedAt, fun i hi => ?_⟩
    have hlt : i < log.length := by omega
    obtain ⟨c, hctx, hs, hq⟩ := (h.current_ok d hc).1.2 i log[i]
      (by rw [← heq]; exact List.getElem?_eq_getElem hlt)
    refine ⟨log[i].1, c, ?_, hs, hq⟩
    rw [List.getElem?_eq_getElem hlt, ← hctx]

/-- After `2 ^ 64` updates one detection has reported two events under the same number. -/
theorem sequence_repeats : ∃ (ops : List Op) (key : ScopeKey) (n i j : Nat)
    (c c' : DetectionContext),
    (emitted key (tableMachine.trace (.new {}) ops)).map Prod.fst =
      .started :: List.replicate n .updated ∧
    i < j ∧
    (∃ signal, (emitted key (tableMachine.trace (.new {}) ops))[i]? = some (signal, some c)) ∧
    (∃ signal, (emitted key (tableMachine.trace (.new {}) ops))[j]? = some (signal, some c')) ∧
    c.startedAt = c'.startedAt ∧ c.sequence = c'.sequence := by
  obtain ⟨s, hseq⟩ := flood_sequence (u64Max + 1)
  obtain ⟨signal, c, hc, hs, hq⟩ := hseq u64Max (by omega)
  obtain ⟨signal', c', hc', hs', hq'⟩ := hseq (u64Max + 1) le_rfl
  refine ⟨floodOps (u64Max + 1 + 2), sampleKey, u64Max + 1, u64Max, u64Max + 1, c, c',
    (flood_reports _).2, by omega, ⟨signal, hc⟩, ⟨signal', hc'⟩, hs.trans hs'.symm, ?_⟩
  omega

end Tidegard.Detector.Proofs.Lifecycle
