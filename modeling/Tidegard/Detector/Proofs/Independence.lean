import Tidegard.Runs
import Tidegard.Detector.Proofs.Advance

namespace Tidegard.Detector.Proofs.Independence

open Runs Tables Input Policy Evaluate State Advance

variable {t : StateTable}
variable {feeds : List Feed} {f : Feed} {l : Nat}

/-- The arguments of one call of `step`. -/
structure Feed where
  policy : DetectionPolicy
  snapshot : DetectionSnapshot
  evaluation : Evaluation

def Feed.key (f : Feed) : ScopeKey := f.snapshot.key

def stepMachine : Machine StateTable Feed StepOutcome :=
  ⟨fun t f => t.step f.policy f.snapshot f.evaluation⟩

def outcomes (key : ScopeKey) (past : List (Step StateTable Feed StepOutcome)) :
    List StepOutcome :=
  (past.filter fun st => st.input.key = key).map Step.output

/-- `step` as one scope sees it: its own entry, and nothing of any other scope. -/
def scopeStep (entry : Option ScopeState) (f : Feed) : StepOutcome × Option ScopeState :=
  if f.policy.executionMode.evaluates = false then
    (.skipped .modeDisabled (entry.map ScopeState.state), entry)
  else if f.snapshot.window ≠ f.policy.window then
    (.skipped .windowMismatch (entry.map ScopeState.state), entry)
  else
    let e := entry.getD (ScopeState.new f.key f.policy f.snapshot.observedAt)
    match e.refuses f.snapshot.observedAt with
    | some reason => (.skipped reason (some e.state), entry)
    | none =>
      let p := e.advance f.policy f.snapshot.observedAt f.snapshot.observedWall f.evaluation
      (p.outcome, some p.entry)

def scopeMachine : Machine (Option ScopeState) Feed StepOutcome := ⟨scopeStep⟩

/-- A scope the table does not hold would find room in it. -/
def Admits (key : ScopeKey) (t : StateTable) : Prop :=
  t.entries[key]? = none → t.entries.size < t.config.maxEntries

theorem step_own (f : Feed) (room : Admits f.key t) :
    (stepMachine.step t f).1 = (scopeStep t.entries[f.key]? f).1 ∧
      (stepMachine.step t f).2.entries[f.key]? = (scopeStep t.entries[f.key]? f).2 := by
  simp only [stepMachine, StateTable.step, scopeStep, Feed.key] at room ⊢
  split
  · exact ⟨rfl, rfl⟩
  split
  · exact ⟨rfl, rfl⟩
  cases hentry : t.entries[f.snapshot.key]? with
  | some e =>
    simp only [StateTable.stepEntry, Option.getD_some]
    cases e.refuses f.snapshot.observedAt with
    | some reason => exact ⟨rfl, hentry⟩
    | none => exact ⟨rfl, get_insert_self _ _ _⟩
  | none =>
    have hroom : ¬t.config.maxEntries ≤ t.entries.size := Nat.not_le.mpr (room hentry)
    simp only [if_neg hroom, StateTable.stepEntry, Option.getD_none, ScopeState.refuses,
      ScopeState.new]
    exact ⟨trivial, get_insert_self _ _ _⟩

theorem step_rule {Q : StepOutcome × StateTable → Prop} (t : StateTable) (f : Feed)
    (skipped : ∀ reason state, Q (t.skip reason state))
    (held : ∀ e, t.entries[f.key]? = some e →
      Q (t.stepEntry f.policy f.snapshot f.evaluation e))
    (admitted : t.entries[f.key]? = none →
      let e := ScopeState.new f.key f.policy f.snapshot.observedAt
      Q (StateTable.stepEntry { t with entries := t.entries.insert f.key e } f.policy f.snapshot
        f.evaluation e)) : Q (stepMachine.step t f) := by
  simp only [stepMachine, StateTable.step]
  split
  · exact skipped _ _
  split
  · exact skipped _ _
  split
  · rename_i e he
    exact held e he
  split
  · exact skipped _ _
  · rename_i hnone _
    exact admitted hnone

/-- A feed is refused and leaves every entry, or advances the entry of its scope. -/
inductive Answered (t : StateTable) (f : Feed) (answer : StepOutcome × StateTable) : Prop
  | refused (ignored : answer.1.ignored.isSome = true) (silent : answer.1.signal = none)
      (same : answer.2.entries = t.entries)
  | advanced (x : ScopeState)
      (entry : t.entries[f.key]? = some x ∧ x.refuses f.snapshot.observedAt = none ∨
        t.entries[f.key]? = none ∧ x = ScopeState.new f.key f.policy f.snapshot.observedAt)
      (outcome : answer.1 = (x.advance f.policy f.snapshot.observedAt f.snapshot.observedWall
        f.evaluation).outcome)
      (after : answer.2.entries[f.key]? = some (x.advance f.policy f.snapshot.observedAt
        f.snapshot.observedWall f.evaluation).entry)

section

variable (t : StateTable) (f : Feed)

theorem step_answered : Answered t f (stepMachine.step t f) := by
  apply step_rule t f
  · exact fun _ _ => .refused rfl rfl rfl
  · intro e he
    unfold StateTable.stepEntry
    cases hpass : e.refuses f.snapshot.observedAt with
    | some reason => exact .refused rfl rfl rfl
    | none => exact .advanced e (Or.inl ⟨he, hpass⟩) rfl (get_insert_self _ _ _)
  · exact fun hnone => .advanced _ (Or.inr ⟨hnone, rfl⟩) rfl (get_insert_self _ _ _)

theorem stepEntry_other (e : ScopeState) {key : ScopeKey}
    (hne : f.key ≠ key) :
    (t.stepEntry f.policy f.snapshot f.evaluation e).2.entries[key]? = t.entries[key]? := by
  unfold StateTable.stepEntry
  split
  · rfl
  · exact get_insert_ne _ _ hne

theorem step_other {key : ScopeKey} (hne : f.key ≠ key) :
    (stepMachine.step t f).2.entries[key]? = t.entries[key]? := by
  apply step_rule (Q := fun answer => answer.2.entries[key]? = t.entries[key]?) t f
  · exact fun _ _ => rfl
  · exact fun e _ => stepEntry_other t f e hne
  · exact fun _ => (stepEntry_other _ f _ hne).trans (get_insert_ne _ _ hne)

theorem stepEntry_config (e : ScopeState) :
    (t.stepEntry f.policy f.snapshot f.evaluation e).2.config = t.config := by
  unfold StateTable.stepEntry
  split <;> rfl

theorem step_config : (stepMachine.step t f).2.config = t.config := by
  apply step_rule (Q := fun answer => answer.2.config = t.config) t f
  · exact fun _ _ => rfl
  · exact fun e _ => stepEntry_config t f e
  · exact fun _ => stepEntry_config _ f _

end

theorem run_scope (key : ScopeKey) (t : StateTable) (feeds : List Feed)
    (room : ∀ st ∈ stepMachine.trace t feeds, st.input.key = key → Admits key st.before) :
    outcomes key (stepMachine.trace t feeds) =
        (scopeMachine.trace t.entries[key]? (feeds.filter fun f => f.key = key)).map Step.output ∧
      (stepMachine.run t feeds).entries[key]? =
        scopeMachine.run t.entries[key]? (feeds.filter fun f => f.key = key) := by
  induction feeds generalizing t with
  | nil => exact ⟨rfl, rfl⟩
  | cons f feeds ih =>
    have hrest := ih (stepMachine.step t f).2 fun st hst => room st (List.mem_cons_of_mem _ hst)
    by_cases hkey : f.key = key
    · subst hkey
      have hroom : Admits f.key t := room (stepMachine.stepAt t f) List.mem_cons_self rfl
      obtain ⟨hout, hent⟩ := step_own f hroom
      rw [hent] at hrest
      simp only [outcomes, Machine.trace, Machine.run, List.filter_cons, Machine.stepAt_input,
        decide_true, if_true, List.map_cons, Machine.stepAt_output] at hrest ⊢
      exact ⟨by rw [hout, hrest.1]; rfl, hrest.2⟩
    · rw [step_other t f hkey] at hrest
      simp only [outcomes, Machine.trace, Machine.run, List.filter_cons, Machine.stepAt_input,
        hkey, decide_false, Bool.false_eq_true, if_false] at hrest ⊢
      exact hrest

theorem run_alone (key : ScopeKey) (t : StateTable) (feeds : List Feed)
    (own : ∀ f ∈ feeds, f.key = key) :
    (stepMachine.run t feeds).config = t.config ∧
      ((stepMachine.run t feeds).entries[key]? = none →
        (stepMachine.run t feeds).entries = t.entries) := by
  induction feeds using List.reverseRecOn with
  | nil => exact ⟨rfl, fun _ => rfl⟩
  | append_singleton feeds f ih =>
    obtain ⟨hconfig, hsame⟩ := ih fun g hg => own g (by simp [hg])
    have hkey : f.key = key := own f (by simp)
    rw [stepMachine.run_snoc]
    refine ⟨(step_config _ f).trans hconfig, ?_⟩
    generalize stepMachine.run t feeds = u at hsame
    subst hkey
    have hinserted (u : StateTable) (e : ScopeState) (hpass : e.refuses f.snapshot.observedAt = none)
        (hnone : (u.stepEntry f.policy f.snapshot f.evaluation e).2.entries[f.key]? = none) :
        False := by
      simp only [StateTable.stepEntry, hpass, Feed.key, get_insert_self] at hnone
      cases hnone
    apply step_rule (Q := fun answer => answer.2.entries[f.key]? = none →
      answer.2.entries = t.entries) u f
    · exact fun _ _ => hsame
    · intro e he hnone
      cases hpass : e.refuses f.snapshot.observedAt with
      | some reason =>
        simp only [StateTable.stepEntry, hpass] at hnone ⊢
        exact hsame hnone
      | none => exact (hinserted u e hpass hnone).elim
    · exact fun _ hnone => (hinserted _ _ rfl hnone).elim

theorem alone_admits {key : ScopeKey} (own : ∀ f ∈ feeds, f.key = key)
    (room : feeds ≠ [] → Admits key t) :
    ∀ st ∈ stepMachine.trace t feeds, st.input.key = key → Admits key st.before := by
  intro st hst _
  obtain ⟨past, f, rest, rfl, rfl⟩ := stepMachine.mem_trace.mp hst
  obtain ⟨hconfig, hsame⟩ := run_alone key t past fun g hg => own g (by simp [hg])
  intro hnone
  rw [Machine.stepAt_before] at hnone ⊢
  have hent := hsame hnone
  rw [hent] at hnone ⊢
  rw [hconfig]
  exact room (by simp) hnone

/-- Tables that hold the same entries and differ at most in what they counted as ignored. -/
structure Alike (t u : StateTable) : Prop where
  config : t.config = u.config
  entries : t.entries = u.entries
  rejectedTableFull : t.stats.rejectedTableFull = u.stats.rejectedTableFull
  expiredIdle : t.stats.expiredIdle = u.stats.expiredIdle
  expiredStale : t.stats.expiredStale = u.stats.expiredStale
  policyChanges : t.stats.policyChanges = u.stats.policyChanges

theorem Alike.skip (h : Alike t u) (reason : StepIgnored) (state : Option DetectionState) :
    (t.skip reason state).1 = (u.skip reason state).1 ∧
      Alike (t.skip reason state).2 (u.skip reason state).2 := by
  refine ⟨rfl, h.config, h.entries, ?_, ?_, ?_, ?_⟩ <;>
    cases reason <;> simp only [StateTable.skip, StateTableStats.countIgnored, h.expiredIdle,
      h.expiredStale, h.policyChanges, h.rejectedTableFull]

theorem Alike.stepEntry (h : Alike t u) (f : Feed) (e : ScopeState) :
    (t.stepEntry f.policy f.snapshot f.evaluation e).1 =
        (u.stepEntry f.policy f.snapshot f.evaluation e).1 ∧
      Alike (t.stepEntry f.policy f.snapshot f.evaluation e).2
        (u.stepEntry f.policy f.snapshot f.evaluation e).2 := by
  unfold StateTable.stepEntry
  split
  · exact h.skip _ _
  · refine ⟨rfl, h.config, ?_, h.rejectedTableFull, h.expiredIdle, h.expiredStale, ?_⟩
    · dsimp only
      rw [h.entries]
    · dsimp only
      rw [h.policyChanges]

theorem Alike.step (h : Alike t u) (f : Feed) :
    (stepMachine.step t f).1 = (stepMachine.step u f).1 ∧
      Alike (stepMachine.step t f).2 (stepMachine.step u f).2 := by
  simp only [stepMachine, StateTable.step, h.entries, h.config]
  split
  · exact h.skip _ _
  split
  · exact h.skip _ _
  split
  · exact h.stepEntry f _
  split
  · exact h.skip _ _
  · apply Alike.stepEntry (f := f)
    exact ⟨rfl, rfl, h.rejectedTableFull, h.expiredIdle, h.expiredStale, h.policyChanges⟩

theorem Alike.run (h : Alike t u) (feeds : List Feed) :
    (stepMachine.trace t feeds).map Step.output = (stepMachine.trace u feeds).map Step.output ∧
      Alike (stepMachine.run t feeds) (stepMachine.run u feeds) := by
  induction feeds generalizing t u with
  | nil => exact ⟨rfl, h⟩
  | cons f feeds ih =>
    obtain ⟨hout, hnext⟩ := h.step f
    obtain ⟨houts, hrun⟩ := ih hnext
    refine ⟨?_, hrun⟩
    simp only [Machine.trace, List.map_cons, Machine.stepAt_output, hout, houts]

/-- The table holds the scope, with a snapshot at `l` or later. -/
def Reached (key : ScopeKey) (l : Nat) (t : StateTable) : Prop :=
  ∃ e last, t.entries[key]? = some e ∧ e.lastSnapshotAt = some last ∧ l ≤ last

theorem advance_lastSnapshotAt (e : ScopeState) (policy : DetectionPolicy) (now : Nat)
    (wall : Int) (evaluation : Evaluation) :
    (e.advance policy now wall evaluation).entry.lastSnapshotAt = some now :=
  congrArg (·.2.2.2) (advance_filing e policy now wall evaluation)

theorem refuses_none {e : ScopeState} {now last : Nat} (hlast : e.lastSnapshotAt = some last)
    (h : e.refuses now = none) : last < now := by
  simp only [ScopeState.refuses, hlast] at h
  split at h
  · cases h
  split at h
  · cases h
  · omega

theorem reached_of_applied (applied : (stepMachine.step t f).1.ignored = none) :
    Reached f.key f.snapshot.observedAt (stepMachine.step t f).2 := by
  have hentry (t : StateTable) (e : ScopeState)
      (h : (t.stepEntry f.policy f.snapshot f.evaluation e).1.ignored = none) :
      Reached f.key f.snapshot.observedAt
        (t.stepEntry f.policy f.snapshot f.evaluation e).2 := by
    unfold StateTable.stepEntry at h ⊢
    split at h
    · cases h
    · exact ⟨_, _, get_insert_self _ _ _, advance_lastSnapshotAt _ _ _ _ _, le_rfl⟩
  revert applied
  apply step_rule (Q := fun answer => answer.1.ignored = none →
    Reached f.key f.snapshot.observedAt answer.2) t f
  · exact fun _ _ h => nomatch h
  · exact fun e _ => hentry t e
  · exact fun _ => hentry _ _

theorem Reached.step {key : ScopeKey} (h : Reached key l t) (f : Feed) :
    Reached key l (stepMachine.step t f).2 := by
  obtain ⟨e, last, he, hlast, hle⟩ := h
  by_cases hkey : f.key = key
  · subst hkey
    have hroom : Admits f.key t := fun hnone => by
      rw [he] at hnone
      cases hnone
    obtain ⟨-, hent⟩ := step_own f hroom
    rw [he] at hent
    simp only [scopeStep, Option.getD_some] at hent
    split at hent
    · exact ⟨e, last, hent, hlast, hle⟩
    split at hent
    · exact ⟨e, last, hent, hlast, hle⟩
    split at hent
    · exact ⟨e, last, hent, hlast, hle⟩
    · rename_i hpass
      have hlt := refuses_none hlast hpass
      exact ⟨_, _, hent, advance_lastSnapshotAt _ _ _ _ _, by omega⟩
  · exact ⟨e, last, (step_other t f hkey).trans he, hlast, hle⟩

theorem run_reached {key : ScopeKey} (hst : st ∈ stepMachine.trace t feeds)
    (hkey : st.input.key = key) (applied : st.output.ignored = none) :
    Reached key st.input.snapshot.observedAt (stepMachine.run t feeds) := by
  obtain ⟨past, f, rest, rfl, rfl⟩ := stepMachine.mem_trace.mp hst
  subst hkey
  rw [stepMachine.run_append]
  have hstart := reached_of_applied applied
  exact stepMachine.invariant (G := fun _ => True) hstart (fun _ g h _ => h.step g) rest
    fun _ _ => trivial

theorem stale_alike (h : Reached f.key l t) (late : f.snapshot.observedAt ≤ l) :
    Alike (stepMachine.step t f).2 t := by
  obtain ⟨e, last, he, hlast, hle⟩ := h
  have hskip (reason : StepIgnored) (state : Option DetectionState)
      (hreason : reason ≠ .tableFull) : Alike (t.skip reason state).2 t := by
    refine ⟨rfl, rfl, ?_, ?_, ?_, ?_⟩ <;> cases reason <;> first | rfl | exact absurd rfl hreason
  have he' : t.entries[f.snapshot.key]? = some e := he
  simp only [stepMachine, StateTable.step, he']
  split
  · exact hskip _ _ (by decide)
  split
  · exact hskip _ _ (by decide)
  · simp only [StateTable.stepEntry, ScopeState.refuses, hlast]
    by_cases hlt : f.snapshot.observedAt < last
    · simp only [if_pos hlt]
      exact hskip _ _ (by decide)
    · have heq : f.snapshot.observedAt = last := by omega
      simp only [heq, lt_irrefl, if_true, if_false]
      exact hskip _ _ (by decide)

/-- In a table with room for every scope, what a scope is told and left with is what its own
feeds alone give it; and a feed no later than a snapshot the scope already had changes no entry
and nothing that follows, only counts of ignored feeds. -/
theorem scopes_independent (t : StateTable) :
    (∀ (feeds : List Feed) (key : ScopeKey),
      (∀ st ∈ stepMachine.trace t feeds, st.before.entries.size < st.before.config.maxEntries) →
      outcomes key (stepMachine.trace t feeds) =
          (stepMachine.trace t (feeds.filter fun f => f.key = key)).map Step.output ∧
        (stepMachine.run t feeds).entries[key]? =
          (stepMachine.run t (feeds.filter fun f => f.key = key)).entries[key]?) ∧
    (∀ (before after : List Feed) (f : Feed) (st : Step StateTable Feed StepOutcome),
      st ∈ stepMachine.trace t before → st.input.key = f.key → st.output.ignored = none →
      f.snapshot.observedAt ≤ st.input.snapshot.observedAt →
      (stepMachine.run t (before ++ [f])).entries = (stepMachine.run t before).entries ∧
      (stepMachine.trace (stepMachine.run t (before ++ [f])) after).map Step.output =
        (stepMachine.trace (stepMachine.run t before) after).map Step.output ∧
      Alike (stepMachine.run t (before ++ f :: after)) (stepMachine.run t (before ++ after))) := by
  refine ⟨fun feeds key room => ?_, fun before after f st hst hkey happlied hlate => ?_⟩
  · have hfed := run_scope key t feeds fun st hst _ _ => room st hst
    have hown : ∀ f ∈ feeds.filter fun f => f.key = key, f.key = key := fun f hf =>
      of_decide_eq_true (List.mem_filter.mp hf).2
    have hfirst : feeds.filter (fun f => f.key = key) ≠ [] → Admits key t := by
      intro hne _
      cases feeds with
      | nil => exact absurd rfl hne
      | cons f feeds => exact room (stepMachine.stepAt t f) List.mem_cons_self
    have halone := run_scope key t _ (alone_admits hown hfirst)
    rw [List.filter_filter] at halone
    simp only [Bool.and_self] at halone
    have hall : outcomes key (stepMachine.trace t (feeds.filter fun f => f.key = key)) =
        (stepMachine.trace t (feeds.filter fun f => f.key = key)).map Step.output := by
      unfold outcomes
      rw [List.filter_eq_self.mpr]
      intro st hst
      have hin : st.input ∈ feeds.filter fun f => f.key = key := by
        rw [← stepMachine.map_input_trace t (feeds.filter fun f => f.key = key)]
        exact List.mem_map_of_mem hst
      exact decide_eq_true (hown _ hin)
    exact ⟨(hfed.1.trans halone.1.symm).trans hall, hfed.2.trans halone.2.symm⟩
  · have hreached := run_reached hst hkey happlied
    have halike := stale_alike hreached hlate
    have hsplit : stepMachine.run t (before ++ f :: after) =
        stepMachine.run (stepMachine.step (stepMachine.run t before) f).2 after :=
      stepMachine.run_append t before (f :: after)
    rw [stepMachine.run_snoc, hsplit, stepMachine.run_append t before after]
    exact ⟨halike.entries, halike.run after⟩

/-- The sample host, and the same host under another tenant, each with traffic at the
threshold. -/
def sampleFeed (tenant : String) (observedAt : Nat) : Feed :=
  let policy := samplePolicy .alertOnly 1
  let snapshot := { sampleSnapshot observedAt 10 with key := { sampleKey with tenant := tenant } }
  { policy, snapshot, evaluation := evaluate policy snapshot }

def sampleFeeds : List Feed :=
  [sampleFeed "acme" 5, sampleFeed "globex" 3, sampleFeed "acme" 6, sampleFeed "globex" 4]

theorem scopes_independent_sample :
    outcomes sampleKey (stepMachine.trace (.new {}) sampleFeeds) =
      (stepMachine.trace (.new {}) [sampleFeed "acme" 5, sampleFeed "acme" 6]).map Step.output ∧
    (outcomes sampleKey (stepMachine.trace (.new {}) sampleFeeds)).map (·.signal.isSome) =
      [false, true] ∧
    (stepMachine.run (.new {}) (sampleFeeds ++ [sampleFeed "acme" 5])).entries =
      (stepMachine.run (.new {}) sampleFeeds).entries := by
  obtain ⟨halone, hreplay⟩ := scopes_independent (.new {})
  have hroom : ∀ st ∈ stepMachine.trace (.new {}) sampleFeeds,
      st.before.entries.size < st.before.config.maxEntries := by
    intro st hst
    simp only [sampleFeeds, Machine.trace, List.mem_cons, List.not_mem_nil, or_false] at hst
    rcases hst with rfl | rfl | rfl | rfl <;> decide +kernel
  refine ⟨(halone sampleFeeds sampleKey hroom).1, rfl, ?_⟩
  exact (hreplay sampleFeeds [] (sampleFeed "acme" 5)
    (stepMachine.stepAt (.new {}) (sampleFeed "acme" 5)) List.mem_cons_self rfl rfl le_rfl).1

end Tidegard.Detector.Proofs.Independence
