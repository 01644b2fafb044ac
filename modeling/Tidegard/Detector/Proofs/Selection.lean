import Tidegard.Detector.Engine
import Tidegard.Detector.Proofs.Lifecycle

namespace Tidegard.Detector.Proofs.Selection

open Tables Input Policy Evaluate State Event Precedence Engine Advance Proofs.Lifecycle

variable {key : ScopeKey} {x : ScopeState} {now : Nat} {wall : Int}
variable {p : Pass} {t : StateTable}

/-- The entry is filed under its key and runs by the policy the set selects for that key. -/
def Selected (policies : PolicySet) (key : ScopeKey) (x : ScopeState) : Prop :=
  x.key = key ∧
    ∃ p, policies.winnerFor key = some p ∧ x.policyId = p.id ∧ x.policyVersion = p.version

/-- What holds of the engine between snapshots. -/
structure Sound (e : ThresholdDetectionEngine) : Prop where
  selected : ∀ (key : ScopeKey) x, e.table.entries[key]? = some x → Selected e.policies key x
  shape : ∀ key : ScopeKey, Shape e.table.entries[key]?

theorem Sound.not_differs (h : Sound e) {policy : DetectionPolicy}
    (hx : e.table.entries[key]? = some x) (hp : e.policies.winnerFor key = some policy) :
    selectionDiffers x policy = false := by
  obtain ⟨-, p, hw, hid, hversion⟩ := h.selected key x hx
  rw [hp] at hw
  cases hw
  simp [selectionDiffers, hid, hversion]

theorem Sound.policy (h : Sound e) (hx : e.table.entries[key]? = some x) :
    ∃ p, e.policies.winnerFor key = some p ∧ e.policies.get x.policyId = some p ∧
      x.policyId = p.id ∧ x.policyVersion = p.version := by
  obtain ⟨-, p, hw, hid, hversion⟩ := h.selected key x hx
  exact ⟨p, hw, by rw [hid]; exact (winnerFor_spec hw).1, hid, hversion⟩

@[simp] theorem send_table (p : Pass) (key : ScopeKey) (record : SignalRecord)
    (built : Option (DetectionEvent × EventFactory)) :
    (p.send key record built).engine.table = p.engine.table := by
  cases built <;> rfl

@[simp] theorem send_policies (p : Pass) (key : ScopeKey) (record : SignalRecord)
    (built : Option (DetectionEvent × EventFactory)) :
    (p.send key record built).engine.policies = p.engine.policies := by
  cases built <;> rfl

theorem step_table (p : Pass) (policy : DetectionPolicy) (snapshot : DetectionSnapshot) :
    (p.step policy snapshot).engine.table =
      (p.engine.table.step policy snapshot (evaluate policy snapshot)).2 := by
  unfold Pass.step
  dsimp only
  split <;> simp

theorem step_policies (p : Pass) (policy : DetectionPolicy) (snapshot : DetectionSnapshot) :
    (p.step policy snapshot).engine.policies = p.engine.policies := by
  unfold Pass.step
  dsimp only
  split <;> simp

theorem evaluateOne_policies (p : Pass) (snapshot : DetectionSnapshot) :
    (p.evaluateOne snapshot).engine.policies = p.engine.policies := by
  unfold Pass.evaluateOne
  split
  · rfl
  · exact step_policies _ _ _

theorem evaluateOne_sound (h : Sound p.engine) (snapshot : DetectionSnapshot) :
    Sound (p.evaluateOne snapshot).engine := by
  unfold Pass.evaluateOne
  split
  · exact h
  · rename_i policy hwin
    have hacc := (winnerFor_spec hwin).2.2
    have hpol := step_policies p policy snapshot
    constructor
    · intro key x hx
      rw [hpol]
      rw [step_table] at hx
      rcases step_shape p.engine.table policy snapshot (evaluate policy snapshot) with
        ⟨-, hent⟩ | ⟨y, hy, -, hent⟩
      · rw [hent] at hx
        exact h.selected key x hx
      · rw [hent] at hx
        split at hx
        · rename_i hkey
          subst hkey
          cases hx
          have hfile := advance_filing y policy snapshot.observedAt snapshot.observedWall
            (evaluate policy snapshot)
          have hykey : y.key = snapshot.key := by
            rcases hy with hy | ⟨-, rfl⟩
            · exact (h.selected _ _ hy).1
            · rfl
          simp only [filing, Prod.mk.injEq] at hfile
          exact ⟨hfile.1.trans hykey, policy, hwin, hfile.2.1, hfile.2.2.1⟩
        · exact h.selected key x hx
    · intro key
      rw [step_table]
      exact (step_effect p.engine.table ⟨policy, hacc⟩ snapshot key (h.shape key)).shape

theorem foldl_evaluateOne_sound (snapshots : List DetectionSnapshot) (h : Sound p.engine) :
    Sound (snapshots.foldl Pass.evaluateOne p).engine := by
  induction snapshots generalizing p with
  | nil => exact h
  | cons snapshot rest ih => exact ih (evaluateOne_sound h snapshot)

theorem closeOne_engine (policyFor : String → Option DetectionPolicy) (wall : Int) (p : Pass)
    (expiry : Expiry) :
    (Pass.closeOne policyFor wall p expiry).engine.table = p.engine.table ∧
      (Pass.closeOne policyFor wall p expiry).engine.policies = p.engine.policies := by
  unfold Pass.closeOne
  repeat' split
  all_goals simp

theorem closeExpired_engine (expiries : List Expiry) (wall : Int)
    (policyFor : String → Option DetectionPolicy) (p : Pass) :
    (p.closeExpired expiries wall policyFor).engine.table = p.engine.table ∧
      (p.closeExpired expiries wall policyFor).engine.policies = p.engine.policies := by
  unfold Pass.closeExpired
  induction expiries generalizing p with
  | nil => exact ⟨rfl, rfl⟩
  | cons x rest ih =>
    obtain ⟨ht, hp⟩ := closeOne_engine policyFor wall p x
    obtain ⟨ht', hp'⟩ := ih (Pass.closeOne policyFor wall p x)
    exact ⟨ht'.trans ht, hp'.trans hp⟩

section

variable (e : ThresholdDetectionEngine) (policies : PolicySet) (now : Nat) (wall : Int)

theorem sweep_table : (e.sweep now wall).engine.table = (e.table.sweep now wall).2 :=
  (closeExpired_engine _ _ _ _).1

theorem sweep_policies : (e.sweep now wall).engine.policies = e.policies :=
  (closeExpired_engine _ _ _ _).2

theorem replacePolicies_table : (e.replacePolicies policies now wall).engine.table =
    (e.table.withdrawStaleSelection now wall (selectionOf policies)).2 :=
  (closeExpired_engine _ _ _ _).1

theorem replacePolicies_policies :
    (e.replacePolicies policies now wall).engine.policies = policies :=
  (closeExpired_engine _ _ _ _).2

variable {e policies now wall}

theorem sweep_entry {key : ScopeKey} (hx : (e.sweep now wall).engine.table.entries[key]? = some x) :
    e.table.entries[key]? = some x := by
  rw [sweep_table] at hx
  exact (sweep_removal e.table now wall).entry hx

theorem replacePolicies_entry {key : ScopeKey}
    (hx : (e.replacePolicies policies now wall).engine.table.entries[key]? = some x) :
    e.table.entries[key]? = some x ∧
      selectionOf policies key = some (x.policyId, x.policyVersion) := by
  rw [replacePolicies_table, (withdraw_removal e.table now wall _).kept, Option.filter_eq_some_iff,
    Option.isNone_map] at hx
  obtain ⟨hget, hfresh⟩ := hx
  refine ⟨hget, ?_⟩
  unfold ScopeState.staleSelection at hfresh
  split at hfresh
  · cases hfresh
  · rename_i id version hw
    split at hfresh
    · cases hfresh
    · rename_i hsame
      simp only [not_or, not_not] at hsame
      rw [hw, hsame.1, hsame.2]

end

theorem sweep_sound (h : Sound e) (now : Nat) (wall : Int) : Sound (e.sweep now wall).engine := by
  constructor
  · intro key x hx
    rw [sweep_policies]
    exact h.selected key x (sweep_entry hx)
  · intro key
    rw [sweep_table]
    exact ((sweep_removal e.table now wall).effect (h.shape key) none).shape

theorem replacePolicies_sound (h : Sound e) (policies : PolicySet) (now : Nat) (wall : Int) :
    Sound (e.replacePolicies policies now wall).engine := by
  constructor
  · intro key x hx
    obtain ⟨hget, hwin⟩ := replacePolicies_entry hx
    obtain ⟨p, hp, heq⟩ := Option.map_eq_some_iff.mp hwin
    simp only [Prod.mk.injEq] at heq
    rw [replacePolicies_policies]
    exact ⟨(h.selected key x hget).1, p, hp, heq.1.symm, heq.2.symm⟩
  · intro key
    rw [replacePolicies_table]
    exact ((withdraw_removal e.table now wall _).effect (h.shape key) none).shape

theorem perform_sound (h : Sound e) (call : Call) : Sound (e.perform call).engine := by
  cases call with
  | evaluate snapshots => exact foldl_evaluateOne_sound snapshots h
  | sweep now wall => exact sweep_sound h now wall
  | replacePolicies policies now wall => exact replacePolicies_sound h policies now wall

theorem new_sound (config : StateTableConfig) (factory : EventFactory)
    (sinkAccepts : DetectionEvent → Bool) (policies : PolicySet) :
    Sound ((ThresholdDetectionEngine.new config factory sinkAccepts).withPolicies policies) := by
  have hnone (key : ScopeKey) : ((ThresholdDetectionEngine.new config factory
      sinkAccepts).withPolicies policies).table.entries[key]? = none := by
    simp [ThresholdDetectionEngine.withPolicies, ThresholdDetectionEngine.new, StateTable.new]
  constructor
  · intro key x hx
    rw [hnone] at hx
    cases hx
  · intro key
    rw [hnone]
    exact .none

theorem run_sound (config : StateTableConfig) (factory : EventFactory)
    (sinkAccepts : DetectionEvent → Bool) (policies : PolicySet) (calls : List Call) :
    Sound (engineMachine.run ((ThresholdDetectionEngine.new config factory sinkAccepts).withPolicies
      policies) calls) :=
  engineMachine.invariant (G := fun _ => True) (new_sound config factory sinkAccepts policies)
    (fun _ call h _ => perform_sound h call) calls (fun _ _ => trivial)

/-- An expiry that ends the open detection of the entry `y`. -/
structure EndsEntry (y : ScopeState) (x : Expiry) (t : StateTransition) (c : DetectionContext) :
    Prop where
  isOpen : y.state.isOpen = true
  transition : x.transition = some t
  detection : x.detection = some c
  policyId : t.policyId = y.policyId
  key : t.key = y.key
  startedAt : y.activeSince = some c.startedAt

theorem expire_ended (hy : Shape (some y))
    (hs : (y.expire key reason now wall).signal = some .ended) :
    ∃ t c, EndsEntry y (y.expire key reason now wall) t c := by
  rcases hy.cases with hc | ⟨s, n, ho⟩
  · simp [ScopeState.expire, hc.state] at hs
  · obtain ⟨t, c, htr, hctx, hst, -, hkey⟩ := transition_idle_context ho reason now wall
    have hid : t.policyId = y.policyId := by
      unfold ScopeState.transition at htr
      split at htr
      · cases htr
        rfl
      · cases htr
    refine ⟨t, c, ho.state, ?_, ?_, hid, hkey, by rw [hst, ho.since]⟩
    · simp [ScopeState.expire, htr]
    · simp [ScopeState.expire, htr, hctx, ho.state]

theorem removal_ended (h : Removal t now wall answer f)
    (hshape : ∀ key : ScopeKey, Shape t.entries[key]?) {x : Expiry} (hx : x ∈ answer.1)
    (hs : x.signal = some .ended) :
    ∃ y tr c, t.entries[x.key]? = some y ∧ EndsEntry y x tr c := by
  obtain ⟨y, hget, hleaves⟩ := h.mem hx
  have hshape' : Shape (some y) := by rw [← hget]; exact hshape x.key
  generalize x.key = key at hget hleaves
  cases hleaves with
  | idle => cases hs
  | expired reason =>
    obtain ⟨tr, c, hends⟩ := expire_ended hshape' hs
    exact ⟨y, tr, c, hget, hends⟩

/-- In every reachable engine each entry runs by the policy the current set selects for its key.
So no snapshot of a later evaluation advances an entry under another policy, and every detection a
sweep or a swap ends still finds the policy its end event is built from. -/
theorem entries_follow_selection (config : StateTableConfig) (factory : EventFactory)
    (sinkAccepts : DetectionEvent → Bool) (policies : PolicySet) (calls : List Call) :
    let e := engineMachine.run ((ThresholdDetectionEngine.new config factory sinkAccepts).withPolicies
      policies) calls
    (∀ (key : ScopeKey) x, e.table.entries[key]? = some x → ∃ p,
      e.policies.winnerFor key = some p ∧ x.policyId = p.id ∧ x.policyVersion = p.version) ∧
    (∀ (before : List DetectionSnapshot) snapshot after policy,
      let mid := (before.foldl Pass.evaluateOne { engine := e, report :=
        { snapshotsSeen := (before ++ snapshot :: after).length } }).engine
      mid.policies.winnerFor snapshot.key = some policy →
      selectionDiffers (mid.table.entries[snapshot.key]?.getD
        (.new snapshot.key policy snapshot.observedAt)) policy = false) ∧
    (∀ now wall, ∀ x ∈ (e.table.sweep now wall).1, x.signal = some .ended → ∃ t c p,
      x.transition = some t ∧ x.detection = some c ∧ e.policies.get t.policyId = some p) ∧
    (∀ incoming now wall,
      ∀ x ∈ (e.table.withdrawStaleSelection now wall (selectionOf incoming)).1,
      x.signal = some .ended → ∃ t c p,
        x.transition = some t ∧ x.detection = some c ∧ e.policies.get t.policyId = some p) := by
  intro e
  have h : Sound e := run_sound config factory sinkAccepts policies calls
  refine ⟨fun key x hx => (h.selected key x hx).2, ?_, ?_, ?_⟩
  · intro before snapshot after policy mid hwin
    have hmid : Sound mid := foldl_evaluateOne_sound before h
    cases hx : mid.table.entries[snapshot.key]? with
    | none => simp [selectionDiffers, ScopeState.new]
    | some x => exact hmid.not_differs hx hwin
  · intro now wall x hx hs
    obtain ⟨y, t, c, hget, hends⟩ := removal_ended (sweep_removal e.table now wall) h.shape hx hs
    obtain ⟨p, -, hp, -, -⟩ := h.policy hget
    exact ⟨t, c, p, hends.transition, hends.detection, by rw [hends.policyId]; exact hp⟩
  · intro incoming now wall x hx hs
    obtain ⟨y, t, c, hget, hends⟩ :=
      removal_ended (withdraw_removal e.table now wall _) h.shape hx hs
    obtain ⟨p, -, hp, -, -⟩ := h.policy hget
    exact ⟨t, c, p, hends.transition, hends.detection, by rw [hends.policyId]; exact hp⟩

end Tidegard.Detector.Proofs.Selection
