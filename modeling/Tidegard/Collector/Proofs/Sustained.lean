import Tidegard.Collector.Stage
import Tidegard.Detector.Proofs.Selection

namespace Tidegard.Collector.Proofs.Sustained

open Runs Tables Common Detector.Input Detector.Policy Detector.Evaluate Detector.State
open Detector.Event Detector.Precedence Detector.Engine Detector.Window Detector.Proofs.Advance
open Detector.Proofs.Lifecycle Detector.Proofs.Selection Classifier Stage

variable {policy : DetectionPolicy} {key : ScopeKey} {snapshot : DetectionSnapshot} {now : Nat}
variable {done : List DetectionSnapshot} {x : ScopeState}
variable {past : List (Step DetectionStage StageCall StageOutput)} {s : DetectionStage}
variable {z : ScopeState} {wall : Int}

theorem reaches_more (h : ReachesThreshold policy key snapshots) (rest : List DetectionSnapshot) :
    ReachesThreshold policy key (snapshots ++ rest) := by
  obtain ⟨s, hs, hreach⟩ := h
  exact ⟨s, List.mem_append_left rest hs, hreach⟩

theorem reaches_last (h : (evaluate policy snapshot).isOverThreshold = true)
    (done : List DetectionSnapshot) :
    ReachesThreshold policy snapshot.key (done ++ [snapshot]) := by
  obtain ⟨metric, threshold, hget, -, hle⟩ := (isOverThreshold_iff policy snapshot).mp h
  exact ⟨snapshot, by simp, rfl, metric, threshold, hget, hle⟩

/-- Where a scope's entry stands part way through a closed window's snapshots: `start` is the
entry before the window, `done` are the snapshots judged so far. -/
inductive Tended (policy : DetectionPolicy) (now : Nat) (done : List DetectionSnapshot)
    (key : ScopeKey) (start : Option ScopeState) : Option ScopeState → Prop
  | untouched
      (silent : start.isSome → ∀ s ∈ done, s.key ≠ key) : Tended policy now done key start start
  | judged {y : ScopeState} (evaluates : policy.executionMode.evaluates = true)
      (last : y.lastSnapshotAt = some now)
      (pending : y.state = .pendingTrigger → ReachesThreshold policy key done ∧
        (y.enteredAt = now ∨
          ∃ z, start = some z ∧ z.state = .pendingTrigger ∧ y.enteredAt = z.enteredAt)) :
      Tended policy now done key start (some y)

/-- The start signal comes from an entry that had waited long enough and was over again. -/
def Earned (policy : DetectionPolicy) (now : Nat) (done : List DetectionSnapshot)
    (start : ScopeKey → Option ScopeState) (r : Reported) : Prop :=
  r.record.signal = .started → ∃ z, start r.key = some z ∧ z.state = .pendingTrigger ∧
    policy.triggerFor ≤ now - z.enteredAt ∧ ReachesThreshold policy r.key done

/-- The engine part way through a closed window. -/
structure Tending (policy : ValidPolicy) (now : Nat) (start : ScopeKey → Option ScopeState)
    (done : List DetectionSnapshot) (p : Pass) : Prop where
  sound : Sound p.engine
  policies : p.engine.policies = PolicySet.empty.add policy
  tended : ∀ key, Tended policy now done key (start key) p.engine.table.entries[key]?
  earned : ∀ r ∈ p.reported, Earned policy now done start r

theorem Tended.other {start x : Option ScopeState} (h : Tended policy now done key start x)
    (hne : snapshot.key ≠ key) : Tended policy now (done ++ [snapshot]) key start x := by
  cases h with
  | untouched silent =>
    refine .untouched fun hsome s hs => ?_
    rcases List.mem_append.mp hs with hs | hs
    · exact silent hsome s hs
    · rw [List.mem_singleton.mp hs]
      exact hne
  | judged evaluates last pending =>
    refine .judged evaluates last fun h => ?_
    exact ⟨reaches_more (pending h).1 _, (pending h).2⟩

/-- After a window that held a snapshot of every waiting scope, a pending trigger was over
threshold in it, and began now or was already waiting. -/
theorem Tended.pending {start : Option ScopeState} (h : Tended policy now done key start (some x))
    (hpend : x.state = .pendingTrigger)
    (hfed : ∀ z, start = some z → z.state = .pendingTrigger → ∃ s ∈ done, s.key = key) :
    ReachesThreshold policy key done ∧ (x.enteredAt = now ∨
      ∃ z, start = some z ∧ z.state = .pendingTrigger ∧ x.enteredAt = z.enteredAt) := by
  generalize hx : some x = y at h
  cases h with
  | untouched silent =>
    obtain ⟨s, hs, hkey⟩ := hfed x hx.symm hpend
    exact absurd hkey (silent (by rw [← hx]; rfl) s hs)
  | judged evaluates last pending =>
    cases hx
    exact pending hpend

theorem Tended.last {start : Option ScopeState} (h : Tended policy now done key start (some x)) :
    start = some x ∨ policy.executionMode.evaluates = true ∧ x.lastSnapshotAt = some now := by
  generalize hx : some x = y at h
  cases h with
  | untouched => exact Or.inl rfl
  | judged evaluates last pending =>
    cases hx
    exact Or.inr ⟨evaluates, last⟩

theorem winner_single {policy : ValidPolicy}
    (h : (PolicySet.empty.add policy).winnerFor key = some p) : p = policy.val := by
  have hget := (winnerFor_spec h).1
  simp only [PolicySet.get, PolicySet.add, PolicySet.empty, get_insert] at hget
  split at hget
  · exact (Option.some.inj hget).symm
  · simp at hget

theorem step_reported (p : Pass) (policy : DetectionPolicy) (snapshot : DetectionSnapshot) :
    ∃ rs, (p.step policy snapshot).reported = p.reported ++ rs ∧ ∀ r ∈ rs,
      r.key = snapshot.key ∧
      (p.engine.table.step policy snapshot (evaluate policy snapshot)).1.signal =
        some r.record := by
  unfold Pass.step
  dsimp only
  split
  · exact ⟨[], by simp, by simp⟩
  · rename_i record hsig
    unfold Pass.send
    dsimp only
    split
    · exact ⟨[_], rfl, by simp [hsig]⟩
    · exact ⟨[_], rfl, by simp [hsig]⟩

theorem step_silent {p : Pass}
    (h : (p.engine.table.step policy snapshot (evaluate policy snapshot)).1.signal = none) :
    (p.step policy snapshot).reported = p.reported := by
  obtain ⟨rs, hrep, hrs⟩ := step_reported p policy snapshot
  cases rs with
  | nil => simpa using hrep
  | cons r rest =>
    have hsig := (hrs r (by simp)).2
    rw [h] at hsig
    cases hsig

theorem refuses_judged {y : ScopeState} (h : y.lastSnapshotAt = some now) :
    y.refuses now = some .duplicate := by
  simp [ScopeState.refuses, h]

theorem step_refused {t : StateTable}
    (h : policy.executionMode.evaluates = false ∨ ∃ y reason,
      t.entries[snapshot.key]? = some y ∧ y.refuses snapshot.observedAt = some reason) :
    (t.step policy snapshot evaluation).1.signal = none ∧
      (t.step policy snapshot evaluation).2.entries = t.entries := by
  unfold StateTable.step
  dsimp only
  split
  · exact ⟨rfl, rfl⟩
  · rename_i hmode
    split
    · exact ⟨rfl, rfl⟩
    · rcases h with h | ⟨y, reason, hy, hr⟩
      · exact absurd h hmode
      · simp only [hy, StateTable.stepEntry, hr]
        exact ⟨rfl, rfl⟩

theorem advance_tended {policy : ValidPolicy} (hz : Shape (some z)) {start : Option ScopeState}
    (hstart : z.state = .pendingTrigger → start = some z)
    (hmode : policy.val.executionMode.evaluates = true) (snapshot : DetectionSnapshot)
    (done : List DetectionSnapshot) :
    Tended policy snapshot.observedAt (done ++ [snapshot]) snapshot.key start
      (some (z.advance policy.val snapshot.observedAt snapshot.observedWall
        (evaluate policy.val snapshot)).entry) := by
  have ht := policy.property.trigger_pos
  have hfile := advance_filing z policy.val snapshot.observedAt snapshot.observedWall
    (evaluate policy.val snapshot)
  simp only [filing, Prod.mk.injEq] at hfile
  refine .judged hmode hfile.2.2.2 fun hpend => ?_
  rcases hz.cases with hc | ⟨s, n, ho⟩
  · rcases advance_closed hc ht snapshot.observedAt snapshot.observedWall
      (evaluate policy.val snapshot) with ⟨-, -, hpending⟩ | ⟨-, -, -, ho, -⟩
    · obtain ⟨hover, hnow | ⟨hs, he⟩⟩ := hpending hpend
      · exact ⟨reaches_last hover done, Or.inl hnow⟩
      · exact ⟨reaches_last hover done, Or.inr ⟨z, hstart hs, hs, he⟩⟩
    · have := ho.state
      rw [hpend] at this
      cases this
  · rcases advance_open ho ht snapshot.observedAt snapshot.observedWall
      (evaluate policy.val snapshot) with ⟨ho', -⟩ | ⟨ho', -⟩ | ⟨-, -, hpending⟩
    · have := ho'.state
      rw [hpend] at this
      cases this
    · have := ho'.state
      rw [hpend] at this
      cases this
    · obtain ⟨hover, hnow⟩ := hpending hpend
      exact ⟨reaches_last hover done, Or.inl hnow⟩

theorem advance_earned {policy : ValidPolicy} (hz : Shape (some z)) (snapshot : DetectionSnapshot)
    (hr : (z.advance policy.val snapshot.observedAt snapshot.observedWall
      (evaluate policy.val snapshot)).outcome.signal = some record)
    (hstarted : record.signal = .started) :
    z.state = .pendingTrigger ∧ policy.val.triggerFor ≤ snapshot.observedAt - z.enteredAt ∧
      (evaluate policy.val snapshot).isOverThreshold = true := by
  have ht := policy.property.trigger_pos
  rcases hz.cases with hc | ⟨s, n, ho⟩
  · rcases advance_closed hc ht snapshot.observedAt snapshot.observedWall
      (evaluate policy.val snapshot) with ⟨-, hnone, -⟩ | ⟨hs, hover, hlong, -, -⟩
    · rw [hnone] at hr
      cases hr
    · exact ⟨hs, hlong, hover⟩
  · rcases advance_open ho ht snapshot.observedAt snapshot.observedWall
      (evaluate policy.val snapshot) with
      ⟨-, hnone⟩ | ⟨-, record', hr', hkind, -⟩ | ⟨-, ⟨record', hr', hkind, -⟩, -⟩
    · rw [hnone] at hr
      cases hr
    · rw [hr'] at hr
      cases hr
      rw [hkind] at hstarted
      cases hstarted
    · rw [hr'] at hr
      cases hr
      rw [hkind] at hstarted
      cases hstarted

theorem Earned.more {start : ScopeKey → Option ScopeState} (h : Earned policy now done start r)
    (rest : List DetectionSnapshot) : Earned policy now (done ++ rest) start r := by
  intro hstarted
  obtain ⟨z, hz, hpend, hlong, hreach⟩ := h hstarted
  exact ⟨z, hz, hpend, hlong, reaches_more hreach rest⟩

theorem evaluates_of_admitted {t : StateTable} (hx : t.entries[snapshot.key]? = none)
    (hy : (t.step policy snapshot evaluation).2.entries[snapshot.key]? = some y) :
    policy.executionMode.evaluates = true := by
  by_contra hoff
  have hsame : (t.step policy snapshot evaluation).2.entries = t.entries :=
    (step_refused (Or.inl (by simpa using hoff))).2
  rw [hsame, hx] at hy
  cases hy

section Window

variable {policy : ValidPolicy} {now : Nat} {start : ScopeKey → Option ScopeState}
  {done : List DetectionSnapshot} {p : Pass}

variable {snapshot : DetectionSnapshot}

section

variable (h : Tending policy now start done p)

include h

theorem Tending.refused {q : Pass}
    (hpolicies : q.engine.policies = p.engine.policies)
    (hentries : q.engine.table.entries = p.engine.table.entries) (hrep : q.reported = p.reported)
    (hsound : Sound q.engine)
    (hkey : Tended policy now (done ++ [snapshot]) snapshot.key (start snapshot.key)
      p.engine.table.entries[snapshot.key]?) : Tending policy now start (done ++ [snapshot]) q := by
  refine ⟨hsound, hpolicies.trans h.policies, ?_, ?_⟩
  · intro key
    rw [hentries]
    by_cases hk : snapshot.key = key
    · rw [← hk]
      exact hkey
    · exact (h.tended key).other hk
  · intro r hr
    rw [hrep] at hr
    exact (h.earned r hr).more _

theorem Tending.advanced (hnow : snapshot.observedAt = now)
    {z : ScopeState} (hz : Shape (some z))
    (hstart : z.state = .pendingTrigger → start snapshot.key = some z)
    (hmode : policy.val.executionMode.evaluates = true)
    (hsound : Sound (p.step policy.val snapshot).engine)
    (hout : (p.engine.table.step policy.val snapshot (evaluate policy.val snapshot)).1 =
      (z.advance policy.val snapshot.observedAt snapshot.observedWall
        (evaluate policy.val snapshot)).outcome)
    (hent : ∀ key : ScopeKey, (p.engine.table.step policy.val snapshot
        (evaluate policy.val snapshot)).2.entries[key]? =
      if snapshot.key = key then
        some (z.advance policy.val snapshot.observedAt snapshot.observedWall
          (evaluate policy.val snapshot)).entry
      else p.engine.table.entries[key]?) :
    Tending policy now start (done ++ [snapshot]) (p.step policy.val snapshot) := by
  subst hnow
  refine ⟨hsound, (step_policies p _ _).trans h.policies, ?_, ?_⟩
  · intro key
    rw [step_table, hent]
    split
    · rename_i hk
      rw [← hk]
      exact advance_tended hz hstart hmode snapshot done
    · rename_i hk
      exact (h.tended key).other hk
  · intro r hr
    obtain ⟨rs, hrep, hrs⟩ := step_reported p policy.val snapshot
    rw [hrep] at hr
    rcases List.mem_append.mp hr with hr | hr
    · exact (h.earned r hr).more _
    · obtain ⟨hkey, hsig⟩ := hrs r hr
      intro hstarted
      rw [hout] at hsig
      obtain ⟨hpend, hlong, hover⟩ := advance_earned hz snapshot hsig hstarted
      rw [hkey]
      exact ⟨z, hstart hpend, hpend, hlong, reaches_last hover done⟩

variable (hready : ∀ key z, start key = some z →
  policy.val.executionMode.evaluates = true ∧ z.refuses now = none)

include hready

theorem step_tending (snapshot : DetectionSnapshot)
    (hnow : snapshot.observedAt = now) (hwindow : snapshot.window = policy.val.window)
    (hsound : Sound (p.step policy.val snapshot).engine) :
    Tending policy now start (done ++ [snapshot]) (p.step policy.val snapshot) := by
  have hrefused (hr : (p.engine.table.step policy.val snapshot
        (evaluate policy.val snapshot)).1.signal = none ∧
      (p.engine.table.step policy.val snapshot (evaluate policy.val snapshot)).2.entries =
        p.engine.table.entries)
      (ht : Tended policy now (done ++ [snapshot]) snapshot.key (start snapshot.key)
        p.engine.table.entries[snapshot.key]?) :
      Tending policy now start (done ++ [snapshot]) (p.step policy.val snapshot) :=
    h.refused (step_policies p _ _) (by rw [step_table, hr.2]) (step_silent hr.1) hsound ht
  have hkey := h.tended snapshot.key
  generalize hx : p.engine.table.entries[snapshot.key]? = x at hkey hrefused
  generalize hs : start snapshot.key = x₀ at hkey hrefused
  cases hkey with
  | @judged y evaluates last pending =>
    refine hrefused (step_refused (Or.inr ⟨y, .duplicate, hx, ?_⟩)) ?_
    · rw [hnow]
      exact refuses_judged last
    · exact .judged evaluates last fun hp => ⟨reaches_more (pending hp).1 _, (pending hp).2⟩
  | untouched =>
    cases x with
    | none =>
      rcases step_shape p.engine.table policy.val snapshot (evaluate policy.val snapshot) with
        hskip | ⟨z, hz, hout, hent⟩
      · exact hrefused hskip (.untouched fun hsome => by cases hsome)
      · rcases hz with hz | ⟨-, rfl⟩
        · rw [hx] at hz
          cases hz
        · have hmode := evaluates_of_admitted hx ((hent _).trans (if_pos rfl))
          exact h.advanced hnow (Or.inl (quiet_some (new_closed _ _ _)))
            (fun hp => by cases hp) hmode hsound hout hent
    | some z =>
      obtain ⟨hmode, hguard⟩ := hready snapshot.key z hs
      rw [← hnow] at hguard
      obtain ⟨hout, hent⟩ := step_advances policy.val snapshot hx hmode hwindow hguard
        (evaluate policy.val snapshot)
      refine h.advanced hnow ?_ (fun _ => hs) hmode hsound hout fun key => ?_
      · rw [← hx]
        exact h.sound.shape snapshot.key
      · rw [hent, get_insert]

theorem evaluateOne_tending (snapshot : DetectionSnapshot)
    (hnow : snapshot.observedAt = now) (hwindow : snapshot.window = policy.val.window) :
    Tending policy now start (done ++ [snapshot]) (p.evaluateOne snapshot) := by
  have hsound := evaluateOne_sound h.sound snapshot
  unfold Pass.evaluateOne at hsound ⊢
  split at hsound
  · -- no policy wins, so the scope has no entry either
    rename_i hnone
    refine h.refused rfl rfl rfl hsound ?_
    have hkey := h.tended snapshot.key
    cases hx : p.engine.table.entries[snapshot.key]? with
    | none =>
      rw [hx] at hkey
      cases hs : start snapshot.key with
      | none => exact .untouched fun hsome => by cases hsome
      | some z => rw [hs] at hkey; cases hkey
    | some x =>
      obtain ⟨_, q, hq, _⟩ := h.sound.selected _ _ hx
      rw [hnone] at hq
      cases hq
  · rename_i winner hwin
    obtain rfl : winner = policy.val := by
      rw [h.policies] at hwin
      exact winner_single hwin
    exact step_tending h hready snapshot hnow hwindow hsound

theorem foldl_tending
    (hrest : ∀ s ∈ rest, s.observedAt = now ∧ s.window = policy.val.window) :
    Tending policy now start (done ++ rest) (rest.foldl Pass.evaluateOne p) := by
  induction rest generalizing done p with
  | nil => simpa using h
  | cons snapshot rest ih =>
    obtain ⟨hnow, hwindow⟩ := hrest snapshot (by simp)
    have hone := evaluateOne_tending h hready snapshot hnow hwindow
    have hall := ih hone fun s hs => hrest s (by simp [hs])
    rwa [List.append_assoc] at hall

end

theorem evaluate_tending (hsound : Sound e)
    (hpolicies : e.policies = PolicySet.empty.add policy)
    (hsnap : ∀ s ∈ snapshots, s.observedAt = now ∧ s.window = policy.val.window)
    (hready : ∀ (key : ScopeKey) z, e.table.entries[key]? = some z →
      policy.val.executionMode.evaluates = true ∧ z.refuses now = none) :
    Tending policy now (fun key => e.table.entries[key]?) snapshots (e.evaluate snapshots) := by
  have hfirst : Tending policy now (fun key => e.table.entries[key]?) []
      { engine := e, report := { snapshotsSeen := snapshots.length } } :=
    ⟨hsound, hpolicies, fun key => .untouched (by simp), by simp⟩
  exact foldl_tending hfirst hready hsnap

end Window

theorem closeOne_reported (policyFor : String → Option DetectionPolicy) (wall : Int) (p : Pass)
    (expiry : Expiry) :
    ∃ rs, (Pass.closeOne policyFor wall p expiry).reported = p.reported ++ rs ∧
      ∀ r ∈ rs, r.record.signal = .ended := by
  unfold Pass.closeOne
  split
  · split
    · exact ⟨[], by simp, by simp⟩
    · dsimp only
      split
      · exact ⟨[_], rfl, by simp⟩
      · unfold Pass.send
        split
        · exact ⟨[_], rfl, by simp⟩
        · exact ⟨[_], rfl, by simp⟩
  · exact ⟨[], by simp, by simp⟩

theorem sweep_reported (e : ThresholdDetectionEngine) (now : Nat) (wall : Int) :
    ∀ r ∈ (e.sweep now wall).reported, r.record.signal = .ended := by
  have hfold (expiries : List Expiry) (p : Pass) (hp : ∀ r ∈ p.reported, r.record.signal = .ended) :
      ∀ r ∈ (p.closeExpired expiries wall e.policies.get).reported, r.record.signal = .ended := by
    unfold Pass.closeExpired
    induction expiries generalizing p with
    | nil => exact hp
    | cons x rest ih =>
      obtain ⟨rs, hrep, hrs⟩ := closeOne_reported e.policies.get wall p x
      refine ih _ fun r hr => ?_
      rw [hrep] at hr
      rcases List.mem_append.mp hr with hr | hr
      · exact hp r hr
      · exact hrs r hr
  exact hfold _ _ (by simp)

/-- What a run of the stage remembers about its pending triggers. -/
structure Waiting (policy : ValidPolicy) (past : List (Step DetectionStage StageCall StageOutput))
    (s : DetectionStage) : Prop where
  sound : Sound s.engine
  policies : s.engine.policies = PolicySet.empty.add policy
  window : s.windows.config.window = policy.val.window
  ready : ∀ (key : ScopeKey) x, s.engine.table.entries[key]? = some x →
    policy.val.executionMode.evaluates = true ∧
      ∀ last, x.lastSnapshotAt = some last → last ≤ s.windows.windowStart
  /-- Every window closed since the trigger began to wait was at or above a threshold. -/
  pending : ∀ (key : ScopeKey) x, s.engine.table.entries[key]? = some x →
    x.state = .pendingTrigger → ∀ st ∈ past, ∀ u snapshots, ClosedAt st u snapshots →
      x.enteredAt ≤ u → ReachesThreshold policy key snapshots
  closed_le : ∀ st ∈ past, ∀ u snapshots, ClosedAt st u snapshots → u ≤ s.windows.windowStart
  opened_le : ∀ st ∈ past, ∀ t key, OpensAt st t key → t ≤ s.windows.windowStart
  sustained : Sustained policy past

theorem Waiting.start (policy : ValidPolicy) (config : WindowConfig)
    (hwindow : config.window = policy.val.window) (table : StateTableConfig)
    (factory : EventFactory) (sinkAccepts : DetectionEvent → Bool) (now : Nat) :
    Waiting policy [] (.new config ((ThresholdDetectionEngine.new table factory
      sinkAccepts).withPolicies (PolicySet.empty.add policy)) now) := by
  have hnone (key : ScopeKey) : ((ThresholdDetectionEngine.new table factory
      sinkAccepts).withPolicies (PolicySet.empty.add policy)).table.entries[key]? = none := by
    simp [ThresholdDetectionEngine.withPolicies, ThresholdDetectionEngine.new, StateTable.new]
  refine ⟨new_sound _ _ _ _, rfl, hwindow, ?_, ?_, by simp, by simp, by simp [Sustained]⟩
  · intro key x hx
    exact absurd ((hnone key).symm.trans hx) (by simp)
  · intro key x hx
    exact absurd ((hnone key).symm.trans hx) (by simp)

/-- One more call: a window it closes comes after every earlier one, and a detection it opens
belonged to a scope that waited since a trigger time before. -/
theorem Waiting.snoc {policy : ValidPolicy} {s' : DetectionStage} (h : Waiting policy past s)
    {st : Step DetectionStage StageCall StageOutput} (hsound : Sound s'.engine)
    (hpolicies : s'.engine.policies = PolicySet.empty.add policy)
    (hwindow : s'.windows.config.window = policy.val.window)
    (hle : s.windows.windowStart ≤ s'.windows.windowStart)
    (hready : ∀ (key : ScopeKey) x, s'.engine.table.entries[key]? = some x →
      policy.val.executionMode.evaluates = true ∧
        ∀ last, x.lastSnapshotAt = some last → last ≤ s'.windows.windowStart)
    (hpending : ∀ (key : ScopeKey) x, s'.engine.table.entries[key]? = some x →
      x.state = .pendingTrigger →
      (∀ u snapshots, ClosedAt st u snapshots → ReachesThreshold policy key snapshots) ∧
        (s.windows.windowStart < x.enteredAt ∨ ∃ z, s.engine.table.entries[key]? = some z ∧
          z.state = .pendingTrigger ∧ x.enteredAt = z.enteredAt))
    (hclosed : ∀ u snapshots, ClosedAt st u snapshots →
      s.windows.windowStart < u ∧ u ≤ s'.windows.windowStart)
    (hopened : ∀ t key, OpensAt st t key → t ≤ s'.windows.windowStart ∧
      (∃ z, s.engine.table.entries[key]? = some z ∧ z.state = .pendingTrigger ∧
        z.enteredAt + policy.val.triggerFor ≤ t) ∧
      ∀ u snapshots, ClosedAt st u snapshots → ReachesThreshold policy key snapshots) :
    Waiting policy (past ++ [st]) s' := by
  refine ⟨hsound, hpolicies, hwindow, hready, ?_, ?_, ?_, ?_⟩
  · intro key x hx hpend
    obtain ⟨hreach, hsince⟩ := hpending key x hx hpend
    refine List.forall_mem_append.mpr ⟨fun st' hst' u snapshots hc hentered => ?_,
      List.forall_mem_singleton.mpr fun u snapshots hc _ => hreach u snapshots hc⟩
    have hu := h.closed_le st' hst' u snapshots hc
    rcases hsince with hnew | ⟨z, hz, hzpend, hsame⟩
    · omega
    · exact h.pending key z hz hzpend st' hst' u snapshots hc (by omega)
  · refine List.forall_mem_append.mpr ⟨fun st' hst' u snapshots hc => ?_,
      List.forall_mem_singleton.mpr fun u snapshots hc => (hclosed u snapshots hc).2⟩
    exact (h.closed_le st' hst' u snapshots hc).trans hle
  · refine List.forall_mem_append.mpr ⟨fun st' hst' t key ho => ?_,
      List.forall_mem_singleton.mpr fun t key ho => (hopened t key ho).1⟩
    exact (h.opened_le st' hst' t key ho).trans hle
  · refine List.forall_mem_append.mpr ⟨fun opening hopening t key ho => ?_,
      List.forall_mem_singleton.mpr fun t key ho => ?_⟩
    · refine List.forall_mem_append.mpr ⟨h.sustained opening hopening t key ho,
        List.forall_mem_singleton.mpr fun u snapshots hc _ hbefore => ?_⟩
      -- the window just closed is later than every opening before it
      have ht := h.opened_le opening hopening t key ho
      have hu := (hclosed u snapshots hc).1
      omega
    · obtain ⟨-, ⟨z, hz, hzpend, hlong⟩, hreach⟩ := hopened t key ho
      refine List.forall_mem_append.mpr ⟨fun closing hclosing u snapshots hc hafter _ => ?_,
        List.forall_mem_singleton.mpr fun u snapshots hc _ _ => hreach u snapshots hc⟩
      exact h.pending key z hz hzpend closing hclosing u snapshots hc (by omega)

theorem Waiting.quiet {policy : ValidPolicy} {s' : DetectionStage} (h : Waiting policy past s)
    {st : Step DetectionStage StageCall StageOutput} (hclosed : st.output.closed = none)
    (hsignals : ∀ r ∈ st.output.reported, r.record.signal = .ended) (hsound : Sound s'.engine)
    (hpolicies : s'.engine.policies = s.engine.policies)
    (hframe : s'.windows.windowStart = s.windows.windowStart ∧
      s'.windows.config = s.windows.config)
    (hentries : ∀ (key : ScopeKey) x, s'.engine.table.entries[key]? = some x →
      s.engine.table.entries[key]? = some x) : Waiting policy (past ++ [st]) s' := by
  obtain ⟨hstart, hconfig⟩ := hframe
  have hnot (u : Nat) (snapshots : List DetectionSnapshot) : ¬ClosedAt st u snapshots := by
    rintro ⟨-, hc⟩
    rw [hclosed] at hc
    cases hc
  apply h.snoc hsound (hpolicies.trans h.policies) (hconfig ▸ h.window) hstart.ge
  · rw [hstart]
    exact fun key x hx => h.ready key x (hentries key x hx)
  · intro key x hx hpend
    exact ⟨fun u snapshots hc => absurd hc (hnot u snapshots),
      Or.inr ⟨x, hentries key x hx, hpend, rfl⟩⟩
  · exact fun u snapshots hc => absurd hc (hnot u snapshots)
  · rintro t key ⟨-, r, hr, -, hstarted, -⟩
    rw [hsignals r hr] at hstarted
    cases hstarted

theorem Waiting.later {policy : ValidPolicy} (h : Waiting policy past s)
    (hdue : s.windows.isDue now = true) : s.windows.windowStart < now := by
  have hpos := policy.property.checked.window_pos
  have hle : s.windows.config.window ≤ now - s.windows.windowStart := by
    simpa [DetectionWindows.isDue] using hdue
  rw [h.window] at hle
  omega

theorem Waiting.tending {policy : ValidPolicy} (h : Waiting policy past s) (wall : Int)
    (hdue : s.windows.isDue now = true) :
    Tending policy now (fun key => s.engine.table.entries[key]?) (s.windows.snapshots now wall)
      (s.engine.evaluate (s.windows.snapshots now wall)) := by
  have hlater := h.later hdue
  apply evaluate_tending h.sound h.policies
  · intro x hx
    obtain ⟨hwindow, hobs, -⟩ := mem_snapshots hx
    exact ⟨hobs, hwindow.trans h.window⟩
  · intro key z hz
    obtain ⟨hmode, hlast⟩ := h.ready key z hz
    refine ⟨hmode, ?_⟩
    unfold ScopeState.refuses
    split
    · rfl
    · rename_i last hl
      have := hlast last hl
      rw [if_neg (by omega), if_neg (by omega)]

theorem Waiting.due {policy : ValidPolicy} (h : Waiting policy past s)
    (hdue : s.windows.isDue now = true)
    (hfed : NoSilentPending (stageMachine.stepAt s (.tick now wall))) :
    Waiting policy (past ++ [stageMachine.stepAt s (.tick now wall)]) (s.tick now wall).2 := by
  obtain ⟨hsnaps, hstart, hconfig⟩ := tick_due wall hdue
  have hlater := h.later hdue
  have htend := h.tending wall hdue
  have hstart' : (s.tick now wall).2.windows.windowStart = now := hstart
  let e := (s.engine.evaluate (s.windows.snapshots now wall)).engine
  have hengine : (s.tick now wall).2.engine = (e.sweep now wall).engine := by
    simp only [DetectionStage.tick, cycle, hsnaps, e]
  have hentry (key : ScopeKey) (x : ScopeState)
      (hx : (s.tick now wall).2.engine.table.entries[key]? = some x) :
      Tended policy now (s.windows.snapshots now wall) key s.engine.table.entries[key]? (some x) := by
    rw [hengine] at hx
    have hkept := sweep_entry hx
    rw [← hkept]
    exact htend.tended key
  generalize hst : stageMachine.stepAt s (.tick now wall) = st at hfed ⊢
  have hclosed : st.output.closed = some (s.windows.snapshots now wall) := by
    rw [← hst]
    simp [stageMachine, DetectionStage.perform, DetectionStage.tick, hdue, hsnaps]
  have hclosedAt (u : Nat) (snapshots : List DetectionSnapshot) (hc : ClosedAt st u snapshots) :
      u = now ∧ snapshots = s.windows.snapshots now wall := by
    obtain ⟨⟨wall', hin⟩, hc⟩ := hc
    rw [hclosed] at hc
    rw [← hst] at hin
    cases hin
    exact ⟨rfl, (Option.some.inj hc).symm⟩
  have hopens (t : Nat) (key : ScopeKey) (ho : OpensAt st t key) :
      t = now ∧ ∃ z, s.engine.table.entries[key]? = some z ∧ z.state = .pendingTrigger ∧
        policy.val.triggerFor ≤ now - z.enteredAt ∧
        ReachesThreshold policy key (s.windows.snapshots now wall) := by
    obtain ⟨⟨wall', hin⟩, r, hr, rfl, hstarted, -⟩ := ho
    rw [← hst] at hin hr
    cases hin
    simp only [stageMachine, Machine.stepAt_output, DetectionStage.perform, DetectionStage.tick,
      hsnaps, List.mem_append] at hr
    rcases hr with hr | hr
    · exact ⟨rfl, htend.earned r hr hstarted⟩
    · rw [sweep_reported _ _ _ r hr] at hstarted
      cases hstarted
  apply h.snoc
  · rw [hengine]
    exact sweep_sound htend.sound now wall
  · rw [hengine, sweep_policies]
    exact htend.policies
  · exact (congrArg WindowConfig.window hconfig).trans h.window
  · rw [hstart']
    exact hlater.le
  · intro key x hx
    rw [hstart']
    rcases (hentry key x hx).last with hold | ⟨hmode, hlast⟩
    · obtain ⟨hmode, hle⟩ := h.ready key x hold
      exact ⟨hmode, fun last hl => (hle last hl).trans hlater.le⟩
    · refine ⟨hmode, fun last hl => ?_⟩
      rw [hlast] at hl
      exact (Option.some.inj hl).ge
  · intro key x hx hpend
    obtain ⟨hreach, hsince⟩ := (hentry key x hx).pending hpend (by
      intro z hz hzpend
      rw [← hst] at hfed hclosed
      exact hfed _ hclosed key z hz hzpend)
    refine ⟨fun u snapshots hc => ?_, hsince.imp_left fun hnow => hlater.trans_eq hnow.symm⟩
    rw [(hclosedAt u snapshots hc).2]
    exact hreach
  · intro u snapshots hc
    obtain ⟨rfl, -⟩ := hclosedAt u snapshots hc
    exact ⟨hlater, hstart'.ge⟩
  · intro t key ho
    obtain ⟨rfl, z, hz, hzpend, hlong, hreach⟩ := hopens t key ho
    refine ⟨hstart'.ge, ⟨z, hz, hzpend, ?_⟩, fun u snapshots hc => ?_⟩
    · have hpos := policy.property.trigger_pos
      omega
    · rw [(hclosedAt u snapshots hc).2]
      exact hreach

theorem perform_waiting {policy : ValidPolicy} (h : Waiting policy past s) (call : StageCall)
    (hfed : NoSilentPending (stageMachine.stepAt s call)) :
    Waiting policy (past ++ [stageMachine.stepAt s call]) (stageMachine.step s call).2 := by
  cases call with
  | ingest hashing lookup flow classification now =>
    exact h.quiet rfl (by simp [stageMachine, DetectionStage.perform]) h.sound rfl
      (ingest_frame s.windows hashing lookup flow classification now) fun _ _ hx => hx
  | tick now wall =>
    cases hdue : s.windows.isDue now with
    | true => exact h.due hdue hfed
    | false =>
      have htick := tick_not_due wall hdue
      have hstage : (s.tick now wall).2.engine = (s.engine.sweep now wall).engine := by
        simp only [DetectionStage.tick, cycle, htick]
        rfl
      apply h.quiet
      · simp [stageMachine, DetectionStage.perform, DetectionStage.tick, hdue]
      · intro r hr
        simp only [stageMachine, Machine.stepAt_output, DetectionStage.perform,
          DetectionStage.tick, htick] at hr
        exact sweep_reported s.engine now wall r hr
      · exact hstage ▸ sweep_sound h.sound now wall
      · exact (congrArg ThresholdDetectionEngine.policies hstage).trans (sweep_policies _ _ _)
      · simp [stageMachine, DetectionStage.perform, DetectionStage.tick, htick]
      · intro key x hx
        exact sweep_entry ((congrArg (·.table.entries[key]?) hstage).symm.trans hx)

def stageStart (policy : ValidPolicy) (config : WindowConfig) (table : StateTableConfig)
    (factory : EventFactory) (sinkAccepts : DetectionEvent → Bool) (now : Nat) : DetectionStage :=
  .new config ((ThresholdDetectionEngine.new table factory sinkAccepts).withPolicies
    (PolicySet.empty.add policy)) now

/-- In a run in which no scope that waits for its trigger is silent in a closed window, a
detection opens only after windows that were all at or above a threshold. -/
theorem detections_sustained (policy : ValidPolicy) (config : WindowConfig)
    (hwindow : config.window = policy.val.window) (table : StateTableConfig)
    (factory : EventFactory) (sinkAccepts : DetectionEvent → Bool) (now : Nat)
    (calls : List StageCall)
    (hfed : ∀ st ∈ stageMachine.trace (stageStart policy config table factory sinkAccepts now)
      calls, NoSilentPending st) :
    Sustained policy (stageMachine.trace
      (stageStart policy config table factory sinkAccepts now) calls) := by
  have h := stageMachine.history (P := Waiting policy)
    (Waiting.start policy config hwindow table factory sinkAccepts now)
    (fun _ _ call hpast hcall => perform_waiting hpast call hcall) calls hfed
  exact h.sustained

/-- The condition on one call, read off its table and its snapshots. -/
def fed (st : Step DetectionStage StageCall StageOutput) : Bool :=
  match st.output.closed with
  | none => true
  | some snapshots => st.before.engine.table.entries.toList.all fun (key, x) =>
      x.state != .pendingTrigger || snapshots.any fun s => s.key = key

theorem fed_iff (st : Step DetectionStage StageCall StageOutput) :
    fed st = true ↔ NoSilentPending st := by
  unfold fed NoSilentPending
  cases st.output.closed with
  | none => simp
  | some snapshots =>
    simp only [List.all_eq_true, Bool.or_eq_true, bne_iff_ne, List.any_eq_true, decide_eq_true_eq,
      Option.some.injEq, forall_eq']
    constructor
    · intro h key x hx hpend
      exact (h (key, x) ((mem_toList _ _ _).mpr hx)).resolve_left fun hne => hne hpend
    · rintro h ⟨key, x⟩ hmem
      by_cases hpend : x.state = .pendingTrigger
      · exact Or.inr (h key x ((mem_toList _ _ _).mp hmem) hpend)
      · exact Or.inl hpend

instance (st : Step DetectionStage StageCall StageOutput) : Decidable (NoSilentPending st) :=
  decidable_of_iff _ (fed_iff st)

set_option maxRecDepth 4000 in
/-- A policy that wants its threshold crossed for two windows. -/
def twoWindowPolicy : ValidPolicy :=
  ⟨samplePolicy .alertOnly 2, sampleDraft .alertOnly 2, ∅, rfl⟩

def sampleFlow : NormalizedFlow where
  sourceAddr := .v4 0xC6336401#32
  destinationAddr := .v4 0xCB007107#32
  protocol := some .udp
  tcpFlags := none
  bytes := 1500
  packets := 1
  samplingRate := ⟨1, by decide⟩
  samplingSource := .unsampled
  exporter := .v4 0xC0000201#32
  fragmented := false
  dropped := false
  forwardingStatusKnown := false

def sampleClassification : ClassificationResult where
  direction := .incoming
  sourceMatchedTenant := none
  destinationMatchedTenant := some "acme"
  sourceMatchedHostgroup := none
  destinationMatchedHostgroup := none

/-- Traffic for the sample host, or none, and then the tick that closes the window. -/
def windowCalls (traffic : Bool) (now : Nat) : List StageCall :=
  (if traffic then [.ingest { hash := fun _ => 0, visit := fun _ _ => 0 } (fun _ => none) sampleFlow
    sampleClassification now] else []) ++ [.tick now now]

def twoWindowStart : DetectionStage :=
  stageStart twoWindowPolicy { window := 1 } {} sampleFactory (fun _ => true) 0

def steadyCalls : List StageCall := windowCalls true 1 ++ windowCalls true 2 ++ windowCalls true 3

/-- Three windows of traffic meet the condition, and the third one opens the detection. -/
theorem detections_sustained_steady :
    (∃ st ∈ stageMachine.trace twoWindowStart steadyCalls, ∃ r ∈ st.output.reported,
      r.record.signal = .started) ∧
    Sustained twoWindowPolicy (stageMachine.trace twoWindowStart steadyCalls) :=
  ⟨by decide +kernel, detections_sustained twoWindowPolicy { window := 1 } rfl {} sampleFactory
    (fun _ => true) 0 steadyCalls (by decide +kernel)⟩

def gapCalls : List StageCall := windowCalls true 1 ++ windowCalls false 2 ++ windowCalls true 3

/-- A crossing interrupted by a silent window opens a detection: the trigger waited through it. -/
theorem silent_window_opens : ∃ (policy : ValidPolicy) (config : WindowConfig)
    (table : StateTableConfig) (factory : EventFactory) (sinkAccepts : DetectionEvent → Bool)
    (now : Nat) (calls : List StageCall), config.window = policy.val.window ∧
    (now :: calls.map StageCall.now).Pairwise (· ≤ ·) ∧
    ¬Sustained policy (stageMachine.trace (stageStart policy config table factory sinkAccepts now)
      calls) := by
  refine ⟨twoWindowPolicy, { window := 1 }, {}, sampleFactory, fun _ => true, 0, gapCalls, rfl,
    by decide, fun h => ?_⟩
  have hsilent := h _ (by exact List.mem_of_getElem? (i := 4) rfl) 3 sampleKey
    ⟨⟨3, rfl⟩, by decide +kernel⟩ _ (List.mem_of_getElem? (i := 2) rfl) 2 []
    ⟨⟨2, rfl⟩, by decide +kernel⟩ (by decide) (by decide)
  obtain ⟨s, hs, -⟩ := hsilent
  cases hs

end Tidegard.Collector.Proofs.Sustained
