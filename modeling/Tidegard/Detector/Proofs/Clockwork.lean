import Tidegard.Detector.Proofs.Lifecycle
import Tidegard.Detector.Proofs.Independence

namespace Tidegard.Detector.Proofs.Clockwork

open Runs Tables Input Policy Evaluate State Detector.Lifecycle Advance Proofs.Lifecycle Progress
  ScopeState
open Independence

variable {policy : ValidPolicy} {key : ScopeKey}

/-- The part of an entry its timers run on. -/
structure Timers where
  state : DetectionState
  enteredAt : Nat
  activeSince : Option Nat
  lastEventAt : Option Nat

/-- What a signal says about time: why it was sent, and when its detection started. -/
structure Notice where
  signal : Signal
  reason : TransitionReason
  startedAt : Nat
  deriving DecidableEq

def timers (e : ScopeState) : Timers := ⟨e.state, e.enteredAt, e.activeSince, e.lastEventAt⟩

def notice (r : SignalRecord) : Notice := ⟨r.signal, r.transition.reason, r.detection.startedAt⟩

/-- An update falls due one interval after the latest event. -/
def Timers.pace (policy : DetectionPolicy) (now : Nat) (over' : Bool) (t : Timers) :
    Option Notice × Timers :=
  if over' && t.lastEventAt.all fun last => decide (policy.eventUpdateInterval ≤ now - last) then
    (t.activeSince.map fun s => ⟨.updated, .stillActive, s⟩, { t with lastEventAt := some now })
  else (none, t)

/-- The timers of a scope over one applied snapshot, of which only whether it is over threshold
and whether it is clear matter. -/
def Timers.advance (policy : DetectionPolicy) (now : Nat) (over' clear : Bool) (t : Timers) :
    Option Notice × Timers :=
  match t.state with
  | .idle =>
    (none, if over' then { t with state := .pendingTrigger, enteredAt := now } else t)
  | .pendingTrigger =>
    if over' then
      if policy.triggerFor ≤ now - t.enteredAt then
        (some ⟨.started, .triggerSustained, now⟩, ⟨.active, now, some now, some now⟩)
      else (none, t)
    else (none, { t with state := .idle, enteredAt := now })
  | .active =>
    if clear && t.activeSince.all fun s => decide (policy.holdDown ≤ now - s) then
      Timers.pace policy now over' { t with state := .pendingClear, enteredAt := now }
    else t.pace policy now over'
  | .pendingClear =>
    if clear then
      if policy.clearFor ≤ now - t.enteredAt then
        (t.activeSince.map fun s => ⟨.ended, .clearSustained, s⟩,
          ⟨if policy.cooldown = 0 then .idle else .cooldown, now, none, some now⟩)
      else t.pace policy now over'
    else Timers.pace policy now over' { t with state := .active, enteredAt := now }
  | .cooldown =>
    if policy.cooldown ≤ now - t.enteredAt then
      (none, { t with state := if over' then .pendingTrigger else .idle, enteredAt := now })
    else (none, t)

theorem Timers.pace_cases (policy : DetectionPolicy) (now : Nat) (isOver : Bool) (t : Timers) :
    t.pace policy now isOver = (none, t) ∨
    (∀ last, t.lastEventAt = some last → policy.eventUpdateInterval ≤ now - last) ∧
      t.pace policy now isOver = (t.activeSince.map fun s => ⟨.updated, .stillActive, s⟩,
        { t with lastEventAt := some now }) := by
  unfold Timers.pace
  split
  · rename_i h
    refine Or.inr ⟨fun last hlast => ?_, rfl⟩
    simp only [hlast, Option.all_some, Bool.and_eq_true, decide_eq_true_eq] at h
    exact h.2
  · exact Or.inl rfl

section

variable {policy : DetectionPolicy} {x : ScopeState} {p : Progress}

theorem resetSelection_same (hsame : selectionDiffers p.entry policy = false) (now : Nat)
    (wall : Int) : p.resetSelection policy now wall = p := by
  simp [resetSelection, hsame]

theorem move_plain (p : Progress) (toState : DetectionState)
    (hcan : p.entry.state.canTransitionTo toState = true) (reason : TransitionReason) (now : Nat)
    (wall : Int) (matched : List MatchedReason) :
    (p.move toState reason now wall matched fun _ q => q).entry = p.entry.enter toState now wall ∧
      (p.move toState reason now wall matched fun _ q => q).outcome.signal = p.outcome.signal := by
  simp only [Progress.move, ScopeState.transition, hcan, if_true, and_self]

theorem paceUpdate_timers (policy : DetectionPolicy) (ho : Open s n p.entry)
    (hnone : p.outcome.signal = none) (now : Nat) (wall : Int) (evaluation : Evaluation) :
    ((p.paceUpdate policy now wall evaluation).outcome.signal.map notice,
        timers (p.paceUpdate policy now wall evaluation).entry) =
      (timers p.entry).pace policy now evaluation.isOverThreshold := by
  obtain ⟨w, hw⟩ := Option.isSome_iff_exists.mp ho.wall
  have hdue : p.entry.updateDue policy now =
      p.entry.lastEventAt.all fun last => decide (policy.eventUpdateInterval ≤ now - last) := by
    unfold updateDue
    cases p.entry.lastEventAt <;> rfl
  simp only [paceUpdate, ho.state, hnone, Option.isNone_none, Bool.and_true,
    Bool.true_and, Timers.pace, hdue, timers]
  cases hover : evaluation.isOverThreshold
  · simp [hnone]
  · simp only [if_true, Bool.true_and]
    split
    · simp [Progress.signal, context, opened, ho.since, hw, notice]
    · simp [hnone]

theorem judge_closed_timers (hc : Closed p.entry) (hcool : p.entry.state ≠ .cooldown)
    (hnone : p.outcome.signal = none) (ht : policy.triggerFor ≠ 0) (now : Nat) (wall : Int)
    (evaluation : Evaluation) :
    ((p.judge policy now wall evaluation).outcome.signal.map notice,
        timers (p.judge policy now wall evaluation).entry) =
      (timers p.entry).advance policy now evaluation.isOverThreshold evaluation.allBelowClear := by
  have hmove (toState : DetectionState) (hcan : p.entry.state.canTransitionTo toState = true)
      (reason : TransitionReason) (matched : List MatchedReason) :=
    move_plain p toState hcan reason now wall matched
  cases hs : p.entry.state with
  | idle =>
    simp only [judge, hs, if_neg ht, Timers.advance, timers]
    cases evaluation.isOverThreshold with
    | false => simp [hnone, hs]
    | true =>
      obtain ⟨hentry, hsignal⟩ := hmove .pendingTrigger (by rw [hs]; rfl)
        .thresholdCrossed evaluation.matched
      simp only [if_true, hentry, hsignal, hnone, Option.map_none, enter]
  | pendingTrigger =>
    simp only [judge, hs, Timers.advance, timers, timeInState]
    cases evaluation.isOverThreshold with
    | false =>
      obtain ⟨hentry, hsignal⟩ := hmove .idle (by rw [hs]; rfl) .triggerAborted []
      simp only [Bool.false_eq_true, if_false, hentry, hsignal, hnone, Option.map_none,
        enter, hc.since]
    | true =>
      by_cases hlong : policy.triggerFor ≤ now - p.entry.enteredAt
      · simp [hlong, Progress.move, ScopeState.transition, hs, DetectionState.canTransitionTo,
          start, enter, hc.since, Progress.signal, context, opened, recordPeaks, notice]
      · simp [hlong, hnone, hs]
  | cooldown => exact absurd hs hcool
  | active | pendingClear =>
    have h := hc.state
    rw [hs] at h
    cases h

theorem judge_open_timers (ho : Open s n p.entry) (hnone : p.outcome.signal = none)
    (hclear : policy.clearFor ≠ 0) (now : Nat) (wall : Int) (evaluation : Evaluation) :
    let q := (p.judge policy now wall evaluation).paceUpdate policy now wall evaluation
    (q.outcome.signal.map notice, timers q.entry) =
      (timers p.entry).advance policy now evaluation.isOverThreshold evaluation.allBelowClear := by
  obtain ⟨w, hw⟩ := Option.isSome_iff_exists.mp ho.wall
  have hheld : p.entry.held policy now =
      p.entry.activeSince.all fun s => decide (policy.holdDown ≤ now - s) := by
    unfold ScopeState.held detectionAge
    cases p.entry.activeSince <;> rfl
  -- whatever keeps the detection open is paced afterwards
  have hpaced (q : Progress) (hq : Open s n q.entry) (hsig : q.outcome.signal = none) :=
    paceUpdate_timers policy hq hsig now wall evaluation
  cases hs : p.entry.state with
  | active =>
    simp only [judge, hs, hheld, if_neg hclear, Timers.advance, timers]
    cases evaluation.allBelowClear with
    | false => simpa [timers, hs] using hpaced p ho hnone
    | true =>
      cases hall : p.entry.activeSince.all fun s => decide (policy.holdDown ≤ now - s) with
      | false =>
        have h := hpaced { p with outcome := { p.outcome with suppressed := some .holdDown } } ho
          hnone
        simpa [timers, hs] using h
      | true =>
        obtain ⟨hentry, hsignal⟩ := move_plain p .pendingClear
          (by rw [hs]; rfl) .fellBelowClear now wall []
        have h := hpaced (p.move .pendingClear .fellBelowClear now wall [] fun _ q => q)
          (by rw [hentry]; exact enter_open ho _ now wall (Or.inr rfl)) (hsignal.trans hnone)
        simp only [Bool.not_true, Bool.false_eq_true, if_true, if_false, Bool.and_self]
        refine h.trans ?_
        rw [hentry]
        rfl
  | pendingClear =>
    simp only [judge, hs, Timers.advance, timers]
    cases evaluation.allBelowClear with
    | false =>
      obtain ⟨hentry, hsignal⟩ := move_plain p .active
        (by rw [hs]; rfl) .clearAborted now wall evaluation.matched
      have h := hpaced (p.move .active .clearAborted now wall evaluation.matched fun _ q => q)
        (by rw [hentry]; exact enter_open ho _ now wall (Or.inl rfl)) (hsignal.trans hnone)
      simp only [Bool.false_eq_true, if_false]
      refine h.trans ?_
      rw [hentry]
      simp [timers, enter, ho.since]
    | true =>
      by_cases hlong : policy.clearFor ≤ now - p.entry.enteredAt
      · obtain ⟨hclosed, -⟩ := close_open ho policy now wall
        have hlong' : policy.clearFor ≤ p.entry.timeInState now := hlong
        simp only [if_true, if_pos hlong, if_pos hlong']
        rw [paceUpdate_closed hclosed]
        by_cases hzero : policy.cooldown = 0 <;>
          simp [hzero, Progress.close, Progress.move, ScopeState.transition, hs,
            DetectionState.canTransitionTo, enter, Progress.signal, context,
            opened, ho.since, hw, notice]
      · have hlong' : ¬policy.clearFor ≤ p.entry.timeInState now := hlong
        simp only [if_true, if_neg hlong, if_neg hlong']
        simpa [timers, hs] using hpaced p ho hnone
  | idle | pendingTrigger | cooldown =>
    have h := ho.state
    rw [hs] at h
    cases h

theorem advance_timers (hx : Shape (some x)) (hsame : selectionDiffers x policy = false)
    (ht : policy.triggerFor ≠ 0) (hclear : policy.clearFor ≠ 0) (now : Nat) (wall : Int)
    (evaluation : Evaluation) :
    let q := x.advance policy now wall evaluation
    (q.outcome.signal.map notice, timers q.entry) =
      (timers x).advance policy now evaluation.isOverThreshold evaluation.allBelowClear := by
  have hreset : resetSelection { entry := x } policy now wall = { entry := x } :=
    resetSelection_same hsame now wall
  let p₁ := recordSnapshot { entry := x } now wall evaluation
  rcases hx.cases with hc | ⟨s, n, ho⟩
  · have hc₁ : Closed p₁.entry := ⟨hc.state, hc.since⟩
    obtain ⟨hc₂, hsig₂, -⟩ := expireCooldown_closed hc₁ policy now wall
    have hreset' : Closed (resetSelection { entry := x } policy now wall).entry := by
      rw [hreset]
      exact hc
    rw [advance_uncounted hreset' (Nat.pos_of_ne_zero ht), hreset]
    dsimp only
    by_cases hcool : x.state = .cooldown
    · by_cases hlong : policy.cooldown ≤ now - x.enteredAt
      · obtain ⟨hentry, hsignal⟩ := move_plain p₁ .idle
          (by change x.state.canTransitionTo .idle = true; rw [hcool]; rfl)
          .cooldownExpired now wall []
        have hexpire : p₁.expireCooldown policy now wall =
            p₁.move .idle .cooldownExpired now wall [] fun _ q => q := if_pos ⟨hcool, hlong⟩
        have h := judge_closed_timers hc₂ (by rw [hexpire, hentry]; simp [enter]) hsig₂ ht
          now wall evaluation
        refine h.trans ?_
        rw [hexpire, hentry]
        simp only [timers, enter, Timers.advance, hcool, if_pos hlong, p₁,
          recordSnapshot, hc.since]
        cases evaluation.isOverThreshold <;> rfl
      · have hexpire : p₁.expireCooldown policy now wall = p₁ := if_neg fun h => hlong h.2
        have hstate : p₁.entry.state = .cooldown := hcool
        rw [hexpire]
        simp only [judge, hstate, Timers.advance, timers, hcool, if_neg hlong]
        split <;> simp [p₁, recordSnapshot, hcool]
    · have hexpire : p₁.expireCooldown policy now wall = p₁ := if_neg fun h => hcool h.1
      rw [hexpire]
      exact judge_closed_timers hc₁ hcool rfl ht now wall evaluation
  · have ho₁ : Open s n p₁.entry := ⟨ho.state, ho.since, ho.wall, ho.events⟩
    obtain ⟨ho₂, hout⟩ := countSnapshot_open ho₁ evaluation
    have h := judge_open_timers ho₂ (by rw [hout]; rfl) hclear now wall evaluation
    have hcounted : timers (p₁.countSnapshot evaluation).entry = timers x := by
      unfold countSnapshot
      split <;> rfl
    rw [advance_counted ho.state hreset]
    rw [hcounted] at h
    exact h

end

theorem advance_filed (x : ScopeState) (policy : DetectionPolicy) (now : Nat) (wall : Int)
    (evaluation : Evaluation) :
    selectionDiffers (x.advance policy now wall evaluation).entry policy = false := by
  have hfiling := advance_filing x policy now wall evaluation
  simp only [filing, Prod.mk.injEq] at hfiling
  simp [selectionDiffers, hfiling]

theorem signal_ignored {p : Progress} :
    (p.signal kind t started).outcome.ignored = p.outcome.ignored := by
  unfold Progress.signal
  split <;> rfl

theorem move_ignored {p : Progress} {body : StateTransition → Progress → Progress}
    (hbody : ∀ t q, (body t q).outcome.ignored = q.outcome.ignored) :
    (p.move toState reason now wall matched body).outcome.ignored = p.outcome.ignored := by
  unfold Progress.move
  split
  · rfl
  · exact hbody _ _

theorem judge_ignored (p : Progress) (policy : DetectionPolicy) (now : Nat) (wall : Int)
    (evaluation : Evaluation) :
    (p.judge policy now wall evaluation).outcome.ignored = p.outcome.ignored := by
  have hmove (toState : DetectionState) (reason : TransitionReason)
      (matched : List MatchedReason) :
      (p.move toState reason now wall matched fun _ q => q).outcome.ignored =
        p.outcome.ignored := move_ignored fun _ _ => rfl
  have hstart (reason : TransitionReason) :
      (p.move .active reason now wall evaluation.matched
        (start evaluation now)).outcome.ignored = p.outcome.ignored :=
    move_ignored fun _ _ => signal_ignored
  have hclose : (p.close policy now wall).outcome.ignored = p.outcome.ignored :=
    move_ignored fun _ _ => signal_ignored
  unfold judge
  dsimp only
  repeat' split
  all_goals first
    | rfl
    | exact hstart _
    | exact hclose
    | exact hmove _ _ _

theorem advance_ignored (e : ScopeState) :
    (e.advance policy now wall evaluation).outcome.ignored = none := by
  have hreset : (resetSelection { entry := e } policy now wall).outcome.ignored = none := by
    unfold resetSelection
    split
    · refine move_ignored fun t q => ?_
      split
      · exact signal_ignored
      · rfl
    · rfl
  have hcool (p : Progress) :
      (p.expireCooldown policy now wall).outcome.ignored = p.outcome.ignored := by
    unfold expireCooldown
    split
    · exact move_ignored fun _ _ => rfl
    · rfl
  have hcount (p : Progress) :
      (p.countSnapshot evaluation).outcome.ignored = p.outcome.ignored := by
    unfold countSnapshot
    split <;> rfl
  have hpace (p : Progress) :
      (p.paceUpdate policy now wall evaluation).outcome.ignored = p.outcome.ignored := by
    unfold paceUpdate
    split
    · split
      · exact signal_ignored
      · rfl
    · rfl
  unfold advance
  dsimp only
  rw [hpace, judge_ignored, hcount, hcool]
  exact hreset

abbrev TableStep := Step StateTable Op (List (ScopeKey × Emission))

/-- The snapshot a step applied to a scope, if it did. -/
def applied (key : ScopeKey) (st : TableStep) : Option DetectionSnapshot :=
  match st.input with
  | .step policy snapshot =>
    if snapshot.key = key ∧
        (st.before.step policy snapshot (evaluate policy snapshot)).1.ignored = none then
      some snapshot
    else none
  | _ => none

/-- The signal a snapshot of a scope raised, with the snapshot's instant. -/
def reported (key : ScopeKey) (st : TableStep) : Option (Nat × SignalRecord) :=
  match st.input with
  | .step policy snapshot =>
    if snapshot.key = key then
      (st.before.step policy snapshot (evaluate policy snapshot)).1.signal.map
        (snapshot.observedAt, ·)
    else none
  | _ => none

/-- The operation judges the scope by no other policy and does not reset it by hand. -/
def Op.Under (policy : ValidPolicy) (key : ScopeKey) : Op → Prop
  | .step p snapshot => snapshot.key = key → p = policy
  | .manualReset k _ _ => k ≠ key
  | .sweep _ _ | .withdrawStaleSelection _ _ _ => True

/-- Why an operation dropped an entry. -/
def Dropped (key : ScopeKey) (x : ScopeState) (st : TableStep) : Prop :=
  (∃ now wall, st.input = .sweep now wall ∧ x.expired st.before.config now = true) ∨
  ∃ now wall winner, st.input = .withdrawStaleSelection now wall winner ∧
    (x.staleSelection (winner key)).isSome = true

/-- All a step can do to one scope. -/
inductive ScopeStep (policy : ValidPolicy) (key : ScopeKey) (st : TableStep) : Prop
  | kept (same : st.after.entries[key]? = st.before.entries[key]?)
      (unapplied : applied key st = none) (silent : reported key st = none)
  | dropped (x : ScopeState) (held : st.before.entries[key]? = some x)
      (gone : st.after.entries[key]? = none) (unapplied : applied key st = none)
      (silent : reported key st = none) (why : Dropped key x st)
  | advanced (snapshot : DetectionSnapshot) (x : ScopeState)
      (input : st.input = .step policy snapshot) (own : snapshot.key = key)
      (entry : st.before.entries[key]? = some x ∧ x.refuses snapshot.observedAt = none ∨
        st.before.entries[key]? = none ∧
          x = ScopeState.new key policy.1 snapshot.observedAt)
      (after : st.after.entries[key]? = some (x.advance policy.1 snapshot.observedAt
        snapshot.observedWall (evaluate policy.1 snapshot)).entry)
      (taken : applied key st = some snapshot)
      (told : reported key st = (x.advance policy.1 snapshot.observedAt snapshot.observedWall
        (evaluate policy.1 snapshot)).outcome.signal.map (snapshot.observedAt, ·))

theorem scope_filtered {keep : ScopeKey → ScopeState → Bool}
    (hafter : st.after.entries = st.before.entries.filter keep) (unapplied : applied key st = none)
    (silent : reported key st = none)
    (why : ∀ x, st.before.entries[key]? = some x → keep key x = false → Dropped key x st) :
    ScopeStep policy key st := by
  have hget : st.after.entries[key]? = st.before.entries[key]?.filter (keep key) := by
    rw [hafter, get_filter]
  cases hheld : st.before.entries[key]? with
  | none => exact .kept (by rw [hget, hheld]; rfl) unapplied silent
  | some x =>
    cases hkeep : keep key x with
    | true => exact .kept (by rw [hget, hheld, Option.filter_some, if_pos hkeep]) unapplied silent
    | false =>
      refine .dropped x hheld ?_ unapplied silent (why x hheld hkeep)
      rw [hget, hheld, Option.filter_some, if_neg (by simp [hkeep])]

theorem step_scope (t : StateTable) {snapshot : DetectionSnapshot}
    (under : Op.Under policy key (.step p snapshot)) :
    ScopeStep policy key (tableMachine.stepAt t (.step p snapshot)) := by
  by_cases hkey : snapshot.key = key
  · obtain rfl := under hkey
    subst hkey
    cases step_answered t ⟨p.1, snapshot, evaluate p.1 snapshot⟩ with
    | refused hignored hsignal hsame =>
      refine .kept (congrArg (·[snapshot.key]?) hsame) ?_ ?_
      · refine if_neg fun h => ?_
        have hnone : (stepMachine.step t ⟨p.1, snapshot, evaluate p.1 snapshot⟩).1.ignored = none :=
          h.2
        rw [hnone] at hignored
        cases hignored
      · exact (if_pos rfl).trans (congrArg (Option.map _) hsignal)
    | advanced x hentry hout hafter =>
      refine .advanced snapshot x rfl rfl hentry hafter ?_ ?_
      · refine if_pos ⟨rfl, ?_⟩
        exact (congrArg StepOutcome.ignored hout).trans (advance_ignored x)
      · exact (if_pos rfl).trans
          (congrArg (fun o : StepOutcome => o.signal.map (snapshot.observedAt, ·)) hout)
  · exact .kept (step_other t ⟨p.1, snapshot, evaluate p.1 snapshot⟩ hkey)
      (if_neg fun h => hkey h.1) (if_neg hkey)

theorem scope_step (t : StateTable) (under : Op.Under policy key op) :
    ScopeStep policy key (tableMachine.stepAt t op) := by
  cases op with
  | step => exact step_scope t under
  | manualReset k now wall =>
    exact .kept (manualReset_other t under now wall) rfl rfl
  | sweep now wall =>
    refine scope_filtered rfl rfl rfl fun x _ hkeep => ?_
    exact Or.inl ⟨now, wall, rfl, by simpa using hkeep⟩
  | withdrawStaleSelection now wall winner =>
    refine scope_filtered rfl rfl rfl fun x _ hkeep => ?_
    exact Or.inr ⟨now, wall, winner, rfl, by simpa using hkeep⟩

end Tidegard.Detector.Proofs.Clockwork
