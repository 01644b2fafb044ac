import Tidegard.Detector.State

namespace Tidegard.Detector.Proofs.Advance

open Common Input Policy Evaluate State Progress ScopeState DetectionState

variable {s n : Nat} {p : Progress} {policy : DetectionPolicy}
variable {now : Nat} {wall : Int}

structure Closed (e : ScopeState) : Prop where
  state : e.state.isOpen = false
  since : e.activeSince = none

/-- A detection that started at `s` is open and has reported `n` events. -/
structure Open (s n : Nat) (e : ScopeState) : Prop where
  state : e.state.isOpen = true
  since : e.activeSince = some s
  wall : e.activeSinceWall.isSome = true
  events : e.eventsInDetection = min n u64Max

theorem Closed.not_open (hc : Closed e) (ho : Open s n e) : False := by
  have h := hc.state
  rw [ho.state] at h
  cases h

theorem Open.opened (h : Open s n e) : ∃ wall, e.opened = some (s, wall) := by
  obtain ⟨wall, hw⟩ := Option.isSome_iff_exists.mp h.wall
  exact ⟨wall, by simp [ScopeState.opened, h.since, hw]⟩

theorem saturatingAdd_min (n : Nat) : saturatingAdd (min n u64Max) 1 = min (n + 1) u64Max := by
  unfold saturatingAdd
  omega

theorem context_some (e : ScopeState) (s : Nat) (wall : Int) (started : Option (Nat × Int))
    (h : (started <|> e.opened) = some (s, wall)) :
    ∃ c, e.context started =
        some (c, { e with eventsInDetection := saturatingAdd e.eventsInDetection 1 }) ∧
      c.startedAt = s ∧ c.sequence = e.eventsInDetection := by
  unfold context
  rw [h]
  exact ⟨_, rfl, rfl, rfl⟩

theorem enter_closed {e : ScopeState} {to' : DetectionState} (h : to' = .idle ∨ to' = .cooldown) :
    Closed (e.enter to' now wall) := by
  rcases h with rfl | rfl <;> exact ⟨rfl, rfl⟩

theorem enter_open (ho : Open s n e) (to' : DetectionState) (now : Nat) (wall : Int)
    (h : to' = .active ∨ to' = .pendingClear) : Open s n (e.enter to' now wall) := by
  rcases h with rfl | rfl
  · simp only [enter, ho.since, Option.isNone_some, Bool.false_eq_true, if_false]
    exact ⟨rfl, rfl, ho.wall, ho.events⟩
  · exact ⟨rfl, ho.since, ho.wall, ho.events⟩

theorem isOpen_canTransitionTo {st : DetectionState} (ho : st.isOpen = true)
    (h : to' = .idle ∨ to' = .cooldown) : st.canTransitionTo to' = true := by
  rcases h with rfl | rfl <;> cases st <;> simp_all [isOpen,
    canTransitionTo]

/-- The one signal a progress carries so far, as the caller will see it. -/
def Ends (s n : Nat) (key : ScopeKey) (r : Option SignalRecord) : Prop :=
  ∃ record, r = some record ∧ record.signal = .ended ∧ record.detection.startedAt = s ∧
    record.detection.sequence = min n u64Max ∧ record.transition.key = key

theorem move_idle_closed (hc : Closed p.entry) (reason : TransitionReason) (now : Nat) (wall : Int)
    (body : StateTransition → Progress → Progress) (hb : ∀ t q, body t q = q) :
    Closed (p.move .idle reason now wall [] body).entry ∧
      (p.move .idle reason now wall [] body).entry.state = .idle ∧
      (p.move .idle reason now wall [] body).outcome.signal = p.outcome.signal := by
  unfold Progress.move transition
  by_cases hi : p.entry.state = .idle
  · rw [hi]
    exact ⟨hc, hi, rfl⟩
  · have hcan : p.entry.state.canTransitionTo .idle = true := by
      cases hs : p.entry.state <;> simp_all [canTransitionTo]
    simp only [hcan, if_true, hb]
    exact ⟨enter_closed (Or.inl rfl), rfl, trivial⟩

/-- Leaving an open state for `idle` or `cooldown` with the closing body of `close`, of a policy
swap or of neither reports the end of that detection. -/
theorem move_closing (ho : Open s n p.entry) (to' : DetectionState)
    (hto : to' = .idle ∨ to' = .cooldown) (reason : TransitionReason) (now : Nat) (wall : Int)
    (mark : ScopeState → Option Nat) :
    let q := p.move to' reason now wall [] fun t q =>
      Progress.signal { q with entry := { q.entry with lastEventAt := mark q.entry } } .ended t
        p.entry.opened
    Closed q.entry ∧ q.entry.state = to' ∧ Ends s n p.entry.key q.outcome.signal := by
  obtain ⟨w, hw⟩ := ho.opened
  have hcan := isOpen_canTransitionTo ho.state hto
  have hev : (p.entry.enter to' now wall).eventsInDetection = min n u64Max := by
    rw [← ho.events]
    rcases hto with rfl | rfl <;> rfl
  obtain ⟨c, hctx, hs, hq⟩ := context_some { p.entry.enter to' now wall with
    lastEventAt := mark (p.entry.enter to' now wall) } s w p.entry.opened (by simp [hw])
  simp only [Progress.move, transition, hcan, if_true, Progress.signal, hctx]
  refine ⟨?_, ?_, ⟨_, rfl, rfl, hs, hq.trans hev, rfl⟩⟩
  · rcases hto with rfl | rfl <;> exact ⟨rfl, rfl⟩
  · rcases hto with rfl | rfl <;> rfl

/-- From `p` to `q` no detection opens, nothing is said, and a trigger that is pending was. -/
structure Waits (p q : Progress) : Prop where
  closed : Closed q.entry
  silent : q.outcome.signal = p.outcome.signal
  pending : q.entry.state = .pendingTrigger →
    p.entry.state = .pendingTrigger ∧ q.entry.enteredAt = p.entry.enteredAt

theorem Waits.idle (hc : Closed q.entry) (hidle : q.entry.state = .idle)
    (silent : q.outcome.signal = p.outcome.signal) : Waits p q := by
  refine ⟨hc, silent, fun hpending => ?_⟩
  rw [hidle] at hpending
  cases hpending

theorem resetSelection_closed (hc : Closed p.entry) (policy : DetectionPolicy) (now : Nat)
    (wall : Int) : Waits p (p.resetSelection policy now wall) := by
  unfold resetSelection
  split
  · obtain ⟨hq, hidle, hsig⟩ := move_idle_closed hc .policyChanged now wall
      (fun t q => if p.entry.state.isOpen then q.signal .ended t p.entry.opened else q)
      (by simp [hc.state])
    exact .idle ⟨hq.state, hq.since⟩ hidle hsig
  · exact ⟨hc, rfl, fun h => ⟨h, rfl⟩⟩

theorem resetSelection_open (ho : Open s n p.entry) (policy : DetectionPolicy) (now : Nat)
    (wall : Int) :
    (selectionDiffers p.entry policy = false ∧ p.resetSelection policy now wall = p) ∨
    (Closed (p.resetSelection policy now wall).entry ∧
      (p.resetSelection policy now wall).entry.state = .idle ∧
      Ends s n p.entry.key (p.resetSelection policy now wall).outcome.signal) := by
  unfold resetSelection
  split
  · right
    have hbody : (fun t (q : Progress) =>
        if p.entry.state.isOpen then q.signal .ended t p.entry.opened else q) =
        fun t q => q.signal .ended t p.entry.opened := by simp [ho.state]
    obtain ⟨hq, hidle, hends⟩ := move_closing ho .idle (Or.inl rfl) .policyChanged now wall
      (fun e => e.lastEventAt)
    dsimp only
    rw [hbody]
    exact ⟨⟨hq.state, hq.since⟩, hidle, hends⟩
  · exact Or.inl ⟨by simp_all, rfl⟩

theorem expireCooldown_closed (hc : Closed p.entry) (policy : DetectionPolicy) (now : Nat)
    (wall : Int) : Waits p (p.expireCooldown policy now wall) := by
  unfold expireCooldown
  split
  · obtain ⟨hq, hidle, hsig⟩ := move_idle_closed hc .cooldownExpired now wall (fun _ q => q)
      (fun _ _ => rfl)
    exact .idle hq hidle hsig
  · exact ⟨hc, rfl, fun h => ⟨h, rfl⟩⟩

theorem expireCooldown_of_ne (h : p.entry.state ≠ .cooldown) (policy : DetectionPolicy)
    (now : Nat) (wall : Int) : p.expireCooldown policy now wall = p := by
  unfold expireCooldown
  rw [if_neg fun hcool => h hcool.1]

theorem countSnapshot_closed (hc : Closed p.entry) (evaluation : Evaluation) :
    p.countSnapshot evaluation = p := by
  unfold countSnapshot
  rw [hc.state]
  rfl

theorem countSnapshot_open (ho : Open s n p.entry) (evaluation : Evaluation) :
    Open s n (p.countSnapshot evaluation).entry ∧
      (p.countSnapshot evaluation).outcome = p.outcome := by
  unfold countSnapshot
  rw [ho.state]
  exact ⟨⟨ho.state, ho.since, ho.wall, ho.events⟩, rfl⟩

/-- The start of a detection, as the caller will see it. -/
def Starts (now : Nat) (r : Option SignalRecord) : Prop :=
  ∃ record, r = some record ∧ record.signal = .started ∧ record.detection.startedAt = now ∧
    record.detection.sequence = 0 ∧ record.transition.reason = .triggerSustained

theorem move_start (hc : Closed p.entry) (hpending : p.entry.state = .pendingTrigger) (now : Nat)
    (wall : Int) (evaluation : Evaluation) :
    let q := p.move .active .triggerSustained now wall evaluation.matched
      (start evaluation now)
    Open now 1 q.entry ∧ Starts now q.outcome.signal := by
  have hcan : p.entry.state.canTransitionTo .active = true := by rw [hpending]; rfl
  have henter : p.entry.enter .active now wall =
      { p.entry with state := .active, enteredAt := now, activeSince := some now,
                     activeSinceWall := some wall, snapshotsInDetection := 0,
                     eventsInDetection := 0, peakMatched := [] } := by
    simp [enter, hc.since]
  simp only [Progress.move, transition, hcan, if_true, start, henter,
    Progress.signal, context, opened, recordPeaks]
  exact ⟨⟨rfl, rfl, rfl, rfl⟩, ⟨_, rfl, rfl, rfl, rfl, rfl⟩⟩

/-- What becomes of an entry without an open detection: it stays so and says nothing new, or a
detection opens after a crossing that lasted `triggerFor`. -/
def Judged (policy : DetectionPolicy) (now : Nat) (evaluation : Evaluation) (e : ScopeState)
    (said : Option SignalRecord) (q : Progress) : Prop :=
  (Closed q.entry ∧ q.outcome.signal = said ∧
    (q.entry.state = .pendingTrigger → evaluation.isOverThreshold = true ∧
      (q.entry.enteredAt = now ∨ e.state = .pendingTrigger ∧ q.entry.enteredAt = e.enteredAt))) ∨
  (e.state = .pendingTrigger ∧ evaluation.isOverThreshold = true ∧
    policy.triggerFor ≤ now - e.enteredAt ∧ Open now 1 q.entry ∧ Starts now q.outcome.signal)

theorem judge_closed (hc : Closed p.entry) (ht : 0 < policy.triggerFor) (now : Nat) (wall : Int)
    (evaluation : Evaluation) : Judged policy now evaluation p.entry p.outcome.signal
      (p.judge policy now wall evaluation) := by
  have hne : policy.triggerFor ≠ 0 := by omega
  cases hs : p.entry.state with
  | idle =>
    left
    simp only [judge, hs, if_neg hne]
    split
    · rename_i hover
      simp only [Progress.move, transition, hs, canTransitionTo, if_true]
      exact ⟨⟨rfl, hc.since⟩, trivial, fun _ => ⟨hover, Or.inl rfl⟩⟩
    · refine ⟨hc, rfl, fun h => ?_⟩
      rw [hs] at h
      cases h
  | pendingTrigger =>
    simp only [judge, hs]
    split
    · rename_i hover
      split
      · rename_i hlong
        right
        exact ⟨hs, hover, hlong, move_start hc hs now wall evaluation⟩
      · left
        exact ⟨hc, rfl, fun _ => ⟨hover, Or.inr ⟨hs, rfl⟩⟩⟩
    · left
      obtain ⟨hq, hidle, hsig⟩ := move_idle_closed hc .triggerAborted now wall (fun _ q => q)
        (fun _ _ => rfl)
      refine ⟨hq, hsig, fun h => ?_⟩
      rw [hidle] at h
      cases h
  | cooldown =>
    left
    simp only [judge, hs]
    split
    · refine ⟨⟨hc.state, hc.since⟩, rfl, fun h => ?_⟩
      dsimp only at h
      rw [hs] at h
      cases h
    · refine ⟨hc, rfl, fun h => ?_⟩
      rw [hs] at h
      cases h
  | active | pendingClear =>
    have h := hc.state
    rw [hs] at h
    cases h

theorem close_open (ho : Open s n p.entry) (policy : DetectionPolicy) (now : Nat) (wall : Int) :
    Closed (p.close policy now wall).entry ∧
      (p.close policy now wall).entry.state ≠ .pendingTrigger ∧
      Ends s n p.entry.key (p.close policy now wall).outcome.signal := by
  have hto : (if policy.cooldown = 0 then DetectionState.idle else .cooldown) = .idle ∨
      (if policy.cooldown = 0 then DetectionState.idle else .cooldown) = .cooldown := by
    split <;> simp
  obtain ⟨hq, hstate, hends⟩ := move_closing ho _ hto .clearSustained now wall (fun _ => some now)
  refine ⟨hq, fun h => ?_, hends⟩
  have hpending : (if policy.cooldown = 0 then DetectionState.idle else .cooldown) =
      .pendingTrigger := hstate.symm.trans h
  rw [hpending] at hto
  rcases hto with h | h <;> cases h

theorem judge_open (ho : Open s n p.entry) (policy : DetectionPolicy) (now : Nat) (wall : Int)
    (evaluation : Evaluation) :
    let q := p.judge policy now wall evaluation
    (Open s n q.entry ∧ q.outcome.signal = p.outcome.signal) ∨
    (Closed q.entry ∧ q.entry.state ≠ .pendingTrigger ∧ Ends s n p.entry.key q.outcome.signal) := by
  cases hs : p.entry.state with
  | active =>
    simp only [judge, hs]
    split
    · split
      · exact Or.inl ⟨⟨ho.state, ho.since, ho.wall, ho.events⟩, rfl⟩
      · split
        · exact Or.inr (close_open ho policy now wall)
        · left
          simp only [Progress.move, transition, hs, canTransitionTo, if_true]
          exact ⟨enter_open ho _ now wall (Or.inr rfl), trivial⟩
    · exact Or.inl ⟨ho, rfl⟩
  | pendingClear =>
    simp only [judge, hs]
    split
    · split
      · exact Or.inr (close_open ho policy now wall)
      · exact Or.inl ⟨ho, rfl⟩
    · left
      simp only [Progress.move, transition, hs, canTransitionTo, if_true]
      exact ⟨enter_open ho _ now wall (Or.inl rfl), trivial⟩
  | idle | pendingTrigger | cooldown =>
    have h := ho.state
    rw [hs] at h
    cases h

theorem paceUpdate_closed (hc : Closed p.entry) (policy : DetectionPolicy) (now : Nat) (wall : Int)
    (evaluation : Evaluation) : p.paceUpdate policy now wall evaluation = p := by
  unfold paceUpdate
  rw [hc.state]
  rfl

theorem paceUpdate_signalled (h : p.outcome.signal.isSome = true) (policy : DetectionPolicy)
    (now : Nat) (wall : Int) (evaluation : Evaluation) :
    p.paceUpdate policy now wall evaluation = p := by
  have hnone : p.outcome.signal.isNone = false := by
    cases hs : p.outcome.signal <;> simp_all
  unfold paceUpdate
  rw [hnone, Bool.and_false, Bool.false_and]
  rfl

/-- A paced update, as the caller will see it. -/
def Updates (s n : Nat) (r : Option SignalRecord) : Prop :=
  ∃ record, r = some record ∧ record.signal = .updated ∧ record.detection.startedAt = s ∧
    record.detection.sequence = min n u64Max

theorem paceUpdate_open (ho : Open s n p.entry) (hnone : p.outcome.signal = none)
    (policy : DetectionPolicy) (now : Nat) (wall : Int) (evaluation : Evaluation) :
    let q := p.paceUpdate policy now wall evaluation
    (Open s n q.entry ∧ q.outcome.signal = none) ∨
    (Open s (n + 1) q.entry ∧ Updates s n q.outcome.signal) := by
  unfold paceUpdate
  dsimp only
  split
  · split
    · right
      obtain ⟨w, hw⟩ := ho.opened
      obtain ⟨c, hctx, hs, hq⟩ := context_some { p.entry with lastEventAt := some now } s w none hw
      simp only [Progress.signal, hctx]
      refine ⟨⟨ho.state, ho.since, ho.wall, ?_⟩, ⟨_, rfl, rfl, hs, hq.trans ho.events⟩⟩
      dsimp only
      rw [ho.events, saturatingAdd_min]
    · exact Or.inl ⟨ho, hnone⟩
  · exact Or.inl ⟨ho, hnone⟩

theorem Judged.unpaced (h : Judged policy now evaluation e said p) (wall : Int) :
    p.paceUpdate policy now wall evaluation = p := by
  rcases h with ⟨hq, -⟩ | ⟨-, -, -, -, record, hr, -⟩
  · exact paceUpdate_closed hq policy now wall evaluation
  · exact paceUpdate_signalled (by rw [hr]; rfl) policy now wall evaluation

theorem advance_uncounted
    (hc : Closed (resetSelection { entry := e } policy now wall).entry)
    (ht : 0 < policy.triggerFor) (evaluation : Evaluation) :
    e.advance policy now wall evaluation =
      let p := (((resetSelection { entry := e } policy now wall).recordSnapshot now wall
        evaluation).expireCooldown policy now wall).judge policy now wall evaluation
      { p with outcome := { p.outcome with state := some p.entry.state } } := by
  have hc₁ : Closed ((resetSelection { entry := e } policy now wall).recordSnapshot now
      wall evaluation).entry := ⟨hc.state, hc.since⟩
  have hc₂ := (expireCooldown_closed hc₁ policy now wall).closed
  simp only [advance, countSnapshot_closed hc₂,
    (judge_closed hc₂ ht now wall evaluation).unpaced wall]

theorem advance_counted (ho : e.state.isOpen = true)
    (hsame : resetSelection { entry := e } policy now wall = { entry := e })
    (evaluation : Evaluation) :
    e.advance policy now wall evaluation =
      let p := (((recordSnapshot { entry := e } now wall evaluation).countSnapshot
        evaluation).judge policy now wall evaluation).paceUpdate policy now wall evaluation
      { p with outcome := { p.outcome with state := some p.entry.state } } := by
  have hopen : (recordSnapshot { entry := e } now wall evaluation).entry.state.isOpen =
      true := ho
  simp only [advance, hsame]
  rw [expireCooldown_of_ne fun hcool => ?_]
  rw [hcool] at hopen
  cases hopen

theorem advance_closed (hc : Closed e) (ht : 0 < policy.triggerFor) (now : Nat) (wall : Int)
    (evaluation : Evaluation) :
    Judged policy now evaluation e none (e.advance policy now wall evaluation) := by
  obtain ⟨hc₁, hsig₁, hpend₁⟩ := resetSelection_closed (p := { entry := e }) hc policy now wall
  let p₁ := (resetSelection { entry := e } policy now wall).recordSnapshot now wall
    evaluation
  have hc₁' : Closed p₁.entry := ⟨hc₁.state, hc₁.since⟩
  obtain ⟨hc₂, hsig₂, hpend₂⟩ := expireCooldown_closed hc₁' policy now wall
  have hentered (h : (p₁.expireCooldown policy now wall).entry.state = .pendingTrigger) :
      e.state = .pendingTrigger ∧
        (p₁.expireCooldown policy now wall).entry.enteredAt = e.enteredAt := by
    obtain ⟨h₁, he₁⟩ := hpend₂ h
    obtain ⟨h₀, he₀⟩ := hpend₁ h₁
    exact ⟨h₀, he₁.trans he₀⟩
  rw [advance_uncounted hc₁ ht]
  rcases judge_closed hc₂ ht now wall evaluation with ⟨hq, hsig, hpend⟩ | ⟨hs, hover, hlong, ho, hst⟩
  · left
    refine ⟨hq, hsig.trans (hsig₂.trans hsig₁), fun h => ?_⟩
    obtain ⟨hover, hnow | ⟨hs, hent⟩⟩ := hpend h
    · exact ⟨hover, Or.inl hnow⟩
    · obtain ⟨h₀, he₀⟩ := hentered hs
      exact ⟨hover, Or.inr ⟨h₀, hent.trans he₀⟩⟩
  · right
    obtain ⟨h₀, he₀⟩ := hentered hs
    rw [he₀] at hlong
    exact ⟨h₀, hover, hlong, ho, hst⟩

theorem advance_open (ho : Open s n e) (ht : 0 < policy.triggerFor) (now : Nat) (wall : Int)
    (evaluation : Evaluation) :
    let q := e.advance policy now wall evaluation
    (Open s n q.entry ∧ q.outcome.signal = none) ∨
    (Open s (n + 1) q.entry ∧ Updates s n q.outcome.signal) ∨
    (Closed q.entry ∧ Ends s n e.key q.outcome.signal ∧
      (q.entry.state = .pendingTrigger →
        evaluation.isOverThreshold = true ∧ q.entry.enteredAt = now)) := by
  rcases resetSelection_open (p := { entry := e }) ho policy now wall with
    ⟨-, hsame⟩ | ⟨hc, hidle, hends⟩
  · let p₁ := recordSnapshot { entry := e } now wall evaluation
    have ho₁ : Open s n p₁.entry := ⟨ho.state, ho.since, ho.wall, ho.events⟩
    obtain ⟨ho₂, hout⟩ := countSnapshot_open ho₁ evaluation
    have hkey : (p₁.countSnapshot evaluation).entry.key = e.key := by
      unfold countSnapshot
      split <;> rfl
    rw [advance_counted ho.state hsame]
    rcases judge_open ho₂ policy now wall evaluation with ⟨ho₃, hsig⟩ | ⟨hc₃, hne, hends⟩
    · rw [hout] at hsig
      rcases paceUpdate_open ho₃ hsig policy now wall evaluation with h | h
      · exact Or.inl h
      · exact Or.inr (Or.inl h)
    · rw [paceUpdate_closed hc₃]
      rw [hkey] at hends
      exact Or.inr (Or.inr ⟨hc₃, hends, fun h => absurd h hne⟩)
  · right
    right
    let p₁ := (resetSelection { entry := e } policy now wall).recordSnapshot now wall
      evaluation
    have hc₁ : Closed p₁.entry := ⟨hc.state, hc.since⟩
    have hstate : p₁.entry.state = .idle := hidle
    have hnot : p₁.entry.state ≠ .pendingTrigger := by rw [hstate]; nofun
    rw [advance_uncounted hc ht]
    dsimp only
    rw [expireCooldown_of_ne (by rw [hstate]; nofun)]
    rcases judge_closed hc₁ ht now wall evaluation with ⟨hq, hsig, hpend⟩ | ⟨hs, -⟩
    · refine ⟨hq, ?_, fun h => ?_⟩
      · obtain ⟨record, hr, hrest⟩ := hends
        exact ⟨record, hsig.trans hr, hrest⟩
      · obtain ⟨hover, hnow | ⟨hs, -⟩⟩ := hpend h
        · exact ⟨hover, hnow⟩
        · exact absurd hs hnot
    · exact absurd hs hnot

/-- What an entry is filed under, its scope and the policy it runs by, and its latest snapshot. -/
def filing (e : ScopeState) : ScopeKey × String × Nat × Option Nat :=
  (e.key, e.policyId, e.policyVersion, e.lastSnapshotAt)

theorem enter_filing {e : ScopeState} : filing (e.enter to' now wall) = filing e := by
  cases to' <;> simp only [enter] <;> first | rfl | (split <;> rfl)

theorem signal_filing : filing (p.signal kind t started).entry = filing p.entry := by
  unfold Progress.signal context
  cases (started <|> p.entry.opened) <;> rfl

theorem move_filing (p : Progress) (to' : DetectionState) (reason : TransitionReason) (now : Nat)
    (wall : Int) (matched : List MatchedReason) (body : StateTransition → Progress → Progress)
    (hb : ∀ t q, filing (body t q).entry = filing q.entry) :
    filing (p.move to' reason now wall matched body).entry = filing p.entry := by
  unfold Progress.move transition
  split
  · rfl
  · rename_i heq
    split at heq
    · cases heq
      exact (hb _ _).trans enter_filing
    · cases heq

theorem start_filing : filing (start evaluation now t p).entry = filing p.entry :=
  signal_filing

section

variable (p : Progress) (policy : DetectionPolicy) (now : Nat) (wall : Int)

theorem close_filing :
    filing (p.close policy now wall).entry = filing p.entry :=
  move_filing _ _ _ _ _ _ _ fun _ _ => signal_filing

theorem judge_filing
    (evaluation : Evaluation) :
    filing (p.judge policy now wall evaluation).entry = filing p.entry := by
  have hmove (to' : DetectionState) (reason : TransitionReason) (matched : List MatchedReason) :
      filing (p.move to' reason now wall matched fun _ q => q).entry = filing p.entry :=
    move_filing _ _ _ _ _ _ _ fun _ _ => rfl
  have hstart (reason : TransitionReason) : filing (p.move .active reason now wall
      evaluation.matched (start evaluation now)).entry = filing p.entry :=
    move_filing _ _ _ _ _ _ _ fun _ _ => start_filing
  unfold judge
  dsimp only
  repeat' split
  all_goals first
    | rfl
    | exact hstart _
    | exact close_filing _ _ _ _
    | exact hmove _ _ _

theorem paceUpdate_filing
    (evaluation : Evaluation) :
    filing (p.paceUpdate policy now wall evaluation).entry = filing p.entry := by
  unfold paceUpdate
  split
  · split
    · exact signal_filing
    · rfl
  · rfl

theorem resetSelection_filing :
    filing (p.resetSelection policy now wall).entry =
      (p.entry.key, policy.id, policy.version, p.entry.lastSnapshotAt) := by
  unfold resetSelection
  split
  · have h := move_filing p .idle .policyChanged now wall []
      (fun t q => if p.entry.state.isOpen then q.signal .ended t p.entry.opened else q) (by
        intro t q
        split
        · exact signal_filing
        · rfl)
    simp only [filing, Prod.mk.injEq] at h ⊢
    exact ⟨h.1, trivial, trivial, h.2.2.2⟩
  · rename_i h
    simp only [selectionDiffers, Bool.or_eq_true, bne_iff_ne, ne_eq, not_or, not_not] at h
    simp only [filing, h.1, h.2]

end

theorem advance_filing (e : ScopeState) (policy : DetectionPolicy) (now : Nat) (wall : Int)
    (evaluation : Evaluation) :
    filing (e.advance policy now wall evaluation).entry =
      (e.key, policy.id, policy.version, some now) := by
  have hcool (p : Progress) : filing (p.expireCooldown policy now wall).entry = filing p.entry := by
    unfold expireCooldown
    split
    · exact move_filing _ _ _ _ _ _ _ fun _ _ => rfl
    · rfl
  have hcount (p : Progress) : filing (p.countSnapshot evaluation).entry = filing p.entry := by
    unfold countSnapshot
    split <;> rfl
  have hreset := resetSelection_filing { entry := e } policy now wall
  unfold advance
  dsimp only
  rw [paceUpdate_filing, judge_filing, hcount, hcool]
  simp only [filing, Prod.mk.injEq] at hreset
  simp only [filing, recordSnapshot, hreset]

end Tidegard.Detector.Proofs.Advance
