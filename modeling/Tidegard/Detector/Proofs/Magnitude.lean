import Tidegard.Detector.Proofs.Timers

namespace Tidegard.Detector.Proofs.Magnitude

open List Runs Tables Common Input Policy Evaluate State Detector.Lifecycle Advance Proofs.Lifecycle
  Progress ScopeState
open Clockwork Proofs.Timers

variable {c : DetectionContext} {s : Nat} {x : ScopeState}
variable {policy : DetectionPolicy} {key : ScopeKey} {em : Emission} {t : StateTable}
variable {p : MatchedReason} {r : SignalRecord}
/-- The peaks of some matches: one entry of each metric among them, with its highest value. -/
structure Peaks (seen peaks : List MatchedReason) : Prop where
  distinct : peaks.Pairwise fun p q => p.metric ≠ q.metric
  covers : ∀ r ∈ seen, ∃ p ∈ peaks, p.metric = r.metric
  highest : ∀ p ∈ peaks, p ∈ seen ∧ ∀ r ∈ seen, r.metric = p.metric → r.observed ≤ p.observed

theorem Peaks.nil : Peaks [] [] :=
  ⟨List.Pairwise.nil, fun _ h => absurd h not_mem_nil, fun _ h => absurd h not_mem_nil⟩

theorem mem_recordPeak (distinct : peaks.Pairwise fun p q => p.metric ≠ q.metric) :
    p ∈ recordPeak peaks reason ↔
      p ∈ peaks ∧ (p.metric = reason.metric → reason.observed ≤ p.observed) ∨
      p = reason ∧ ∀ q ∈ peaks, q.metric = reason.metric → q.observed < reason.observed := by
  induction peaks with
  | nil => simp [recordPeak]
  | cons head rest ih =>
    obtain ⟨hhead, hrest⟩ := List.pairwise_cons.mp distinct
    unfold recordPeak
    by_cases hmetric : head.metric = reason.metric
    · -- no entry of the rest has the metric
      have hother : ∀ q ∈ rest, q.metric ≠ reason.metric := fun q hq heq =>
        hhead q hq (hmetric.trans heq.symm)
      rw [if_pos hmetric, mem_cons]
      constructor
      · rintro (heq | hin)
        · split at heq
          · rename_i hlower
            refine Or.inr ⟨heq, fun q hq hqm => ?_⟩
            rcases List.mem_cons.mp hq with rfl | hq
            · exact hlower
            · exact absurd hqm (hother q hq)
          · rename_i hnot
            rw [heq]
            exact Or.inl ⟨mem_cons_self, fun _ => Nat.le_of_not_lt hnot⟩
        · exact Or.inl ⟨mem_cons_of_mem _ hin, fun hm => absurd hm (hother p hin)⟩
      · rintro (⟨hin, hkeep⟩ | ⟨rfl, hall⟩)
        · rcases List.mem_cons.mp hin with rfl | hin
          · rw [if_neg (Nat.not_lt.mpr (hkeep hmetric))]
            exact Or.inl rfl
          · exact Or.inr hin
        · rw [if_pos (hall head mem_cons_self hmetric)]
          exact Or.inl rfl
    · rw [if_neg hmetric, mem_cons, ih hrest]
      constructor
      · rintro (rfl | ⟨hin, hkeep⟩ | ⟨heq, hall⟩)
        · exact Or.inl ⟨mem_cons_self, fun h => absurd h hmetric⟩
        · exact Or.inl ⟨mem_cons_of_mem _ hin, hkeep⟩
        · refine Or.inr ⟨heq, fun q hq hqm => ?_⟩
          rcases List.mem_cons.mp hq with rfl | hq
          · exact absurd hqm hmetric
          · exact hall q hq hqm
      · rintro (⟨hin, hkeep⟩ | ⟨heq, hall⟩)
        · rcases List.mem_cons.mp hin with rfl | hin
          · exact Or.inl rfl
          · exact Or.inr (Or.inl ⟨hin, hkeep⟩)
        · exact Or.inr (Or.inr ⟨heq, fun q hq => hall q (mem_cons_of_mem _ hq)⟩)

theorem mem_of_mem_recordPeak (h : p ∈ recordPeak peaks reason) : p ∈ peaks ∨ p = reason := by
  induction peaks with
  | nil =>
    rw [recordPeak, mem_singleton] at h
    exact Or.inr h
  | cons head rest ih =>
    unfold recordPeak at h
    split at h
    · rcases List.mem_cons.mp h with heq | hin
      · split at heq
        · exact Or.inr heq
        · rw [heq]
          exact Or.inl mem_cons_self
      · exact Or.inl (mem_cons_of_mem _ hin)
    · rcases List.mem_cons.mp h with rfl | hin
      · exact Or.inl mem_cons_self
      · exact (ih hin).imp_left (mem_cons_of_mem _)

theorem recordPeak_distinct (distinct : peaks.Pairwise fun p q => p.metric ≠ q.metric)
    (reason : MatchedReason) :
    (recordPeak peaks reason).Pairwise fun p q => p.metric ≠ q.metric := by
  induction peaks with
  | nil => exact pairwise_singleton _ _
  | cons head rest ih =>
    obtain ⟨hhead, hrest⟩ := List.pairwise_cons.mp distinct
    unfold recordPeak
    split
    · rename_i hmetric
      refine List.pairwise_cons.mpr ⟨fun q hq => ?_, hrest⟩
      split
      · rw [← hmetric]
        exact hhead q hq
      · exact hhead q hq
    · rename_i hmetric
      refine List.pairwise_cons.mpr ⟨fun q hq => ?_, ih hrest⟩
      rcases mem_of_mem_recordPeak hq with hin | rfl
      · exact hhead q hin
      · exact hmetric

theorem Peaks.record (h : Peaks seen peaks) (reason : MatchedReason) :
    Peaks (seen ++ [reason]) (recordPeak peaks reason) where
  distinct := recordPeak_distinct h.distinct reason
  covers := by
    -- the metric of the new reason has its old entry or the reason itself
    have hnew : ∃ p ∈ recordPeak peaks reason, p.metric = reason.metric := by
      by_cases hlower : ∀ q ∈ peaks, q.metric = reason.metric → q.observed < reason.observed
      · exact ⟨reason, (mem_recordPeak h.distinct).mpr (Or.inr ⟨rfl, hlower⟩), rfl⟩
      · push Not at hlower
        obtain ⟨q, hq, hqm, hle⟩ := hlower
        exact ⟨q, (mem_recordPeak h.distinct).mpr (Or.inl ⟨hq, fun _ => hle⟩), hqm⟩
    intro r hr
    rcases List.mem_append.mp hr with hr | hr
    · obtain ⟨p, hp, hpm⟩ := h.covers r hr
      by_cases hmetric : p.metric = reason.metric
      · obtain ⟨q, hq, hqm⟩ := hnew
        exact ⟨q, hq, hqm.trans (hmetric.symm.trans hpm)⟩
      · exact ⟨p, (mem_recordPeak h.distinct).mpr
          (Or.inl ⟨hp, fun heq => absurd heq hmetric⟩), hpm⟩
    · rw [List.mem_singleton.mp hr]
      exact hnew
  highest := by
    intro p hp
    rcases (mem_recordPeak h.distinct).mp hp with ⟨hin, hkeep⟩ | ⟨rfl, hall⟩
    · obtain ⟨hseen, hmax⟩ := h.highest p hin
      refine ⟨mem_append_left _ hseen, fun r hr hrm => ?_⟩
      rcases List.mem_append.mp hr with hr | hr
      · exact hmax r hr hrm
      · rw [List.mem_singleton.mp hr] at hrm ⊢
        exact hkeep hrm.symm
    · refine ⟨mem_append_right _ (mem_singleton_self _), fun r hr hrm => ?_⟩
      rcases List.mem_append.mp hr with hr | hr
      · obtain ⟨q, hq, hqm⟩ := h.covers r hr
        have hle := (h.highest q hq).2 r hr hqm.symm
        exact hle.trans (hall q hq (hqm.trans hrm)).le
      · rw [List.mem_singleton.mp hr]

theorem Peaks.foldl (h : Peaks seen peaks) (matched : List MatchedReason) :
    Peaks (seen ++ matched) (matched.foldl recordPeak peaks) := by
  induction matched generalizing seen peaks with
  | nil => rwa [append_nil]
  | cons reason rest ih =>
    have hnext := ih (h.record reason)
    rwa [append_assoc] at hnext

def tally (e : ScopeState) : List MatchedReason × Nat := (e.peakMatched, e.snapshotsInDetection)

/-- What a context says of its detection. -/
def told (c : DetectionContext) : List MatchedReason × Nat := (c.peak, c.snapshotsInDetection)

/-- What an entry has counted after one more snapshot of its detection. -/
def counted (e : ScopeState) (matched : List MatchedReason) : List MatchedReason × Nat :=
  (matched.foldl recordPeak e.peakMatched, saturatingAdd e.snapshotsInDetection 1)

theorem context_told
    (h : e.context started = some (c, e')) : told c = tally e ∧ tally e' = tally e := by
  unfold ScopeState.context at h
  split at h
  · cases h
  · cases h
    exact ⟨rfl, rfl⟩

theorem enter_tally (e : ScopeState) (toState : DetectionState) (now : Nat) (wall : Int)
    (h : toState = .active → e.activeSince.isSome = true) :
    tally (e.enter toState now wall) = tally e := by
  cases toState with
  | active =>
    obtain ⟨s, hs⟩ := Option.isSome_iff_exists.mp (h rfl)
    simp [enter, hs, tally]
  | idle | pendingTrigger | pendingClear | cooldown => rfl

/-- From `p` to `q` nothing is counted, and what is reported on the way is as `Q` says and tells
what had been counted. -/
def Tells (p q : Progress) (Q : SignalRecord → Prop) : Prop :=
  tally q.entry = tally p.entry ∧ (q.outcome.signal = p.outcome.signal ∨
    ∃ r, q.outcome.signal = some r ∧ Q r ∧ told r.detection = tally p.entry)

theorem Tells.refl (p : Progress) (Q : SignalRecord → Prop) : Tells p p Q := ⟨rfl, Or.inl rfl⟩

section

variable (p : Progress)

theorem signal_tally (signal : Signal) (t : StateTransition) (started : Option (Nat × Int)) :
    Tells p (p.signal signal t started) fun r => r.signal = signal ∧ r.transition = t := by
  unfold Progress.signal
  cases hctx : p.entry.context started with
  | none => exact .refl p _
  | some answer =>
    obtain ⟨htold, htally⟩ := context_told hctx
    exact ⟨htally, Or.inr ⟨_, rfl, ⟨rfl, rfl⟩, htold⟩⟩

theorem move_tally (toState : DetectionState) (reason : TransitionReason)
    (now : Nat) (wall : Int) (matched : List MatchedReason)
    (body : StateTransition → Progress → Progress) (signal : Signal)
    (hactive : toState = .active → p.entry.activeSince.isSome = true)
    (hbody : ∀ t q, Tells q (body t q) fun r => r.signal = signal ∧ r.transition = t) :
    Tells p (p.move toState reason now wall matched body)
      fun r => r.signal = signal ∧ r.transition.reason = reason := by
  have henter := enter_tally p.entry toState now wall hactive
  unfold Progress.move transition
  split
  · exact .refl p _
  · rename_i t entry heq
    split at heq
    · cases heq
      obtain ⟨htally, hsignal⟩ := hbody
        { key := p.entry.key, policyId := p.entry.policyId, policyVersion := p.entry.policyVersion,
          fromState := p.entry.state, toState := toState, reason := reason, at_ := now,
          atWall := wall, matched := matched, timeInPrevious := now - p.entry.enteredAt }
        { p with entry := p.entry.enter toState now wall }
      refine ⟨htally.trans henter, hsignal.imp_right ?_⟩
      rintro ⟨r, hr, ⟨hkind, htransition⟩, htold⟩
      exact ⟨r, hr, ⟨hkind, by rw [htransition]⟩, htold.trans henter⟩
    · cases heq

theorem move_silent (toState : DetectionState) (reason : TransitionReason)
    (now : Nat) (wall : Int) (matched : List MatchedReason)
    (hactive : toState = .active → p.entry.activeSince.isSome = true)
    (Q : SignalRecord → Prop) :
    Tells p (p.move toState reason now wall matched fun _ q => q) Q := by
  refine ⟨(move_tally p toState reason now wall matched _ .ended hactive
    fun _ q => .refl q _).1, Or.inl ?_⟩
  unfold Progress.move
  split <;> rfl

/-- A clearing. -/
def Clearing (r : SignalRecord) : Prop := r.signal = .ended ∧ r.transition.reason = .clearSustained

theorem close_tally (policy : DetectionPolicy) (now : Nat) (wall : Int) :
    Tells p (p.close policy now wall) Clearing := by
  refine move_tally p _ .clearSustained now wall [] _ .ended (fun h => ?_) fun t q => ?_
  · split at h <;> cases h
  · exact signal_tally { q with entry := { q.entry with lastEventAt := some now } } .ended t
      p.entry.opened

theorem paceUpdate_tally (policy : DetectionPolicy) (now : Nat) (wall : Int)
    (evaluation : Evaluation) :
    Tells p (p.paceUpdate policy now wall evaluation) fun r => r.signal = .updated := by
  unfold paceUpdate
  split
  · split
    · obtain ⟨htally, hsignal⟩ := signal_tally
        { p with entry := { p.entry with lastEventAt := some now } } .updated
        { key := p.entry.key, policyId := p.entry.policyId, policyVersion := p.entry.policyVersion,
          fromState := p.entry.state, toState := p.entry.state, reason := .stillActive, at_ := now,
          atWall := wall, matched := evaluation.matched,
          timeInPrevious := p.entry.timeInState now } none
      refine ⟨htally, hsignal.imp_right ?_⟩
      rintro ⟨r, hr, ⟨hkind, -⟩, htold⟩
      exact ⟨r, hr, hkind, htold⟩
    · exact .refl p _
  · exact .refl p _

end

theorem judge_open_tally {p : Progress} (ho : Open s n p.entry) (policy : DetectionPolicy)
    (now : Nat) (wall : Int) (evaluation : Evaluation) :
    Tells p (p.judge policy now wall evaluation) Clearing := by
  have hsince : p.entry.activeSince.isSome = true := by rw [ho.since]; rfl
  have hmove (toState : DetectionState) (reason : TransitionReason)
      (matched : List MatchedReason) :=
    move_silent p toState reason now wall matched (fun _ => hsince) Clearing
  cases hs : p.entry.state with
  | active =>
    simp only [judge, hs]
    split
    · split
      · exact .refl p _
      · split
        · exact close_tally p policy now wall
        · exact hmove _ _ _
    · exact .refl p _
  | pendingClear =>
    simp only [judge, hs]
    split
    · split
      · exact close_tally p policy now wall
      · exact .refl p _
    · exact hmove _ _ _
  | idle | pendingTrigger | cooldown =>
    have h := ho.state
    rw [hs] at h
    cases h

theorem advance_counts (ho : Open s n x) (hsame : selectionDiffers x policy = false) (now : Nat)
    (wall : Int) (evaluation : Evaluation) :
    let q := x.advance policy now wall evaluation
    tally q.entry = counted x evaluation.matched ∧
      ∀ r, q.outcome.signal = some r → told r.detection = counted x evaluation.matched ∧
        (r.signal = .ended → r.transition.reason = .clearSustained) := by
  let p₁ := recordSnapshot { entry := x } now wall evaluation
  have ho₁ : Open s n p₁.entry := ⟨ho.state, ho.since, ho.wall, ho.events⟩
  obtain ⟨ho₂, hout⟩ := countSnapshot_open ho₁ evaluation
  have hcounted : tally (p₁.countSnapshot evaluation).entry = counted x evaluation.matched := by
    unfold countSnapshot
    rw [ho₁.state]
    rfl
  have hnone : (p₁.countSnapshot evaluation).outcome.signal = none := by
    rw [hout]
    rfl
  obtain ⟨hjudged, hjudgement⟩ := judge_open_tally ho₂ policy now wall evaluation
  obtain ⟨hpaced, hpace⟩ := paceUpdate_tally
    ((p₁.countSnapshot evaluation).judge policy now wall evaluation) policy now wall evaluation
  rw [advance_counted ho.state (resetSelection_same hsame now wall)]
  refine ⟨hpaced.trans (hjudged.trans hcounted), fun r hr => ?_⟩
  rcases hpace with hkept | ⟨r', hr', hkind, htold⟩
  · rcases hjudgement with hquiet | ⟨r', hr', ⟨hkind, hreason⟩, htold⟩
    · have := hr.symm.trans (hkept.trans (hquiet.trans hnone))
      cases this
    · obtain rfl := Option.some.inj (hr.symm.trans (hkept.trans hr'))
      exact ⟨htold.trans hcounted, fun _ => hreason⟩
  · obtain rfl := Option.some.inj (hr.symm.trans hr')
    refine ⟨htold.trans (hjudged.trans hcounted), fun hended => ?_⟩
    rw [hkind] at hended
    cases hended

theorem advance_swaps (ho : Open s n x) (ht : 0 < policy.triggerFor)
    (hdiff : selectionDiffers x policy = true) (now : Nat) (wall : Int) (evaluation : Evaluation) :
    ∃ r, (x.advance policy now wall evaluation).outcome.signal = some r ∧ r.signal = .ended ∧
      r.transition.reason = .policyChanged ∧ told r.detection = tally x := by
  rcases resetSelection_open (p := { entry := x }) ho policy now wall with
    ⟨hsame, -⟩ | ⟨hc, hidle, record, hrecord, -⟩
  · rw [show selectionDiffers x policy = false from hsame] at hdiff
    cases hdiff
  let p₁ := (resetSelection { entry := x } policy now wall).recordSnapshot now wall
    evaluation
  have hc₁ : Closed p₁.entry := ⟨hc.state, hc.since⟩
  have hstate : p₁.entry.state = .idle := hidle
  have hsignal : (x.advance policy now wall evaluation).outcome.signal =
      (resetSelection { entry := x } policy now wall).outcome.signal := by
    rw [advance_uncounted hc ht]
    dsimp only
    rw [expireCooldown_of_ne (by rw [hstate]; nofun)]
    rcases judge_closed hc₁ ht now wall evaluation with ⟨hq, hsig, -⟩ | ⟨hs, -⟩
    · exact hsig
    · rw [hstate] at hs
      cases hs
  have hreset := move_tally { entry := x } .idle .policyChanged now wall []
    (fun t q => if x.state.isOpen then q.signal .ended t x.opened else q) .ended
    (fun h => by cases h) fun t q => by
      rw [ho.state]
      exact signal_tally q .ended t x.opened
  have hmoved : (resetSelection { entry := x } policy now wall).outcome.signal =
      (Progress.move { entry := x } .idle .policyChanged now wall []
        fun t q => if x.state.isOpen then q.signal .ended t x.opened else q).outcome.signal := by
    unfold resetSelection
    rw [if_pos hdiff]
  rw [hsignal]
  rcases hreset.2 with hnone | hended
  · rw [hmoved, hnone] at hrecord
    cases hrecord
  · obtain ⟨r, hr, ⟨hkind, hreason⟩, htold⟩ := hended
    exact ⟨r, hmoved.trans hr, hkind, hreason, htold⟩

theorem judge_opens {p : Progress} (hc : Closed p.entry) (hs : p.entry.state = .pendingTrigger)
    (hlong : policy.triggerFor ≤ now - p.entry.enteredAt) (wall : Int) {evaluation : Evaluation}
    (hover : evaluation.isOverThreshold = true)
    (hr : (p.judge policy now wall evaluation).outcome.signal = some r) :
    told r.detection = (evaluation.matched.foldl recordPeak [], 0) ∧
      tally (p.judge policy now wall evaluation).entry =
        (evaluation.matched.foldl recordPeak [], 0) := by
  have hlong' : policy.triggerFor ≤ p.entry.timeInState now := hlong
  simp only [judge, hs, hover, if_true, if_pos hlong', Progress.move, transition,
    DetectionState.canTransitionTo, start, enter, hc.since, Option.isNone_none, recordPeaks,
    Progress.signal, ScopeState.context, ScopeState.opened] at hr ⊢
  cases hr
  exact ⟨rfl, rfl⟩

theorem advance_opens (hc : Closed x) (ht : 0 < policy.triggerFor) (now : Nat) (wall : Int)
    (evaluation : Evaluation) (hr : (x.advance policy now wall evaluation).outcome.signal = some r) :
    told r.detection = (evaluation.matched.foldl recordPeak [], 0) ∧
      tally (x.advance policy now wall evaluation).entry =
        (evaluation.matched.foldl recordPeak [], 0) := by
  obtain ⟨hc₁, hsig₁, -⟩ := resetSelection_closed (p := { entry := x }) hc policy now wall
  have hc₁' : Closed ((resetSelection { entry := x } policy now wall).recordSnapshot now
      wall evaluation).entry := ⟨hc₁.state, hc₁.since⟩
  obtain ⟨hc₂, hsig₂, -⟩ := expireCooldown_closed hc₁' policy now wall
  rw [advance_uncounted hc₁ ht] at hr ⊢
  dsimp only at hr ⊢
  rcases judge_closed hc₂ ht now wall evaluation with
    ⟨-, hsig, -⟩ | ⟨hs, hover, hlong, -⟩
  · have := hr.symm.trans (hsig.trans (hsig₂.trans hsig₁))
    cases this
  · exact judge_opens hc₂ hs hlong wall hover hr

theorem mem_forKey : em ∈ forKey key out ↔ (key, em) ∈ out := by
  unfold forKey
  rw [mem_filterMap]
  constructor
  · rintro ⟨⟨k, em'⟩, hin, heq⟩
    split at heq
    · rename_i hkey
      cases heq
      have hkey' : k = key := hkey
      rwa [← hkey']
    · cases heq
  · intro hin
    exact ⟨(key, em), hin, if_pos rfl⟩

theorem expire_told (h : (x.expire key reason now wall).detection = some c) : told c = tally x := by
  have hidle : tally (x.enter .idle now wall) = tally x :=
    enter_tally x .idle now wall fun h => by cases h
  have hcontext {e : ScopeState} (he : tally e = tally x)
      (hc : (e.context x.opened).map Prod.fst = some c) : told c = tally x := by
    obtain ⟨⟨c', e'⟩, hctx, rfl⟩ := Option.map_eq_some_iff.mp hc
    exact (context_told hctx).1.trans he
  unfold ScopeState.expire transition at h
  cases hcan : x.state.canTransitionTo .idle <;>
    simp only [hcan, if_true, Bool.false_eq_true, if_false] at h <;> split at h
  · exact hcontext rfl h
  · cases h
  · exact hcontext hidle h
  · cases h

theorem removal_told {f : ScopeKey → ScopeState → Option Expiry}
    (removal : Removal t now wall answer f)
    (h : em ∈ forKey key (answer.1.filterMap expiryEmission)) :
    em.1 = .ended ∧ ∃ x, t.entries[key]? = some x ∧ ∀ c, em.2 = some c → told c = tally x := by
  obtain ⟨expiry, hin, hem⟩ := List.mem_filterMap.mp (mem_forKey.mp h)
  obtain ⟨e, hget, hleaves⟩ := removal.mem hin
  obtain ⟨signal, hsome, hpair⟩ := Option.map_eq_some_iff.mp hem
  cases hpair
  have hended : signal = .ended := by
    rcases hleaves.signal with hnone | hended
    · rw [hnone] at hsome
      cases hsome
    · exact Option.some.inj (hsome.symm.trans hended)
  refine ⟨hended, e, hget, ?_⟩
  generalize expiry.key = key at hleaves
  cases hleaves with
  | idle => cases hsome
  | expired reason =>
    intro c hc
    change (e.expire key reason now wall).detection = some c at hc
    exact expire_told hc

/-- The operation presents no snapshot. -/
def Op.Outside : Op → Prop
  | .step _ _ => False
  | _ => True

theorem manualReset_told (h : (t.manualReset key now wall).1.bind Prod.snd = some c) :
    ∃ x, t.entries[key]? = some x ∧ told c = tally x := by
  unfold StateTable.manualReset transition at h
  dsimp only at h
  cases hx : t.entries[key]? with
  | none =>
    rw [hx] at h
    cases h
  | some x =>
    refine ⟨x, rfl, ?_⟩
    rw [hx] at h
    dsimp only at h
    split at h
    · cases h
    · rename_i heq
      split at heq
      · cases heq
        split at h
        · cases h
        · rename_i hctx
          cases h
          split at hctx
          · exact (context_told hctx).1.trans
              (enter_tally { x with lastEventAt := some now } .idle now wall fun h => by cases h)
          · cases hctx
      · cases heq

theorem manualReset_tally (h : (t.manualReset k now wall).2.entries[key]? = some y) :
    ∃ x, t.entries[key]? = some x ∧ tally y = tally x := by
  by_cases hkey : k = key
  · subst hkey
    unfold StateTable.manualReset transition at h
    dsimp only at h
    cases hx : t.entries[k]? with
    | none =>
      rw [hx] at h
      have := hx.symm.trans h
      cases this
    | some x =>
      refine ⟨x, rfl, ?_⟩
      rw [hx] at h
      dsimp only at h
      have hidle := enter_tally { x with lastEventAt := some now } .idle now wall
        fun h => by cases h
      split at h
      · rw [get_insert_self] at h
        cases h
        rfl
      · rename_i heq
        split at heq
        · cases heq
          split at h
          · rw [get_insert_self] at h
            cases h
            exact hidle
          · rename_i hctx
            rw [get_insert_self] at h
            cases h
            split at hctx
            · exact (context_told hctx).2.trans hidle
            · cases hctx
        · cases heq
  · rw [manualReset_other t hkey] at h
    exact ⟨y, h, rfl⟩

theorem outside_told (hop : Op.Outside op) (h : em ∈ forKey key (perform t op).1) :
    em.1 = .ended ∧ ∃ x, t.entries[key]? = some x ∧ ∀ c, em.2 = some c → told c = tally x := by
  cases op with
  | step => exact hop.elim
  | manualReset =>
    obtain ⟨c, hc, hpair⟩ := List.mem_map.mp (mem_forKey.mp h)
    cases hpair
    obtain ⟨x, hx, htold⟩ := manualReset_told (Option.mem_toList.mp hc)
    refine ⟨rfl, x, hx, fun c' hc' => ?_⟩
    rwa [← Option.some.inj hc']
  | sweep => exact removal_told (sweep_removal t _ _) h
  | withdrawStaleSelection => exact removal_told (withdraw_removal t _ _ _) h

theorem outside_tally (hop : Op.Outside op) (h : (perform t op).2.entries[key]? = some y) :
    ∃ x, t.entries[key]? = some x ∧ tally y = tally x := by
  cases op with
  | step => exact hop.elim
  | manualReset => exact manualReset_tally h
  | sweep now wall => exact ⟨y, (sweep_removal t now wall).entry h, rfl⟩
  | withdrawStaleSelection now wall winner =>
    exact ⟨y, (withdraw_removal t now wall winner).entry h, rfl⟩

/-- What a step matched of a scope: the matches of the snapshot it applied, if any. -/
def crossings (key : ScopeKey) (st : TableStep) : List MatchedReason :=
  match st.input with
  | .step policy snapshot =>
    if (applied key st).isSome then (evaluate policy snapshot).matched else []
  | _ => []

def Opens (key : ScopeKey) (st : TableStep) : Prop :=
  ∃ c, (Signal.started, c) ∈ forKey key st.output

def clears (key : ScopeKey) (st : TableStep) : Bool :=
  (reported key st).any fun r => r.2.transition.reason == .clearSustained

/-- The steps a run took since one that opened a detection, with what they say together: the
peaks of all their snapshots and the number of the snapshots after the opening one. -/
structure Chapter (key : ScopeKey) (steps : List TableStep) (startedAt : Nat)
    (said : List MatchedReason × Nat) : Prop where
  history : ∃ (pre : List TableStep) (opening : TableStep) (later : List TableStep),
    steps = pre ++ opening :: later ∧ Opens key opening ∧ (∀ st ∈ later, ¬Opens key st) ∧
    (∃ s, applied key opening = some s ∧ s.observedAt = startedAt) ∧
    Peaks ((opening :: later).flatMap (crossings key)) said.1 ∧
    said.2 = min (later.filterMap (applied key)).length u64Max

section

variable {key : ScopeKey} {past : List TableStep} {st : TableStep} {s : Nat}

variable {snapshot : DetectionSnapshot}

theorem crossings_unapplied (h : applied key st = none) : crossings key st = [] := by
  unfold crossings
  split
  · rw [h]
    rfl
  · rfl

theorem Chapter.begin (hopens : Opens key st) (taken : applied key st = some snapshot) :
    Chapter key (past ++ [st]) snapshot.observedAt ((crossings key st).foldl recordPeak [], 0) := by
  refine ⟨past, st, [], rfl, hopens, by simp, ⟨snapshot, taken, rfl⟩, ?_, by simp⟩
  have hpeaks := Peaks.nil.foldl (crossings key st)
  simpa using hpeaks

theorem Chapter.snoc (h : Chapter key past s said) (hopens : ¬Opens key st)
    (count : ∀ l, said.2 = min l u64Max →
      n = min (l + ([st].filterMap (applied key)).length) u64Max) :
    Chapter key (past ++ [st]) s ((crossings key st).foldl recordPeak said.1, n) := by
  obtain ⟨pre, opening, later, rfl, hopening, hlater, hstart, hpeaks, hcount⟩ := h.history
  refine ⟨pre, opening, later ++ [st], by simp, hopening, ?_, hstart, ?_, ?_⟩
  · intro st' hst'
    rcases List.mem_append.mp hst' with hst' | hst'
    · exact hlater st' hst'
    · rwa [List.mem_singleton.mp hst']
  · rw [← cons_append, flatMap_append]
    simpa using hpeaks.foldl (crossings key st)
  · rw [filterMap_append, length_append]
    exact count _ hcount

theorem Chapter.pass (h : Chapter key past s said) (hopens : ¬Opens key st)
    (unapplied : applied key st = none) : Chapter key (past ++ [st]) s said := by
  have hsame := h.snoc hopens (n := said.2) fun l hl => by simpa [unapplied] using hl
  rwa [crossings_unapplied unapplied] at hsame

theorem Chapter.count (h : Chapter key past s said) (hopens : ¬Opens key st)
    (taken : applied key st = some snapshot) :
    Chapter key (past ++ [st]) s
      ((crossings key st).foldl recordPeak said.1, saturatingAdd said.2 1) := by
  refine h.snoc hopens fun l hl => ?_
  have hone : [st].filterMap (applied key) = [snapshot] := by simp [taken]
  rw [hl, hone]
  exact saturatingAdd_min _

end

/-- The steps a signal speaks for: an end that the traffic did not bring about leaves out the
step that made it. -/
def covered (key : ScopeKey) (past : List TableStep) (st : TableStep) (signal : Signal) :
    List TableStep :=
  if signal == .ended && !clears key st then past else past ++ [st]

/-- Every signal of a step has a context that tells its chapter. -/
def Truthful (key : ScopeKey) (past : List TableStep) (st : TableStep) : Prop :=
  ∀ em ∈ forKey key st.output, ∃ c, em.2 = some c ∧
    Chapter key (covered key past st em.1) c.startedAt (told c)

/-- An open detection has counted its chapter so far. -/
def Counting (key : ScopeKey) (past : List TableStep) (entry : Option ScopeState) : Prop :=
  ∀ x, entry = some x → ∀ s, x.activeSince = some s → Chapter key past s (tally x)

section

variable {key : ScopeKey} {past : List TableStep} {t : StateTable}
variable {x : ScopeState} {st : TableStep}
variable {s : Nat} {policy : ValidPolicy} {snapshot : DetectionSnapshot}

theorem Quiet.counting {entry : Option ScopeState} (h : Quiet entry) :
    Counting key past entry := by
  intro x hx s hs
  rw [(h x hx).since] at hs
  cases hs

theorem counting_open (ho : Open s n x) (h : Chapter key past s (tally x)) :
    Counting key past (some x) := by
  intro y hy s' hs'
  cases hy
  rw [ho.since] at hs'
  cases hs'
  exact h

theorem forKey_step (t : StateTable) (policy : ValidPolicy) (snapshot : DetectionSnapshot)
    (key : ScopeKey) :
    forKey key (perform t (.step policy snapshot)).1 =
      (reported key (tableMachine.stepAt t (.step policy snapshot))).toList.map fun r =>
        (r.2.signal, some r.2.detection) := by
  dsimp only [perform]
  rw [forKey_map]
  by_cases hkey : snapshot.key = key
  · simp only [reported, Machine.stepAt_input, Machine.stepAt_before, if_pos hkey]
    cases (t.step policy snapshot (evaluate policy snapshot)).1.signal <;> rfl
  · simp only [reported, Machine.stepAt_input, if_neg hkey]
    rfl

theorem truthful_silent (past : List TableStep) (h : forKey key st.output = []) :
    Truthful key past st ∧ ¬Opens key st := by
  constructor
  · intro em hem
    rw [h] at hem
    cases hem
  · rintro ⟨c, hc⟩
    rw [h] at hc
    cases hc

theorem truthful_only (hone : forKey key st.output = [(kind, some c)])
    (h : Chapter key (covered key past st kind) c.startedAt (told c)) :
    Truthful key past st := by
  intro em hem
  rw [hone] at hem
  rw [List.mem_singleton.mp hem]
  exact ⟨c, rfl, h⟩

theorem outside_truthful (hop : Op.Outside op) (hshape : Shape t.entries[key]?)
    (hcount : Counting key past t.entries[key]?) :
    Truthful key past (tableMachine.stepAt t op) ∧
      Counting key (past ++ [tableMachine.stepAt t op]) (perform t op).2.entries[key]? := by
  have heffect := perform_effect t op key hshape
  have unapplied : applied key (tableMachine.stepAt t op) = none := by
    cases op with
    | step => exact hop.elim
    | manualReset | sweep | withdrawStaleSelection => rfl
  have hclears : clears key (tableMachine.stepAt t op) = false := by
    cases op with
    | step => exact hop.elim
    | manualReset | sweep | withdrawStaleSelection => rfl
  have hopens : ¬Opens key (tableMachine.stepAt t op) := by
    rintro ⟨c, hc⟩
    have hended := (outside_told hop hc).1
    cases hended
  refine ⟨fun em hem => ?_, fun y hy s hs => ?_⟩
  · obtain ⟨hended, x, hx, htold⟩ := outside_told hop hem
    change em ∈ forKey key (perform t op).1 at hem
    generalize forKey key (perform t op).1 = out at heffect hem
    cases heffect with
    | quiet | silent => cases hem
    | started | updated =>
      rw [List.mem_singleton.mp hem] at hended
      cases hended
    | @ended s n c hb ha hf hstart hseq =>
      rw [List.mem_singleton.mp hem] at htold ⊢
      obtain ⟨x', hx', ho⟩ := hb
      obtain rfl := Option.some.inj (hx.symm.trans hx')
      refine ⟨c, rfl, ?_⟩
      rw [covered, hclears, htold c rfl, hstart]
      exact hcount x hx s ho.since
  · obtain ⟨x, hx, htally⟩ := outside_tally hop hy
    have hsince : x.activeSince = some s := by
      have hout : ∀ em ∈ forKey key (perform t op).1, em.1 = .ended := fun em hem =>
        (outside_told hop hem).1
      generalize forKey key (perform t op).1 = out at heffect hout
      cases heffect with
      | quiet hb ha | ended hb ha =>
        rw [(ha y hy).since] at hs
        cases hs
      | started | updated =>
        have hended := hout _ (mem_singleton_self _)
        cases hended
      | silent hb ha =>
        obtain ⟨x', hx', ho⟩ := hb
        obtain ⟨y', hy', ho'⟩ := ha
        obtain rfl := Option.some.inj (hx.symm.trans hx')
        obtain rfl := Option.some.inj (hy.symm.trans hy')
        rw [ho.since, ← ho'.since, hs]
    rw [htally]
    exact (hcount x hx s hsince).pass hopens unapplied

section Advanced

variable {now : Nat} {wall : Int} {evaluation : Evaluation}
variable (taken : applied key st = some snapshot)
variable (hcross : crossings key st = evaluation.matched)
variable (hreported : reported key st =
  (x.advance policy.1 now wall evaluation).outcome.signal.map (now, ·))
variable (hout : forKey key st.output = (reported key st).toList.map fun r =>
  (r.2.signal, some r.2.detection))
include taken hcross hreported hout

theorem advanced_open (ho : Open s n x) (hchapter : Chapter key past s (tally x)) :
    Truthful key past st ∧
      Counting key (past ++ [st]) (some (x.advance policy.1 now wall evaluation).entry) := by
  have ht := policy.2.trigger_pos
  have heffect := advance_open ho ht now wall evaluation
  -- a signal is the step's only emission
  have honly {r : SignalRecord}
      (hr : (x.advance policy.1 now wall evaluation).outcome.signal = some r) :
      reported key st = some (now, r) ∧ forKey key st.output = [(r.signal, some r.detection)] := by
    have hrep : reported key st = some (now, r) := by
      rw [hreported, hr]
      rfl
    exact ⟨hrep, by rw [hout, hrep]; rfl⟩
  cases hdiff : selectionDiffers x policy.1 with
  | true =>
    obtain ⟨r, hr, hended, hreason, htold⟩ := advance_swaps ho ht hdiff now wall evaluation
    obtain ⟨hrep, hone⟩ := honly hr
    rcases heffect with ⟨-, hnone⟩ | ⟨-, r', hr', hupdated, -⟩ | ⟨hc, ⟨r', hr', -, hstart, -⟩, -⟩
    · rw [hr] at hnone
      cases hnone
    · obtain rfl := Option.some.inj (hr.symm.trans hr')
      rw [hended] at hupdated
      cases hupdated
    · obtain rfl := Option.some.inj (hr.symm.trans hr')
      have hclears : clears key st = false := by
        rw [clears, hrep, Option.any_some, hreason]
        rfl
      refine ⟨truthful_only hone ?_, Quiet.counting (quiet_some hc)⟩
      rw [covered, hclears, hended, htold, hstart]
      exact hchapter
  | false =>
    obtain ⟨htally, hsaid⟩ := advance_counts ho hdiff now wall evaluation
    have hnext (hopens : ¬Opens key st) :
        Chapter key (past ++ [st]) s (counted x evaluation.matched) := by
      have hcounted := hchapter.count hopens taken
      rwa [hcross] at hcounted
    rcases heffect with ⟨ho', hnone⟩ | ⟨ho', r, hr, hkind, hstart, -⟩ |
      ⟨hc, ⟨r, hr, hkind, hstart, -⟩, -⟩
    · have hsilent : forKey key st.output = [] := by
        rw [hout, hreported, hnone]
        rfl
      obtain ⟨htruthful, hopens⟩ := truthful_silent past hsilent
      refine ⟨htruthful, counting_open ho' ?_⟩
      rw [htally]
      exact hnext hopens
    · obtain ⟨hrep, hone⟩ := honly hr
      have hopens : ¬Opens key st := by
        rintro ⟨c, hc⟩
        rw [hone, mem_singleton, hkind] at hc
        cases hc
      refine ⟨truthful_only hone ?_, counting_open ho' (by rw [htally]; exact hnext hopens)⟩
      rw [covered, hkind, (hsaid r hr).1, hstart]
      exact hnext hopens
    · obtain ⟨hrep, hone⟩ := honly hr
      have hopens : ¬Opens key st := by
        rintro ⟨c, hc'⟩
        rw [hone, mem_singleton, hkind] at hc'
        cases hc'
      have hclears : clears key st = true := by
        rw [clears, hrep, Option.any_some, (hsaid r hr).2 hkind]
        rfl
      refine ⟨truthful_only hone ?_, Quiet.counting (quiet_some hc)⟩
      rw [covered, hclears, Bool.not_true, Bool.and_false, (hsaid r hr).1, hstart]
      exact hnext hopens

theorem advanced_closed (observed : snapshot.observedAt = now) (hc : Closed x) :
    Truthful key past st ∧
      Counting key (past ++ [st]) (some (x.advance policy.1 now wall evaluation).entry) := by
  have ht := policy.2.trigger_pos
  rcases advance_closed hc ht now wall evaluation with
    ⟨hq, hnone, -⟩ | ⟨-, -, -, ho, r, hr, hkind, hstart, -⟩
  · have hsilent : forKey key st.output = [] := by
      rw [hout, hreported, hnone]
      rfl
    exact ⟨(truthful_silent past hsilent).1, Quiet.counting (quiet_some hq)⟩
  · obtain ⟨htold, htally⟩ := advance_opens hc ht now wall evaluation hr
    have hone : forKey key st.output = [(.started, some r.detection)] := by
      rw [hout, hreported, hr, ← hkind]
      rfl
    have hopens : Opens key st := ⟨some r.detection, by rw [hone]; exact mem_singleton_self _⟩
    have hbegin : Chapter key (past ++ [st]) snapshot.observedAt _ := Chapter.begin hopens taken
    rw [hcross, observed] at hbegin
    refine ⟨truthful_only hone ?_, counting_open ho (by rw [htally]; exact hbegin)⟩
    rw [htold, hstart]
    exact hbegin

end Advanced

theorem perform_truthful (op : Op) (hshape : Shape t.entries[key]?)
    (hcount : Counting key past t.entries[key]?) :
    Truthful key past (tableMachine.stepAt t op) ∧
      Counting key (past ++ [tableMachine.stepAt t op]) (perform t op).2.entries[key]? := by
  cases op with
  | manualReset | sweep | withdrawStaleSelection => exact outside_truthful trivial hshape hcount
  | step policy snapshot =>
    have hout := forKey_step t policy snapshot key
    have hunder : Op.Under policy key (.step policy snapshot) := fun _ => rfl
    cases step_scope t hunder with
    | kept same unapplied silent =>
      have hsilent : forKey key (tableMachine.stepAt t (.step policy snapshot)).output = [] := by
        refine hout.trans ?_
        rw [silent]
        rfl
      obtain ⟨htruthful, hopens⟩ := truthful_silent past hsilent
      refine ⟨htruthful, fun x hx s hs => ?_⟩
      exact (hcount x (same.symm.trans hx) s hs).pass hopens unapplied
    | dropped x held gone unapplied silent why =>
      rcases why with ⟨_, _, hinput, -⟩ | ⟨_, _, _, hinput, -⟩ <;> cases hinput
    | advanced snapshot' x input own entry after taken told =>
      cases input
      have hcross : crossings key (tableMachine.stepAt t (.step policy snapshot)) =
          (evaluate policy.1 snapshot).matched := by
        simp only [crossings, Machine.stepAt_input, taken, Option.isSome_some, if_true]
      have hafter : (perform t (.step policy snapshot)).2.entries[key]? = _ := after
      rw [hafter]
      rcases entry with ⟨held, -⟩ | ⟨-, rfl⟩
      · change t.entries[key]? = some x at held
        rw [held] at hshape hcount
        rcases hshape.cases with hc | ⟨s, n, ho⟩
        · exact advanced_closed taken hcross told hout rfl hc
        · exact advanced_open taken hcross told hout ho (hcount x rfl s ho.since)
      · exact advanced_closed taken hcross told hout rfl (new_closed _ _ _)

end

/-- The truth of every step so far, and of what stands counted. -/
structure Recorded (key : ScopeKey) (past : List TableStep) (t : StateTable) : Prop where
  shape : Shape t.entries[key]?
  counting : Counting key past t.entries[key]?
  truthful : ∀ pre st post, past = pre ++ st :: post → Truthful key pre st

theorem run_recorded (config : StateTableConfig) (ops : List Op) (key : ScopeKey) :
    Recorded key (tableMachine.trace (.new config) ops) (tableMachine.run (.new config) ops) := by
  refine tableMachine.history (G := fun _ => True) ?_ ?_ ops fun _ _ => trivial
  · have hnone : (StateTable.new config).entries[key]? = none := by simp [StateTable.new]
    refine ⟨by rw [hnone]; exact Shape.none, ?_, fun pre st post h => ?_⟩
    · rw [hnone]
      exact Quiet.counting fun _ h => by cases h
    · simp at h
  · intro past t op h _
    obtain ⟨htruthful, hcounting⟩ := perform_truthful op h.shape h.counting
    exact ⟨(perform_effect t op key h.shape).shape, hcounting, split_snoc h.truthful htruthful⟩

/-- In every run the context of every signal tells its detection's history: the opening step is
the last one up to the signal that opened a detection of the scope, the peaks are those of the
snapshots applied from it on, and the number is that of the snapshots applied after it, for as
long as the counter can hold it. -/
theorem contexts_tell_history (config : StateTableConfig) (ops : List Op) (key : ScopeKey)
    (past rest : List TableStep) (st : TableStep)
    (split : tableMachine.trace (.new config) ops = past ++ st :: rest) (em : Emission)
    (hem : em ∈ forKey key st.output) :
    ∃ c, em.2 = some c ∧ ∃ (pre : List TableStep) (opening : TableStep) (later : List TableStep),
      covered key past st em.1 = pre ++ opening :: later ∧
      Opens key opening ∧ (∀ st' ∈ later, ¬Opens key st') ∧
      (∃ s, applied key opening = some s ∧ s.observedAt = c.startedAt) ∧
      Peaks ((opening :: later).flatMap (crossings key)) c.peak ∧
      c.snapshotsInDetection = min (later.filterMap (applied key)).length u64Max := by
  obtain ⟨c, hc, hchapter⟩ := (run_recorded config ops key).truthful past st rest split em hem
  exact ⟨c, hc, hchapter.history⟩

/-- What the flood's first update says. -/
def floodContext : DetectionContext where
  startedAt := 1
  startedWall := 1
  sequence := 1
  peak := [.new .bps 10 10]
  snapshotsInDetection := 1

/-- The flood's step at an instant. -/
def floodStep (n : Nat) : TableStep :=
  tableMachine.stepAt (tableMachine.run (.new {}) (floodOps n))
    (.step samplePolicyAlert (sampleSnapshot n 10))

theorem flood_trace (n : Nat) : tableMachine.trace (.new {}) (floodOps (n + 1)) =
    tableMachine.trace (.new {}) (floodOps n) ++ [floodStep n] := by
  rw [floodOps_succ]
  exact tableMachine.trace_snoc _ _ _

theorem contexts_tell_history_flood : ∃ (pre : List TableStep) (opening : TableStep)
    (later : List TableStep),
    tableMachine.trace (.new {}) (floodOps 3) = pre ++ opening :: later ∧
    Opens sampleKey opening ∧
    Peaks ((opening :: later).flatMap (crossings sampleKey)) floodContext.peak ∧
    1 = min (later.filterMap (applied sampleKey)).length u64Max := by
  have hem : (Signal.updated, some floodContext) ∈ forKey sampleKey (floodStep 2).output := by
    decide +kernel
  obtain ⟨c, hc, pre, opening, later, hcovered, hopens, -, -, hpeaks, hcount⟩ :=
    contexts_tell_history {} (floodOps 3) sampleKey _ [] _ (flood_trace 2) _ hem
  obtain rfl := Option.some.inj hc
  exact ⟨pre, opening, later, (flood_trace 2).trans hcovered, hopens, hpeaks, hcount⟩

theorem flood_updates (n : Nat) :
    (forKey sampleKey (floodStep (n + 2)).output).map Prod.fst = [.updated] := by
  have hlonger := (flood_reports (n + 1)).2
  rw [flood_trace, emitted_snoc, map_append, (flood_reports n).2, replicate_succ',
    ← cons_append] at hlonger
  exact append_cancel_left hlonger

theorem flood_chapter (n : Nat) : ∃ later,
    tableMachine.trace (.new {}) (floodOps (n + 2)) =
      tableMachine.trace (.new {}) (floodOps 1) ++ floodStep 1 :: later ∧
    (later.filterMap (applied sampleKey)).length = n ∧ ∀ st ∈ later, ¬Opens sampleKey st := by
  induction n with
  | zero => exact ⟨[], flood_trace 1, rfl, by simp⟩
  | succ n ih =>
    obtain ⟨later, hsplit, hcount, hlater⟩ := ih
    have hupdates := flood_updates n
    obtain ⟨s, hs⟩ : ∃ s, applied sampleKey (floodStep (n + 2)) = some s := by
      have hout : forKey sampleKey (floodStep (n + 2)).output = _ := forKey_step _ _ _ sampleKey
      rw [hout] at hupdates
      cases hr : reported sampleKey (floodStep (n + 2)) with
      | none =>
        rw [← floodStep, hr] at hupdates
        cases hupdates
      | some r =>
        have hunder : Op.Under samplePolicyAlert sampleKey
            (.step samplePolicyAlert (sampleSnapshot (n + 2) 10)) := fun _ => rfl
        obtain ⟨s, hs, -⟩ := applied_of_reported hunder hr
        exact ⟨s, hs⟩
    refine ⟨later ++ [floodStep (n + 2)], ?_, ?_, ?_⟩
    · rw [flood_trace, hsplit, append_assoc, cons_append]
    · have hone : [floodStep (n + 2)].filterMap (applied sampleKey) = [s] := by simp [hs]
      rw [filterMap_append, length_append, hcount, hone, length_singleton]
    · intro st' hst'
      rcases List.mem_append.mp hst' with hst' | hst'
      · exact hlater st' hst'
      · rw [List.mem_singleton.mp hst']
        rintro ⟨c, hc⟩
        have hkind := mem_map_of_mem (f := Prod.fst) hc
        rw [hupdates, mem_singleton] at hkind
        cases hkind

/-- After `2 ^ 64` snapshots the number in an update's context stands still. -/
theorem snapshots_stand_still : ∃ (past : List TableStep) (st : TableStep) (c : DetectionContext)
    (pre : List TableStep) (opening : TableStep) (later : List TableStep),
    tableMachine.trace (.new {}) (floodOps (u64Max + 1 + 2)) = past ++ [st] ∧
    (.updated, some c) ∈ forKey sampleKey st.output ∧
    past ++ [st] = pre ++ opening :: later ∧ Opens sampleKey opening ∧
    (∀ st' ∈ later, ¬Opens sampleKey st') ∧
    (later.filterMap (applied sampleKey)).length = u64Max + 1 ∧
    c.snapshotsInDetection = u64Max := by
  have hsplit := flood_trace (u64Max + 2)
  obtain ⟨⟨signal, context⟩, hem, hkind⟩ :
      ∃ em ∈ forKey sampleKey (floodStep (u64Max + 2)).output, em.1 = Signal.updated := by
    rw [← mem_map, flood_updates]
    exact mem_singleton_self _
  obtain rfl : signal = .updated := hkind
  obtain ⟨c, rfl, hchapter⟩ := (run_recorded {} (floodOps (u64Max + 1 + 2)) sampleKey).truthful
    _ _ [] hsplit _ hem
  obtain ⟨pre, opening, later, hcovered, hopens, hlater, -, -, hcount⟩ := hchapter.history
  obtain ⟨later', hflood, hlength, hlater'⟩ := flood_chapter (u64Max + 1)
  have hfirst : Opens sampleKey (floodStep 1) :=
    ⟨some { startedAt := 1, startedWall := 1, sequence := 0, peak := [.new .bps 10 10],
            snapshotsInDetection := 0 }, by decide +kernel⟩
  have hsame : later = later' := split_at_last (hcovered.symm.trans (hsplit.symm.trans hflood))
    hopens hfirst hlater hlater'
  rw [hsame, hlength, Nat.min_eq_right (Nat.le_succ _)] at hcount
  exact ⟨_, _, c, pre, opening, later, hsplit, hem, hcovered, hopens, hlater,
    by rw [hsame, hlength], hcount⟩

end Tidegard.Detector.Proofs.Magnitude
