import Tidegard.Detector.Proofs.Clockwork

namespace Tidegard.Detector.Proofs.Timers

open List Runs Common Input Policy Evaluate State Detector.Lifecycle Advance Proofs.Lifecycle
open Independence Clockwork

variable {policy : ValidPolicy} {key : ScopeKey} {past : List TableStep} {x : ScopeState}
variable {st : TableStep}

/-- Every snapshot applied to the scope since the one at `t₀` met `P`. -/
def Since (key : ScopeKey) (P : DetectionSnapshot → Prop) (t₀ : Nat)
    (past : List TableStep) : Prop :=
  ∃ pre first mid s₀, past = pre ++ first :: mid ∧ applied key first = some s₀ ∧
    s₀.observedAt = t₀ ∧ ∀ st ∈ first :: mid, ∀ s, applied key st = some s → P s

section

variable {key : ScopeKey} {past : List TableStep} {st : TableStep}
variable {t₀ : Nat}

theorem Since.begin (taken : applied key st = some s) (hP : P s) :
    Since key P s.observedAt (past ++ [st]) := by
  refine ⟨past, st, [], s, rfl, taken, rfl, ?_⟩
  intro st' hst' s' hs'
  rw [List.mem_singleton.mp hst', taken] at hs'
  rwa [← Option.some.inj hs']

theorem Since.snoc (h : Since key P t₀ past) (hP : ∀ s, applied key st = some s → P s) :
    Since key P t₀ (past ++ [st]) := by
  obtain ⟨pre, first, mid, s₀, hsplit, htaken, hat, hall⟩ := h
  refine ⟨pre, first, mid ++ [st], s₀, by rw [hsplit]; simp, htaken, hat, ?_⟩
  intro st' hst' s hs
  rw [← cons_append, mem_append, mem_singleton] at hst'
  rcases hst' with hst' | rfl
  · exact hall st' hst' s hs
  · exact hP s hs

theorem Since.taken (h : Since key P t₀ past) (taken : applied key st = some s) (hP : P s) :
    Since key P t₀ (past ++ [st]) := by
  refine h.snoc fun s' hs' => ?_
  rw [taken] at hs'
  rwa [← Option.some.inj hs']

theorem Since.unapplied (h : Since key P t₀ past) (hnone : applied key st = none) :
    Since key P t₀ (past ++ [st]) := by
  refine h.snoc fun s hs => ?_
  rw [hnone] at hs
  cases hs

end

def reports (key : ScopeKey) (past : List TableStep) : List (Nat × SignalRecord) :=
  past.filterMap (reported key)

theorem reports_snoc (key : ScopeKey) (past : List TableStep) (st : TableStep) :
    reports key (past ++ [st]) = reports key past ++ (reported key st).toList := by
  simp only [reports, filterMap_append, filterMap_cons, filterMap_nil]
  cases reported key st <;> rfl

def Over (policy : ValidPolicy) (s : DetectionSnapshot) : Prop :=
  (evaluate policy.1 s).isOverThreshold = true

def Clear (policy : ValidPolicy) (s : DetectionSnapshot) : Prop :=
  (evaluate policy.1 s).allBelowClear = true

/-- What running timers say about the snapshots applied so far. -/
structure Wound (policy : ValidPolicy) (key : ScopeKey) (past : List TableStep)
    (t : Timers) : Prop where
  pending : t.state = .pendingTrigger → Since key (Over policy) t.enteredAt past
  clearing : t.state = .pendingClear → Since key (Clear policy) t.enteredAt past ∧
    ∀ s, t.activeSince = some s → s + policy.1.holdDown ≤ t.enteredAt
  paced : t.state.isOpen = true → ∃ last r, t.lastEventAt = some last ∧
    (reports key past).getLast? = some (last, r)

/-- What a report says about the snapshots applied up to and with the one that raised it. -/
structure Justified (policy : ValidPolicy) (key : ScopeKey) (past : List TableStep)
    (st : TableStep) (t : Nat) (n : Notice) : Prop where
  started : n.signal = .started → ∃ t₀, t₀ + policy.1.triggerFor ≤ t ∧
    Since key (Over policy) t₀ (past ++ [st])
  cleared : n.signal = .ended → n.reason = .clearSustained → ∃ t₀, t₀ + policy.1.clearFor ≤ t ∧
    n.startedAt + policy.1.holdDown ≤ t₀ ∧ Since key (Clear policy) t₀ (past ++ [st])
  updated : n.signal = .updated → ∃ last r, (reports key past).getLast? = some (last, r) ∧
    last + policy.1.eventUpdateInterval ≤ t

/-- The step reported exactly this notice, at `now`. -/
def Told (key : ScopeKey) (st : TableStep) (now : Nat) (n : Option Notice) : Prop :=
  (reported key st).map (fun r => (r.1, notice r.2)) = n.map (now, ·)

section

variable {policy : ValidPolicy} {key : ScopeKey} {past : List TableStep} {st : TableStep}
variable {now : Nat} {t : Timers}

theorem Told.silent (h : Told key st now none) : reports key (past ++ [st]) = reports key past := by
  have hnone : reported key st = none := Option.map_eq_none_iff.mp h
  rw [reports_snoc, hnone, Option.toList_none, append_nil]

theorem Told.last (h : Told key st now (some n)) (past : List TableStep) :
    ∃ r, (reports key (past ++ [st])).getLast? = some (now, r) := by
  obtain ⟨⟨at_, r⟩, hr, heq⟩ := Option.map_eq_some_iff.mp h
  have hat : at_ = now := (Prod.mk.inj heq).1
  rw [reports_snoc, hr, Option.toList_some, List.getLast?_concat, hat]
  exact ⟨r, rfl⟩

/-- A step of the timers that keeps them wound, and whose report is justified. -/
def Winds (policy : ValidPolicy) (key : ScopeKey) (past : List TableStep) (st : TableStep)
    (now : Nat) (step : Option Notice × Timers) : Prop :=
  Told key st now step.1 → Wound policy key (past ++ [st]) step.2 ∧
    ∀ n, step.1 = some n → Justified policy key past st now n

theorem Winds.silent (h : Wound policy key (past ++ [st]) t) :
    Winds policy key past st now (none, t) :=
  fun _ => ⟨h, nofun⟩

theorem Wound.rest (hs : t.state = .idle ∨ t.state = .cooldown) : Wound policy key past t := by
  rcases hs with hs | hs <;> constructor <;> intro hstate <;> rw [hs] at hstate <;> cases hstate

theorem Wound.crossed (hs : t.state = .pendingTrigger)
    (since : Since key (Over policy) t.enteredAt past) : Wound policy key past t := by
  refine ⟨fun _ => since, ?_, ?_⟩ <;> intro hstate <;> rw [hs] at hstate <;> cases hstate

theorem wound_pace (since : t.activeSince.isSome = true)
    (hopen : t.state.isOpen = true)
    (clearing : t.state = .pendingClear → Since key (Clear policy) t.enteredAt (past ++ [st]) ∧
      ∀ s, t.activeSince = some s → s + policy.1.holdDown ≤ t.enteredAt)
    (paced : ∃ last r, t.lastEventAt = some last ∧ (reports key past).getLast? = some (last, r)) :
    Winds policy key past st now (t.pace policy.1 now isOver) := by
  have hpending : t.state ≠ .pendingTrigger := fun h => by
    rw [h] at hopen
    cases hopen
  obtain ⟨last, r, hlast, hreport⟩ := paced
  obtain ⟨s, hs⟩ := Option.isSome_iff_exists.mp since
  intro told
  rcases Timers.pace_cases policy.1 now isOver t with h | ⟨hdue, h⟩
  · rw [h] at told ⊢
    refine ⟨⟨fun hp => absurd hp hpending, clearing, fun _ => ⟨last, r, hlast, ?_⟩⟩, nofun⟩
    rw [told.silent]
    exact hreport
  · rw [h] at told ⊢
    rw [hs] at clearing
    rw [hs, Option.map_some] at told ⊢
    obtain ⟨r', hr'⟩ := told.last past
    refine ⟨⟨fun hp => absurd hp hpending, clearing, fun _ => ⟨now, r', rfl, hr'⟩⟩, ?_⟩
    rintro n ⟨⟩
    refine ⟨nofun, nofun, fun _ => ⟨last, r, hreport, ?_⟩⟩
    have hpos := policy.2.checked.interval_pos
    have hlong := hdue last hlast
    omega

theorem wound_advance (h : Wound policy key past t) {snapshot : DetectionSnapshot}
    (hopen : t.activeSince.isSome = t.state.isOpen)
    (later : ∀ s, t.activeSince = some s → s ≤ snapshot.observedAt)
    (taken : applied key st = some snapshot) :
    Winds policy key past st snapshot.observedAt (t.advance policy.1 snapshot.observedAt
      (evaluate policy.1 snapshot).isOverThreshold (evaluate policy.1 snapshot).allBelowClear) := by
  have htrigger := policy.2.trigger_pos
  have hclearPos := policy.2.clear_pos
  unfold Timers.advance
  cases hs : t.state with
  | idle =>
    apply Winds.silent
    split
    · rename_i hover
      exact .crossed rfl (.begin taken hover)
    · exact .rest (Or.inl hs)
  | cooldown =>
    dsimp only
    split
    · apply Winds.silent
      cases hover : (evaluate policy.1 snapshot).isOverThreshold with
      | false => exact .rest (Or.inl rfl)
      | true => exact .crossed rfl (.begin taken hover)
    · exact .silent (.rest (Or.inr hs))
  | pendingTrigger =>
    have hsince := h.pending hs
    dsimp only
    split
    · rename_i hover
      split
      · rename_i hlong
        intro told
        obtain ⟨r, hr⟩ := told.last past
        refine ⟨⟨nofun, nofun, fun _ => ⟨_, r, rfl, hr⟩⟩, ?_⟩
        rintro n ⟨⟩
        exact ⟨fun _ => ⟨t.enteredAt, by omega, hsince.taken taken hover⟩, nofun, nofun⟩
      · exact .silent (.crossed hs (hsince.taken taken hover))
    · exact .silent (.rest (Or.inl rfl))
  | active =>
    have hactive : t.state.isOpen = true := by rw [hs]; rfl
    have hpaced := h.paced hactive
    rw [hactive] at hopen
    dsimp only
    split
    · rename_i hclear
      rw [Bool.and_eq_true] at hclear
      refine wound_pace hopen rfl (fun _ => ⟨.begin taken hclear.1, fun s hsince => ?_⟩) hpaced
      have hheld := hclear.2
      have hsince' : t.activeSince = some s := hsince
      have hlater := later s hsince'
      simp only [hsince', Option.all_some, decide_eq_true_eq] at hheld
      change s + policy.1.holdDown ≤ snapshot.observedAt
      omega
    · refine wound_pace hopen hactive (fun hstate => ?_) hpaced
      rw [hs] at hstate
      cases hstate
  | pendingClear =>
    have hactive : t.state.isOpen = true := by rw [hs]; rfl
    have hpaced := h.paced hactive
    obtain ⟨hsince, hheld⟩ := h.clearing hs
    rw [hactive] at hopen
    dsimp only
    split
    · rename_i hclear
      split
      · rename_i hlong
        intro told
        refine ⟨.rest ?_, fun n hn => ?_⟩
        · by_cases hzero : policy.1.cooldown = 0
          · exact Or.inl (if_pos hzero)
          · exact Or.inr (if_neg hzero)
        · obtain ⟨s, hactiveSince, rfl⟩ := Option.map_eq_some_iff.mp hn
          refine ⟨nofun, fun _ _ => ⟨t.enteredAt, by omega, hheld s hactiveSince, ?_⟩, nofun⟩
          exact hsince.taken taken hclear
      · exact wound_pace hopen hactive (fun _ => ⟨hsince.taken taken hclear, hheld⟩) hpaced
    · exact wound_pace hopen rfl nofun hpaced

end

/-- An entry whose timers are wound, under its policy. -/
structure Timed (policy : ValidPolicy) (key : ScopeKey) (past : List TableStep)
    (x : ScopeState) : Prop where
  shape : Shape (some x)
  filed : selectionDiffers x policy.1 = false
  started : ∀ s, x.activeSince = some s → ∃ last, x.lastSnapshotAt = some last ∧ s ≤ last
  wound : Wound policy key past (timers x)

theorem Timed.new (policy : ValidPolicy) (key : ScopeKey) (past : List TableStep) (now : Nat) :
    Timed policy key past (ScopeState.new key policy.1 now) where
  shape := Or.inl (quiet_some (new_closed key policy.1 now))
  filed := by simp [selectionDiffers, ScopeState.new]
  started := nofun
  wound := .rest (Or.inl rfl)

theorem Timed.unapplied (h : Timed policy key past x) (hnone : applied key st = none)
    (silent : reported key st = none) :
    Timed policy key (past ++ [st]) x where
  shape := h.shape
  filed := h.filed
  started := h.started
  wound := by
    have hreports : reports key (past ++ [st]) = reports key past := by
      rw [reports_snoc, silent, Option.toList_none, append_nil]
    refine ⟨fun hs => (h.wound.pending hs).unapplied hnone, fun hs => ?_, fun hs => ?_⟩
    · exact ⟨(h.wound.clearing hs).1.unapplied hnone, (h.wound.clearing hs).2⟩
    · rw [hreports]
      exact h.wound.paced hs

theorem shape_since (h : Shape (some x)) : x.activeSince.isSome = x.state.isOpen := by
  rcases h.cases with hc | ⟨s, n, ho⟩
  · rw [hc.since, hc.state]
    rfl
  · rw [ho.since, ho.state]
    rfl

theorem advance_started (hx : Shape (some x)) {now : Nat}
    (later : ∀ s, x.activeSince = some s → s ≤ now) (wall : Int) (evaluation : Evaluation)
    (hs : (x.advance policy.1 now wall evaluation).entry.activeSince = some s) : s ≤ now := by
  have ht := policy.2.trigger_pos
  rcases hx.cases with hc | ⟨a, n, ho⟩
  · rcases advance_closed hc ht now wall evaluation with ⟨hq, -⟩ | ⟨-, -, -, ho, -⟩
    · rw [hq.since] at hs
      cases hs
    · rw [ho.since] at hs
      exact (Option.some.inj hs).ge
  · have hle := later a ho.since
    rcases advance_open ho ht now wall evaluation with ⟨hq, -⟩ | ⟨hq, -⟩ | ⟨hq, -⟩
    · rw [hq.since] at hs
      exact (Option.some.inj hs) ▸ hle
    · rw [hq.since] at hs
      exact (Option.some.inj hs) ▸ hle
    · rw [hq.since] at hs
      cases hs

theorem Timed.advance (h : Timed policy key past x) {snapshot : DetectionSnapshot}
    (later : ∀ last, x.lastSnapshotAt = some last → last < snapshot.observedAt)
    (taken : applied key st = some snapshot)
    (told : reported key st = (x.advance policy.1 snapshot.observedAt snapshot.observedWall
      (evaluate policy.1 snapshot)).outcome.signal.map (snapshot.observedAt, ·)) :
    Timed policy key (past ++ [st]) (x.advance policy.1 snapshot.observedAt snapshot.observedWall
        (evaluate policy.1 snapshot)).entry ∧
      ∀ t r, reported key st = some (t, r) → Justified policy key past st t (notice r) := by
  have htrigger : policy.1.triggerFor ≠ 0 := policy.2.trigger_pos.ne'
  have hclear : policy.1.clearFor ≠ 0 := policy.2.clear_pos.ne'
  have hlater : ∀ s, x.activeSince = some s → s ≤ snapshot.observedAt := by
    intro s hs
    obtain ⟨last, hlast, hle⟩ := h.started s hs
    exact hle.trans (later last hlast).le
  have heq := advance_timers h.shape h.filed htrigger hclear snapshot.observedAt
    snapshot.observedWall (evaluate policy.1 snapshot)
  have hsignal := congrArg Prod.fst heq
  have htimers := congrArg Prod.snd heq
  dsimp only at hsignal htimers
  have htold : Told key st snapshot.observedAt ((timers x).advance policy.1 snapshot.observedAt
      (evaluate policy.1 snapshot).isOverThreshold
      (evaluate policy.1 snapshot).allBelowClear).1 := by
    rw [Told, told, ← hsignal, Option.map_map, Option.map_map]
    rfl
  obtain ⟨hwound, hjustified⟩ := wound_advance h.wound (shape_since h.shape) hlater taken htold
  refine ⟨⟨(advance_effect h.shape policy _ _ _).shape, advance_filed _ _ _ _ _, ?_,
    htimers ▸ hwound⟩, ?_⟩
  · intro s hs
    exact ⟨_, advance_lastSnapshotAt _ _ _ _ _, advance_started h.shape hlater _ _ hs⟩
  · intro t r hr
    rw [told] at hr
    obtain ⟨r', hr', hpair⟩ := Option.map_eq_some_iff.mp hr
    cases hpair
    apply hjustified
    rw [← hsignal, hr']
    rfl

/-- Every entry of the scope is timed, and every signal so far was justified when it was sent. -/
structure Kept (policy : ValidPolicy) (key : ScopeKey) (past : List TableStep)
    (t : StateTable) : Prop where
  timed : ∀ x, t.entries[key]? = some x → Timed policy key past x
  justified : ∀ pre st post, past = pre ++ st :: post → ∀ at_ r, reported key st = some (at_, r) →
    Justified policy key pre st at_ (notice r)

theorem run_timed (config : StateTableConfig) (policy : ValidPolicy) (key : ScopeKey)
    (ops : List Op) (under : ∀ op ∈ ops, Op.Under policy key op) :
    Kept policy key (tableMachine.trace (.new config) ops)
      (tableMachine.run (.new config) ops) := by
  refine tableMachine.history (G := fun st => Op.Under policy key st.input) ?_ ?_ ops ?_
  · refine ⟨fun x hx => ?_, fun pre st post h => ?_⟩
    · simp [StateTable.new] at hx
    · simp at h
  · intro past t op h hunder
    -- a step that does not touch the scope reports nothing for it
    have hsilent {st : TableStep} (silent : reported key st = none) :
        ∀ pre st' post, past ++ [st] = pre ++ st' :: post →
          ∀ at_ r, reported key st' = some (at_, r) → Justified policy key pre st' at_ (notice r) :=
      split_snoc h.justified fun at_ r hr => by
        rw [silent] at hr
        cases hr
    cases scope_step t hunder with
    | kept same unapplied silent =>
      refine ⟨fun x hx => (h.timed x (same.symm.trans hx)).unapplied unapplied silent, ?_⟩
      exact hsilent silent
    | dropped x held gone unapplied silent why =>
      refine ⟨fun y hy => ?_, hsilent silent⟩
      have hnone := gone.symm.trans hy
      cases hnone
    | advanced snapshot x input own entry after taken told =>
      obtain ⟨htimed, hlater⟩ : Timed policy key past x ∧
          ∀ last, x.lastSnapshotAt = some last → last < snapshot.observedAt := by
        rcases entry with ⟨held, hpass⟩ | ⟨-, rfl⟩
        · exact ⟨h.timed x held, fun last hlast => refuses_none hlast hpass⟩
        · exact ⟨Timed.new policy key past _, (by intros; contradiction)⟩
      obtain ⟨hnext, hjustified⟩ := htimed.advance hlater taken told
      refine ⟨fun y hy => ?_, split_snoc h.justified hjustified⟩
      have hy' := Option.some.inj (after.symm.trans hy)
      rw [← hy']
      exact hnext
  · intro st hst
    have hin : st.input ∈ ops := by
      rw [← tableMachine.map_input_trace (.new config) ops]
      exact mem_map_of_mem hst
    exact under _ hin

theorem applied_of_reported (under : Op.Under policy key op)
    (told : reported key (tableMachine.stepAt t op) = some (at_, r)) :
    ∃ s, applied key (tableMachine.stepAt t op) = some s ∧ s.observedAt = at_ := by
  cases scope_step t under with
  | kept _ _ silent | dropped _ _ _ _ silent =>
    rw [silent] at told
    cases told
  | advanced snapshot x _ _ _ _ taken hr =>
    rw [hr] at told
    obtain ⟨r', -, hpair⟩ := Option.map_eq_some_iff.mp told
    exact ⟨snapshot, taken, congrArg Prod.fst hpair⟩

/-- The instants of the snapshots applied to the scope increase from one to the next. -/
def Increasing (key : ScopeKey) (steps : List TableStep) : Prop :=
  ((steps.filterMap (applied key)).map DetectionSnapshot.observedAt).Pairwise (· < ·)

theorem Increasing.before (h : Increasing key (steps ++ more)) (ha : a ∈ steps) (hb : b ∈ more)
    (hs : applied key a = some s) (hs' : applied key b = some s') :
    s.observedAt < s'.observedAt := by
  rw [Increasing, filterMap_append, map_append, pairwise_append] at h
  exact h.2.2 _ (mem_map_of_mem (List.mem_filterMap.mpr ⟨a, ha, hs⟩))
    _ (mem_map_of_mem (List.mem_filterMap.mpr ⟨b, hb, hs'⟩))

theorem Since.within (h : Since key P t₀ (past ++ [st])) {last : DetectionSnapshot}
    (taken : applied key st = some last) (increasing : Increasing key (past ++ st :: rest)) :
    ∀ st' ∈ past ++ st :: rest, ∀ s, applied key st' = some s → t₀ ≤ s.observedAt →
      s.observedAt ≤ last.observedAt → P s := by
  obtain ⟨pre, first, mid, s₀, hsplit, hfirst, hat, hall⟩ := h
  intro st' hst' s hs hfrom hto
  have hjoin : past ++ st :: rest = (past ++ [st]) ++ rest := by simp
  rw [hjoin] at increasing hst'
  rcases List.mem_append.mp hst' with hst' | hst'
  · rw [hsplit] at increasing hst'
    rcases List.mem_append.mp hst' with hpre | hmid
    · rw [append_assoc] at increasing
      have hlt := increasing.before hpre (by simp) hs hfirst
      omega
    · exact hall st' hmid s hs
  · have hlt := increasing.before (by simp) hst' taken hs
    omega

/-- In every run that judges a scope by one policy: a detection starts only after snapshots over
threshold for the trigger time, and clears only after clear ones for the clear time, the first of
them past the hold-down; and an update comes an interval after the scope's previous event. The
snapshots meant are those applied from one position of the run on; where the applied instants
increase they are all those applied in the interval. -/
theorem timers_sound (config : StateTableConfig) (policy : ValidPolicy) (key : ScopeKey)
    (ops : List Op) (under : ∀ op ∈ ops, Op.Under policy key op) (past rest : List TableStep)
    (st : TableStep) (split : tableMachine.trace (.new config) ops = past ++ st :: rest)
    (t : Nat) (r : SignalRecord) (told : reported key st = some (t, r)) :
    (r.signal = .started → ∃ t₀, t₀ + policy.1.triggerFor ≤ t ∧
      Since key (Over policy) t₀ (past ++ [st]) ∧
      (Increasing key (past ++ st :: rest) → ∀ st' ∈ past ++ st :: rest, ∀ s,
        applied key st' = some s → t₀ ≤ s.observedAt → s.observedAt ≤ t → Over policy s)) ∧
    (r.signal = .ended → r.transition.reason = .clearSustained →
      ∃ t₀, t₀ + policy.1.clearFor ≤ t ∧ r.detection.startedAt + policy.1.holdDown ≤ t₀ ∧
      Since key (Clear policy) t₀ (past ++ [st]) ∧
      (Increasing key (past ++ st :: rest) → ∀ st' ∈ past ++ st :: rest, ∀ s,
        applied key st' = some s → t₀ ≤ s.observedAt → s.observedAt ≤ t → Clear policy s)) ∧
    (r.signal = .updated → ∀ pre prev mid t' r', past = pre ++ prev :: mid →
      reported key prev = some (t', r') → (∀ st' ∈ mid, reported key st' = none) →
      t' + policy.1.eventUpdateInterval ≤ t) := by
  have hjustified := (run_timed config policy key ops under).justified past st rest split t r told
  obtain ⟨last, taken, rfl⟩ : ∃ s, applied key st = some s ∧ s.observedAt = t := by
    have hst : st ∈ tableMachine.trace (.new config) ops := by
      rw [split]
      simp
    obtain ⟨before, op, after, rfl, rfl⟩ := tableMachine.mem_trace.mp hst
    exact applied_of_reported (under op (by simp)) told
  refine ⟨fun hstarted => ?_, fun hended hreason => ?_, fun hupdated => ?_⟩
  · obtain ⟨t₀, hlong, hsince⟩ := hjustified.started hstarted
    exact ⟨t₀, hlong, hsince, hsince.within taken⟩
  · obtain ⟨t₀, hlong, hheld, hsince⟩ := hjustified.cleared hended hreason
    exact ⟨t₀, hlong, hheld, hsince, hsince.within taken⟩
  · intro pre prev mid t' r' hpast hprev hmid
    obtain ⟨at_, r₀, hreport, hlong⟩ := hjustified.updated hupdated
    have hnone : mid.filterMap (reported key) = [] := List.filterMap_eq_nil_iff.mpr hmid
    rw [reports, hpast, filterMap_append, filterMap_cons, hprev, hnone,
      List.getLast?_concat] at hreport
    cases hreport
    exact hlong

theorem timers_sound_flood : ∃ (r : SignalRecord) (t₀ : Nat),
    reported sampleKey (tableMachine.stepAt (tableMachine.run (.new {}) (floodOps 1))
      (.step samplePolicyAlert (sampleSnapshot 1 10))) = some (1, r) ∧
    r.signal = .started ∧ t₀ + samplePolicyAlert.1.triggerFor ≤ 1 ∧
    Since sampleKey (Over samplePolicyAlert) t₀ (tableMachine.trace (.new {}) (floodOps 2)) := by
  have hops : floodOps 2 = floodOps 1 ++ [.step samplePolicyAlert (sampleSnapshot 1 10)] := rfl
  have hunder : ∀ op ∈ floodOps 2, Op.Under samplePolicyAlert sampleKey op := by
    intro op hop
    obtain ⟨i, -, rfl⟩ := List.mem_map.mp hop
    exact fun _ => rfl
  have hsplit := tableMachine.trace_snoc (.new {}) (floodOps 1)
    (.step samplePolicyAlert (sampleSnapshot 1 10))
  rw [← hops] at hsplit
  obtain ⟨t₀, hlong, hsince, -⟩ := (timers_sound {} samplePolicyAlert sampleKey (floodOps 2) hunder
    _ [] _ hsplit 1 _ rfl).1 rfl
  exact ⟨_, t₀, rfl, rfl, hlong, hsplit ▸ hsince⟩

/-- A quiet snapshot, a sweep that forgets the scope, and then two at the threshold, the first of
them older than the quiet one. -/
def lateOps : List Op :=
  [.step samplePolicyAlert (sampleSnapshot 60 0), .sweep (fromSecs 301) 0,
    .step samplePolicyAlert (sampleSnapshot 59 10), .step samplePolicyAlert (sampleSnapshot 61 10)]

/-- The detection starts although a snapshot that was not over threshold had been applied between
any instant the trigger time could have begun at and the start. -/
theorem late_snapshot_starts : ∃ (past : List TableStep) (st : TableStep) (r : SignalRecord),
    tableMachine.trace (.new {}) lateOps = past ++ [st] ∧
    reported sampleKey st = some (61, r) ∧ r.signal = .started ∧
    ¬∃ t₀, t₀ + samplePolicyAlert.1.triggerFor ≤ 61 ∧
      (∃ st' ∈ past ++ [st], ∃ s, applied sampleKey st' = some s ∧ s.observedAt = t₀) ∧
      ∀ st' ∈ past ++ [st], ∀ s, applied sampleKey st' = some s → t₀ ≤ s.observedAt →
        s.observedAt ≤ 61 → Over samplePolicyAlert s := by
  have hsplit := tableMachine.trace_snoc (.new {}) (lateOps.take 3)
    (.step samplePolicyAlert (sampleSnapshot 61 10))
  have hops : lateOps.take 3 ++ [.step samplePolicyAlert (sampleSnapshot 61 10)] = lateOps := rfl
  rw [hops] at hsplit
  have happlied : (tableMachine.trace (.new {}) lateOps).filterMap (applied sampleKey) =
      [sampleSnapshot 60 0, sampleSnapshot 59 10, sampleSnapshot 61 10] := by decide +kernel
  have hreported : (reported sampleKey (tableMachine.stepAt
      (tableMachine.run (.new {}) (lateOps.take 3))
      (.step samplePolicyAlert (sampleSnapshot 61 10)))).map (fun r => (r.1, r.2.signal)) =
      some (61, .started) := by decide +kernel
  obtain ⟨⟨at_, r⟩, hr, hpair⟩ := Option.map_eq_some_iff.mp hreported
  obtain ⟨hat, hsignal⟩ := Prod.mk.inj hpair
  dsimp only at hat hsignal
  subst hat
  refine ⟨_, _, r, hsplit, hr, hsignal, ?_⟩
  rintro ⟨t₀, hlong, ⟨st', hst', s, hs, hat⟩, hall⟩
  rw [← hsplit] at hst' hall
  have hquiet : sampleSnapshot 60 0 ∈
      (tableMachine.trace (.new {}) lateOps).filterMap (applied sampleKey) := by
    rw [happlied]
    simp
  obtain ⟨early, hearly, htaken⟩ := List.mem_filterMap.mp hquiet
  have hle : t₀ ≤ 60 := by
    have htrigger : samplePolicyAlert.1.triggerFor = 1 := rfl
    omega
  have hover := hall early hearly _ htaken hle (by decide)
  have hnot : ¬Over samplePolicyAlert (sampleSnapshot 60 0) := nofun
  exact hnot hover

end Tidegard.Detector.Proofs.Timers
