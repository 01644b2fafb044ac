import Tidegard.Detector.Proofs.Timers

namespace Tidegard.Detector.Proofs.Cooldown

open Common Input Policy Evaluate State Detector.Lifecycle Proofs.Lifecycle
open Independence Clockwork Proofs.Timers

/-- The operation leaves the scope under one policy and does not reset it by hand. -/
def Op.Steady (policy : ValidPolicy) (key : ScopeKey) : Op → Prop
  | .step p snapshot => snapshot.key = key → p = policy
  | .manualReset k _ _ => k ≠ key
  | .sweep _ _ => True
  | .withdrawStaleSelection _ _ winner => winner key = some (policy.1.id, policy.1.version)

theorem Op.Steady.under (h : Op.Steady policy key op) : Op.Under policy key op := by
  cases op with
  | step | manualReset => exact h
  | sweep | withdrawStaleSelection => trivial

theorem perform_config (t : StateTable) (op : Op) : (tableMachine.step t op).2.config = t.config := by
  cases op with
  | step policy snapshot => exact step_config t ⟨policy.1, snapshot, evaluate policy.1 snapshot⟩
  | manualReset =>
    simp only [tableMachine, perform, StateTable.manualReset]
    repeat' split
    all_goals rfl
  | sweep | withdrawStaleSelection => rfl

theorem advance_cleared {policy : DetectionPolicy} {now : Nat} {isOver clear : Bool} {t : Timers}
    {n : Notice} (h : (t.advance policy now isOver clear).1 = some n) (hended : n.signal = .ended) :
    (t.advance policy now isOver clear).2 =
      ⟨if policy.cooldown = 0 then .idle else .cooldown, now, none, some now⟩ := by
  have hpace (u : Timers) (h : (u.pace policy now isOver).1 = some n) : False := by
    rcases Timers.pace_cases policy now isOver u with hp | ⟨-, hp⟩
    · rw [hp] at h
      cases h
    · rw [hp] at h
      obtain ⟨s, -, rfl⟩ := Option.map_eq_some_iff.mp h
      cases hended
  cases hs : t.state with simp only [Timers.advance, hs] at h
  | idle =>
    cases h
  | pendingTrigger =>
    split at h
    · split at h
      · cases h
        cases hended
      · cases h
    · cases h
  | active =>
    split at h
    · exact (hpace _ h).elim
    · exact (hpace _ h).elim
  | pendingClear =>
    simp only [Timers.advance, hs]
    split at h
    · rename_i hclear
      split at h
      · rename_i hlong
        simp only [if_pos hclear, if_pos hlong]
      · exact (hpace _ h).elim
    · exact (hpace _ h).elim
  | cooldown =>
    split at h <;> cases h

/-- Where a scope stands whose detection cleared at `t`, once instant `c` has come: its cooldown
is over, or still runs, or was forgotten no sooner than a stale time later. -/
inductive Cooling (policy : ValidPolicy) (config : StateTableConfig) (t c : Nat) :
    Option ScopeState → Prop
  | elapsed (entry : Option ScopeState) (long : t + policy.1.cooldown ≤ c) :
      Cooling policy config t c entry
  | cooling (x : ScopeState) (shape : Shape (some x)) (filed : selectionDiffers x policy.1 = false)
      (state : x.state = .cooldown) (entered : x.enteredAt = t) (last : Nat)
      (seen : x.lastSnapshotAt = some last) (from_ : t ≤ last) :
      Cooling policy config t c (some x)
  | forgotten (long : t + config.staleAfter ≤ c) : Cooling policy config t c none
  | idle (x : ScopeState) (shape : Shape (some x)) (filed : selectionDiffers x policy.1 = false)
      (state : x.state = .idle) (long : t + config.staleAfter ≤ c) :
      Cooling policy config t c (some x)
  | pending (x : ScopeState) (shape : Shape (some x)) (filed : selectionDiffers x policy.1 = false)
      (state : x.state = .pendingTrigger) (long : t + config.staleAfter ≤ x.enteredAt)
      (entered : x.enteredAt ≤ c) : Cooling policy config t c (some x)

section

variable {policy : ValidPolicy} {t : Nat}
variable {x : ScopeState} {now : Nat} {op : Op}

theorem Cooling.later (h : Cooling policy config t c entry)
    (hle : c ≤ c') : Cooling policy config t c' entry := by
  cases h with
  | elapsed _ long => exact .elapsed _ (long.trans hle)
  | cooling x shape filed state entered last seen from_ =>
    exact .cooling x shape filed state entered last seen from_
  | forgotten long => exact .forgotten (long.trans hle)
  | idle x shape filed state long => exact .idle x shape filed state (long.trans hle)
  | pending x shape filed state long entered =>
    exact .pending x shape filed state long (entered.trans hle)

theorem Cooling.swept (h : Cooling policy config t c (some x)) (hc : t ≤ c) (hle : c ≤ now)
    (expired : x.expired config now = true) : Cooling policy config t now none := by
  cases h with
  | elapsed _ long => exact .elapsed _ (long.trans hle)
  | cooling _ shape filed state entered last seen from_ =>
    have hstate : x.state ≠ .idle := by rw [state]; decide
    simp only [ScopeState.expired, if_neg hstate, seen, Option.getD_some,
      decide_eq_true_eq] at expired
    exact .forgotten (by omega)
  | idle _ shape filed state long => exact .forgotten (long.trans hle)
  | pending => exact .forgotten (by omega)

theorem Cooling.advance (short : policy.1.cooldown ≤ config.staleAfter +
      policy.1.triggerFor) (h : Cooling policy config t c (some x)) (hc : t ≤ c) (hle : c ≤ now)
    (wall : Int) (evaluation : Evaluation) :
    let q := x.advance policy.1 now wall evaluation
    Cooling policy config t now (some q.entry) ∧
      ∀ r, q.outcome.signal = some r → r.signal = .started → t + policy.1.cooldown ≤ now := by
  have htrigger : policy.1.triggerFor ≠ 0 := policy.2.trigger_pos.ne'
  have hclear : policy.1.clearFor ≠ 0 := policy.2.clear_pos.ne'
  have hshape (hx : Shape (some x)) := (advance_effect hx policy now wall evaluation).shape
  have hfiled := advance_filed x policy.1 now wall evaluation
  -- the clockwork says what becomes of the entry's timers and of its signal
  have hclock (hx : Shape (some x)) (hf : selectionDiffers x policy.1 = false) :=
    advance_timers hx hf htrigger hclear now wall evaluation
  dsimp only
  generalize hq : x.advance policy.1 now wall evaluation = q at *
  have hsilent (hnone : q.outcome.signal.map notice = none) :
      ∀ r, q.outcome.signal = some r → r.signal = .started → t + policy.1.cooldown ≤ now := by
    intro r hr
    rw [hr] at hnone
    cases hnone
  cases h with
  | elapsed _ long => exact ⟨.elapsed _ (long.trans hle), fun _ _ _ => long.trans hle⟩
  | cooling _ shape filed state entered =>
    have heq := hclock shape filed
    have htimers : timers x = ⟨.cooldown, t, x.activeSince, x.lastEventAt⟩ := by
      rw [timers, state, entered]
    rw [htimers] at heq
    simp only [Timers.advance] at heq
    by_cases hlong : policy.1.cooldown ≤ now - t
    · exact ⟨.elapsed _ (by omega), fun _ _ _ => by omega⟩
    · rw [if_neg hlong] at heq
      obtain ⟨hsig, htim⟩ := Prod.mk.inj heq
      refine ⟨.cooling _ (hshape shape) hfiled (congrArg Timers.state htim)
        (congrArg Timers.enteredAt htim) now ?_ (by omega), hsilent hsig⟩
      rw [← hq]
      exact advance_lastSnapshotAt x policy.1 now wall evaluation
  | idle _ shape filed state long =>
    have heq := hclock shape filed
    have htimers : timers x = ⟨.idle, x.enteredAt, x.activeSince, x.lastEventAt⟩ := by
      rw [timers, state]
    rw [htimers] at heq
    obtain ⟨hsig, htim⟩ := Prod.mk.inj heq
    refine ⟨?_, hsilent hsig⟩
    cases hover : evaluation.isOverThreshold with
    | false =>
      rw [hover] at htim
      exact .idle _ (hshape shape) hfiled (congrArg Timers.state htim) (long.trans hle)
    | true =>
      rw [hover] at htim
      have hentered : q.entry.enteredAt = now := congrArg Timers.enteredAt htim
      exact .pending _ (hshape shape) hfiled (congrArg Timers.state htim) (by omega) hentered.le
  | pending _ shape filed state =>
    have heq := hclock shape filed
    have htimers : timers x = ⟨.pendingTrigger, x.enteredAt, x.activeSince, x.lastEventAt⟩ := by
      rw [timers, state]
    rw [htimers] at heq
    simp only [Timers.advance] at heq
    split at heq
    · split at heq
      · exact ⟨.elapsed _ (by omega), fun _ _ _ => by omega⟩
      · obtain ⟨hsig, htim⟩ := Prod.mk.inj heq
        have hentered : q.entry.enteredAt = x.enteredAt := congrArg Timers.enteredAt htim
        exact ⟨.pending _ (hshape shape) hfiled (congrArg Timers.state htim) (by omega) (by omega),
          hsilent hsig⟩
    · obtain ⟨hsig, htim⟩ := Prod.mk.inj heq
      exact ⟨.idle _ (hshape shape) hfiled (congrArg Timers.state htim) (by omega), hsilent hsig⟩

theorem presents_of_advanced (own : snapshot.key = key) :
    (Op.step policy snapshot).presents key = some snapshot.observedAt := if_pos own

theorem Cooling.step (hconfig : table.config = config)
    (short : policy.1.cooldown ≤ config.staleAfter + policy.1.triggerFor)
    (h : Cooling policy config t c table.entries[key]?) (hc : t ≤ c)
    (steady : Op.Steady policy key op) (hle : ∀ now, op.presents key = some now → c ≤ now) :
    Cooling policy config t ((op.presents key).getD c)
        (tableMachine.step table op).2.entries[key]? ∧
      ∀ at_ r, reported key (tableMachine.stepAt table op) = some (at_, r) →
        r.signal = .started → t + policy.1.cooldown ≤ at_ := by
  have hgetD : c ≤ (op.presents key).getD c := by
    cases hp : op.presents key with
    | none => exact le_rfl
    | some now => exact hle now hp
  have hsilent (hnone : reported key (tableMachine.stepAt table op) = none) :
      ∀ at_ r, reported key (tableMachine.stepAt table op) = some (at_, r) →
        r.signal = .started → t + policy.1.cooldown ≤ at_ := by
    intro at_ r hr
    rw [hnone] at hr
    cases hr
  cases scope_step table steady.under with
  | kept same unapplied silent =>
    refine ⟨?_, hsilent silent⟩
    have hsame : (tableMachine.step table op).2.entries[key]? = table.entries[key]? := same
    rw [hsame]
    exact h.later hgetD
  | dropped x held gone unapplied silent why =>
    refine ⟨?_, hsilent silent⟩
    have hgone : (tableMachine.step table op).2.entries[key]? = none := gone
    have hheld : table.entries[key]? = some x := held
    rw [hgone]
    rw [hheld] at h
    rcases why with ⟨now, wall, rfl, expired⟩ | ⟨now, wall, winner, rfl, stale⟩
    · exact h.swept hc (hle now rfl) (hconfig ▸ expired)
    · cases h with
      | elapsed _ long => exact .elapsed _ (long.trans hgetD)
      | cooling _ _ filed | idle _ _ filed | pending _ _ filed =>
        have hwinner : winner key = some (policy.1.id, policy.1.version) := steady
        simp only [selectionDiffers, Bool.or_eq_false_iff, bne_eq_false_iff_eq] at filed
        simp [ScopeState.staleSelection, hwinner, filed] at stale
  | advanced snapshot x input own entry after taken told =>
    have hinput : op = .step policy snapshot := input
    subst hinput
    have hnow := hle snapshot.observedAt (presents_of_advanced own)
    rw [presents_of_advanced own, Option.getD_some]
    have hafter : (tableMachine.step table (.step policy snapshot)).2.entries[key]? = _ := after
    obtain hx : Cooling policy config t c (some x) := by
      rcases entry with ⟨held, -⟩ | ⟨hnone, rfl⟩
      · have hheld : table.entries[key]? = some x := held
        rwa [hheld] at h
      · have hnone' : table.entries[key]? = none := hnone
        rw [hnone'] at h
        cases h with
        | elapsed _ long => exact .elapsed _ long
        | forgotten long =>
          exact .idle _ (Timed.new policy key [] _).shape (Timed.new policy key [] _).filed rfl long
    obtain ⟨hnext, hstart⟩ := hx.advance short hc hnow snapshot.observedWall
      (evaluate policy.1 snapshot)
    refine ⟨hafter ▸ hnext, fun at_ r hr => ?_⟩
    rw [told] at hr
    obtain ⟨r', hr', hpair⟩ := Option.map_eq_some_iff.mp hr
    cases hpair
    exact hstart _ hr'

/-- No detection starts before the cooldown is over, over any number of steady operations. -/
theorem Cooling.run (short : policy.1.cooldown ≤ config.staleAfter + policy.1.triggerFor)
    (ops : List Op) (hconfig : table.config = config)
    (h : Cooling policy config t c table.entries[key]?) (hc : t ≤ c)
    (steady : ∀ op ∈ ops, Op.Steady policy key op)
    (ordered : (c :: ops.filterMap (Op.presents key)).Pairwise (· ≤ ·)) :
    ∀ st ∈ tableMachine.trace table ops, ∀ at_ r, reported key st = some (at_, r) →
      r.signal = .started → t + policy.1.cooldown ≤ at_ := by
  induction ops generalizing table c with
  | nil => exact fun st hst => nomatch hst
  | cons op ops ih =>
    have hle : ∀ now, op.presents key = some now → c ≤ now := by
      intro now hp
      rw [List.filterMap_cons, hp] at ordered
      exact (List.pairwise_cons.mp ordered).1 now List.mem_cons_self
    obtain ⟨hnext, hstart⟩ := h.step hconfig short hc (steady op List.mem_cons_self) hle
    have hrest : (((op.presents key).getD c) :: ops.filterMap (Op.presents key)).Pairwise
        (· ≤ ·) := by
      rw [List.filterMap_cons] at ordered
      cases hp : op.presents key with
      | none =>
        rw [hp] at ordered
        exact ordered
      | some now =>
        rw [hp] at ordered
        exact (List.pairwise_cons.mp ordered).2
    have hc' : t ≤ (op.presents key).getD c := by
      cases hp : op.presents key with
      | none => exact hc
      | some now => exact hc.trans (hle now hp)
    intro st hst
    rcases List.mem_cons.mp hst with rfl | hst
    · exact hstart
    · exact ih ((perform_config table op).trans hconfig) hnext hc'
        (fun op' hop => steady op' (List.mem_cons_of_mem _ hop)) hrest st hst

theorem cooling_of_cleared (config : StateTableConfig) {past : List TableStep}
    (kept : Kept policy key past table) (positive : 0 < policy.1.cooldown)
    (steady : Op.Steady policy key op) {r : SignalRecord}
    (told : reported key (tableMachine.stepAt table op) = some (t, r)) (ended : r.signal = .ended) :
    op.presents key = some t ∧
      Cooling policy config t t (tableMachine.step table op).2.entries[key]? := by
  have htrigger : policy.1.triggerFor ≠ 0 := policy.2.trigger_pos.ne'
  have hclear : policy.1.clearFor ≠ 0 := policy.2.clear_pos.ne'
  cases scope_step table steady.under with
  | kept _ _ silent | dropped _ _ _ _ silent =>
    rw [silent] at told
    cases told
  | advanced snapshot x input own entry after taken hr =>
    have hinput : op = .step policy snapshot := input
    subst hinput
    have htimed : Timed policy key past x := by
      rcases entry with ⟨held, -⟩ | ⟨-, rfl⟩
      · exact kept.timed x held
      · exact Timed.new policy key past _
    rw [hr] at told
    obtain ⟨r', hsignal, hpair⟩ := Option.map_eq_some_iff.mp told
    cases hpair
    have heq := advance_timers htimed.shape htimed.filed htrigger hclear snapshot.observedAt
      snapshot.observedWall (evaluate policy.1 snapshot)
    have hnotice := congrArg Prod.fst heq
    have htimers := congrArg Prod.snd heq
    dsimp only at hnotice htimers
    rw [hsignal, Option.map_some] at hnotice
    rw [advance_cleared hnotice.symm ended, if_neg positive.ne'] at htimers
    refine ⟨presents_of_advanced own, ?_⟩
    have hafter : (tableMachine.step table (.step policy snapshot)).2.entries[key]? = _ := after
    rw [hafter]
    exact .cooling _ (advance_effect htimed.shape policy _ _ _).shape (advance_filed _ _ _ _ _)
      (congrArg Timers.state htimers) (congrArg Timers.enteredAt htimers) _
      (advance_lastSnapshotAt _ _ _ _ _) le_rfl

end

/-- In a run that keeps a scope under one policy, at instants that never decrease, no detection of
the scope starts within the cooldown of one that cleared, provided a scope forgotten by a sweep
and triggered anew cannot be sooner than that. -/
theorem cooldown_respected (config : StateTableConfig) (policy : ValidPolicy) (key : ScopeKey)
    (positive : 0 < policy.1.cooldown)
    (short : policy.1.cooldown ≤ config.staleAfter + policy.1.triggerFor) (ops : List Op)
    (steady : ∀ op ∈ ops, Op.Steady policy key op)
    (ordered : (ops.filterMap (Op.presents key)).Pairwise (· ≤ ·))
    (past mid rest : List TableStep) (ended started : TableStep)
    (split : tableMachine.trace (.new config) ops = past ++ ended :: (mid ++ started :: rest))
    (t t' : Nat) (r r' : SignalRecord) (hended : reported key ended = some (t, r))
    (hsignal : r.signal = .ended) (_ : r.transition.reason = .clearSustained)
    (hstarted : reported key started = some (t', r')) (hsignal' : r'.signal = .started) :
    t + policy.1.cooldown ≤ t' := by
  obtain ⟨before, op, after, rfl, rfl, rfl, hrest⟩ := tableMachine.trace_eq_split split
  have hkept := run_timed config policy key before fun op' hop =>
    (steady op' (by simp [hop])).under
  have hconfig : (tableMachine.run (.new config) (before ++ [op])).config = config :=
    tableMachine.invariant (G := fun _ => True) (P := fun t => t.config = config) rfl
      (fun t op h _ => (perform_config t op).trans h) _ fun _ _ => trivial
  obtain ⟨hpresents, hcooling⟩ := cooling_of_cleared config hkept positive
    (steady op (by simp)) hended hsignal
  rw [← tableMachine.run_snoc] at hcooling
  have hordered : (t :: after.filterMap (Op.presents key)).Pairwise (· ≤ ·) := by
    rw [List.filterMap_append, List.filterMap_cons, hpresents] at ordered
    exact (List.pairwise_append.mp ordered).2.1
  refine hcooling.run short after hconfig le_rfl (fun op' hop => steady op' (by simp [hop])) hordered
    started ?_ t' r' hstarted hsignal'
  rw [← hrest]
  simp

/-- The sample policy with a cooldown. -/
def coolingDraft (cooldown : Nat) : PolicyDraft :=
  { sampleDraft .alertOnly 1 with cooldown := cooldown }

theorem eighty_inRange : 1 ≤ 80 ∧ 80 ≤ 100 := by decide

set_option maxRecDepth 4000 in
/-- Two hundred seconds, which is more than the default stale time. -/
def coolingPolicy : ValidPolicy :=
  ⟨{ coolingDraft (fromSecs 200) with clearPercent := ⟨80, eighty_inRange⟩ },
    coolingDraft (fromSecs 200), ∅, rfl⟩

/-- A detection that starts at one, clears at three, and is triggered again from `again` on, after
a sweep at that instant. -/
def coolingOps (again : Nat) : List Op :=
  [.step coolingPolicy (sampleSnapshot 0 10), .step coolingPolicy (sampleSnapshot 1 10),
    .step coolingPolicy (sampleSnapshot 2 0), .step coolingPolicy (sampleSnapshot 3 0),
    .sweep again 0,
    .step coolingPolicy (sampleSnapshot again 10), .step coolingPolicy (sampleSnapshot (again + 1) 10)]

def sampleReports (config : StateTableConfig) (again : Nat) :
    List (Nat × Signal × TransitionReason) :=
  (reports sampleKey (tableMachine.trace (.new config) (coolingOps again))).map fun r =>
    (r.1, r.2.signal, r.2.transition.reason)

theorem coolingOps_steady (again : Nat) :
    ∀ op ∈ coolingOps again, Op.Steady coolingPolicy sampleKey op := by
  intro op hop
  simp only [coolingOps, List.mem_cons, List.not_mem_nil, or_false] at hop
  rcases hop with rfl | rfl | rfl | rfl | rfl | rfl | rfl <;> first | trivial | exact fun _ => rfl

/-- A table that keeps a scope for four hundred seconds. -/
def patientConfig : StateTableConfig := { staleAfter := fromSecs 400 }

theorem cooldown_respected_patient :
    sampleReports patientConfig (fromSecs 201) =
      [(1, .started, .triggerSustained), (3, .ended, .clearSustained),
        (fromSecs 201 + 1, .started, .triggerSustained)] ∧
    3 + coolingPolicy.1.cooldown ≤ fromSecs 201 + 1 := by
  refine ⟨by decide +kernel, ?_⟩
  let m := tableMachine
  let ops := coolingOps (fromSecs 201)
  let ended := m.stepAt (m.run (.new patientConfig) (ops.take 3))
    (.step coolingPolicy (sampleSnapshot 3 0))
  let started := m.stepAt (m.run (.new patientConfig) (ops.take 6))
    (.step coolingPolicy (sampleSnapshot (fromSecs 201 + 1) 10))
  have hsplit : m.trace (.new patientConfig) ops = m.trace (.new patientConfig) (ops.take 3) ++
      ended :: (m.trace (m.run (.new patientConfig) (ops.take 4)) ((ops.drop 4).take 2) ++
        started :: []) := rfl
  have hended : (reported sampleKey ended).map (fun r =>
      (r.1, r.2.signal, r.2.transition.reason)) = some (3, .ended, .clearSustained) := by
    decide +kernel
  have hstarted : (reported sampleKey started).map (fun r => (r.1, r.2.signal)) =
      some (fromSecs 201 + 1, .started) := by decide +kernel
  obtain ⟨⟨t, r⟩, hr, hpair⟩ := Option.map_eq_some_iff.mp hended
  obtain ⟨⟨t', r'⟩, hr', hpair'⟩ := Option.map_eq_some_iff.mp hstarted
  simp only [Prod.mk.injEq] at hpair hpair'
  obtain ⟨rfl, hsignal, hreason⟩ := hpair
  obtain ⟨rfl, hsignal'⟩ := hpair'
  exact cooldown_respected patientConfig coolingPolicy sampleKey (by decide) (by decide) ops
    (coolingOps_steady _) (by decide) _ _ _ ended started hsplit _ _ r r' hr hsignal hreason hr'
    hsignal'

/-- With the default table the sweep forgets the cooldown, and a detection starts again some
twenty seconds before it would have been over. -/
theorem cooldown_forgotten :
    (∀ op ∈ coolingOps (fromSecs 181), Op.Steady coolingPolicy sampleKey op) ∧
    ((coolingOps (fromSecs 181)).filterMap (Op.presents sampleKey)).Pairwise (· ≤ ·) ∧
    sampleReports {} (fromSecs 181) =
      [(1, .started, .triggerSustained), (3, .ended, .clearSustained),
        (fromSecs 181 + 1, .started, .triggerSustained)] ∧
    fromSecs 181 + 1 < 3 + coolingPolicy.1.cooldown := by
  exact ⟨coolingOps_steady _, by decide, by decide +kernel, by decide⟩

end Tidegard.Detector.Proofs.Cooldown
