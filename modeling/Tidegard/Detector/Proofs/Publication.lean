import Tidegard.Detector.Proofs.Selection

namespace Tidegard.Detector.Proofs.Publication

open List Runs Tables Common Input Policy Evaluate State Event Precedence Engine Detector.Lifecycle
  Pass
open Advance Proofs.Lifecycle Proofs.Selection

variable {p : Pass}
variable {st : Reported} {key : ScopeKey}

/-- The signals of one scope among some, with what became of them. -/
def reportsFor (key : ScopeKey) (rs : List Reported) : List Reported :=
  rs.filter fun r => r.key = key

/-- Every published start is followed by updates until, published and under the same detection
id, its end; or it has only updates after it and the scope is still open. -/
def EndsPublished (log : List Reported) (stillOpen : Bool) : Prop :=
  ∀ a st b, log = a ++ st :: b → st.record.signal = .started → st.published = true →
    ((∀ u ∈ b, u.record.signal = .updated) ∧ stillOpen = true) ∨
    ∃ mid r tail ev ev', b = mid ++ r :: tail ∧ (∀ u ∈ mid, u.record.signal = .updated) ∧
      r.record.signal = .ended ∧ r.published = true ∧ st.event = some ev ∧ r.event = some ev' ∧
      ev'.kind = .ended ∧ ev'.detectionId = ev.detectionId

/-- The swap does not silence an open detection it keeps: where the old policy under that id and
version published, the new one does. -/
def KeepsPublishing (e : ThresholdDetectionEngine) (incoming : PolicySet) : Prop :=
  ∀ (key : ScopeKey) (x : ScopeState) (old new : DetectionPolicy),
    e.table.entries[key]? = some x → x.state.isOpen = true →
    e.policies.get x.policyId = some old → incoming.winnerFor key = some new →
    new.id = x.policyId → new.version = x.policyVersion →
    old.executionMode.emitsEvents = true → new.executionMode.emitsEvents = true

def emission (r : Reported) : Emission := (r.record.signal, some r.record.detection)

def tagged (r : Reported) : ScopeKey × Emission := (r.key, emission r)

theorem reportsFor_emission (key : ScopeKey) (rs : List Reported) :
    (reportsFor key rs).map emission = forKey key (rs.map tagged) := by
  unfold reportsFor forKey
  rw [filterMap_map]
  induction rs with
  | nil => rfl
  | cons r =>
    by_cases h : r.key = key <;> simp_all [tagged]

def ident (f : EventFactory) (key : ScopeKey) (startedAt : Nat) : String :=
  f.detectionId (f.target key) startedAt

/-- Two factories that mint the same detection ids. -/
def SameIds (f g : EventFactory) : Prop :=
  f.runtime = g.runtime ∧ f.instanceId = g.instanceId ∧ f.origin = g.origin

theorem SameIds.ident_eq (h : SameIds f g) : ident f = ident g := by
  obtain ⟨h₁, h₂, h₃⟩ := h
  funext key s
  simp [ident, EventFactory.detectionId, EventFactory.target, h₁, h₂, h₃]

/-- What the engine knows of a signal it has handed on under `policy`. -/
structure Handed (f : EventFactory) (policy : DetectionPolicy) (r : Reported) : Prop where
  event : ∀ ev, r.event = some ev → ev.kind = .from r.record.signal ∧
    ev.detectionId = ident f r.key r.record.detection.startedAt
  isSome : r.published = true → r.event.isSome = true
  published : r.published = true ↔ policy.executionMode.emitsEvents = true

theorem emit_published (event : DetectionEvent) (report : EngineReport) :
    (emit (fun _ => true) event report).1 = event.isPublishable := by
  unfold emit
  cases h : event.isPublishable <;> simp

/-- A pass that has handed on some more signals, each as `P` says. -/
def Hands (q : Pass) (before : List Reported) (f : EventFactory) (tags : List (ScopeKey × Emission))
    (P : Reported → Prop) : Prop :=
  ∃ rs, q.reported = before ++ rs ∧ rs.map tagged = tags ∧ (∀ r ∈ rs, P r) ∧
    SameIds q.engine.factory f ∧ q.engine.sinkAccepts = fun _ => true

theorem Hands.mono (h : Hands q before f tags P) (hP : ∀ r, P r → P' r) :
    Hands q before f tags P' := by
  obtain ⟨rs, hrep, htag, hrs, hrest⟩ := h
  exact ⟨rs, hrep, htag, fun r hr => hP r (hrs r hr), hrest⟩

/-- The event built from a record under `policy`; a disabled policy has none. -/
structure Builds (f : EventFactory) (key : ScopeKey) (record : SignalRecord)
    (policy : DetectionPolicy) (built : Option (DetectionEvent × EventFactory)) : Prop where
  event : ∀ ev g, built = some (ev, g) → ev.kind = .from record.signal ∧
    ev.detectionId = ident f key record.detection.startedAt ∧
    ev.executionMode = policy.executionMode ∧ SameIds g f
  disabled : built = none → policy.executionMode = .disabled

theorem send_handed (hsink : p.engine.sinkAccepts = fun _ => true)
    (hbuilt : Builds p.engine.factory key record policy built) :
    Hands (p.send key record built) p.reported p.engine.factory
      [(key, record.signal, some record.detection)]
      fun r => r.key = key ∧ r.record = record ∧ Handed p.engine.factory policy r := by
  cases built with
  | none =>
    refine ⟨[_], rfl, rfl, forall_mem_singleton.mpr ⟨rfl, rfl, fun _ h => (by cases h),
      fun h => (by cases h), ?_⟩, ⟨rfl, rfl, rfl⟩, hsink⟩
    rw [hbuilt.disabled rfl]
    exact Iff.rfl
  | some eg =>
    obtain ⟨ev, g⟩ := eg
    obtain ⟨hkind, hid, hmode, hsame⟩ := hbuilt.event ev g rfl
    refine ⟨[_], rfl, rfl, forall_mem_singleton.mpr ⟨rfl, rfl, ?_, fun _ => rfl, ?_⟩, hsame, hsink⟩
    · intro ev' hev
      cases hev
      exact ⟨hkind, hid⟩
    · dsimp only
      rw [hsink, emit_published, DetectionEvent.isPublishable, hmode]

theorem forMode_none (h : ActionTaken.forMode mode = none) : mode = .disabled := by
  cases mode <;> simp [ActionTaken.forMode] at h ⊢

theorem build_spec :
    Builds f snapshot.key record policy (f.build record policy snapshot matched skipped) := by
  unfold EventFactory.build
  split
  · rename_i hmode
    exact ⟨fun _ _ h => (by cases h), fun _ => forMode_none hmode⟩
  · refine ⟨fun ev g h => ?_, fun h => by cases h⟩
    cases h
    exact ⟨rfl, rfl, rfl, rfl, rfl, rfl⟩

theorem buildClosing_spec (f : EventFactory) (record : SignalRecord) (policy : DetectionPolicy)
    (wall : Int) (hended : record.signal = .ended) :
    Builds f record.transition.key record policy (f.buildClosing record policy wall) := by
  unfold EventFactory.buildClosing
  split
  · rename_i hmode
    exact ⟨fun _ _ h => (by cases h), fun _ => forMode_none hmode⟩
  · refine ⟨fun ev g h => ?_, fun h => by cases h⟩
    cases h
    exact ⟨by rw [hended]; rfl, rfl, rfl, rfl, rfl, rfl⟩

/-- One turn of the engine: a snapshot, a sweep or a swap, with the signals it handed on. -/
structure Turn (e e' : ThresholdDetectionEngine) (rs : List Reported) : Prop where
  effect : ∀ key : ScopeKey, ∃ present,
    Effect present e.table.entries[key]? e'.table.entries[key]? ((reportsFor key rs).map emission)
  ended : ∀ r ∈ rs, r.record.signal = .ended → ∃ x p, e.table.entries[r.key]? = some x ∧
    e.policies.get x.policyId = some p ∧ Handed e.factory p r
  started : ∀ r ∈ rs, r.record.signal = .started → ∃ x p, e'.table.entries[r.key]? = some x ∧
    e'.policies.get x.policyId = some p ∧ Handed e.factory p r
  ids : SameIds e'.factory e.factory
  sink : e'.sinkAccepts = e.sinkAccepts

/-- A turn after which the open detections it keeps publish as before. -/
def Turn.Keeps (e e' : ThresholdDetectionEngine) : Prop :=
  ∀ (key : ScopeKey) x x' p, e.table.entries[key]? = some x → e'.table.entries[key]? = some x' →
    x.state.isOpen = true → x'.state.isOpen = true →
    e.policies.get x.policyId = some p → p.executionMode.emitsEvents = true →
    ∃ p', e'.policies.get x'.policyId = some p' ∧ p'.executionMode.emitsEvents = true

theorem Turn.silent (hids : SameIds e'.factory e.factory) (hsink : e'.sinkAccepts = e.sinkAccepts)
    (heffect : ∀ key : ScopeKey, ∃ present,
      Effect present e.table.entries[key]? e'.table.entries[key]? []) : Turn e e' [] :=
  ⟨heffect, by simp, by simp, hids, hsink⟩

theorem step_spec (hsink : p.engine.sinkAccepts = fun _ => true) (policy : DetectionPolicy)
    (snapshot : DetectionSnapshot) :
    Hands (p.step policy snapshot) p.reported p.engine.factory
      ((p.engine.table.step policy snapshot (evaluate policy snapshot)).1.signal.toList.map
        fun r => (snapshot.key, r.signal, some r.detection))
      fun r => r.key = snapshot.key ∧ Handed p.engine.factory policy r := by
  unfold step
  dsimp only
  split
  · rename_i hsig
    rw [hsig]
    exact ⟨[], by simp, rfl, by simp, ⟨rfl, rfl, rfl⟩, hsink⟩
  · rename_i record hsig
    rw [hsig]
    refine Hands.mono (send_handed ?_ build_spec) fun r hr => ⟨hr.1, hr.2.2⟩
    exact hsink

theorem mem_reports (hr : r ∈ rs) : emission r ∈ (reportsFor r.key rs).map emission :=
  mem_map_of_mem (List.mem_filter.mpr ⟨hr, by simp⟩)

theorem evaluateOne_turn (h : Sound p.engine) (hsink : p.engine.sinkAccepts = fun _ => true)
    (snapshot : DetectionSnapshot) :
    ∃ rs, (p.evaluateOne snapshot).reported = p.reported ++ rs ∧
      Turn p.engine (p.evaluateOne snapshot).engine rs := by
  have hafter := evaluateOne_sound h snapshot
  unfold evaluateOne at hafter ⊢
  split at hafter
  · exact ⟨[], by simp, .silent ⟨rfl, rfl, rfl⟩ rfl fun key => ⟨none, .same (h.shape key) _⟩⟩
  · rename_i policy hwin
    obtain ⟨hget, -, hacc⟩ := winnerFor_spec hwin
    obtain ⟨rs, hrep, htag, hrs, hids, hsame⟩ := step_spec hsink policy snapshot
    have heffect (key : ScopeKey) : ∃ present, Effect present p.engine.table.entries[key]?
        (p.step policy snapshot).engine.table.entries[key]?
        ((reportsFor key rs).map emission) := by
      rw [reportsFor_emission, htag, step_table]
      exact ⟨_, step_effect p.engine.table ⟨policy, hacc⟩ snapshot key (h.shape key)⟩
    refine ⟨rs, hrep, heffect, ?_, ?_, hids, hsame.trans hsink.symm⟩
    · intro r hr hended
      obtain ⟨hkey, hhanded⟩ := hrs r hr
      obtain ⟨_, heff⟩ := heffect r.key
      obtain ⟨x, hx, -⟩ := (heff.entries (mem_reports hr)).1 hended
      obtain ⟨q, hq, hqget, -, -⟩ := h.policy hx
      rw [hkey, hwin] at hq
      cases hq
      exact ⟨x, policy, hx, hqget, hhanded⟩
    · intro r hr hstarted
      obtain ⟨hkey, hhanded⟩ := hrs r hr
      obtain ⟨_, heff⟩ := heffect r.key
      obtain ⟨x, hx, -⟩ := (heff.entries (mem_reports hr)).2 hstarted
      obtain ⟨q, hq, hqget, -, -⟩ := hafter.policy hx
      rw [step_policies, hkey, hwin] at hq
      cases hq
      exact ⟨x, policy, hx, hqget, hhanded⟩

/-- An expiry with everything its end event needs. -/
def Complete (policyFor : String → Option DetectionPolicy) (x : Expiry) : Prop :=
  x.signal = none ∨ ∃ t c p, x.signal = some .ended ∧ x.transition = some t ∧
    x.detection = some c ∧ t.key = x.key ∧ policyFor t.policyId = some p

/-- The signal closes the detection of an expiry, from the policy it is looked up under. -/
def Closes (policyFor : String → Option DetectionPolicy) (f : EventFactory) (x : Expiry)
    (r : Reported) : Prop :=
  x.signal = some .ended ∧ r.record.signal = .ended ∧ ∃ q,
    policyFor r.record.transition.policyId = some q ∧
    x.transition = some r.record.transition ∧ r.key = x.key ∧ Handed f q r

theorem closeOne_spec (hsink : p.engine.sinkAccepts = fun _ => true) (wall : Int)
    (hx : Complete policyFor x) :
    Hands (closeOne policyFor wall p x) p.reported p.engine.factory (expiryEmission x).toList
      (Closes policyFor p.engine.factory x) := by
  rcases hx with hnone | ⟨t, c, q, hs, ht, hc, hkey, hq⟩
  · refine ⟨[], ?_, ?_, by simp, ?_⟩
    · unfold closeOne
      cases x.transition <;> cases x.detection <;> simp [hnone]
    · simp [expiryEmission, hnone]
    · unfold closeOne
      cases x.transition <;> cases x.detection <;> simp [hnone, SameIds, hsink]
  · have hbuilt := buildClosing_spec p.engine.factory ⟨.ended, t, c⟩ q wall rfl
    dsimp only at hbuilt
    rw [hkey] at hbuilt
    simp only [closeOne, ht, hc, hs, hq, expiryEmission, Option.map_some, Option.toList_some]
    refine Hands.mono (send_handed ?_ hbuilt) ?_
    · exact hsink
    · rintro r ⟨hrkey, hrec, hhanded⟩
      rw [Closes, hrec]
      exact ⟨hs, rfl, q, hq, ht, hrkey, hhanded⟩

theorem Handed.of_same (h : SameIds g f) (hr : Handed g policy r) : Handed f policy r := by
  refine ⟨fun ev hev => ?_, hr.isSome, hr.published⟩
  rw [← h.ident_eq]
  exact hr.event ev hev

theorem SameIds.trans (h : SameIds f g) (h' : SameIds g k) : SameIds f k :=
  ⟨h.1.trans h'.1, h.2.1.trans h'.2.1, h.2.2.trans h'.2.2⟩

theorem closeExpired_spec (hsink : p.engine.sinkAccepts = fun _ => true) (wall : Int)
    (hx : ∀ x ∈ expiries, Complete policyFor x) :
    Hands (p.closeExpired expiries wall policyFor) p.reported p.engine.factory
      (expiries.filterMap expiryEmission)
      fun r => ∃ x ∈ expiries, Closes policyFor p.engine.factory x r := by
  unfold closeExpired
  induction expiries generalizing p with
  | nil => exact ⟨[], by simp, rfl, by simp, ⟨rfl, rfl, rfl⟩, hsink⟩
  | cons x rest ih =>
    obtain ⟨rs, hrep, htag, hrs, hids, hsame⟩ := closeOne_spec hsink wall (hx x (by simp))
    obtain ⟨rs', hrep', htag', hrs', hids', hsame'⟩ :=
      ih (p := closeOne policyFor wall p x) hsame (fun y hy => hx y (by simp [hy]))
    refine ⟨rs ++ rs', ?_, ?_, ?_, hids'.trans hids, hsame'⟩
    · rw [foldl_cons, hrep', hrep, append_assoc]
    · rw [map_append, htag, htag', filterMap_cons]
      cases expiryEmission x <;> rfl
    · intro r hr
      rcases List.mem_append.mp hr with hr | hr
      · exact ⟨x, by simp, hrs r hr⟩
      · obtain ⟨y, hy, hs, he, q, hq, ht, hk, hh⟩ := hrs' r hr
        exact ⟨y, by simp [hy], hs, he, q, hq, ht, hk, hh.of_same hids⟩

theorem closing_turn (e₀ : ThresholdDetectionEngine) (h : Sound e)
    (hsink : e.sinkAccepts = fun _ => true) (hfactory : e₀.factory = e.factory)
    (hsame : e₀.sinkAccepts = e.sinkAccepts) (removal : Removal e.table now wall answer f)
    (htable : e₀.table = answer.2) :
    Turn e (closeExpired { engine := e₀ } answer.1 wall e.policies.get).engine
      (closeExpired { engine := e₀ } answer.1 wall e.policies.get).reported := by
  have hcomplete : ∀ x ∈ answer.1, Complete e.policies.get x := by
    intro x hx
    obtain ⟨_, -, hleaves⟩ := removal.mem hx
    rcases hleaves.signal with hnone | hended
    · exact Or.inl hnone
    · obtain ⟨y, t, c, hget, hy⟩ := removal_ended removal h.shape hx hended
      obtain ⟨p, -, hp, -, -⟩ := h.policy hget
      exact Or.inr ⟨t, c, p, hended, hy.transition, hy.detection,
        hy.key.trans (h.selected _ _ hget).1, by rw [hy.policyId]; exact hp⟩
  obtain ⟨rs, hrep, htag, hrs, hids, hsink'⟩ := closeExpired_spec
    (p := { engine := e₀ }) (hsame.trans hsink) wall hcomplete
  dsimp only at hrs hids hsink'
  rw [nil_append] at hrep
  rw [hfactory] at hrs hids
  rw [hrep]
  refine ⟨?_, ?_, ?_, hids, hsink'.trans hsink.symm⟩
  · intro key
    rw [reportsFor_emission, htag, (closeExpired_engine answer.1 wall e.policies.get _).1, htable]
    exact ⟨none, removal.effect (h.shape key) none⟩
  · intro r hr _
    obtain ⟨x, hx, hs, -, q, hq, ht, hkey, hhanded⟩ := hrs r hr
    obtain ⟨y, t, c, hget, hy⟩ := removal_ended removal h.shape hx hs
    have heq : t = r.record.transition := Option.some.inj (hy.transition.symm.trans ht)
    subst heq
    rw [← hkey] at hget
    exact ⟨y, q, hget, by rw [← hy.policyId]; exact hq, hhanded⟩
  · intro r hr hstarted
    obtain ⟨x, hx, hs, he, -⟩ := hrs r hr
    rw [he] at hstarted
    cases hstarted

theorem sweep_turn (h : Sound e) (hsink : e.sinkAccepts = fun _ => true) (now : Nat) (wall : Int) :
    Turn e (e.sweep now wall).engine (e.sweep now wall).reported :=
  closing_turn { e with table := (e.table.sweep now wall).2 } h hsink rfl rfl
    (sweep_removal e.table now wall) rfl

theorem replacePolicies_turn (h : Sound e) (hsink : e.sinkAccepts = fun _ => true)
    (policies : PolicySet) (now : Nat) (wall : Int) :
    Turn e (e.replacePolicies policies now wall).engine
      (e.replacePolicies policies now wall).reported :=
  closing_turn { e with policies := policies, table :=
      (e.table.withdrawStaleSelection now wall (selectionOf policies)).2 } h hsink rfl rfl
    (withdraw_removal e.table now wall _) rfl

/-- The detection started by `st` is open, has only reported updates since, and publishes. -/
def Ongoing (e : ThresholdDetectionEngine) (key : ScopeKey) (st : Reported) (b : List Reported) :
    Prop :=
  (∀ u ∈ b, u.record.signal = .updated) ∧ ∃ x n p, e.table.entries[key]? = some x ∧
    Open st.record.detection.startedAt n x ∧ e.policies.get x.policyId = some p ∧
    p.executionMode.emitsEvents = true

/-- The detection started by `st` has reported and published its end. -/
def Finished (st : Reported) (b : List Reported) : Prop :=
  ∃ mid r tail, b = mid ++ r :: tail ∧ (∀ u ∈ mid, u.record.signal = .updated) ∧
    r.record.signal = .ended ∧ r.published = true ∧
    r.record.detection.startedAt = st.record.detection.startedAt

/-- The published starts of a scope so far, each ongoing or finished. -/
structure Paired (f : EventFactory) (key : ScopeKey) (e : ThresholdDetectionEngine)
    (log : List Reported) : Prop where
  events : ∀ r ∈ log, r.record.signal ≠ .updated → r.published = true → ∃ ev, r.event = some ev ∧
    ev.kind = .from r.record.signal ∧ ev.detectionId = ident f key r.record.detection.startedAt
  starts : ∀ a st b, log = a ++ st :: b → st.record.signal = .started → st.published = true →
    Ongoing e key st b ∨ Finished st b

theorem Finished.more (h : Finished st b) (more : List Reported) : Finished st (b ++ more) := by
  obtain ⟨mid, r, tail, rfl, hmid, hrest⟩ := h
  exact ⟨mid, r, tail ++ more, by simp, hmid, hrest⟩

theorem snoc_split {α : Type*} {log a b : List α} {r st : α} (h : log ++ [r] = a ++ st :: b) :
    (a = log ∧ st = r ∧ b = []) ∨ ∃ b', b = b' ++ [r] ∧ log = a ++ st :: b' := by
  rcases eq_nil_or_concat b with rfl | ⟨b', y, rfl⟩
  · obtain ⟨hlog, hr⟩ := append_inj' h rfl
    cases hr
    exact Or.inl ⟨hlog.symm, rfl, rfl⟩
  · rw [concat_eq_append, ← cons_append, ← append_assoc] at h
    obtain ⟨hlog, hr⟩ := append_inj' h rfl
    cases hr
    exact Or.inr ⟨b', by simp, hlog⟩

theorem Ongoing.not_quiet (h : Ongoing e key st b) (hq : Quiet e.table.entries[key]?) : False := by
  obtain ⟨-, x, n, p, hx, ho, -⟩ := h
  exact (hq x hx).not_open ho

theorem Ongoing.keep (h : Ongoing e key st b) (hkeeps : Turn.Keeps e e')
    (hb : OpenAt s n e.table.entries[key]?) (ha : OpenAt s n' e'.table.entries[key]?)
    (hb' : ∀ u ∈ b', u.record.signal = .updated) : Ongoing e' key st b' := by
  obtain ⟨-, x, m, p, hx, ho, hp, hemits⟩ := h
  have hs := (OpenAt.unique hb ⟨x, hx, ho⟩).1
  obtain ⟨x', hx', ho'⟩ := ha
  obtain ⟨p', hp', hemits'⟩ := hkeeps key x x' p hx hx' ho.state ho'.state hp hemits
  rw [hs] at ho'
  exact ⟨hb', x', n', p', hx', ho', hp', hemits'⟩

theorem Paired.starts_same (h : Paired f key e log)
    (hold : ∀ st b, Ongoing e key st b → Ongoing e' key st b) :
    ∀ a st b, log = a ++ st :: b → st.record.signal = .started → st.published = true →
      Ongoing e' key st b ∨ Finished st b := by
  intro a st b hlog hst hpub
  rcases h.starts a st b hlog hst hpub with hon | hfin
  · exact Or.inl (hold st b hon)
  · exact Or.inr hfin

theorem Paired.starts_snoc (h : Paired f key e log)
    (hnew : r.record.signal = .started → r.published = true → Ongoing e' key r [])
    (hold : ∀ st b, Ongoing e key st b →
      Ongoing e' key st (b ++ [r]) ∨ Finished st (b ++ [r])) :
    ∀ a st b, log ++ [r] = a ++ st :: b → st.record.signal = .started → st.published = true →
      Ongoing e' key st b ∨ Finished st b := by
  intro a st b hlog hst hpub
  rcases snoc_split hlog with ⟨rfl, rfl, rfl⟩ | ⟨b', rfl, hlog'⟩
  · exact Or.inl (hnew hst hpub)
  · rcases h.starts a st b' hlog' hst hpub with hon | hfin
    · exact hold st b' hon
    · exact Or.inr (hfin.more _)

theorem Turn.handed (h : Turn e e' rs) (hr : r ∈ rs) (hne : r.record.signal ≠ .updated) :
    ∃ p, Handed e.factory p r := by
  cases hsig : r.record.signal with
  | started =>
    obtain ⟨_, p, -, -, hh⟩ := h.started r hr hsig
    exact ⟨p, hh⟩
  | ended =>
    obtain ⟨_, p, -, -, hh⟩ := h.ended r hr hsig
    exact ⟨p, hh⟩
  | updated => exact absurd hsig hne

theorem reportsFor_one {em : Emission} (hout : (reportsFor key rs).map emission = [em]) :
    ∃ r, reportsFor key rs = [r] ∧ emission r = em ∧ r ∈ rs ∧ r.key = key := by
  obtain ⟨r, tail, hr, hem, htail⟩ := List.map_eq_cons_iff.mp hout
  rw [map_eq_nil_iff] at htail
  subst htail
  have hmem : r ∈ reportsFor key rs := by simp [hr]
  exact ⟨r, hr, hem, by simpa [reportsFor] using hmem⟩

theorem Paired.starts_next (h : Paired f key e log) (hturn : Turn e e' rs)
    (hkeeps : Turn.Keeps e e') :
    ∀ a st b, log ++ reportsFor key rs = a ++ st :: b → st.record.signal = .started →
      st.published = true → Ongoing e' key st b ∨ Finished st b := by
  obtain ⟨present, heffect⟩ := hturn.effect key
  generalize hout : (reportsFor key rs).map emission = out at heffect
  cases heffect with
  | quiet hb =>
    rw [List.map_eq_nil_iff.mp hout, append_nil]
    exact h.starts_same fun st b hon => (hon.not_quiet hb).elim
  | silent hb ha =>
    rw [List.map_eq_nil_iff.mp hout, append_nil]
    exact h.starts_same fun st b hon => hon.keep hkeeps hb ha hon.1
  | started hb hx hpending hlate hnow ha hs hq =>
    obtain ⟨r, hr, hem, hrs, hkey⟩ := reportsFor_one hout
    rw [hr]
    refine h.starts_snoc (fun hst hpub => ?_) fun st b hon => (hon.not_quiet hb).elim
    obtain ⟨x₀, p₀, hx₀, hp₀, hhanded⟩ := hturn.started r hrs hst
    obtain ⟨y, hy, ho⟩ := ha
    rw [hkey, hy] at hx₀
    obtain rfl : y = x₀ := Option.some.inj hx₀
    have hctx : some r.record.detection = some _ := congrArg Prod.snd hem
    refine ⟨by simp, y, 1, p₀, hy, ?_, hp₀, hhanded.published.mp hpub⟩
    rw [Option.some.inj hctx, hs]
    exact ho
  | updated hb ha =>
    obtain ⟨r, hr, hem, hrs, hkey⟩ := reportsFor_one hout
    have hupd : r.record.signal = .updated := congrArg Prod.fst hem
    rw [hr]
    refine h.starts_snoc (fun hst => by rw [hupd] at hst; cases hst) fun st b hon => ?_
    refine Or.inl (hon.keep hkeeps hb ha ?_)
    intro u hu
    rcases List.mem_append.mp hu with hu | hu
    · exact hon.1 u hu
    · rw [mem_singleton] at hu
      rw [hu, hupd]
  | ended hb ha hf hs hq =>
    obtain ⟨r, hr, hem, hrs, hkey⟩ := reportsFor_one hout
    have hend : r.record.signal = .ended := congrArg Prod.fst hem
    rw [hr]
    refine h.starts_snoc (fun hst => by rw [hend] at hst; cases hst) fun st b hon => ?_
    obtain ⟨hupd, x, m, p, hx, ho, hp, hemits⟩ := hon
    obtain ⟨x₀, p₀, hx₀, hp₀, hhanded⟩ := hturn.ended r hrs hend
    rw [hkey, hx] at hx₀
    obtain rfl : x = x₀ := Option.some.inj hx₀
    rw [hp] at hp₀
    obtain rfl : p = p₀ := Option.some.inj hp₀
    have hstart := (OpenAt.unique hb ⟨x, hx, ho⟩).1
    have hctx : some r.record.detection = some _ := congrArg Prod.snd hem
    refine Or.inr ⟨b, r, [], rfl, hupd, hend, hhanded.published.mpr hemits, ?_⟩
    rw [Option.some.inj hctx, hs, hstart]

theorem Paired.next (h : Paired f key e log) (hids : SameIds e.factory f) (hturn : Turn e e' rs)
    (hkeeps : Turn.Keeps e e') : Paired f key e' (log ++ reportsFor key rs) := by
  refine ⟨fun r hr hne hpub => ?_, h.starts_next hturn hkeeps⟩
  rcases List.mem_append.mp hr with hr | hr
  · exact h.events r hr hne hpub
  · obtain ⟨hrs, hkey⟩ : r ∈ rs ∧ r.key = key := by simpa [reportsFor] using hr
    obtain ⟨p, hhanded⟩ := hturn.handed hrs hne
    obtain ⟨ev, hev⟩ := Option.isSome_iff_exists.mp (hhanded.isSome hpub)
    obtain ⟨hkind, hid⟩ := hhanded.event ev hev
    rw [hids.ident_eq, hkey] at hid
    exact ⟨ev, hev, hkind, hid⟩

theorem evaluateOne_keeps (h : Sound p.engine) (snapshot : DetectionSnapshot) :
    Turn.Keeps p.engine (p.evaluateOne snapshot).engine := by
  intro key x x' q hx hx' _ _ hq hemits
  obtain ⟨w, hw, hwget, -, -⟩ := h.policy hx
  obtain ⟨w', hw', hwget', -, -⟩ := (evaluateOne_sound h snapshot).policy hx'
  rw [evaluateOne_policies, hw] at hw'
  obtain rfl : w = w' := Option.some.inj hw'
  rw [hwget] at hq
  obtain rfl : w = q := Option.some.inj hq
  exact ⟨w, hwget', hemits⟩

theorem sweep_keeps (e : ThresholdDetectionEngine) (now : Nat) (wall : Int) :
    Turn.Keeps e (e.sweep now wall).engine := by
  intro key x x' q hx hx' _ _ hq hemits
  obtain rfl : x = x' := Option.some.inj (hx.symm.trans (sweep_entry hx'))
  exact ⟨q, by rw [sweep_policies]; exact hq, hemits⟩

theorem replacePolicies_keeps (policies : PolicySet) (now : Nat) (wall : Int)
    (hkeep : KeepsPublishing e policies) :
    Turn.Keeps e (e.replacePolicies policies now wall).engine := by
  intro key x x' q hx hx' hopen _ hq hemits
  obtain ⟨hsame, hwin⟩ := replacePolicies_entry hx'
  rw [hx] at hsame
  obtain rfl : x = x' := Option.some.inj hsame
  obtain ⟨new, hnew, heq⟩ := Option.map_eq_some_iff.mp hwin
  simp only [Prod.mk.injEq] at heq
  refine ⟨new, ?_, hkeep key x q new hx hopen hq hnew heq.1 heq.2 hemits⟩
  have hget := (winnerFor_spec hnew).1
  rw [heq.1] at hget
  rw [replacePolicies_policies]
  exact hget

/-- The engine and its log while every published start is accounted for. -/
structure Publishing (f : EventFactory) (e : ThresholdDetectionEngine) (log : List Reported) :
    Prop where
  sound : Sound e
  sink : e.sinkAccepts = fun _ => true
  ids : SameIds e.factory f
  paired : ∀ key, Paired f key e (reportsFor key log)

theorem Publishing.next (h : Publishing f e log) (hsound : Sound e') (hturn : Turn e e' rs)
    (hkeeps : Turn.Keeps e e') : Publishing f e' (log ++ rs) := by
  refine ⟨hsound, hturn.sink.trans h.sink, hturn.ids.trans h.ids, fun key => ?_⟩
  have happend : reportsFor key (log ++ rs) = reportsFor key log ++ reportsFor key rs :=
    filter_append _ _
  rw [happend]
  exact (h.paired key).next h.ids hturn hkeeps

theorem foldl_publishing (snapshots : List DetectionSnapshot)
    (h : Publishing f p.engine (log ++ p.reported)) :
    Publishing f (snapshots.foldl evaluateOne p).engine
      (log ++ (snapshots.foldl evaluateOne p).reported) := by
  induction snapshots generalizing p with
  | nil => exact h
  | cons snapshot rest ih =>
    obtain ⟨rs, hrep, hturn⟩ := evaluateOne_turn h.sound h.sink snapshot
    refine ih ?_
    rw [hrep, ← append_assoc]
    exact h.next (evaluateOne_sound h.sound snapshot) hturn (evaluateOne_keeps h.sound snapshot)

/-- The one call that can break the account is a swap. -/
def SwapsKeepPublishing (st : Step ThresholdDetectionEngine Call Pass) : Prop :=
  match st.input with
  | .replacePolicies incoming _ _ => KeepsPublishing st.before incoming
  | _ => True

theorem perform_publishing (h : Publishing f e log) (call : Call)
    (hcall : SwapsKeepPublishing (engineMachine.stepAt e call)) :
    Publishing f (e.perform call).engine (log ++ (e.perform call).reported) := by
  cases call with
  | evaluate snapshots =>
    exact foldl_publishing snapshots (p := { engine := e, report :=
      { snapshotsSeen := snapshots.length } }) (by rw [append_nil]; exact h)
  | sweep now wall =>
    exact h.next (sweep_sound h.sound now wall) (sweep_turn h.sound h.sink now wall)
      (sweep_keeps e now wall)
  | replacePolicies policies now wall =>
    exact h.next (replacePolicies_sound h.sound policies now wall)
      (replacePolicies_turn h.sound h.sink policies now wall)
      (replacePolicies_keeps policies now wall hcall)

theorem Paired.endsPublished (h : Paired f key e log) : EndsPublished log (openAt e.table key) := by
  intro a st b hlog hst hpub
  rcases h.starts a st b hlog hst hpub with ⟨hupd, x, n, p, hx, ho, -, -⟩ |
    ⟨mid, r, tail, rfl, hmid, hend, hrpub, hsame⟩
  · exact Or.inl ⟨hupd, by simp [openAt, hx, ho.state]⟩
  · right
    obtain ⟨ev, hev, -, hid⟩ := h.events st (by simp [hlog]) (by simp [hst]) hpub
    obtain ⟨ev', hev', hkind, hid'⟩ := h.events r (by simp [hlog]) (by simp [hend]) hrpub
    refine ⟨mid, r, tail, ev, ev', rfl, hmid, hend, hrpub, hev, hev', ?_, ?_⟩
    · rw [hkind, hend]
      rfl
    · rw [hid, hid', hsame]

def start (config : StateTableConfig) (factory : EventFactory) (policies : PolicySet) :
    ThresholdDetectionEngine :=
  (ThresholdDetectionEngine.new config factory fun _ => true).withPolicies policies

def handedOn (past : List (Step ThresholdDetectionEngine Call Pass)) : List Reported :=
  past.flatMap fun st => st.output.reported

/-- In a run whose swaps never silence an open detection they keep, every published start gets
its published end when the detection leaves the open states. -/
theorem ends_published (config : StateTableConfig) (factory : EventFactory) (policies : PolicySet)
    (calls : List Call)
    (hswaps : ∀ st ∈ engineMachine.trace (start config factory policies) calls, SwapsKeepPublishing st)
    (key : ScopeKey) :
    EndsPublished (reportsFor key (handedOn (engineMachine.trace (start config factory policies) calls)))
      (openAt (engineMachine.run (start config factory policies) calls).table key) := by
  have h : Publishing factory (engineMachine.run (start config factory policies) calls)
      (handedOn (engineMachine.trace (start config factory policies) calls)) := by
    refine engineMachine.history (P := fun past e => Publishing factory e (handedOn past)) ?_ ?_ calls
      hswaps
    · refine ⟨new_sound config factory _ policies, rfl, ⟨rfl, rfl, rfl⟩, fun key => ?_⟩
      exact ⟨by simp [handedOn, reportsFor], by simp [handedOn, reportsFor]⟩
    · intro past e call hpast hcall
      have happend : handedOn (past ++ [engineMachine.stepAt e call]) =
          handedOn past ++ (e.perform call).reported := by
        simp [handedOn, engineMachine, Machine.stepAt]
      rw [happend]
      exact perform_publishing hpast call hcall
  exact (h.paired key).endsPublished

def samplePolicies (executionMode : ExecutionMode) : PolicySet :=
  PolicySet.empty.add ⟨samplePolicy executionMode 1, samplePolicy_accepted executionMode⟩

/-- A detection opens under a policy that alerts, the policy is rewritten under the same id and
version, and a sweep ends the detection. -/
def rewriteCalls (executionMode : ExecutionMode) : List Call :=
  [.evaluate [sampleSnapshot 0 10, sampleSnapshot 1 10],
   .replacePolicies (samplePolicies executionMode) 2 2,
   .sweep (fromSecs 1000) 0]

def rewriteTrace (executionMode : ExecutionMode) :
    List (Step ThresholdDetectionEngine Call Pass) :=
  engineMachine.trace (start {} sampleFactory (samplePolicies .alertOnly)) (rewriteCalls executionMode)

theorem rewrite_log (executionMode : ExecutionMode) :
    (reportsFor sampleKey (handedOn (rewriteTrace executionMode))).map
      (fun r => (r.record.signal, r.published)) =
      [(.started, true), (.ended, executionMode.emitsEvents)] := by
  cases executionMode <;> decide +kernel

theorem samplePolicies_winner {p : DetectionPolicy}
    (h : (samplePolicies executionMode).winnerFor key = some p) :
    p.executionMode = executionMode := by
  have hget := (winnerFor_spec h).1
  simp only [samplePolicies, PolicySet.get, PolicySet.add, PolicySet.empty, get_insert] at hget
  split at hget
  · cases hget
    rfl
  · simp at hget

/-- Rewriting the alerting policy as a dry run keeps publishing, so its end goes out. -/
theorem ends_published_of_dryRun :
    EndsPublished (reportsFor sampleKey (handedOn (rewriteTrace .dryRun)))
      (openAt (engineMachine.run (start {} sampleFactory (samplePolicies .alertOnly))
        (rewriteCalls .dryRun)).table sampleKey) := by
  refine ends_published {} sampleFactory (samplePolicies .alertOnly) (rewriteCalls .dryRun) ?_
    sampleKey
  intro st hst
  simp only [rewriteCalls, Machine.trace, mem_cons, not_mem_nil, or_false] at hst
  rcases hst with rfl | rfl | rfl
  · trivial
  · intro key x old new _ _ _ hnew _ _ _
    rw [samplePolicies_winner hnew]
    rfl
  · trivial

/-- Rewriting it as an observing policy, under the same id and version, loses the end of a
detection whose start was published. -/
theorem observed_end_unpublished : ∃ config factory policies calls key,
    ¬EndsPublished
      (reportsFor key (handedOn (engineMachine.trace (start config factory policies) calls)))
      (openAt (engineMachine.run (start config factory policies) calls).table key) := by
  refine ⟨{}, sampleFactory, samplePolicies .alertOnly, rewriteCalls .observe, sampleKey, ?_⟩
  have hclosed : openAt (engineMachine.run (start {} sampleFactory (samplePolicies .alertOnly))
      (rewriteCalls .observe)).table sampleKey = false := by decide +kernel
  have hlog := rewrite_log .observe
  obtain ⟨st, rest, hcons, hst, hrest⟩ := List.map_eq_cons_iff.mp hlog
  obtain ⟨r, tail, rfl, hr, htail⟩ := List.map_eq_cons_iff.mp hrest
  rw [map_eq_nil_iff] at htail
  subst htail
  simp only [Prod.mk.injEq] at hst hr
  rw [hclosed]
  intro h
  rcases h [] st [r] hcons hst.1 hst.2 with ⟨-, hopen⟩ |
    ⟨mid, r', tail, ev, ev', hb, -, -, hpub, -⟩
  · cases hopen
  · have hmem : r' ∈ [r] := by rw [hb]; simp
    rw [mem_singleton] at hmem
    rw [hmem, hr.2] at hpub
    cases hpub

end Tidegard.Detector.Proofs.Publication
