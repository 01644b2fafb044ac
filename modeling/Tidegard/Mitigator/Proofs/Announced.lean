import Tidegard.Mitigator.Service
import Tidegard.Mitigation.Proofs.Guarded
import Tidegard.IncidentPostgres.Proofs.Growth

namespace Tidegard.Mitigator.Proofs.Announced

open List Actions Runs Common Fallible Tables Incident.Basics Mitigation.Guard Actions.Action
open Mitigation.Mitigation (MitigationId MitigationRequest MitigationRecord
  MitigationState MitigationError WithdrawalCause)
open Route Service Service.Mitigator IncidentPostgres.Mitigation IncidentPostgres.Proofs.Growth
open Mitigation.Proofs.Guarded (sampleHost sampleConfig)

variable {m : Mitigator} {r : MitigationRecord}

section Store

variable {w : World} {α : Type} {s : Session}

theorem apply_grown (setting : Setting) (db : Database) (i : Interference) :
    Grown db (i.apply setting db) := by
  unfold Interference.apply
  cases i.operation with
  | request | propose => exact create_grows i.now db
  | approve | reject | withdraw => exact changeRecording_grows i.now db
  | setKillSwitch => exact setKillSwitch_grows i.now db

theorem interfered_grown (setting : Setting) (w : World) (s : Session) :
    Grown s.db (s.interfered setting w) := by
  unfold Session.interfered
  generalize w.others s.accesses = others
  generalize s.db = db
  induction others generalizing db with
  | nil => exact Grown.refl db
  | cons i others ih => exact (apply_grown setting db i).trans (ih _)

/-- Whatever a call on the store answers, it sends nothing and sees the kill switch. -/
theorem access_reached (setting : Setting) (w : World) (hgrows : Grows call) (s : Session) :
    Grown s.db (access call (setting, w) s).2.db ∧
      (access call (setting, w) s).2.log = s.log ∧
      (access call (setting, w) s).2.switches =
        s.switches ++ [(s.interfered setting w).controls.engaged] := by
  have hbefore := interfered_grown setting w s
  unfold access
  dsimp only
  split
  · exact ⟨hbefore, rfl, rfl⟩
  · exact ⟨hbefore.trans (hgrows _ _), rfl, rfl⟩
  · exact ⟨hbefore.trans (hgrows _ _), rfl, rfl⟩

theorem access_ok (h : access call (setting, w) s = (.ok a, t)) :
    ∃ now, call now (s.interfered setting w) = (.ok a, t.db) ∧ t.log = s.log ∧
      t.switches = s.switches ++ [(s.interfered setting w).controls.engaged] := by
  unfold access at h
  dsimp only at h
  split at h
  · cases h
  · cases h
  · obtain ⟨hanswer, rfl⟩ := Prod.mk.inj h
    split at hanswer
    · rename_i hcall
      cases hanswer
      exact ⟨_, Prod.ext hcall rfl, rfl, rfl⟩
    · cases hanswer

theorem work_grows (guard : Guard) (limit : Nat) : Grows (work guard limit) :=
  fun _ db => Grown.refl db

theorem killSwitch_grows : Grows killSwitch := fun _ db => Grown.refl db

theorem proposalCandidates_grows (incidents : List ProposalCandidate) (limit : Nat) :
    Grows (proposalCandidates incidents limit) := fun _ db => Grown.refl db

theorem work_present {guard : Guard} (h : work guard limit now db = (.ok items, db'))
    (hr : r ∈ items.map WorkItem.record) : Present db' r := by
  unfold work at h
  obtain ⟨hitems, rfl⟩ := Prod.mk.inj h
  cases hitems
  obtain ⟨item, hitem, rfl⟩ := List.mem_map.mp hr
  obtain ⟨row, hrow, rfl⟩ := List.mem_map.mp hitem
  exact ⟨row, (mem_live.mp (mem_of_mem_take hrow)).1, rfl⟩

end Store

/-- The kill switch as read by the call that decides on an announcement: of an approved mitigation
the one that begins announcing it, which is the last before the announcement, and of one announced
again the first of the pass. -/
def decidingRead (r : MitigationRecord) (switches : List Bool) : Option Bool :=
  if r.state = .approved then switches.getLast? else switches.head?

/-- The kill switch was off, and the guard accepts what the mitigation is about. -/
def Accepted (guard : Guard) (r : MitigationRecord) (switches : List Bool) : Prop :=
  decidingRead r switches = some false ∧
    guard.check r.tenant r.target r.action r.duration false = .ok ()

theorem check_off {guard : Guard}
    (h : guard.check tenant target action duration engaged = .ok ()) : engaged = false := by
  cases engaged with
  | false => rfl
  | true => cases h

/-- Announcing began in this pass, outside dry-run and past the guard. -/
def Fresh (m : Mitigator) (r : MitigationRecord) (switches : List Bool) : Prop :=
  m.dryRun = false ∧ Accepted m.guard r switches

/-- The pass found the kill switch off and, among its work, the mitigation left announcing by a
live run. -/
structure Resumes (setting : Setting) (m : Mitigator) (w : World) (db : Database)
    (r : MitigationRecord) (switches : List Bool) : Prop where
  connected : m.gobgp = true
  announcing : r.state = .announcing
  live : r.dryRun = some false
  found : ∃ switch s items t, access killSwitch (setting, w) { db } = (.ok switch, s) ∧
    (switch.engaged || m.guard.config.killSwitch) = false ∧
    access (work m.guard batch) (setting, w) s = (.ok items, t) ∧
    r ∈ items.map WorkItem.record ∧ t.switches = switches

/-- Reconciliation found the mitigation active, begun by a live run, and no route of its key. -/
structure Restores (setting : Setting) (m : Mitigator) (w : World) (db : Database)
    (r : MitigationRecord) (switches : List Bool) : Prop where
  connected : m.gobgp = true
  active : r.state = .active
  live : r.dryRun = some false
  found : ∃ items t owned, access (work m.guard batch) (setting, w) { db } = (.ok items, t) ∧
    r ∈ items.map WorkItem.record ∧ (m.ownedRoutes (setting, w) t).1 = .ok owned ∧
    r.duplicateKey setting.text.showAddr ∉ owned.map OwnedRoute.key ∧ t.switches = switches

/-- Every announcement is fresh, or of a mitigation that may be announced without a new
decision. -/
def Accounted (m : Mitigator) (again : MitigationRecord → Prop) (base : List Bool) (e : Entry) :
    Prop :=
  ∀ r p, e.sent = .announce r p → Fresh m r e.switches ∨ (again r ∧ base <+: e.switches)

/-- What holds all through a pass that works on `items` and has seen `base`. -/
structure Sound (m : Mitigator) (again : MitigationRecord → Prop) (items : List MitigationRecord)
    (base : List Bool) (s : Session) : Prop where
  log : ∀ e ∈ s.log, Accounted m again base e
  present : ∀ r ∈ items, Present s.db r
  switches : base <+: s.switches

section Pass

variable {w : World} {m : Mitigator} {again : MitigationRecord → Prop}
variable {items : List MitigationRecord} {base : List Bool} {α : Type}
variable {r : MitigationRecord} {s : Session}

theorem access_keeps (hgrows : Grows call) :
    (access call).Keeps (setting, w) (Sound m again items base) := by
  intro s h
  obtain ⟨hgrown, hlog, hswitches⟩ := access_reached setting w hgrows s
  refine ⟨?_, fun r hr => hgrown r (h.present r hr), ?_⟩
  · rw [hlog]
    exact h.log
  · rw [hswitches]
    exact h.switches.trans (prefix_append _ _)

theorem change_keeps {id : MitigationId} :
    (access (changeRecording m.guard ctx id version command)).Keeps (setting, w)
      (Sound m again items base) :=
  access_keeps changeRecording_grows

theorem live_bind (f : Unit → Pass α) (env : Setting × World) (s : Session) :
    (m.live >>= f) env s = if m.gobgp then f () env s else (.error .noBgp, s) := by
  unfold Mitigator.live
  split <;> rfl

theorem live_keeps : m.live.Keeps (setting, w) I := by
  unfold Mitigator.live
  split
  · exact Keeps.pure _
  · exact Keeps.throw _

theorem withdrawal_keeps :
    (sendWithdrawal record target action).Keeps (setting, w)
      (Sound m again items base) := by
  intro s h
  refine ⟨?_, h.present, h.switches⟩
  intro e he
  rcases List.mem_append.mp he with he | he
  · exact h.log e he
  · obtain rfl := List.mem_singleton.mp he
    intro r p hsent
    cases hsent

theorem announcement_keeps (h : Sound m again items base s) (hr : Fresh m r s.switches ∨ again r) :
    Sound m again items base (m.sendAnnouncement r (setting, w) s).2 := by
  refine ⟨?_, h.present, h.switches⟩
  intro e he
  rcases List.mem_append.mp he with he | he
  · exact h.log e he
  · obtain rfl := List.mem_singleton.mp he
    intro r' p hsent
    cases hsent
    exact hr.imp id fun hagain => ⟨hagain, h.switches⟩

theorem announceLive_keeps (h : Sound m again items base s) (hr : Fresh m r s.switches) :
    Sound m again items base (m.announceLive r report (setting, w) s).2 := by
  have hsent : Sound m again items base (m.sendAnnouncement r (setting, w) s).2 :=
    announcement_keeps h (Or.inl hr)
  unfold announceLive
  rw [live_bind]
  split
  · rcases hsend : m.sendAnnouncement r (setting, w) s with ⟨o, t⟩
    rw [hsend] at hsent
    rw [bind_of_ok (attempt_eq.mpr ⟨o, rfl, hsend⟩)]
    cases o with
    | ok => exact (change_keeps.bind fun _ => Keeps.pure _) t hsent
    | error e =>
      exact (withdrawal_keeps.attempt.bind fun _ =>
        change_keeps.bind fun _ => Keeps.pure _) t hsent
  · exact h

theorem beginAnnouncing_accepted {dryRun : Bool} (happroved : r.state = .approved)
    (hpresent : Present s.db r)
    (h : access (beginAnnouncing m.guard ctx r.id dryRun) (setting, w) s = (.ok record, t)) :
    Accepted m.guard r t.switches := by
  obtain ⟨now, hcall, -, hswitches⟩ := access_ok h
  unfold beginAnnouncing changeRecording at hcall
  split at hcall
  · cases hcall
  · rename_i changed hchanged
    obtain ⟨row, transition, hrow, hcarry, habout, hguard⟩ := changed_ok hchanged
    have hto : transition.toState = .announcing := by
      simp only [Mitigation.Mitigation.carryOut, Mitigation.Mitigation.beginAnnouncing,
        bind_eq_ok, pure_eq_ok] at hcarry
      obtain ⟨-, -, -, -, hcarry⟩ := hcarry
      cases hcarry
      rfl
    have hcheck := guarded_ok (hguard (Or.inr hto))
    obtain ⟨held, hheld, hsame⟩ := interfered_grown setting w s r hpresent
    rw [hrow] at hheld
    cases hheld
    have heq : about changed = about r := habout.trans hsame
    simp only [about, Prod.mk.injEq] at heq
    obtain ⟨-, htenant, htarget, haction, hduration⟩ := heq
    rw [htenant, htarget, haction, hduration] at hcheck
    have hoff := check_off hcheck
    rw [hoff] at hcheck
    refine ⟨?_, hcheck⟩
    rw [decidingRead, if_pos happroved, hswitches, getLast?_concat, hoff]

theorem announce_keeps (hr : r ∈ items) (happroved : r.state = .approved) (report : Mitigator.Report) :
    (m.announce r report).Keeps (setting, w) (Sound m again items base) := by
  unfold Mitigator.announce
  apply change_keeps.bind_attempt
  intro s o t h ht hbegin
  split
  · split
    · exact (change_keeps.bind fun _ => Keeps.pure _) _ ht
    · rename_i hdry
      have haccepted := beginAnnouncing_accepted happroved (h.present r hr) hbegin
      exact announceLive_keeps ht ⟨by simpa using hdry, haccepted⟩
  · refine Keeps.bind (I := Sound m again items base) ?_ (fun _ => Keeps.pure _) _ ht
    exact fun s' h' => (change_keeps : Action.Keeps _ (setting, w) _) s' h'
  · exact ht

theorem takeDown_keeps (r : MitigationRecord) (report : Mitigator.Report) :
    (m.takeDown r report).Keeps (setting, w) (Sound m again items base) := by
  unfold takeDown
  split
  · exact Keeps.pure _
  · split
    · exact live_keeps.bind fun _ => withdrawal_keeps.bind fun _ =>
        change_keeps.bind fun _ => Keeps.pure _
    · exact change_keeps.bind fun _ => Keeps.pure _

theorem bringDown_keeps :
    (m.bringDown r cause report).Keeps (setting, w) (Sound m again items base) :=
  change_keeps.bind fun down => takeDown_keeps down report

theorem resume_keeps (report : Mitigator.Report)
    (hagain : m.gobgp = true → r.dryRun = some false → again r) :
    (m.resume r report).Keeps (setting, w) (Sound m again items base) := by
  unfold resume
  split
  · rename_i hdry
    intro s h
    rw [live_bind]
    split
    · rename_i hbgp
      refine Keeps.bind (I := Sound m again items base) (fun s h => ?_)
        (fun _ => change_keeps.bind fun _ => Keeps.pure _) s h
      exact announcement_keeps h (Or.inr (hagain hbgp hdry))
    · exact h
  · exact change_keeps.bind fun _ => Keeps.pure _

theorem step_keeps {item : WorkItem} (hitem : item.record ∈ items) (killSwitch : Bool)
    (report : Mitigator.Report)
    (hagain : killSwitch = false → m.gobgp = true → item.record.state = .announcing →
      item.record.dryRun = some false → again item.record) :
    (m.step item killSwitch report).Keeps (setting, w) (Sound m again items base) := by
  unfold step
  dsimp only
  split
  · split
    · exact change_keeps.bind fun _ => Keeps.pure _
    · exact Keeps.pure _
  · split
    · exact change_keeps.bind fun _ => Keeps.pure _
    · exact Keeps.pure _
  · rename_i hstate
    split
    · exact change_keeps.bind fun _ => Keeps.pure _
    · exact announce_keeps hitem hstate report
  · rename_i hstate
    split
    · exact bringDown_keeps
    · rename_i hoff
      exact resume_keeps report fun hbgp hdry =>
        hagain (by simpa using hoff) hbgp hstate hdry
  · split
    · exact bringDown_keeps
    · split
      · exact bringDown_keeps
      · exact Keeps.pure _
  · exact takeDown_keeps _ _
  · exact Keeps.pure _

/-- By induction on the work: a failed step has kept the account as well. -/
theorem steps_keeps {work : List WorkItem} (killSwitch : Bool) (report : Mitigator.Report)
    (hwork : ∀ item ∈ work, item.record ∈ items)
    (hagain : ∀ item ∈ work, killSwitch = false → m.gobgp = true →
      item.record.state = .announcing → item.record.dryRun = some false → again item.record) :
    (m.steps killSwitch work report).Keeps (setting, w) (Sound m again items base) := by
  induction work generalizing report with
  | nil => exact Keeps.pure _
  | cons item work ih =>
    have hrest : ∀ report, (m.steps killSwitch work report).Keeps (setting, w)
        (Sound m again items base) := fun report =>
      ih report (fun i hi => hwork i (mem_cons_of_mem _ hi))
        fun i hi => hagain i (mem_cons_of_mem _ hi)
    have hstep : (m.step item killSwitch report).Keeps (setting, w) (Sound m again items base) :=
      step_keeps (hwork item mem_cons_self) killSwitch report (hagain item mem_cons_self)
    unfold steps
    refine hstep.attempt.bind fun o => ?_
    split
    · exact hrest _
    · exact Keeps.pure _
    · exact hrest _

theorem proposeOne_keeps (c : ProposalCandidate) :
    (m.proposeOne c).Keeps (setting, w) (Sound m again items base) := fun s h =>
  access_keeps create_grows s h

theorem proposeAll_keeps (candidates : List ProposalCandidate) (report : Mitigator.Report) :
    (m.proposeAll candidates report).Keeps (setting, w) (Sound m again items base) := by
  induction candidates generalizing report with
  | nil => exact Keeps.pure _
  | cons c candidates ih =>
    unfold proposeAll
    split
    · exact ih report
    · refine (proposeOne_keeps c).attempt.bind fun o => ?_
      split
      · exact ih _
      · exact ih _
      · exact Keeps.throw _

theorem propose_keeps (report : Mitigator.Report) :
    (m.propose report).Keeps (setting, w) (Sound m again items base) := fun s h =>
  ((access_keeps (proposalCandidates_grows _ _)).bind fun candidates =>
    proposeAll_keeps candidates report) s h

theorem withdrawStale_keeps (claimed : List String) (owned : List OwnedRoute) :
    (withdrawStale claimed owned).Keeps (setting, w) (Sound m again items base) := by
  induction owned with
  | nil => exact Keeps.pure _
  | cons route owned ih =>
    unfold withdrawStale
    split
    · exact ih
    · exact withdrawal_keeps.bind fun _ => ih.bind fun _ => Keeps.pure _

theorem restore_keeps (showAddr : IpAddr → String) (owned : List String)
    (hagain : ∀ r ∈ records, r.state = .active → r.duplicateKey showAddr ∉ owned → again r) :
    (m.restore showAddr owned records).Keeps (setting, w) (Sound m again items base) := by
  induction records with
  | nil => exact Keeps.pure _
  | cons r records ih =>
    have hrest := ih fun r' hr' => hagain r' (mem_cons_of_mem _ hr')
    unfold restore
    split
    · rename_i hmissing
      simp only [Bool.and_eq_true, decide_eq_true_eq, Bool.not_eq_true', contains_eq_mem,
        decide_eq_false_iff_not] at hmissing
      refine Keeps.bind (fun s h => ?_) fun _ => hrest.bind fun _ => Keeps.pure _
      exact announcement_keeps h
        (Or.inr (hagain r mem_cons_self hmissing.1 hmissing.2))
    · exact hrest

end Pass

section Passes

variable {m : Mitigator} {w : World}
variable {e : Entry} {r : MitigationRecord}
variable {s : Session}

theorem access_log {α : Type} {call : Call α} {o : Except MitigatorError α} (hgrows : Grows call)
    (h : access call (setting, w) s = (o, t)) : t.log = s.log := by
  have hreached := (access_reached setting w hgrows s).2.1
  rwa [h] at hreached

theorem accounted_of_sound {R : MitigationRecord → List Bool → Prop} (items : List MitigationRecord)
    (base : List Bool) (h : Sound m (R · base) items base s) (he : e ∈ s.log)
    (hsent : e.sent = .announce r p) : Fresh m r e.switches ∨ ∃ sw, R r sw ∧ sw <+: e.switches :=
  (h.log e he r p hsent).imp id fun hr => ⟨base, hr⟩

theorem runOnce_accounted (he : e ∈ (m.runOnce (setting, w) { db }).2.log)
    (hsent : e.sent = .announce r p) :
    Fresh m r e.switches ∨ ∃ sw, Resumes setting m w db r sw ∧ sw <+: e.switches := by
  unfold runOnce at he
  rcases hswitch : access killSwitch (setting, w) { db } with ⟨_ | switch, s⟩
  · rw [bind_error.mpr (Or.inl hswitch), access_log killSwitch_grows hswitch] at he
    cases he
  rw [bind_of_ok hswitch] at he
  rcases hwork : access (work m.guard batch) (setting, w) s with ⟨_ | items, t⟩
  · rw [bind_error.mpr (Or.inl hwork), access_log (work_grows _ _) hwork,
      access_log killSwitch_grows hswitch] at he
    cases he
  rw [bind_of_ok hwork] at he
  obtain ⟨now, hcall, hlog, -⟩ := access_ok hwork
  have hstart : Sound m (fun r => Resumes setting m w db r t.switches) (items.map WorkItem.record) t.switches t := by
    refine ⟨?_, fun r hr => work_present hcall hr, prefix_rfl⟩
    rw [hlog, access_log killSwitch_grows hswitch]
    simp
  refine accounted_of_sound (R := Resumes setting m w db) (items.map WorkItem.record) t.switches ?_ he hsent
  refine Keeps.bind ?_ (fun report => ?_) t hstart
  · apply steps_keeps
    · exact fun item hitem => mem_map_of_mem hitem
    · intro item hitem hoff hbgp hstate hdry
      exact ⟨hbgp, hstate, hdry, switch, s, items, t, hswitch, hoff, hwork,
        mem_map_of_mem hitem, rfl⟩
  · split
    · exact propose_keeps report
    · exact Keeps.pure _

theorem ownedRoutes_state (env : Setting × World) (s : Session) : (m.ownedRoutes env s).2 = s := rfl

theorem reconcile_accounted (he : e ∈ (m.reconcile (setting, w) { db }).2.log)
    (hsent : e.sent = .announce r p) :
    Fresh m r e.switches ∨ ∃ sw, Restores setting m w db r sw ∧ sw <+: e.switches := by
  unfold reconcile at he
  rcases hwork : access (work m.guard batch) (setting, w) { db } with ⟨_ | items, t⟩
  · rw [bind_error.mpr (Or.inl hwork), access_log (work_grows _ _) hwork] at he
    cases he
  obtain ⟨now, hcall, hlog, -⟩ := access_ok hwork
  rw [bind_of_ok hwork, live_bind] at he
  split at he
  case isFalse =>
    rw [hlog] at he
    cases he
  case isTrue hbgp =>
  have hstate := ownedRoutes_state (m := m) (setting, w) t
  rcases howned : m.ownedRoutes (setting, w) t with ⟨_ | owned, t'⟩
  · rw [howned] at hstate
    rw [bind_error.mpr (Or.inl howned), hstate, hlog] at he
    cases he
  rw [howned] at hstate
  obtain rfl : t' = t := hstate
  rw [bind_of_ok howned] at he
  have hstart : Sound m (Restores setting m w db · t'.switches) (items.map WorkItem.record)
      t'.switches t' := by
    refine ⟨?_, fun r hr => work_present hcall hr, prefix_rfl⟩
    rw [hlog]
    simp
  refine accounted_of_sound (R := Restores setting m w db) (items.map WorkItem.record) t'.switches ?_ he hsent
  refine ((withdrawStale_keeps _ _).bind fun _ => Keeps.bind ?_ fun _ =>
    Keeps.pure _) t' hstart
  apply restore_keeps
  intro r hr hactive hmissing
  obtain ⟨hmem, hclaims⟩ := List.mem_filter.mp hr
  simp only [claims, Bool.and_eq_true, decide_eq_true_eq] at hclaims
  exact ⟨hbgp, hactive, hclaims.2, items, t', owned, hwork, hmem, congrArg Prod.fst howned,
    hmissing, rfl⟩

end Passes

abbrev EventStep := Step Database Event (List Entry)

/-- The step is a pass of `m`, and the mitigation is announced in it without a new decision: left
announcing by an earlier process, or missing from GoBGP. -/
inductive Reannounces (setting : Setting) (st : EventStep) (m : Mitigator) (r : MitigationRecord)
    (switches : List Bool) : Prop
  | resumed {w : World} (input : st.input = .runOnce m w)
      (h : Resumes setting m w st.before r switches)
  | restored {w : World} (input : st.input = .reconcile m w)
      (h : Restores setting m w st.before r switches)

def PassOf (m : Mitigator) (st : EventStep) : Prop :=
  ∃ w, st.input = .runOnce m w ∨ st.input = .reconcile m w

theorem announced_or_again (db : Database) (i : Event)
    (hpass : PassOf m ((machine setting).stepAt db i))
    (he : e ∈ ((machine setting).stepAt db i).output) (hsent : e.sent = .announce r p) :
    Fresh m r e.switches ∨
      ∃ sw, Reannounces setting ((machine setting).stepAt db i) m r sw ∧ sw <+: e.switches := by
  obtain ⟨w, hi | hi⟩ := hpass
  · obtain rfl : i = .runOnce m w := hi
    exact (runOnce_accounted he hsent).imp id fun ⟨sw, hr, hsub⟩ => ⟨sw, .resumed rfl hr, hsub⟩
  · obtain rfl : i = .reconcile m w := hi
    exact (reconcile_accounted he hsent).imp id fun ⟨sw, hr, hsub⟩ => ⟨sw, .restored rfl hr, hsub⟩

/-- In dry-run nothing is announced, as long as no mitigation begun by a live run has to be
announced again. -/
theorem dry_run_silent (setting : Setting) (db : Database) (events : List Event)
    (hagain : ∀ st ∈ (machine setting).trace db events, ∀ m r sw,
      Reannounces setting st m r sw → m.guard.effectiveDryRun = false) :
    ∀ st ∈ (machine setting).trace db events, ∀ m, PassOf m st → m.guard.effectiveDryRun = true →
      ∀ e ∈ st.output, ∀ r p, e.sent ≠ .announce r p := by
  intro st hst m hpass hdry e he r p hsent
  have hst' := hst
  obtain ⟨past, i, rest, -, rfl⟩ := (machine setting).mem_trace.mp hst
  rcases announced_or_again _ i hpass he hsent with ⟨hlive, -⟩ | ⟨sw, hr, -⟩
  · simp [Mitigator.dryRun, hdry] at hlive
  · rw [hagain _ hst' m r sw hr] at hdry
    cases hdry

theorem Accepted.later (hr : Reannounces setting st m r sw) (h : Accepted m.guard r sw)
    (hsub : sw <+: switches) : Accepted m.guard r switches := by
  have hstate : r.state ≠ .approved := by
    rcases hr with ⟨-, h⟩ | ⟨-, h⟩
    · rw [h.announcing]
      decide
    · rw [h.active]
      decide
  obtain ⟨hoff, hcheck⟩ := h
  refine ⟨?_, hcheck⟩
  unfold decidingRead at hoff ⊢
  rw [if_neg hstate] at hoff ⊢
  obtain ⟨rest, rfl⟩ := hsub
  rw [head?_append, hoff]
  rfl

/-- The one address of the deployment, as the standard library writes and reads it. -/
def sampleSetting : Setting where
  text := ⟨fun _ => "192.0.2.1", fun _ => some (.v4 0xC0000201#32)⟩
  lower := id

def sampleMitigator (config : GuardConfig) (limits : checkLimits config = .ok ())
    (entries : checkEntries config.allowlist = .ok ())
    (overlaps : checkOverlaps config.allowlist = .ok ()) : Mitigator where
  consumerId := "mitigator"
  guard := ⟨config, limits, entries, overlaps⟩
  routes := { localAsn := 65001, rtbhNextHopIpv4 := 0xC00002FE#32, rtbhNextHopIpv6 := 0 }
  gobgp := config.bgpEnabled
  connected := rfl

def liveMitigator : Mitigator :=
  sampleMitigator { sampleConfig with dryRun := false, bgpEnabled := true } (by decide) (by decide)
    (by decide)

def dryMitigator : Mitigator :=
  sampleMitigator { sampleConfig with bgpEnabled := true } (by decide) (by decide) (by decide)

def addRow (db : Database) (row : Row) : Database :=
  { db with
    mitigations := db.mitigations.insert row.record.id row
    keyed := keyed_insert db.keyed row }

/-- One operator asks for a blackhole and another approves it. -/
def sampleApproved : List Event := [
  .other ⟨liveMitigator.guard, 0, .request ⟨"acme", .operator "alice", [.mitigationRequest]⟩ "m1"
    ⟨sampleHost, .rtbh, "attack", fromSecs 60, none⟩ none⟩,
  .other ⟨liveMitigator.guard, 1, .approve ⟨"acme", .operator "bob", [.mitigationApprove]⟩ "m1" 1⟩]

def sampleWorld : World where
  now := fun _ => 2

/-- The route is sent, and the database is lost before the mitigation is marked active. -/
def interrupted : Event :=
  .runOnce liveMitigator { sampleWorld with
    fault := fun access => if access = 3 then some .before else none }

def announcedRecord : Sent → Option MitigationRecord
  | .announce r _ => some r
  | .withdraw .. => none

theorem announce_of_announcedRecord (h : r ∈ announcedRecord sent) : ∃ p, sent = .announce r p := by
  cases sent with
  | announce r' p =>
    cases h
    exact ⟨p, rfl⟩
  | withdraw => cases h

instance (guard : Guard) (r : MitigationRecord) (switches : List Bool) :
    Decidable (Accepted guard r switches) :=
  inferInstanceAs (Decidable (_ ∧ _))

/-- Dry-run was switched on between the two passes, and the mitigation left announcing by the
first is announced by the second. -/
theorem dry_run_announces :
    ∃ events, ∃ st ∈ (machine sampleSetting).trace {} events, ∃ m, PassOf m st ∧
      m.guard.effectiveDryRun = true ∧ ∃ e ∈ st.output, ∃ r p, e.sent = .announce r p := by
  refine ⟨sampleApproved ++ [interrupted] ++ [.runOnce dryMitigator sampleWorld], _,
    by rw [(machine sampleSetting).trace_snoc]; exact mem_append_right _ mem_cons_self,
    dryMitigator, ⟨sampleWorld, Or.inl rfl⟩, by decide, ?_⟩
  have hsent : ∃ e ∈ ((machine sampleSetting).stepAt ((machine sampleSetting).run {}
      (sampleApproved ++ [interrupted])) (.runOnce dryMitigator sampleWorld)).output,
      (announcedRecord e.sent).isSome = true := by
    decide +kernel
  obtain ⟨e, he, hsome⟩ := hsent
  obtain ⟨r, hr⟩ := Option.isSome_iff_exists.mp hsome
  exact ⟨e, he, r, announce_of_announcedRecord hr⟩

def passWork (m : Mitigator) (w : World) (db : Database) : List MitigationRecord :=
  match (access (work m.guard batch) (sampleSetting, w)
    (access killSwitch (sampleSetting, w) { db }).2).1 with
  | .ok items => items.map WorkItem.record
  | .error _ => []

/-- The sample run with one pass at its end announces nothing again: what it works on is only
approved. -/
theorem nothing_again (hwork : ∀ r ∈ passWork m sampleWorld
      ((machine sampleSetting).run {} sampleApproved), r.state ≠ .announcing) :
    ∀ st ∈ (machine sampleSetting).trace {} (sampleApproved ++ [.runOnce m sampleWorld]),
      ∀ m' r sw, ¬ Reannounces sampleSetting st m' r sw := by
  intro st hst m' r sw hr
  rw [(machine sampleSetting).trace_snoc, mem_append] at hst
  rcases hst with hst | hst
  · obtain ⟨past, i, rest, hsplit, rfl⟩ := (machine sampleSetting).mem_trace.mp hst
    have hi : i ∈ sampleApproved := by rw [hsplit]; simp
    simp only [sampleApproved, mem_cons, not_mem_nil, or_false] at hi
    rcases hi with rfl | rfl <;> rcases hr with ⟨hinput, -⟩ | ⟨hinput, -⟩ <;> cases hinput
  · obtain rfl := List.mem_singleton.mp hst
    rcases hr with ⟨hinput, hresumes⟩ | ⟨hinput, -⟩
    · cases hinput
      obtain ⟨switch, s, items, t, hswitch, -, hitems, hmem, -⟩ := hresumes.found
      refine hwork r ?_ hresumes.announcing
      unfold passWork
      rw [(machine sampleSetting).stepAt_before] at hswitch
      rw [hswitch, hitems]
      exact hmem
    · cases hinput

def samplePass (m : Mitigator) : EventStep :=
  (machine sampleSetting).stepAt ((machine sampleSetting).run {} sampleApproved)
    (.runOnce m sampleWorld)

theorem samplePass_mem (m : Mitigator) : samplePass m ∈
    (machine sampleSetting).trace {} (sampleApproved ++ [.runOnce m sampleWorld]) :=
  (machine sampleSetting).mem_trace.mpr ⟨sampleApproved, _, [], rfl, rfl⟩

theorem samplePass_passOf (m : Mitigator) : PassOf m (samplePass m) :=
  ⟨sampleWorld, Or.inl rfl⟩

/-- A dry pass over the approved mitigation announces nothing. -/
theorem dry_run_silent_sample : dryMitigator.guard.effectiveDryRun = true ∧
    ∀ e ∈ (samplePass dryMitigator).output, ∀ r p, e.sent ≠ .announce r p :=
  ⟨by decide, dry_run_silent sampleSetting {} _ (fun st hst m r sw hr =>
    absurd hr (nothing_again (by decide +kernel) st hst m r sw)) _ (samplePass_mem dryMitigator)
      dryMitigator (samplePass_passOf dryMitigator) (by decide)⟩

end Tidegard.Mitigator.Proofs.Announced
