import Tidegard.Mitigator.Proofs.Announced

namespace Tidegard.Mitigator.Proofs.KillSwitch

open List Actions Common Fallible Tables Incident.Basics Mitigation.Guard Action
open Mitigation.Mitigation (MitigationId MitigationRecord MitigationState Command
  Transition carryOut)
open Route Service IncidentPostgres.Mitigation IncidentPostgres.Proofs.Growth Announced
open Mitigation.Proofs.Guarded (sampleHost)

variable {db : Database}

/-- Approved, or on its way up or down: what an engaged switch must not leave behind. -/
def Standing (r : MitigationRecord) : Prop :=
  r.state = .approved ∨ r.state.mayHoldARoute = true

instance (r : MitigationRecord) : Decidable (Standing r) := inferInstanceAs (Decidable (_ ∨ _))

/-- GoBGP was asked to withdraw the route of the mitigation. -/
def Withdrawn (setting : Setting) (r : MitigationRecord) (log : List Entry) : Prop :=
  ∃ e ∈ log, ∃ down : MitigationRecord, down.id = r.id ∧
    e.sent = .withdraw (some down) (withdrawal setting.text r.target r.action)

/-- Every call on the database and on GoBGP succeeds, and nothing but the pass changes the store. -/
structure Calm (w : World) : Prop where
  alone : ∀ access, w.others access = []
  stored : ∀ access, w.fault access = none
  sent : ∀ call, w.refusal call = none

/-- The columns take the record, and the record after two more changes. -/
def Writable (r : MitigationRecord) : Prop :=
  approverColumns r.approvedBy = .ok () ∧ r.version + 2 < 2 ^ 63

instance (r : MitigationRecord) : Decidable (Writable r) := inferInstanceAs (Decidable (_ ∧ _))

section Store

variable {s : Session} {m : Mitigator} {r r' : MitigationRecord} {w : World}

theorem access_calm {call : Call α} (calm : Calm w)
    (h : call (w.now s.accesses) s.db = (.ok a, db)) :
    access call (setting, w) s = (.ok a, { s with
      db, accesses := s.accesses + 1, switches := s.switches ++ [s.db.controls.engaged] }) := by
  have hdb : s.interfered setting w = s.db := by
    unfold Session.interfered
    rw [calm.alone]
    rfl
  unfold access
  simp only [hdb, calm.stored, h]

def Holds (s : Session) (r : MitigationRecord) : Prop :=
  ∃ row, s.db.mitigations[r.id]? = some row ∧ row.record = r

/-- Only the one mitigation is kept differently, and nothing is sent. -/
structure Rewritten (s t : Session) (r : MitigationRecord) : Prop where
  holds : Holds t r
  others : ∀ id, id ≠ r.id → t.db.mitigations[id]? = s.db.mitigations[id]?
  log : t.log = s.log

/-- A command of the mitigator that closes a way to a route is carried out and written. -/
theorem change_done (calm : Calm w) (held : Holds s r)
    (hcarry : carryOut (m.context r) command r = .ok (r', edge)) (hid : r'.id = r.id)
    (hto : ¬(edge.toState = .approved ∨ edge.toState = .announcing))
    (hactor : edge.actor = (m.context r).actor)
    (writable : approverColumns r'.approvedBy = .ok () ∧ r'.version < 2 ^ 63) :
    ∃ t, access (changeRecording m.guard (m.context r) r.id none command) (setting, w) s =
      (.ok r', t) ∧ Rewritten s t r' := by
  obtain ⟨row, hrow, rfl⟩ := held
  have hload : load (m.context row.record) row.record.id s.db = .ok row.record := by
    unfold load
    rw [hrow]
    exact if_pos rfl
  have hchecked (killSwitch : Bool) : checked m.guard (m.context row.record) command killSwitch
      row.record = .ok (r', edge) := by
    unfold checked
    rw [hcarry, ok_bind]
    dsimp only
    rw [if_neg hto]
    rfl
  have hchanged : changed m.guard (m.context row.record) row.record.id none command s.db =
      .ok r' := by
    unfold changed
    rw [hload, ok_bind]
    simp only [checkVersion, hchecked, writable.1, versionColumn, if_pos writable.2, hactor]
    rfl
  have hcall : changeRecording m.guard (m.context row.record) row.record.id none command
      (w.now s.accesses) s.db = (.ok r', s.db.update (w.now s.accesses) r') := by
    unfold changeRecording
    rw [hchanged]
  refine ⟨_, access_calm calm hcall, ?_⟩
  rw [← hid] at hrow
  refine ⟨?_, fun other hother => ?_, rfl⟩
  · unfold Holds
    rw [Database.update, hrow]
    exact ⟨_, get_insert_self _ _ _, rfl⟩
  · dsimp only
    rw [Database.update, hrow]
    exact get_insert_ne _ _ hother.symm

theorem check_execute (m : Mitigator) (r : MitigationRecord) :
    Mitigation.Mitigation.check (m.context r) .mitigationExecute r = .ok () := by
  exact if_pos rfl

theorem execute_eq (h : r.state.canTransitionTo dest = true) :
    Mitigation.Mitigation.execute (m.context r) dest detail r =
      .ok (Mitigation.Mitigation.apply (m.context r) .mitigationExecute dest detail r) := by
  unfold Mitigation.Mitigation.execute Mitigation.Mitigation.allowed
  rw [check_execute, h]
  rfl

theorem Writable.next (h : Writable r) : (r.version + 1) % 2 ^ 64 < 2 ^ 63 := by
  obtain ⟨-, h⟩ := h
  omega

theorem beginWithdrawal_done (setting : Setting) (m : Mitigator) (calm : Calm w) (held : Holds s r) (writable : Writable r)
    (hup : r.state.canTransitionTo (if r.state = .approved then .withdrawn else .withdrawing) = true) :
    ∃ down t, access (beginWithdrawal m.guard (m.context r) r.id .killSwitch) (setting, w) s =
      (.ok down, t) ∧ Rewritten s t down ∧ about down = about r ∧ down.dryRun = r.dryRun ∧
      down.state = (if r.state = .approved then .withdrawn else .withdrawing) ∧
      down.approvedBy = r.approvedBy ∧ down.version = (r.version + 1) % 2 ^ 64 := by
  have hcarry : carryOut (m.context r) (.beginWithdrawal .killSwitch) r =
      .ok (Mitigation.Mitigation.apply (m.context r) .mitigationExecute
        (if r.state = .approved then .withdrawn else .withdrawing)
        (some "kill_switch") { r with withdrawal := some .killSwitch }) := by
    simp only [carryOut, Mitigation.Mitigation.beginWithdrawal, Mitigation.Mitigation.takeDown,
      Mitigation.Mitigation.allowed, check_execute, hup]
    rfl
  obtain ⟨t, haccess, hrewritten⟩ := change_done calm held hcarry rfl
    (by dsimp only [Mitigation.Mitigation.apply]; split <;> decide) rfl ⟨writable.1, writable.next⟩
  exact ⟨_, t, haccess, hrewritten, rfl, rfl, rfl, rfl, rfl⟩

theorem execute_done (setting : Setting) (m : Mitigator) (command : Command)
    (dest : MitigationState) (calm : Calm w) (held : Holds s r) (hversion : r.version + 1 < 2 ^ 63)
    (happrover : approverColumns r.approvedBy = .ok ())
    (hcarry : ∀ ctx, carryOut ctx command r = Mitigation.Mitigation.execute ctx dest none r)
    (hto : r.state.canTransitionTo dest = true) (hended : dest.isTerminal = true) :
    ∃ ended t, access (changeRecording m.guard (m.context r) r.id none command) (setting, w) s =
      (.ok ended, t) ∧ Rewritten s t ended ∧ about ended = about r ∧
      ended.state.isTerminal = true := by
  have hversion' : (r.version + 1) % 2 ^ 64 < 2 ^ 63 := by omega
  obtain ⟨t, haccess, hrewritten⟩ := change_done calm held ((hcarry _).trans (execute_eq hto)) rfl
    (by rintro (h | h) <;> (cases h; cases hended)) rfl ⟨happrover, hversion'⟩
  exact ⟨_, t, haccess, hrewritten, rfl, hended⟩

theorem sendWithdrawal_done (calm : Calm w) :
    Mitigator.sendWithdrawal record target action (setting, w) s = (.ok (), { s with
      log := s.log ++ [⟨.withdraw record (withdrawal setting.text target action), s.switches⟩] }) := by
  unfold Mitigator.sendWithdrawal send
  simp only [calm.sent]

end Store

section Steps

variable {m : Mitigator} {s : Session} {r r' : MitigationRecord} {w : World}
variable {report : Mitigator.Report} {item : WorkItem} {items : List WorkItem}

/-- What a step leaves of the mitigation it works on: it is down, its route was withdrawn, and
nothing else was touched. -/
structure Settled (setting : Setting) (r : MitigationRecord) (s t : Session) : Prop where
  down : ∀ row, t.db.mitigations[r.id]? = some row → ¬Standing row.record
  others : ∀ id, id ≠ r.id → t.db.mitigations[id]? = s.db.mitigations[id]?
  log : s.log ⊆ t.log
  sent : r.state.mayHoldARoute = true → r.dryRun = some false → Withdrawn setting r t.log

theorem not_standing_of_terminal (h : r.state.isTerminal = true) : ¬Standing r := by
  revert h
  unfold Standing
  generalize r.state = state
  cases state <;> decide

theorem Rewritten.settled (h : Rewritten s t r') (habout : about r' = about r)
    (hended : r'.state.isTerminal = true)
    (hsent : r.state.mayHoldARoute = true → r.dryRun = some false → Withdrawn setting r s.log) :
    Settled setting r s t := by
  have hid : r'.id = r.id := congrArg Prod.fst habout
  obtain ⟨row, hrow, rfl⟩ := h.holds
  rw [hid] at hrow
  refine ⟨?_, fun id hne => h.others id (by rwa [hid]), h.log ▸ List.Subset.refl _,
    fun hroute hdry => h.log ▸ hsent hroute hdry⟩
  intro row' hrow'
  rw [hrow] at hrow'
  cases hrow'
  exact not_standing_of_terminal hended

theorem Rewritten.settled_unrouted (h : Rewritten s t r') (habout : about r' = about r)
    (hended : r'.state.isTerminal = true) (hnone : r.state.mayHoldARoute = false) :
    Settled setting r s t := by
  refine h.settled habout hended fun hroute => ?_
  rw [hnone] at hroute
  cases hroute

/-- The pass goes on, with as many errors as before, and the mitigation is settled. -/
def Settles (setting : Setting) (w : World) (x : Pass Mitigator.Report) (errors : Nat)
    (r : MitigationRecord) (s : Session) : Prop :=
  ∃ report t, x (setting, w) s = (.ok report, t) ∧ report.errors = errors ∧ Settled setting r s t

theorem markWithdrawn_settles (report : Mitigator.Report) (calm : Calm w) (held : Holds s r)
    (hstate : r.state = .withdrawing) (hversion : r.version + 1 < 2 ^ 63)
    (happrover : approverColumns r.approvedBy = .ok ())
    (hsent : r.dryRun = some false → Withdrawn setting r s.log) :
    Settles setting w (access (markWithdrawn m.guard (m.context r) r.id) >>= fun _ =>
      pure { report with withdrawn := report.withdrawn + 1 }) report.errors r s := by
  obtain ⟨ended, t, haccess, hrewritten, habout, hended⟩ := execute_done setting m
    .markWithdrawn .withdrawn calm held hversion happrover
    (fun ctx => by simp [carryOut, Mitigation.Mitigation.markWithdrawn, hstate])
    (by rw [hstate]; rfl) rfl
  exact ⟨_, t, bind_of_ok haccess, rfl, hrewritten.settled habout hended fun _ => hsent⟩

theorem takeDown_settles (setting : Setting) (report : Mitigator.Report) (calm : Calm w)
    (hbgp : m.gobgp = true) (held : Holds s r)
    (hstate : r.state = .withdrawing) (hversion : r.version + 1 < 2 ^ 63)
    (happrover : approverColumns r.approvedBy = .ok ()) :
    Settles setting w (m.takeDown r report) report.errors r s := by
  unfold Mitigator.takeDown
  rw [if_neg (by rw [hstate]; decide)]
  split
  · obtain ⟨done, t, hdone, herrors, hsettled⟩ := markWithdrawn_settles (m := m)
      (s := { s with log := s.log ++
        [⟨.withdraw (some r) (withdrawal setting.text r.target r.action), s.switches⟩] })
      report calm held hstate hversion happrover fun _ =>
        ⟨_, mem_append_right _ mem_cons_self, r, rfl, rfl⟩
    refine ⟨done, t, ?_, herrors, hsettled.down, hsettled.others,
      fun e he => hsettled.log (mem_append_left _ he), hsettled.sent⟩
    rw [live_bind, if_pos hbgp, bind_of_ok (sendWithdrawal_done calm)]
    exact hdone
  · rename_i hdry
    exact markWithdrawn_settles report calm held hstate hversion happrover fun h => absurd h hdry

theorem Withdrawn.of_about (h : Withdrawn setting r' log) (habout : about r' = about r) :
    Withdrawn setting r log := by
  obtain ⟨e, he, down, hid, hsent⟩ := h
  simp only [about, Prod.mk.injEq] at habout
  obtain ⟨hid', -, htarget, haction, -⟩ := habout
  exact ⟨e, he, down, hid.trans hid', by rw [hsent, htarget, haction]⟩

theorem bringDown_settles (calm : Calm w) (hbgp : m.gobgp = true) (held : Holds s r)
    (writable : Writable r) (hup : r.state = .announcing ∨ r.state = .active) :
    Settles setting w (m.bringDown r .killSwitch report) report.errors r s := by
  have hnot : r.state ≠ .approved := by rcases hup with h | h <;> rw [h] <;> decide
  obtain ⟨down, u, hbegin, hrewritten, habout, hdry, hstate, happrover, hversion⟩ :=
    beginWithdrawal_done setting m calm held writable
      (by rw [if_neg hnot]; rcases hup with h | h <;> rw [h] <;> rfl)
  rw [if_neg hnot] at hstate
  have hid : down.id = r.id := congrArg Prod.fst habout
  have hroom := writable.2
  obtain ⟨done, t, htake, herrors, hdone⟩ := takeDown_settles setting report calm hbgp hrewritten.holds hstate (by omega) (happrover ▸ writable.1)
  refine ⟨done, t, (bind_of_ok hbegin).trans htake, herrors, hid ▸ hdone.down, fun id hne => ?_,
    hrewritten.log ▸ hdone.log, fun _ hlive => ?_⟩
  · exact (hdone.others id (by rwa [hid])).trans (hrewritten.others id (by rwa [hid]))
  · exact (hdone.sent (by rw [hstate]; rfl) (hdry.trans hlive)).of_about habout

theorem step_settles (setting : Setting) (report : Mitigator.Report) (calm : Calm w)
    (hbgp : m.gobgp = true) (held : Holds s item.record)
    (writable : Writable item.record) :
    Settles setting w (m.step item true report) report.errors item.record s := by
  -- what is left alone has no route and is not approved
  have hidle (hnot : ¬Standing item.record) :
      Settles setting w (pure report) report.errors item.record s := by
    refine ⟨report, s, rfl, rfl, ?_, fun _ _ => rfl, List.Subset.refl _,
      fun hroute => absurd (Or.inr hroute) hnot⟩
    intro row hrow
    obtain ⟨row', hrow', hrecord⟩ := held
    rw [hrow] at hrow'
    cases hrow'
    rwa [hrecord]
  have hversion : item.record.version + 1 < 2 ^ 63 := by
    obtain ⟨-, h⟩ := writable
    omega
  have hawaiting (hwaits : item.record.state = .proposed ∨ item.record.state = .requested) :
      Settles setting w (if item.approvalExpired then do
          let _ ← access (expire m.guard (m.context item.record) item.record.id)
          return { report with expired := report.expired + 1 }
        else pure report) report.errors item.record s := by
    have hnot : ¬Standing item.record := by
      unfold Standing
      rcases hwaits with h | h <;> rw [h] <;> decide
    split
    · obtain ⟨ended, t, haccess, hrewritten, habout, hended⟩ := execute_done setting m
        .expire .expired calm held hversion writable.1
        (fun _ => rfl) (by rcases hwaits with h | h <;> rw [h] <;> rfl) rfl
      exact ⟨_, t, bind_of_ok haccess, rfl, hrewritten.settled_unrouted habout hended
        (Bool.eq_false_iff.mpr fun hroute => hnot (Or.inr hroute))⟩
    · exact hidle hnot
  unfold Mitigator.step
  dsimp only
  cases hstate : item.record.state with
  | proposed => exact hawaiting (.inl hstate)
  | requested => exact hawaiting (.inr hstate)
  | approved =>
    obtain ⟨ended, t, haccess, hrewritten, habout, -, hended, -⟩ :=
      beginWithdrawal_done setting m calm held writable (by rw [hstate]; rfl)
    rw [if_pos hstate] at hended
    exact ⟨_, t, bind_of_ok haccess, rfl,
      hrewritten.settled_unrouted habout (by rw [hended]; rfl) (by rw [hstate]; rfl)⟩
  | announcing => exact bringDown_settles calm hbgp held writable (.inl hstate)
  | active => exact bringDown_settles calm hbgp held writable (.inr hstate)
  | withdrawing => exact takeDown_settles setting report calm hbgp held hstate hversion writable.1
  | withdrawn | rejected | expired | failed =>
    exact hidle (not_standing_of_terminal (by rw [hstate]; rfl))

/-- What a pass without a failed step leaves of all it works on. By induction on the work: an item
still to come is held as it was, since the steps before it concern other mitigations. -/
structure Cleared (setting : Setting) (items : List WorkItem) (s u : Session) : Prop where
  down : ∀ item ∈ items, ∀ row, u.db.mitigations[item.record.id]? = some row →
    ¬Standing row.record
  others : ∀ id, (∀ item ∈ items, id ≠ item.record.id) →
    u.db.mitigations[id]? = s.db.mitigations[id]?
  log : s.log ⊆ u.log
  sent : ∀ item ∈ items, item.record.state.mayHoldARoute = true →
    item.record.dryRun = some false → Withdrawn setting item.record u.log

theorem Withdrawn.mono (h : Withdrawn setting r log) (hsub : log ⊆ log') :
    Withdrawn setting r log' := by
  obtain ⟨e, he, hsent⟩ := h
  exact ⟨e, hsub he, hsent⟩

theorem steps_cleared (setting : Setting) (report : Mitigator.Report) (calm : Calm w)
    (hbgp : m.gobgp = true)
    (held : ∀ item ∈ items, Holds s item.record) (writable : ∀ item ∈ items, Writable item.record)
    (distinct : items.Pairwise fun a b => a.record.id ≠ b.record.id) :
    ∃ final u, m.steps true items report (setting, w) s = (.ok final, u) ∧
      final.errors = report.errors ∧ Cleared setting items s u := by
  induction items generalizing report s with
  | nil =>
    exact ⟨report, s, rfl, rfl, fun _ h => absurd h not_mem_nil, fun _ _ => rfl,
      List.Subset.refl _, fun _ h => absurd h not_mem_nil⟩
  | cons item items ih =>
    obtain ⟨hne, hdistinct⟩ := List.pairwise_cons.mp distinct
    obtain ⟨hfirst, hrest⟩ := forall_mem_cons.mp writable
    obtain ⟨report', t, hstep, herrors, hsettled⟩ := step_settles setting report
      calm hbgp (held item mem_cons_self) hfirst
    have hheld (later : WorkItem) (hlater : later ∈ items) : Holds t later.record := by
      obtain ⟨row, hrow, hrecord⟩ := held later (mem_cons_of_mem _ hlater)
      exact ⟨row, (hsettled.others _ (hne later hlater).symm).trans hrow, hrecord⟩
    obtain ⟨final, u, hsteps, herrors', hcleared⟩ := ih report' hheld hrest hdistinct
    refine ⟨final, u, ?_, herrors'.trans herrors, ?_, fun id hid => ?_,
      fun e he => hcleared.log (hsettled.log he), ?_⟩
    · unfold Mitigator.steps
      rw [bind_of_ok (attempt_eq.mpr ⟨_, rfl, hstep⟩)]
      exact hsteps
    · intro other hother row hrow
      rcases List.mem_cons.mp hother with rfl | hlater
      · rw [hcleared.others _ hne] at hrow
        exact hsettled.down row hrow
      · exact hcleared.down other hlater row hrow
    · exact (hcleared.others id fun i hi => hid i (mem_cons_of_mem _ hi)).trans
        (hsettled.others id (hid item mem_cons_self))
    · intro other hother hroute hlive
      rcases List.mem_cons.mp hother with rfl | hlater
      · exact (hsettled.sent hroute hlive).mono hcleared.log
      · exact hcleared.sent other hlater hroute hlive

end Steps

theorem live_distinct (db : Database) : db.live.Pairwise fun a b => a.record.id ≠ b.record.id := by
  have hkeys : (db.mitigations.toList.map Prod.snd).Pairwise
      fun a b => a.record.id ≠ b.record.id := by
    rw [pairwise_map]
    refine (toList_pairwise db.mitigations).imp_of_mem fun {a b} ha hb hne => ?_
    rw [db.keyed a.1 a.2 ((mem_toList _ _ _).mp ha), db.keyed b.1 b.2 ((mem_toList _ _ _).mp hb)]
    exact hne
  unfold Database.live
  exact (List.Perm.pairwise_iff (fun h => h.symm) (perm_insertionSort _ _)).mpr
    (hkeys.filter _)

theorem standing_live (h : Standing r) : r.state.isTerminal = false :=
  Bool.eq_false_iff.mpr fun hended => not_standing_of_terminal hended h

theorem runOnce_cleared {m : Mitigator} (setting : Setting) (calm : Calm w) (hbgp : m.gobgp = true)
    (writable : ∀ (id : MitigationId) row, db.mitigations[id]? = some row → Writable row.record)
    (engaged : (db.controls.engaged || m.guard.config.killSwitch) = true) :
    ∃ report s, m.runOnce (setting, w) { db } = (.ok report, s) ∧ report.errors = 0 ∧
      Cleared setting ((db.live.take batch).map
        (workItem m.guard.config.approvalWindowSeconds (w.now 1))) { db } s := by
  have hfirst : ∀ item ∈ (db.live.take batch).map
      (workItem m.guard.config.approvalWindowSeconds (w.now 1)),
      ∃ row, db.mitigations[item.record.id]? = some row ∧ row.record = item.record := by
    intro item hitem
    obtain ⟨row, hrow, rfl⟩ := List.mem_map.mp hitem
    exact ⟨row, (mem_live.mp (mem_of_mem_take hrow)).1, rfl⟩
  have hdistinct : ((db.live.take batch).map
      (workItem m.guard.config.approvalWindowSeconds (w.now 1))).Pairwise
        fun a b => a.record.id ≠ b.record.id :=
    List.pairwise_map.mpr ((live_distinct db).sublist (take_sublist _ _))
  obtain ⟨report, s, hsteps, herrors, hcleared⟩ := steps_cleared (m := m)
    (s := { db, accesses := 2, switches := [db.controls.engaged, db.controls.engaged] })
    setting { killSwitch := true } calm hbgp hfirst
    (fun item hitem => by
      obtain ⟨row, hrow, hrecord⟩ := hfirst item hitem
      exact hrecord ▸ writable _ row hrow) hdistinct
  refine ⟨report, s, ?_, herrors, hcleared.down, hcleared.others, nil_subset _, hcleared.sent⟩
  unfold Mitigator.runOnce
  rw [bind_of_ok (access_calm calm rfl)]
  dsimp only
  rw [engaged, bind_of_ok (access_calm calm rfl)]
  refine (bind_of_ok hsteps).trans ?_
  simp only [Bool.not_true, Bool.and_false, Bool.false_eq_true, if_false]
  rfl

/-- In a pass with the switch engaged of a mitigator with a connection, in which every call on the
database and on GoBGP succeeds and nothing else changes the store, no step fails, and everything is
taken down exactly when all that stands is among the five hundred oldest live mitigations, those
that await approval included. -/
theorem takes_everything_down_iff (setting : Setting) (m : Mitigator) (w : World) (db : Database)
    (calm : Calm w) (hbgp : m.gobgp = true)
    (writable : ∀ (id : MitigationId) row, db.mitigations[id]? = some row → Writable row.record)
    (engaged : (db.controls.engaged || m.guard.config.killSwitch) = true) :
    ∃ report s, m.runOnce (setting, w) { db } = (.ok report, s) ∧ report.errors = 0 ∧
    (((∀ (id : MitigationId) row, s.db.mitigations[id]? = some row → ¬Standing row.record) ∧
      ∀ (id : MitigationId) row, db.mitigations[id]? = some row →
        row.record.state.mayHoldARoute = true → row.record.dryRun = some false →
          Withdrawn setting row.record s.log) ↔
      ∀ row ∈ db.live, Standing row.record → row ∈ db.live.take batch) := by
  obtain ⟨report, s, hrun, herrors, hcleared⟩ := runOnce_cleared setting calm hbgp writable engaged
  refine ⟨report, s, hrun, herrors, ?_⟩
  -- a row is worked on exactly when it is among the first
  have hworked (row : Row) (hrow : row ∈ db.live.take batch) :
      workItem m.guard.config.approvalWindowSeconds (w.now 1) row ∈ (db.live.take batch).map
        (workItem m.guard.config.approvalWindowSeconds (w.now 1)) := mem_map_of_mem hrow
  have huntouched (row : Row) (hlive : row ∈ db.live) (hrow : row ∉ db.live.take batch) :
      s.db.mitigations[row.record.id]? = some row := by
    have hget := (mem_live.mp hlive).1
    refine (hcleared.others _ fun item hitem hid => hrow ?_).trans hget
    obtain ⟨other, hother, rfl⟩ := List.mem_map.mp hitem
    have hget' := (mem_live.mp (mem_of_mem_take hother)).1
    have hid' : row.record.id = other.record.id := hid
    rw [← hid', hget] at hget'
    cases hget'
    exact hother
  constructor
  · intro ⟨hdown, _⟩ row hlive hstanding
    by_contra hrow
    exact hdown _ row (huntouched row hlive hrow) hstanding
  · intro hall
    have hfirst (id : MitigationId) (row : Row) (hget : db.mitigations[id]? = some row)
        (hstanding : Standing row.record) : row ∈ db.live.take batch := by
      have hid : row.record.id = id := db.keyed id row hget
      exact hall row (mem_live.mpr ⟨by rw [hid]; exact hget, standing_live hstanding⟩) hstanding
    refine ⟨fun id row hrow hstanding => ?_, fun id row hget hroute hlive => ?_⟩
    · -- the row was not there to be worked on, so it is the one there was before
      have hout : ∀ item ∈ (db.live.take batch).map
          (workItem m.guard.config.approvalWindowSeconds (w.now 1)), id ≠ item.record.id := by
        intro item hitem hid
        exact hcleared.down item hitem row (hid ▸ hrow) hstanding
      have hget := (hcleared.others id hout).symm.trans hrow
      exact hout _ (hworked row (hfirst id row hget hstanding)) (db.keyed id row hget).symm
    · exact hcleared.sent _ (hworked row (hfirst id row hget (Or.inr hroute))) hroute hlive

/-- One host for each number. -/
def numberedHost (n : Nat) : Mitigation.Prefix.Prefix :=
  match Mitigation.Prefix.Prefix.new (.v4 (0x0A000000#32 + BitVec.ofNat 32 n)) 32 with
  | .ok p => p
  | .error _ => sampleHost

def numberedRow (state : MitigationState) (dryRun : Option Bool) (n : Nat) (createdAt : Int) :
    Row where
  record := {
    id := toString n, tenant := "acme", incidentId := none, target := numberedHost n, action := .rtbh
    reason := "attack", duration := fromSecs 60, state, version := 1
    requestedBy := .operator "alice", approvedBy := none, dryRun
    withdrawal := none, lastError := none }
  createdAt
  expiresAt := none

/-- The switch is engaged with one mitigation active, and `n` older requests await approval. -/
def crowded : Nat → Database
  | 0 => addRow { controls := { engaged := true } } (numberedRow .active (some false) 0 1)
  | n + 1 => addRow (crowded n) (numberedRow .requested none (n + 1) 0)

theorem crowded_engaged (n : Nat) : (crowded n).controls.engaged = true := by
  induction n with
  | zero => rfl
  | succ n ih => exact ih

theorem crowded_writable (n : Nat) (id : MitigationId) (row : Row)
    (h : (crowded n).mitigations[id]? = some row) : Writable row.record := by
  induction n generalizing id row with
  | zero => exact forall_insert (P := fun _ row => Writable row.record) (by simp) (by decide) h
  | succ n ih =>
    exact forall_insert (P := fun _ row => Writable row.record) ih ⟨rfl, by simp [numberedRow]⟩ h

theorem sampleWorld_calm : Calm sampleWorld := ⟨fun _ => rfl, fun _ => rfl, fun _ => rfl⟩

/-- Five hundred older requests fill the pass, and the active mitigation stays. -/
theorem crowd_left_standing : ∃ s : Session,
    liveMitigator.gobgp = true ∧ Calm sampleWorld ∧ (crowded 500).controls.engaged = true ∧
      (liveMitigator.runOnce (sampleSetting, sampleWorld) { db := crowded 500 }).2 = s ∧
      ∃ (id : MitigationId) (row : Row), s.db.mitigations[id]? = some row ∧ Standing row.record := by
  have hleft : ((liveMitigator.runOnce (sampleSetting, sampleWorld)
      { db := crowded 500 }).2.db.mitigations["0"]?.any fun row => decide (Standing row.record)) =
        true := by
    decide +kernel
  obtain ⟨row, hrow, hstanding⟩ := (Option.any_eq_true _ _).mp hleft
  exact ⟨_, rfl, sampleWorld_calm, crowded_engaged 500, rfl, "0", row, hrow,
    of_decide_eq_true hstanding⟩

/-- With two requests beside it the active mitigation is within the pass, and is taken down. -/
theorem takes_everything_down_iff_crowd : ∃ report s,
    liveMitigator.runOnce (sampleSetting, sampleWorld) { db := crowded 2 } = (.ok report, s) ∧
      report.errors = 0 ∧
      ∀ (id : MitigationId) row, s.db.mitigations[id]? = some row → ¬Standing row.record := by
  obtain ⟨report, s, hrun, herrors, hiff⟩ := takes_everything_down_iff sampleSetting liveMitigator
    sampleWorld (crowded 2) sampleWorld_calm rfl (crowded_writable 2) (by rw [crowded_engaged]; rfl)
  have hfew : (crowded 2).live.length ≤ batch := by decide +kernel
  exact ⟨report, s, hrun, herrors, (hiff.mpr fun row hrow _ => by rwa [take_of_length_le hfew]).1⟩

end Tidegard.Mitigator.Proofs.KillSwitch
