import Tidegard.Runs
import Tidegard.Mitigation.Proofs.Guarded
import Tidegard.Mitigation.Mitigation

namespace Tidegard.Mitigation.Proofs.TwoPerson

open Common Fallible Runs Incident.Basics Mitigation.Prefix Mitigation.Mitigation

variable {a : MitigationState} {m : MitigationRecord}

/-- One mitigation under commands from any callers. -/
def lifecycle :
    Machine MitigationRecord (AuthorizationContext × Command) (Except MitigationError Transition)
    where
  step m input := perform input.1 input.2 m

abbrev CommandStep :=
  Step MitigationRecord (AuthorizationContext × Command) (Except MitigationError Transition)

/-- The edge a command took, and who took it. -/
structure Took (ctx : AuthorizationContext) (m m' : MitigationRecord) (transition : Transition) :
    Prop where
  own : ctx.tenant = m.tenant
  granted : ctx.has transition.permission = true
  fromState : transition.fromState = some m.state
  toState : transition.toState = m'.state
  edge : m.state.canTransitionTo m'.state = true
  version : m'.version = (m.version + 1) % 2 ^ 64
  tenant : m'.tenant = m.tenant
  requestedBy : m'.requestedBy = m.requestedBy

/-- An approval names its approver. -/
def Approves (ctx : AuthorizationContext) (command : Command) (m m' : MitigationRecord) : Prop :=
  ∃ allowSelfApproval, command = .approve allowSelfApproval ∧ m'.approvedBy = some ctx.actor ∧
    (allowSelfApproval = false → m.requestedBy ≠ ctx.actor) ∧
    ctx.has .mitigationApprove = true

/-- A withdrawal has a cause: this command's, or that of the command before it. -/
def Withdraws (m m' : MitigationRecord) : Prop :=
  m'.withdrawal.isSome = true ∨
    m'.withdrawal = m.withdrawal ∧ m'.state ≠ .withdrawing ∧
      (m'.state = .withdrawn → m.state ≠ .approved)

section Commands

variable {m : MitigationRecord}

theorem require_ok : require ctx permission = .ok u ↔ ctx.has permission = true := by
  unfold require
  split <;> simp_all

theorem check_ok : check ctx permission m = .ok u ↔
    ctx.tenant = m.tenant ∧ ctx.has permission = true := by
  unfold check
  split <;> simp_all [require_ok]

theorem allowed_ok : allowed next m = .ok u ↔ m.state.canTransitionTo next = true := by
  unfold allowed
  split <;> simp_all

/-- Every command ends with `apply`, on a record that differs from the one it was given in what
the command notes. -/
theorem took_apply (h : apply ctx permission next detail noted = (m', transition))
    (own : ctx.tenant = m.tenant) (granted : ctx.has permission = true)
    (edge : m.state.canTransitionTo next = true) (state : noted.state = m.state)
    (version : noted.version = m.version) (tenant : noted.tenant = m.tenant)
    (requestedBy : noted.requestedBy = m.requestedBy) : Took ctx m m' transition := by
  cases h
  exact ⟨own, granted, congrArg some state, rfl, edge, by rw [← version], tenant, requestedBy⟩

theorem approve_took (h : approve ctx allowSelfApproval m = .ok (m', transition)) :
    Took ctx m m' transition ∧ m'.state = .approved ∧
      Approves ctx (.approve allowSelfApproval) m m' ∧ Withdraws m m' := by
  simp only [approve, bind_eq_ok, check_ok, allowed_ok] at h
  obtain ⟨-, ⟨own, granted⟩, -, edge, h⟩ := h
  split at h
  · cases h
  · rename_i hself
    have happly := pure_eq_ok.mp h
    refine ⟨took_apply happly own granted edge rfl rfl rfl rfl, ?_⟩
    cases happly
    refine ⟨rfl, ⟨allowSelfApproval, rfl, rfl, ?_, granted⟩, Or.inr ⟨rfl, by simp, by simp⟩⟩
    intro hdenied
    simpa [hdenied] using hself

/-- What the commands other than an approval do. -/
structure Executed (ctx : AuthorizationContext) (m m' : MitigationRecord)
    (transition : Transition) : Prop where
  took : Took ctx m m' transition
  notApproved : m'.state ≠ .approved
  approvedBy : m'.approvedBy = m.approvedBy
  withdraws : Withdraws m m'

theorem executed_apply (h : apply ctx permission next detail noted = (m', transition))
    (own : ctx.tenant = m.tenant) (granted : ctx.has permission = true)
    (edge : m.state.canTransitionTo next = true) (notApproved : next ≠ .approved)
    (same : { noted with lastError := m.lastError, dryRun := m.dryRun } = m)
    (quiet : next ≠ .withdrawing ∧ (next = .withdrawn → m.state ≠ .approved)) :
    Executed ctx m m' transition := by
  have hnoted : noted = { m with lastError := noted.lastError, dryRun := noted.dryRun } := by
    rw [← same]
  refine ⟨took_apply h own granted edge ?_ ?_ ?_ ?_, ?_, ?_, ?_⟩
  · rw [hnoted]
  · rw [hnoted]
  · rw [hnoted]
  · rw [hnoted]
  · cases h
    exact notApproved
  · cases h
    rw [hnoted]
  · cases h
    refine Or.inr ⟨?_, quiet⟩
    rw [hnoted]

theorem execute_executed (h : execute ctx next detail noted = .ok (m', transition))
    (notApproved : next ≠ .approved)
    (same : { noted with lastError := m.lastError, dryRun := m.dryRun } = m)
    (quiet : next ≠ .withdrawing ∧ (next = .withdrawn → m.state ≠ .approved)) :
    Executed ctx m m' transition := by
  have hstate : noted.state = m.state := by rw [← same]
  have htenant : noted.tenant = m.tenant := by rw [← same]
  simp only [execute, bind_eq_ok, check_ok, allowed_ok, pure_eq_ok] at h
  obtain ⟨-, ⟨own, granted⟩, -, edge, h⟩ := h
  rw [hstate] at edge
  rw [htenant] at own
  exact executed_apply h own granted edge notApproved same quiet

theorem takeDown_executed (own : ctx.tenant = m.tenant) (granted : ctx.has permission = true)
    (h : takeDown ctx permission cause reason m = .ok (m', transition)) :
    Executed ctx m m' transition := by
  simp only [takeDown, bind_eq_ok, allowed_ok, pure_eq_ok] at h
  obtain ⟨-, edge, h⟩ := h
  refine ⟨took_apply h own granted edge rfl rfl rfl rfl, ?_, ?_, ?_⟩
  · cases h
    dsimp only
    split <;> simp
  · cases h
    rfl
  · cases h
    exact Or.inl rfl

theorem carryOut_took (h : carryOut ctx command m = .ok (m', transition)) :
    Executed ctx m m' transition ∨
      Took ctx m m' transition ∧ m'.state = .approved ∧ Approves ctx command m m' ∧
        Withdraws m m' := by
  cases command with
  | approve => exact Or.inr (approve_took h)
  | reject reason =>
    simp only [carryOut, reject, bind_eq_ok, check_ok, allowed_ok, pure_eq_ok] at h
    obtain ⟨-, ⟨own, granted⟩, reason, -, -, edge, h⟩ := h
    exact Or.inl (executed_apply h own granted edge (by decide) rfl (by simp))
  | withdraw reason =>
    simp only [carryOut, withdraw, bind_eq_ok, check_ok] at h
    obtain ⟨-, ⟨own, granted⟩, reason, -, h⟩ := h
    exact Or.inl (takeDown_executed own granted h)
  | beginWithdrawal =>
    simp only [carryOut, beginWithdrawal, bind_eq_ok, check_ok] at h
    obtain ⟨-, ⟨own, granted⟩, h⟩ := h
    exact Or.inl (takeDown_executed own granted h)
  | beginAnnouncing =>
    simp only [carryOut, beginAnnouncing, bind_eq_ok, check_ok, allowed_ok, pure_eq_ok] at h
    obtain ⟨-, ⟨own, granted⟩, -, edge, h⟩ := h
    exact Or.inl (executed_apply h own granted edge (by decide) rfl (by simp))
  | markActive | markFailed | expire =>
    exact Or.inl (execute_executed h (by decide) rfl (by simp))
  | markWithdrawn =>
    simp only [carryOut, markWithdrawn] at h
    split at h
    · cases h
    · rename_i hstate
      exact Or.inl (execute_executed h (by decide) rfl ⟨by decide, fun _ => hstate⟩)

theorem took_of_carryOut (h : carryOut ctx command m = .ok (m', transition)) :
    Took ctx m m' transition := by
  rcases carryOut_took h with executed | ⟨took, -⟩
  · exact executed.took
  · exact took

end Commands

theorem refused_same (command : Command) (m : MitigationRecord) :
    ∃ lastError, refused command m = { m with lastError := lastError } := by
  cases command with
  | markFailed => exact ⟨_, rfl⟩
  | _ => exact ⟨m.lastError, rfl⟩

/-- How many commands can have succeeded by the time a state is reached. -/
def rank : MitigationState → Nat
  | .proposed | .requested => 1
  | .approved | .rejected | .expired => 2
  | .announcing => 3
  | .active | .failed => 4
  | .withdrawing => 5
  | .withdrawn => 6

theorem rank_lt (h : a.canTransitionTo b = true) : rank a < rank b := by
  cases a <;> cases b <;> first | decide | cases h

theorem rank_le (a : MitigationState) : rank a ≤ 6 := by
  cases a <;> decide

/-- The states a mitigation is in before or without approval. -/
def Unapproved : MitigationState → Bool
  | .proposed | .requested | .rejected | .expired => true
  | _ => false

theorem unapproved_of_edge (h : a.canTransitionTo b = true) (notApproved : b ≠ .approved)
    (hb : Unapproved b = false) : Unapproved a = false := by
  revert h notApproved hb
  cases a <;> cases b <;> decide

/-- An approval in the history, by the approver on record. -/
def ApprovedIn (past : List CommandStep) (m : MitigationRecord) : Prop :=
  ∃ st ∈ past, ∃ ctx allowSelfApproval transition, st.input = (ctx, .approve allowSelfApproval) ∧
    st.output = .ok transition ∧ ctx.tenant = m.tenant ∧ ctx.has .mitigationApprove = true ∧
    m.approvedBy = some ctx.actor ∧ (allowSelfApproval = false → m.requestedBy ≠ ctx.actor)

theorem ApprovedIn.mono (h : ApprovedIn past m) (sub : past ⊆ past')
    (tenant : m'.tenant = m.tenant) (approvedBy : m'.approvedBy = m.approvedBy)
    (requestedBy : m'.requestedBy = m.requestedBy) : ApprovedIn past' m' := by
  obtain ⟨st, hst, ctx, allowSelf, transition, hinput, houtput, hown, hgranted, hby, hself⟩ := h
  refine ⟨st, sub hst, ctx, allowSelf, transition, hinput, houtput, tenant ▸ hown, hgranted, ?_, ?_⟩
  · rw [approvedBy, hby]
  · rw [requestedBy]
    exact hself

/-- What a history and the record it leads to have in common. -/
structure Accounted (tenant : TenantId) (past : List CommandStep) (m : MitigationRecord) :
    Prop where
  tenant : m.tenant = tenant
  version : m.version ≤ rank m.state
  approved : Unapproved m.state = false → ApprovedIn past m
  withdrawal : m.state = .withdrawing ∨ m.state = .withdrawn → m.withdrawal.isSome = true

section Histories

variable {tenant : TenantId} {m : MitigationRecord}

section

variable (h : Accounted tenant past m)

include h

theorem Accounted.version_lt : m.version + 1 < 2 ^ 64 := by
  have := h.version
  have := rank_le m.state
  omega

theorem accounted_withdrawal (took : Took ctx m m' transition)
    (withdraws : Withdraws m m') (hstate : m'.state = .withdrawing ∨ m'.state = .withdrawn) :
    m'.withdrawal.isSome = true := by
  rcases withdraws with hset | ⟨hsame, hnot, hfrom⟩
  · exact hset
  · rcases hstate with hs | hs
    · exact absurd hs hnot
    · -- only Withdrawing leads to Withdrawn without a cause of its own
      have hedge := took.edge
      have hbefore : m.state = .withdrawing := by
        rw [hs] at hedge
        cases hm : m.state <;> rw [hm] at hedge <;>
          first | rfl | exact absurd hm (hfrom hs) | cases hedge
      rw [hsame]
      exact h.withdrawal (Or.inl hbefore)

theorem accounted_step
    (hdone : carryOut ctx command m = .ok (m', transition)) :
    Accounted tenant (past ++ [⟨m, (ctx, command), .ok transition, m'⟩]) m' := by
  have took := took_of_carryOut hdone
  have hversion : m'.version ≤ rank m'.state := by
    have := rank_lt took.edge
    have := h.version
    have := h.version_lt
    rw [took.version, Nat.mod_eq_of_lt (by omega)]
    omega
  rcases carryOut_took hdone with executed | ⟨-, hstate, approves, withdraws⟩
  · refine ⟨took.tenant.trans h.tenant, hversion, ?_,
      accounted_withdrawal h took executed.withdraws⟩
    intro hb
    have ha := unapproved_of_edge took.edge executed.notApproved hb
    exact (h.approved ha).mono (List.subset_append_left _ _) took.tenant executed.approvedBy
      took.requestedBy
  · refine ⟨took.tenant.trans h.tenant, hversion, ?_, accounted_withdrawal h took withdraws⟩
    intro _
    obtain ⟨allowSelf, rfl, hby, hself, hgranted⟩ := approves
    refine ⟨_, List.mem_append_right _ (List.mem_singleton_self _), ctx, allowSelf, transition, rfl,
      rfl, ?_, hgranted, hby, ?_⟩
    · rw [took.tenant]
      exact took.own
    · rw [took.requestedBy]
      exact hself

theorem accounted_refused (e : MitigationError) :
    Accounted tenant (past ++ [⟨m, (ctx, command), .error e, refused command m⟩])
      (refused command m) := by
  obtain ⟨lastError, hsame⟩ := refused_same command m
  rw [hsame]
  exact ⟨h.tenant, h.version, fun hb =>
    (h.approved hb).mono (List.subset_append_left _ _) rfl rfl rfl, h.withdrawal⟩

end

/-- A mitigation as its requester made it. -/
def Created (m : MitigationRecord) : Prop :=
  ∃ ctx id made transition, propose ctx id made = .ok (m, transition) ∨
    request ctx id made = .ok (m, transition)

theorem accounted_created (h : Created m) : Accounted m.tenant [] m := by
  have start : ∀ ctx id made permission state transition,
      create ctx id made permission state = .ok (m, transition) →
      m.version = 1 ∧ m.state = state := by
    intro ctx id made permission state transition hmade
    simp only [create, bind_eq_ok, pure_eq_ok] at hmade
    obtain ⟨-, -, -, -, reason, -, -, -, incidentId, -, hrecord⟩ := hmade
    cases hrecord
    exact ⟨rfl, rfl⟩
  obtain ⟨ctx, id, made, transition, hmade⟩ := h
  have hstart : m.version = 1 ∧ (m.state = .proposed ∨ m.state = .requested) := by
    rcases hmade with hmade | hmade
    · obtain ⟨hv, hs⟩ := start _ _ _ _ _ _ hmade
      exact ⟨hv, Or.inl hs⟩
    · obtain ⟨hv, hs⟩ := start _ _ _ _ _ _ hmade
      exact ⟨hv, Or.inr hs⟩
  obtain ⟨hversion, hstate⟩ := hstart
  refine ⟨rfl, ?_, ?_, ?_⟩
  · rcases hstate with hs | hs <;> rw [hs, hversion] <;> decide
  · rcases hstate with hs | hs <;> rw [hs] <;> simp [Unapproved]
  · rcases hstate with hs | hs <;> rw [hs] <;> simp

theorem accounted_next (h : Accounted tenant past m) (input : AuthorizationContext × Command) :
    Accounted tenant (past ++ [lifecycle.stepAt m input]) (lifecycle.step m input).2 := by
  obtain ⟨ctx, command⟩ := input
  unfold Machine.stepAt
  change Accounted tenant (past ++ [⟨m, (ctx, command), (perform ctx command m).1,
    (perform ctx command m).2⟩]) (perform ctx command m).2
  unfold perform
  cases hdone : carryOut ctx command m with
  | error e => exact accounted_refused h e
  | ok taken => exact accounted_step h hdone

theorem run_accounted (created : Created m) (inputs : List (AuthorizationContext × Command)) :
    Accounted m.tenant (lifecycle.trace m inputs) (lifecycle.run m inputs) :=
  lifecycle.history (G := fun _ => True) (accounted_created created)
    (fun _ _ input h _ => accounted_next h input) inputs fun _ _ => trivial

end Histories

theorem step_took (h : (lifecycle.step m input).1 = .ok transition) :
    Took input.1 m (lifecycle.step m input).2 transition := by
  obtain ⟨ctx, command⟩ := input
  change (perform ctx command m).1 = _ at h
  change Took ctx m (perform ctx command m).2 transition
  unfold perform at h ⊢
  cases hdone : carryOut ctx command m with
  | error e =>
    rw [hdone] at h
    cases h
  | ok taken =>
    rw [hdone] at h
    cases h
    exact took_of_carryOut hdone

theorem step_state_of_error (h : (lifecycle.step m input).1 = .error e) :
    (lifecycle.step m input).2.state = m.state := by
  obtain ⟨ctx, command⟩ := input
  change (perform ctx command m).1 = _ at h
  change (perform ctx command m).2.state = m.state
  unfold perform at h ⊢
  cases hdone : carryOut ctx command m with
  | error e =>
    obtain ⟨lastError, hsame⟩ := refused_same command m
    exact congrArg (·.state) hsame
  | ok taken =>
    rw [hdone] at h
    cases h

theorem no_edge_of_terminal (h : a.isTerminal = true) : a.canTransitionTo b = false := by
  cases a <;> cases b <;> first | rfl | cases h

/-- Whatever the callers do: a mitigation that may hold a route was approved by someone of its own
tenant with the permission to, who is on record and is not the requester unless that was allowed;
every command that succeeds is its tenant's, permitted, one version and one edge; a withdrawal has
a cause; and nothing leaves a terminal state. -/
theorem commands_mediated (m : MitigationRecord) (created : Created m)
    (inputs : List (AuthorizationContext × Command)) :
    ((lifecycle.run m inputs).state.mayHoldARoute = true →
      ApprovedIn (lifecycle.trace m inputs) (lifecycle.run m inputs)) ∧
    (∀ st ∈ lifecycle.trace m inputs, ∀ transition, st.output = .ok transition →
      st.input.1.tenant = m.tenant ∧ st.input.1.has transition.permission = true ∧
      st.after.version = st.before.version + 1 ∧
      transition.fromState = some st.before.state ∧ transition.toState = st.after.state ∧
      st.before.state.canTransitionTo st.after.state = true) ∧
    ((lifecycle.run m inputs).state = .withdrawing ∨ (lifecycle.run m inputs).state = .withdrawn →
      (lifecycle.run m inputs).withdrawal.isSome = true) ∧
    (∀ st ∈ lifecycle.trace m inputs, st.before.state.isTerminal = true →
      st.after.state = st.before.state) := by
  have accounted := run_accounted created inputs
  refine ⟨?_, ?_, accounted.withdrawal, ?_⟩
  · intro hroute
    apply accounted.approved
    cases hs : (lifecycle.run m inputs).state <;> rw [hs] at hroute <;> first | rfl | cases hroute
  · intro st hst transition hok
    obtain ⟨earlier, input, rest, -, rfl⟩ := lifecycle.mem_trace.mp hst
    have before := run_accounted created earlier
    have took := step_took hok
    refine ⟨took.own.trans before.tenant, took.granted, ?_, took.fromState, took.toState, took.edge⟩
    rw [lifecycle.stepAt_after, lifecycle.stepAt_before, took.version]
    exact Nat.mod_eq_of_lt before.version_lt
  · intro st hst hterminal
    obtain ⟨earlier, input, rest, -, rfl⟩ := lifecycle.mem_trace.mp hst
    cases hdone : (lifecycle.step (lifecycle.run m earlier) input).1 with
    | error e => exact step_state_of_error hdone
    | ok transition =>
      have hedge := (step_took hdone).edge
      rw [lifecycle.stepAt_before] at hterminal
      rw [no_edge_of_terminal hterminal] at hedge
      cases hedge

def sampleCaller (name : String) (granted : List Permission) : AuthorizationContext where
  tenant := "acme"
  actor := .operator name
  granted := granted

def sampleMade : MitigationRequest where
  target := Guarded.sampleHost
  action := .rtbh
  reason := "attack"
  duration := fromSecs 600
  incidentId := none

def sampleRecord : MitigationRecord where
  id := "m"
  tenant := "acme"
  incidentId := none
  target := sampleMade.target
  action := .rtbh
  reason := "attack"
  duration := fromSecs 600
  state := .requested
  version := 1
  requestedBy := .operator "ann"
  approvedBy := none
  dryRun := none
  withdrawal := none
  lastError := none

/-- A request by one operator is approved by another and announced. -/
def sampleCommands : List (AuthorizationContext × Command) :=
  [(sampleCaller "bob" [.mitigationApprove], .approve false),
    (sampleCaller "mitigator" [.mitigationExecute], .beginAnnouncing false)]

theorem commands_mediated_sample :
    Created sampleRecord ∧
    (lifecycle.run sampleRecord sampleCommands).state.mayHoldARoute = true ∧
    ApprovedIn (lifecycle.trace sampleRecord sampleCommands)
      (lifecycle.run sampleRecord sampleCommands) := by
  have created : Created sampleRecord :=
    ⟨sampleCaller "ann" [.mitigationRequest], "m", sampleMade, _, Or.inr rfl⟩
  have announcing : (lifecycle.run sampleRecord sampleCommands).state.mayHoldARoute = true := rfl
  exact ⟨created, announcing,
    (commands_mediated sampleRecord created sampleCommands).1 announcing⟩

theorem carryOut_markFailed :
    (∃ e, carryOut ctx (.markFailed error) m = .error e) ↔
      ¬ (ctx.tenant = m.tenant ∧ ctx.has .mitigationExecute = true ∧
        m.state.canTransitionTo .failed = true) := by
  change (∃ e, markFailed ctx error m = .error e) ↔ _
  unfold markFailed execute check require allowed
  by_cases own : ctx.tenant = m.tenant <;> by_cases granted : ctx.has .mitigationExecute = true <;>
    by_cases edge : m.state.canTransitionTo .failed = true <;>
    simp [own, granted, edge, bind, Except.bind, pure, Except.pure]

/-- A refusal leaves the record as it was, except that of a failure: its text is written before
the caller and the edge are looked at. -/
theorem refusals_intact_iff (ctx : AuthorizationContext) (command : Command)
    (m : MitigationRecord) :
    (∀ e, (perform ctx command m).1 = .error e → (perform ctx command m).2 = m) ↔
      ∀ error, command = .markFailed error →
        (ctx.tenant = m.tenant ∧ ctx.has .mitigationExecute = true ∧
          m.state.canTransitionTo .failed = true) ∨ m.lastError = some (errorText error) := by
  have left : ∀ e, carryOut ctx command m = .error e →
      perform ctx command m = (.error e, refused command m) := by
    intro e hrefused
    unfold perform
    rw [hrefused]
  constructor
  · rintro intact error rfl
    by_contra h
    obtain ⟨hopen, hnoted⟩ := not_or.mp h
    obtain ⟨e, hrefused⟩ := carryOut_markFailed.mpr hopen
    have hsame := intact e (congrArg Prod.fst (left e hrefused))
    rw [left e hrefused] at hsame
    exact hnoted (congrArg (·.lastError) hsame).symm
  · intro settled e herror
    have hrefused : carryOut ctx command m = .error e := by
      unfold perform at herror
      split at herror <;> cases herror
      assumption
    rw [left e hrefused]
    cases command with
    | markFailed error =>
      rcases settled error rfl with hopen | hnoted
      · exact absurd hopen (carryOut_markFailed.mp ⟨e, hrefused⟩)
      · change { m with lastError := some (errorText error) } = m
        rw [← hnoted]
    | _ => rfl

/-- Someone of another tenant, without any permission, changes a record. -/
theorem refused_failure_noted : ∃ ctx command m e, (perform ctx command m).1 = .error e ∧
    (perform ctx command m).2 ≠ m :=
  ⟨{ sampleCaller "eve" [] with tenant := "other" }, .markFailed "made up", sampleRecord, .notFound,
    by decide +kernel, by decide +kernel⟩

end Tidegard.Mitigation.Proofs.TwoPerson
