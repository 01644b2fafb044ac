import Tidegard.Incident.UnitOfWork
import Tidegard.Incident.Proofs.Changes

namespace Tidegard.Incident.Proofs.Writes

open Actions Actions.Action Detector.Event Basics Time Record Store Commits UnitOfWork Changes

/-- Nothing is written; the clock may be read. -/
def Looks {α : Type} (x : Uow α) : Prop :=
  ∀ env s, x.Ends env s fun _ t => t.uow = s.uow ∧ s.readings ≤ t.readings

section Looks

variable {α β : Type}

theorem looks_pure (a : α) : Looks (pure a : Uow α) := fun _ _ => ⟨rfl, le_rfl⟩

theorem looks_ofExcept (y : Except IncidentError α) : Looks (Action.ofExcept y : Uow α) :=
  fun _ _ => ⟨rfl, le_rfl⟩

theorem looks_look (f : Env → IncidentUnitOfWork → Except IncidentError α) : Looks (look f) :=
  fun _ _ => ⟨rfl, le_rfl⟩

theorem looks_decisionTime : Looks decisionTime := fun _ _ => ⟨rfl, Nat.le_succ _⟩

theorem Looks.bind (hx : Looks x) (hf : ∀ a, Looks (f a)) : Looks (x >>= f) := by
  intro env s
  have hfirst := hx env s
  unfold Ends at hfirst
  apply Ends.bind
  · intro a t h
    have hrest := hf a env t
    rw [h] at hfirst
    exact hrest.mono fun _ v hv => ⟨hv.1.trans hfirst.1, hfirst.2.trans hv.2⟩
  · intro e t h
    rw [h] at hfirst
    exact hfirst

theorem looks_findOwned (auth : AuthorizationContext) (id : IncidentId) :
    Looks (findOwned auth id) :=
  (looks_look _).bind fun _ => (looks_ofExcept _).bind fun _ => looks_pure _

end Looks

section Lookups

variable {env : Env} {s t : Session} {auth : AuthorizationContext} {id : IncidentId}
variable {i : Incident}

theorem decisionTime_eq :
    decisionTime env s = (o, t) ↔
      DurableTimestamp.fromSystemTime (env.wall s.readings) = o ∧
        t = { s with readings := s.readings + 1 } := by
  unfold decisionTime
  rw [Prod.mk.injEq]
  exact ⟨fun h => ⟨h.1, h.2.symm⟩, fun h => ⟨h.1, h.2.symm⟩⟩

theorem look_eq {α : Type} {f : Env → IncidentUnitOfWork → Except IncidentError α}
    {o : Except IncidentError α} : look f env s = (o, t) ↔ f env s.uow = o ∧ t = s := by
  unfold look
  rw [Prod.mk.injEq]
  exact ⟨fun h => ⟨h.1, h.2.symm⟩, fun h => ⟨h.1, h.2.symm⟩⟩

theorem find_ok : find id env s = (.ok i, t) ↔ s.uow.store.incidents[id]? = some i ∧ t = s := by
  unfold find
  rw [look_eq]
  cases h : s.uow.store.incidents[id]? <;> simp

theorem checkTenant_ok : checkTenant auth i = .ok u ↔ i.tenantId = auth.tenant := by
  unfold checkTenant
  split <;> simp_all

theorem findOwned_ok :
    findOwned auth id env s = (.ok i, t) ↔
      s.uow.store.incidents[id]? = some i ∧ i.tenantId = auth.tenant ∧ t = s := by
  unfold findOwned
  rw [bind_ok]
  constructor
  · rintro ⟨j, m, hfind, hrest⟩
    obtain ⟨hfound, rfl⟩ := find_ok.mp hfind
    obtain ⟨_, m', hcheck, hpure⟩ := bind_ok.mp hrest
    obtain ⟨hc, rfl⟩ := ofExcept_eq.mp hcheck
    obtain ⟨hok, rfl⟩ := pure_eq.mp hpure
    cases hok
    exact ⟨hfound, checkTenant_ok.mp hc, rfl⟩
  · rintro ⟨hfound, howned, rfl⟩
    refine ⟨i, t, find_ok.mpr ⟨hfound, rfl⟩, bind_ok.mpr ⟨(), t, ?_, pure_eq.mpr ⟨rfl, rfl⟩⟩⟩
    exact ofExcept_eq.mpr ⟨checkTenant_ok.mpr howned, rfl⟩

theorem commit_ok {decided : Except IncidentError Commit} :
    UnitOfWork.commit auth id decided env s = (.ok c, t) ↔
      decided = .ok c ∧ t = ⟨s.uow.commit auth id c, s.readings⟩ := by
  cases decided with
  | error e =>
    constructor
    · intro h
      cases h
    · rintro ⟨h, -⟩
      cases h
  | ok d =>
    constructor
    · intro h
      cases h
      exact ⟨rfl, rfl⟩
    · rintro ⟨h, rfl⟩
      cases h
      rfl

end Lookups

/-! An action is followed from where it began, with the service `u` and the clock read `m` times.
As long as it only looks, it may fail and leave the service as it was. -/

/-- The session still holds the service the action began with. -/
structure Begun (u : IncidentUnitOfWork) (m : Nat) (s : Session) : Prop where
  uow : s.uow = u
  later : m ≤ s.readings

theorem Begun.start : Begun u 0 ⟨u, 0⟩ := ⟨rfl, le_rfl⟩

/-- A failure that leaves the service as it was is an end that `Q` admits. -/
def Refuses {α : Type} (u : IncidentUnitOfWork) (m : Nat)
    (Q : Except IncidentError α → Session → Prop) : Prop :=
  ∀ e n, m ≤ n → Q (.error e) ⟨u, n⟩

/-- So is a failure that leaves one denied audit entry. -/
def Denies {α : Type} (auth : AuthorizationContext) (u : IncidentUnitOfWork) (m : Nat)
    (Q : Except IncidentError α → Session → Prop) : Prop :=
  ∀ permission resource reason n, m ≤ n →
    Q (.error .unauthorized) ⟨u.appendAudit (AuditEntry.denied auth permission resource reason), n⟩

section Refusals

variable {α β : Type} {env : Env} {auth : AuthorizationContext} {u : IncidentUnitOfWork} {m : Nat}
variable {s : Session} {Q : Except IncidentError α → Session → Prop}
variable {f : β → Uow α}
variable {id : IncidentId}

theorem Refuses.throw (refuses : Refuses u m Q) (begun : Begun u m s) (e : IncidentError) :
    (Action.throw e : Uow α).Ends env s Q := by
  obtain ⟨v, n⟩ := s
  obtain rfl : v = u := begun.uow
  exact refuses e n begun.later

theorem Refuses.after_look (refuses : Refuses u m Q) (hx : Looks x) (begun : Begun u m s)
    (next : ∀ b t, x env s = (.ok b, t) → Begun u m t → (f b).Ends env t Q) :
    (x >>= f).Ends env s Q := by
  have hlook := hx env s
  unfold Ends at hlook
  apply Ends.bind
  · intro b t h
    rw [h] at hlook
    exact next b t h ⟨hlook.1.trans begun.uow, begun.later.trans hlook.2⟩
  · rintro e ⟨v, n⟩ h
    rw [h] at hlook
    obtain rfl : v = u := hlook.1.trans begun.uow
    exact refuses e n (begun.later.trans hlook.2)

theorem Refuses.after_decisionTime {f : DurableTimestamp → Uow α} (refuses : Refuses u m Q)
    (begun : Begun u m s)
    (next : ∀ now k t, DurableTimestamp.fromSystemTime (env.wall k) = .ok now → m ≤ k →
      k < t.readings → Begun u m t → (f now).Ends env t Q) :
    (decisionTime >>= f).Ends env s Q := by
  apply refuses.after_look looks_decisionTime begun
  intro now t h begun'
  obtain ⟨reading, rfl⟩ := decisionTime_eq.mp h
  exact next now s.readings _ reading begun.later (Nat.lt_succ_self _) begun'

theorem Refuses.after_ofExcept (refuses : Refuses u m Q) (begun : Begun u m s)
    (next : ∀ b, y = .ok b → (f b).Ends env s Q) : (Action.ofExcept y >>= f).Ends env s Q := by
  apply refuses.after_look (looks_ofExcept y) begun
  intro b t h _
  obtain ⟨hy, rfl⟩ := ofExcept_eq.mp h
  exact next b hy

theorem Refuses.after_find {f : Incident → Uow α} (refuses : Refuses u m Q) (begun : Begun u m s)
    (next : ∀ i, u.store.incidents[id]? = some i → (f i).Ends env s Q) :
    (find id >>= f).Ends env s Q := by
  apply refuses.after_look (looks_look _) begun
  intro i t h begun'
  obtain ⟨found, rfl⟩ := find_ok.mp h
  exact next i (begun'.uow ▸ found)

theorem Refuses.after_findOwned {f : Incident → Uow α} (refuses : Refuses u m Q)
    (begun : Begun u m s) (next : ∀ i, u.store.incidents[id]? = some i → i.tenantId = auth.tenant →
      (f i).Ends env s Q) : (findOwned auth id >>= f).Ends env s Q := by
  apply refuses.after_look (looks_findOwned auth id) begun
  intro i t h begun'
  obtain ⟨found, owned, rfl⟩ := findOwned_ok.mp h
  exact next i (begun'.uow ▸ found) owned

theorem Refuses.after_lookup {g : Env → IncidentUnitOfWork → Except IncidentError β}
    (refuses : Refuses u m Q) (begun : Begun u m s)
    (next : ∀ b, g env u = .ok b → (f b).Ends env s Q) : (look g >>= f).Ends env s Q := by
  apply refuses.after_look (looks_look g) begun
  intro b t h begun'
  obtain ⟨hb, rfl⟩ := look_eq.mp h
  exact next b (begun'.uow ▸ hb)

theorem Denies.after_check {f : Unit → Uow α} (denies : Denies auth u m Q) (begun : Begun u m s)
    (next : auth.has permission = true → (f ()).Ends env s Q) :
    (checkPermission auth permission resource >>= f).Ends env s Q := by
  obtain ⟨v, n⟩ := s
  obtain rfl : v = u := begun.uow
  unfold checkPermission
  split
  case isTrue granted => exact next granted
  case isFalse => exact denies permission resource "missing required permission" n begun.later

end Refusals

/-- How an action answers: with what it decided, given the clock, the index entry of the
incident's key and the incident, or idly, without a change. -/
structure Contract (α : Type) where
  change : DurableTimestamp → Option IncidentId → Incident → α → Commit → Prop
  idle : α → Prop := fun _ => False

/-- The ends of an action that changes the incident `id` once, begun with the service `u` and
the clock read `m` times. A failure leaves the service as it was, up to one denied audit entry. -/
inductive Written {α : Type} (env : Env) (auth : AuthorizationContext) (id : IncidentId)
    (D : Contract α) (u : IncidentUnitOfWork) (m : Nat) : Except IncidentError α → Session → Prop
  | wrote (a : α) (c : Commit) (i : Incident) (now : DurableTimestamp) (k n : Nat)
      (found : u.store.incidents[id]? = some i)
      (reading : DurableTimestamp.fromSystemTime (env.wall k) = .ok now)
      (first : m ≤ k) (last : k < n)
      (decided : D.change now u.store.openIndex[i.correlationKey]? i a c) :
      Written env auth id D u m (.ok a) ⟨u.commit auth id c, n⟩
  | idle (a : α) (n : Nat) (later : m ≤ n) (answer : D.idle a) :
      Written env auth id D u m (.ok a) ⟨u, n⟩
  | refused (e : IncidentError) (n : Nat) (later : m ≤ n) :
      Written env auth id D u m (.error e) ⟨u, n⟩
  | denied (permission : Permission) (resource : AttemptedResource) (reason : String) (n : Nat)
      (later : m ≤ n) : Written env auth id D u m (.error .unauthorized)
        ⟨u.appendAudit (AuditEntry.denied auth permission resource reason), n⟩

section Written

variable {α β : Type} {env : Env} {auth : AuthorizationContext} {id : IncidentId}
variable {D : Contract α} {u : IncidentUnitOfWork} {m : Nat} {s : Session}
variable {i : Incident} {now : DurableTimestamp} {k : Nat}

theorem written_refuses : Refuses u m (Written env auth id D u m) := .refused

theorem written_denies : Denies auth u m (Written env auth id D u m) := .denied

theorem Written.dedupSeen
    (h : Written env auth id D u m o t) : t.uow.store.dedupSeen = u.store.dedupSeen := by
  cases h with
  | wrote a c => exact commit_dedupSeen u auth id c
  | idle => rfl
  | refused => rfl
  | denied => rfl

theorem Written.commit {D : Contract Commit} {decided : Except IncidentError Commit}
    (begun : Begun u m s) (found : u.store.incidents[id]? = some i)
    (reading : DurableTimestamp.fromSystemTime (env.wall k) = .ok now) (first : m ≤ k)
    (last : k < s.readings)
    (h : ∀ c, decided = .ok c → D.change now u.store.openIndex[i.correlationKey]? i c c) :
    (UnitOfWork.commit auth id decided).Ends env s (Written env auth id D u m) := by
  obtain ⟨v, n⟩ := s
  obtain rfl : v = u := begun.uow
  cases decided with
  | error e => exact .refused e n begun.later
  | ok c => exact .wrote c c i now k n found reading first last (h c rfl)

theorem Written.map {D : Contract β} {D' : Contract α} {x : Uow β} {g : β → α}
    (h : x.Ends env s (Written env auth id D u m))
    (change : ∀ now active i b c, u.store.incidents[id]? = some i → D.change now active i b c →
      D'.change now active i (g b) c)
    (idle : ∀ b, D.idle b → D'.idle (g b)) :
    (x >>= fun b => pure (g b)).Ends env s (Written env auth id D' u m) := by
  unfold Ends at h
  rcases hx : x env s with ⟨o, t⟩
  rw [hx] at h
  apply Ends.bind
  · intro b t' hb
    rw [hx] at hb
    cases hb
    cases h with
    | wrote b c i now k n found reading first last decided =>
      exact .wrote (g b) c i now k n found reading first last (change _ _ _ _ _ found decided)
    | idle b n later answer => exact .idle (g b) n later (idle b answer)
  · intro e t' he
    rw [hx] at he
    cases he
    cases h with
    | refused e n later => exact .refused e n later
    | denied permission resource reason n later =>
      exact .denied permission resource reason n later

theorem Written.commit_answer {g : Commit → α} {decided : Except IncidentError Commit}
    (begun : Begun u m s) (found : u.store.incidents[id]? = some i)
    (reading : DurableTimestamp.fromSystemTime (env.wall k) = .ok now) (first : m ≤ k)
    (last : k < s.readings)
    (h : ∀ c, decided = .ok c → D.change now u.store.openIndex[i.correlationKey]? i (g c) c) :
    (UnitOfWork.commit auth id decided >>= fun c => pure (g c)).Ends env s
      (Written env auth id D u m) :=
  Written.map (D := ⟨fun now active i c => D.change now active i (g c), fun c => D.idle (g c)⟩)
    (.commit begun found reading first last h) (fun _ _ _ _ _ _ hc => hc) fun _ hc => hc

theorem Written.answer (begun : Begun u m s) (h : D.idle a) :
    (pure a : Uow α).Ends env s (Written env auth id D u m) := by
  obtain ⟨v, n⟩ := s
  obtain rfl : v = u := begun.uow
  exact .idle a n begun.later h

end Written

/-- `x` changes the incident `id` at most once, as `D` says. -/
def WritesOnce {α : Type} (auth : AuthorizationContext) (id : IncidentId) (D : Contract α)
    (x : Uow α) : Prop :=
  ∀ env u m s, Begun u m s → x.Ends env s (Written env auth id D u m)

theorem WritesOnce.mono {α : Type} {id : IncidentId} {D D' : Contract α} {x : Uow α}
    (h : WritesOnce auth id D x)
    (change : ∀ now active i a c, D.change now active i a c → D'.change now active i a c)
    (idle : ∀ a, D.idle a → D'.idle a) : WritesOnce auth id D' x := by
  intro env u m s begun
  apply (h env u m s begun).mono
  intro o t written
  cases written with
  | wrote a c i now k n found reading first last decided =>
    exact .wrote a c i now k n found reading first last (change _ _ _ _ _ decided)
  | idle a n later answer => exact .idle a n later (idle a answer)
  | refused e n later => exact .refused e n later
  | denied permission resource reason n later => exact .denied permission resource reason n later

section Writes

variable (auth : AuthorizationContext) (id : IncidentId)

theorem change_writes (decide : DurableTimestamp → Incident → Except IncidentError Commit) :
    WritesOnce auth id { change now _ i a c := a = c ∧ decide now i = .ok c }
      (change auth id decide) := by
  intro env u m s begun
  apply written_refuses.after_decisionTime begun
  intro now k t reading first last begun
  apply written_refuses.after_find begun
  intro i found
  exact Written.commit begun found reading first last fun c h => ⟨rfl, h⟩

/-- Linking an event, and whether it came late. -/
def linking (event : DetectionEvent) (late : Bool) (id : IncidentId) : Contract IngestResult where
  change now _ i a c := Commit.linkEvent event late now i = .ok c ∧
    a = ⟨if Commit.isLate late now i then .linkedLate else .updated, some id⟩

theorem linkEvent_writes (event : DetectionEvent) (late : Bool) :
    WritesOnce auth id (linking event late id) (linkEvent auth id event late) := by
  intro env u m s begun
  apply written_refuses.after_decisionTime begun
  intro now k t reading first last begun
  apply written_refuses.after_find begun
  intro i found
  exact Written.commit_answer begun found reading first last fun c h => ⟨h, rfl⟩

def reopening (event : DetectionEvent) (cause : AutomaticCause) (id : IncidentId) :
    Contract IngestResult where
  change now active i a c := Commit.reopenIncidentInternal active event cause now i = .ok c ∧
    a = ⟨.reopened, some id⟩

theorem reopenIncidentInternal_writes (event : DetectionEvent) (cause : AutomaticCause) :
    WritesOnce auth id (reopening event cause id) (reopenIncidentInternal auth id event cause) := by
  intro env u m s begun
  apply written_refuses.after_decisionTime begun
  intro now k t reading first last begun
  apply written_refuses.after_find begun
  intro i found
  apply written_refuses.after_lookup begun
  rintro _ ⟨⟩
  exact Written.commit_answer begun found reading first last fun c h => ⟨h, rfl⟩

def recovering (auth : AuthorizationContext) (reason : DetectionEndReason) : Contract Unit where
  change now _ i _ c := i.tenantId = auth.tenant ∧ Commit.enterRecovering reason now i = .ok c

theorem enterRecovering_writes (reason : DetectionEndReason) :
    WritesOnce auth id (recovering auth reason) (enterRecovering auth id reason) := by
  intro env u m s begun
  apply written_denies.after_check begun
  intro granted
  apply written_refuses.after_decisionTime begun
  intro now k t reading first last begun
  apply written_refuses.after_findOwned begun
  intro i found owned
  exact Written.commit_answer begun found reading first last fun c h => ⟨owned, h⟩

theorem enterRecoveringIfSilent_writes (silentAfter : Nat) :
    WritesOnce auth id
      { change := fun now _ i a c => a = true ∧ i.tenantId = auth.tenant ∧
          Commit.enterRecovering .detectorSilent now i = .ok c
        idle := fun a => a = false }
      (enterRecoveringIfSilent auth id silentAfter) := by
  intro env u m s begun
  apply written_denies.after_check begun
  intro granted
  apply written_refuses.after_decisionTime begun
  intro now k t reading first last begun
  apply written_refuses.after_findOwned begun
  intro i found owned
  apply written_refuses.after_ofExcept begun
  intro elapsed _
  split
  · exact Written.answer begun rfl
  · refine Written.map (enterRecovering_writes auth id .detectorSilent env u m t begun) ?_ ?_
    · intro now active i b c _ h
      exact ⟨rfl, h⟩
    · intro b h
      exact h.elim

theorem resolveInternal_writes (cause : TransitionCause) (note : Option String) :
    WritesOnce auth id
      { change := fun now _ i a c => a = c ∧
          Commit.resolveInternal auth cause note now i = .ok c }
      (resolveInternal auth id cause note) :=
  change_writes auth id _

theorem closeInternal_writes (reason : ClosureReason) (cause : TransitionCause) :
    WritesOnce auth id
      { change := fun now _ i a c => a = c ∧ Commit.closeInternal auth reason cause now i = .ok c }
      (closeInternal auth id reason cause) :=
  change_writes auth id _

theorem recoveringSinceOf_ok :
    recoveringSinceOf i = .ok since ↔ i.recoveringSince = some since := by
  unfold recoveringSinceOf
  split <;> simp_all

theorem confirmRecoveryIfDue_writes (recoveryConfirmation : Nat) :
    WritesOnce auth id
      { change := fun now _ i a c => a = true ∧ i.tenantId = auth.tenant ∧
          i.state = .recovering ∧
          Commit.resolveInternal auth (.automatic .recoveryConfirmed) none now i = .ok c
        idle := fun a => a = false }
      (confirmRecoveryIfDue auth id recoveryConfirmation) := by
  intro env u m s begun
  apply written_denies.after_check begun
  intro granted
  apply written_refuses.after_decisionTime begun
  intro now k t reading first last begun
  apply written_refuses.after_findOwned begun
  intro i found owned
  apply written_refuses.after_ofExcept begun
  intro _ recovering
  apply written_refuses.after_ofExcept begun
  intro since hsince
  apply written_refuses.after_ofExcept begun
  intro elapsed _
  split
  · exact Written.answer begun rfl
  · refine Written.map (resolveInternal_writes auth id _ none env u m t begun) ?_ ?_
    · rintro now active j b c found' ⟨-, h⟩
      obtain rfl : i = j := Option.some.inj (found.symm.trans found')
      exact ⟨rfl, owned, transition_confirmRecovery_ok.mp recovering, h⟩
    · intro b h
      exact h.elim

theorem abortRecovery_writes :
    WritesOnce auth id
      { change := fun now _ i _ c => i.tenantId = auth.tenant ∧
          Commit.abortRecovery now i = .ok c }
      (abortRecovery auth id) := by
  intro env u m s begun
  apply written_denies.after_check begun
  intro granted
  apply written_refuses.after_decisionTime begun
  intro now k t reading first last begun
  apply written_refuses.after_findOwned begun
  intro i found owned
  exact Written.commit_answer begun found reading first last fun c h => ⟨owned, h⟩

theorem attemptAutomaticClosure_writes :
    WritesOnce auth id
      { change := fun now _ i a c => a = true ∧ i.tenantId = auth.tenant ∧
          Commit.closeInternal auth .resolved (.automatic .automaticClosure) now i = .ok c
        idle := fun a => a = false }
      (attemptAutomaticClosure auth id) := by
  intro env u m s begun
  apply written_denies.after_check begun
  intro granted
  apply written_refuses.after_findOwned begun
  intro i found owned
  apply written_refuses.after_look (looks_look _) begun
  intro policy t _ begun
  split
  · exact Written.answer begun rfl
  · exact written_refuses.throw begun _
  · apply written_refuses.after_ofExcept begun
    intro resolvedAt _
    apply written_refuses.after_decisionTime begun
    intro now k t reading first last begun
    apply written_refuses.after_ofExcept begun
    intro elapsed _
    split
    · exact Written.answer begun rfl
    · refine Written.map (closeInternal_writes auth id _ _ env u m t begun) ?_ ?_
      · rintro now active j b c found' ⟨-, h⟩
        obtain rfl : i = j := Option.some.inj (found.symm.trans found')
        exact ⟨rfl, owned, h⟩
      · intro b h
        exact h.elim

/-- The resolution note a command gives. -/
def noteOf (command : Command) (note : Option String) : Prop :=
  ∃ version, command = .resolveIncident version note

/-- A command answers with its change. -/
def commanded (auth : AuthorizationContext) (command : Command) : Contract Commit where
  change now active i a c := a = c ∧ Decided auth (fun _ => noteOf command) active now i c

/-- The change a command makes, command by command. -/
def Ordered (auth : AuthorizationContext) (command : Command) (active : Option IncidentId)
    (now : DurableTimestamp) (i : Incident) (c : Commit) : Prop :=
  match command with
  | .acknowledgeIncident _ =>
    Commit.guardedOperatorTransition auth .acknowledged command.kind command.requiredPermission
      (fun i now => { i with acknowledgedAt := some now }) now i = .ok c
  | .beginInvestigation _ =>
    Commit.guardedOperatorTransition auth .investigating command.kind command.requiredPermission
      (fun i _ => i) now i = .ok c
  | .markMonitoring _ =>
    Commit.guardedOperatorTransition auth .monitoring command.kind command.requiredPermission
      (fun i _ => i) now i = .ok c
  | .resolveIncident _ note =>
    Commit.resolveInternal auth (.operator command.kind) note now i = .ok c
  | .closeIncident _ reason _ =>
    Commit.closeInternal auth reason (.operator command.kind) now i = .ok c
  | .reopenIncident _ reason => Commit.operatorReopen auth active reason now i = .ok c
  | .suppressIncident _ reason _ => validateReason reason = .ok () ∧
      ∃ deadline, Commit.suppress auth reason deadline now i = .ok c
  | .unsuppressIncident _ => Commit.unsuppress auth now i = .ok c
  | .assignIncident _ assignee => Commit.assign auth (some assignee) now i = .ok c
  | .unassignIncident _ => Commit.assign auth none now i = .ok c
  | .changeSeverity _ newSeverity reason =>
    Commit.changeSeverity auth newSeverity reason now i = .ok c
  | .changePriority _ newPriority => Commit.changePriority auth newPriority now i = .ok c
  | .addNote body visibility => validateNoteBody body = .ok () ∧
      Commit.addNote auth body visibility now i = .ok c
  | .editNote noteIndex body => validateNoteBody body = .ok () ∧
      ∃ original, i.notes[noteIndex]? = some original ∧
      original.createdBy = auth.actor ∧
      Commit.editNote auth noteIndex original body now i = .ok c
  | .redactNote noteIndex reason => validateRedactionReason reason = .ok () ∧
      Commit.redactNote auth noteIndex reason now i = .ok c
  | .addTag key value => key.utf8ByteSize ≤ tagKeyMaxLen ∧ value.utf8ByteSize ≤ tagValueMaxLen ∧
      Commit.addTag auth key value now i = .ok c
  | .removeTag key => Commit.removeTag auth key now i = .ok c

def ordering (auth : AuthorizationContext) (command : Command) : Contract Commit where
  change now active i a c := a = c ∧ Ordered auth command active now i c

section Commands

variable {auth id}

theorem ordering_change {decide : DurableTimestamp → Incident → Except IncidentError Commit}
    (h : ∀ now active i c, decide now i = .ok c → Ordered auth command active now i c) :
    WritesOnce auth id (ordering auth command) (change auth id decide) :=
  (change_writes auth id decide).mono (fun now active i _ c hc => ⟨hc.1, h now active i c hc.2⟩)
    fun _ hidle => hidle

theorem ordering_checked (h : check = .ok () → WritesOnce auth id (ordering auth command) x) :
    WritesOnce auth id (ordering auth command) (Action.ofExcept check >>= fun _ => x) := by
  intro env u m s begun
  apply written_refuses.after_ofExcept begun
  intro _ valid
  exact h valid env u m s begun

theorem applyCommand_orders (auth : AuthorizationContext) (id : IncidentId) (command : Command) :
    WritesOnce auth id (ordering auth command) (applyCommand auth id command) := by
  cases command with
  | reopenIncident =>
    intro env u m s begun
    apply written_refuses.after_decisionTime begun
    intro now k t reading first last begun
    apply written_refuses.after_find begun
    intro i found
    apply written_refuses.after_lookup begun
    rintro _ ⟨⟩
    exact Written.commit begun found reading first last fun c hc => ⟨rfl, hc⟩
  | suppressIncident =>
    apply ordering_checked
    intro valid env u m s begun
    apply written_refuses.after_decisionTime begun
    intro now k t reading first last begun
    apply written_refuses.after_look looks_decisionTime begun
    intro later t' h begun
    obtain ⟨-, rfl⟩ := decisionTime_eq.mp h
    apply written_refuses.after_ofExcept begun
    intro deadline _
    apply written_refuses.after_find begun
    intro i found
    exact Written.commit begun found reading first (Nat.lt_succ_of_lt last) fun c hc =>
      ⟨rfl, valid, deadline, hc⟩
  | editNote =>
    apply ordering_checked
    intro valid env u m s begun
    apply written_refuses.after_decisionTime begun
    intro now k t reading first last begun
    apply written_refuses.after_find begun
    intro i found
    apply written_refuses.after_ofExcept begun
    intro original horiginal
    split
    · rename_i own
      exact Written.commit begun found reading first last fun c hc =>
        ⟨rfl, valid, original, noteAt_ok.mp horiginal, own, hc⟩
    -- another's note is not edited: the attempt is audited as denied
    · obtain ⟨v, n⟩ := t
      obtain rfl : v = u := begun.uow
      exact .denied .incidentNoteCreate (.incident id) "only a note's author may edit it" n
        begun.later
  | addNote =>
    apply ordering_checked
    intro _
    apply ordering_checked
    intro valid
    exact ordering_change fun _ _ _ _ h => ⟨valid, h⟩
  | redactNote =>
    apply ordering_checked
    intro valid
    exact ordering_change fun _ _ _ _ h => ⟨valid, h⟩
  | addTag key value =>
    apply ordering_checked
    intro bounded
    have hb : key.utf8ByteSize ≤ tagKeyMaxLen ∧ value.utf8ByteSize ≤ tagValueMaxLen := by
      simpa using require_ok.mp bounded
    exact ordering_change fun _ _ _ _ h => ⟨hb.1, hb.2, h⟩
  | acknowledgeIncident | beginInvestigation | markMonitoring | resolveIncident | closeIncident
  | unsuppressIncident | assignIncident | unassignIncident | changeSeverity | changePriority
  | removeTag => exact ordering_change fun _ _ _ _ h => h

theorem Ordered.decided (h : Ordered auth command active now i c) :
    Decided auth (fun _ => noteOf command) active now i c := by
  cases command with
  | acknowledgeIncident => exact .acknowledge _ _ h
  | beginInvestigation => exact .attend .investigating (Or.inl rfl) _ _ h
  | markMonitoring => exact .attend .monitoring (Or.inr rfl) _ _ h
  | resolveIncident version note => exact .resolveInternal _ note ⟨version, rfl⟩ h
  | closeIncident version reason detail => exact .closeInternal reason _ h
  | reopenIncident version reason => exact .operatorReopen reason h
  | suppressIncident version reason duration =>
    obtain ⟨valid, deadline, h⟩ := h
    exact .suppress reason valid deadline h
  | unsuppressIncident => exact .unsuppress h
  | assignIncident => exact .assign _ h
  | unassignIncident => exact .assign none h
  | changeSeverity version newSeverity reason => exact .changeSeverity newSeverity reason h
  | changePriority version newPriority => exact .changePriority newPriority h
  | addNote body visibility => exact .addNote body h.1 visibility h.2
  | editNote noteIndex body =>
    obtain ⟨valid, original, found, -, h⟩ := h
    exact .editNote noteIndex original found body valid h
  | redactNote noteIndex reason => exact .redactNote noteIndex reason h.1 h.2
  | addTag key value => exact .addTag key value ⟨h.1, h.2.1⟩ h.2.2
  | removeTag key => exact .removeTag key h

theorem applyCommand_writes (auth : AuthorizationContext) (id : IncidentId) (command : Command) :
    WritesOnce auth id (commanded auth command) (applyCommand auth id command) :=
  (applyCommand_orders auth id command).mono
    (fun _ _ _ _ _ h => ⟨h.1, Ordered.decided h.2⟩) fun _ h => h

end Commands

end Writes

end Tidegard.Incident.Proofs.Writes
