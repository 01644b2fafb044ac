import Tidegard.Indexes
import Tidegard.Incident.Proofs.Calls

namespace Tidegard.Incident.Proofs.Moves

open Tables Indexes Actions.Action Detector.Event Basics Time Record Store Commits UnitOfWork
open Changes Writes Calls

/-- The incident `id` is active and has the key. -/
def HoldsKey (u : IncidentUnitOfWork) (id : IncidentId) (key : CorrelationKey) : Prop :=
  ∃ i, u.store.incidents[id]? = some i ∧ i.correlationKey = key ∧ Active i.state

/-- Incidents are stored under their own ids and keyed within their own tenant, and the index
holds exactly the active ones. -/
structure Consistent (u : IncidentUnitOfWork) : Prop where
  filed : ∀ (id : IncidentId) i, u.store.incidents[id]? = some i → i.incidentId = id
  keyed : ∀ (id : IncidentId) i, u.store.incidents[id]? = some i →
    i.correlationKey.tenant = i.tenantId
  restorable : ∀ (id : IncidentId) i, u.store.incidents[id]? = some i → Restorable i
  index : Exact (fun key : CorrelationKey => u.store.openIndex[key]?) (HoldsKey u)

/-- What a call is given: the resolution notes, the events, and, when `sound` holds, a consistent
service and an unused id. -/
structure Grounds where
  noted : Incident → Option String → Prop
  seen : DetectionEvent → Prop
  sound : Prop

/-- The writes a call is made of. -/
inductive Move (env : Env) (auth : AuthorizationContext) (g : Grounds) : Session → Session → Prop
  | read (s : Session) (n : Nat) (later : s.readings ≤ n) : Move env auth g s ⟨s.uow, n⟩
  | deny (s : Session) (permission : Permission) (resource : AttemptedResource) (reason : String) :
      Move env auth g s
        ⟨s.uow.appendAudit (AuditEntry.denied auth permission resource reason), s.readings⟩
  | export_ (s : Session) (id : IncidentId) :
      Move env auth g s
        ⟨s.uow.appendAudit (AuditEntry.allowed auth .incidentExport id none none), s.readings⟩
  | notify (s : Session) (id : IncidentId) (i : Incident)
      (found : s.uow.store.incidents[id]? = some i) (owned : i.tenantId = auth.tenant)
      (channel eventType : String) (outcome : NotificationOutcome) :
      Move env auth g s ⟨s.uow.appendTimeline id auth.actor
        (.notificationResult channel eventType outcome), s.readings⟩
  | dedup (s : Session) (dedupKey : String) (id : IncidentId) :
      Move env auth g s ⟨s.uow.dedupRecord auth.tenant dedupKey id, s.readings⟩
  | remember (s : Session) (key : IdempotencyKey) (record : IdempotencyRecord) :
      Move env auth g s ⟨s.uow.idempotencyRecord auth.tenant key record, s.readings⟩
  | create (s : Session) (id : IncidentId) (number : IncidentNumber) (now : DurableTimestamp)
      (c : Commit) (k n : Nat) (generated : env.generate = .ok id)
      (allocated : env.allocate auth.tenant s.uow.numberAllocationYear = .ok number)
      (reading : DurableTimestamp.fromSystemTime (env.wall k) = .ok now)
      (first : s.readings ≤ k) (last : k < n)
      (vacant : s.uow.store.openIndex[c.incident.correlationKey]? = none)
      (unused : g.sound → s.uow.store.incidents[id]? = none)
      (opened : Opened auth g.seen id number now c) :
      Move env auth g s ⟨s.uow.commit auth id c, n⟩
  | change (s : Session) (id : IncidentId) (i : Incident) (now : DurableTimestamp) (c : Commit)
      (k n : Nat) (found : s.uow.store.incidents[id]? = some i)
      (owned : g.sound → i.tenantId = auth.tenant)
      (reading : DurableTimestamp.fromSystemTime (env.wall k) = .ok now)
      (first : s.readings ≤ k) (last : k < n)
      (decided : Decided auth g.noted s.uow.store.openIndex[i.correlationKey]? now i c) :
      Move env auth g s ⟨s.uow.commit auth id c, n⟩

abbrev MovesTo (env : Env) (auth : AuthorizationContext) (g : Grounds) :=
  Relation.ReflTransGen (Move env auth g)

section Ends

variable {s : Session}
variable {n : Nat} {α : Type}

theorem moves_read (later : s.readings ≤ n) : MovesTo env auth g s ⟨s.uow, n⟩ :=
  .single (.read s n later)

theorem moves_denied (later : s.readings ≤ n) (permission : Permission)
    (resource : AttemptedResource) (reason : String) :
    MovesTo env auth g s
      ⟨s.uow.appendAudit (AuditEntry.denied auth permission resource reason), n⟩ :=
  (moves_read later).tail (.deny ⟨s.uow, n⟩ permission resource reason)

theorem Written.moves {id : IncidentId}
    (h : Written env auth id D s.uow s.readings o t)
    (decided : ∀ now active i a c, s.uow.store.incidents[id]? = some i →
      D.change now active i a c →
      (g.sound → i.tenantId = auth.tenant) ∧ Decided auth g.noted active now i c) :
    MovesTo env auth g s t := by
  cases h with
  | wrote a c i now k n found reading first last hd =>
    obtain ⟨owned, hdecided⟩ := decided _ _ _ _ _ found hd
    exact .single (.change s id i now c k n found owned reading first last hdecided)
  | idle a n later answer | refused e n later => exact moves_read later
  | denied permission resource reason n later =>
    exact moves_denied later permission resource reason

theorem Created.moves (h : Created env auth seen s.uow s.readings o t)
    (given : ∀ e, seen e → g.seen e)
    (unused : g.sound → ∀ id, env.generate = .ok id → s.uow.store.incidents[id]? = none) :
    MovesTo env auth g s t := by
  cases h with
  | created id number now c k n generated allocated reading first last vacant opened =>
    refine .single (.create s id number now c k n generated allocated reading first last vacant
      (fun hs => unused hs id generated) ?_)
    cases opened with
    | detected event hseen own => exact .detected event (given event hseen) own
    | manual request valid => exact .manual request valid
  | refused e n later => exact moves_read later

theorem moves_remembered (own : tenant = auth.tenant) :
    MovesTo env auth g s ⟨remembered s.uow tenant key fingerprint outcome, s.readings⟩ := by
  subst own
  unfold remembered
  split
  · exact .single (.remember s _ _)
  · exact .refl

theorem Retried.moves (h : Retried auth key fingerprint mutated replay Ran s.uow s.readings o t)
    (ran : ∀ o t, Ran o t → MovesTo env auth g s t) : MovesTo env auth g s t := by
  cases h with
  | refused e n later | replayed k outcome a n later => exact moves_read later
  | denied permission resource reason n later =>
    exact moves_denied later permission resource reason
  | executed o t new hran => exact (ran o t hran).trans (moves_remembered rfl)

end Ends

theorem laterCandidate_mem (rank : IncidentId → Nat) (a b : Incident) :
    laterCandidate rank a b = a ∨ laterCandidate rank a b = b := by
  unfold laterCandidate
  dsimp only
  split
  · exact Or.inr rfl
  · exact Or.inl rfl

theorem foldl_laterCandidate_mem (rank : IncidentId → Nat) (rest : List Incident)
    (first : Incident) : rest.foldl (laterCandidate rank) first ∈ first :: rest := by
  induction rest generalizing first with
  | nil => simp
  | cons next rest ih =>
    rw [List.foldl_cons]
    rcases List.mem_cons.mp (ih (laterCandidate rank first next)) with h | h
    · rw [h]
      rcases laterCandidate_mem rank first next with hl | hl <;> simp [hl]
    · simp [h]

theorem reopenCandidate_some {store : InMemoryIncidentStore} {candidate : Incident}
    (h : store.reopenCandidate rank key tenant = some candidate) :
    (∃ id : IncidentId, store.incidents[id]? = some candidate) ∧ candidate.correlationKey = key ∧
      candidate.isReopenCandidate = true ∧ candidate.tenantId = tenant := by
  unfold InMemoryIncidentStore.reopenCandidate at h
  simp only at h
  split at h
  · cases h
  · rename_i first rest hfound
    have hmem : candidate ∈ first :: rest := by
      rw [← Option.some.inj h]
      exact foldl_laterCandidate_mem rank rest first
    rw [← hfound] at hmem
    simp only [List.mem_filter, List.mem_map, Bool.and_eq_true, decide_eq_true_eq] at hmem
    obtain ⟨⟨⟨id, i⟩, hlisted, rfl⟩, ⟨hkey, hcandidate⟩, htenant⟩ := hmem
    exact ⟨⟨id, (mem_toList _ _ _).mp hlisted⟩, hkey, hcandidate, htenant⟩

/-- The id a call would be handed out is not in use. -/
def Unused (env : Env) (u : IncidentUnitOfWork) : Prop :=
  ∀ id, env.generate = .ok id → u.store.incidents[id]? = none

/-- What a call gives: the note of a resolution, to the incident it is about, and the event. -/
def groundsOf (request : Request) (u : IncidentUnitOfWork) : Grounds where
  noted i note := note = none ∨ ∃ id command key,
    request.call = .handleCommand id command key ∧ noteOf command note ∧
      u.store.incidents[id]? = some i
  seen event := request.call = .ingestDetectionEvent event
  sound := Consistent u ∧ Unused request.env u

section Performed

variable {id : IncidentId}

theorem known_of_index (consistent : Consistent u)
    (active : u.store.openIndex[correlationKeyOf event]? = some id) (i : Incident)
    (found : u.store.incidents[id]? = some i) :
    i.correlationKey = correlationKeyOf event ∧ i.tenantId = event.target.tenant ∧
      Active i.state := by
  obtain ⟨j, hj, hkey, hactive⟩ := (consistent.index _ _).mp active
  obtain rfl : j = i := Option.some.inj (hj.symm.trans found)
  refine ⟨hkey, ?_, hactive⟩
  rw [← consistent.keyed id j found, hkey]
  rfl

theorem known_of_candidate (consistent : Consistent u)
    (h : u.store.reopenCandidate rank (correlationKeyOf event) event.target.tenant =
      some candidate) (i : Incident) (found : u.store.incidents[candidate.incidentId]? = some i) :
    i.correlationKey = correlationKeyOf event ∧ i.tenantId = event.target.tenant ∧
      ¬ Active i.state := by
  obtain ⟨⟨id, hid⟩, hkey, hcandidate, htenant⟩ := reopenCandidate_some h
  rw [consistent.filed id candidate hid, hid] at found
  cases found
  refine ⟨hkey, htenant, not_active_of_reopenable ?_⟩
  simpa [Incident.isReopenCandidate] using hcandidate

theorem Correlated.moves (own : event.target.tenant = auth.tenant)
    (seen : ∀ e, e = event → g.seen e) (sound : g.sound → Consistent u ∧ Unused env u)
    (h : Correlated env auth event u m o t) : MovesTo env auth g ⟨u, m⟩ t := by
  have mark : ∀ (v : IncidentUnitOfWork) (n : Nat) id, MovesTo env auth g ⟨v, n⟩
      ⟨marked event v id, n⟩ := by
    intro v n id
    unfold marked
    rw [own]
    exact .single (.dedup ⟨v, n⟩ event.dedupKey id)
  have link : ∀ (id : IncidentId) (late : Bool) (o : Except IncidentError IngestResult)
      (t : Session), (g.sound → ∀ i, u.store.incidents[id]? = some i → i.tenantId = auth.tenant) →
      Written env auth id (linking event late id) (marked event u id) m o t →
      MovesTo env auth g ⟨u, m⟩ t := by
    intro id late o t owned ran
    refine (mark u m id).trans (Written.moves (s := ⟨marked event u id, m⟩) ran ?_)
    rintro now active i a c found ⟨hlink, -⟩
    exact ⟨fun hs => owned hs i found, .linkEvent event late hlink⟩
  cases h with
  | linked id o t active ran kept =>
    exact link id false _ _
      (fun hs i found => (known_of_index (sound hs).1 active i found).2.1.trans own) ran
  | ended id t o t' active last ran recovers =>
    refine (link id false _ _
      (fun hs i found => (known_of_index (sound hs).1 active i found).2.1.trans own) ran).trans
      (Written.moves recovers ?_)
    rintro now active i a c found ⟨howned, hrecover⟩
    exact ⟨fun _ => howned, .enterRecovering _ hrecover⟩
  | late candidate o t vacant found late ran =>
    exact link _ true _ _
      (fun hs i hi => (known_of_candidate (sound hs).1 found i hi).2.1.trans own) ran
  | reopened candidate now o t vacant found new reading recurs ran =>
    have hread : MovesTo env auth g ⟨u, m⟩ ⟨u, m + 1⟩ := moves_read (s := ⟨u, m⟩) (Nat.le_succ m)
    refine (hread.trans (mark u (m + 1) candidate.incidentId)).trans
      (Written.moves (s := ⟨marked event u candidate.incidentId, m + 1⟩) ran ?_)
    rintro now active i a c hi ⟨hreopen, -⟩
    exact ⟨fun hs => (known_of_candidate (sound hs).1 found i hi).2.1.trans own,
      .reopenIncidentInternal event _ hreopen⟩
  | created id t notEnded ran =>
    exact (Created.moves (s := ⟨u, m⟩) ran seen fun hs => (sound hs).2).trans
      (mark t.uow t.readings id)
  | quarantined n later | refused e n later => exact moves_read (s := ⟨u, m⟩) later

theorem ingestDetectionEvent_moves (seen : ∀ e, e = event → g.seen e)
    (sound : g.sound → Consistent u ∧ Unused env u) :
    (ingestDetectionEvent auth event).Ends env ⟨u, 0⟩ fun _ t => MovesTo env auth g ⟨u, 0⟩ t := by
  apply ingestDetectionEvent_ends.mono
  intro o t h
  cases h with
  | refused e n later | turned a n later kind => exact moves_read (s := ⟨u, 0⟩) later
  | denied permission resource reason n later =>
    exact moves_denied (s := ⟨u, 0⟩) later permission resource reason
  | correlated o t admitted ran => exact Correlated.moves admitted.own seen sound ran

theorem moves_refuses : Refuses (α := Unit) u 0 fun _ t => MovesTo env auth g ⟨u, 0⟩ t :=
  fun _ _ later => moves_read (s := ⟨u, 0⟩) later

theorem moves_denies : Denies (α := Unit) auth u 0 fun _ t => MovesTo env auth g ⟨u, 0⟩ t :=
  fun permission resource reason _ later =>
    moves_denied (s := ⟨u, 0⟩) later permission resource reason

theorem recordExport_moves :
    (recordExport auth id).Ends env ⟨u, 0⟩ fun _ t => MovesTo env auth g ⟨u, 0⟩ t := by
  apply moves_denies.after_check .start
  intro granted
  apply moves_refuses.after_findOwned .start
  intro i found owned
  exact .single (.export_ ⟨u, 0⟩ id)

theorem recordNotificationResult_moves :
    (recordNotificationResult auth id channel eventType outcome).Ends env ⟨u, 0⟩
      fun _ t => MovesTo env auth g ⟨u, 0⟩ t := by
  apply moves_denies.after_check .start
  intro granted
  apply moves_refuses.after_ofExcept .start
  intro _ _
  apply moves_refuses.after_findOwned .start
  intro i found owned
  exact .single (.notify ⟨u, 0⟩ id i found owned channel eventType outcome)

theorem writesOnce_moves {α : Type} {D : Contract α} {x : Uow α} (h : WritesOnce auth id D x)
    (decided : ∀ now active i a c, D.change now active i a c →
      i.tenantId = auth.tenant ∧ Decided auth g.noted active now i c) :
    x.Ends env ⟨u, 0⟩ fun _ t => MovesTo env auth g ⟨u, 0⟩ t := by
  apply (h env u 0 ⟨u, 0⟩ ⟨rfl, le_rfl⟩).mono
  intro o t hwritten
  apply Written.moves (s := ⟨u, 0⟩) hwritten
  intro now active i a c found hd
  obtain ⟨owned, hdecided⟩ := decided _ _ _ _ _ hd
  exact ⟨fun _ => owned, hdecided⟩

theorem perform_moves (request : Request) (u : IncidentUnitOfWork) :
    (perform request.auth request.call).Ends request.env ⟨u, 0⟩
      fun _ t => MovesTo request.env request.auth (groundsOf request u) ⟨u, 0⟩ t := by
  obtain ⟨env, auth, call⟩ := request
  unfold Ends
  cases call with simp only [perform, bind_pure_apply]
  | ingestDetectionEvent => exact ingestDetectionEvent_moves (fun e he => he ▸ rfl) fun h => h
  | createManualIncident request key =>
    have ends := createManualIncident_ends env auth key request (u := u) (s := ⟨u, 0⟩)
      ⟨rfl, le_rfl⟩
    apply Retried.moves (s := ⟨u, 0⟩) ends
    intro o t ran
    exact Created.moves (s := ⟨u, 0⟩) ran (fun _ h => h.elim) fun hs => hs.2
  | recordExport => exact recordExport_moves
  | recordNotificationResult => exact recordNotificationResult_moves
  | enterRecovering id reason =>
    apply writesOnce_moves (enterRecovering_writes auth id reason)
    rintro now active i a c ⟨owned, h⟩
    exact ⟨owned, .enterRecovering reason h⟩
  | enterRecoveringIfSilent id silentAfter =>
    apply writesOnce_moves (enterRecoveringIfSilent_writes auth id silentAfter)
    rintro now active i a c ⟨-, owned, h⟩
    exact ⟨owned, .enterRecovering _ h⟩
  | confirmRecoveryIfDue id confirmation =>
    apply writesOnce_moves (confirmRecoveryIfDue_writes auth id confirmation)
    rintro now active i a c ⟨-, owned, -, h⟩
    exact ⟨owned, .resolveInternal _ none (Or.inl rfl) h⟩
  | abortRecovery id =>
    apply writesOnce_moves (abortRecovery_writes auth id)
    rintro now active i a c ⟨owned, h⟩
    exact ⟨owned, .abortRecovery h⟩
  | attemptAutomaticClosure id =>
    apply writesOnce_moves (attemptAutomaticClosure_writes auth id)
    rintro now active i a c ⟨-, owned, h⟩
    exact ⟨owned, .closeInternal _ _ h⟩
  | handleCommand id command key =>
    have ends := handleCommand_ends env auth key id command (u := u) (s := ⟨u, 0⟩) ⟨rfl, le_rfl⟩
    apply Retried.moves (s := ⟨u, 0⟩) ends
    rintro o t ⟨i, result, found, owned, -, ran, -⟩
    apply Written.moves (s := ⟨u, 0⟩) ran
    rintro now active j a c found' ⟨-, decided⟩
    obtain rfl : i = j := Option.some.inj (found.symm.trans found')
    exact ⟨fun _ => owned, decided.noted fun note h => Or.inr ⟨id, command, key, rfl, h, found⟩⟩

theorem step_invariant {P : Session → Prop} {request : Request}
    (move : ∀ s t, Move request.env request.auth (groundsOf request u) s t → P s → P t)
    (hu : P ⟨u, 0⟩) : P (perform request.auth request.call request.env ⟨u, 0⟩).2 := by
  have hmoves := perform_moves request u
  unfold Ends at hmoves
  generalize (perform request.auth request.call request.env ⟨u, 0⟩).2 = t at hmoves ⊢
  induction hmoves with
  | refl => exact hu
  | tail _ step ih => exact move _ _ step ih

end Performed

end Tidegard.Incident.Proofs.Moves
