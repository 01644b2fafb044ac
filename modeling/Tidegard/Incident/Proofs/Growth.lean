import Tidegard.Incident.Proofs.Index

namespace Tidegard.Incident.Proofs.Growth

open List hiding after
open Tables Runs Common Basics Record Store UnitOfWork Changes Moves Index

/-- The log extends an earlier one, each entry is numbered by its place, as far as the numbers go,
and the counter stands at the entry to come. -/
structure Log (earlier log : List α) (numberOf : α → Nat) (number : Nat) : Prop where
  extended : earlier <+: log
  places : log.map numberOf = (range log.length).map (min · u64Max)
  counter : number = min log.length u64Max

theorem Log.snoc {entry : α} (h : Log earlier log numberOf number) (hentry : numberOf entry = number) :
    Log earlier (log ++ [entry]) numberOf (saturatingAdd number 1) where
  extended := h.extended.trans (prefix_append _ _)
  places := by simp [range_succ, h.places, hentry, h.counter]
  counter := by
    rw [h.counter, length_append, length_singleton, saturatingAdd]
    omega

/-- The three logs of the service, since it was in the state `base`. -/
structure Since (base u : IncidentUnitOfWork) : Prop where
  timeline : Log base.store.timeline u.store.timeline (·.sequence) u.timelineSequence
  audit : Log base.store.audit u.store.audit (·.sequence) u.auditSequence
  outbox : Log base.store.outbox u.store.outbox (·.sequence) u.outboxSequence

theorem Since.entries (h : Since base u) (id : IncidentId)
    (entries : List (Actor × TimelinePayload)) : Since base (u.appendEntries id entries) := by
  induction entries generalizing u with
  | nil => exact h
  | cons entry entries ih => exact ih { h with timeline := h.timeline.snoc rfl }

theorem Since.commit (h : Since base u) (auth : AuthorizationContext) (id : IncidentId)
    (c : Commit) : Since base (u.commit auth id c) := by
  let written := { u.store with incidents := u.store.incidents.insert id c.incident }
  have hindexed : Since base { u with store := written.updateIndex id c.index } := by
    cases c.index <;> exact { h with }
  have hentries := hindexed.entries id c.entries
  unfold IncidentUnitOfWork.commit
  cases c.outbox with
  | none => exact { hentries with audit := hentries.audit.snoc rfl }
  | some event =>
    exact { hentries with audit := hentries.audit.snoc rfl, outbox := hentries.outbox.snoc rfl }

theorem Since.move (hs : Since base s.uow) (h : Move env auth g s t) : Since base t.uow := by
  cases h with
  | read => exact hs
  | deny | export_ => exact { hs with audit := hs.audit.snoc rfl }
  | notify => exact { hs with timeline := hs.timeline.snoc rfl }
  | dedup | remember => exact { hs with }
  | create | change => exact hs.commit _ _ _

theorem Since.run (h : Since base u) (requests : List Request) :
    Since base (service.run u requests) :=
  service.invariant (G := fun _ => True) h
    (fun _ _ hs _ => step_invariant (P := (Since base ·.uow)) (fun _ _ move hs => hs.move move) hs)
    requests fun _ _ => trivial

/-- No call takes an entry out of the timeline, the audit log or the outbox, changes one, or
numbers one out of turn. -/
theorem logs_only_grow (closurePolicy : ClosurePolicy) (reopenPolicy : ReopenPolicy) (year : Nat)
    (earlier later : List Request) :
    let u := service.run (new closurePolicy reopenPolicy year) earlier
    Since u (service.run u later) := by
  have hstart : Since (new closurePolicy reopenPolicy year) (new closurePolicy reopenPolicy year) :=
    ⟨⟨prefix_rfl, rfl, rfl⟩, ⟨prefix_rfl, rfl, rfl⟩, ⟨prefix_rfl, rfl, rfl⟩⟩
  have hu := hstart.run earlier
  exact Since.run ⟨{ hu.timeline with extended := prefix_rfl },
    { hu.audit with extended := prefix_rfl }, { hu.outbox with extended := prefix_rfl }⟩ later

/-- Every incident is still there, and is another only under a later version. -/
def Advances (u v : IncidentUnitOfWork) : Prop :=
  ∀ (id : IncidentId) i, u.store.incidents[id]? = some i →
    ∃ j, v.store.incidents[id]? = some j ∧ (j = i ∨ i.version < j.version)

theorem Advances.commit {id : IncidentId} {c : Commit} (h : Advances base u)
    (later : ∀ i, u.store.incidents[id]? = some i → i.version < c.incident.version) :
    Advances base (u.commit auth id c) := by
  intro x i hi
  obtain ⟨j, hj, hversion⟩ := h x i hi
  rw [commit_incidents, get_insert]
  split
  · rename_i hx
    subst hx
    have hlater := later j hj
    exact ⟨_, rfl, Or.inr (by grind)⟩
  · exact ⟨j, hj, hversion⟩

theorem Advances.move (h : Advances base s.uow) (move : Move env auth g s t) (sound : g.sound) :
    Advances base t.uow := by
  cases move with
  | read | deny | export_ | notify | dedup | remember => exact h
  | create id number now c k n generated allocated reading first last vacant unused opened =>
    exact Advances.commit h fun i hi => by simp [unused sound] at hi
  | change id i now c k n found owned reading first last decided =>
    have hversion := decided.edit.version
    exact Advances.commit h fun j hj => by grind

/-- A caller that read an incident and finds its version unchanged finds it unchanged. -/
theorem versions_advance (closurePolicy : ClosurePolicy) (reopenPolicy : ReopenPolicy) (year : Nat)
    (earlier later : List Request) (distinct : (handedOut (earlier ++ later)).Nodup) :
    Advances (service.run (new closurePolicy reopenPolicy year) earlier)
      (service.run (new closurePolicy reopenPolicy year) (earlier ++ later)) := by
  induction later using reverseRecOn with
  | nil =>
    rw [append_nil]
    exact fun id i hi => ⟨i, hi, Or.inl rfl⟩
  | append_singleton later request ih =>
    rw [← append_assoc] at distinct ⊢
    obtain ⟨hconsistent, hstored⟩ := run_consistent closurePolicy reopenPolicy year _
      (distinct_past distinct)
    rw [service.run_snoc]
    have hunused := unused_of_distinct distinct hstored
    exact step_invariant (P := (Advances _ ·.uow))
      (fun _ _ move h => Advances.move h move ⟨hconsistent, hunused⟩) (ih (distinct_past distinct))

/-- An incident is opened and then resolved. -/
theorem versions_advance_resolved :
    let opened := sampleIngest 0 0 "d0" .started 0
    let resolved := sampleCommand 10 1 (sampleId 0) (.resolveIncident 1 none)
    Advances (service.run (new {} {} 2026) [opened])
      (service.run (new {} {} 2026) [opened, resolved]) :=
  versions_advance {} {} 2026 [_] [_] (by decide)

end Tidegard.Incident.Proofs.Growth
