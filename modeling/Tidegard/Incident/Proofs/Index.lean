import Tidegard.Incident.Proofs.Moves

namespace Tidegard.Incident.Proofs.Index

open Tables Indexes Basics Time Record Store Commits UnitOfWork Changes Calls Moves

section Steps

variable {u : IncidentUnitOfWork} {auth : AuthorizationContext} {id : IncidentId} {i : Incident}
variable {c : Commit}
variable {x : IncidentId} {key : CorrelationKey}

theorem holdsKey_commit :
    HoldsKey (u.commit auth id c) x key ↔
      if id = x then c.incident.correlationKey = key ∧ Active c.incident.state
      else HoldsKey u x key := by
  unfold HoldsKey
  rw [commit_incidents]
  simp only [get_insert]
  by_cases h : id = x <;> simp [h]

theorem holdsKey_of_found (found : u.store.incidents[x]? = some i) :
    HoldsKey u x key ↔ i.correlationKey = key ∧ Active i.state := by
  unfold HoldsKey
  rw [found]
  simp

theorem not_holdsKey_of_unused (unused : u.store.incidents[x]? = none) : ¬ HoldsKey u x key := by
  rintro ⟨i, hi, -⟩
  rw [unused] at hi
  cases hi

theorem index_keep (h : Consistent u) (found : u.store.incidents[id]? = some i)
    (identity : SameIdentity i c.incident) (keep : c.index = .keep)
    (hactive : Active c.incident.state ↔ Active i.state) :
    Exact (fun key : CorrelationKey => (u.commit auth id c).store.openIndex[key]?)
      (HoldsKey (u.commit auth id c)) := by
  apply h.index.keep
  · intro key
    rw [commit_openIndex, keep]
    rfl
  · intro x key
    rw [holdsKey_commit]
    split
    · rename_i hx
      subst hx
      rw [holdsKey_of_found found, identity.correlationKey, hactive]
    · rfl

theorem index_claim (h : Consistent u) (inactive : ∀ key, ¬ HoldsKey u id key)
    (claim : c.index = .claim c.incident.correlationKey)
    (vacant : u.store.openIndex[c.incident.correlationKey]? = none)
    (hactive : Active c.incident.state) :
    Exact (fun key : CorrelationKey => (u.commit auth id c).store.openIndex[key]?)
      (HoldsKey (u.commit auth id c)) := by
  apply h.index.claim (k := c.incident.correlationKey) (a := id) vacant
  · intro key
    rw [commit_openIndex, claim]
    exact get_insert _ _ _ _
  · intro x key
    rw [holdsKey_commit]
    split
    · rename_i hx
      subst hx
      simp [inactive, hactive, eq_comm]
    · rename_i hx
      simp [Ne.symm hx]

theorem index_release (h : Consistent u) (found : u.store.incidents[id]? = some i)
    (release : c.index = .release i.correlationKey)
    (before : Active i.state) (after : ¬ Active c.incident.state) :
    Exact (fun key : CorrelationKey => (u.commit auth id c).store.openIndex[key]?)
      (HoldsKey (u.commit auth id c)) := by
  have held : HoldsKey u id i.correlationKey := (holdsKey_of_found found).mpr ⟨rfl, before⟩
  apply h.index.release held
  · intro key
    rw [commit_openIndex, release]
    exact get_erase _ _ _
  · intro x key
    rw [holdsKey_commit]
    split
    · rename_i hx
      subst hx
      rw [holdsKey_of_found found]
      simp only [after, and_false, true_and, false_iff, not_and, not_not, and_imp]
      intro hkey _
      exact hkey.symm
    · rename_i hx
      simp [Ne.symm hx]

theorem index_change (h : Consistent u) (found : u.store.incidents[id]? = some i)
    (edit : Edit u.store.openIndex[i.correlationKey]? i c) :
    Exact (fun key : CorrelationKey => (u.commit auth id c).store.openIndex[key]?)
      (HoldsKey (u.commit auth id c)) := by
  have identity := edit.identity
  cases edit.lifecycle (h.restorable id i found) with
  | stays keep state =>
    exact index_keep h found identity keep (by rw [state])
  | moves cause traverses keep before after uncounted =>
    exact index_keep h found identity keep ⟨fun _ => before, fun _ => after⟩
  | closes cause traverses keep before after uncounted =>
    apply index_keep h found identity keep
    rw [before, after]
    decide
  | resolves cause traverses release before after uncounted =>
    apply index_release h found release before
    rw [after]
    decide
  | reopens cause traverses claim vacant before after =>
    apply index_claim h
    · intro key held
      exact before ((holdsKey_of_found found).mp held).2
    · rw [claim, identity.correlationKey]
    · rw [identity.correlationKey]
      exact vacant
    · rw [after]
      decide

theorem stored_commit {P : IncidentId → Incident → Prop}
    (h : ∀ (x : IncidentId) j, u.store.incidents[x]? = some j → P x j) (hc : P id c.incident)
    (x : IncidentId) (j : Incident)
    (hj : (u.commit auth id c).store.incidents[x]? = some j) : P x j := by
  rw [commit_incidents] at hj
  exact forall_insert h hc hj

theorem consistent_change (h : Consistent u) (found : u.store.incidents[id]? = some i)
    (edit : Edit u.store.openIndex[i.correlationKey]? i c) : Consistent (u.commit auth id c) where
  filed := stored_commit h.filed (edit.identity.incidentId.trans (h.filed id i found))
  keyed := by
    apply stored_commit h.keyed
    rw [edit.identity.correlationKey, edit.identity.tenantId]
    exact h.keyed id i found
  restorable := stored_commit h.restorable (edit.restorable (h.restorable id i found))
  index := index_change h found edit

/-- What every new incident is. -/
structure Fresh (auth : AuthorizationContext) (id : IncidentId) (c : Commit) : Prop where
  incidentId : c.incident.incidentId = id
  tenantId : c.incident.tenantId = auth.tenant
  keyed : c.incident.correlationKey.tenant = c.incident.tenantId
  state : c.incident.state = .open_
  before : c.incident.stateBeforeRecovering = none
  reopenCount : c.incident.reopenCount = 0
  index : c.index = .claim c.incident.correlationKey
  edges : edges c = []
  reopenings : reopenings c = 0

theorem Opened.fresh (h : Opened auth seen id number now c) : Fresh auth id c := by
  cases h with
  | detected event given own => exact ⟨rfl, own, rfl, rfl, rfl, rfl, rfl, rfl, rfl⟩
  | manual => exact ⟨rfl, rfl, rfl, rfl, rfl, rfl, rfl, rfl, rfl⟩

theorem consistent_create (h : Consistent u) (unused : u.store.incidents[id]? = none)
    (vacant : u.store.openIndex[c.incident.correlationKey]? = none) (fresh : Fresh auth id c) :
    Consistent (u.commit auth id c) where
  filed := stored_commit h.filed fresh.incidentId
  keyed := stored_commit h.keyed fresh.keyed
  restorable := by
    apply stored_commit h.restorable
    refine .settled ?_ fresh.before
    rw [fresh.state]
    decide
  index := by
    apply index_claim h (fun _ => not_holdsKey_of_unused unused) fresh.index vacant
    rw [fresh.state]
    decide

theorem consistent_same (h : Consistent u) (incidents : v.store.incidents = u.store.incidents)
    (openIndex : v.store.openIndex = u.store.openIndex) : Consistent v where
  filed := by
    rw [incidents]
    exact h.filed
  keyed := by
    rw [incidents]
    exact h.keyed
  restorable := by
    rw [incidents]
    exact h.restorable
  index := by
    apply h.index.keep
    · intro key
      rw [openIndex]
    · intro x key
      unfold HoldsKey
      rw [incidents]

end Steps

/-- Incidents are never dropped or given another identity, and new ones have the id handed out. -/
structure Grows (env : Env) (u v : IncidentUnitOfWork) : Prop where
  kept : ∀ (id : IncidentId) i, u.store.incidents[id]? = some i →
    ∃ j, v.store.incidents[id]? = some j ∧ SameIdentity i j
  new : ∀ (id : IncidentId) j, v.store.incidents[id]? = some j →
    (∃ i, u.store.incidents[id]? = some i) ∨ env.generate = .ok id

section Runs

variable {auth : AuthorizationContext}
variable {u : IncidentUnitOfWork}
variable {id : IncidentId}

theorem Grows.same (h : v.store.incidents = u.store.incidents) :
    Grows env u v where
  kept _ i hi := ⟨i, h ▸ hi, rfl, rfl, rfl⟩
  new _ j hj := Or.inl ⟨j, h ▸ hj⟩

theorem Grows.trans (h : Grows env u v) (h' : Grows env v w) :
    Grows env u w where
  kept id i hi := by
    obtain ⟨j, hj, hij⟩ := h.kept id i hi
    obtain ⟨k, hk, hjk⟩ := h'.kept id j hj
    exact ⟨k, hk, hjk.incidentId.trans hij.incidentId, hjk.tenantId.trans hij.tenantId,
      hjk.correlationKey.trans hij.correlationKey⟩
  new id k hk := by
    rcases h'.new id k hk with ⟨j, hj⟩ | hid
    · exact h.new id j hj
    · exact Or.inr hid

theorem Grows.commit (kept : ∀ i, u.store.incidents[id]? = some i → SameIdentity i c.incident)
    (new : u.store.incidents[id]? = none → env.generate = .ok id) :
    Grows env u (u.commit auth id c) where
  kept x i hi := by
    rw [commit_incidents, get_insert]
    split
    · rename_i hx
      subst hx
      exact ⟨c.incident, rfl, kept i hi⟩
    · exact ⟨i, hi, rfl, rfl, rfl⟩
  new x j hj := by
    rw [commit_incidents, get_insert] at hj
    split at hj
    · rename_i hx
      subst hx
      cases hu : u.store.incidents[id]? with
      | none => exact Or.inr (new hu)
      | some i => exact Or.inl ⟨i, rfl⟩
    · exact Or.inl ⟨j, hj⟩

theorem move_consistent (sound : g.sound) (h : Move env auth g s t) (hs : Consistent s.uow) :
    Consistent t.uow ∧ Grows env s.uow t.uow := by
  cases h with
  | read => exact ⟨hs, .same rfl⟩
  | deny | export_ | notify | dedup | remember =>
    exact ⟨consistent_same hs rfl rfl, .same rfl⟩
  | create id number now c k n generated allocated reading first last vacant unused opened =>
    have hunused := unused sound
    refine ⟨consistent_create hs hunused vacant (Opened.fresh opened), .commit ?_ fun _ => generated⟩
    intro i hi
    rw [hunused] at hi
    cases hi
  | change id i now c k n found owned reading first last decided =>
    have edit := decided.edit
    refine ⟨consistent_change hs found edit, .commit ?_ ?_⟩
    · intro j hj
      rw [found] at hj
      cases hj
      exact edit.identity
    · intro hnone
      rw [found] at hnone
      cases hnone

theorem movesTo_consistent (sound : g.sound) (h : MovesTo env auth g s t)
    (hs : Consistent s.uow) : Consistent t.uow ∧ Grows env s.uow t.uow := by
  induction h with
  | refl => exact ⟨hs, .same rfl⟩
  | tail _ step ih =>
    obtain ⟨hmid, hgrows⟩ := ih
    obtain ⟨hend, hgrows'⟩ := move_consistent sound step hmid
    exact ⟨hend, hgrows.trans hgrows'⟩

theorem step_consistent (request : Request) (hu : Consistent u) (unused : Unused request.env u) :
    Consistent (service.step u request).2 ∧ Grows request.env u (service.step u request).2 :=
  movesTo_consistent (g := groundsOf request u) ⟨hu, unused⟩ (perform_moves request u) hu

theorem new_consistent (closurePolicy : ClosurePolicy) (reopenPolicy : ReopenPolicy) (year : Nat) :
    Consistent (new closurePolicy reopenPolicy year) where
  filed := by simp [new]
  keyed := by simp [new]
  restorable := by simp [new]
  index := by
    intro key id
    simp [new, HoldsKey]

/-- The ids a run is handed. A call that takes none may be handed none. -/
def handedOut (requests : List Request) : List IncidentId :=
  requests.filterMap fun request => request.env.generate.toOption

theorem mem_handedOut :
    id ∈ handedOut requests ↔ ∃ request ∈ requests, request.env.generate = .ok id := by
  unfold handedOut
  rw [List.mem_filterMap]
  constructor
  · rintro ⟨request, hmem, hid⟩
    refine ⟨request, hmem, ?_⟩
    cases hg : request.env.generate with
    | error e =>
      rw [hg] at hid
      cases hid
    | ok other =>
      rw [hg] at hid
      cases hid
      rfl
  · rintro ⟨request, hmem, hid⟩
    exact ⟨request, hmem, by rw [hid]; rfl⟩

theorem handedOut_snoc (requests : List Request) (request : Request) :
    handedOut (requests ++ [request]) = handedOut requests ++ handedOut [request] := by
  simp [handedOut]

theorem distinct_past (distinct : (handedOut (past ++ rest)).Nodup) : (handedOut past).Nodup := by
  unfold handedOut at distinct ⊢
  rw [List.filterMap_append] at distinct
  exact distinct.of_append_left

theorem unused_of_distinct (distinct : (handedOut (requests ++ [request])).Nodup)
    (stored : ∀ (id : IncidentId) i, u.store.incidents[id]? = some i → id ∈ handedOut requests) :
    Unused request.env u := by
  rw [handedOut_snoc, List.nodup_append] at distinct
  obtain ⟨-, -, hdisjoint⟩ := distinct
  intro id hid
  cases hi : u.store.incidents[id]? with
  | none => rfl
  | some i =>
    have hnew : id ∈ handedOut [request] := mem_handedOut.mpr ⟨request, by simp, hid⟩
    exact absurd rfl (hdisjoint id (stored id i hi) id hnew)

section Reachable

variable (closurePolicy : ClosurePolicy) (reopenPolicy : ReopenPolicy) (year : Nat)

theorem run_consistent (requests : List Request) (distinct : (handedOut requests).Nodup) :
    Consistent (service.run (new closurePolicy reopenPolicy year) requests) ∧
      ∀ (id : IncidentId) i,
        (service.run (new closurePolicy reopenPolicy year) requests).store.incidents[id]? = some i →
          id ∈ handedOut requests := by
  induction requests using List.reverseRecOn with
  | nil =>
    refine ⟨new_consistent closurePolicy reopenPolicy year, ?_⟩
    simp [new]
  | append_singleton requests request ih =>
    obtain ⟨hconsistent, hstored⟩ := ih (distinct_past distinct)
    rw [service.run_snoc]
    obtain ⟨hafter, hgrows⟩ :=
      step_consistent request hconsistent (unused_of_distinct distinct hstored)
    refine ⟨hafter, ?_⟩
    intro id j hj
    rw [handedOut_snoc, List.mem_append]
    rcases hgrows.new id j hj with ⟨i, hi⟩ | hid
    · exact Or.inl (hstored id i hi)
    · exact Or.inr (mem_handedOut.mpr ⟨request, by simp, hid⟩)

theorem run_grows (requests : List Request) (request : Request)
    (distinct : (handedOut (requests ++ [request])).Nodup) :
    Grows request.env (service.run (new closurePolicy reopenPolicy year) requests)
      (service.step (service.run (new closurePolicy reopenPolicy year) requests) request).2 := by
  have hpast := distinct_past distinct
  obtain ⟨hconsistent, hstored⟩ := run_consistent closurePolicy reopenPolicy year requests hpast
  exact (step_consistent request hconsistent (unused_of_distinct distinct hstored)).2

end Reachable

end Runs

/-- In every run whose ids never repeat, the open index maps a key to an id exactly when the
incident stored under that id has the key and is neither resolved nor closed. So a key has at most
one active incident, and whatever call comes next, an indexed incident stays indexed unless it is
resolved or closed itself. -/
theorem open_index_exact (closurePolicy : ClosurePolicy) (reopenPolicy : ReopenPolicy) (year : Nat)
    (requests : List Request) (distinct : (handedOut requests).Nodup) :
    let u := service.run (new closurePolicy reopenPolicy year) requests
    (∀ (key : CorrelationKey) (id : IncidentId), u.store.openIndex[key]? = some id ↔
      ∃ i, u.store.incidents[id]? = some i ∧ i.correlationKey = key ∧
        i.state ≠ .resolved ∧ i.state ≠ .closed) ∧
    (∀ (id id' : IncidentId) i i', u.store.incidents[id]? = some i →
      u.store.incidents[id']? = some i' → Active i.state → Active i'.state →
      i.correlationKey = i'.correlationKey → id = id') ∧
    (∀ request, (handedOut (requests ++ [request])).Nodup →
      ∀ (key : CorrelationKey) (id : IncidentId), u.store.openIndex[key]? = some id →
        (service.step u request).2.store.openIndex[key]? = some id ∨
        ∃ i, (service.step u request).2.store.incidents[id]? = some i ∧ i.correlationKey = key ∧
          (i.state = .resolved ∨ i.state = .closed)) := by
  intro u
  obtain ⟨hconsistent, -⟩ := run_consistent closurePolicy reopenPolicy year requests distinct
  refine ⟨hconsistent.index, ?_, ?_⟩
  · intro id id' i i' hi hi' active active' same
    exact hconsistent.index.unique ⟨i, hi, same, active⟩ ⟨i', hi', rfl, active'⟩
  · intro request distinct' key id hindexed
    obtain ⟨i, hi, hkey, -⟩ := (hconsistent.index key id).mp hindexed
    -- the run with the next call is itself such a run
    obtain ⟨hafter, -⟩ := run_consistent closurePolicy reopenPolicy year _ distinct'
    rw [service.run_snoc] at hafter
    obtain ⟨j, hj, identity⟩ :=
      (run_grows closurePolicy reopenPolicy year requests request distinct').kept id i hi
    have hjkey : j.correlationKey = key := identity.correlationKey.trans hkey
    by_cases active : Active j.state
    · exact Or.inl ((hafter.index key id).mpr ⟨j, hj, hjkey, active⟩)
    · refine Or.inr ⟨j, hj, hjkey, ?_⟩
      unfold Active at active
      tauto

/-- An incident is opened, resolved, and reopened by a new detection. -/
def reopenedRun : List Request :=
  [sampleIngest 0 0 "d0" .started 0,
    sampleCommand 10 1 (sampleId 0) (.resolveIncident 1 none),
    sampleIngest 20 2 "d1" .started 0]

theorem open_index_exact_reopened :
    (handedOut reopenedRun).Nodup ∧
    ∀ (key : CorrelationKey) (id : IncidentId),
      (service.run (new {} {} 2026) reopenedRun).store.openIndex[key]? = some id ↔
      ∃ i, (service.run (new {} {} 2026) reopenedRun).store.incidents[id]? = some i ∧
        i.correlationKey = key ∧ i.state ≠ .resolved ∧ i.state ≠ .closed :=
  ⟨by decide, (open_index_exact {} {} 2026 reopenedRun (by decide)).1⟩

end Tidegard.Incident.Proofs.Index
