import Tidegard.Incident.Proofs.Effects

namespace Tidegard.Incident.Proofs.Deduplication

open Tables Fallible Common Actions.Action Detector.Event Basics Time Record Store Commits
open UnitOfWork Changes Writes Calls Index Effects

/-- The incident keeps what it holds of its events. -/
structure SameEvents (i j : Incident) : Prop where
  tenantId : j.tenantId = i.tenantId
  evidence : j.evidence = i.evidence

section SameEvents

variable {auth : AuthorizationContext} {active : Option IncidentId}
variable {i : Incident}

theorem recordEdit_same {reason : Option String} {change : Option FieldChange}
    {outbox : Option OutboxEvent}
    (h : Commit.recordEdit auth now i edited payload permission reason change outbox = .ok c)
    (same : SameEvents i edited) : SameEvents i c.incident := by
  simp only [Commit.recordEdit, bind_eq_ok, pure_eq_ok] at h
  obtain ⟨v, -, rfl⟩ := h
  exact ⟨same.tenantId, same.evidence⟩

theorem guardedOperatorTransition_same (same : ∀ j, SameEvents j (extra j now))
    (h : Commit.guardedOperatorTransition auth toState kind permission extra now i = .ok c) :
    SameEvents i c.incident := by
  simp only [Commit.guardedOperatorTransition, bind_eq_ok, pure_eq_ok] at h
  obtain ⟨-, -, -, -, v, -, rfl⟩ := h
  have hs := same { i with state := toState, lastUpdatedAt := now, version := v }
  exact ⟨hs.tenantId, hs.evidence⟩

theorem enterRecovering_same (h : Commit.enterRecovering reason now i = .ok c) :
    SameEvents i c.incident := by
  simp only [Commit.enterRecovering, bind_eq_ok, pure_eq_ok] at h
  obtain ⟨-, -, v, -, rfl⟩ := h
  exact ⟨rfl, rfl⟩

theorem resolveInternal_same (h : Commit.resolveInternal auth cause note now i = .ok c) :
    SameEvents i c.incident := by
  simp only [Commit.resolveInternal, bind_eq_ok, pure_eq_ok] at h
  obtain ⟨-, -, -, -, v, -, rfl⟩ := h
  exact ⟨rfl, rfl⟩

theorem closeInternal_same (h : Commit.closeInternal auth reason cause now i = .ok c) :
    SameEvents i c.incident := by
  simp only [Commit.closeInternal, bind_eq_ok, pure_eq_ok] at h
  obtain ⟨-, -, v, -, rfl⟩ := h
  exact ⟨rfl, rfl⟩

theorem Ordered.same (h : Ordered auth command active now i c) : SameEvents i c.incident := by
  cases command with
  | acknowledgeIncident | beginInvestigation | markMonitoring =>
    exact guardedOperatorTransition_same (fun _ => ⟨rfl, rfl⟩) h
  | resolveIncident => exact resolveInternal_same h
  | closeIncident => exact closeInternal_same h
  | reopenIncident =>
    simp only [Ordered, Commit.operatorReopen, bind_eq_ok, pure_eq_ok] at h
    obtain ⟨-, -, -, -, n, -, v, -, rfl⟩ := h
    exact ⟨rfl, rfl⟩
  | suppressIncident =>
    obtain ⟨-, deadline, h⟩ := h
    exact recordEdit_same h ⟨rfl, rfl⟩
  | unsuppressIncident | assignIncident | unassignIncident | changePriority | removeTag =>
    exact recordEdit_same h ⟨rfl, rfl⟩
  | changeSeverity =>
    obtain ⟨-, -, h⟩ := bind_eq_ok.mp h
    exact recordEdit_same h ⟨rfl, rfl⟩
  | addNote =>
    obtain ⟨-, -, h⟩ := bind_eq_ok.mp h.2
    exact recordEdit_same h ⟨rfl, rfl⟩
  | editNote =>
    obtain ⟨-, original, -, -, h⟩ := h
    simp only [Commit.editNote, bind_eq_ok] at h
    obtain ⟨-, -, -, -, -, -, h⟩ := h
    exact recordEdit_same h ⟨rfl, rfl⟩
  | redactNote =>
    obtain ⟨-, h⟩ := h
    simp only [Commit.redactNote, bind_eq_ok, pure_eq_ok] at h
    obtain ⟨v, -, note, -, -, -, rfl⟩ := h
    exact ⟨rfl, rfl⟩
  | addTag =>
    obtain ⟨-, -, h⟩ := bind_eq_ok.mp h.2.2
    exact recordEdit_same h ⟨rfl, rfl⟩

theorem Maintained.same {id : IncidentId} (h : Maintained auth call id active now i c) :
    SameEvents i c.incident := by
  cases call with
  | enterRecovering | enterRecoveringIfSilent => exact enterRecovering_same h.2
  | confirmRecoveryIfDue => exact resolveInternal_same h.2
  | abortRecovery =>
    obtain ⟨-, h⟩ := h
    simp only [Commit.abortRecovery, bind_eq_ok, pure_eq_ok] at h
    obtain ⟨before, -, v, -, rfl⟩ := h
    exact ⟨rfl, rfl⟩
  | attemptAutomaticClosure => exact closeInternal_same h.2
  | handleCommand => exact Ordered.same h.2
  | ingestDetectionEvent | createManualIncident | recordExport | recordNotificationResult =>
    exact h.elim

end SameEvents

section Evidence

variable {event : DetectionEvent} {i : Incident}

/-- The incident records one piece of evidence under the event's key. -/
def Records (event : DetectionEvent) (i j : Incident) : Prop :=
  j.tenantId = i.tenantId ∧ ∃ reference : EvidenceReference, reference.dedupKey = event.dedupKey ∧
    j.evidence = i.evidence.record reference

theorem linkEvent_records (h : Commit.linkEvent event late now i = .ok c) :
    Records event i c.incident := by
  simp only [Commit.linkEvent, bind_eq_ok, pure_eq_ok] at h
  obtain ⟨v, -, rfl⟩ := h
  exact ⟨rfl, _, rfl, rfl⟩

theorem reopenIncidentInternal_records
    (h : Commit.reopenIncidentInternal active event cause now i = .ok c) :
    Records event i c.incident := by
  simp only [Commit.reopenIncidentInternal, bind_eq_ok, pure_eq_ok] at h
  obtain ⟨-, -, -, -, n, -, v, -, rfl⟩ := h
  exact ⟨rfl, _, rfl, rfl⟩

def retainedKeys (i : Incident) : List String := i.evidence.retained.map (·.dedupKey)

theorem Records.keys (h : Records event i j) :
    retainedKeys j = retainedKeys i ∨ retainedKeys j = retainedKeys i ++ [event.dedupKey] := by
  obtain ⟨-, reference, hkey, hevidence⟩ := h
  unfold retainedKeys
  rw [hevidence, EvidenceLedger.record]
  dsimp only
  split
  · exact .inr (by simp [hkey])
  · exact .inl rfl

end Evidence

/-- The evidence an incident retains is recorded for it, key by key and once each. -/
structure Deduplicated (u : IncidentUnitOfWork) : Prop where
  recorded : ∀ (id : IncidentId) i, u.store.incidents[id]? = some i → ∀ key ∈ retainedKeys i,
    u.store.dedupSeen[toLex (i.tenantId, key)]? = some id
  once : ∀ (id : IncidentId) i, u.store.incidents[id]? = some i → (retainedKeys i).Nodup

/-- What is recorded stays recorded. -/
def SeenKept (u v : IncidentUnitOfWork) : Prop :=
  ∀ (key : TenantId ×ₗ String) id, u.store.dedupSeen[key]? = some id →
    v.store.dedupSeen[key]? = some id

section Recorded

variable {u v : IncidentUnitOfWork} {auth : AuthorizationContext} {event : DetectionEvent}
variable {id : IncidentId} {i : Incident}
variable {request : Request}

theorem SeenKept.same (h : v.store.dedupSeen = u.store.dedupSeen) : SeenKept u v := by
  intro key id hid
  rw [h]
  exact hid

theorem SeenKept.mark (admitted : Admitted auth event u)
    (h : v.store.dedupSeen = (marked event u id).store.dedupSeen) : SeenKept u v := by
  intro key x hx
  rw [h]
  change (u.store.dedupSeen.insert _ _)[key]? = _
  rw [get_insert]
  split
  · rename_i same
    rw [← same, admitted.fresh] at hx
    cases hx
  · exact hx

theorem mark_seen (h : v.store.dedupSeen = (marked event u id).store.dedupSeen) :
    v.store.dedupSeen[toLex (event.target.tenant, event.dedupKey)]? = some id := by
  rw [h]
  exact get_insert_self _ _ _

theorem Deduplicated.same (h : Deduplicated u) (incidents : v.store.incidents = u.store.incidents)
    (seen : SeenKept u v) : Deduplicated v where
  recorded x k hk key hkey := seen _ _ (h.recorded x k (incidents ▸ hk) key hkey)
  once x k hk := h.once x k (incidents ▸ hk)

theorem Deduplicated.replaced (h : Deduplicated u) (seen : SeenKept u v)
    (replaces : Replaces u v id j)
    (recorded : ∀ key ∈ retainedKeys j, v.store.dedupSeen[toLex (j.tenantId, key)]? = some id)
    (once : (retainedKeys j).Nodup) : Deduplicated v where
  recorded x k hk key hkey := by
    by_cases same : id = x
    · subst same
      cases replaces.self.symm.trans hk
      exact recorded key hkey
    · rw [replaces.other same] at hk
      exact seen _ _ (h.recorded x k hk key hkey)
  once x k hk := by
    by_cases same : id = x
    · subst same
      cases replaces.self.symm.trans hk
      exact once
    · rw [replaces.other same] at hk
      exact h.once x k hk

theorem Deduplicated.records (h : Deduplicated u) (admitted : Admitted auth event u)
    (found : u.store.incidents[id]? = some i) (owned : i.tenantId = event.target.tenant)
    (records : Records event i j) (replaces : Replaces u v id j)
    (seen : v.store.dedupSeen = (marked event u id).store.dedupSeen) : Deduplicated v := by
  have kept : SeenKept u v := .mark admitted seen
  have tenant : j.tenantId = event.target.tenant := records.1.trans owned
  have unseen : event.dedupKey ∉ retainedKeys i := by
    intro hmem
    have hseen := h.recorded id i found _ hmem
    rw [owned, admitted.fresh] at hseen
    cases hseen
  apply h.replaced kept replaces
  · intro key hkey
    have old : key ∈ retainedKeys i →
        v.store.dedupSeen[toLex (j.tenantId, key)]? = some id := by
      intro hmem
      rw [records.1]
      exact kept _ _ (h.recorded id i found key hmem)
    rcases records.keys with same | more
    · exact old (same ▸ hkey)
    · rw [more, List.mem_append, List.mem_singleton] at hkey
      rcases hkey with hmem | rfl
      · exact old hmem
      · rw [tenant]
        exact mark_seen seen
  · rcases records.keys with same | more
    · rw [same]
      exact h.once id i found
    · rw [more, List.nodup_append]
      refine ⟨h.once id i found, List.nodup_singleton _, ?_⟩
      intro a ha b hb hab
      rw [List.mem_singleton.mp hb] at hab
      exact unseen (hab ▸ ha)

theorem linkedTo_link {late : Bool} : linkedTo (.ok (.ingested
    ⟨if late then .linkedLate else .updated, some id⟩)) = some id := by
  cases late <;> rfl

theorem Effect.marks (h : Effect request u o v) (linked : linkedTo o = some id) :
    ∃ event, request.call = .ingestDetectionEvent event ∧ Admitted request.auth event u ∧
      v.store.dedupSeen = (marked event u id).store.dedupSeen := by
  cases h with
  | still _ _ unlinked agrees | changed a x i now c _ unlinked =>
    rw [unlinked] at linked
    cases linked
  | notified | kept | opened => cases linked
  | created event x number now _ call admitted unused notEnded agrees =>
    cases linked
    refine ⟨event, call, admitted, agrees.dedupSeen.trans ?_⟩
    change (IncidentUnitOfWork.commit _ _ _ _).store.dedupSeen.insert _ _ = _
    rw [commit_dedupSeen]
    rfl
  | linked event x late i now c _ call admitted found keyed owned standing decided agrees =>
    rw [linkedTo_link] at linked
    cases linked
    exact ⟨event, call, admitted, agrees.dedupSeen.trans (commit_dedupSeen _ _ _ _)⟩
  | ended event x i now later c d _ call last admitted found keyed owned active decided recovers
      agrees =>
    cases linked
    refine ⟨event, call, admitted, agrees.dedupSeen.trans ?_⟩
    rw [commit_dedupSeen, commit_dedupSeen]
  | reopened event x i now c _ call admitted found keyed owned notEnded decided agrees =>
    cases linked
    exact ⟨event, call, admitted, agrees.dedupSeen.trans (commit_dedupSeen _ _ _ _)⟩

theorem Effect.seen (h : Effect request u o v) : SeenKept u v := by
  cases hlinked : linkedTo o with
  | some id =>
    obtain ⟨event, -, admitted, seen⟩ := Effect.marks h hlinked
    exact .mark admitted seen
  | none =>
    cases h with
    | still _ _ unlinked agrees | notified id i channel eventType outcome _ found agrees =>
      exact .same agrees.dedupSeen
    | kept event id e _ call admitted agrees => exact .mark admitted agrees.dedupSeen
    | changed a id i now c _ unlinked found decided agrees
    | opened manual id number now _ call unused agrees =>
      exact .same (agrees.dedupSeen.trans (commit_dedupSeen _ _ _ _))
    | created | ended | reopened =>
      cases hlinked
    | linked =>
      rw [linkedTo_link] at hlinked
      cases hlinked

theorem Effect.deduplicated (h : Effect request u o v) (deduplicated : Deduplicated u) :
    Deduplicated v := by
  have seen := Effect.seen h
  have marks : ∀ x, linkedTo o = some x → ∃ event,
      request.call = .ingestDetectionEvent event ∧ Admitted request.auth event u ∧
        v.store.dedupSeen = (marked event u x).store.dedupSeen := fun x => Effect.marks h
  cases h with
  | still _ _ unlinked agrees | notified id i channel eventType outcome _ found agrees
  | kept event id e _ call admitted agrees => exact deduplicated.same agrees.incidents seen
  | changed a id i now c _ unlinked found decided agrees =>
    have same := Maintained.same decided
    have keys : retainedKeys c.incident = retainedKeys i := by
      unfold retainedKeys
      rw [same.evidence]
    apply deduplicated.replaced seen (replaces_commit agrees rfl)
    · intro key hkey
      rw [same.tenantId]
      exact seen _ _ (deduplicated.recorded id i found key (keys ▸ hkey))
    · rw [keys]
      exact deduplicated.once id i found
  | opened manual id number now _ call unused agrees =>
    apply deduplicated.replaced seen (replaces_commit agrees rfl)
    · intro key hkey
      cases hkey
    · exact List.nodup_nil
  | created event id number now _ call admitted unused notEnded agrees =>
    obtain ⟨event', call', -, hseen⟩ := marks id rfl
    cases call.symm.trans call'
    apply deduplicated.replaced seen (replaces_marked agrees)
    · intro key hkey
      obtain rfl : key = event.dedupKey := List.mem_singleton.mp hkey
      exact mark_seen hseen
    · exact List.nodup_singleton _
  | linked event id late i now c _ call admitted found keyed owned standing decided agrees =>
    exact deduplicated.records admitted found owned (linkEvent_records decided)
      (replaces_commit agrees rfl) (agrees.dedupSeen.trans (commit_dedupSeen _ _ _ _))
  | ended event id i now later c d _ call last admitted found keyed owned active decided recovers
      agrees =>
    obtain ⟨event', call', -, hseen⟩ := marks id rfl
    cases call.symm.trans call'
    have same := enterRecovering_same recovers
    obtain ⟨tenant, reference, hkey, hevidence⟩ := linkEvent_records decided
    have records : Records event i d.incident :=
      ⟨same.tenantId.trans tenant, reference, hkey, same.evidence.trans hevidence⟩
    exact deduplicated.records admitted found owned records (replaces_commit_commit agrees rfl)
      hseen
  | reopened event id i now c _ call admitted found keyed owned notEnded decided agrees =>
    exact deduplicated.records admitted found owned (reopenIncidentInternal_records decided)
      (replaces_commit agrees rfl) (agrees.dedupSeen.trans (commit_dedupSeen _ _ _ _))

end Recorded

theorem ingest_duplicate {id : IncidentId} (granted : auth.has .incidentIngest = true)
    (own : event.target.tenant = auth.tenant)
    (understood : (decide (eventSchemaVersion < event.schemaVersion) || event.executed) = false)
    (seen : u.store.dedupSeen[toLex (event.target.tenant, event.dedupKey)]? = some id) :
    service.step u ⟨env, auth, .ingestDetectionEvent event⟩ =
      (.ok (.ingested ⟨.duplicate, some id⟩), u) := by
  have hdedup : dedupGet event.target.tenant event.dedupKey env ⟨u, 0⟩ =
      (.ok (some id), ⟨u, 0⟩) := look_eq.mpr ⟨congrArg Except.ok seen, rfl⟩
  have hrun : ingestDetectionEvent auth event env ⟨u, 0⟩ =
      (.ok ⟨.duplicate, some id⟩, ⟨u, 0⟩) := by
    unfold ingestDetectionEvent
    rw [bind_of_ok (checkPermission_granted granted)]
    rw [if_neg (not_not.mpr own), understood]
    simp only [Bool.false_eq_true, if_false]
    rw [bind_of_ok hdedup]
    rfl
  simp only [service, perform, bind_pure_apply]
  rw [hrun]
  rfl

section Runs

variable (closurePolicy : ClosurePolicy) (reopenPolicy : ReopenPolicy) (year : Nat)

theorem run_deduplicated (requests : List Request) (distinct : (handedOut requests).Nodup) :
    Deduplicated (service.run (new closurePolicy reopenPolicy year) requests) := by
  induction requests using List.reverseRecOn with
  | nil => constructor <;> simp [new]
  | append_singleton requests request ih =>
    exact Effect.deduplicated (run_effect closurePolicy reopenPolicy year requests request distinct)
      (ih (distinct_past distinct))

theorem run_seen (past later : List Request) (distinct : (handedOut (past ++ later)).Nodup) :
    SeenKept (service.run (new closurePolicy reopenPolicy year) past)
      (service.run (new closurePolicy reopenPolicy year) (past ++ later)) := by
  induction later using List.reverseRecOn with
  | nil =>
    rw [List.append_nil]
    exact .same rfl
  | append_singleton later request ih =>
    rw [← List.append_assoc] at distinct ⊢
    have step := Effect.seen
      (run_effect closurePolicy reopenPolicy year (past ++ later) request distinct)
    exact fun key id h => step key id (ih (distinct_past distinct) key id h)

end Runs

/-- In every run whose ids never repeat, what a key of a tenant is recorded for never changes, the
key is in the retained evidence of at most one incident, once, and an event that was linked to an
incident is from then on answered as a duplicate of that incident, whoever may ingest it sends it
again, and nothing at all is changed by that. -/
theorem ingested_once (closurePolicy : ClosurePolicy) (reopenPolicy : ReopenPolicy) (year : Nat)
    (past later : List Request) (distinct : (handedOut (past ++ later)).Nodup) :
    let u := service.run (new closurePolicy reopenPolicy year) past
    let v := service.run (new closurePolicy reopenPolicy year) (past ++ later)
    (∀ (key : TenantId ×ₗ String) id, u.store.dedupSeen[key]? = some id →
      v.store.dedupSeen[key]? = some id) ∧
    (∀ (id id' : IncidentId) i i' key, v.store.incidents[id]? = some i →
      v.store.incidents[id']? = some i' → i.tenantId = i'.tenantId → key ∈ retainedKeys i →
      key ∈ retainedKeys i' → id = id') ∧
    (∀ (id : IncidentId) i, v.store.incidents[id]? = some i → (retainedKeys i).Nodup) ∧
    (∀ request rest event id, later = request :: rest →
      request.call = .ingestDetectionEvent event →
      linkedTo (service.step u request).1 = some id →
      ∀ env auth, auth.has .incidentIngest = true → auth.tenant = event.target.tenant →
        service.step v ⟨env, auth, .ingestDetectionEvent event⟩ =
          (.ok (.ingested ⟨.duplicate, some id⟩), v)) := by
  intro u v
  have deduplicated := run_deduplicated closurePolicy reopenPolicy year (past ++ later) distinct
  refine ⟨run_seen closurePolicy reopenPolicy year past later distinct, ?_, deduplicated.once, ?_⟩
  · intro id id' i i' key hi hi' tenant hkey hkey'
    have first := deduplicated.recorded id i hi key hkey
    have second := deduplicated.recorded id' i' hi' key hkey'
    rw [← tenant] at second
    exact Option.some.inj (first.symm.trans second)
  · rintro request rest event id rfl call linked env auth granted own
    have split : past ++ request :: rest = (past ++ [request]) ++ rest := by simp
    have distinct' : (handedOut ((past ++ [request]) ++ rest)).Nodup := split ▸ distinct
    obtain ⟨event', call', admitted, marks⟩ := Effect.marks
      (run_effect closurePolicy reopenPolicy year past request (distinct_past distinct')) linked
    cases call.symm.trans call'
    have seen := run_seen closurePolicy reopenPolicy year (past ++ [request]) rest distinct' _ _
      (mark_seen marks)
    rw [← split] at seen
    exact ingest_duplicate granted own.symm admitted.understood seen

/-- An event that opened an incident is sent again after the incident was resolved. -/
theorem ingested_once_resolved :
    let requests := [sampleIngest 0 0 "d0" .started 0,
      sampleCommand 10 1 (sampleId 0) (.resolveIncident 1 none)]
    (handedOut ([] ++ requests)).Nodup ∧
    service.step (service.run (new {} {} 2026) requests) (sampleIngest 20 2 "d0" .started 0) =
      (.ok (.ingested ⟨.duplicate, some (sampleId 0)⟩),
        service.run (new {} {} 2026) requests) := by
  have distinct : (handedOut ([] ++ [sampleIngest 0 0 "d0" .started 0,
      sampleCommand 10 1 (sampleId 0) (.resolveIncident 1 none)])).Nodup := by decide
  exact ⟨distinct, (ingested_once {} {} 2026 [] _ distinct).2.2.2 _ _ _ (sampleId 0) rfl rfl
    (by decide +kernel) (sampleEnv 20 2) (sampleAuth "acme") rfl rfl⟩

end Tidegard.Incident.Proofs.Deduplication
