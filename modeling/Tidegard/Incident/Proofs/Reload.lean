import Tidegard.Incident.Proofs.Reading
import Tidegard.Incident.Proofs.Moves
import Tidegard.Incident.Proofs.Idempotency

namespace Tidegard.Incident.Proofs.Reload

open List Tables Text Common Fallible Detector.Policy Detector.Event Basics Time Record Store
  Commits
open UnitOfWork Snapshot Reading Changes Calls Moves

variable {k n : Nat} {wall : Int} {log : List Int}
variable {notes : List Note} {t : DurableTimestamp} {m : Nat} {env : Env}
variable {auth : AuthorizationContext}

theorem Chained.append (h : Chained notes) (index : note.index = notes.length)
    (earlier : ∀ k ∈ note.supersedes, k < notes.length)
    (once : ∀ k ∈ note.supersedes, ∀ other ∈ notes, other.supersedes ≠ some k)
    (whole : note.redaction = none) : Chained (notes ++ [note]) where
  numbered k other hother := by
    rcases lt_or_ge k notes.length with hk | hk
    · rw [List.getElem?_append_left hk] at hother
      exact h.numbered k other hother
    · rw [List.getElem?_append_right hk, List.getElem?_singleton] at hother
      split at hother
      · cases hother
        omega
      · cases hother
  earlier := by
    intro other hother k hk
    rcases List.mem_append.mp hother with hother | hother
    · exact h.earlier other hother k hk
    · obtain rfl := List.mem_singleton.mp hother
      rw [index]
      exact earlier k hk
  once := by
    rw [filterMap_append, nodup_append]
    refine ⟨h.once, ?_, ?_⟩
    · cases hs : note.supersedes <;> simp [hs]
    · intro k hk k' hk'
      obtain ⟨other, hother, hsupersedes⟩ := List.mem_filterMap.mp hk
      obtain ⟨added, hadded, hreplaces⟩ := List.mem_filterMap.mp hk'
      obtain rfl := List.mem_singleton.mp hadded
      rintro rfl
      exact once k hreplaces other hother hsupersedes
  redacted := by
    intro other hother
    rcases List.mem_append.mp hother with hother | hother
    · exact h.redacted other hother
    · obtain rfl := List.mem_singleton.mp hother
      intro redaction hredaction
      rw [whole] at hredaction
      cases hredaction

theorem Chained.redact (h : Chained notes) (found : notes[k]? = some note)
    (index : redacted.index = note.index) (supersedes : redacted.supersedes = note.supersedes)
    (properly : Note.redactedProperly redacted) : Chained (notes.set k redacted) := by
  have hlookup : ∀ (j : Nat) other, (notes.set k redacted)[j]? = some other →
      j = k ∧ other = redacted ∨ notes[j]? = some other := by
    intro j other hother
    rw [List.getElem?_set] at hother
    split at hother
    case isTrue hj =>
      split at hother
      · exact Or.inl ⟨hj.symm, (Option.some.inj hother).symm⟩
      · cases hother
    case isFalse => exact Or.inr hother
  have hmem : ∀ other ∈ notes.set k redacted, other = redacted ∨ other ∈ notes :=
    fun other hother => (mem_or_eq_of_mem_set hother).symm
  have hchain : (notes.set k redacted).map (·.supersedes) = notes.map (·.supersedes) := by
    apply List.ext_getElem?
    intro j
    rw [map_set, supersedes, List.getElem?_set]
    split
    case isTrue hj =>
      subst hj
      obtain ⟨hk, -⟩ := List.getElem?_eq_some_iff.mp found
      rw [if_pos (by simpa using hk), List.getElem?_map, found]
      rfl
    case isFalse => rfl
  refine ⟨?_, ?_, ?_, ?_⟩
  · intro j other hother
    rcases hlookup j other hother with ⟨rfl, rfl⟩ | hother
    · rw [index]
      exact h.numbered j note found
    · exact h.numbered j other hother
  · intro other hother
    rcases hmem other hother with rfl | hother
    · rw [index, supersedes]
      exact h.earlier note (List.mem_of_getElem? found)
    · exact h.earlier other hother
  · have hsame : (notes.set k redacted).filterMap (·.supersedes) =
        notes.filterMap (·.supersedes) := by
      simpa only [filterMap_map, Function.id_comp] using congrArg (List.filterMap id) hchain
    rw [hsame]
    exact h.once
  · intro other hother
    rcases hmem other hother with rfl | hother
    · exact properly
    · exact h.redacted other hother

theorem record_observed {ledger : EvidenceLedger} {reference : EvidenceReference}
    (retained : ledger.retained.length ≤ evidenceRetainedLimit)
    (observed : ledger.retained.length ≤ ledger.observedTotal) :
    (ledger.record reference).retained.length ≤ evidenceRetainedLimit ∧
      (ledger.record reference).retained.length ≤ (ledger.record reference).observedTotal := by
  have hlimit : evidenceRetainedLimit ≤ u64Max := by decide
  unfold EvidenceLedger.record saturatingAdd
  simp only
  split
  · rw [length_append, length_singleton]
    omega
  · omega

theorem seePolicy_kept (event : DetectionEvent) (few : refs.length ≤ policyRefsMax)
    (full : omitted = 0 ∨ refs.length = policyRefsMax) :
    (Commit.seePolicy refs omitted event).1.length ≤ policyRefsMax ∧
      ((Commit.seePolicy refs omitted event).2 = 0 ∨
        (Commit.seePolicy refs omitted event).1.length = policyRefsMax) := by
  unfold Commit.seePolicy
  split
  · simp only [length_modify]
    exact ⟨few, full⟩
  · split
    case isTrue hroom =>
      simp only [length_append, length_singleton]
      omega
    case isFalse hfull => exact ⟨few, Or.inr (le_antisymm few (not_lt.mp hfull))⟩

section Changes

variable {auth : AuthorizationContext}
variable {active : Option IncidentId} {now : DurableTimestamp} {i : Incident} {c : Commit}
variable {reason : Option String}
variable {edited : Incident} {change : Option FieldChange}
variable {outbox : Option OutboxEvent} {event : DetectionEvent} {cause : TransitionCause}
variable {key : String} {seen : DetectionEvent → Prop} {id : IncidentId}
variable {number : IncidentNumber}

/-- Sane, and stamped with the time of the change. -/
structure Refreshed (now : DurableTimestamp) (i : Incident) : Prop where
  sane : Sane i
  stamped : i.lastUpdatedAt = now

theorem Sane.stamp (h : Sane i) (later : i.lastUpdatedAt ≤ now) (hv : 1 ≤ v) :
    Refreshed now { i with version := v, lastUpdatedAt := now } where
  sane := { h with
    version := hv
    updated := h.updated.trans later
    resolvedAt := fun t ht => ⟨(h.resolvedAt t ht).1, (h.resolvedAt t ht).2.trans later⟩ }
  stamped := rfl

theorem stamped_sane (sane : Sane i) (later : i.lastUpdatedAt ≤ now) :
    Sane { i with version := i.version + 1, lastUpdatedAt := now } :=
  (Sane.stamp sane later (Nat.le_add_left 1 _)).sane

theorem recordEdit_refreshed
    (h : Commit.recordEdit auth now i edited payload permission reason change outbox = .ok c)
    (sane : Sane edited) (later : edited.lastUpdatedAt ≤ now) : Refreshed now c.incident := by
  simp only [Commit.recordEdit, bind_eq_ok, pure_eq_ok, nextVersion_ok] at h
  obtain ⟨v, ⟨-, rfl⟩, rfl⟩ := h
  exact Sane.stamp sane later (Nat.le_add_left 1 _)

theorem nextNoteIndex_eq (room : i.notes.length < notesPerIncidentMax) :
    Commit.nextNoteIndex i = i.notes.length := by
  have hcap : notesPerIncidentMax < 2 ^ 32 := by decide
  exact Nat.mod_eq_of_lt (room.trans hcap)

theorem chained_add (sane : Sane i) (index : note.index = Commit.nextNoteIndex i)
    (first : note.supersedes = none) (whole : note.redaction = none)
    (few : (i.notes ++ [note]).length ≤ notesPerIncidentMax) : Chained (i.notes ++ [note]) := by
  rw [length_append, length_singleton] at few
  refine Chained.append (sane.notes (by omega)) (index.trans (nextNoteIndex_eq few)) ?_ ?_ whole <;>
    simp [first]

theorem editNote_chained (sane : Sane i) (found : i.notes[noteIndex]? = some original)
    (fresh : i.noteSupersededBy noteIndex = none) (index : note.index = Commit.nextNoteIndex i)
    (replaces : note.supersedes = some noteIndex) (whole : note.redaction = none)
    (few : (i.notes ++ [note]).length ≤ notesPerIncidentMax) : Chained (i.notes ++ [note]) := by
  rw [length_append, length_singleton] at few
  have hat : noteIndex < i.notes.length := (List.getElem?_eq_some_iff.mp found).1
  refine Chained.append (sane.notes (by omega)) (index.trans (nextNoteIndex_eq few)) ?_ ?_ whole
  · rw [replaces]
    rintro k ⟨⟩
    exact hat
  · rw [replaces]
    rintro k ⟨⟩ other hother hsame
    rw [Incident.noteSupersededBy, Option.map_eq_none_iff, List.find?_eq_none] at fresh
    exact fresh other hother (by simpa using hsame)

section Refreshed

variable (sane : Sane i) (later : i.lastUpdatedAt ≤ now)

include sane later

theorem linkEvent_refreshed (h : Commit.linkEvent event late now i = .ok c) :
    Refreshed now c.incident := by
  simp only [Commit.linkEvent, bind_eq_ok, pure_eq_ok, nextVersion_ok] at h
  obtain ⟨v, ⟨-, rfl⟩, rfl⟩ := h
  obtain ⟨hpolicies, homitted⟩ := seePolicy_kept event sane.policyRefs sane.omitted
  have hopened := sane.updated.trans later
  refine ⟨{ stamped_sane sane later with
    policyRefs := hpolicies
    omitted := homitted
    retained := (record_observed sane.retained sane.observed).1
    observed := (record_observed sane.retained sane.observed).2
    category := rfl
    lastDetected := ?_ }, rfl⟩
  dsimp only
  split
  · exact sane.lastDetected
  · exact sane.opened.trans hopened

theorem reopenIncidentInternal_refreshed {cause : AutomaticCause}
    (h : Commit.reopenIncidentInternal active event cause now i = .ok c) :
    Refreshed now c.incident := by
  simp only [Commit.reopenIncidentInternal, bind_eq_ok, pure_eq_ok, nextVersion_ok,
    nextReopenCount_ok, require_ok, noneActive_ok, Bool.or_eq_true, decide_eq_true_eq] at h
  obtain ⟨-, -, -, hstate, n, ⟨-, rfl⟩, v, ⟨-, rfl⟩, rfl⟩ := h
  have hopened := sane.updated.trans later
  have hnot : i.state ≠ .recovering := by rcases hstate with hs | hs <;> simp [hs]
  refine ⟨{ stamped_sane sane later with
    before := by simpa [hnot] using sane.before
    since := by simpa [hnot] using sane.since
    retained := (record_observed sane.retained sane.observed).1
    observed := (record_observed sane.retained sane.observed).2
    category := rfl
    resolved := by simp
    closed := by simp
    closureReason := by simp
    reopened := by simp
    lastDetected := sane.opened.trans hopened
    resolvedAt := by simp
    closedAt := by simp
    reopenedAt := by simpa using hopened
    inOrder := by simp }, rfl⟩

theorem operatorReopen_refreshed {reason : String}
    (h : Commit.operatorReopen auth active reason now i = .ok c) : Refreshed now c.incident := by
  simp only [Commit.operatorReopen, bind_eq_ok, pure_eq_ok, nextVersion_ok, nextReopenCount_ok,
    require_ok, noneActive_ok] at h
  obtain ⟨-, legal, -, -, n, ⟨-, rfl⟩, v, ⟨-, rfl⟩, rfl⟩ := h
  have hopened := sane.updated.trans later
  have hnot : i.state ≠ .recovering := by
    intro hs
    rw [hs] at legal
    cases legal
  refine ⟨{ stamped_sane sane later with
    before := by simpa [hnot] using sane.before
    since := by simpa [hnot] using sane.since
    resolved := by simp
    closed := by simp
    closureReason := by simp
    reopened := by simp
    resolvedAt := by simp
    closedAt := by simp
    reopenedAt := by simpa using hopened
    inOrder := by simp }, rfl⟩

theorem enterRecovering_refreshed {reason : DetectionEndReason}
    (h : Commit.enterRecovering reason now i = .ok c) :
    Refreshed now c.incident := by
  simp only [Commit.enterRecovering, transition_enterRecovering_ok, bind_eq_ok, pure_eq_ok,
    nextVersion_ok] at h
  obtain ⟨-, legal, v, ⟨-, rfl⟩, rfl⟩ := h
  have hopened := sane.updated.trans later
  have hactive := active_of_recovers legal
  have hclosed : i.state ≠ .closed := hactive.2
  have hsettled : ¬ (i.state = .resolved ∨ i.state = .closed) := not_or.mpr hactive
  exact ⟨{ stamped_sane sane later with
    before := by simp
    since := by simp
    restores := by
      rintro state ⟨⟩
      exact legal
    resolved := by simpa [hsettled] using sane.resolved
    closed := by simpa [hclosed] using sane.closed
    closureReason := by simpa [hclosed] using sane.closureReason
    recoveringSince := by simpa using hopened }, rfl⟩

theorem abortRecovery_refreshed
    (h : Commit.abortRecovery now i = .ok c) : Refreshed now c.incident := by
  simp only [Commit.abortRecovery, transition_abortRecovery_ok, bind_eq_ok, pure_eq_ok,
    nextVersion_ok] at h
  obtain ⟨before, ⟨recovering, hbefore⟩, v, ⟨-, rfl⟩, rfl⟩ := h
  have hrecovers := sane.restores before hbefore
  have hactive := active_of_recovers hrecovers
  have hnot : before ≠ .recovering := by
    rintro rfl
    cases hrecovers
  have hclosed : before ≠ .closed := hactive.2
  have hsettled : ¬ (before = .resolved ∨ before = .closed) := not_or.mpr hactive
  exact ⟨{ stamped_sane sane later with
    before := by simpa using hnot
    since := by simpa using hnot
    restores := by simp
    resolved := by simpa [hsettled, recovering] using sane.resolved
    closed := by simpa [hclosed, recovering] using sane.closed
    closureReason := by simpa [hclosed, recovering] using sane.closureReason
    recoveringSince := by simp }, rfl⟩

theorem resolveInternal_refreshed
    (h : Commit.resolveInternal auth cause note now i = .ok c) : Refreshed now c.incident := by
  simp only [Commit.resolveInternal, bind_eq_ok, pure_eq_ok, nextVersion_ok, require_ok,
    decide_eq_true_eq] at h
  obtain ⟨-, unresolved, -, legal, v, ⟨-, rfl⟩, rfl⟩ := h
  have hopened := sane.updated.trans later
  have hclosed : i.state ≠ .closed := by
    intro hs
    rw [hs] at legal
    cases cause <;> cases legal
  refine ⟨{ stamped_sane sane later with
    notes := ?_
    before := by simp
    since := by simp
    restores := by simp
    resolved := by simp
    closed := by simpa [hclosed] using sane.closed
    closureReason := by simpa [hclosed] using sane.closureReason
    recoveringSince := by simp
    resolvedAt := by simpa using hopened
    inOrder := ?_ }, rfl⟩
  · cases note with
    | none => simpa using sane.notes
    | some body => exact chained_add sane rfl rfl rfl
  · have hnone : i.closedAt = none := by simpa [hclosed] using sane.closed
    simp [hnone]

theorem closeInternal_refreshed {reason : ClosureReason}
    (h : Commit.closeInternal auth reason cause now i = .ok c) :
    Refreshed now c.incident := by
  simp only [Commit.closeInternal, bind_eq_ok, pure_eq_ok, nextVersion_ok, require_ok] at h
  obtain ⟨-, legal, v, ⟨-, rfl⟩, rfl⟩ := h
  have hopened := sane.updated.trans later
  have hresolved : i.state = .resolved := by
    cases hs : i.state <;> rw [hs] at legal <;> cases cause <;> first | rfl | cases legal
  exact ⟨{ stamped_sane sane later with
    before := by simpa [hresolved] using sane.before
    since := by simpa [hresolved] using sane.since
    resolved := by simpa [hresolved] using sane.resolved
    closed := by simp
    closureReason := by simp
    closedAt := by simpa using hopened
    inOrder := by
      intro t ht t' ht'
      rw [← Option.some.inj ht']
      exact (sane.resolvedAt t ht).2.trans later }, rfl⟩

theorem guardedOperatorTransition_refreshed
    (attends : toState = .acknowledged ∨ toState = .investigating ∨ toState = .monitoring)
    (extends_ : ∀ j, Refreshed now j → Refreshed now (extra j now))
    (h : Commit.guardedOperatorTransition auth toState kind permission extra now i = .ok c) :
    Refreshed now c.incident := by
  simp only [Commit.guardedOperatorTransition, bind_eq_ok, pure_eq_ok, nextVersion_ok, require_ok,
    decide_eq_true_eq] at h
  obtain ⟨-, -, -, legal, v, ⟨-, rfl⟩, rfl⟩ := h
  have hto : toState ≠ .recovering ∧ toState ≠ .resolved ∧ toState ≠ .closed := by
    rcases attends with rfl | rfl | rfl <;> decide
  have hfrom : i.state ≠ .recovering ∧ i.state ≠ .resolved ∧ i.state ≠ .closed := by
    rcases attends with rfl | rfl | rfl <;> revert legal <;> cases i.state <;> decide
  apply extends_
  exact ⟨{ stamped_sane sane later with
    before := by simpa [hfrom, hto] using sane.before
    since := by simpa [hfrom, hto] using sane.since
    resolved := by simpa [hfrom, hto] using sane.resolved
    closed := by simpa [hfrom, hto] using sane.closed
    closureReason := by simpa [hfrom, hto] using sane.closureReason }, rfl⟩

theorem redactNote_refreshed {reason : String}
    (valid : validateRedactionReason reason = .ok ())
    (h : Commit.redactNote auth noteIndex reason now i = .ok c) : Refreshed now c.incident := by
  simp only [Commit.redactNote, bind_eq_ok, pure_eq_ok, nextVersion_ok, noteAt_ok] at h
  obtain ⟨v, ⟨-, rfl⟩, note, found, -, -, rfl⟩ := h
  have hreason : isBlank reason = false ∧ reason.length ≤ noteRedactionReasonMaxLen := by
    unfold validateRedactionReason at valid
    split at valid
    · cases valid
    · split at valid
      · cases valid
      · simp_all
  refine ⟨{ stamped_sane sane later with
    notes := ?_ }, rfl⟩
  intro few
  rw [length_set] at few
  refine Chained.redact (sane.notes few) found ?_ ?_ ?_
  · rfl
  · rfl
  · rintro redaction ⟨⟩
    exact ⟨rfl, hreason⟩

theorem addTag_refreshed
    (bounded : key.utf8ByteSize ≤ tagKeyMaxLen ∧ value.utf8ByteSize ≤ tagValueMaxLen)
    (h : Commit.addTag auth key value now i = .ok c) : Refreshed now c.incident := by
  simp only [Commit.addTag, bind_eq_ok, require_ok] at h
  obtain ⟨-, hroom, h⟩ := h
  refine recordEdit_refreshed h { sane with tags := ?_, tagged := ?_ } later
  · have hfew := sane.tags
    simp only [Incident.tagsAtCapacity, Bool.or_eq_true, Bool.not_eq_true',
      decide_eq_false_iff_not, not_le] at hroom
    dsimp only
    rw [Std.ExtTreeMap.size_insert]
    split
    · exact hfew
    case isFalse hnew => exact (hroom.resolve_left hnew)
  · intro other text htext
    refine forall_insert sane.tagged ?_ htext
    exact ⟨(length_le_utf8ByteSize key).trans bounded.1,
      (length_le_utf8ByteSize value).trans bounded.2⟩

theorem removeTag_refreshed
    (h : Commit.removeTag auth key now i = .ok c) : Refreshed now c.incident := by
  refine recordEdit_refreshed h { sane with tags := ?_, tagged := ?_ } later
  · exact Std.ExtTreeMap.size_erase_le.trans sane.tags
  · exact fun other text htext => sane.tagged other text (get_of_erase htext)

theorem changeSeverity_refreshed
    (h : Commit.changeSeverity auth newSeverity reason now i = .ok c) :
    Refreshed now c.incident := by
  obtain ⟨-, -, h⟩ := bind_eq_ok.mp h
  refine recordEdit_refreshed h { sane with critical := ?_, everCritical := ?_, detected := ?_ }
    later
  · by_cases hcritical : newSeverity = .critical <;> simp [hcritical]
  · exact sane.everCritical.imp id fun hever => by simp [hever]
  · simp

end Refreshed

theorem Decided.refreshed (h : Decided auth noted active now i c) (sane : Sane i)
    (later : i.lastUpdatedAt ≤ now) : Refreshed now c.incident := by
  cases h with
  | linkEvent event late h => exact linkEvent_refreshed sane later h
  | reopenIncidentInternal event cause h => exact reopenIncidentInternal_refreshed sane later h
  | enterRecovering reason h => exact enterRecovering_refreshed sane later h
  | abortRecovery h => exact abortRecovery_refreshed sane later h
  | resolveInternal cause note given h => exact resolveInternal_refreshed sane later h
  | closeInternal reason cause h => exact closeInternal_refreshed sane later h
  | acknowledge kind permission h =>
    refine guardedOperatorTransition_refreshed sane later (Or.inl rfl) ?_ h
    rintro j ⟨hj, stamped⟩
    refine ⟨{ hj with acknowledgedAt := ?_ }, stamped⟩
    rintro t ⟨⟩
    exact stamped ▸ hj.updated
  | attend toState attends kind permission h =>
    exact guardedOperatorTransition_refreshed sane later (Or.inr attends) (fun _ hj => hj) h
  | operatorReopen reason h => exact operatorReopen_refreshed sane later h
  | suppress reason valid deadline h =>
    refine recordEdit_refreshed h { sane with suppression := ?_ } later
    rintro s ⟨⟩
    unfold validateReason at valid
    split at valid
    · cases valid
    case isFalse hlength => exact not_lt.mp hlength
  | unsuppress h => exact recordEdit_refreshed h { sane with suppression := by simp } later
  | assign assignee h | changePriority newPriority h =>
    exact recordEdit_refreshed h { sane with } later
  | changeSeverity newSeverity reason h => exact changeSeverity_refreshed sane later h
  | addNote body valid visibility h =>
    obtain ⟨-, -, h⟩ := bind_eq_ok.mp h
    exact recordEdit_refreshed h { sane with notes := chained_add sane rfl rfl rfl } later
  | editNote noteIndex original found body valid h =>
    simp only [Commit.editNote, bind_eq_ok, notReplaced_ok] at h
    obtain ⟨-, -, -, fresh, -, -, h⟩ := h
    exact recordEdit_refreshed h
      { sane with notes := editNote_chained sane found fresh rfl rfl rfl } later
  | redactNote noteIndex reason valid h => exact redactNote_refreshed sane later valid h
  | addTag key value bounded h => exact addTag_refreshed sane later bounded h
  | removeTag key h => exact removeTag_refreshed sane later h

/-- An incident as it is opened: nothing has happened to it. -/
structure Blank (now : DurableTimestamp) (i : Incident) : Prop where
  schema : i.schemaVersion = incidentSchemaVersion
  version : i.version = 1
  state : i.state = .open_
  notes : i.notes = []
  tags : i.tags = ∅
  omitted : i.policyRefsOmitted = 0
  suppression : i.suppression = none
  before : i.stateBeforeRecovering = none
  since : i.recoveringSince = none
  resolvedAt : i.resolvedAt = none
  closedAt : i.closedAt = none
  closureReason : i.closureReason = none
  acknowledgedAt : i.acknowledgedAt = none
  reopenedAt : i.reopenedAt = none
  reopenCount : i.reopenCount = 0
  critical : i.everCritical = decide (i.severity = .critical)
  detected : i.maximumDetectedSeverity = i.severity
  firstDetectedAt : i.firstDetectedAt = now
  openedAt : i.openedAt = now
  lastDetectedAt : i.lastDetectedAt = now
  lastUpdatedAt : i.lastUpdatedAt = now

theorem Blank.refreshed (h : Blank now i) (title : i.title ≠ "" ∧ i.title.length ≤ titleMaxLen)
    (description : ∀ d ∈ i.description, d.length ≤ descriptionMaxLen)
    (policyRefs : i.policyRefs.length ≤ policyRefsMax)
    (retained : i.evidence.retained.length ≤ evidenceRetainedLimit)
    (observed : i.evidence.retained.length ≤ i.evidence.observedTotal)
    (category : i.category = deriveCategory i.matchedMetrics)
    (key : i.correlationKey =
      ⟨i.tenantId, i.targetType, i.targetIdentity, i.direction, i.addressFamily⟩) :
    Refreshed now i where
  stamped := h.lastUpdatedAt
  sane :=
    { schema := h.schema
      version := h.version.ge
      title
      description
      notes := by
        rw [h.notes]
        exact fun _ => ⟨by simp, by simp, by simp, by simp⟩
      tags := by simp [h.tags]
      tagged := by simp [h.tags]
      policyRefs
      omitted := Or.inl h.omitted
      retained
      observed
      suppression := by simp [h.suppression]
      category
      key
      before := by simp [h.before, h.state]
      since := by simp [h.since, h.state]
      restores := by simp [h.before]
      resolved := by simp [h.resolvedAt, h.state]
      closed := by simp [h.closedAt, h.state]
      closureReason := by simp [h.closureReason, h.state]
      critical := by simp [h.critical, em']
      everCritical := by simp [h.detected, h.critical, em']
      detected := Or.inr (by rw [h.detected])
      reopened := by simp [h.reopenCount, h.reopenedAt]
      opened := by rw [h.firstDetectedAt, h.openedAt]
      lastDetected := by rw [h.firstDetectedAt, h.lastDetectedAt]
      updated := by rw [h.openedAt, h.lastUpdatedAt]
      acknowledgedAt := by simp [h.acknowledgedAt]
      recoveringSince := by simp [h.since]
      resolvedAt := by simp [h.resolvedAt]
      closedAt := by simp [h.closedAt]
      reopenedAt := by simp [h.reopenedAt]
      inOrder := by simp [h.resolvedAt] }

theorem validate_title {request : ManualIncident} (valid : request.validate = .ok ()) :
    (request.title ≠ "" ∧ request.title.length ≤ titleMaxLen) ∧
      ∀ d ∈ request.description, d.length ≤ descriptionMaxLen := by
  unfold ManualIncident.validate at valid
  split at valid
  · cases valid
  case isFalse hblank =>
    split at valid
    · cases valid
    case isFalse hlong =>
      split at valid
      · cases valid
      case isFalse hdescription =>
        refine ⟨⟨?_, not_lt.mp hlong⟩, ?_⟩
        · intro hempty
          rw [hempty] at hblank
          exact hblank rfl
        · intro d hd
          rw [Option.mem_def.mp hd] at hdescription
          simpa using hdescription

theorem Opened.refreshed (h : Opened auth seen id number now c)
    (summaries : ∀ event, seen event → event.summary ≠ "") : Refreshed now c.incident := by
  cases h with
  | detected event given own =>
    have htitle : String.ofList (event.summary.toList.take titleMaxLen) ≠ "" := by
      have hsummary := summaries event given
      rw [ne_eq, String.ofList_eq_empty_iff, take_eq_nil_iff, String.toList_eq_nil_iff]
      exact not_or.mpr ⟨by decide, hsummary⟩
    have hlength : (String.ofList (event.summary.toList.take titleMaxLen)).length ≤ titleMaxLen := by
      rw [String.length_ofList]
      exact length_take_le _ _
    have hrecorded := @record_observed {}
      (Commit.evidenceOf event .opening (addMetrics ∅ event).keys) (Nat.zero_le _) (Nat.zero_le _)
    have hblank : Blank now (Commit.createIncidentInternal event event.target.tenant
        (correlationKeyOf event) id number now).incident := by
      constructor <;> rfl
    refine hblank.refreshed ⟨htitle, hlength⟩ ?_ ?_ hrecorded.1 hrecorded.2 rfl rfl
    · rintro d ⟨⟩
    · exact Nat.le_of_ble_eq_true rfl
  | manual request valid =>
    obtain ⟨htitle, hdescription⟩ := validate_title valid
    have hblank : Blank now (Commit.openManualIncident auth request id number now).incident := by
      constructor <;> rfl
    exact hblank.refreshed htitle hdescription (Nat.zero_le _) (Nat.zero_le _) (Nat.zero_le _) rfl
      rfl

theorem recordEdit_within
    (h : Commit.recordEdit auth now i edited payload permission reason change outbox = .ok c)
    (within : WithinBounds edited) : WithinBounds c.incident := by
  simp only [Commit.recordEdit, bind_eq_ok, pure_eq_ok, nextVersion_ok] at h
  obtain ⟨v, ⟨-, rfl⟩, rfl⟩ := h
  exact ⟨within.notes, within.bodies, within.number⟩

theorem within_add (within : WithinBounds i) (room : i.notes.length < notesPerIncidentMax)
    (bounded : note.body.length ≤ noteBodyMaxLen) :
    WithinBounds { i with notes := i.notes ++ [note] } where
  notes := by
    rw [length_append, length_singleton]
    exact room
  bodies := by
    intro other hother
    rcases List.mem_append.mp hother with hother | hother
    · exact within.bodies other hother
    · obtain rfl := List.mem_singleton.mp hother
      exact bounded
  number := within.number

theorem validateNoteBody_ok (valid : validateNoteBody body = .ok ()) :
    body.length ≤ noteBodyMaxLen := by
  unfold validateNoteBody at valid
  split at valid
  · cases valid
  case isFalse hlength => exact not_lt.mp hlength

theorem room_of_capacity (h : (!i.notesAtCapacity) = true) :
    i.notes.length < notesPerIncidentMax := by
  simpa [Incident.notesAtCapacity] using h

/-- Only a resolution note can leave the bounds. -/
theorem Decided.within (h : Decided auth noted active now i c) (within : WithinBounds i)
    (bounded : ∀ body, noted i (some body) →
      body.length ≤ noteBodyMaxLen ∧ i.notes.length < notesPerIncidentMax) :
    WithinBounds c.incident := by
  have same : ∀ j : Incident, j.notes = i.notes → j.incidentNumber = i.incidentNumber →
      WithinBounds j := by
    rintro j hnotes hnumber
    exact ⟨hnotes ▸ within.notes, hnotes ▸ within.bodies, hnumber ▸ within.number⟩
  cases h with
  | linkEvent event late h =>
    simp only [Commit.linkEvent, bind_eq_ok, pure_eq_ok] at h
    obtain ⟨v, -, rfl⟩ := h
    exact same _ rfl rfl
  | reopenIncidentInternal event cause h =>
    simp only [Commit.reopenIncidentInternal, bind_eq_ok, pure_eq_ok] at h
    obtain ⟨_, -, _, -, n, -, v, -, rfl⟩ := h
    exact same _ rfl rfl
  | enterRecovering reason h =>
    simp only [Commit.enterRecovering, bind_eq_ok, pure_eq_ok] at h
    obtain ⟨_, -, v, -, rfl⟩ := h
    exact same _ rfl rfl
  | abortRecovery h =>
    simp only [Commit.abortRecovery, bind_eq_ok, pure_eq_ok] at h
    obtain ⟨_, -, v, -, rfl⟩ := h
    exact same _ rfl rfl
  | resolveInternal cause note given h =>
    simp only [Commit.resolveInternal, bind_eq_ok, pure_eq_ok] at h
    obtain ⟨_, -, _, -, v, -, rfl⟩ := h
    cases note with
    | none => exact same _ (append_nil _) rfl
    | some body =>
      obtain ⟨hbody, hroom⟩ := bounded body given
      have hadded := @within_add i
        ⟨Commit.nextNoteIndex i, body, .internal, auth.actor, none, none⟩ within hroom hbody
      exact ⟨hadded.notes, hadded.bodies, hadded.number⟩
  | closeInternal reason cause h =>
    simp only [Commit.closeInternal, bind_eq_ok, pure_eq_ok] at h
    obtain ⟨_, -, v, -, rfl⟩ := h
    exact same _ rfl rfl
  | acknowledge kind permission h | attend toState attends kind permission h =>
    simp only [Commit.guardedOperatorTransition, bind_eq_ok, pure_eq_ok] at h
    obtain ⟨_, -, _, -, v, -, rfl⟩ := h
    exact same _ rfl rfl
  | operatorReopen reason h =>
    simp only [Commit.operatorReopen, bind_eq_ok, pure_eq_ok] at h
    obtain ⟨_, -, _, -, n, -, v, -, rfl⟩ := h
    exact same _ rfl rfl
  | suppress reason valid deadline h | unsuppress h | assign assignee h
  | changePriority newPriority h | removeTag key h => exact recordEdit_within h (same _ rfl rfl)
  | changeSeverity newSeverity reason h | addTag key value bounded h =>
    obtain ⟨_, -, h⟩ := bind_eq_ok.mp h
    exact recordEdit_within h (same _ rfl rfl)
  | addNote body valid visibility h =>
    simp only [Commit.addNote, bind_eq_ok, require_ok] at h
    obtain ⟨_, hroom, h⟩ := h
    exact recordEdit_within h
      (within_add within (room_of_capacity hroom) (validateNoteBody_ok valid))
  | editNote noteIndex original found body valid h =>
    simp only [Commit.editNote, bind_eq_ok, require_ok] at h
    obtain ⟨_, -, _, -, _, hroom, h⟩ := h
    exact recordEdit_within h
      (within_add within (room_of_capacity hroom) (validateNoteBody_ok valid))
  | redactNote noteIndex reason valid h =>
    simp only [Commit.redactNote, bind_eq_ok, pure_eq_ok] at h
    obtain ⟨v, -, note, -, _, -, rfl⟩ := h
    refine ⟨?_, ?_, within.number⟩
    · rw [length_set]
      exact within.notes
    · intro other hother
      rcases mem_or_eq_of_mem_set hother with hother | rfl
      · exact within.bodies other hother
      · exact Nat.zero_le _

theorem Opened.within (h : Opened auth seen id number now c)
    (bounded : number ≠ "" ∧ number.utf8ByteSize ≤ incidentNumberMaxLen) :
    WithinBounds c.incident := by
  cases h with
  | detected | manual =>
    exact ⟨Nat.zero_le _, fun _ h => (nomatch h), bounded⟩

end Changes

/-- Rounding is toward negative infinity on both sides of the epoch. -/
theorem micros_of_fromSystemTime (h : DurableTimestamp.fromSystemTime wall = .ok t) :
    t.micros = wall / 1000 := by
  unfold DurableTimestamp.fromSystemTime at h
  dsimp only at h
  split at h
  · split at h
    · cases h
      rfl
    · cases h
  · split at h
    · cases h
    · split at h <;> split at h <;> cases h
      all_goals
        dsimp only
        omega

theorem fromSystemTime_mono (h : wall ≤ wall') (ht : DurableTimestamp.fromSystemTime wall = .ok t)
    (ht' : DurableTimestamp.fromSystemTime wall' = .ok t') : t ≤ t' := by
  rw [le_iff_micros, micros_of_fromSystemTime ht, micros_of_fromSystemTime ht']
  omega

def readingsUpTo (env : Env) (n : Nat) : List Int := (List.range n).map env.wall

def readings (st : ServiceStep) : List Int :=
  readingsUpTo st.input.env
    (perform st.input.auth st.input.call st.input.env { uow := st.before }).2.readings

theorem readingsUpTo_subset (env : Env) (h : m ≤ n) : readingsUpTo env m ⊆ readingsUpTo env n :=
  map_subset _ (List.range_subset.mpr h)

theorem wall_mem_readingsUpTo (env : Env) (h : k < n) : env.wall k ∈ readingsUpTo env n :=
  mem_map_of_mem (List.mem_range.mpr h)

theorem le_reading (sorted : (log ++ readingsUpTo env n).Pairwise (· ≤ ·))
    (earlier : wall ∈ log ++ readingsUpTo env m) (hm : m ≤ k) (hk : k < n) : wall ≤ env.wall k := by
  obtain ⟨-, hcall, hacross⟩ := List.pairwise_append.mp sorted
  rcases List.mem_append.mp earlier with hlog | hread
  · exact hacross wall hlog _ (wall_mem_readingsUpTo env hk)
  · obtain ⟨j, hj, rfl⟩ := List.mem_map.mp hread
    have hjk : j < k := (List.mem_range.mp hj).trans_le hm
    have hordered := List.pairwise_iff_getElem.mp hcall j k (by simp [readingsUpTo]; omega)
      (by simpa [readingsUpTo] using hk) hjk
    simpa [readingsUpTo] using hordered

/-- Every incident is sane, and was last changed at a reading of the clock. -/
def Stamped (log : List Int) (u : IncidentUnitOfWork) : Prop :=
  ∀ (id : IncidentId) i, u.store.incidents[id]? = some i →
    Sane i ∧ ∃ wall ∈ log, DurableTimestamp.fromSystemTime wall = .ok i.lastUpdatedAt

theorem Stamped.mono (h : Stamped log u) (sub : log ⊆ log') : Stamped log' u := by
  intro id i hi
  obtain ⟨sane, wall, hwall, hread⟩ := h id i hi
  exact ⟨sane, wall, sub hwall, hread⟩

theorem Stamped.commit {id : IncidentId} (h : Stamped log u) (refreshed : Refreshed now c.incident)
    (hwall : wall ∈ log) (reading : DurableTimestamp.fromSystemTime wall = .ok now) :
    Stamped log (u.commit auth id c) := by
  intro other i hi
  rw [commit_incidents] at hi
  exact forall_insert h ⟨refreshed.sane, wall, hwall, refreshed.stamped ▸ reading⟩ hi

theorem move_stamped {g : Grounds} (sorted : (log ++ readingsUpTo env n).Pairwise (· ≤ ·))
    (summaries : ∀ event, g.seen event → event.summary ≠ "") {s t : Session}
    (move : Move env auth g s t)
    (h : s.readings ≤ n → Stamped (log ++ readingsUpTo env s.readings) s.uow)
    (last : t.readings ≤ n) : Stamped (log ++ readingsUpTo env t.readings) t.uow := by
  have grown : ∀ {m m'}, m ≤ m' → log ++ readingsUpTo env m ⊆ log ++ readingsUpTo env m' :=
    fun hm => List.append_subset.mpr ⟨subset_append_left _ _,
      List.Subset.trans (readingsUpTo_subset env hm) (subset_append_right _ _)⟩
  cases move with
  | read m later => exact (h (later.trans last)).mono (grown later)
  | deny | export_ | notify | dedup | remember =>
    exact h last
  | create id number now c k m generated allocated reading first hk vacant unused opened =>
    have hlater : s.readings ≤ m := first.trans hk.le
    refine ((h (hlater.trans last)).mono (grown hlater)).commit (Opened.refreshed opened summaries) ?_
      reading
    exact mem_append_right _ (wall_mem_readingsUpTo env hk)
  | change id i now c k m found owned reading first hk decided =>
    have hlater : s.readings ≤ m := first.trans hk.le
    obtain ⟨sane, wall, hwall, hread⟩ := h (hlater.trans last) id i found
    have hle : i.lastUpdatedAt ≤ now :=
      fromSystemTime_mono (le_reading sorted hwall first (hk.trans_le last)) hread reading
    refine ((h (hlater.trans last)).mono (grown hlater)).commit (Decided.refreshed decided sane hle) ?_
      reading
    exact mem_append_right _ (wall_mem_readingsUpTo env hk)

section Runs

variable (closurePolicy : ClosurePolicy) (reopenPolicy : ReopenPolicy) (year : Nat)

/-- The readings of the clock that a run made, in order. -/
def clockReadings (requests : List Request) : List Int :=
  (service.trace (new closurePolicy reopenPolicy year) requests).flatMap readings

/-- Every event ingested says something. -/
def Summarized (requests : List Request) : Prop :=
  ∀ request ∈ requests, ∀ event, request.call = .ingestDetectionEvent event → event.summary ≠ ""

theorem run_stamped (requests : List Request)
    (sorted : (clockReadings closurePolicy reopenPolicy year requests).Pairwise (· ≤ ·))
    (summarized : Summarized requests) :
    Stamped (clockReadings closurePolicy reopenPolicy year requests)
      (service.run (new closurePolicy reopenPolicy year) requests) := by
  induction requests using List.reverseRecOn with
  | nil =>
    intro id i hi
    simp [new] at hi
  | append_singleton requests request ih =>
    have hlog : clockReadings closurePolicy reopenPolicy year (requests ++ [request]) =
        clockReadings closurePolicy reopenPolicy year requests ++ readings
          (service.stepAt (service.run (new closurePolicy reopenPolicy year) requests) request) := by
      simp [clockReadings]
    rw [hlog] at sorted ⊢
    rw [service.run_snoc]
    have hpast := ih (List.pairwise_append.mp sorted).1
      fun r hr => summarized r (mem_append_left _ hr)
    have hsaid := summarized request (by simp)
    -- the call's own count of readings bounds those of every move it makes
    refine step_invariant (P := fun s => s.readings ≤ _ → Stamped (_ ++ readingsUpTo request.env
      s.readings) s.uow) (fun s t move h last => move_stamped sorted hsaid move h last) ?_ le_rfl
    intro _
    exact hpast.mono (subset_append_left _ _)

/-- The resolution notes and the numbers of a step are within bounds. -/
structure Measured (st : ServiceStep) : Prop where
  notes : ∀ id version body key i,
    st.input.call = .handleCommand id (.resolveIncident version (some body)) key →
    st.before.store.incidents[id]? = some i →
    body.length ≤ noteBodyMaxLen ∧ i.notes.length < notesPerIncidentMax
  numbers : ∀ number,
    st.input.env.allocate st.input.auth.tenant st.before.numberAllocationYear = .ok number →
    number ≠ "" ∧ number.utf8ByteSize ≤ incidentNumberMaxLen

/-- Every incident is within bounds; the year of the numbers never changes. -/
structure Bounded (u : IncidentUnitOfWork) : Prop where
  year : u.numberAllocationYear = year
  within : ∀ (id : IncidentId) i, u.store.incidents[id]? = some i → WithinBounds i

theorem move_within {env : Env} {auth : AuthorizationContext} {g : Grounds}
    (notes : ∀ i body, g.noted i (some body) →
      body.length ≤ noteBodyMaxLen ∧ i.notes.length < notesPerIncidentMax)
    (numbers : ∀ number, env.allocate auth.tenant year = .ok number →
      number ≠ "" ∧ number.utf8ByteSize ≤ incidentNumberMaxLen) {s t : Session}
    (move : Move env auth g s t) (h : Bounded year s.uow) : Bounded year t.uow := by
  have written : ∀ id c, WithinBounds c.incident → Bounded year (s.uow.commit auth id c) := by
    intro id c within
    refine ⟨?_, fun other i hi => ?_⟩
    · rw [commit_eq]
      exact h.year
    · rw [commit_incidents] at hi
      exact forall_insert h.within within hi
  cases move with
  | read => exact h
  | deny | export_ | notify | dedup | remember =>
    exact ⟨h.year, h.within⟩
  | create id number now c k m generated allocated reading first hk vacant unused opened =>
    exact written id c (Opened.within opened (numbers number (h.year ▸ allocated)))
  | change id i now c k m found owned reading first hk decided =>
    exact written id c (Decided.within decided (h.within id i found) (notes i))

theorem run_within (requests : List Request)
    (measured : ∀ st ∈ service.trace (new closurePolicy reopenPolicy year) requests, Measured st) :
    Bounded year (service.run (new closurePolicy reopenPolicy year) requests) := by
  apply service.invariant (G := Measured) _ _ requests measured
  · exact ⟨rfl, fun id i hi => by simp [new] at hi⟩
  · intro u request h hstep
    refine step_invariant (P := fun s => Bounded year s.uow) (fun s t => move_within year ?_ ?_) h
    · rintro i body (hnone | ⟨id, command, key, hcall, ⟨version, rfl⟩, found⟩)
      · cases hnone
      · exact hstep.notes id version body key i hcall found
    · intro number allocated
      exact hstep.numbers number (h.year ▸ allocated)

end Runs

end Tidegard.Incident.Proofs.Reload
