import Tidegard.Incident.Snapshot

namespace Tidegard.Incident.Proofs.Reading

open Tables Fallible Basics Time Record Snapshot

/-- What nothing keeps within bounds: the notes, since a resolution note is not checked, and the
number, which is whatever the allocator hands out. -/
structure WithinBounds (i : Incident) : Prop where
  notes : i.notes.length ≤ notesPerIncidentMax
  bodies : ∀ note ∈ i.notes, note.body.length ≤ noteBodyMaxLen
  number : i.incidentNumber ≠ "" ∧ i.incidentNumber.utf8ByteSize ≤ incidentNumberMaxLen

/-- Notes are numbered by position, replaced at most once and only by later ones. -/
structure Chained (notes : List Note) : Prop where
  numbered : ∀ (k : Nat) note, notes[k]? = some note → note.index = k
  earlier : ∀ note ∈ notes, ∀ k ∈ note.supersedes, k < note.index
  once : (notes.filterMap (·.supersedes)).Nodup
  redacted : ∀ note ∈ notes, Note.redactedProperly note

/-- The rest of what reading back asks for, which every change keeps. -/
structure Sane (i : Incident) : Prop where
  schema : i.schemaVersion = incidentSchemaVersion
  version : 1 ≤ i.version
  title : i.title ≠ "" ∧ i.title.length ≤ titleMaxLen
  description : ∀ d ∈ i.description, d.length ≤ descriptionMaxLen
  -- an index is a position only as long as it does not wrap
  notes : i.notes.length ≤ notesPerIncidentMax → Chained i.notes
  tags : i.tags.size ≤ tagsPerIncidentMax
  tagged : ∀ (key value : String), i.tags[key]? = some value →
    key.length ≤ tagKeyMaxLen ∧ value.length ≤ tagValueMaxLen
  policyRefs : i.policyRefs.length ≤ policyRefsMax
  omitted : i.policyRefsOmitted = 0 ∨ i.policyRefs.length = policyRefsMax
  retained : i.evidence.retained.length ≤ evidenceRetainedLimit
  observed : i.evidence.retained.length ≤ i.evidence.observedTotal
  suppression : ∀ s ∈ i.suppression, s.reason.length ≤ suppressionReasonMaxLen
  category : i.category = deriveCategory i.matchedMetrics
  key : i.correlationKey =
    ⟨i.tenantId, i.targetType, i.targetIdentity, i.direction, i.addressFamily⟩
  before : i.stateBeforeRecovering.isSome ↔ i.state = .recovering
  since : i.recoveringSince.isSome ↔ i.state = .recovering
  restores : ∀ state, i.stateBeforeRecovering = some state →
    state.canAutomaticTransitionTo .recovering = true
  resolved : i.resolvedAt.isSome ↔ i.state = .resolved ∨ i.state = .closed
  closed : i.closedAt.isSome ↔ i.state = .closed
  closureReason : i.closureReason.isSome ↔ i.state = .closed
  critical : i.severity ≠ .critical ∨ i.everCritical = true
  everCritical : i.maximumDetectedSeverity ≠ .critical ∨ i.everCritical = true
  detected : i.severitySource ≠ .detection ∨
    severityLevel i.severity ≤ severityLevel i.maximumDetectedSeverity
  reopened : 0 < i.reopenCount ↔ i.reopenedAt.isSome
  opened : i.firstDetectedAt ≤ i.openedAt
  lastDetected : i.firstDetectedAt ≤ i.lastDetectedAt
  updated : i.openedAt ≤ i.lastUpdatedAt
  acknowledgedAt : ∀ t ∈ i.acknowledgedAt, i.openedAt ≤ t
  recoveringSince : ∀ t ∈ i.recoveringSince, i.openedAt ≤ t
  resolvedAt : ∀ t ∈ i.resolvedAt, i.openedAt ≤ t ∧ t ≤ i.lastUpdatedAt
  closedAt : ∀ t ∈ i.closedAt, i.openedAt ≤ t
  reopenedAt : ∀ t ∈ i.reopenedAt, i.openedAt ≤ t
  inOrder : ∀ t ∈ i.resolvedAt, ∀ t' ∈ i.closedAt, t ≤ t'

theorem require_eq {condition : Prop} [Decidable condition] :
    Snapshot.require condition field detail = .ok u ↔ condition := by
  unfold Snapshot.require
  split <;> simp_all

theorem requireNotBefore_eq :
    requireNotBefore later earlier field = .ok u ↔ ∀ t ∈ later, earlier ≤ t := by
  unfold requireNotBefore
  split
  · split <;> simp_all
  · simp

theorem allInserted_of_nodup (distinct : numbers.Nodup)
    (new : ∀ n ∈ numbers, replaced.contains n = false) : allInserted numbers replaced = true := by
  induction numbers generalizing replaced with
  | nil => rfl
  | cons n rest ih =>
    obtain ⟨hn, hrest⟩ := List.nodup_cons.mp distinct
    simp only [allInserted, new n List.mem_cons_self, Bool.not_false, Bool.true_and]
    apply ih hrest
    intro k hk
    rw [Std.ExtTreeMap.contains_insert, new k (List.mem_cons_of_mem _ hk), Bool.or_false]
    simp only [beq_eq_false_iff_ne, ne_eq, compare_eq_iff_eq]
    rintro rfl
    exact hn hk

theorem collectMetrics_keys (metrics : MetricSet) : collectMetrics metrics.keys = metrics := by
  unfold collectMetrics
  rw [← Std.ExtTreeMap.map_fst_toList_eq_keys, List.foldl_map]
  exact foldl_insert_toList metrics

section Reading

theorem checkBounds_toSnapshot (sane : Sane i) (bounds : WithinBounds i) :
    checkBounds (toSnapshot i) = .ok () := by
  simp only [checkBounds, bind_eq_ok, require_eq]
  refine ⟨(), ?_, (), sane.version, (), bounds.number, (), sane.title, sane.description⟩
  rw [show (toSnapshot i).schemaVersion = incidentSchemaVersion from sane.schema]
  decide

theorem checkNotes_eq (chained : Chained notes) (few : notes.length ≤ notesPerIncidentMax)
    (bodies : ∀ note ∈ notes, note.body.length ≤ noteBodyMaxLen) : checkNotes notes = .ok () := by
  simp only [checkNotes, bind_eq_ok, require_eq]
  refine ⟨(), few, (), bodies, (), ?_, (), chained.earlier, (), ?_, chained.redacted⟩
  · rintro ⟨note, k⟩ hmem
    exact chained.numbered k note (List.mem_zipIdx_iff_getElem?.mp hmem)
  · exact allInserted_of_nodup chained.once fun _ _ => Std.ExtTreeMap.contains_empty

theorem checkCollections_toSnapshot (sane : Sane i) (bounds : WithinBounds i) :
    checkCollections (toSnapshot i) = .ok () := by
  simp only [checkCollections, bind_eq_ok, require_eq]
  refine ⟨(), checkNotes_eq (sane.notes bounds.notes) bounds.notes bounds.bodies, (), sane.tags,
    (), ?_, (), sane.policyRefs, (), sane.omitted, (), sane.retained, (), sane.observed, ?_⟩
  · rintro ⟨key, value⟩ hmem
    exact sane.tagged key value ((mem_toList _ _ _).mp hmem)
  · intro display hdisplay
    obtain ⟨s, hs, rfl⟩ := Option.map_eq_some_iff.mp hdisplay
    exact sane.suppression s hs

theorem checkDerived_toSnapshot (sane : Sane i) :
    checkDerived (toSnapshot i) i.matchedMetrics = .ok () := by
  simp only [checkDerived, bind_eq_ok, require_eq]
  exact ⟨(), Std.ExtTreeMap.length_keys.symm, (), sane.category, sane.key⟩

theorem checkState_toSnapshot (sane : Sane i) : checkState (toSnapshot i) = .ok () := by
  simp only [checkState, bind_eq_ok, require_eq]
  have hrestores : i.stateBeforeRecovering ≠ some .recovering :=
    fun hb => nomatch sane.restores _ hb
  exact ⟨(), sane.before, (), sane.since, (), hrestores, (), sane.resolved, (), sane.closed,
    (), sane.closureReason, (), sane.critical, (), sane.everCritical, (), sane.detected,
    sane.reopened⟩

theorem checkOrder_toSnapshot (sane : Sane i) : checkOrder (toSnapshot i) = .ok () := by
  simp only [checkOrder, bind_eq_ok, require_eq, requireNotBefore_eq]
  refine ⟨(), sane.opened, (), sane.lastDetected, (), sane.updated, (), sane.acknowledgedAt,
    (), sane.recoveringSince, (), fun t ht => (sane.resolvedAt t ht).1, (), sane.closedAt,
    (), sane.reopenedAt, ?_⟩
  split
  case h_1 resolvedAt closedAt hresolved hclosed =>
    exact require_eq.mpr (sane.inOrder resolvedAt hresolved closedAt hclosed)
  case h_2 => rfl

theorem ofDisplay_toDisplay (suppression : Option Record.Suppression) :
    (suppression.map Suppression.toDisplay).map Suppression.ofDisplay = suppression := by
  cases suppression <;> rfl

theorem reconstitute_toSnapshot (sane : Sane i) (bounds : WithinBounds i) :
    reconstitute (toSnapshot i) = .ok i := by
  have hmetrics : collectMetrics (toSnapshot i).matchedMetrics = i.matchedMetrics :=
    collectMetrics_keys i.matchedMetrics
  have hsuppression : (toSnapshot i).suppression.map Suppression.ofDisplay = i.suppression :=
    ofDisplay_toDisplay i.suppression
  simp only [reconstitute, bind_eq_ok, pure_eq_ok, hmetrics, hsuppression]
  exact ⟨(), checkBounds_toSnapshot sane bounds, (), checkCollections_toSnapshot sane bounds, (),
    checkDerived_toSnapshot sane, (), checkState_toSnapshot sane, (), checkOrder_toSnapshot sane,
    rfl⟩

theorem withinBounds_of_reconstitute (h : reconstitute s = .ok i) : WithinBounds i := by
  simp only [reconstitute, bind_eq_ok, pure_eq_ok] at h
  obtain ⟨_, hbounds, _, hcollections, _, -, _, -, _, -, rfl⟩ := h
  simp only [checkBounds, bind_eq_ok, require_eq] at hbounds
  simp only [checkCollections, checkNotes, bind_eq_ok, require_eq] at hcollections
  obtain ⟨_, -, _, -, _, hnumber, -⟩ := hbounds
  obtain ⟨_, ⟨_, hnotes, _, hbodies, -⟩, -⟩ := hcollections
  exact ⟨hnotes, hbodies, hnumber⟩

end Reading

end Tidegard.Incident.Proofs.Reading
