import Tidegard.IncidentPostgres.Row
import Tidegard.Incident.Proofs.Identity
import Tidegard.Incident.Proofs.Reload

namespace Tidegard.IncidentPostgres.Proofs.Reload

open List Tables Fallible Detector.Input Detector.Policy Incident.Basics Incident.Time
  Incident.Record
open Incident.Store Incident.UnitOfWork Incident.Snapshot Row Incident.Proofs.Reading
open Incident.Proofs.Reload

variable {n : Nat} {lib : Library}
variable {i : Incident}

section Restores

variable {α β ρ : Type} {read : ρ → Except PersistError α}

/-- The value can be written, and what is written reads as the value. -/
def Restores (write : α → Except PersistError ρ) (read : ρ → Except PersistError α) (a : α) :
    Prop :=
  ∃ row, write a = .ok row ∧ read row = .ok a

theorem restores_optionally {o : Option α} (h : ∀ a ∈ o, Restores write read a) :
    Restores (optionally write) (optionally read) o := by
  cases o with
  | none => exact ⟨none, rfl, rfl⟩
  | some a =>
    obtain ⟨row, hwrite, hread⟩ := h a rfl
    refine ⟨some row, ?_, ?_⟩
    · simp only [optionally, hwrite]
      rfl
    · simp only [optionally, hread]
      rfl

/-- A list is read back row by row, and what the rows are sorted by is what the values are. -/
theorem restores_mapM {κ : Type} {l : List β} (write : β → Except PersistError ρ)
    (read : ρ → Except PersistError α) (value : β → α) (column : ρ → κ) (number : β → κ)
    (h : ∀ b ∈ l, ∃ row, write b = .ok row ∧ read row = .ok (value b) ∧ column row = number b) :
    ∃ rows, l.mapM write = .ok rows ∧ rows.mapM read = .ok (l.map value) ∧
      rows.map column = l.map number := by
  induction l with
  | nil => exact ⟨[], rfl, rfl, rfl⟩
  | cons b l ih =>
    obtain ⟨row, hwrite, hread, hcolumn⟩ := h b mem_cons_self
    obtain ⟨rows, hwrites, hreads, hcolumns⟩ := ih fun b hb => h b (mem_cons_of_mem _ hb)
    refine ⟨row :: rows, ?_, ?_, ?_⟩
    · rw [mapM_cons, hwrite, hwrites]
      rfl
    · rw [mapM_cons, hread, hreads]
      rfl
    · rw [map_cons, map_cons, hcolumn, hcolumns]

theorem restores_json (h : codec.RoundTrips) (field column : String) (a : α) :
    Restores (toJson codec field) (fromJson codec column) a := by
  obtain ⟨text, hencode, hdecode⟩ := h a
  refine ⟨text, ?_, ?_⟩
  · rw [toJson, hencode]
    rfl
  · rw [fromJson, hdecode]
    rfl

end Restores

theorem restores_i32 (field column : String) (h : n < 2 ^ 31) :
    Restores (toI32 field) (toU32 column) n :=
  ⟨n, if_pos h, by simp [toU32, toUnsigned]⟩

theorem restores_i64 (field column : String) (h : n < 2 ^ 63) :
    Restores (toI64 field) (toU64 column) n :=
  ⟨n, if_pos h, by simp [toU64, toUnsigned]⟩

/-- Not an actor of the platform, which the schema has no type for. -/
def Stored (actor : Actor) : Prop := ∀ id, actor ≠ .platform id

theorem stored_iff : Stored actor ↔ (actorColumns "" actor).isOk = true := by
  cases actor <;> simp [Stored, actorColumns, Except.isOk, Except.toBool]

instance : DecidablePred Stored := fun _ => decidable_of_iff' _ stored_iff

theorem restores_actor (quote : String → String) (field column : String)
    (h : Stored actor) : Restores (actorColumns field) (actorFrom quote column) actor := by
  cases actor with
  | operator | serviceAccount | system => exact ⟨_, rfl, rfl⟩
  | platform id => exact absurd rfl (h id)

section Texts

variable (quote : String → String)

theorem stateFrom_text (v : IncidentState) : stateFrom quote (stateText v) = .ok v := by
  cases v <;> rfl

theorem severityFrom_text (v : Severity) : severityFrom quote (severityText v) = .ok v := by
  cases v <;> rfl

theorem severitySourceFrom_text (v : SeveritySource) :
    severitySourceFrom quote (severitySourceText v) = .ok v := by
  cases v <;> rfl

theorem priorityFrom_text (v : Priority) : priorityFrom quote (priorityText v) = .ok v := by
  cases v <;> rfl

theorem closureReasonFrom_text (v : ClosureReason) :
    closureReasonFrom quote (closureReasonText v) = .ok v := by
  cases v <;> rfl

theorem categoryFrom_text (v : IncidentCategory) : categoryFrom quote (categoryText v) = .ok v := by
  cases v <;> rfl

theorem directionFrom_text (v : TrafficDirection) :
    directionFrom quote (directionText v) = .ok v := by
  cases v <;> rfl

theorem visibilityFrom_text (v : NoteVisibility) :
    visibilityFrom quote (visibilityText v) = .ok v := by
  cases v <;> rfl

theorem addressFamilyFrom_value (v : AddressFamily) :
    addressFamilyFrom (addressFamilyValue v) = .ok v := by
  cases v <;> rfl

end Texts

theorem optionally_map {α β : Type} {read : β → Except PersistError α} {text : α → β}
    (h : ∀ a, read (text a) = .ok a) (o : Option α) : optionally read (o.map text) = .ok o := by
  cases o with
  | none => rfl
  | some a =>
    simp only [Option.map_some, optionally, h]
    rfl

theorem assigneeFrom_columns (lib : Library) (assignee : Option Assignee) :
    assigneeFrom lib (assigneeColumns assignee).1 (assigneeColumns assignee).2 = .ok assignee := by
  rcases assignee with _ | _ | _ <;> rfl

theorem map_timestamp (t : Option DurableTimestamp) : (t.map (·.micros)).map timestamp = t := by
  cases t <;> rfl

theorem collectTags_toList (tags : Table String String) : collectTags tags.toList = tags :=
  foldl_insert_toList tags

theorem incidentIdFrom_canonical (id : IncidentId) :
    incidentIdFrom id.toCanonicalString = .ok id := by
  rw [incidentIdFrom, Incident.Proofs.Identity.parse_canonical]

/-- Every counter fits its column. The index of a note and the position of a policy do so anyway. -/
structure Fits (i : Incident) : Prop where
  version : i.version < 2 ^ 63
  reopenCount : i.reopenCount < 2 ^ 31
  policies : ∀ reference ∈ i.policyRefs, reference.policyVersion < 2 ^ 31 ∧
    reference.firstSeenSequence < 2 ^ 63 ∧ reference.lastSeenSequence < 2 ^ 63
  omitted : i.policyRefsOmitted < 2 ^ 63

/-- No actor of the incident is one of the platform. -/
structure NoPlatform (i : Incident) : Prop where
  createdBy : Stored i.createdBy
  updatedBy : Stored i.updatedBy
  suppression : ∀ suppression ∈ i.suppression, Stored suppression.by_
  notes : ∀ note ∈ i.notes, Stored note.createdBy ∧
    ∀ redaction ∈ note.redaction, Stored redaction.by_

section Rows

variable (lib : Library)

theorem restores_suppression (h : Stored display.by_) :
    Restores suppressionColumns (suppressionFrom lib) display := by
  obtain ⟨by_, hwrite, hread⟩ := restores_actor lib.quote "suppression.by" "suppressed_by_type" h
  simp only [Restores, suppressionColumns, suppressionFrom, bind_eq_ok, pure_eq_ok]
  exact ⟨_, ⟨_, hwrite, rfl⟩, _, hread, rfl⟩

theorem restores_redaction (h : Stored redaction.by_) :
    Restores redactionColumns (redactionFrom lib) redaction := by
  obtain ⟨by_, hwrite, hread⟩ := restores_actor lib.quote "notes.redaction.by"
    "incident_notes.redacted_by_type" h
  simp only [Restores, redactionColumns, redactionFrom, bind_eq_ok, pure_eq_ok]
  exact ⟨_, ⟨_, hwrite, rfl⟩, _, hread, rfl⟩

theorem restores_note {note : Note} (index : note.index < 2 ^ 31)
    (supersedes : ∀ k ∈ note.supersedes, k < 2 ^ 31) (createdBy : Stored note.createdBy)
    (redactedBy : ∀ redaction ∈ note.redaction, Stored redaction.by_) :
    ∃ row, noteRow note = .ok row ∧ noteFrom lib row = .ok note ∧
      row.noteIndex = (note.index : Int) := by
  obtain ⟨by_, hby, rby⟩ := restores_actor lib.quote "notes.created_by"
    "incident_notes.created_by_type" createdBy
  obtain ⟨replaced, hreplaced, rreplaced⟩ := restores_optionally fun k hk =>
    restores_i32 "notes.supersedes" "supersedes_note_id" (supersedes k hk)
  obtain ⟨redaction, hredaction, rredaction⟩ := restores_optionally fun r hr =>
    restores_redaction lib (redactedBy r hr)
  have hindex : toI32 "notes.index" note.index = .ok (note.index : Int) := if_pos index
  have rindex : toU32 "note_index" (note.index : Int) = .ok note.index := by
    simp [toU32, toUnsigned]
  simp only [noteRow, noteFrom, bind_eq_ok, pure_eq_ok]
  exact ⟨_, ⟨_, hindex, _, hby, _, hreplaced, _, hredaction, rfl⟩,
    ⟨_, rindex, _, visibilityFrom_text lib.quote note.visibility, _, rby, _, rreplaced, _,
      rredaction, rfl⟩, rfl⟩

theorem notes_restored {notes : List Note} (chained : Chained notes)
    (few : notes.length ≤ notesPerIncidentMax)
    (stored : ∀ note ∈ notes, Stored note.createdBy ∧
      ∀ redaction ∈ note.redaction, Stored redaction.by_) :
    ∃ rows, notes.mapM noteRow = .ok rows ∧ notesFrom lib rows = .ok notes := by
  have hcap : notesPerIncidentMax < 2 ^ 31 := by decide
  have hindex : ∀ note ∈ notes, note.index < 2 ^ 31 := by
    intro note hnote
    obtain ⟨k, hk, hat⟩ := List.mem_iff_getElem.mp hnote
    have hnumber := chained.numbered k note (List.getElem?_eq_some_iff.mpr ⟨hk, hat⟩)
    omega
  obtain ⟨rows, hwrite, hread, hcolumn⟩ := restores_mapM noteRow (noteFrom lib) id
    NoteRow.noteIndex (fun note : Note => (note.index : Int)) fun note (hnote : note ∈ notes) =>
      restores_note lib (hindex note hnote)
      (fun k hk => (chained.earlier note hnote k hk).trans (hindex note hnote))
      (stored note hnote).1 (stored note hnote).2
  refine ⟨rows, hwrite, ?_⟩
  have hsorted : (rows.map NoteRow.noteIndex).Pairwise (· ≤ ·) := by
    rw [hcolumn, pairwise_map, pairwise_iff_getElem]
    intro j k hj hk hjk
    rw [chained.numbered j _ (List.getElem?_eq_getElem hj),
      chained.numbered k _ (List.getElem?_eq_getElem hk)]
    omega
  rw [pairwise_map] at hsorted
  rw [notesFrom, mergeSort_of_pairwise (by simpa using hsorted), hread, List.map_id]

theorem restores_policyRef (few : position < 2 ^ 31)
    (fits : reference.policyVersion < 2 ^ 31 ∧ reference.firstSeenSequence < 2 ^ 63 ∧
      reference.lastSeenSequence < 2 ^ 63) :
    ∃ row, policyRefRow position reference = .ok row ∧ policyRefFrom row = .ok reference ∧
      row.refIndex = (position : Int) := by
  obtain ⟨version, hversion, rversion⟩ :=
    restores_i32 "policy_refs.policy_version" "policy_version" fits.1
  obtain ⟨first, hfirst, rfirst⟩ :=
    restores_i64 "policy_refs.first_seen_sequence" "first_seen_sequence" fits.2.1
  obtain ⟨last, hlast, rlast⟩ :=
    restores_i64 "policy_refs.last_seen_sequence" "last_seen_sequence" fits.2.2
  have hposition : toI32 "policy_refs" position = .ok (position : Int) := if_pos few
  simp only [policyRefRow, policyRefFrom, bind_eq_ok, pure_eq_ok]
  exact ⟨_, ⟨_, hposition, _, hversion, _, hfirst, _, hlast, rfl⟩,
    ⟨_, rversion, _, rfirst, _, rlast, rfl⟩, rfl⟩

theorem policyRefs_restored {refs : List PolicyRef} (few : refs.length ≤ policyRefsMax)
    (fits : ∀ reference ∈ refs, reference.policyVersion < 2 ^ 31 ∧
      reference.firstSeenSequence < 2 ^ 63 ∧ reference.lastSeenSequence < 2 ^ 63) :
    ∃ rows, (refs.zipIdx.mapM fun e => policyRefRow e.2 e.1) = .ok rows ∧
      policyRefsFrom rows = .ok refs := by
  have hcap : policyRefsMax < 2 ^ 31 := by decide
  obtain ⟨rows, hwrite, hread, hcolumn⟩ := restores_mapM
    (fun e : PolicyRef × Nat => policyRefRow e.2 e.1) policyRefFrom Prod.fst
    PolicyRefRow.refIndex (fun e => (e.2 : Int)) (l := refs.zipIdx) (by
      rintro ⟨reference, position⟩ hmem
      have hat := List.mem_zipIdx_iff_getElem?.mp hmem
      obtain ⟨hposition, -⟩ := List.getElem?_eq_some_iff.mp hat
      exact restores_policyRef (by omega) (fits reference (List.mem_of_getElem? hat)))
  have hlength : rows.length = refs.length := by
    simpa using congrArg List.length hcolumn
  have hindex : ∀ (k : Nat) row, rows[k]? = some row → row.refIndex = (k : Int) := by
    intro k row hrow
    have hk := congrArg (fun l => l[k]?) hcolumn
    simp only [List.getElem?_map, hrow, List.getElem?_zipIdx, Option.map_map] at hk
    cases href : refs[k]? with
    | none => simp [href] at hk
    | some reference => simpa [href] using hk
  have hsorted : rows.Pairwise fun a b => decide (a.refIndex ≤ b.refIndex) = true := by
    rw [pairwise_iff_getElem]
    intro j k hj hk hjk
    rw [decide_eq_true_eq, hindex j _ (List.getElem?_eq_getElem hj),
      hindex k _ (List.getElem?_eq_getElem hk)]
    omega
  refine ⟨rows, hwrite, ?_⟩
  have hpositions : (rows.zipIdx.any fun e =>
      !decide ((e.2 : Int) = e.1.refIndex ∧ e.2 < 2 ^ 31)) = false := by
    rw [any_eq_false]
    rintro ⟨row, k⟩ hmem
    have hat := List.mem_zipIdx_iff_getElem?.mp hmem
    obtain ⟨hk, -⟩ := List.getElem?_eq_some_iff.mp hat
    have hrow := hindex k row hat
    simp only [Bool.not_eq_true', decide_eq_false_iff_not, not_not]
    exact ⟨hrow.symm, by omega⟩
  unfold policyRefsFrom
  simp only [mergeSort_of_pairwise hsorted, hpositions]
  rw [if_neg (by simp), hread, zipIdx_map_fst]

end Rows

theorem targetTypeAgrees_of_eq (h : row.targetType = targetTypeText key.targetIdentity) :
    targetTypeAgrees lib row key = .ok () := if_pos h

theorem snapshot_restored (trips : lib.RoundTrips) (sane : Sane i) (within : WithinBounds i)
    (fits : Fits i) (noPlatform : NoPlatform i) :
    Restores (fromSnapshot lib) (intoSnapshot lib) (toSnapshot i) := by
  obtain ⟨suppression, hsuppression, rsuppression⟩ : Restores (optionally suppressionColumns)
      (optionally (suppressionFrom lib)) (toSnapshot i).suppression := by
    apply restores_optionally
    intro display hdisplay
    obtain ⟨s, hs, rfl⟩ := Option.map_eq_some_iff.mp hdisplay
    exact restores_suppression lib (noPlatform.suppression s hs)
  obtain ⟨notes, hnotes, rnotes⟩ :=
    notes_restored lib (sane.notes within.notes) within.notes noPlatform.notes
  obtain ⟨refs, hrefs, rrefs⟩ := policyRefs_restored sane.policyRefs fits.policies
  obtain ⟨schema, hschema, rschema⟩ := restores_i32 "schema_version" "schema_version"
    (n := i.schemaVersion) (by rw [sane.schema]; decide)
  obtain ⟨key, hkey, rkey⟩ := restores_json trips.correlationKey "correlation_key"
    "correlation_key" i.correlationKey
  obtain ⟨created, hcreated, rcreated⟩ :=
    restores_actor lib.quote "created_by" "created_by_type" noPlatform.createdBy
  obtain ⟨version, hversion, rversion⟩ := restores_i64 "version" "version" fits.version
  obtain ⟨metrics, hmetrics, rmetrics⟩ := restores_json trips.matchedMetrics "matched_metrics"
    "matched_metrics" i.matchedMetrics.keys
  obtain ⟨count, hcount, rcount⟩ := restores_i32 "reopen_count" "reopen_count" fits.reopenCount
  obtain ⟨updated, hupdated, rupdated⟩ :=
    restores_actor lib.quote "updated_by" "updated_by_type" noPlatform.updatedBy
  obtain ⟨evidence, hevidence, revidence⟩ := restores_json trips.evidence "evidence_summary"
    "evidence_summary" i.evidence
  obtain ⟨omitted, homitted, romitted⟩ :=
    restores_i64 "policy_refs_omitted" "policy_refs_omitted" fits.omitted
  have rnumber : (lib.incidentNumber i.incidentNumber).mapError
      (PersistError.corrupt "incident_number") = .ok i.incidentNumber := by
    rw [trips.incidentNumber]
    rfl
  have htype : i.correlationKey.targetType = i.targetType := by rw [sane.key]
  have htarget : i.correlationKey.targetIdentity = i.targetIdentity := by rw [sane.key]
  simp only [Restores, fromSnapshot, intoSnapshot, bind_eq_ok, pure_eq_ok]
  refine ⟨_, ⟨_, hsuppression, _, hnotes, _, hrefs, _, hschema, _, hkey, _, hcreated, _, hversion,
    _, hmetrics, _, hcount, _, hupdated, _, hevidence, _, homitted, rfl⟩, _, rkey, _,
    targetTypeAgrees_of_eq (by rw [htarget]; rfl), _, rnumber, _, rsuppression, _,
    assigneeFrom_columns lib i.assignee, _, rnotes, _, rrefs, _,
    incidentIdFrom_canonical i.incidentId, _, rschema, _, addressFamilyFrom_value i.addressFamily,
    _, directionFrom_text lib.quote i.direction, _, rcreated, _, stateFrom_text lib.quote i.state,
    _, severityFrom_text lib.quote i.severity, _,
    severitySourceFrom_text lib.quote i.severitySource, _,
    severityFrom_text lib.quote i.maximumDetectedSeverity, _,
    priorityFrom_text lib.quote i.priority, _,
    optionally_map (closureReasonFrom_text lib.quote) i.closureReason, _,
    optionally_map (stateFrom_text lib.quote) i.stateBeforeRecovering, _, rversion, _,
    categoryFrom_text lib.quote i.category, _, rmetrics, _, rcount, _, rupdated, _, revidence, _,
    romitted, ?_⟩
  simp only [htype, htarget, map_timestamp, collectTags_toList]
  rfl

theorem intoIncident_fromIncident_iff (trips : lib.RoundTrips) (sane : Sane i) (fits : Fits i)
    (noPlatform : NoPlatform i) :
    fromIncident lib i >>= intoIncident lib = .ok i ↔ WithinBounds i := by
  constructor
  · intro h
    obtain ⟨row, -, h⟩ := bind_eq_ok.mp h
    obtain ⟨snapshot, -, h⟩ := bind_eq_ok.mp h
    cases hread : reconstitute snapshot with
    | error e =>
      rw [hread] at h
      cases h
    | ok j =>
      rw [hread] at h
      cases h
      exact withinBounds_of_reconstitute hread
  · intro within
    obtain ⟨row, hwrite, hread⟩ := snapshot_restored trips sane within fits noPlatform
    refine bind_eq_ok.mpr ⟨row, hwrite, bind_eq_ok.mpr ⟨toSnapshot i, hread, ?_⟩⟩
    rw [reconstitute_toSnapshot sane within]
    rfl

/-- In every run under a clock that never goes back and with events that say something, an incident
is read back from its snapshot, and from its row where the row can hold it, exactly when its notes
and its number are within bounds; and all are if every resolution note and every number given is. -/
theorem incidents_reload_iff (closurePolicy : ClosurePolicy) (reopenPolicy : ReopenPolicy)
    (year : Nat) (requests : List Request)
    (sorted : (clockReadings closurePolicy reopenPolicy year requests).Pairwise (· ≤ ·))
    (summarized : Summarized requests) :
    let start := new closurePolicy reopenPolicy year
    let stored := (service.run start requests).store.incidents
    (∀ (id : IncidentId) i, stored[id]? = some i →
      (reconstitute (toSnapshot i) = .ok i ↔ WithinBounds i) ∧
      ∀ lib : Library, lib.RoundTrips → Fits i → NoPlatform i →
        (fromIncident lib i >>= intoIncident lib = .ok i ↔ WithinBounds i)) ∧
    ((∀ st ∈ service.trace start requests, Measured st) →
      ∀ (id : IncidentId) i, stored[id]? = some i → WithinBounds i) := by
  intro start stored
  refine ⟨?_, fun measured => (run_within closurePolicy reopenPolicy year requests measured).within⟩
  intro id i hi
  obtain ⟨sane, -⟩ := run_stamped closurePolicy reopenPolicy year requests sorted summarized id i hi
  exact ⟨⟨withinBounds_of_reconstitute, reconstitute_toSnapshot sane⟩,
    fun lib trips fits noPlatform => intoIncident_fromIncident_iff trips sane fits noPlatform⟩

/-- An incident is opened and resolved with a note. -/
def resolvedWith (body : String) : List Request :=
  [sampleIngest 0 0 "d0" .started 0,
    sampleCommand 1 1 (sampleId 0) (.resolveIncident 1 (some body))]

theorem resolvedWith_sorted (body : String) :
    (clockReadings {} {} 2026 (resolvedWith body)).Pairwise (· ≤ ·) := by
  have hreadings : clockReadings {} {} 2026 (resolvedWith body) = [0, 1000000000] := rfl
  rw [hreadings]
  decide

theorem resolvedWith_summarized (body : String) : Summarized (resolvedWith body) := by
  intro request hrequest event hcall
  simp only [resolvedWith, mem_cons, not_mem_nil, or_false] at hrequest
  rcases hrequest with rfl | rfl
  · cases hcall
    decide
  · cases hcall

theorem resolvedWith_notes (body : String) :
    ((service.run (new {} {} 2026) (resolvedWith body)).store.incidents[sampleId 0]?).map
      (fun i => i.notes.map (·.body)) = some [body] := rfl

section Numbered

instance bitVecCountable : Countable (BitVec w) := ⟨_, BitVec.toNat_injective⟩

instance charCountable : Countable Char := ⟨Char.toNat, fun _ _ => Char.toNat_inj.mp⟩

instance stringCountable : Countable String := Function.Injective.countable @String.toList_injective

deriving instance Countable for Common.IpAddr
deriving instance Countable for AddressFamily
deriving instance Countable for ScopeType
deriving instance Countable for ScopeId
deriving instance Countable for TrafficDirection
deriving instance Countable for CorrelationKey
deriving instance Countable for MetricKind
deriving instance Countable for EvidenceLinkType
deriving instance Countable for EvidenceReference
deriving instance Countable for EvidenceLedger

variable (α : Type) [Countable α]

/-- A text for each value: its number in some enumeration. -/
noncomputable def numberText (a : α) : String := toString ((exists_injective_nat α).choose a)

theorem numberText_injective : Function.Injective (numberText α) := fun _ _ h =>
  (exists_injective_nat α).choose_spec (Nat.repr_inj.mp h)

open Classical in
noncomputable def numbered : Codec α where
  encode a := .ok (numberText α a)
  decode text := if h : ∃ a, numberText α a = text then .ok h.choose else .error ""

theorem numbered_roundTrips : (numbered α).RoundTrips := by
  intro a
  have h : ∃ b, numberText α b = numberText α a := ⟨a, rfl⟩
  exact ⟨_, rfl, (dif_pos h).trans (congrArg _ (numberText_injective α h.choose_spec))⟩

end Numbered

noncomputable def sampleLibrary : Library where
  showAddr := numberText _
  quote := id
  correlationKey := numbered _
  matchedMetrics := numbered _
  evidence := numbered _
  incidentNumber := .ok

/-- With a short note the incident is read back, from its snapshot and from its row. -/
theorem incidents_reload_iff_resolved :
    ∃ i, (service.run (new {} {} 2026) (resolvedWith "done")).store.incidents[sampleId 0]? =
      some i ∧ reconstitute (toSnapshot i) = .ok i ∧
      fromIncident sampleLibrary i >>= intoIncident sampleLibrary = .ok i := by
  obtain ⟨i, hi, -⟩ := Option.map_eq_some_iff.mp (resolvedWith_notes "done")
  have hbounds : ∀ i ∈ (service.run (new {} {} 2026)
      (resolvedWith "done")).store.incidents[sampleId 0]?, (i.notes.length ≤ notesPerIncidentMax ∧
      (∀ note ∈ i.notes, note.body.length ≤ noteBodyMaxLen) ∧ i.incidentNumber ≠ "" ∧
      i.incidentNumber.utf8ByteSize ≤ incidentNumberMaxLen) ∧
      (i.version < 2 ^ 63 ∧ i.reopenCount < 2 ^ 31 ∧ (∀ reference ∈ i.policyRefs,
        reference.policyVersion < 2 ^ 31 ∧ reference.firstSeenSequence < 2 ^ 63 ∧
        reference.lastSeenSequence < 2 ^ 63) ∧ i.policyRefsOmitted < 2 ^ 63) ∧
      Stored i.createdBy ∧ Stored i.updatedBy ∧ i.suppression = none ∧
      ∀ note ∈ i.notes, Stored note.createdBy ∧ note.redaction = none := by
    decide +kernel
  obtain ⟨⟨hnotes, hbodies, hnumber⟩, ⟨hversion, hreopened, hpolicies, homitted⟩, hcreated, hupdated,
    hsuppression, hwritten⟩ := hbounds i hi
  have hwithin : WithinBounds i := ⟨hnotes, hbodies, hnumber⟩
  obtain ⟨hsnapshot, hrow⟩ := (incidents_reload_iff {} {} 2026 (resolvedWith "done")
    (resolvedWith_sorted _) (resolvedWith_summarized _)).1 (sampleId 0) i hi
  refine ⟨i, hi, hsnapshot.mpr hwithin, (hrow sampleLibrary ?_ ?_ ?_).mpr hwithin⟩
  · exact ⟨numbered_roundTrips _, numbered_roundTrips _, numbered_roundTrips _, fun _ => rfl⟩
  · exact ⟨hversion, hreopened, hpolicies, homitted⟩
  · refine ⟨hcreated, hupdated, by simp [hsuppression], fun note hnote => ?_⟩
    obtain ⟨hcreated, hredaction⟩ := hwritten note hnote
    exact ⟨hcreated, by simp [hredaction]⟩

/-- A resolution note of 16001 characters makes the incident unreadable. -/
theorem long_note_unreadable :
    ∃ requests, (clockReadings {} {} 2026 requests).Pairwise (· ≤ ·) ∧ Summarized requests ∧
      ∃ (id : IncidentId) (i : Incident),
        (service.run (new {} {} 2026) requests).store.incidents[id]? = some i ∧
        reconstitute (toSnapshot i) ≠ .ok i := by
  obtain ⟨i, hi, hbodies⟩ := Option.map_eq_some_iff.mp
    (resolvedWith_notes (String.ofList (List.replicate 16001 'a')))
  refine ⟨_, resolvedWith_sorted _, resolvedWith_summarized _, sampleId 0, i, hi, ?_⟩
  intro hread
  have hlong : String.ofList (List.replicate 16001 'a') ∈ i.notes.map (·.body) := by
    rw [hbodies]
    exact mem_cons_self
  obtain ⟨note, hnote, hbody⟩ := List.mem_map.mp hlong
  have hlength := (withinBounds_of_reconstitute hread).bodies note hnote
  rw [hbody, String.length_ofList, length_replicate] at hlength
  exact absurd hlength (by decide)

end Tidegard.IncidentPostgres.Proofs.Reload
