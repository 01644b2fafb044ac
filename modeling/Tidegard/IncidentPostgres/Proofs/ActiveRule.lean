import Tidegard.Delimited
import Tidegard.IncidentPostgres.Schema
import Tidegard.IncidentPostgres.Proofs.Reload

namespace Tidegard.IncidentPostgres.Proofs.ActiveRule

open Common Delimited Fallible Detector.Input Detector.Window Incident.Basics Incident.Record
open Tidegard.Incident Incident.Proofs.Changes Row Schema Reload
open Mitigation.Prefix (maxLength)

variable {key : CorrelationKey}

theorem maxLength_mask (addr : IpAddr) (length : Nat) :
    maxLength (mask addr length) = maxLength addr := by
  cases addr <;> rfl

theorem maxPrefix_of (addr : IpAddr) : maxPrefix (AddressFamily.of addr) = maxLength addr := by
  cases addr <;> rfl

theorem agrees_of_manual {request : ManualIncident} (tenant : TenantId)
    (valid : request.validate = .ok ()) : Agrees (request.correlationKey tenant) := by
  unfold ManualIncident.validate at valid
  split_ifs at valid with htitle hlong hdescription hdirection htarget
  obtain ⟨title, description, severity, priority, targetType, targetIdentity, direction, family⟩ :=
    request
  unfold ManualIncident.targetAgrees at htarget
  dsimp only at htarget
  split at htarget
  · rename_i addr
    have hfamily : AddressFamily.of addr = family := by simpa using htarget
    exact hfamily.symm
  · rename_i addr prefixLen
    simp only [Bool.and_eq_true, decide_eq_true_eq] at htarget
    obtain ⟨rfl, hlength⟩ := htarget
    exact ⟨rfl, maxPrefix_of addr ▸ hlength⟩
  · rename_i addr prefixLen
    simp only [Bool.and_eq_true, decide_eq_true_eq] at htarget
    obtain ⟨⟨⟨rfl, hipv4⟩, rfl⟩, -⟩ := htarget
    cases addr with
    | v4 bits => exact ⟨rfl, Nat.le_of_ble_eq_true rfl⟩
    | v6 bits => cases hipv4
  · exact trivial
  · cases htarget

theorem agrees_of_carried (carried : Carried key) : Agrees key := by
  cases carried with
  | host side => exact (rfl : AddressFamily.of side.addr = _)
  | matched side prefixLen inRange =>
    exact ⟨(addressFamily_mask side.addr prefixLen).symm,
      (maxLength_mask side.addr prefixLen).symm ▸ inRange⟩
  | slash24 side ipv4 =>
    refine ⟨(addressFamily_mask side.addr 24).symm, ?_⟩
    rw [maxLength_mask]
    cases haddr : side.addr with
    | v4 bits => exact Nat.le_of_ble_eq_true rfl
    | v6 bits =>
      rw [haddr] at ipv4
      cases ipv4
  | hostgroup => exact trivial
  | manual request tenant valid => exact agrees_of_manual tenant valid

def entryOf (key : CorrelationKey) : IndexEntry :=
  match key.targetIdentity with
  | .host addr => .host key.tenant (addr, maxLength addr) (directionText key.direction)
      (addressFamilyValue key.addressFamily)
  | .network addr length => .network key.tenant (network (addr, length))
      (directionText key.direction) (addressFamilyValue key.addressFamily)
  | .hostgroup name => .hostgroup key.tenant name (directionText key.direction)

/-- The columns the indexes read. -/
structure IndexedColumns (lib : Library) (i : Incident) (row : IncidentRow) : Prop where
  tenantId : row.tenantId = i.tenantId
  state : row.state = stateText i.state
  targetType : row.targetType = targetTypeText i.targetIdentity
  target : (row.targetAddr, row.targetNetwork, row.targetHostgroup) =
    targetColumns lib.showAddr i.targetIdentity
  direction : row.direction = directionText i.direction
  addressFamily : row.addressFamily = addressFamilyValue i.addressFamily

theorem indexedColumns_of_row (h : fromIncident lib i = .ok row) : IndexedColumns lib i row := by
  simp only [fromIncident, fromSnapshot, bind_eq_ok, pure_eq_ok] at h
  obtain ⟨_, -, _, -, _, -, _, -, _, -, _, -, _, -, _, -, _, -, _, -, _, -, _, -, rfl⟩ := h
  exact ⟨rfl, rfl, rfl, rfl, rfl, rfl⟩

theorem stateText_active (active : Active state) :
    ¬ (stateText state = "resolved" ∨ stateText state = "closed") := by
  revert active
  cases state <;> decide

theorem indexEntry_activeRow (reads : pg.ReadsBack lib.showAddr) (agrees : Agrees key)
    (h : ActiveRow lib key row) : indexEntry pg row = some (entryOf key) := by
  obtain ⟨i, ⟨-, rfl⟩, active, hrow⟩ := h
  have columns := indexedColumns_of_row hrow
  unfold indexEntry
  rw [columns.state, if_neg (stateText_active active), columns.targetType, columns.tenantId,
    columns.direction, columns.addressFamily]
  have htarget := columns.target
  unfold entryOf
  cases hid : i.targetIdentity with
  | host =>
    rw [hid] at htarget
    simp only [targetColumns, Prod.mk.injEq] at htarget
    obtain ⟨haddr, -, -⟩ := htarget
    rw [haddr]
    simp [targetTypeText, reads.address]
  | network addr length =>
    rw [hid] at htarget
    simp only [targetColumns, Prod.mk.injEq] at htarget
    obtain ⟨-, hnetwork, -⟩ := htarget
    have hlength : length ≤ maxLength addr := by
      unfold Agrees at agrees
      dsimp only at agrees
      rw [hid] at agrees
      cases htype : i.targetType <;> rw [htype] at agrees <;>
        first | exact agrees.2 | exact agrees.elim
    rw [hnetwork, Option.bind_some, reads.network addr length hlength]
    simp [targetTypeText]
  | hostgroup =>
    rw [hid] at htarget
    simp only [targetColumns, Prod.mk.injEq] at htarget
    obtain ⟨-, -, hname⟩ := htarget
    rw [hname]
    simp [targetTypeText]

theorem directionText_inj :
    directionText d = directionText d' ↔ d = d' := by
  cases d <;> cases d' <;> decide

theorem addressFamilyValue_inj :
    addressFamilyValue f = addressFamilyValue f' ↔ f = f' := by
  cases f <;> cases f' <;> decide

theorem not_confused_self (key : CorrelationKey) : ¬ Confused key key := by
  rintro ⟨-, -, ⟨addr, addr', length, h, h', -, -, hdiffer⟩ | ⟨name, -, -, hdiffer⟩⟩
  · rw [h] at h'
    cases h'
    simp at hdiffer
  · exact hdiffer rfl

theorem entryOf_eq_iff (agrees : Agrees k) (agrees' : Agrees k') :
    entryOf k = entryOf k' ↔ k = k' ∨ Confused k k' := by
  obtain ⟨tenant, type, identity, direction, family⟩ := k
  obtain ⟨tenant', type', identity', direction', family'⟩ := k'
  unfold Agrees at agrees agrees'
  dsimp only at agrees agrees'
  cases identity with
  | host =>
    cases identity' with
    | host =>
      cases type <;> simp only at agrees
      cases type' <;> simp only at agrees'
      subst agrees agrees'
      simp [entryOf, Confused, directionText_inj, addressFamilyValue_inj]
      grind
    | network | hostgroup => simp [entryOf, Confused]
  | network =>
    cases identity' with
    | host | hostgroup => simp [entryOf, Confused]
    | network =>
      simp [entryOf, Confused, directionText_inj, addressFamilyValue_inj, network]
      grind
  | hostgroup =>
    cases identity' with
    | host | network => simp [entryOf, Confused]
    | hostgroup =>
      cases type <;> simp only at agrees
      cases type' <;> simp only at agrees'
      simp [entryOf, Confused, directionText_inj]
      grind

/-- For two keys that occur, the indexes rule out two active incidents exactly when the keys are
equal, unless the keys are confused; and a row whose key is neither held by an active incident nor
confused with one of theirs can be inserted. -/
theorem active_rule_iff (pg : Postgres) (lib : Library) (reads : pg.ReadsBack lib.showAddr)
    (k : CorrelationKey) (carried : Carried k) (row : IncidentRow) (hrow : ActiveRow lib k row) :
    (∀ k' row', Carried k' → ActiveRow lib k' row' →
      ((Collides pg row row' ↔ k = k') ↔ ¬ Confused k k')) ∧
    (∀ table : List IncidentRow,
      (∀ row' ∈ table, ∃ k', Carried k' ∧ ActiveRow lib k' row' ∧ k ≠ k' ∧ ¬ Confused k k') →
      ∀ row' ∈ table, ¬ Collides pg row row') := by
  have collides_iff : ∀ k' row', Carried k' → ActiveRow lib k' row' →
      (Collides pg row row' ↔ k = k' ∨ Confused k k') := by
    intro k' row' carried' hrow'
    have agrees := agrees_of_carried carried
    have agrees' := agrees_of_carried carried'
    rw [← entryOf_eq_iff agrees agrees']
    unfold Collides
    rw [indexEntry_activeRow reads agrees hrow, indexEntry_activeRow reads agrees' hrow']
    constructor
    · rintro ⟨entry, h, h'⟩
      exact Option.some.inj (h.trans h'.symm)
    · intro h
      exact ⟨entryOf k, rfl, congrArg some h.symm⟩
  constructor
  · intro k' row' carried' hrow'
    rw [collides_iff k' row' carried' hrow']
    constructor
    · intro h confused
      cases h.mp (Or.inr confused)
      exact not_confused_self k confused
    · intro h
      exact ⟨fun hor => hor.resolve_right h, Or.inl⟩
  · intro table free row' hmem hcollides
    obtain ⟨k', carried', hrow', hne, hconfused⟩ := free row' hmem
    rcases (collides_iff k' row' carried' hrow').mp hcollides with heq | hc
    · exact hne heq
    · exact hconfused hc

def sampleRequest (name : String) (family : AddressFamily) : ManualIncident where
  title := "attack"
  description := none
  severity := .major
  priority := none
  targetType := .hostgroupTotal
  targetIdentity := .hostgroup name
  direction := .incoming
  addressFamily := family

def sampleKey (name : String) (family : AddressFamily) : CorrelationKey :=
  (sampleRequest name family).correlationKey "acme"

theorem sampleKey_carried (valid : (sampleRequest name family).validate = .ok ()) :
    Carried (sampleKey name family) :=
  .manual (sampleRequest name family) "acme" valid

theorem sixteen_zeros : (List.replicate 16 (0 : Fin 256)).length = 16 := rfl

def sampleIncident (name : String) (family : AddressFamily) : Incident :=
  (Commits.Commit.openManualIncident ⟨"acme", .operator "ann", []⟩ (sampleRequest name family)
    ⟨List.replicate 16 0, sixteen_zeros⟩ "WNM-2026-000001" ⟨0⟩).incident

theorem sampleRow_active (name : String) (family : AddressFamily) :
    ∃ row, ActiveRow sampleLibrary (sampleKey name family) row := by
  have written : ∃ row, fromIncident sampleLibrary (sampleIncident name family) = .ok row :=
    ⟨_, rfl⟩
  obtain ⟨row, hrow⟩ := written
  exact ⟨row, sampleIncident name family, ⟨rfl, rfl⟩, (by decide : Active .open_), hrow⟩

noncomputable def networkText (value : IpAddr × Nat) : List Char :=
  (numberText _ value.1).toList ++ '/' :: (toString value.2).toList

theorem slash_not_mem (a : IpAddr) : '/' ∉ (numberText _ a).toList := by
  intro h
  rw [numberText, Nat.toString_eq_repr, Nat.toList_repr] at h
  cases Text.isDigit_toDigits h

open Classical in
/-- A database that reads both forms back. -/
noncomputable def samplePostgres : Postgres where
  inet text :=
    if h : ∃ a, numberText IpAddr a = text then some (h.choose, maxLength h.choose)
    else if h : ∃ value, networkText value = text.toList then some h.choose
    else none

theorem samplePostgres_readsBack : samplePostgres.ReadsBack sampleLibrary.showAddr where
  address a := by
    have h : ∃ b, numberText IpAddr b = numberText _ a := ⟨a, rfl⟩
    have hchosen : h.choose = a := numberText_injective _ h.choose_spec
    unfold samplePostgres sampleLibrary
    dsimp only
    rw [dif_pos h, hchosen]
  network a length _ := by
    have htext : (numberText _ a ++ "/" ++ toString length).toList = networkText (a, length) := by
      simp [networkText]
    have hbare : ¬ ∃ b, numberText IpAddr b = numberText _ a ++ "/" ++ toString length := by
      rintro ⟨b, hb⟩
      refine slash_not_mem b ?_
      rw [hb, htext]
      simp [networkText]
    have h : ∃ value, networkText value = networkText (a, length) := ⟨(a, length), rfl⟩
    have hchosen : h.choose = (a, length) := by
      obtain ⟨haddr, hlength⟩ :=
        split_at_first (slash_not_mem _) (slash_not_mem _) h.choose_spec
      refine Prod.ext (numberText_injective _ (String.toList_injective haddr)) ?_
      exact Nat.repr_inj.mp (String.toList_injective hlength)
    unfold samplePostgres sampleLibrary
    dsimp only
    rw [dif_neg hbare, htext, dif_pos h, hchosen]

/-- The incidents of two host groups have different keys, and the rows do not keep each other
out; a second row of the same group is kept out. -/
theorem active_rule_iff_hostgroup : ∃ row other,
    ActiveRow sampleLibrary (sampleKey "web" .ipv4) row ∧
    ActiveRow sampleLibrary (sampleKey "db" .ipv4) other ∧
    Collides samplePostgres row row ∧ ¬ Collides samplePostgres row other := by
  obtain ⟨row, hrow⟩ := sampleRow_active "web" .ipv4
  obtain ⟨other, hother⟩ := sampleRow_active "db" .ipv4
  have rule := (active_rule_iff samplePostgres sampleLibrary samplePostgres_readsBack
    (sampleKey "web" .ipv4) (sampleKey_carried (by decide)) row hrow).1
  have hsame := (rule _ row (sampleKey_carried (by decide)) hrow).mpr (not_confused_self _)
  have hdiffer := (rule _ other (sampleKey_carried (by decide)) hother).mpr (by
    rintro ⟨-, -, ⟨_, _, _, h, -⟩ | ⟨_, -, -, h⟩⟩
    · cases h
    · exact h rfl)
  exact ⟨row, other, hrow, hother, hsame.mpr rfl, fun h => absurd (hdiffer.mp h) (by decide)⟩

/-- The incidents of one host group in the two families have different keys, and no database
takes both of their rows. -/
theorem hostgroup_families_collide : ∃ k k', Carried k ∧ Carried k' ∧ k ≠ k' ∧
    (∃ row, ActiveRow sampleLibrary k row) ∧ (∃ row', ActiveRow sampleLibrary k' row') ∧
    ∀ pg row row', ActiveRow sampleLibrary k row → ActiveRow sampleLibrary k' row' →
      Collides pg row row' := by
  refine ⟨sampleKey "web" .ipv4, sampleKey "web" .ipv6, sampleKey_carried (by decide),
    sampleKey_carried (by decide), by decide, sampleRow_active _ _, sampleRow_active _ _, ?_⟩
  rintro pg row row' ⟨i, ⟨-, hkey⟩, active, hrow⟩ ⟨i', ⟨-, hkey'⟩, active', hrow'⟩
  have entry : ∀ family i row, sampleKey "web" family =
      ⟨i.tenantId, i.targetType, i.targetIdentity, i.direction, i.addressFamily⟩ →
      Active i.state → fromIncident sampleLibrary i = .ok row →
      indexEntry pg row = some (.hostgroup "acme" "web" "incoming") := by
    intro family i row hkey active hrow
    have columns := indexedColumns_of_row hrow
    have htarget := columns.target
    injection hkey with htenant htype hidentity hdirection hfamily
    rw [← hidentity] at htarget
    simp only [sampleRequest, targetColumns, Prod.mk.injEq] at htarget
    unfold indexEntry
    rw [columns.state, if_neg (stateText_active active), columns.targetType, columns.tenantId,
      columns.direction, htarget.2.2, ← htenant, ← hidentity, ← hdirection]
    rfl
  exact ⟨_, entry .ipv4 i row hkey active hrow, entry .ipv6 i' row' hkey' active' hrow'⟩

end Tidegard.IncidentPostgres.Proofs.ActiveRule
