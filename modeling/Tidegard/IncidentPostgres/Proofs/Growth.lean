import Tidegard.IncidentPostgres.Mitigation

namespace Tidegard.IncidentPostgres.Proofs.Growth

open Common Fallible Tables Incident.Basics Mitigation.Prefix Mitigation.Action Mitigation.Guard
open Mitigation.Mitigation hiding approve reject withdraw beginAnnouncing markActive
  markFailed beginWithdrawal markWithdrawn expire create refused
open IncidentPostgres.Mitigation

variable {record : MitigationRecord}

/-- What a mitigation is about, which no command changes. -/
def about (m : MitigationRecord) : MitigationId × TenantId × Prefix × Action × Nat :=
  (m.id, m.tenant, m.target, m.action, m.duration)

section Commands

theorem apply_about (h : apply ctx permission next detail noted = (m', transition))
    (hnoted : about noted = about m) : about m' = about m := by
  cases h
  exact hnoted

theorem execute_about (h : execute ctx next detail noted = .ok (m', transition))
    (hnoted : about noted = about m) : about m' = about m := by
  simp only [execute, bind_eq_ok, pure_eq_ok] at h
  obtain ⟨-, -, -, -, h⟩ := h
  exact apply_about h hnoted

theorem takeDown_about
    (h : takeDown ctx permission cause reason m = .ok (m', transition)) : about m' = about m := by
  simp only [takeDown, bind_eq_ok, pure_eq_ok] at h
  obtain ⟨-, -, h⟩ := h
  exact apply_about h rfl

theorem carryOut_about (h : carryOut ctx command m = .ok (m', transition)) :
    about m' = about m := by
  cases command with
  | approve =>
    simp only [carryOut, Mitigation.Mitigation.approve, bind_eq_ok] at h
    obtain ⟨-, -, -, -, h⟩ := h
    split at h
    · cases h
    · exact apply_about (pure_eq_ok.mp h) rfl
  | reject =>
    simp only [carryOut, Mitigation.Mitigation.reject, bind_eq_ok, pure_eq_ok] at h
    obtain ⟨_, _, _, _, _, _, h⟩ := h
    exact apply_about h rfl
  | withdraw =>
    simp only [carryOut, Mitigation.Mitigation.withdraw, bind_eq_ok] at h
    obtain ⟨_, _, _, _, h⟩ := h
    exact takeDown_about h
  | beginWithdrawal =>
    simp only [carryOut, Mitigation.Mitigation.beginWithdrawal, bind_eq_ok] at h
    obtain ⟨-, -, h⟩ := h
    exact takeDown_about h
  | beginAnnouncing =>
    simp only [carryOut, Mitigation.Mitigation.beginAnnouncing, bind_eq_ok, pure_eq_ok] at h
    obtain ⟨-, -, -, -, h⟩ := h
    exact apply_about h rfl
  | markActive | markFailed | expire => exact execute_about h rfl
  | markWithdrawn =>
    simp only [carryOut, Mitigation.Mitigation.markWithdrawn] at h
    split at h
    · cases h
    · exact execute_about h rfl

end Commands

section Changes

variable {guard : Guard} {id : MitigationId}
variable {record : MitigationRecord}

theorem load_ok (h : load ctx id db = .ok record) :
    ∃ row, db.mitigations[id]? = some row ∧ row.record = record := by
  unfold load at h
  split at h
  · rename_i row hrow
    split at h
    · cases h
      exact ⟨row, hrow, rfl⟩
    · cases h
  · cases h

theorem changed_ok (h : changed guard ctx id expectedVersion command db = .ok record) :
    ∃ row transition, db.mitigations[id]? = some row ∧
      carryOut ctx command row.record = .ok (record, transition) ∧
      about record = about row.record ∧
      (transition.toState = .approved ∨ transition.toState = .announcing →
        guarded guard record db.controls.engaged = .ok ()) := by
  simp only [changed, bind_eq_ok] at h
  obtain ⟨loaded, hload, -, -, h⟩ := h
  obtain ⟨row, hrow, rfl⟩ := load_ok hload
  split at h
  · unfold IncidentPostgres.Mitigation.refused at h
    split at h
    · split at h <;> cases h
    · split at h <;> cases h
    · split at h <;> cases h
    · cases h
  · rename_i changed transition hchecked
    simp only [bind_eq_ok, pure_eq_ok] at h
    obtain ⟨-, -, -, -, -, -, rfl⟩ := h
    simp only [checked, bind_eq_ok] at hchecked
    obtain ⟨⟨decided, edge⟩, hcarry, hchecked⟩ := hchecked
    split at hchecked
    · rename_i hopens
      obtain ⟨_, hguard, hpure⟩ := bind_eq_ok.mp hchecked
      cases pure_eq_ok.mp hpure
      exact ⟨row, edge, hrow, hcarry, carryOut_about hcarry, fun _ => hguard⟩
    · rename_i hopens
      cases pure_eq_ok.mp hchecked
      exact ⟨row, edge, hrow, hcarry, carryOut_about hcarry, fun h => absurd h hopens⟩

theorem guarded_ok {killSwitch : Bool} (h : guarded guard record killSwitch = .ok ()) :
    guard.check record.tenant record.target record.action record.duration killSwitch = .ok () := by
  unfold guarded at h
  split at h
  · assumption
  · cases h

end Changes

/-- The database holds the mitigation, in whatever state. -/
def Present (db : Database) (m : MitigationRecord) : Prop :=
  ∃ row, db.mitigations[m.id]? = some row ∧ about row.record = about m

/-- No mitigation is lost, and none becomes about something else. -/
def Grown (db db' : Database) : Prop := ∀ m, Present db m → Present db' m

theorem Grown.refl (db : Database) : Grown db db := fun _ h => h

theorem Grown.trans (hab : Grown a b) (hbc : Grown b c) : Grown a c :=
  fun m h => hbc m (hab m h)

def Grows {α : Type} (call : Call α) : Prop := ∀ now db, Grown db (call now db).2

theorem grown_update (hrow : db.mitigations[record.id]? = some row)
    (habout : about record = about row.record) : Grown db (db.update now record) := by
  intro m ⟨held, hheld, hm⟩
  unfold Database.update
  rw [hrow]
  dsimp only
  by_cases hid : record.id = m.id
  · rw [← hid, hrow] at hheld
    cases hheld
    exact ⟨_, by rw [← hid]; exact get_insert_self _ _ _, habout.trans hm⟩
  · refine ⟨held, ?_, hm⟩
    dsimp only
    rw [get_insert_ne _ _ hid]
    exact hheld

theorem changeRecording_grows {guard : Guard} {id : MitigationId} :
    Grows (changeRecording guard ctx id expectedVersion command) := by
  intro now db
  unfold changeRecording
  split
  · exact Grown.refl db
  · rename_i record hchanged
    obtain ⟨row, transition, hrow, -, habout, -⟩ := changed_ok hchanged
    have hid : record.id = id := (congrArg Prod.fst habout).trans (db.keyed id row hrow)
    rw [← hid] at hrow
    exact grown_update hrow habout

theorem grown_create (h : insertable showAddr db record = .ok ()) :
    Grown db (db.create now record) := by
  have hfresh : ¬ db.mitigations[record.id]?.isSome = true := by
    intro hsome
    simp only [insertable, bind_eq_ok] at h
    obtain ⟨-, -, -, -, h⟩ := h
    rw [if_pos hsome] at h
    cases h
  intro m ⟨row, hrow, hm⟩
  refine ⟨row, ?_, hm⟩
  unfold Database.create
  dsimp only
  rw [get_insert_ne]
  · exact hrow
  · intro hid
    rw [hid, hrow] at hfresh
    exact hfresh rfl

theorem remember_mitigations {db : Database} {id : MitigationId} {key : Option String} :
    (db.remember now tenant operation print id key).mitigations = db.mitigations := by
  cases key <;> rfl

theorem create_grows {guard : Guard} {id : MitigationId} {request : MitigationRequest} :
    Grows (create guard showAddr lower ctx id request key proposing) := by
  intro now db
  unfold create
  dsimp only
  split
  · exact Grown.refl db
  split
  · exact Grown.refl db
  split
  · exact Grown.refl db
  split
  · exact Grown.refl db
  split
  · exact Grown.refl db
  · rename_i hinsert
    intro m hm
    obtain ⟨row, hrow, habout⟩ := grown_create hinsert m hm
    exact ⟨row, (congrArg (·[m.id]?) remember_mitigations).trans hrow, habout⟩

theorem setKillSwitch_grows : Grows (setKillSwitch ctx engaged reason) := by
  intro now db m hm
  unfold setKillSwitch
  split <;> exact hm

end Tidegard.IncidentPostgres.Proofs.Growth
