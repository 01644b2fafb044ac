import Tidegard.Mitigation.Mitigation
import Tidegard.Mitigator.Route

namespace Tidegard.IncidentPostgres.Mitigation

open Common Text Tables Incident.Basics Mitigation.Prefix Mitigation.Guard
open Mitigation.Mitigation

/-- A row of `mitigations`. Times are microseconds since the epoch. -/
structure Row where
  record : MitigationRecord
  createdAt : Int
  expiresAt : Option Int
  deriving DecidableEq

/-- The row of `mitigation_controls`. -/
structure KillSwitch where
  engaged : Bool := false
  version : Nat := 1
  changedBy : Option Actor := none
  reason : Option String := none
  deriving DecidableEq

/-- A row of `incident_idempotency`, which incidents and mitigations share. -/
structure IdempotencyRow where
  operation : String
  resourceType : String
  resourceId : Option String
  fingerprint : String
  expiresAt : Int
  deriving DecidableEq

/-- A row is kept under the id of its record. -/
def Keyed (mitigations : Table MitigationId Row) : Prop :=
  ∀ (id : MitigationId) (row : Row), mitigations[id]? = some row → row.record.id = id

theorem keyed_empty : Keyed ∅ := by
  intro id row h
  simp at h

theorem keyed_insert {mitigations : Table MitigationId Row} (h : Keyed mitigations) (row : Row) :
    Keyed (mitigations.insert row.record.id row) :=
  fun _ _ => forall_insert h rfl

structure Database where
  mitigations : Table MitigationId Row := ∅
  keyed : Keyed mitigations := by exact keyed_empty
  controls : KillSwitch := {}
  idempotency : Table (TenantId ×ₗ String) IdempotencyRow := ∅

inductive PersistError where
  | unrepresentable (field : String)
  | idempotencyKeyTaken
  -- what the database or the connection answers
  | database
  deriving DecidableEq

inductive MitigationStoreError where
  | mitigation (e : MitigationError)
  | idempotencyMismatch
  | persist (e : PersistError)
  deriving DecidableEq

/-- What a call on the store answers at a time, and the tables it leaves. -/
abbrev Call (α : Type) := Int → Database → Except MitigationStoreError α × Database

def micros (seconds : Nat) : Int := 1000000 * seconds

def wholeSeconds (duration : Nat) : Nat := duration / 1000000000

/-- The schema has no actor type for a platform actor. -/
def actorColumns (field : String) : Actor → Except MitigationStoreError Unit
  | .platform _ => .error (.persist (.unrepresentable field))
  | _ => .ok ()

/-- The column holds people and service accounts only. -/
def approverColumns : Option Actor → Except MitigationStoreError Unit
  | some (.platform _) => .error (.persist (.unrepresentable "approved_by"))
  | some .system => .error (.persist .database)
  | _ => .ok ()

def versionColumn (version : Nat) : Except MitigationStoreError Unit :=
  if version < 2 ^ 63 then .ok () else .error (.persist (.unrepresentable "version"))

def durationSeconds (duration : Nat) : Except MitigationStoreError Unit :=
  if wholeSeconds duration < 2 ^ 31 then .ok ()
  else .error (.persist (.unrepresentable "duration"))

/-- A refusal is audited before it is passed on. -/
def refused {α : Type} (ctx : AuthorizationContext) (e : MitigationError) :
    Except MitigationStoreError α :=
  match e with
  | .forbidden _ | .selfApproval | .refused _ =>
    match actorColumns "actor" ctx.actor with
    | .ok () => .error (.mitigation e)
    | .error persist => .error persist
  | _ => .error (.mitigation e)

def guarded (guard : Guard) (record : MitigationRecord) (killSwitch : Bool) :
    Except MitigationError Unit :=
  match guard.check record.tenant record.target record.action record.duration killSwitch with
  | .ok () => .ok ()
  | .error refusal => .error (.refused refusal)

/-- Another tenant's mitigation does not exist. -/
def load (ctx : AuthorizationContext) (id : MitigationId) (db : Database) :
    Except MitigationStoreError MitigationRecord :=
  match db.mitigations[id]? with
  | some row => if row.record.tenant = ctx.tenant then .ok row.record else .error (.mitigation .notFound)
  | none => .error (.mitigation .notFound)

def checkVersion (expected : Option Nat) (loaded : Nat) : Except MitigationStoreError Unit :=
  match expected with
  | some expected =>
    if expected = loaded then .ok () else .error (.mitigation (.versionConflict loaded))
  | none => .ok ()

/-- Approval and announcing are the last moments before a route exists: the guard decides again,
under the configuration in force and the switch as it stands. -/
def checked (guard : Guard) (ctx : AuthorizationContext) (command : Command) (killSwitch : Bool)
    (record : MitigationRecord) : Decision := do
  let (record, transition) ← carryOut ctx command record
  if transition.toState = .approved ∨ transition.toState = .announcing then
    guarded guard record killSwitch
  return (record, transition)

/-- The record a command leaves, or why it is refused. -/
def changed (guard : Guard) (ctx : AuthorizationContext) (id : MitigationId)
    (expectedVersion : Option Nat) (command : Command) (db : Database) :
    Except MitigationStoreError MitigationRecord := do
  let loaded ← load ctx id db
  checkVersion expectedVersion loaded.version
  match checked guard ctx command db.controls.engaged loaded with
  | .error e => refused ctx e
  | .ok (record, transition) =>
    approverColumns record.approvedBy
    versionColumn record.version
    actorColumns "actor" transition.actor
    return record

/-- The duration runs from the moment the mitigation becomes active. -/
def Database.update (db : Database) (now : Int) (record : MitigationRecord) : Database :=
  match db.mitigations[record.id]? with
  | none => db
  | some row =>
    let expiresAt := if record.state = .active then some (now + micros (wholeSeconds record.duration))
      else row.expiresAt
    { db with
      mitigations := db.mitigations.insert record.id { row with record, expiresAt }
      keyed := keyed_insert db.keyed { row with record, expiresAt } }

/-- One transaction: a refused or failed change leaves the tables as they were. -/
def changeRecording (guard : Guard) (ctx : AuthorizationContext) (id : MitigationId)
    (expectedVersion : Option Nat) (command : Command) : Call MitigationRecord := fun now db =>
  match changed guard ctx id expectedVersion command db with
  | .error e => (.error e, db)
  | .ok record => (.ok record, db.update now record)

section Commands

variable (guard : Guard) (ctx : AuthorizationContext) (id : MitigationId)

def approve (expectedVersion : Nat) : Call MitigationRecord :=
  changeRecording guard ctx id (some expectedVersion) (.approve guard.config.allowSelfApproval)

def reject (expectedVersion : Nat) (reason : String) : Call MitigationRecord :=
  changeRecording guard ctx id (some expectedVersion) (.reject reason)

def withdraw (expectedVersion : Nat) (reason : String) : Call MitigationRecord :=
  changeRecording guard ctx id (some expectedVersion) (.withdraw reason)

def beginAnnouncing (dryRun : Bool) : Call MitigationRecord :=
  changeRecording guard ctx id none (.beginAnnouncing dryRun)

def markActive : Call MitigationRecord := changeRecording guard ctx id none .markActive

def markFailed (error : String) : Call MitigationRecord :=
  changeRecording guard ctx id none (.markFailed error)

def beginWithdrawal (cause : WithdrawalCause) : Call MitigationRecord :=
  changeRecording guard ctx id none (.beginWithdrawal cause)

def markWithdrawn : Call MitigationRecord := changeRecording guard ctx id none .markWithdrawn

def expire : Call MitigationRecord := changeRecording guard ctx id none .expire

end Commands

def idempotencyKeyMin : Nat := 16
def idempotencyKeyMax : Nat := 255
def retention : Int := micros (24 * 3600)

def checkKey : Option String → Except MitigationStoreError Unit
  | some key =>
    if idempotencyKeyMin ≤ key.utf8ByteSize ∧ key.utf8ByteSize ≤ idempotencyKeyMax then .ok ()
    else .error (.mitigation (.invalid "an idempotency key is 16 to 255 characters"))
  | none => .ok ()

/-- The exact request, for comparison. -/
def fingerprint (showAddr : IpAddr → String) (lower : String → String) (operation : String)
    (request : MitigationRequest) : String :=
  operation ++ "\n" ++ request.action.duplicateKey showAddr request.target ++ "\n" ++
    (match Mitigator.Route.bytesPerSecond request.action with
      | some rate => toString rate
      | none => "") ++ "\n" ++
    trim request.reason ++ "\n" ++ toString (wholeSeconds request.duration) ++ "\n" ++
    lower (request.incidentId.getD "") ++ "\n" ++ request.target.toText showAddr

/-- Another live mitigation has the key. -/
def Database.hasLive (showAddr : IpAddr → String) (db : Database) (key : String) : Bool :=
  db.mitigations.toList.any fun e =>
    !e.2.record.state.isTerminal && e.2.record.duplicateKey showAddr == key

/-- Durations are kept in whole seconds. -/
def stored (record : MitigationRecord) : MitigationRecord :=
  { record with duration := fromSecs (wholeSeconds record.duration) }

/-- The recorded answer to a retry. -/
def replayed (fingerprint : String) (row : IdempotencyRow) (db : Database) :
    Except MitigationStoreError MitigationRecord :=
  if row.fingerprint ≠ fingerprint ∨ row.resourceType ≠ "mitigation" then
    .error .idempotencyMismatch
  else
    match db.mitigations[row.resourceId.getD ""]? with
    | some row => .ok row.record
    | none => .error (.mitigation .notFound)

def liveRow (db : Database) (tenant : TenantId) (key : String) (now : Int) :
    Option IdempotencyRow :=
  db.idempotency[toLex (tenant, key)]?.filter fun row => now < row.expiresAt

/-- The checks the insert makes, in the order the source makes them. -/
def insertable (showAddr : IpAddr → String) (db : Database) (record : MitigationRecord) :
    Except MitigationStoreError Unit := do
  actorColumns "requested_by" record.requestedBy
  durationSeconds record.duration
  if db.mitigations[record.id]?.isSome then .error (.persist .database)
  if db.hasLive showAddr (record.duplicateKey showAddr) then .error (.mitigation .duplicate)

def Database.create (db : Database) (now : Int) (record : MitigationRecord) : Database :=
  { db with
    mitigations := db.mitigations.insert record.id ⟨stored record, now, none⟩
    keyed := keyed_insert db.keyed ⟨stored record, now, none⟩ }

def Database.remember (db : Database) (now : Int) (tenant : TenantId) (operation fingerprint : String)
    (id : MitigationId) : Option String → Database
  | none => db
  | some key => { db with
      idempotency := db.idempotency.insert (toLex (tenant, key))
        ⟨operation, "mitigation", some id, fingerprint, now + retention⟩ }

/-- `lower` is the standard library's `to_lowercase`, and `id` comes from the generator. -/
def create (guard : Guard) (showAddr : IpAddr → String) (lower : String → String)
    (ctx : AuthorizationContext) (id : MitigationId) (request : MitigationRequest)
    (key : Option String) (propose : Bool) : Call MitigationRecord := fun now db =>
  let operation := if propose then "mitigation.propose" else "mitigation.request"
  let print := fingerprint showAddr lower operation request
  let built := if propose then Mitigation.Mitigation.propose ctx id request
    else Mitigation.Mitigation.request ctx id request
  match checkKey key with
  | .error e => (.error e, db)
  | .ok () =>
    match built with
    | .error e => (refused ctx e, db)
    | .ok (record, _) =>
      match guarded guard record db.controls.engaged with
      | .error e => (refused ctx e, db)
      | .ok () =>
        match key.bind fun key => liveRow db ctx.tenant key now with
        | some row => (replayed print row db, db)
        | none =>
          match insertable showAddr db record with
          | .error e => (.error e, db)
          | .ok () =>
            (.ok record, (db.create now record).remember now ctx.tenant operation print record.id key)

def switchReason (reason : String) : Except MitigationStoreError String :=
  let reason := trim reason
  if reason = "" ∨ maxReasonChars < reason.length ∨ reason.toList.any isControl then
    .error (.mitigation (.invalid
      "a reason of 1 to 1000 characters, without control characters, is required"))
  else .ok reason

def switched (ctx : AuthorizationContext) (engaged : Bool) (reason : String) (db : Database) :
    Except MitigationStoreError KillSwitch := do
  let permission : Permission :=
    if engaged then .mitigationKillSwitchEngage else .mitigationKillSwitchRelease
  if !ctx.has permission then refused ctx (.forbidden permission)
  else
    let reason ← switchReason reason
    actorColumns "actor" ctx.actor
    if db.controls.engaged = engaged then return db.controls
    else return ⟨engaged, db.controls.version + 1, some ctx.actor, some reason⟩

def setKillSwitch (ctx : AuthorizationContext) (engaged : Bool) (reason : String) :
    Call KillSwitch := fun _ db =>
  match switched ctx engaged reason db with
  | .error e => (.error e, db)
  | .ok controls => (.ok controls, { db with controls })

def killSwitch : Call KillSwitch := fun _ db => (.ok db.controls, db)

def maxPage : Nat := 500

structure WorkItem where
  record : MitigationRecord
  approvalExpired : Bool
  durationReached : Bool
  deriving DecidableEq

def workItem (window : Nat) (now : Int) (row : Row) : WorkItem where
  record := row.record
  approvalExpired :=
    row.record.state.awaitsApproval && decide (row.createdAt + micros window ≤ now)
  durationReached :=
    row.record.state = .active && row.expiresAt.any fun expiresAt => decide (expiresAt ≤ now)

/-- Live rows, oldest first; rows of one time stand in the order of their ids. -/
def Database.live (db : Database) : List Row :=
  ((db.mitigations.toList.map Prod.snd).filter fun row =>
    !row.record.state.isTerminal).insertionSort fun a b => a.createdAt ≤ b.createdAt

theorem mem_live {db : Database} :
    row ∈ db.live ↔ db.mitigations[row.record.id]? = some row ∧
      row.record.state.isTerminal = false := by
  unfold Database.live
  rw [List.mem_insertionSort, List.mem_filter, List.mem_map, Bool.not_eq_true']
  constructor
  · rintro ⟨⟨⟨id, row'⟩, hmem, rfl⟩, hlive⟩
    have hget := (mem_toList _ _ _).mp hmem
    have hid : row'.record.id = id := db.keyed id row' hget
    exact ⟨by rw [hid]; exact hget, hlive⟩
  · rintro ⟨hget, hlive⟩
    exact ⟨⟨(row.record.id, row), (mem_toList _ _ _).mpr hget, rfl⟩, hlive⟩

def work (guard : Guard) (limit : Nat) : Call (List WorkItem) := fun now db =>
  (.ok ((db.live.take (min (max limit 1) maxPage)).map
    (workItem guard.config.approvalWindowSeconds now)), db)

/-- An attacked host, from the incidents that meet the proposal policy, oldest first. -/
structure ProposalCandidate where
  tenant : TenantId
  incidentId : String
  target : Prefix
  severity : String
  deriving DecidableEq

/-- Those of the incidents that no mitigation was made for. -/
def proposalCandidates (incidents : List ProposalCandidate) (limit : Nat) :
    Call (List ProposalCandidate) := fun _ db =>
  (.ok ((incidents.filter fun c =>
    !db.mitigations.toList.any fun e => e.2.record.incidentId == some c.incidentId).take
      (min (max limit 1) maxPage)), db)

end Tidegard.IncidentPostgres.Mitigation
