import Tidegard.Incident.UnitOfWork

namespace Tidegard.IncidentPostgres.Inbox

open Tables Runs Detector.Event Incident.Basics Incident.Record Incident.Store Incident.UnitOfWork

inductive Status where
  | pending
  | retrying
  | processed
  | deadLetter
  deriving DecidableEq

/-- The statuses a worker may claim and settle. -/
def Status.isOpen : Status → Bool
  | .pending | .retrying => true
  | .processed | .deadLetter => false

abbrev InboxId := Nat
abbrev WorkerId := String

/-- A row of `detection_event_inbox`. Times are microseconds since the epoch. -/
structure InboxRow where
  tenantId : TenantId
  dedupKey : String
  payload : String
  status : Status := .pending
  attempts : Nat := 0
  availableAt : Int
  lockedAt : Option Int := none
  lockedBy : Option WorkerId := none
  lastError : Option String := none
  outcome : Option IngestOutcomeKind := none
  deriving DecidableEq

/-- A row of `incident_dead_letter` copied from the inbox. -/
structure DeadLetter where
  tenantId : TenantId
  dedupKey : String
  payload : String
  failureReason : String
  attempts : Nat
  deriving DecidableEq

/-- An event a worker holds the lease on: the columns the claim returns. -/
structure ClaimedEvent where
  inboxId : InboxId
  tenantId : TenantId
  dedupKey : String
  payload : String
  attempts : Nat
  deriving DecidableEq

inductive PersistError where
  | rejected (e : IncidentError)
  | unrepresentable (field : String)
  | versionConflict
  | activeIncident
  | dedupTaken
  | incidentIdTaken
  | domainInvariant (detail : String)
  | corrupt (field : String)
  -- the connection was lost, or the database failed otherwise
  | database
  deriving DecidableEq

/-- Whether rerunning the call from a fresh load may succeed. -/
def PersistError.isRetryable : PersistError → Bool
  | .versionConflict | .activeIncident | .dedupTaken => true
  | _ => false

/-- The serialization of events and the texts of errors, and how often a call is rerun. -/
structure Setting where
  encode : DetectionEvent → String
  decode : String → Except String DetectionEvent
  domainText : IncidentError → String
  persistText : PersistError → String
  maxAttempts : Nat := 3

def newRow (setting : Setting) (tenant : TenantId) (now : Int) (event : DetectionEvent) :
    InboxRow where
  tenantId := tenant
  dedupKey := event.dedupKey
  payload := setting.encode event
  availableAt := now

def insertNew (tenant : TenantId) (now : Int) (setting : Setting)
    (tables : InboxId × Table InboxId InboxRow) (event : DetectionEvent) :
    InboxId × Table InboxId InboxRow :=
  if tables.2.toList.any fun e => e.2.tenantId = tenant && e.2.dedupKey = event.dedupKey then tables
  else (tables.1 + 1, tables.2.insert tables.1 (newRow setting tenant now event))

/-- One statement: all the events, or none if one of them is another tenant's. -/
def enqueue (setting : Setting) (tenant : TenantId) (events : List DetectionEvent) (now : Int)
    (tables : InboxId × Table InboxId InboxRow) :
    Except PersistError (InboxId × Table InboxId InboxRow) :=
  if events.any fun event => event.target.tenant ≠ tenant then .error (.rejected .tenantMismatch)
  else if events.any fun event => decide (2 ^ 31 ≤ event.schemaVersion) then
    .error (.unrepresentable "schema_version")
  else .ok (events.foldl (insertNew tenant now setting) tables)

structure InboxPolicy where
  batchSize : Nat := 100
  lease : Nat := 60000000
  maxAttempts : Nat := 10
  deriving DecidableEq

structure InboxWorker where
  workerId : WorkerId
  policy : InboxPolicy := {}
  deriving DecidableEq

def claimable (lease : Nat) (now : Int) (row : InboxRow) : Bool :=
  row.status.isOpen && decide (row.availableAt ≤ now) &&
    match row.lockedAt with
    | none => true
    | some lockedAt => decide (lockedAt + lease ≤ now)

/-- Up to a batch of claimable rows in the order of their ids. Rows that another transaction has
locked at the moment are skipped. -/
def claimed (w : InboxWorker) (now : Int) (skipped : InboxId → Bool)
    (inbox : Table InboxId InboxRow) : List (InboxId × InboxRow) :=
  (inbox.toList.filter fun e => claimable w.policy.lease now e.2 && !skipped e.1).take
    w.policy.batchSize

def lock (w : InboxWorker) (now : Int) (ids : List InboxId) (inbox : Table InboxId InboxRow) :
    Table InboxId InboxRow :=
  inbox.map fun id row =>
    if id ∈ ids then { row with lockedAt := some now, lockedBy := some w.workerId } else row

def claimedEvent (e : InboxId × InboxRow) : ClaimedEvent :=
  ⟨e.1, e.2.tenantId, e.2.dedupKey, e.2.payload, e.2.attempts⟩

/-- The condition of every statement that settles a row. -/
def InboxRow.heldBy (row : InboxRow) (worker : WorkerId) : Bool :=
  decide (row.lockedBy = some worker) && row.status.isOpen

def InboxRow.processed (row : InboxRow) (outcome : IngestOutcomeKind) : InboxRow :=
  { row with
    status := .processed, outcome := some outcome, lockedAt := none, lockedBy := none
    lastError := none }

/-- `false` if the worker no longer holds the row. -/
def markProcessed (worker : WorkerId) (id : InboxId) (outcome : IngestOutcomeKind)
    (inbox : Table InboxId InboxRow) : Bool × Table InboxId InboxRow :=
  match inbox[id]? with
  | none => (false, inbox)
  | some row =>
    if row.heldBy worker then (true, inbox.insert id (row.processed outcome)) else (false, inbox)

inductive FailureOutcome where
  | retrying (attempts : Nat)
  | deadLettered (attempts : Nat)
  | leaseLost
  deriving DecidableEq

def InboxRow.retried (row : InboxRow) (attempts : Nat) (error : String) (availableAt : Int) :
    InboxRow :=
  { row with
    status := .retrying, attempts, lastError := some error, lockedAt := none, lockedBy := none
    availableAt }

def InboxRow.deadLettered (row : InboxRow) (attempts : Nat) (error : String) : InboxRow :=
  { row with
    status := .deadLetter, attempts, lastError := some error, lockedAt := none, lockedBy := none }

def deadLetterOf (row : InboxRow) (error : String) (attempts : Nat) : DeadLetter :=
  ⟨row.tenantId, row.dedupKey, row.payload, error, attempts⟩

/-- One transaction: the failed attempt is counted, and the row scheduled again or copied to the
dead letters and marked. -/
def fail (w : InboxWorker) (id : InboxId) (error : String) (poison : Bool) (now : Int)
    (backoff : Nat) (inbox : Table InboxId InboxRow) (deadLetters : List DeadLetter) :
    Except PersistError (FailureOutcome × Table InboxId InboxRow × List DeadLetter) :=
  match inbox[id]? with
  | none => .ok (.leaseLost, inbox, deadLetters)
  | some row =>
    if !row.heldBy w.workerId then .ok (.leaseLost, inbox, deadLetters)
    else if 2 ^ 31 ≤ row.attempts + 1 then .error (.corrupt "attempts")
    else
      let attempts := row.attempts + 1
      if poison || decide (max w.policy.maxAttempts 1 ≤ attempts) then
        .ok (.deadLettered attempts, inbox.insert id (row.deadLettered attempts error),
          deadLetters ++ [deadLetterOf row error attempts])
      else
        .ok (.retrying attempts, inbox.insert id (row.retried attempts error (now + backoff)),
          deadLetters)

deriving instance DecidableEq for Incident

/-- What a call changed in the store it was given: each incident with the version it was loaded
with, if it was, and the links of events to incidents. -/
structure ChangeSet where
  incidents : List (IncidentId × Incident × Option Nat)
  dedupRecords : List ((TenantId ×ₗ String) × IncidentId)
  timeline : List TimelineEntry
  audit : List AuditEntry
  outbox : List OutboxMessage

/-- An incident that was reached but left as it was is not listed: rewriting it changes nothing. -/
def intoChanges (loaded after : InMemoryIncidentStore) : ChangeSet where
  incidents := (after.incidents.toList.filter fun e => loaded.incidents[e.1]? ≠ some e.2).map
    fun e => (e.1, e.2, loaded.incidents[e.1]?.map Incident.version)
  dedupRecords := after.dedupSeen.toList.filter fun e => loaded.dedupSeen[e.1]? ≠ some e.2
  timeline := after.timeline.drop loaded.timeline.length
  audit := after.audit.drop loaded.audit.length
  outbox := after.outbox.drop loaded.outbox.length

/-- The row of an incident, under the version guard, the primary key and the unique index of active
incidents. -/
def writeIncident (store : InMemoryIncidentStore) (change : IncidentId × Incident × Option Nat) :
    Except PersistError InMemoryIncidentStore :=
  let (id, incident, loadedVersion) := change
  let active := decide (incident.state ≠ .resolved ∧ incident.state ≠ .closed)
  let holder := store.openIndex[incident.correlationKey]?
  if loadedVersion = none ∧ store.incidents[id]?.isSome then .error .incidentIdTaken
  else if loadedVersion.isSome ∧ store.incidents[id]?.map Incident.version ≠ loadedVersion then
    .error .versionConflict
  else if active ∧ holder ≠ none ∧ holder ≠ some id then .error .activeIncident
  else
    .ok { store with
      incidents := store.incidents.insert id incident
      openIndex :=
        if active then store.openIndex.insert incident.correlationKey id
        else if holder = some id then store.openIndex.erase incident.correlationKey
        else store.openIndex }

/-- The link of an event to an incident, unique on the tenant and the deduplication key. -/
def writeLink (store : InMemoryIncidentStore) (link : (TenantId ×ₗ String) × IncidentId) :
    Except PersistError InMemoryIncidentStore :=
  if store.dedupSeen[link.1]?.isSome then .error .dedupTaken
  else .ok { store with dedupSeen := store.dedupSeen.insert link.1 link.2 }

def flush (changes : ChangeSet) (store : InMemoryIncidentStore) :
    Except PersistError InMemoryIncidentStore := do
  let store ← changes.incidents.foldlM writeIncident store
  let store ← changes.dedupRecords.foldlM writeLink store
  return { store with
    timeline := store.timeline ++ changes.timeline
    audit := store.audit ++ changes.audit
    outbox := store.outbox ++ changes.outbox }

def correlator (tenant : TenantId) : AuthorizationContext where
  tenant := tenant
  actor := .system
  granted := [.incidentIngest]

/-- One attempt: the domain call on what was loaded when the transaction began, and the flush onto
the tables as they are when it commits. A refusal by the domain is committed too. -/
def ingestAttempt (env : Env) (tenant : TenantId) (event : DetectionEvent)
    (loaded current : IncidentUnitOfWork) :
    Except PersistError (Except IncidentError IngestResult × IncidentUnitOfWork) :=
  let called := ingestDetectionEvent (correlator tenant) event env ⟨loaded, 0⟩
  match called.1 with
  | .error (.internalInvariantViolation detail) => .error (.domainInvariant detail)
  | outcome =>
    match flush (intoChanges loaded.store called.2.uow.store) current.store with
    | .error e => .error e
    | .ok store => .ok (outcome, { current with store })

/-- Where a worker stands in its batch. With nothing left it is between batches. -/
inductive Phase where
  | batch (queue : List ClaimedEvent)
  -- the ingest transaction has begun, and loaded what it decides on
  | ingesting (event : ClaimedEvent) (detection : DetectionEvent) (loaded : IncidentUnitOfWork)
    (attempt : Nat) (queue : List ClaimedEvent)
  -- the ingest was committed
  | ingested (event : ClaimedEvent) (outcome : IngestOutcomeKind) (queue : List ClaimedEvent)
  | failing (event : ClaimedEvent) (error : String) (poison : Bool) (queue : List ClaimedEvent)

/-- The tables, and the workers that run on them. -/
structure State where
  nextId : InboxId := 0
  inbox : Table InboxId InboxRow := ∅
  deadLetters : List DeadLetter := []
  incidents : IncidentUnitOfWork
  workers : WorkerId → Phase := fun _ => .batch []

def State.setPhase (s : State) (worker : WorkerId) (phase : Phase) : State :=
  { s with workers := Function.update s.workers worker phase }

/-- What becomes of a commit: it is answered, or the connection is lost before it or after it. -/
inductive Fate where
  | committed
  | lostBefore
  | lostAfter
  deriving DecidableEq

/-- One step of the producer or of one worker. A worker that crashes, or whose batch stops at a
database error, starts again with nothing claimed. -/
inductive Input where
  | enqueue (tenant : TenantId) (events : List DetectionEvent) (now : Int)
  | claim (worker : InboxWorker) (now : Int) (skipped : InboxId → Bool)
  | startIngest (worker : WorkerId)
  | commitIngest (worker : WorkerId) (env : Env) (fate : Fate)
  | markProcessed (worker : WorkerId)
  | fail (worker : InboxWorker) (now : Int) (backoff : Nat)
  | crash (worker : WorkerId)

def Input.worker : Input → Option WorkerId
  | .enqueue .. => none
  | .claim w .. | .fail w .. => some w.workerId
  | .startIngest w | .commitIngest w .. | .markProcessed w | .crash w => some w

/-- A transaction that failed is begun again, if that may help. -/
def rerun (setting : Setting) (s : State) (event : ClaimedEvent) (detection : DetectionEvent)
    (attempt : Nat) (queue : List ClaimedEvent) (e : PersistError) : Phase :=
  if e.isRetryable && decide (attempt < setting.maxAttempts) then
    .ingesting event detection s.incidents (attempt + 1) queue
  else .failing event ("incident.persistence: " ++ setting.persistText e) false queue

def commitIngest (setting : Setting) (s : State) (worker : WorkerId) (env : Env) (fate : Fate)
    (event : ClaimedEvent) (detection : DetectionEvent) (loaded : IncidentUnitOfWork)
    (attempt : Nat) (queue : List ClaimedEvent) : State :=
  let lost := .failing event ("incident.persistence: " ++ setting.persistText .database) false queue
  match fate, ingestAttempt env event.tenantId detection loaded s.incidents with
  | .lostBefore, _ => s.setPhase worker lost
  | _, .error e => s.setPhase worker (rerun setting s event detection attempt queue e)
  | .lostAfter, .ok (_, incidents) => { s with incidents }.setPhase worker lost
  | .committed, .ok (.ok result, incidents) =>
    { s with incidents }.setPhase worker (.ingested event result.outcomeKind queue)
  | .committed, .ok (.error domain, incidents) =>
    { s with incidents }.setPhase worker (.failing event (setting.domainText domain) false queue)

def next (setting : Setting) (s : State) : Input → State
  | .enqueue tenant events now =>
    match enqueue setting tenant events now (s.nextId, s.inbox) with
    | .error _ => s
    | .ok (nextId, inbox) => { s with nextId, inbox }
  | .claim w now skipped =>
    match s.workers w.workerId with
    | .batch [] =>
      let taken := claimed w now skipped s.inbox
      { s with inbox := lock w now (taken.map Prod.fst) s.inbox }.setPhase w.workerId
        (.batch (taken.map claimedEvent))
    | _ => s
  | .startIngest worker =>
    match s.workers worker with
    | .batch (event :: queue) =>
      match setting.decode event.payload with
      | .error error =>
        s.setPhase worker
          (.failing event ("incident.inbox_unreadable_payload: " ++ error) true queue)
      | .ok detection => s.setPhase worker (.ingesting event detection s.incidents 1 queue)
    | _ => s
  | .commitIngest worker env fate =>
    match s.workers worker with
    | .ingesting event detection loaded attempt queue =>
      commitIngest setting s worker env fate event detection loaded attempt queue
    | _ => s
  | .markProcessed worker =>
    match s.workers worker with
    | .ingested event outcome queue =>
      { s with inbox := (markProcessed worker event.inboxId outcome s.inbox).2 }.setPhase worker
        (.batch queue)
    | _ => s
  | .fail w now backoff =>
    match s.workers w.workerId with
    | .failing event error poison queue =>
      match fail w event.inboxId error poison now backoff s.inbox s.deadLetters with
      | .error _ => s.setPhase w.workerId (.batch [])
      | .ok (_, inbox, deadLetters) =>
        { s with inbox, deadLetters }.setPhase w.workerId (.batch queue)
    | _ => s
  | .crash worker => s.setPhase worker (.batch [])

/-- Producers and workers in any order, one transaction at a time. -/
def machine (setting : Setting) : Machine State Input Unit where
  step s i := ((), next setting s i)

end Tidegard.IncidentPostgres.Inbox
