import Tidegard.IncidentPostgres.Inbox

namespace Tidegard.IncidentPostgres.Producer

open Tables Runs Detector.Event Incident.Basics
open Inbox (Setting InboxId InboxRow enqueue)

structure ProducerPolicy where
  capacity : Nat := 10000
  batchSize : Nat := 500
  maxAttempts : Nat := 5
  deriving DecidableEq

def sinkName : String := "postgres_inbox"

inductive SinkError where
  | full (sink : String)
  | closed (sink : String)
  | backend (sink detail : String)
  deriving DecidableEq

structure DrainReport where
  enqueued : Nat := 0
  failedWrites : Nat := 0
  abandoned : Nat := 0
  deriving DecidableEq

/-- Where `run` stands. -/
inductive Phase where
  | flushing
  | acquiring
  | writing (batch : List DetectionEvent)
  | removing (batch : List DetectionEvent) (added : Nat)
  -- until the flush interval or the backoff is over, or shutdown is asked for
  | waiting
  | counting
  | returned

structure Config where
  tenant : TenantId
  policy : ProducerPolicy := {}
  inbox : Setting

/-- What the sink and the drain share, where each of them stands, and the inbox. -/
structure State where
  queue : List DetectionEvent := []
  closed : Bool := false
  droppedFull : Nat := 0
  refusedTenant : Nat := 0
  -- the publish calls that have passed the tests and not yet taken the lock
  passed : Nat → Option DetectionEvent := fun _ => none
  phase : Phase := .flushing
  attempts : Nat := 0
  report : DrainReport := {}
  tables : InboxId × Table InboxId InboxRow

/-- `publish` up to the lock. -/
def State.test (c : Config) (p : State) (event : DetectionEvent) : Option SinkError × State :=
  if p.closed then (some (.closed sinkName), p)
  else if event.target.tenant ≠ c.tenant then
    (some (.backend sinkName "the event targets a tenant this producer does not serve"),
      { p with refusedTenant := p.refusedTenant + 1 })
  else (none, p)

/-- `publish` from the lock on. -/
def State.push (c : Config) (p : State) (event : DetectionEvent) : Except SinkError Unit × State :=
  if max c.policy.capacity 1 ≤ p.queue.length then
    (.error (.full sinkName), { p with droppedFull := p.droppedFull + 1 })
  else (.ok (), { p with queue := p.queue ++ [event] })

/-- How a statement ends: `lost` is committed, but reported as failed. -/
inductive Reply where
  | stored
  | lost
  | failed
  deriving DecidableEq

/-- A failed write. Only those of the final flush are bounded. -/
def State.fail (c : Config) (p : State) : State :=
  let report := { p.report with failedWrites := p.report.failedWrites + 1 }
  if p.closed then
    { p with
      report
      attempts := p.attempts + 1
      phase := if max c.policy.maxAttempts 1 ≤ p.attempts + 1 then .counting else .waiting }
  else { p with report, phase := .waiting }

def State.write (c : Config) (p : State) (batch : List DetectionEvent) (reply : Reply)
    (now : Int) : State :=
  match reply, enqueue c.inbox c.tenant batch now p.tables with
  | .stored, .ok tables => { p with tables, phase := .removing batch (tables.1 - p.tables.1) }
  | .lost, .ok tables => State.fail c { p with tables }
  | _, _ => p.fail c

/-- What `run` meets at its next step, as far as that step asks for it. -/
structure Answer where
  connected : Bool := true
  reply : Reply := .stored
  now : Int := 0
  shutdown : Bool := false

def State.drain (c : Config) (p : State) (answer : Answer) : State :=
  match p.phase with
  | .flushing =>
    { p with phase :=
        if p.queue.isEmpty then if p.closed then .counting else .waiting else .acquiring }
  | .acquiring =>
    if answer.connected then
      { p with phase := .writing (p.queue.take (max c.policy.batchSize 1)) }
    else p.fail c
  | .writing batch => p.write c batch answer.reply answer.now
  | .removing batch added =>
    { p with
      queue := p.queue.drop batch.length
      report := { p.report with enqueued := p.report.enqueued + added }
      phase := .flushing }
  | .waiting => { p with closed := p.closed || answer.shutdown, phase := .flushing }
  | .counting =>
    { p with report := { p.report with abandoned := p.queue.length }, phase := .returned }
  | .returned => p

inductive Input where
  | publish (call : Nat) (event : DetectionEvent)
  | push (call : Nat)
  | drain (answer : Answer)

/-- Any number of publish calls beside one drain. A call answers at its last step. -/
def producer (c : Config) : Machine State Input (Option (Except SinkError Unit)) where
  step p
    | .publish call event =>
      if (p.passed call).isSome then (none, p)
      else match p.test c event with
        | (some e, p) => (some (.error e), p)
        | (none, p) => (none, { p with passed := Function.update p.passed call (some event) })
    | .push call =>
      match p.passed call with
      | none => (none, p)
      | some event =>
        let (result, q) := p.push c event
        (some result, { q with passed := Function.update q.passed call none })
    | .drain answer => (none, p.drain c answer)

end Tidegard.IncidentPostgres.Producer
