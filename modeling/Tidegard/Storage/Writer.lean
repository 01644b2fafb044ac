import Tidegard.Common
import Tidegard.Runs

namespace Tidegard.Storage.Writer

open Common Runs

variable {α : Type}

structure BatchConfig where
  maxRows : Nat := 10000
  maxInterval : Nat := fromSecs 5
  deriving DecidableEq

structure BatchQueue (α : Type) where
  config : BatchConfig
  rows : List α := []
  windowStart : Nat

def BatchQueue.push (q : BatchQueue α) (row : α) : BatchQueue α :=
  { q with rows := q.rows ++ [row] }

def BatchQueue.shouldFlush (q : BatchQueue α) (now : Nat) : Bool :=
  if q.rows.isEmpty then false
  else q.config.maxRows ≤ q.rows.length || q.config.maxInterval ≤ now - q.windowStart

def BatchQueue.take (q : BatchQueue α) (now : Nat) : List α × BatchQueue α :=
  (q.rows, { q with rows := [], windowStart := now })

structure RetryConfig where
  maxPendingBatches : Nat := 100
  initialBackoff : Nat := fromSecs 1
  maxBackoff : Nat := fromSecs 60
  maxAttempts : Nat := 5
  deriving DecidableEq

/-- Rows that are written together. The number tells batches apart and is not in the source: how
many were flushed before. -/
structure Batch (α : Type) where
  number : Nat
  rows : List α
  attempts : Nat
  deriving DecidableEq

structure PendingBatch (α : Type) extends Batch α where
  nextAttemptAt : Nat
  deriving DecidableEq

inductive EnqueueOutcome where
  | enqueued
  | enqueuedByDroppingOldest
  deriving DecidableEq

inductive RequeueOutcome where
  | requeued (outcome : EnqueueOutcome)
  | permanentlyDropped
  deriving DecidableEq

structure RetryQueue (α : Type) where
  config : RetryConfig
  pending : List (PendingBatch α) := []

def RetryQueue.takeDue (q : RetryQueue α) (now : Nat) : List (Batch α) × RetryQueue α :=
  ((q.pending.filter fun batch => batch.nextAttemptAt ≤ now).map PendingBatch.toBatch,
    { q with pending := q.pending.filter fun batch => ¬ batch.nextAttemptAt ≤ now })

/-- `Duration::MAX`. -/
def durationMax : Nat := u64Max * 1000000000 + 999999999

def backoff (config : RetryConfig) (attempts : Nat) : Nat :=
  min (min (config.initialBackoff * min (2 ^ attempts) (2 ^ 32 - 1)) durationMax) config.maxBackoff

def RetryQueue.requeueAfterFailure (q : RetryQueue α) (batch : Batch α) (now : Nat) :
    RequeueOutcome × RetryQueue α :=
  let attempts := batch.attempts + 1
  if q.config.maxAttempts ≤ attempts then (.permanentlyDropped, q)
  else
    let again : PendingBatch α :=
      { batch with attempts, nextAttemptAt := now + backoff q.config attempts }
    if q.config.maxPendingBatches ≤ q.pending.length then
      (.requeued .enqueuedByDroppingOldest, { q with pending := q.pending.tail ++ [again] })
    else (.requeued .enqueued, { q with pending := q.pending ++ [again] })

structure FlushReport where
  rowsWritten : Nat := 0
  writeFailures : Nat := 0
  retryQueueDropped : Nat := 0
  permanentlyDroppedBatches : Nat := 0
  deriving DecidableEq

structure ClickHouseWriter (α : Type) where
  batch : BatchQueue α
  retry : RetryQueue α
  -- numbers the batches
  flushed : Nat := 0

def ClickHouseWriter.new (batchConfig : BatchConfig) (retryConfig : RetryConfig) (now : Nat) :
    ClickHouseWriter α where
  batch := { config := batchConfig, windowStart := now }
  retry := { config := retryConfig }

/-- What happens to a batch: a write of it, or its loss. -/
inductive Event (α : Type) where
  | wrote (batch : Batch α) (succeeded : Bool)
  | dropped (batch : Batch α)
  deriving DecidableEq

/-- A tick under way: the writer, the report and the events so far. -/
structure Tick (α : Type) where
  writer : ClickHouseWriter α
  report : FlushReport := {}
  events : List (Event α) := []

/-- `fails` answers the writes of a tick by how much has happened in it. -/
def attemptWrite (fails : Nat → Bool) (now : Nat) (t : Tick α) (batch : Batch α) : Tick α :=
  if batch.rows.isEmpty then t
  else if fails t.events.length then
    let (outcome, retry) := t.writer.retry.requeueAfterFailure batch now
    let writer := { t.writer with retry }
    let report := { t.report with writeFailures := t.report.writeFailures + 1 }
    let events := t.events ++ [.wrote batch false]
    match outcome with
    | .requeued .enqueuedByDroppingOldest =>
      { writer
        report := { report with retryQueueDropped := report.retryQueueDropped + 1 }
        events := events ++ (t.writer.retry.pending.head?.map fun p => .dropped p.toBatch).toList }
    | .permanentlyDropped =>
      { writer
        report := { report with
          permanentlyDroppedBatches := report.permanentlyDroppedBatches + 1 }
        events := events ++ [.dropped { batch with attempts := batch.attempts + 1 }] }
    | .requeued .enqueued => { writer, report, events }
  else
    { t with
      report := { t.report with rowsWritten := t.report.rowsWritten + batch.rows.length }
      events := t.events ++ [.wrote batch true] }

/-- The batch is flushed if it is due. -/
def flush (fails : Nat → Bool) (now : Nat) (w : ClickHouseWriter α) : Tick α :=
  if w.batch.shouldFlush now then
    let (rows, batch) := w.batch.take now
    attemptWrite fails now { writer := { w with batch, flushed := w.flushed + 1 } }
      ⟨w.flushed, rows, 0⟩
  else { writer := w }

def ClickHouseWriter.tick (fails : Nat → Bool) (now : Nat) (w : ClickHouseWriter α) : Tick α :=
  let t := flush fails now w
  let (due, retry) := t.writer.retry.takeDue now
  due.foldl (attemptWrite fails now) { t with writer := { t.writer with retry } }

inductive Input (α : Type) where
  | push (row : α)
  | tick (now : Nat) (fails : Nat → Bool)

/-- One writer under pushes and ticks, with any outcomes of the writes. -/
def writing : Machine (ClickHouseWriter α) (Input α) (FlushReport × List (Event α)) where
  step w
    | .push row => (({}, []), { w with batch := w.batch.push row })
    | .tick now fails =>
      let t := w.tick fails now
      ((t.report, t.events), t.writer)

end Tidegard.Storage.Writer
