import Tidegard.Storage.Writer

namespace Tidegard.Storage.Proofs.Conserved

open Runs Writer

variable {α : Type}

def written (log : List (Event α)) : List (Batch α) :=
  log.filterMap fun
    | .wrote batch true => some batch
    | _ => none

def dropped (log : List (Event α)) : List (Batch α) :=
  log.filterMap fun
    | .dropped batch => some batch
    | _ => none

/-- How often a batch was written, whether or not it succeeded. -/
def writes (number : Nat) (log : List (Event α)) : Nat :=
  log.countP fun
    | .wrote batch _ => batch.number = number
    | _ => false

def rowsOf (batches : List (Batch α)) : Multiset α := ↑(batches.flatMap Batch.rows)

@[simp] theorem rowsOf_nil : rowsOf ([] : List (Batch α)) = 0 := rfl

@[simp] theorem rowsOf_cons (b : Batch α) (bs : List (Batch α)) :
    rowsOf (b :: bs) = ↑b.rows + rowsOf bs := by
  simp [rowsOf]

@[simp] theorem rowsOf_append (bs bs' : List (Batch α)) :
    rowsOf (bs ++ bs') = rowsOf bs + rowsOf bs' := by
  simp [rowsOf]

theorem rowsOf_perm (h : bs.Perm bs') : rowsOf bs = rowsOf bs' :=
  Multiset.coe_eq_coe.mpr (h.flatMap_right _)

/-- Every pushed row is somewhere, and the batches that are held count their writes. -/
structure Account (tries : Nat) (pushed current : Multiset α) (flushed : Nat)
    (held : List (Batch α)) (log : List (Event α)) : Prop where
  rows : pushed = rowsOf (written log) + current + rowsOf held + rowsOf (dropped log)
  distinct : (held.map Batch.number).Nodup
  known : ∀ b ∈ held, b.number < flushed ∧ writes b.number log = b.attempts
  unwritten : ∀ n, flushed ≤ n → writes n log = 0
  bounded : ∀ n, writes n log ≤ tries

section Account

variable {tries flushed : Nat} {held : List (Batch α)}
variable {log : List (Event α)} {b : Batch α}

theorem Account.perm (h : Account tries pushed current flushed held log)
    (perm : held.Perm held') : Account tries pushed current flushed held' log where
  rows := by rw [h.rows, rowsOf_perm perm]
  distinct := (perm.map _).nodup_iff.mp h.distinct
  known b hb := h.known b (perm.mem_iff.mpr hb)
  unwritten := h.unwritten
  bounded := h.bounded

theorem Account.push {rows : List α} (h : Account tries pushed ↑rows flushed held log) (row : α) :
    Account tries (pushed + (↑[row] : Multiset α)) ↑(rows ++ [row]) flushed held log :=
  { h with
    rows := by
      rw [h.rows, ← Multiset.coe_add]
      abel }

theorem Account.flush {rows : List α} (h : Account tries pushed ↑rows flushed held log) :
    Account tries pushed 0 (flushed + 1) (held ++ [⟨flushed, rows, 0⟩]) log where
  rows := by
    rw [h.rows, rowsOf_append, rowsOf_cons, rowsOf_nil]
    abel
  distinct := by
    rw [List.map_append, List.nodup_append]
    refine ⟨h.distinct, List.nodup_singleton _, ?_⟩
    intro n hn m hm heq
    obtain ⟨b, hb, rfl⟩ := List.mem_map.mp hn
    have := (h.known b hb).1
    simp only [List.map_cons, List.map_nil, List.mem_singleton] at hm
    omega
  known b hb := by
    rcases List.mem_append.mp hb with hb | hb
    · exact ⟨(h.known b hb).1.trans (Nat.lt_succ_self _), (h.known b hb).2⟩
    · obtain rfl := List.mem_singleton.mp hb
      exact ⟨Nat.lt_succ_self _, h.unwritten _ le_rfl⟩
  unwritten n hn := h.unwritten n (Nat.le_of_succ_le hn)
  bounded := h.bounded

theorem writes_wrote (n : Nat) (succeeded : Bool) :
    writes n (log ++ [.wrote b succeeded]) = writes n log + if b.number = n then 1 else 0 := by
  by_cases hn : b.number = n <;> simp [writes, hn]

theorem Account.ne_of_mem (h : Account tries pushed current flushed (b :: held) log)
    (hx : x ∈ held) : b.number ≠ x.number := by
  intro heq
  have hnot := (List.nodup_cons.mp h.distinct).1
  exact hnot (heq ▸ List.mem_map.mpr ⟨x, hx, rfl⟩)

theorem Account.leave {log' : List (Event α)}
    (h : Account tries pushed current flushed (b :: held) log)
    (rows : rowsOf (written log') + rowsOf (dropped log') =
      rowsOf (written log) + rowsOf (dropped log) + ↑b.rows)
    (others : ∀ n, b.number ≠ n → writes n log' = writes n log)
    (own : writes b.number log' ≤ tries) :
    Account tries pushed current flushed held log' where
  rows := by
    calc pushed = rowsOf (written log) + rowsOf (dropped log) + ↑b.rows + current + rowsOf held := by
          rw [h.rows, rowsOf_cons]
          abel
      _ = rowsOf (written log') + current + rowsOf held + rowsOf (dropped log') := by
          rw [← rows]
          abel
  distinct := (List.nodup_cons.mp h.distinct).2
  known x hx := by
    rw [others _ (h.ne_of_mem hx)]
    exact h.known x (List.mem_cons_of_mem _ hx)
  unwritten n hn := by
    have := (h.known b List.mem_cons_self).1
    rw [others n (by omega), h.unwritten n hn]
  bounded n := by
    by_cases hn : b.number = n
    · exact hn ▸ own
    · rw [others n hn]
      exact h.bounded n

theorem Account.skip (h : Account tries pushed current flushed (b :: held) log)
    (empty : b.rows = []) : Account tries pushed current flushed held log :=
  h.leave (by simp [empty]) (fun _ _ => rfl) (h.bounded _)

theorem Account.succeed (h : Account tries pushed current flushed (b :: held) log)
    (room : b.attempts < tries) :
    Account tries pushed current flushed held (log ++ [.wrote b true]) := by
  apply h.leave
  · simp [written, dropped, add_right_comm]
  · intro n hn
    rw [writes_wrote, if_neg hn]
    rfl
  · rw [writes_wrote, if_pos rfl, (h.known b List.mem_cons_self).2]
    exact room

theorem Account.fail (h : Account tries pushed current flushed (b :: held) log)
    (room : b.attempts < tries) :
    Account tries pushed current flushed ({ b with attempts := b.attempts + 1 } :: held)
      (log ++ [.wrote b false]) := by
  obtain ⟨hnumber, hwrites⟩ := h.known b List.mem_cons_self
  refine ⟨?_, h.distinct, fun x hx => ?_, fun n hn => ?_, fun n => ?_⟩
  · rw [h.rows]
    simp [written, dropped]
  · rcases List.mem_cons.mp hx with rfl | hx
    · exact ⟨hnumber, by rw [writes_wrote, if_pos rfl, hwrites]⟩
    · rw [writes_wrote, if_neg (h.ne_of_mem hx)]
      exact h.known x (List.mem_cons_of_mem _ hx)
  · rw [writes_wrote, if_neg (by omega), h.unwritten n hn]
  · rw [writes_wrote]
    split_ifs with heq
    · rw [← heq, hwrites]
      exact room
    · exact h.bounded n

theorem Account.drop (h : Account tries pushed current flushed (b :: held) log) :
    Account tries pushed current flushed held (log ++ [.dropped b]) := by
  have hwrites : ∀ n, writes n (log ++ [.dropped b]) = writes n log := by simp [writes]
  apply h.leave
  · simp [written, dropped, add_assoc]
  · exact fun n _ => hwrites n
  · exact (hwrites _).trans_le (h.bounded _)

theorem Account.drops (h : Account tries pushed current flushed (lost ++ held) log) :
    Account tries pushed current flushed held (log ++ lost.map .dropped) := by
  induction lost generalizing log with
  | nil => simpa using h
  | cons b lost ih => simpa using ih h.drop

end Account

def waiting (w : ClickHouseWriter α) : List (Batch α) := w.retry.pending.map PendingBatch.toBatch

/-- The account of a writer whose `due` batches were taken out of its queue. -/
structure Kept (config : RetryConfig) (pushed : Multiset α) (log : List (Event α))
    (due : List (Batch α)) (w : ClickHouseWriter α) : Prop where
  configured : w.retry.config = config
  account : Account config.maxAttempts pushed ↑w.batch.rows w.flushed (waiting w ++ due) log
  room : w.retry.pending.length ≤ config.maxPendingBatches
  tries : ∀ b ∈ waiting w ++ due, b.attempts < config.maxAttempts

def losses (r : FlushReport) : Nat := r.retryQueueDropped + r.permanentlyDroppedBatches

/-- What an attempt does. A failure puts the batch, with the attempt counted, among those that
wait and those that are lost. -/
inductive Attempted (config : RetryConfig) (b : Batch α) (t t' : Tick α) : Prop where
  | skipped (empty : b.rows = []) (same : t' = t)
  | succeeded (writer : t'.writer = t.writer) (events : t'.events = t.events ++ [.wrote b true])
      (report : losses t'.report = losses t.report)
  | failed (after : List (PendingBatch α)) (lost : List (Batch α))
      (writer : t'.writer = { t.writer with retry := { t.writer.retry with pending := after } })
      (events : t'.events = t.events ++ [.wrote b false] ++ lost.map .dropped)
      (report : losses t'.report = losses t.report + lost.length)
      (perm : ({ b with attempts := b.attempts + 1 } :: waiting t.writer).Perm
        (lost ++ after.map PendingBatch.toBatch))
      (room : after.length ≤ config.maxPendingBatches)
      (tries : b.attempts + 1 < config.maxAttempts ∨ after = t.writer.retry.pending)

variable {config : RetryConfig} {past : List (Event α)}
variable {w : ClickHouseWriter α} {b : Batch α}

theorem attemptWrite_spec (fails : Nat → Bool) (now : Nat) (b : Batch α)
    (nonempty : 1 ≤ config.maxPendingBatches) (h : Kept config pushed past due t.writer) :
    Attempted config b t (attemptWrite fails now t b) := by
  have hroom := h.room
  have hconfig := h.configured
  unfold attemptWrite
  split_ifs with hempty hfails
  · exact .skipped (by simpa using hempty) rfl
  · unfold RetryQueue.requeueAfterFailure
    dsimp only
    split_ifs with hlast hfull
    · exact .failed t.writer.retry.pending [_] rfl rfl (by simp [losses, Nat.add_assoc])
        (.refl _) hroom (Or.inr rfl)
    · -- a queue that is full is not empty
      rw [hconfig] at hlast hfull
      cases hpending : t.writer.retry.pending with
      | nil =>
        rw [hpending, List.length_nil] at hfull
        omega
      | cons oldest rest =>
        rw [hpending, List.length_cons] at hroom
        refine .failed (rest ++ [_]) [oldest.toBatch] rfl rfl
          (by simp [losses, Nat.add_right_comm]) ?_ (by simpa using hroom)
          (Or.inl (by omega))
        simp only [waiting, hpending, List.map_cons, List.map_append, List.map_nil,
          List.singleton_append]
        exact (List.Perm.swap _ _ _).trans ((List.perm_append_singleton _ _).symm.cons _)
    · rw [hconfig] at hlast hfull
      refine .failed (t.writer.retry.pending ++ [_]) [] rfl (by simp) rfl ?_ ?_ (Or.inl (by omega))
      · simp only [waiting, List.map_append, List.map_cons, List.map_nil, List.nil_append]
        exact (List.perm_append_singleton _ _).symm
      · simp only [List.length_append, List.length_singleton]
        omega
  · exact .succeeded rfl rfl rfl

/-- A tick under way: the account is kept, and the losses reported are those that happened. -/
structure Going (config : RetryConfig) (pushed : Multiset α) (past : List (Event α))
    (due : List (Batch α)) (t : Tick α) : Prop where
  kept : Kept config pushed (past ++ t.events) due t.writer
  told : (dropped t.events).length = losses t.report

theorem Going.attempted (h : Going config pushed past (b :: due) t)
    (attempted : Attempted config b t t') : Going config pushed past due t' := by
  obtain ⟨h, told⟩ := h
  have account := h.account.perm List.perm_middle
  have hb : b.attempts < config.maxAttempts := h.tries b (by simp)
  have hrest : ∀ x ∈ waiting t.writer ++ due, x.attempts < config.maxAttempts := fun x hx =>
    h.tries x (List.perm_middle.mem_iff.mpr (List.mem_cons_of_mem _ hx))
  cases attempted with
  | skipped empty same =>
    subst same
    exact ⟨⟨h.configured, account.skip empty, h.room, hrest⟩, told⟩
  | succeeded writer events report =>
    constructor
    · rw [writer, events, ← List.append_assoc]
      exact ⟨h.configured, account.succeed hb, h.room, hrest⟩
    · rw [events, report, ← told]
      simp [dropped]
  | failed after lost writer events report perm room tries =>
    have moved := perm.append_right due
    rw [List.append_assoc] at moved
    constructor
    · rw [writer, events, ← List.append_assoc, ← List.append_assoc]
      refine ⟨h.configured, ((account.fail hb).perm moved).drops, room, fun x hx => ?_⟩
      rcases tries with hnext | rfl
      · rcases List.mem_cons.mp (moved.mem_iff.mpr (List.mem_append_right _ hx)) with rfl | hx
        · exact hnext
        · exact hrest x hx
      · exact hrest x hx
    · rw [events, report, ← told]
      simp [dropped, List.filterMap_map]

section Tick

variable (fails : Nat → Bool) (now : Nat) (positive : 1 ≤ config.maxAttempts)
variable (nonempty : 1 ≤ config.maxPendingBatches)

include nonempty

theorem attempts_going (h : Going config pushed past due t) :
    Going config pushed past [] (due.foldl (attemptWrite fails now) t) := by
  induction due generalizing t with
  | nil => exact h
  | cons b due ih => exact ih (h.attempted (attemptWrite_spec fails now b nonempty h.kept))

include positive

theorem flush_going (h : Kept config pushed past [] w) :
    Going config pushed past [] (flush fails now w) := by
  unfold flush
  split_ifs
  · have taken : Kept config pushed (past ++ []) [⟨w.flushed, w.batch.rows, 0⟩]
        { w with batch := (w.batch.take now).2, flushed := w.flushed + 1 } := by
      have flushed := h.account.flush
      rw [List.append_nil] at flushed ⊢
      refine ⟨h.configured, flushed, h.room, fun b hb => ?_⟩
      rcases List.mem_append.mp hb with hb | hb
      · exact h.tries b (List.mem_append_left _ hb)
      · rw [List.mem_singleton.mp hb]
        exact positive
    exact attempts_going fails now nonempty (t := { writer := _ }) ⟨taken, rfl⟩
  · refine ⟨?_, rfl⟩
    rwa [List.append_nil]

theorem tick_going (h : Kept config pushed past [] w) :
    Going config pushed past [] (w.tick fails now) := by
  obtain ⟨flushed, told⟩ := flush_going fails now positive nonempty h
  refine attempts_going fails now nonempty ⟨?_, told⟩
  -- what is due and what is not are together what waited
  have split : (waiting (flush fails now w).writer ++ []).Perm
      (((flush fails now w).writer.retry.takeDue now).2.pending.map PendingBatch.toBatch ++
        ((flush fails now w).writer.retry.takeDue now).1) := by
    rw [List.append_nil]
    simp only [waiting, RetryQueue.takeDue, ← List.map_append]
    refine List.Perm.map _ (List.Perm.trans ?_ List.perm_append_comm)
    simpa only [decide_not] using (List.filter_append_perm
      (fun p : PendingBatch α => decide (p.nextAttemptAt ≤ now))
      (flush fails now w).writer.retry.pending).symm
  refine ⟨flushed.configured, flushed.account.perm split, ?_, fun b hb => ?_⟩
  · exact (List.length_filter_le _ _).trans flushed.room
  · exact flushed.tries b (split.mem_iff.mpr hb)

end Tick

abbrev WriterStep (α : Type) := Step (ClickHouseWriter α) (Input α) (FlushReport × List (Event α))

def pushedRows (inputs : List (Input α)) : Multiset α :=
  ↑(inputs.filterMap fun
    | .push row => some row
    | .tick _ _ => none)

def eventsOf (past : List (WriterStep α)) : List (Event α) := past.flatMap fun st => st.output.2

def reported (past : List (WriterStep α)) : Nat :=
  (past.map fun st => losses st.output.1).sum

section Run

variable (positive : 1 ≤ config.maxAttempts) (nonempty : 1 ≤ config.maxPendingBatches)
include positive nonempty

theorem step_kept (h : Kept config pushed past [] w) (input : Input α) :
    Kept config (pushed + pushedRows [input]) (past ++ (writing.step w input).1.2) []
        (writing.step w input).2 ∧
      (dropped (writing.step w input).1.2).length = losses (writing.step w input).1.1 := by
  cases input with
  | push row =>
    change Kept config _ (past ++ []) [] { w with batch := w.batch.push row } ∧ _
    rw [List.append_nil]
    exact ⟨⟨h.configured, h.account.push row, h.room, h.tries⟩, rfl⟩
  | tick now fails =>
    change Kept config (pushed + 0) _ [] _ ∧ _
    rw [add_zero]
    obtain ⟨kept, told⟩ := tick_going fails now positive nonempty h
    exact ⟨kept, told⟩

theorem run_kept (batch : BatchConfig) (start : Nat) (inputs : List (Input α)) :
    Kept config (pushedRows inputs)
        (eventsOf (writing.trace (.new batch config start) inputs)) []
        (writing.run (.new batch config start) inputs) ∧
      (dropped (eventsOf (writing.trace (.new batch config start) inputs))).length =
        reported (writing.trace (.new batch config start) inputs) := by
  induction inputs using List.reverseRecOn with
  | nil =>
    have empty : waiting (.new batch config start : ClickHouseWriter α) ++ [] = [] := rfl
    refine ⟨⟨rfl, ⟨rfl, ?_, ?_, fun _ _ => rfl, fun _ => Nat.zero_le _⟩, Nat.zero_le _, ?_⟩, rfl⟩
    · exact List.nodup_nil
    · simp [empty]
    · simp [empty]
  | append_singleton inputs input ih =>
    obtain ⟨kept, told⟩ := ih
    obtain ⟨after, toldNow⟩ := step_kept positive nonempty kept input
    rw [writing.trace_snoc, writing.run_snoc]
    constructor
    · have hpushed : pushedRows (inputs ++ [input]) = pushedRows inputs + pushedRows [input] := by
        simp only [pushedRows, List.filterMap_append, Multiset.coe_add]
      rw [hpushed]
      simpa only [eventsOf, List.flatMap_append, List.flatMap_singleton, Machine.stepAt_output]
        using after
    · simp only [eventsOf, reported, dropped, List.flatMap_append, List.flatMap_singleton,
        List.filterMap_append, List.length_append, List.map_append, List.sum_append, List.map_cons,
        List.map_nil, List.sum_singleton, Machine.stepAt_output] at told toldNow ⊢
      omega

end Run

/-- No row is lost unaccounted for: the rows pushed are those written, those of the current batch,
those that wait and those of dropped batches; the reports tell of every dropped batch; the queue
is bounded, and so is how often one batch is written. -/
theorem rows_conserved (batch : BatchConfig) (retry : RetryConfig) (start : Nat)
    (nonempty : 1 ≤ retry.maxPendingBatches) (positive : 1 ≤ retry.maxAttempts)
    (inputs : List (Input α)) :
    let w := writing.run (.new batch retry start) inputs
    let past := writing.trace (.new batch retry start) inputs
    pushedRows inputs = rowsOf (written (eventsOf past)) + ↑w.batch.rows + rowsOf (waiting w) +
        rowsOf (dropped (eventsOf past)) ∧
      (dropped (eventsOf past)).length = reported past ∧
      w.retry.pending.length ≤ retry.maxPendingBatches ∧
      ∀ number, writes number (eventsOf past) ≤ retry.maxAttempts := by
  obtain ⟨kept, told⟩ := run_kept positive nonempty batch start inputs
  have hrows := kept.account.rows
  rw [List.append_nil] at hrows
  exact ⟨hrows, told, kept.room, kept.account.bounded⟩

/-- Two rows whose writes fail until the second batch displaces the first. -/
def sampleInputs : List (Input Nat) :=
  [.push 1, .tick 0 fun _ => true, .push 2, .tick 0 fun _ => true]

theorem rows_conserved_sample :
    let past := writing.trace (.new { maxRows := 1 } { maxPendingBatches := 1 } 0) sampleInputs
    reported past = 1 ∧ (dropped (eventsOf past)).length = 1 := by
  have told := (rows_conserved { maxRows := 1 } { maxPendingBatches := 1 } 0 (by decide) (by decide)
    sampleInputs).2.1
  have hreported : reported (writing.trace (.new { maxRows := 1 } { maxPendingBatches := 1 } 0)
    sampleInputs) = 1 := by decide +kernel
  exact ⟨hreported, told.trans hreported⟩

end Tidegard.Storage.Proofs.Conserved
