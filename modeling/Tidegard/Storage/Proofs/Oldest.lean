import Tidegard.Storage.Proofs.Conserved

namespace Tidegard.Storage.Proofs.Oldest

open Runs Writer Conserved

variable {α : Type}

/-- The write of the batch that is flushed, with the tick it is tried in. -/
def flushes (now : Nat) (w : ClickHouseWriter α) : List (Tick α × Batch α) :=
  if w.batch.shouldFlush now then
    [({ writer := { w with batch := (w.batch.take now).2, flushed := w.flushed + 1 } },
      ⟨w.flushed, w.batch.rows, 0⟩)]
  else []

def retries (fails : Nat → Bool) (now : Nat) : Tick α → List (Batch α) → List (Tick α × Batch α)
  | _, [] => []
  | t, b :: due => (t, b) :: retries fails now (attemptWrite fails now t b) due

def attempts (fails : Nat → Bool) (now : Nat) (w : ClickHouseWriter α) :
    List (Tick α × Batch α) :=
  let t := flush fails now w
  let (due, retry) := t.writer.retry.takeDue now
  flushes now w ++ retries fails now { t with writer := { t.writer with retry } } due

/-- If the write is reported to have made room in the queue, no batch that is in it afterwards was
flushed before one that is not in it any more. -/
def DropsOldest (fails : Nat → Bool) (now : Nat) (attempt : Tick α × Batch α) : Prop :=
  let t' := attemptWrite fails now attempt.1 attempt.2
  t'.report.retryQueueDropped = attempt.1.report.retryQueueDropped + 1 →
    ∀ lost ∈ attempt.1.writer.retry.pending, (∀ p ∈ t'.writer.retry.pending, p.number ≠ lost.number) →
      ∀ p ∈ t'.writer.retry.pending, lost.number ≤ p.number

instance (fails : Nat → Bool) (now : Nat) (attempt : Tick α × Batch α) :
    Decidable (DropsOldest fails now attempt) :=
  inferInstanceAs (Decidable (_ → _))

/-- The write fails, is to be tried again and finds the queue full. -/
def MakesRoom (fails : Nat → Bool) (attempt : Tick α × Batch α) : Prop :=
  attempt.2.rows ≠ [] ∧ fails attempt.1.events.length = true ∧
    attempt.2.attempts + 1 < attempt.1.writer.retry.config.maxAttempts ∧
    attempt.1.writer.retry.config.maxPendingBatches ≤ attempt.1.writer.retry.pending.length

/-- The batch at the front of the queue is the one that was flushed first. -/
def FrontFirst (w : ClickHouseWriter α) : Prop :=
  ∀ first ∈ w.retry.pending.head?, ∀ p ∈ w.retry.pending, first.number ≤ p.number

variable {config : RetryConfig} {t : Tick α} {b : Batch α}

theorem attemptWrite_pending (fails : Nat → Bool) (now : Nat) (t : Tick α) (b : Batch α) :
    let t' := attemptWrite fails now t b
    let pending := t.writer.retry.pending
    t'.writer.retry.config = t.writer.retry.config ∧
    (t'.report.retryQueueDropped = t.report.retryQueueDropped ∧ ¬ MakesRoom fails (t, b) ∧
        t'.writer.retry.pending.length ≤ pending.length + 1 ∨
      t'.report.retryQueueDropped = t.report.retryQueueDropped + 1 ∧ MakesRoom fails (t, b) ∧
        ∃ again : PendingBatch α, again.number = b.number ∧
          t'.writer.retry.pending = pending.tail ++ [again]) := by
  dsimp only
  unfold attemptWrite MakesRoom
  split_ifs with hempty hfails
  · exact ⟨rfl, .inl ⟨rfl, by simp_all, Nat.le_succ _⟩⟩
  · unfold RetryQueue.requeueAfterFailure
    dsimp only
    split_ifs with hlast hfull
    · exact ⟨rfl, .inl ⟨rfl, fun h => absurd h.2.2.1 (by omega), Nat.le_succ _⟩⟩
    · exact ⟨rfl, .inr ⟨rfl, ⟨by simpa using hempty, hfails, by omega, hfull⟩, _, rfl, rfl⟩⟩
    · exact ⟨rfl, .inl ⟨rfl, fun h => hfull h.2.2.2, by simp⟩⟩
  · exact ⟨rfl, .inl ⟨rfl, fun h => hfails h.2.1, Nat.le_succ _⟩⟩

theorem retries_room (fails : Nat → Bool) (now : Nat)
    (room : t.writer.retry.pending.length + due.length ≤ t.writer.retry.config.maxPendingBatches) :
    ∀ attempt ∈ retries fails now t due, DropsOldest fails now attempt := by
  induction due generalizing t with
  | nil => simp [retries]
  | cons b due ih =>
    rw [List.length_cons] at room
    obtain ⟨hconfig, ⟨hsame, -, hlength⟩ | ⟨-, ⟨-, -, -, hfull⟩, -⟩⟩ :=
      attemptWrite_pending fails now t b
    · refine List.forall_mem_cons.mpr ⟨fun hdropped => ?_, ih ?_⟩
      · dsimp only at hdropped
        omega
      · rw [hconfig]
        omega
    · dsimp only at hfull
      omega

theorem takeDue_length (q : RetryQueue α) (now : Nat) :
    (q.takeDue now).2.pending.length + (q.takeDue now).1.length = q.pending.length := by
  have hsplit := List.length_eq_length_filter_add (l := q.pending)
    fun p => decide (p.nextAttemptAt ≤ now)
  simp only [RetryQueue.takeDue, List.length_map, decide_not]
  omega

/-- A new batch in the place of the front of the queue: what left the queue is that front. -/
theorem dropsOldest_iff {w : ClickHouseWriter α} {rows : List α}
    (distinct : (w.retry.pending.map (·.number)).Nodup)
    (known : ∀ p ∈ w.retry.pending, p.number < n) (ht : t.writer.retry = w.retry) :
    DropsOldest fails now (t, ⟨n, rows, 0⟩) ↔ (MakesRoom fails (t, ⟨n, rows, 0⟩) → FrontFirst w) := by
  unfold DropsOldest
  obtain ⟨-, ⟨hsame, hno, -⟩ | ⟨hmore, hroom, again, hnumber, hpending⟩⟩ :=
    attemptWrite_pending fails now t ⟨n, rows, 0⟩
  · exact iff_of_true (fun h => absurd (hsame.symm.trans h) (Nat.ne_of_lt (Nat.lt_succ_self _)))
      fun h => absurd h hno
  dsimp only at hnumber ⊢
  simp only [hmore, hpending, hroom, true_imp_iff, ht, FrontFirst]
  rcases hqueue : w.retry.pending with _ | ⟨first, rest⟩
  · simp
  rw [hqueue, List.map_cons, List.nodup_cons, List.mem_map] at distinct
  rw [hqueue, List.forall_mem_cons] at known
  simp only [List.tail_cons, List.forall_mem_append, List.forall_mem_singleton, hnumber,
    List.forall_mem_cons, List.head?_cons, Option.mem_some_iff, forall_eq', le_refl, true_and]
  constructor
  · intro h
    exact (h.1 ⟨fun p hp heq => distinct.1 ⟨p, hp, heq⟩, known.1.ne'⟩).1
  · intro hfront
    refine ⟨fun _ => ⟨hfront, known.1.le⟩, fun lost hlost hgone => ?_⟩
    exact absurd rfl (hgone.1 lost hlost)

/-- In a run, a tick makes room only by dropping the batch that was flushed first, exactly when the
flush in it, should it make room, finds that batch at the front of the queue. -/
theorem oldest_dropped_iff (batch : BatchConfig) (retry : RetryConfig) (start : Nat)
    (nonempty : 1 ≤ retry.maxPendingBatches) (positive : 1 ≤ retry.maxAttempts)
    (inputs : List (Input α)) (fails : Nat → Bool) (now : Nat) :
    let w := writing.run (.new batch retry start) inputs
    (∀ attempt ∈ attempts fails now w, DropsOldest fails now attempt) ↔
      ∀ attempt ∈ flushes now w, MakesRoom fails attempt → FrontFirst w := by
  dsimp only
  have kept := (run_kept positive nonempty batch start inputs).1
  generalize writing.run (.new batch retry start) inputs = w at kept ⊢
  obtain ⟨flushed, -⟩ := flush_going fails now positive nonempty kept
  have hretries : ∀ attempt ∈ retries fails now
      { flush fails now w with writer := { (flush fails now w).writer with
        retry := ((flush fails now w).writer.retry.takeDue now).2 } }
      ((flush fails now w).writer.retry.takeDue now).1, DropsOldest fails now attempt := by
    apply retries_room
    have hlength := takeDue_length (flush fails now w).writer.retry now
    have hroom := flushed.room
    rw [← flushed.configured] at hroom
    exact hlength.trans_le hroom
  unfold attempts
  dsimp only
  rw [List.forall_mem_append, and_iff_left hretries]
  unfold flushes
  split_ifs
  case neg => simp
  rw [List.forall_mem_singleton, List.forall_mem_singleton]
  have account := kept.account
  rw [List.append_nil] at account
  refine dropsOldest_iff ?_ (fun p hp => ?_) rfl
  · simpa [waiting, Function.comp_def] using account.distinct
  · exact (account.known p.toBatch (List.mem_map_of_mem hp)).1

theorem oldest_dropped_iff_sample :
    let w := writing.run (.new { maxRows := 1 } { maxPendingBatches := 1 } 0)
      [.push 1, .tick 0 fun _ => true, .push 2]
    w.retry.pending.length = 1 ∧
      ∀ attempt ∈ attempts (fun _ => true) 0 w, DropsOldest (fun _ => true) 0 attempt := by
  refine ⟨by decide +kernel, (oldest_dropped_iff { maxRows := 1 } { maxPendingBatches := 1 } 0
    (by decide) (by decide) _ _ _).mpr fun _ _ _ => ?_⟩
  unfold FrontFirst
  decide +kernel

/-- The first batch fails again and goes behind the second, which then makes room for the third. -/
def overtaken : List (Input Nat) :=
  [.push 1, .tick 0 fun _ => true, .push 2, .tick (Common.fromSecs 1) fun _ => true,
    .tick (Common.fromSecs 2) fun _ => true, .push 3]

theorem newer_dropped :
    ∃ attempt ∈ attempts (fun _ => true) (Common.fromSecs 3 - 1)
        (writing.run (.new { maxRows := 1 } { maxPendingBatches := 2 } 0) overtaken),
      ¬ DropsOldest (fun _ => true) (Common.fromSecs 3 - 1) attempt := by
  decide +kernel

end Tidegard.Storage.Proofs.Oldest
