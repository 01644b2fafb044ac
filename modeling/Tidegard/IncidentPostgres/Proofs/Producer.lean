import Tidegard.IncidentPostgres.Proofs.Inbox
import Tidegard.IncidentPostgres.Producer

namespace Tidegard.IncidentPostgres.Proofs.Producer

open List hiding after
open Tables Runs Detector.Event Incident.Basics Proofs.Inbox IncidentPostgres.Producer
open IncidentPostgres.Inbox (InboxId InboxRow insertNew newRow enqueue)
open Incident.UnitOfWork (sampleEvent)

abbrev ProducerStep := Step State Input (Option (Except SinkError Unit))

/-- The event of a publish call that answered `Ok`. -/
def acceptedBy (st : ProducerStep) : Option DetectionEvent :=
  match st.input, st.output with
  | .push call, some (.ok ()) => st.before.passed call
  | _, _ => none

def accepted (past : List ProducerStep) : List DetectionEvent := past.filterMap acceptedBy

def Listed (tenant : TenantId) (inbox : Table InboxId InboxRow) (event : DetectionEvent) : Prop :=
  ∃ (id : InboxId) (row : InboxRow), inbox[id]? = some row ∧ row.tenantId = tenant ∧
    row.dedupKey = event.dedupKey

/-- The event's call had passed its tests and not yet taken the lock when the producer closed. -/
def Straddles (past : List ProducerStep) (event : DetectionEvent) : Prop :=
  ∃ st ∈ past, st.before.closed = false ∧ st.after.closed = true ∧
    ∃ call, st.before.passed call = some event

/-- The event was accepted when `run` had counted the queue. -/
def Late (past : List ProducerStep) (event : DetectionEvent) : Prop :=
  ∃ st ∈ past, acceptedBy st = some event ∧ st.before.phase matches .returned

abbrev Inbox := InboxId × Table InboxId InboxRow

/-- The inbox after the events were inserted one by one, each at its instant. -/
def recorded (c : Config) (start : Inbox) (stored : List (DetectionEvent × Int)) : Inbox :=
  stored.foldl (fun tables e => insertNew c.tenant e.2 c.inbox tables e.1) start

/-- What each phase relies on. `ahead` is the part of the queue that is in the inbox. -/
def Stands (past : List ProducerStep) (queue ahead : List DetectionEvent) (closed : Bool)
    (abandoned : Nat) : Phase → Prop
  | .writing batch => batch <+: queue
  | .removing batch _ => batch <+: ahead
  | .counting => closed = true
  | .returned => closed = true ∧ ∃ rest late, queue = rest ++ late ∧ rest.length = abandoned ∧
    ∀ event ∈ late, Straddles past event ∧ Late past event
  | _ => True

/-- The accepted events are those gone from the queue and those in it, in order, and the inbox
records the ones gone and the head of the queue. -/
structure Kept (c : Config) (start : Inbox) (past : List ProducerStep) (p : State)
    (gone ahead : List DetectionEvent) (stored : List (DetectionEvent × Int)) : Prop where
  order : accepted past = gone ++ p.queue
  bounded : p.queue.length ≤ max c.policy.capacity 1
  head : ahead <+: p.queue
  events : stored.map Prod.fst = gone ++ ahead
  tables : p.tables = recorded c start stored
  own : (∀ event ∈ accepted past, event.target.tenant = c.tenant) ∧
    ∀ call event, p.passed call = some event → event.target.tenant = c.tenant
  stands : Stands past p.queue ahead p.closed p.report.abandoned p.phase
  inFlight : p.closed = true → ∀ call event, p.passed call = some event → Straddles past event

variable {c : Config} {past : List ProducerStep} {p : State}
variable {events gone ahead : List DetectionEvent}
variable {start tables : Inbox} {stored : List (DetectionEvent × Int)}

theorem listed_iff : Listed tenant inbox event ↔ (inbox.toList.any fun e =>
    e.2.tenantId = tenant && e.2.dedupKey = event.dedupKey) = true := by
  simp [Listed]

instance : Decidable (Listed tenant inbox event) := decidable_of_iff _ listed_iff.symm

/-- Sending again what is already there changes nothing. -/
theorem foldl_listed (h : ∀ event ∈ events, Listed tenant tables.2 event) :
    events.foldl (insertNew tenant now setting) tables = tables := by
  induction events with
  | nil => rfl
  | cons event events ih =>
    obtain ⟨hfirst, hrest⟩ := forall_mem_cons.mp h
    rw [foldl_cons, insertNew, if_pos (listed_iff.mp hfirst)]
    exact ih hrest

theorem recorded_snoc (c : Config) (start : Inbox) (stored : List (DetectionEvent × Int))
    (e : DetectionEvent × Int) : recorded c start (stored ++ [e]) =
      insertNew c.tenant e.2 c.inbox (recorded c start stored) e.1 := by
  rw [recorded, foldl_append]
  rfl

theorem recorded_listed (c : Config) (stored : List (DetectionEvent × Int))
    (sound : Sound start.1 start.2 dead) :
    Sound (recorded c start stored).1 (recorded c start stored).2 dead ∧
      ∀ event, Listed c.tenant start.2 event ∨ event ∈ stored.map Prod.fst →
        Listed c.tenant (recorded c start stored).2 event := by
  induction stored using List.reverseRecOn with
  | nil => exact ⟨sound, fun _ h => h.resolve_right not_mem_nil⟩
  | append_singleton stored e ih =>
    obtain ⟨hextends, hsound⟩ := insertNew_sound c.inbox c.tenant e.2 ih.1 e.1
    rw [recorded_snoc, map_append]
    refine ⟨hsound, fun event he => ?_⟩
    rw [mem_append, ← or_assoc] at he
    rcases he with he | he
    · obtain ⟨id, row, hrow, hsame⟩ := ih.2 event he
      exact ⟨id, row, hextends.kept id row hrow, hsame⟩
    · obtain rfl := mem_singleton.mp he
      unfold insertNew
      split
      · rename_i h
        exact listed_iff.mpr h
      · exact ⟨_, _, get_insert_self _ _ _, rfl, rfl⟩

theorem Straddles.snoc (h : Straddles past event) (st : ProducerStep) :
    Straddles (past ++ [st]) event := by
  obtain ⟨st', hst, hrest⟩ := h
  exact ⟨st', mem_append_left _ hst, hrest⟩

theorem Late.snoc (h : Late past event) (st : ProducerStep) : Late (past ++ [st]) event := by
  obtain ⟨st', hst, hrest⟩ := h
  exact ⟨st', mem_append_left _ hst, hrest⟩

theorem Kept.snoc (h : Kept c start past p gone ahead stored) (st : ProducerStep)
    (hst : acceptedBy st = none) : Kept c start (past ++ [st]) p gone ahead stored := by
  have hsame : accepted (past ++ [st]) = accepted past := by simp [accepted, hst]
  refine { h with
    order := hsame ▸ h.order
    own := hsame ▸ h.own
    stands := ?_
    inFlight := fun hclosed call event he => (h.inFlight hclosed call event he).snoc st }
  have hstands := h.stands
  cases hphase : p.phase <;> rw [hphase] at hstands
  case returned =>
    obtain ⟨hclosed, rest, late, hqueue, hcount, hlate⟩ := hstands
    exact ⟨hclosed, rest, late, hqueue, hcount, fun event he =>
      ⟨(hlate event he).1.snoc st, (hlate event he).2.snoc st⟩⟩
  all_goals exact hstands

theorem Kept.push (h : Kept c start past p gone ahead stored) (hevent : p.passed call = some event)
    (hroom : ¬max c.policy.capacity 1 ≤ p.queue.length) (st : ProducerStep) (hbefore : st.before = p)
    (hst : acceptedBy st = some event) :
    Kept c start (past ++ [st]) { p with queue := p.queue ++ [event] } gone ahead stored := by
  have hlonger : p.queue <+: p.queue ++ [event] := prefix_append _ _
  have hmore : accepted (past ++ [st]) = accepted past ++ [event] := by simp [accepted, hst]
  refine { h with
    order := ?_
    bounded := by simpa using Nat.lt_of_not_le hroom
    head := h.head.trans hlonger
    own := ⟨?_, h.own.2⟩
    stands := ?_
    inFlight := fun hclosed call event he => (h.inFlight hclosed call event he).snoc st }
  · rw [hmore, h.order, append_assoc]
  · rw [hmore, forall_mem_append, forall_mem_singleton]
    exact ⟨h.own.1, h.own.2 call event hevent⟩
  · have hstands := h.stands
    cases hphase : p.phase <;> rw [hphase] at hstands
    case writing => exact hstands.trans hlonger
    case returned =>
      obtain ⟨hclosed, rest, late, hqueue, hcount, hlate⟩ := hstands
      refine ⟨hclosed, rest, late ++ [event], ?_, hcount, forall_mem_append.mpr
        ⟨fun e he => ⟨(hlate e he).1.snoc st, (hlate e he).2.snoc st⟩, ?_⟩⟩
      · rw [hqueue, append_assoc]
      · refine forall_mem_singleton.mpr ⟨(h.inFlight hclosed call event hevent).snoc st, st,
          by simp, hst, ?_⟩
        rw [hbefore, hphase]
    all_goals exact hstands

theorem Kept.fail (h : Kept c start past p gone ahead stored) :
    Kept c start past (p.fail c) gone ahead stored := by
  unfold State.fail
  split
  · rename_i hclosed
    exact { h with stands := by dsimp only; split; exacts [hclosed, trivial] }
  · exact { h with stands := trivial }

theorem Kept.listed (h : Kept c start past p gone ahead stored)
    (sound : Sound start.1 start.2 dead) :
    ∀ event ∈ gone ++ ahead, Listed c.tenant p.tables.2 event := by
  rw [h.tables, ← h.events]
  exact fun event he => (recorded_listed c stored sound).2 event (.inr he)

theorem Kept.commit (h : Kept c start past p gone ahead stored)
    (sound : Sound start.1 start.2 dead) (hphase : p.phase = .writing batch)
    (hok : enqueue c.inbox c.tenant batch now p.tables = .ok tables) :
    ∃ ahead stored, batch <+: ahead ∧ Kept c start past { p with tables } gone ahead stored := by
  obtain rfl : batch.foldl (insertNew c.tenant now c.inbox) p.tables = tables := by
    grind [enqueue]
  have hlisted := forall_mem_append.mp (h.listed sound)
  have hbatch : batch <+: p.queue := by
    have hstands := h.stands
    rwa [hphase] at hstands
  have hstands (ahead) : Stands past p.queue ahead p.closed p.report.abandoned p.phase := by
    rwa [hphase]
  rcases prefix_or_prefix_of_prefix hbatch h.head with hold | ⟨new, rfl⟩
  · refine ⟨ahead, stored, hold, { h with tables := ?_ }⟩
    exact (foldl_listed fun event he => hlisted.2 event (hold.subset he)).trans h.tables
  · refine ⟨_, stored ++ new.map (·, now), prefix_rfl,
      { h with head := hbatch, events := ?_, tables := ?_, stands := hstands _ }⟩
    · simp [h.events, Function.comp_def]
    · rw [foldl_append, foldl_listed hlisted.2, h.tables]
      simp [recorded, foldl_map]

theorem Kept.drain (h : Kept c start past p gone ahead stored) (sound : Sound start.1 start.2 dead)
    (hst : st = (producer c).stepAt p (.drain answer)) :
    ∃ gone ahead stored, Kept c start (past ++ [st]) (p.drain c answer) gone ahead stored := by
  have hstands := h.stands
  have hsnoc := h.snoc st (by rw [hst]; rfl)
  unfold State.drain
  split <;> rename_i hphase <;> rw [hphase] at hstands
  · exact ⟨_, _, _, { hsnoc with stands := by dsimp only; split_ifs <;> trivial }⟩
  · split
    · exact ⟨_, _, _, { hsnoc with stands := take_prefix _ _ }⟩
    · exact ⟨_, _, _, hsnoc.fail⟩
  · unfold State.write
    split
    · rename_i hok
      obtain ⟨_, _, hbatch, hkept⟩ := hsnoc.commit sound hphase hok
      exact ⟨_, _, _, { hkept with stands := hbatch }⟩
    · rename_i hok
      obtain ⟨_, _, -, hkept⟩ := hsnoc.commit sound hphase hok
      exact ⟨_, _, _, hkept.fail⟩
    · exact ⟨_, _, _, hsnoc.fail⟩
  · rename_i batch _
    obtain ⟨ahead, rfl⟩ := hstands
    obtain ⟨rest, hqueue⟩ := h.head
    rw [append_assoc] at hqueue
    refine ⟨gone ++ batch, ahead, stored, { hsnoc with
      order := ?_, bounded := ?_, head := ⟨rest, ?_⟩, events := ?_, stands := trivial }⟩
    · rw [hsnoc.order, ← hqueue, drop_left, append_assoc]
    · exact (drop_sublist _ _).length_le.trans h.bounded
    · rw [← hqueue, drop_left]
    · rw [h.events, append_assoc]
  · refine ⟨_, _, _, { hsnoc with stands := trivial, inFlight := fun hclosed call event he => ?_ }⟩
    cases hopen : p.closed with
    | true => exact hsnoc.inFlight hopen call event he
    | false =>
      -- this step closes the producer, so the call straddles it
      refine ⟨st, by simp, ?_, ?_, call, ?_⟩ <;> subst hst
      · exact hopen
      · simpa [producer, State.drain, hphase] using hclosed
      · exact he
  · exact ⟨_, _, _, { hsnoc with stands := ⟨hstands, p.queue, [], by simp, rfl, by simp⟩ }⟩
  · exact ⟨_, _, _, hsnoc⟩

theorem Kept.finish (h : Kept c start past p gone ahead stored) (call : Nat) :
    Kept c start past { p with passed := Function.update p.passed call none } gone ahead stored where
  __ := h
  own := ⟨h.own.1, fun call event he => h.own.2 call event (by grind [Function.update])⟩
  inFlight hclosed call event he := h.inFlight hclosed call event (by grind [Function.update])

theorem Kept.step (h : Kept c start past p gone ahead stored) (sound : Sound start.1 start.2 dead)
    (input : Input) :
    ∃ gone ahead stored, Kept c start (past ++ [(producer c).stepAt p input])
      ((producer c).step p input).2 gone ahead stored := by
  cases input with
  | publish call event =>
    have hsnoc := h.snoc ((producer c).stepAt p (.publish call event)) rfl
    refine ⟨gone, ahead, stored, ?_⟩
    unfold producer State.test at hsnoc ⊢
    dsimp only at hsnoc ⊢
    split_ifs at hsnoc ⊢ with hbusy hclosed htenant
    · exact hsnoc
    · exact hsnoc
    · exact { hsnoc with }
    · exact { hsnoc with
        own := ⟨hsnoc.own.1, by grind [Function.update, hsnoc.own.2]⟩
        inFlight := fun hopen => absurd hopen hclosed }
  | push call =>
    refine ⟨gone, ahead, stored, ?_⟩
    generalize hst : (producer c).stepAt p (.push call) = st
    have haccepted := congrArg acceptedBy hst.symm
    have hbefore : st.before = p := by rw [← hst]; rfl
    unfold producer State.push Machine.stepAt at haccepted
    unfold producer State.push
    cases hevent : p.passed call with
    | none =>
      simp only [hevent] at haccepted ⊢
      exact h.snoc st haccepted
    | some event =>
      simp only [hevent] at haccepted ⊢
      split_ifs at haccepted ⊢ with hfull
      · exact { (h.snoc st haccepted).finish call with }
      · exact (h.push hevent hfull st hbefore (haccepted.trans hevent)).finish call
  | drain answer => exact h.drain sound rfl

theorem Kept.stored_gone (h : Kept c start past p gone ahead stored)
    (sound : ∃ dead, Sound start.1 start.2 dead) :
    ∀ event ∈ gone, Listed c.tenant p.tables.2 event := by
  obtain ⟨dead, sound⟩ := sound
  exact (forall_mem_append.mp (h.listed sound)).1

/-- The rows of the events stand behind what was there, one for each event and in their order, and
there are no others. -/
structure Filed (c : Config) (start tables : Inbox) (events : List DetectionEvent) : Prop where
  next : tables.1 = start.1 + events.length
  rows : ∀ i (h : i < events.length), ∃ now,
    tables.2[start.1 + i]? = some (newRow c.inbox c.tenant now events[i])
  only : ∀ (id : InboxId) row, tables.2[id]? = some row → start.2[id]? = some row ∨
    ∃ event ∈ events, row.dedupKey = event.dedupKey

/-- Events with different keys are filed in their order, but for those that were there before. -/
theorem recorded_filed (c : Config) (stored : List (DetectionEvent × Int))
    (sound : Sound start.1 start.2 dead) (distinct : (stored.map (·.1.dedupKey)).Nodup) :
    Filed c start (recorded c start stored)
      ((stored.map Prod.fst).filter fun event => ¬Listed c.tenant start.2 event) := by
  induction stored using List.reverseRecOn with
  | nil => exact ⟨rfl, by simp, fun _ _ h => .inl h⟩
  | append_singleton stored e ih =>
    rw [map_append, nodup_append] at distinct
    have hfiled := ih distinct.1
    rw [recorded_snoc, insertNew, map_append, filter_append]
    by_cases hold : Listed c.tenant start.2 e.1
    · rw [if_pos (listed_iff.mp ((recorded_listed c stored sound).2 e.1 (.inl hold)))]
      simpa [hold] using hfiled
    have hnew : ¬Listed c.tenant (recorded c start stored).2 e.1 := by
      rintro ⟨id, row, hrow, htenant, hkey⟩
      rcases hfiled.only id row hrow with hrow | ⟨event, hevent, hsame⟩
      · exact hold ⟨id, row, hrow, htenant, hkey⟩
      · obtain ⟨e', he', rfl⟩ := mem_map.mp (mem_filter.mp hevent).1
        exact distinct.2.2 _ (mem_map_of_mem he') _ (by simp) (hsame.symm.trans hkey)
    rw [if_neg (mt listed_iff.mpr hnew)]
    generalize (stored.map Prod.fst).filter _ = filed at hfiled ⊢
    obtain ⟨hnext, hrows, honly⟩ := hfiled
    have hlast : [e].map Prod.fst = [e.1] := rfl
    simp only [hlast, hold, not_false_eq_true, decide_true, filter_cons_of_pos, filter_nil]
    refine ⟨?_, fun i hi => ?_, fun id row hrow => ?_⟩
    · simp [hnext, Nat.add_assoc]
    · dsimp only
      rw [get_insert, hnext]
      rcases Nat.lt_or_ge i filed.length with hlt | hge
      · rw [if_neg (Nat.add_lt_add_left hlt start.1).ne', getElem_append_left hlt]
        exact hrows i hlt
      · obtain rfl : i = filed.length := by simp at hi; omega
        exact ⟨e.2, by simp⟩
    · rw [get_insert] at hrow
      split at hrow
      · cases hrow
        exact .inr ⟨e.1, by simp, rfl⟩
      · rcases honly id row hrow with hold | ⟨event, hevent, hsame⟩
        · exact .inl hold
        · exact .inr ⟨event, mem_append_left _ hevent, hsame⟩

variable (start : { t : Inbox // ∃ dead, Sound t.1 t.2 dead })
variable (inputs : List Input)

theorem run_kept (c : Config) :
    ∃ gone ahead stored, Kept c start ((producer c).trace { tables := start } inputs)
      ((producer c).run { tables := start } inputs) gone ahead stored := by
  obtain ⟨dead, sound⟩ := start.2
  refine (producer c).history (G := fun _ => True)
    (P := fun past p => ∃ gone ahead stored, Kept c start past p gone ahead stored)
    ⟨[], [], [], ?_⟩ ?_ inputs fun _ _ => trivial
  · exact ⟨rfl, Nat.zero_le _, nil_prefix, rfl, rfl, by simp [accepted], trivial, by simp⟩
  · rintro past p input ⟨gone, ahead, stored, h⟩ -
    exact h.step sound input

/-- At every moment of every interleaving, and whichever writes fail, an accepted event is still
queued or is in the inbox, and events leave the queue in the order in which they came. -/
theorem accepted_queued_or_stored (c : Config) :
    let p := (producer c).run { tables := start } inputs
    ∃ gone, accepted ((producer c).trace { tables := start } inputs) = gone ++ p.queue ∧
      p.queue.length ≤ max c.policy.capacity 1 ∧
      ∀ event ∈ gone, Listed c.tenant p.tables.2 event := by
  obtain ⟨gone, ahead, stored, h⟩ := run_kept start inputs c
  exact ⟨gone, h.order, h.bounded, h.stored_gone start.2⟩

/-- At every moment of every interleaving of publish calls of different events with one drain,
whichever writes fail, the queue is an end of the accepted events and the inbox holds a beginning of
them, each once and, but for those that were there before, in order; the two cover them all. -/
theorem accepted_filed_in_order (c : Config)
    (distinct :
      ((accepted ((producer c).trace { tables := start } inputs)).map (·.dedupKey)).Nodup) :
    let p := (producer c).run { tables := start } inputs
    ∃ gone ahead rest, accepted ((producer c).trace { tables := start } inputs) =
        gone ++ ahead ++ rest ∧ p.queue = ahead ++ rest ∧
      (∀ event ∈ gone ++ ahead, Listed c.tenant p.tables.2 event) ∧
      Filed c start p.tables
        ((gone ++ ahead).filter fun event => ¬Listed c.tenant start.1.2 event) ∧
      p.queue.length ≤ max c.policy.capacity 1 ∧
      ∀ event ∈ gone ++ ahead ++ rest, event.target.tenant = c.tenant := by
  obtain ⟨gone, ahead, stored, h⟩ := run_kept start inputs c
  obtain ⟨dead, sound⟩ := start.2
  obtain ⟨rest, hqueue⟩ := h.head
  have horder := h.order
  rw [← hqueue, ← append_assoc] at horder
  have hown := h.own.1
  rw [horder] at distinct hown
  refine ⟨gone, ahead, rest, horder, hqueue.symm, h.listed sound, ?_, h.bounded, hown⟩
  rw [h.tables, ← h.events]
  apply recorded_filed c stored sound
  rw [map_append, nodup_append, ← h.events, map_map] at distinct
  exact distinct.1

/-- Two events, the first written although its write was reported as failed. -/
theorem accepted_filed_in_order_retried :
    let c : Config := { tenant := "acme", inbox := sampleSetting }
    let p := (producer c).run { tables := (0, ∅) }
      [.publish 0 (sampleEvent "acme" "d0" .started 0), .push 0, .drain {}, .drain {},
        .drain { reply := .lost }, .publish 1 (sampleEvent "acme" "d1" .started 0), .push 1]
    p.queue.length = 2 ∧ ∃ gone ahead rest, p.queue = ahead ++ rest ∧
      Filed c (0, ∅) p.tables (gone ++ ahead) := by
  refine ⟨by decide +kernel, ?_⟩
  obtain ⟨gone, ahead, rest, -, hqueue, -, hfiled, -⟩ :=
    accepted_filed_in_order ⟨(0, ∅), [], by constructor <;> simp⟩
      [.publish 0 (sampleEvent "acme" "d0" .started 0), .push 0, .drain {}, .drain {},
        .drain { reply := .lost }, .publish 1 (sampleEvent "acme" "d1" .started 0), .push 1]
      { tenant := "acme", inbox := sampleSetting } (by decide +kernel)
  exact ⟨gone, ahead, rest, hqueue, by simpa [Listed] using hfiled⟩

/-- When `run` has returned, the accepted events are those in the inbox, as many as it reports
abandoned, and then only events whose calls were under way when the producer closed. -/
theorem shutdown_accounts (c : Config)
    (hreturned : ((producer c).run { tables := start } inputs).phase = .returned) :
    let p := (producer c).run { tables := start } inputs
    let past := (producer c).trace { tables := start } inputs
    ∃ gone rest late, accepted past = gone ++ rest ++ late ∧
      (∀ event ∈ gone, Listed c.tenant p.tables.2 event) ∧ rest.length = p.report.abandoned ∧
      ∀ event ∈ late, Straddles past event := by
  obtain ⟨gone, ahead, stored, h⟩ := run_kept start inputs c
  have hstands := h.stands
  rw [hreturned] at hstands
  obtain ⟨-, rest, late, hqueue, hcount, hlate⟩ := hstands
  refine ⟨gone, rest, late, ?_, h.stored_gone start.2, hcount, fun event he => (hlate event he).1⟩
  rw [h.order, hqueue, append_assoc]

/-- An event accepted after the count: the inbox is empty, and the report counts none. -/
theorem shutdown_accounts_race : ∃ gone rest late,
    [sampleEvent "acme" "d0" .started 0] = gone ++ rest ++ late ∧
      (∀ event ∈ gone, Listed "acme" ∅ event) ∧ rest.length = 0 := by
  obtain ⟨gone, rest, late, haccepted, hstored, hcount, -⟩ :=
    shutdown_accounts ⟨(0, ∅), [], by constructor <;> simp⟩
      [.publish 0 (sampleEvent "acme" "d0" .started 0), .drain {}, .drain { shutdown := true },
        .drain {}, .drain {}, .push 0] { tenant := "acme", inbox := sampleSetting } rfl
  exact ⟨gone, rest, late, haccepted, hstored, hcount⟩

/-- When `run` has returned and no event was accepted after its count, every accepted event is in the
inbox or is one of those reported abandoned. -/
theorem shutdown_reports_all (c : Config)
    (hreturned : ((producer c).run { tables := start } inputs).phase = .returned)
    (quiet : ∀ st ∈ (producer c).trace { tables := start } inputs,
      st.before.phase matches .returned → acceptedBy st = none) :
    let p := (producer c).run { tables := start } inputs
    ∃ gone rest, accepted ((producer c).trace { tables := start } inputs) = gone ++ rest ∧
      (∀ event ∈ gone, Listed c.tenant p.tables.2 event) ∧ rest.length = p.report.abandoned := by
  obtain ⟨gone, ahead, stored, h⟩ := run_kept start inputs c
  have hstands := h.stands
  rw [hreturned] at hstands
  obtain ⟨-, rest, late, hqueue, hcount, hlate⟩ := hstands
  obtain rfl : late = [] := by
    refine eq_nil_iff_forall_not_mem.mpr fun event he => ?_
    obtain ⟨-, st, hst, haccepted, hphase⟩ := hlate event he
    rw [quiet st hst hphase] at haccepted
    cases haccepted
  refine ⟨gone, rest, ?_, h.stored_gone start.2, hcount⟩
  rw [h.order, hqueue, append_nil]

/-- The call is under way when the producer closes, and its event is abandoned and counted. -/
theorem shutdown_reports_all_abandoned : ∃ gone rest,
    [sampleEvent "acme" "d0" .started 0] = gone ++ rest ∧
      (∀ event ∈ gone, Listed "acme" ∅ event) ∧ rest.length = 1 :=
  shutdown_reports_all ⟨(0, ∅), [], by constructor <;> simp⟩
    [.publish 0 (sampleEvent "acme" "d0" .started 0), .drain {}, .drain { shutdown := true },
      .push 0, .drain {}, .drain { connected := false }, .drain {}]
    { tenant := "acme", policy := { maxAttempts := 1 }, inbox := sampleSetting } rfl
    (by decide +kernel)

/-- The call passes its tests before the producer closes and takes the lock after the count. -/
theorem accepted_unreported :
    let c : Config := { tenant := "acme", inbox := sampleSetting }
    let inputs := [.publish 0 (sampleEvent "acme" "d0" .started 0), .drain {},
      .drain { shutdown := true }, .drain {}, .drain {}, .push 0]
    let p := (producer c).run { tables := (0, ∅) } inputs
    p.phase = .returned ∧ accepted ((producer c).trace { tables := (0, ∅) } inputs) =
        [sampleEvent "acme" "d0" .started 0] ∧
      p.tables.2 = ∅ ∧ p.report.abandoned = 0 :=
  ⟨rfl, rfl, rfl, rfl⟩

end Tidegard.IncidentPostgres.Proofs.Producer
