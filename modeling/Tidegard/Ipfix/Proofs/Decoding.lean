import Tidegard.Ipfix.Decoder

namespace Tidegard.Ipfix.Proofs.Decoding

open Actions Checked Tables Decoder

variable {input : Bytes} {offset : Nat} {c : TemplateCache}
variable {i id : Nat}

theorem u16At_safe (h : i + 1 < input.length) : Safe (fun _ => True) (u16At input i) := by
  refine (Safe.index (by omega)).bind fun _ _ => ?_
  exact (Safe.index h).bind fun _ _ => trivial

theorem u32At_safe (h : i + 3 < input.length) : Safe (fun _ => True) (u32At input i) := by
  refine (Safe.index (by omega)).bind fun _ _ => ?_
  refine (Safe.index (by omega)).bind fun _ _ => ?_
  refine (Safe.index (by omega)).bind fun _ _ => ?_
  exact (Safe.index h).bind fun _ _ => trivial

theorem header_parse_safe (input : Bytes) :
    Safe (fun h => messageHeaderLen ≤ h.length ∧ h.length ≤ input.length)
      (MessageHeader.parse input) := by
  refine (Safe.failIf _ _).bind fun _ hlen => ?_
  have hfull : 16 ≤ input.length := Nat.le_of_not_lt hlen
  refine (u16At_safe (by omega)).bind fun version _ => ?_
  refine (Safe.failIf _ _).bind fun _ _ => ?_
  refine (u16At_safe (by omega)).bind fun length _ => ?_
  refine (Safe.failIf _ _).bind fun _ hshort => ?_
  refine (Safe.failIf _ _).bind fun _ hlong => ?_
  refine (u32At_safe (by omega)).bind fun _ _ => ?_
  refine (u32At_safe (by omega)).bind fun _ _ => ?_
  refine (u32At_safe (by omega)).bind fun _ _ => ?_
  exact ⟨Nat.le_of_not_lt hshort, Nat.le_of_not_lt hlong⟩

theorem fieldSpecifier_parse_safe (input : Bytes) :
    Safe (fun r => 4 ≤ r.2 ∧ r.2 ≤ input.length) (FieldSpecifier.parse input) := by
  refine (Safe.failIf _ _).bind fun _ hlen => ?_
  refine (u16At_safe (by omega)).bind fun rawId _ => ?_
  refine (u16At_safe (by omega)).bind fun fieldLength _ => ?_
  dsimp only
  split
  · refine (Safe.failIf _ _).bind fun _ hlong => ?_
    refine (u32At_safe (by omega)).bind fun _ _ => ?_
    exact ⟨Nat.le_add_left 4 4, Nat.le_of_not_lt hlong⟩
  · exact ⟨le_rfl, Nat.le_of_not_lt hlen⟩

theorem parseFields_safe (input : Bytes) (count : Nat) (h : offset ≤ input.length) :
    Safe (fun r => offset ≤ r.2 ∧ r.2 ≤ input.length) (parseFields input count offset) := by
  induction count generalizing offset with
  | zero => exact ⟨le_rfl, h⟩
  | succ count ih =>
    refine (Safe.sliceFrom h).bind fun rest hrest => ?_
    refine (fieldSpecifier_parse_safe rest).bind fun r hr => ?_
    have hnext : offset + r.2 ≤ input.length := by omega
    refine (ih hnext).bind fun rs hrs => ?_
    exact ⟨by omega, hrs.2⟩

theorem parseScope_safe (fieldCount : Nat) (isOptions : Bool)
    (h : (if isOptions then 6 else 4) ≤ input.length) :
    Safe (fun r => 4 ≤ r.2 ∧ r.2 ≤ input.length) (parseScope input fieldCount isOptions) := by
  cases isOptions with
  | false => exact ⟨le_rfl, h⟩
  | true =>
    have hlen : 6 ≤ input.length := h
    refine (u16At_safe (by omega)).bind fun scope _ => ?_
    refine (Safe.failIf _ _).bind fun _ _ => ?_
    exact ⟨Nat.le_add_left 4 2, hlen⟩

theorem parseRecord_safe (input : Bytes) (isOptions : Bool) :
    Safe (fun r => 4 ≤ r.2 ∧ r.2 ≤ input.length) (Template.parseRecord input isOptions) := by
  refine (Safe.failIf _ _).bind fun _ hlen => ?_
  have hheader : (if isOptions then 6 else 4) ≤ input.length := Nat.le_of_not_lt hlen
  have hfour : 4 ≤ input.length := by
    cases isOptions
    · exact hheader
    · exact le_trans (by decide) hheader
  refine (u16At_safe (by omega)).bind fun templateId _ => ?_
  refine (u16At_safe (by omega)).bind fun fieldCount _ => ?_
  refine (parseScope_safe fieldCount isOptions hheader).bind fun scope hscope => ?_
  refine (Safe.sub hscope.2).bind fun _ _ => ?_
  refine (parseFields_safe input fieldCount hscope.2).bind fun fields hfields => ?_
  exact ⟨hscope.1.trans hfields.1, hfields.2⟩

theorem readVariableLengthPrefix_safe (input : Bytes) :
    Safe (fun r => 1 ≤ r.2 ∧ r.2 ≤ input.length) (readVariableLengthPrefix input) := by
  cases input with
  | nil => trivial
  | cons =>
    unfold readVariableLengthPrefix
    dsimp only
    split
    · exact ⟨le_rfl, by simp⟩
    · refine (Safe.failIf _ _).bind fun _ hlen => ?_
      refine (u16At_safe (by omega)).bind fun len _ => ?_
      exact ⟨Nat.le_add_left 1 2, Nat.le_of_not_lt hlen⟩

theorem mapError_safe {α : Type} {Q : α → Prop} (e : DecodeError) {x : Decoded α}
    (h : Safe Q x) : Safe Q (mapError e x) := by
  cases x with
  | ok a => exact h
  | error fault =>
    cases fault with
    | failed => trivial
    | panicked | exhausted => exact h.elim

theorem fieldExtent_safe (templateId : Nat) (spec : FieldSpecifier) (h : offset ≤ input.length) :
    Safe (fun r => offset ≤ r.2 ∧ r.2 ≤ input.length ∧ offset + spec.minLen ≤ r.2 + r.1)
      (fieldExtent templateId input spec offset) := by
  unfold fieldExtent FieldSpecifier.minLen
  split
  · refine (Safe.sliceFrom h).bind fun rest hrest => ?_
    refine (mapError_safe _ (readVariableLengthPrefix_safe rest)).bind fun r hr => ?_
    change offset ≤ offset + r.2 ∧ offset + r.2 ≤ input.length ∧ offset + 1 ≤ offset + r.2 + r.1
    omega
  · exact ⟨le_rfl, h, le_rfl⟩

theorem decodeFields_safe (templateId : Nat) (input : Bytes) (specs : List FieldSpecifier)
    (h : offset ≤ input.length) :
    Safe (fun r => offset + (specs.map FieldSpecifier.minLen).sum ≤ r.2 ∧ r.2 ≤ input.length)
      (decodeFields templateId input specs offset) := by
  induction specs generalizing offset with
  | nil => exact ⟨le_rfl, h⟩
  | cons spec specs ih =>
    refine (fieldExtent_safe templateId spec h).bind fun r hr => ?_
    refine (Safe.failIf _ _).bind fun _ hfits => ?_
    refine (Safe.slice (by omega) (by omega)).bind fun value _ => ?_
    have hnext : r.2 + r.1 ≤ input.length := by omega
    refine (ih hnext).bind fun rs hrs => ?_
    refine ⟨?_, hrs.2⟩
    rw [List.map_cons, List.sum_cons]
    change _ ≤ rs.2
    omega

theorem decodeDataRecord_safe (template : Template) (input : Bytes) :
    Safe (fun r => template.minRecordLen ≤ r.2 ∧ r.2 ≤ input.length)
      (decodeDataRecord template input) := by
  refine (decodeFields_safe template.templateId input template.fields (Nat.zero_le _)).bind
    fun r hr => ?_
  rw [Nat.zero_add] at hr
  exact hr

/-- Every record takes a byte, so as many turns as there are bytes, and one, are enough. -/
theorem decodeRecords_safe (template : Template) (setBody : Bytes) (turns : Nat)
    (h : offset ≤ setBody.length) (enough : setBody.length - offset < turns) :
    Safe (fun records => records.length ≤ setBody.length - offset)
      (decodeRecords template setBody turns offset) := by
  induction turns generalizing offset with
  | zero => exact absurd enough (Nat.not_lt_zero _)
  | succ turns ih =>
    unfold decodeRecords
    split
    · rename_i hmore
      refine (Safe.sub h).bind fun left hleft => ?_
      split
      · exact Nat.zero_le _
      · refine (Safe.sliceFrom h).bind fun rest hrest => ?_
        refine (decodeDataRecord_safe template rest).bind fun r hr => ?_
        refine (Safe.failIf _ _).bind fun _ hconsumed => ?_
        have hnext : offset + r.2 ≤ setBody.length := by omega
        refine (ih hnext (by omega)).bind fun records hrecords => ?_
        change records.length + 1 ≤ setBody.length - offset
        omega
    · exact Nat.zero_le _

theorem decodeDataSet_safe (template : Template) (setBody : Bytes) :
    Safe (fun records => records.length ≤ setBody.length) (decodeDataSet template setBody) :=
  decodeRecords_safe template setBody _ (Nat.zero_le _) (by omega)

/-- A template that a record can be decoded by. -/
structure Usable (t : Template) : Prop where
  fields : t.fields ≠ []
  positive : 1 ≤ t.minRecordLen

/-- The counter is exact, the limits hold, and every template is usable and filed under its id. -/
structure Bounded (c : TemplateCache) : Prop where
  counted : c.fields = total (fun t => t.fields.length) c.templates
  templates : c.templates.size ≤ maxTemplates
  fields : c.fields ≤ maxTemplateFields
  filed : ∀ id t, c.templates[id]? = some t → t.templateId = id ∧ Usable t

theorem Bounded.new : Bounded TemplateCache.new where
  counted := rfl
  templates := Nat.zero_le _
  fields := Nat.zero_le _
  filed id t h := by simp [TemplateCache.new] at h

theorem Bounded.held (h : Bounded c) {t : Template} (ht : c.templates[id]? = some t) :
    t.fields.length ≤ c.fields := by
  rw [h.counted, total_of_get _ ht]
  omega

theorem displaced_le (h : Bounded c) (template : Template) :
    (c.displaced template).2 ≤ c.fields := by
  unfold TemplateCache.displaced
  split
  · rename_i old hold
    exact h.held hold
  · exact Nat.zero_le _

theorem displaced_counts (h : Bounded c) (template : Template) :
    (c.templates.insert template.templateId template).size = (c.displaced template).1 ∧
      total (fun t => t.fields.length) (c.templates.insert template.templateId template) =
        c.fields - (c.displaced template).2 + template.fields.length := by
  rw [Std.ExtTreeMap.size_insert, total_insert, Std.ExtTreeMap.contains_eq_isSome_getElem?]
  unfold TemplateCache.displaced
  cases hold : c.templates[template.templateId]? with
  | none =>
    rw [erase_of_get_none hold, ← h.counted]
    exact ⟨rfl, by dsimp only; omega⟩
  | some old =>
    have htotal := total_of_get (fun t => t.fields.length) hold
    rw [← h.counted] at htotal
    exact ⟨rfl, by dsimp only; omega⟩

theorem insert_safe (h : Bounded c) {template : Template} (usable : Usable template) :
    SafeFrom (insert template) () c Bounded fun _ _ => True := by
  refine (SafeFrom.get h).bind fun c' t hc _ => ?_
  obtain ⟨rfl, rfl⟩ := hc
  refine (SafeFrom.ofExcept (Q := fun kept u => kept = t.fields - (t.displaced template).2 ∧ u = t)
    h (Safe.sub (displaced_le h template)) fun _ hkept => ⟨hkept, rfl⟩).bind fun kept u hkept _ => ?_
  obtain ⟨rfl, rfl⟩ := hkept
  refine (SafeFrom.ofExcept (Q := fun _ v => _ ∧ v = u) h (Safe.failIf _ _)
    fun _ hlimits => ⟨hlimits, rfl⟩).bind fun _ v hlimits _ => ?_
  obtain ⟨hlimits, rfl⟩ := hlimits
  obtain ⟨hsize, htotal⟩ := displaced_counts h template
  rw [not_or, Nat.not_lt, Nat.not_lt] at hlimits
  refine SafeFrom.modify ⟨htotal.symm, hsize.le.trans hlimits.1, hlimits.2, ?_⟩ trivial
  intro id t ht
  exact forall_insert h.filed ⟨rfl, usable⟩ ht

theorem remove_held {old : Template} (hold : c.templates[id]? = some old)
    (hle : old.fields.length ≤ c.fields) :
    remove id () c = (.ok (), { c with templates := c.templates.erase id,
                                       fields := c.fields - old.fields.length }) := by
  have hget : (Action.get : Caching TemplateCache) () c = (.ok c, c) := rfl
  have hsub : (sub c.fields old.fields.length : Decoded Nat) =
      .ok (c.fields - old.fields.length) := if_pos hle
  unfold remove
  rw [Action.bind_of_ok hget, hold]
  dsimp only
  rw [hsub]
  rfl

theorem remove_safe (h : Bounded c) (id : Nat) :
    SafeFrom (remove id) () c Bounded fun _ _ => True := by
  cases hold : c.templates[id]? with
  | none =>
    have hnothing : remove id () c = (.ok (), c) := by
      have hget : (Action.get : Caching TemplateCache) () c = (.ok c, c) := rfl
      unfold remove
      rw [Action.bind_of_ok hget, hold]
      rfl
    unfold SafeFrom Action.Ends
    rw [hnothing]
    exact ⟨trivial, h⟩
  | some old =>
    unfold SafeFrom Action.Ends
    rw [remove_held hold (h.held hold)]
    refine ⟨trivial, ?_, Std.ExtTreeMap.size_erase_le.trans h.templates,
      (Nat.sub_le _ _).trans h.fields, fun i t ht => ?_⟩
    · dsimp only
      rw [h.counted, total_of_get _ hold]
      omega
    · exact h.filed i t (get_of_erase ht)

theorem withdraw_safe (h : Bounded c) (id : Nat) :
    SafeFrom (withdraw id) () c Bounded fun _ _ => True := by
  unfold withdraw
  split
  · exact SafeFrom.modify Bounded.new trivial
  · exact remove_safe h id

theorem takeTemplate_safe (h : Bounded c) (template : Template) :
    SafeFrom (takeTemplate template) () c Bounded fun _ _ => True := by
  unfold takeTemplate
  split
  · exact (withdraw_safe h _).bind fun _ _ _ ht => SafeFrom.pure ht trivial
  · rename_i hfields
    refine (SafeFrom.ofExcept (Q := fun _ u => template.minRecordLen ≠ 0 ∧ u = c) h
      (Safe.failIf _ _) fun _ hpos => ⟨hpos, rfl⟩).bind fun _ u hpos _ => ?_
    obtain ⟨hpos, rfl⟩ := hpos
    have usable : Usable template := ⟨by simpa using hfields, Nat.one_le_iff_ne_zero.mpr hpos⟩
    exact (insert_safe h usable).bind fun _ _ _ ht => SafeFrom.pure ht trivial

/-- Every template record takes bytes, so the loop over a set ends. -/
theorem parseTemplates_safe (setBody : Bytes) (isOptions : Bool) (turns : Nat)
    (hoff : offset ≤ setBody.length) (enough : setBody.length - offset < turns) (h : Bounded c) :
    SafeFrom (parseTemplates setBody isOptions turns offset) () c Bounded fun _ _ => True := by
  induction turns generalizing offset c with
  | zero => exact absurd enough (Nat.not_lt_zero _)
  | succ turns ih =>
    unfold parseTemplates
    split
    · refine (SafeFrom.ofExcept (Q := fun _ _ => True) h (Safe.sub hoff) fun _ _ => trivial).bind
        fun left u _ hu => ?_
      split
      · exact SafeFrom.pure hu trivial
      · refine (SafeFrom.ofExcept (Q := fun rest _ => rest.length = setBody.length - offset) hu
          (Safe.sliceFrom hoff) fun _ hrest => hrest).bind fun rest v hrest hv => ?_
        refine (SafeFrom.ofExcept (Q := fun r _ => 4 ≤ r.2 ∧ r.2 ≤ rest.length) hv
          (parseRecord_safe rest isOptions) fun _ hr => hr).bind fun r w hr hw => ?_
        refine (takeTemplate_safe hw r.1).bind fun taken x _ hx => ?_
        have hnext : offset + r.2 ≤ setBody.length := by omega
        refine (ih hnext (by omega) hx).bind fun parsed y _ hy => ?_
        exact SafeFrom.pure hy trivial
    · exact SafeFrom.pure h trivial

theorem observe_bounded (h : Bounded c) (records : List DataRecord) :
    Bounded (records.foldl TemplateCache.observeOptionsData c) := by
  induction records generalizing c with
  | nil => exact h
  | cons record records ih => exact ih ⟨h.counted, h.templates, h.fields, h.filed⟩

theorem decodeSet_safe (h : Bounded c) (setId : Nat) (setBody : Bytes) :
    SafeFrom (decodeSet setId setBody) () c Bounded fun set _ =>
      set.recordCount ≤ setBody.length := by
  have hparse (isOptions : Bool) := parseTemplates_safe setBody isOptions (setBody.length + 1)
    (Nat.zero_le _) (by omega) h
  unfold decodeSet
  split
  · exact (hparse false).bind fun _ _ _ ht => SafeFrom.pure ht (Nat.zero_le _)
  split
  · exact (hparse true).bind fun _ _ _ ht => SafeFrom.pure ht (Nat.zero_le _)
  split
  · exact SafeFrom.pure h (Nat.zero_le _)
  refine (SafeFrom.get h).bind fun c' t hc ht => ?_
  obtain ⟨rfl, rfl⟩ := hc
  split
  · exact SafeFrom.pure ht (Nat.zero_le _)
  · rename_i template _
    refine (SafeFrom.ofExcept (Q := fun records _ => records.length ≤ setBody.length) ht
      (decodeDataSet_safe template setBody) fun _ hrecords => hrecords).bind
      fun records u hrecords hu => ?_
    refine (SafeFrom.modify (Q := fun _ _ => True) ?_ trivial).bind fun _ v _ hv =>
      SafeFrom.pure hv hrecords
    split
    · exact observe_bounded hu records
    · exact hu

/-- Every set takes its header, so the loop over a message ends, and the records of all sets
together number no more than the bytes. -/
theorem decodeSets_safe (body : Bytes) (turns : Nat) (hoff : offset ≤ body.length)
    (enough : body.length - offset < turns) (h : Bounded c) :
    SafeFrom (decodeSets body turns offset) () c Bounded fun sets _ =>
      (sets.map DecodedSet.recordCount).sum ≤ body.length - offset := by
  induction turns generalizing offset c with
  | zero => exact absurd enough (Nat.not_lt_zero _)
  | succ turns ih =>
    unfold decodeSets
    split
    · refine (SafeFrom.ofExcept (Q := fun rest _ => rest.length = body.length - offset) h
        (Safe.sliceFrom hoff) fun _ hrest => hrest).bind fun remaining u hrest hu => ?_
      split
      · exact SafeFrom.pure hu (Nat.zero_le _)
      · rename_i hheader
        have hfour : 4 ≤ remaining.length := Nat.le_of_not_lt hheader
        refine (SafeFrom.ofExcept (Q := fun _ _ => True) hu (u16At_safe (by omega))
          fun _ _ => trivial).bind fun setId v _ hv => ?_
        refine (SafeFrom.ofExcept (Q := fun _ _ => True) hv (u16At_safe (by omega))
          fun _ _ => trivial).bind fun setLen w _ hw => ?_
        refine (SafeFrom.ofExcept (Q := fun _ _ => ¬setLen < setHeaderLen) hw (Safe.failIf _ _)
          fun _ hshort => hshort).bind fun _ x hshort hx => ?_
        refine (SafeFrom.ofExcept (Q := fun _ _ => ¬remaining.length < setLen) hx
          (Safe.failIf _ _) fun _ hlong => hlong).bind fun _ y hlong hy => ?_
        have hset : 4 ≤ setLen := Nat.le_of_not_lt hshort
        have hfits : setLen ≤ remaining.length := Nat.le_of_not_lt hlong
        refine (SafeFrom.ofExcept (Q := fun s _ => s.length = setLen - setHeaderLen) hy
          (Safe.slice hset hfits) fun _ hslice => hslice).bind fun setBody z hbody hz => ?_
        refine (decodeSet_safe hz setId setBody).bind fun set a hcount ha => ?_
        have hnext : offset + setLen ≤ body.length := by omega
        refine (ih hnext (by omega) ha).bind fun sets b hsets hb => ?_
        refine SafeFrom.pure hb ?_
        rw [List.map_cons, List.sum_cons]
        omega
    · exact SafeFrom.pure h (Nat.zero_le _)

theorem decodeMessage_safe (input : Bytes) (h : Bounded c) :
    SafeFrom (decodeMessage input) () c Bounded fun m _ =>
      messageHeaderLen ≤ m.header.length ∧ m.header.length ≤ input.length ∧
        m.recordCount ≤ m.header.length - messageHeaderLen := by
  refine (SafeFrom.ofExcept (Q := fun header _ => messageHeaderLen ≤ header.length ∧
    header.length ≤ input.length) h (header_parse_safe input) fun _ hheader => hheader).bind
    fun header t hheader ht => ?_
  refine (SafeFrom.ofExcept (Q := fun body _ => body.length = header.length - messageHeaderLen) ht
    (Safe.slice hheader.1 hheader.2) fun _ hbody => hbody).bind fun body u hbody hu => ?_
  refine (decodeSets_safe body (body.length + 1) (Nat.zero_le _) (by omega) hu).bind
    fun sets v hsets hv => ?_
  refine SafeFrom.pure hv ⟨hheader.1, hheader.2, ?_⟩
  rw [← hbody]
  exact hsets

theorem run_bounded (calls : List Call) : Bounded (cacheMachine.run .new calls) :=
  cacheMachine.invariant (G := fun _ => True) Bounded.new
    (fun c call h _ => by
      cases call with
      | decodeMessage input => exact (decodeMessage_safe input h).2
      | clear => exact Bounded.new)
    calls fun _ _ => trivial

/-- Whatever was decoded or cleared before, a message is decoded or refused with an error: no loop
runs on, no index is out of range, and there are no more data records than bytes in the body. -/
theorem decode_ends (calls : List Call) (input : Bytes) :
    match (decodeMessage input () (cacheMachine.run .new calls)).1 with
    | .ok m => messageHeaderLen ≤ m.header.length ∧ m.header.length ≤ input.length ∧
        m.recordCount ≤ m.header.length - messageHeaderLen
    | .error fault => ∃ e, fault = .failed e := by
  have h := (decodeMessage_safe input (run_bounded calls)).1
  split
  · rename_i m hm
    exact h.of_ok hm
  · rename_i fault hfault
    exact h.of_error hfault

/-- A template of one four-byte field, and a data set of two records and padding for it. -/
def sampleMessage : Bytes :=
  [0x00, 0x0a, 0x00, 0x29, 0, 0, 0, 8, 0, 0, 0, 1, 0, 0, 0, 7,
    0x00, 0x02, 0x00, 0x0c, 0x01, 0x00, 0x00, 0x01, 0x00, 0x08, 0x00, 0x04,
    0x01, 0x00, 0x00, 0x0d, 192, 0, 2, 1, 192, 0, 2, 2, 0]

example : ((decodeMessage sampleMessage () .new).1.map DecodedMessage.recordCount) = .ok 2 := by
  decide +kernel

/-- In every cache that decoding and clearing lead to, the field counter is the sum over the
templates, so that no insertion and no removal takes more from it than there is; the limits hold;
and every template is filed under its own id, with a field and a record of at least a byte. -/
theorem cache_bounded (calls : List Call) :
    let c := cacheMachine.run .new calls
    c.fields = (c.templates.toList.map fun e => e.2.fields.length).sum ∧
    (∀ template, (c.displaced template).2 ≤ c.fields) ∧
    (∀ (id : Nat) (t : Template), c.templates[id]? = some t → t.fields.length ≤ c.fields) ∧
    c.templates.size ≤ maxTemplates ∧ c.fields ≤ maxTemplateFields ∧
    ∀ (id : Nat) (t : Template), c.templates[id]? = some t →
      t.templateId = id ∧ t.fields ≠ [] ∧ 1 ≤ t.minRecordLen := by
  have h := run_bounded calls
  refine ⟨h.counted, displaced_le h, fun id t ht => h.held ht, h.templates, h.fields, ?_⟩
  intro id t ht
  obtain ⟨hid, husable⟩ := h.filed id t ht
  exact ⟨hid, husable.fields, husable.positive⟩

end Tidegard.Ipfix.Proofs.Decoding
