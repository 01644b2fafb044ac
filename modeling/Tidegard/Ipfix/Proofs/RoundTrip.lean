import Tidegard.Fallible
import Tidegard.Ipfix.Proofs.Frames

namespace Tidegard.Ipfix.Proofs.RoundTrip

open List Checked Fallible Decoder Frames

variable {bytes : Bytes} {fields : List DecodedField} {template : Template}
variable {spec : FieldSpecifier} {value padding : Bytes} {specs : List FieldSpecifier}
variable {records : List DataRecord}

/-- `n.to_be_bytes()` of a `u16`. -/
def be16 (n : Nat) : Bytes := [UInt8.ofNat (n / 256), UInt8.ofNat (n % 256)]

theorem fromBeBytes_be16 (h : n < 2 ^ 16) : fromBeBytes (be16 n) = n := by
  simp only [fromBeBytes, be16, foldl_cons, foldl_nil, UInt8.toNat_ofNat']
  omega

/-- The bytes a field's value takes. A variable one below 255 bytes may have either form of the
length before it. -/
inductive EncodesField (spec : FieldSpecifier) (value : Bytes) : Bytes → Prop
  | fixed (length : spec.fieldLength ≠ variableLength)
      (exact : value.length = spec.fieldLength) : EncodesField spec value value
  | short (length : spec.fieldLength = variableLength) (small : value.length < 255) :
      EncodesField spec value (UInt8.ofNat value.length :: value)
  | long (length : spec.fieldLength = variableLength) (fits : value.length ≤ 65535) :
      EncodesField spec value (0xFF :: be16 value.length ++ value)

inductive EncodesFields : List FieldSpecifier → List DecodedField → Bytes → Prop
  | nil : EncodesFields [] [] []
  | cons {spec : FieldSpecifier} {value bytes rest : Bytes} {specs : List FieldSpecifier}
      {fields : List DecodedField} (field : EncodesField spec value bytes)
      (others : EncodesFields specs fields rest) :
      EncodesFields (spec :: specs)
        ({ informationElementId := spec.informationElementId,
           enterpriseNumber := spec.enterpriseNumber, value } :: fields) (bytes ++ rest)

/-- The records of a data set, one after the other. -/
inductive EncodesRecords (template : Template) : List DataRecord → Bytes → Prop
  | nil : EncodesRecords template [] []
  | cons {fields : List DecodedField} {bytes rest : Bytes} {records : List DataRecord}
      (record : EncodesFields template.fields fields bytes)
      (others : EncodesRecords template records rest) :
      EncodesRecords template ({ templateId := template.templateId, fields } :: records)
        (bytes ++ rest)

theorem sliceFrom_append (before rest : Bytes) :
    (sliceFrom (before ++ rest) before.length : Decoded Bytes) = .ok rest := by
  simp [sliceFrom]

theorem slice_append (before value rest : Bytes) :
    (slice (before ++ (value ++ rest)) before.length (before.length + value.length) :
      Decoded Bytes) = .ok value := by
  unfold slice
  rw [if_pos ⟨Nat.le_add_right _ _, by simp only [length_append]; omega⟩,
    take_append, drop_append]
  simp

theorem fieldExtent_encoded (h : EncodesField spec value bytes) (templateId : Nat)
    (before rest : Bytes) :
    ∃ lead, bytes = lead ++ value ∧
      fieldExtent templateId (before ++ (bytes ++ rest)) spec before.length =
        .ok (value.length, before.length + lead.length) := by
  unfold fieldExtent
  cases h with
  | fixed length exact =>
    refine ⟨[], rfl, ?_⟩
    rw [if_neg length, exact]
    rfl
  | short length small =>
    refine ⟨[UInt8.ofNat value.length], rfl, ?_⟩
    have hfirst : UInt8.ofNat value.length ≠ 0xFF := by
      intro heq
      have := congrArg UInt8.toNat heq
      simp only [UInt8.toNat_ofNat'] at this
      change value.length % 256 = 255 at this
      omega
    have hlen : (UInt8.ofNat value.length).toNat = value.length := by
      rw [UInt8.toNat_ofNat']
      omega
    rw [if_pos length, sliceFrom_append, ok_bind, cons_append]
    unfold readVariableLengthPrefix
    dsimp only
    rw [if_pos hfirst, hlen]
    rfl
  | long length fits =>
    refine ⟨0xFF :: be16 value.length, rfl, ?_⟩
    have hlen := fromBeBytes_be16 (n := value.length) (by omega)
    have hread : readVariableLengthPrefix (0xFF :: be16 value.length ++ value ++ rest) =
        .ok (fromBeBytes (be16 value.length), 3) := rfl
    rw [if_pos length, sliceFrom_append, ok_bind, hread, hlen]
    rfl

theorem decodeFields_encoded (h : EncodesFields specs fields bytes) (templateId : Nat)
    (before rest : Bytes) :
    decodeFields templateId (before ++ (bytes ++ rest)) specs before.length =
      .ok (fields, before.length + bytes.length) := by
  induction h generalizing before with
  | nil => rfl
  | @cons spec value bytes tail specs fields field others ih =>
    obtain ⟨lead, rfl, hextent⟩ := fieldExtent_encoded field templateId before (tail ++ rest)
    have hinput : before ++ (lead ++ value ++ tail ++ rest) =
        (before ++ lead) ++ (value ++ (tail ++ rest)) := by simp
    have hinput' : before ++ (lead ++ value ++ tail ++ rest) =
        (before ++ lead ++ value) ++ (tail ++ rest) := by simp
    have hvalue : (slice (before ++ (lead ++ value ++ tail ++ rest)) (before ++ lead).length
        ((before ++ lead).length + value.length) : Decoded Bytes) = .ok value := by
      rw [hinput, slice_append]
    have hnext := ih (before ++ lead ++ value)
    rw [← hinput'] at hnext
    rw [← append_assoc (lead ++ value)] at hextent
    unfold decodeFields failIf
    rw [hextent, ok_bind]
    dsimp only
    rw [if_neg (by simp only [length_append]; omega), ok_bind, ← length_append, hvalue,
      ok_bind, ← length_append, hnext, ok_bind]
    simp only [length_append, Nat.add_assoc]
    rfl

theorem minLen_le (h : EncodesField spec value bytes) : spec.minLen ≤ bytes.length := by
  unfold FieldSpecifier.minLen
  cases h with
  | fixed length exact => rw [if_neg length, exact]
  | short length small =>
    rw [if_pos length, length_cons]
    omega
  | long length fits =>
    rw [if_pos length, length_append, length_cons]
    omega

theorem minRecordLen_le (h : EncodesFields specs fields bytes) :
    (specs.map FieldSpecifier.minLen).sum ≤ bytes.length := by
  induction h with
  | nil => exact le_rfl
  | cons field others ih =>
    rw [map_cons, sum_cons, length_append]
    exact Nat.add_le_add (minLen_le field) ih

theorem decodeDataRecord_encoded (h : EncodesFields template.fields fields bytes) (rest : Bytes) :
    decodeDataRecord template (bytes ++ rest) =
      .ok ({ templateId := template.templateId, fields }, bytes.length) := by
  have hfields := decodeFields_encoded h template.templateId [] rest
  rw [nil_append, length_nil, Nat.zero_add] at hfields
  unfold decodeDataRecord
  rw [hfields]
  rfl

theorem decodeRecords_encoded (hpos : 1 ≤ template.minRecordLen)
    (h : EncodesRecords template records bytes) (hpad : padding.length < template.minRecordLen)
    (before : Bytes) (enough : (bytes ++ padding).length < turns) :
    decodeRecords template (before ++ (bytes ++ padding)) turns before.length = .ok records := by
  have hmin : max template.minRecordLen 1 = template.minRecordLen := max_eq_left hpos
  induction h generalizing before turns with
    obtain ⟨turns, rfl⟩ : ∃ k, turns = k + 1 := ⟨turns - 1, by omega⟩
  | nil =>
    unfold decodeRecords
    split
    · have hleft : (sub (before ++ ([] ++ padding)).length before.length : Decoded Nat) =
          .ok padding.length := by
        simp [sub]
      rw [hleft, ok_bind, hmin, if_pos hpad]
      rfl
    · rfl
  | @cons fields bytes tail records record others ih =>
    have hlen : template.minRecordLen ≤ bytes.length := minRecordLen_le record
    simp only [length_append] at enough
    have hturns : (tail ++ padding).length < turns := by
      rw [length_append]
      omega
    have hnext := ih (before ++ bytes) hturns
    rw [append_assoc before, ← append_assoc bytes, length_append] at hnext
    have hleft : (sub (before ++ (bytes ++ tail ++ padding)).length before.length : Decoded Nat) =
        .ok (bytes ++ tail ++ padding).length := by
      simp [sub]
    unfold decodeRecords failIf
    rw [if_pos (by simp only [length_append]; omega), hleft, ok_bind, hmin,
      if_neg (by simp only [length_append]; omega), sliceFrom_append, ok_bind,
      append_assoc bytes, decodeDataRecord_encoded record, ok_bind]
    dsimp only
    rw [if_neg (by omega), ok_bind, ← append_assoc bytes, hnext]
    rfl

theorem decodeDataSet_encoded (hpos : 1 ≤ template.minRecordLen)
    (h : EncodesRecords template records bytes) (hpad : padding.length < template.minRecordLen) :
    decodeDataSet template (bytes ++ padding) = .ok records :=
  decodeRecords_encoded hpos h hpad [] (Nat.lt_succ_self _)

/-- A set with the header that says how long it is. -/
def encodeSet (frame : Frame) : Bytes :=
  be16 frame.1 ++ be16 (frame.2.length + setHeaderLen) ++ frame.2

/-- A set whose id and length fit the header. -/
def Encodable (frame : Frame) : Prop :=
  frame.1 < 2 ^ 16 ∧ frame.2.length + setHeaderLen < 2 ^ 16

/-- A body without anything but whole sets. -/
def WholeSets (body : Bytes) : Prop :=
  ∃ sets : List Frame, (∀ frame ∈ sets, Encodable frame) ∧ body = sets.flatMap encodeSet

theorem frames_encodeSet (h : Encodable frame) (turns : Nat) (rest : Bytes) :
    frames (turns + 1) (encodeSet frame ++ rest) =
      (frame :: (frames turns rest).1, (frames turns rest).2) := by
  obtain ⟨setId, setBody⟩ := frame
  have hid := fromBeBytes_be16 h.1
  have hlen := fromBeBytes_be16 h.2
  unfold be16 at hid hlen
  change frames (turns + 1) (_ :: _ :: _ :: _ :: (setBody ++ rest)) = _
  rw [frames]
  dsimp only at hid hlen ⊢
  rw [hid, hlen, if_neg (by omega), if_neg (by rw [length_append]; omega), Nat.add_sub_cancel,
    drop_left, take_left]

theorem encodeSet_length (frame : Frame) :
    (encodeSet frame).length = frame.2.length + setHeaderLen := by
  simp [encodeSet, be16, setHeaderLen]

theorem frames_whole (h : ∀ frame ∈ sets, Encodable frame) (rest : Bytes) :
    framesOf (sets.flatMap encodeSet ++ rest) = (sets ++ (framesOf rest).1, (framesOf rest).2) := by
  induction sets with
  | nil => rfl
  | cons frame sets ih =>
    have hframe := h frame mem_cons_self
    have hlen := encodeSet_length frame
    have hturns : frames (encodeSet frame ++ (sets.flatMap encodeSet ++ rest)).length
        (sets.flatMap encodeSet ++ rest) = framesOf (sets.flatMap encodeSet ++ rest) := by
      apply frames_turns
      · simp only [length_append, hlen, setHeaderLen]
        omega
      · exact Nat.lt_succ_self _
    rw [flatMap_cons, append_assoc]
    unfold framesOf
    rw [frames_encodeSet hframe, hturns, ih fun f hf => h f (mem_cons_of_mem _ hf)]
    rfl

theorem decodeFrames_append (ending : Option DecodeError) (first second : List Frame) :
    decodeFrames ending (first ++ second) = do
      let sets ← decodeFrames none first
      let more ← decodeFrames ending second
      return sets ++ more := by
  induction first with
  | nil => simp [decodeFrames]
  | cons frame first ih =>
    simp only [cons_append, decodeFrames, ih, bind_assoc, pure_bind]

theorem decodeBody_append (h : WholeSets first) (second : Bytes) :
    decodeBody (first ++ second) = do
      let sets ← decodeBody first
      let more ← decodeBody second
      return sets ++ more := by
  obtain ⟨sets, hsets, rfl⟩ := h
  have hfirst := frames_whole hsets []
  rw [append_nil] at hfirst
  unfold decodeBody
  rw [frames_whole hsets second, hfirst, decodeFrames_append]
  simp [framesOf, frames]

/-- Decoding inverts the encoding of a data set, with padding too short for another record. And a
message whose body is made of two others' bodies answers their sets and leaves the cache they leave
when they are decoded in turn, the error of a refused set included. -/
theorem decode_inverts_encoding :
    (∀ (template : Template) (records : List DataRecord) (bytes padding : Bytes),
      1 ≤ template.minRecordLen → EncodesRecords template records bytes →
      padding.length < template.minRecordLen →
      decodeDataSet template (bytes ++ padding) = .ok records) ∧
    ∀ (first second whole : Bytes) (header₁ header₂ header : MessageHeader) (body₁ body₂ : Bytes),
      messageParts first = .ok (header₁, body₁) → messageParts second = .ok (header₂, body₂) →
      messageParts whole = .ok (header, body₁ ++ body₂) → WholeSets body₁ → WholeSets body₂ →
      decodeMessage whole = do
        let a ← decodeMessage first
        let b ← decodeMessage second
        return { header, sets := a.sets ++ b.sets } := by
  refine ⟨fun template records bytes padding hpos h hpad => decodeDataSet_encoded hpos h hpad, ?_⟩
  intro first second whole header₁ header₂ header body₁ body₂ hfirst hsecond hwhole hsets _
  rw [decodeMessage_parts hfirst, decodeMessage_parts hsecond, decodeMessage_parts hwhole,
    decodeBody_append hsets]
  simp only [bind_assoc, pure_bind]

/-- An address and a name of variable length. -/
def namedHost : Template where
  templateId := 256
  scopeFieldCount := 0
  fields := [⟨8, 4, none⟩, ⟨82, variableLength, none⟩]

def namedHostRecord : DataRecord where
  templateId := 256
  fields := [⟨8, none, [192, 0, 2, 1]⟩, ⟨82, none, [97, 98]⟩]

/-- The header of a message in the sample's exporter. -/
def sampleHeader (length : Nat) : MessageHeader := ⟨10, length, 8, 1, 7⟩

def sampleHeaderBytes (length : UInt8) : Bytes :=
  [0, 10, 0, length, 0, 0, 0, 8, 0, 0, 0, 1, 0, 0, 0, 7]

/-- A template set of one template, and a data set for it. -/
def templateFrame : Frame := (2, [1, 0, 0, 1, 0, 8, 0, 4])
def dataFrame : Frame := (256, [192, 0, 2, 1])

theorem templateFrame_whole : WholeSets (encodeSet templateFrame) :=
  ⟨[templateFrame], by simp [Encodable, templateFrame, setHeaderLen], by simp⟩

theorem dataFrame_whole : WholeSets (encodeSet dataFrame) :=
  ⟨[dataFrame], by simp [Encodable, dataFrame, setHeaderLen], by simp⟩

theorem namedHostRecord_encoded :
    EncodesRecords namedHost [namedHostRecord] [192, 0, 2, 1, 2, 97, 98] := by
  have address : EncodesField ⟨8, 4, none⟩ [192, 0, 2, 1] [192, 0, 2, 1] := .fixed (by decide) rfl
  have name : EncodesField ⟨82, variableLength, none⟩ [97, 98] [2, 97, 98] :=
    .short rfl (by decide)
  have record : EncodesRecords namedHost [namedHostRecord]
      ([192, 0, 2, 1] ++ ([2, 97, 98] ++ []) ++ []) := .cons (.cons address (.cons name .nil)) .nil
  exact record

theorem decode_inverts_encoding_sample :
    decodeDataSet namedHost ([192, 0, 2, 1, 2, 97, 98] ++ [0]) = .ok [namedHostRecord] ∧
    decodeMessage (sampleHeaderBytes 36 ++ (encodeSet templateFrame ++ encodeSet dataFrame)) = do
      let a ← decodeMessage (sampleHeaderBytes 28 ++ encodeSet templateFrame)
      let b ← decodeMessage (sampleHeaderBytes 24 ++ encodeSet dataFrame)
      return { header := sampleHeader 36, sets := a.sets ++ b.sets } := by
  have hfirst : messageParts (sampleHeaderBytes 28 ++ encodeSet templateFrame) =
      .ok (sampleHeader 28, encodeSet templateFrame) := by decide +kernel
  have hsecond : messageParts (sampleHeaderBytes 24 ++ encodeSet dataFrame) =
      .ok (sampleHeader 24, encodeSet dataFrame) := by decide +kernel
  have hwhole : messageParts
      (sampleHeaderBytes 36 ++ (encodeSet templateFrame ++ encodeSet dataFrame)) =
      .ok (sampleHeader 36, encodeSet templateFrame ++ encodeSet dataFrame) := by decide +kernel
  constructor
  · exact decode_inverts_encoding.1 namedHost _ _ _ (by decide) namedHostRecord_encoded (by decide)
  · exact decode_inverts_encoding.2 _ _ _ _ _ _ _ _ hfirst hsecond hwhole templateFrame_whole
      dataFrame_whole

/-- A template set that is refused: its template has no length. -/
def zeroFrame : Frame := (2, [1, 0, 0, 1, 0, 8, 0, 0])

theorem zeroFrame_whole : WholeSets (encodeSet zeroFrame) :=
  ⟨[zeroFrame], by simp [Encodable, zeroFrame, setHeaderLen], by simp⟩

/-- The first message is refused. The second, decoded after it, leaves a template that the whole,
refused at the first set, does not. -/
theorem refused_first_parts :
    let after := (decodeMessage (sampleHeaderBytes 28 ++ encodeSet zeroFrame) () .new).2
    let parts := (decodeMessage (sampleHeaderBytes 28 ++ encodeSet templateFrame) () after).2
    let whole := (decodeMessage
      (sampleHeaderBytes 40 ++ (encodeSet zeroFrame ++ encodeSet templateFrame)) () .new).2
    WholeSets (encodeSet zeroFrame) ∧ WholeSets (encodeSet templateFrame) ∧
      parts.templates.toList.map Prod.fst = [256] ∧ whole.templates.toList = [] :=
  ⟨zeroFrame_whole, templateFrame_whole, by decide +kernel, by decide +kernel⟩

end Tidegard.Ipfix.Proofs.RoundTrip
