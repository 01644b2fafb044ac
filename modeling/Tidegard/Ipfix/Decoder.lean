import Tidegard.Checked
import Tidegard.Runs
import Tidegard.Tables

namespace Tidegard.Ipfix.Decoder

open Actions Checked Runs Tables

inductive DecodeError where
  | tooShort (needed have_ : Nat)
  | unsupportedVersion (version : Nat)
  | messageTooShortForHeader (declared : Nat)
  | messageLengthExceedsInput (declared available : Nat)
  | setTooShortForHeader (declared : Nat)
  | setLengthExceedsMessage (declared available : Nat)
  | invalidTemplateSetId (id : Nat)
  | templateRecordTruncated (declared available : Nat)
  | invalidScopeFieldCount (scope total : Nat)
  | invalidDataTemplateId (id : Nat)
  | dataRecordTruncated (templateId needed available : Nat)
  | variableLengthTruncated
  | zeroLengthTemplate (templateId : Nat)
  | emptyDataRecord (templateId : Nat)
  | templateLimit (templateId : Nat)
  deriving DecidableEq

abbrev Bytes := List UInt8

abbrev Decoded (α : Type) := Except (Fault DecodeError) α

/-- A big-endian integer. -/
def fromBeBytes (bytes : Bytes) : Nat := bytes.foldl (fun n b => n * 256 + b.toNat) 0

/-- `u16::from_be_bytes([input[i], input[i + 1]])`. -/
def u16At (input : Bytes) (i : Nat) : Decoded Nat := do
  let a ← index input i
  let b ← index input (i + 1)
  return fromBeBytes [a, b]

def u32At (input : Bytes) (i : Nat) : Decoded Nat := do
  let a ← index input i
  let b ← index input (i + 1)
  let c ← index input (i + 2)
  let d ← index input (i + 3)
  return fromBeBytes [a, b, c, d]

def ipfixVersion : Nat := 0x000a
def messageHeaderLen : Nat := 16

structure MessageHeader where
  version : Nat
  length : Nat
  exportTime : Nat
  sequenceNumber : Nat
  observationDomainId : Nat
  deriving DecidableEq

def MessageHeader.parse (input : Bytes) : Decoded MessageHeader := do
  failIf (input.length < messageHeaderLen) (.tooShort messageHeaderLen input.length)
  let version ← u16At input 0
  failIf (version ≠ ipfixVersion) (.unsupportedVersion version)
  let length ← u16At input 2
  failIf (length < messageHeaderLen) (.messageTooShortForHeader length)
  failIf (input.length < length) (.messageLengthExceedsInput length input.length)
  let exportTime ← u32At input 4
  let sequenceNumber ← u32At input 8
  let observationDomainId ← u32At input 12
  return { version, length, exportTime, sequenceNumber, observationDomainId }

def variableLength : Nat := 0xFFFF
def enterpriseBit : Nat := 0x8000

structure FieldSpecifier where
  informationElementId : Nat
  fieldLength : Nat
  enterpriseNumber : Option Nat
  deriving DecidableEq

def FieldSpecifier.parse (input : Bytes) : Decoded (FieldSpecifier × Nat) := do
  failIf (input.length < 4) (.templateRecordTruncated 4 input.length)
  let rawId ← u16At input 0
  let fieldLength ← u16At input 2
  -- the enterprise bit is the top bit of the sixteen
  let informationElementId := rawId % enterpriseBit
  if enterpriseBit ≤ rawId then do
    failIf (input.length < 8) (.templateRecordTruncated 8 input.length)
    let enterpriseNumber ← u32At input 4
    return ({ informationElementId, fieldLength, enterpriseNumber := some enterpriseNumber }, 8)
  else return ({ informationElementId, fieldLength, enterpriseNumber := none }, 4)

structure Template where
  templateId : Nat
  scopeFieldCount : Nat
  fields : List FieldSpecifier
  deriving DecidableEq

/-- The fewest bytes a field can take: a variable one has at least its length prefix. -/
def FieldSpecifier.minLen (f : FieldSpecifier) : Nat :=
  if f.fieldLength = variableLength then 1 else f.fieldLength

def Template.minRecordLen (t : Template) : Nat := (t.fields.map FieldSpecifier.minLen).sum

/-- `for _ in 0..field_count`, from `offset` on. -/
def parseFields (input : Bytes) : Nat → Nat → Decoded (List FieldSpecifier × Nat)
  | 0, offset => .ok ([], offset)
  | count + 1, offset => do
    let rest ← sliceFrom input offset
    let (spec, consumed) ← FieldSpecifier.parse rest
    let (specs, offset) ← parseFields input count (offset + consumed)
    return (spec :: specs, offset)

def parseScope (input : Bytes) (fieldCount : Nat) : Bool → Decoded (Nat × Nat)
  | true => do
    let scope ← u16At input 4
    failIf (fieldCount < scope) (.invalidScopeFieldCount scope fieldCount)
    return (scope, 6)
  | false => .ok (0, 4)

def Template.parseRecord (input : Bytes) (isOptions : Bool) : Decoded (Template × Nat) := do
  let headerLen := if isOptions then 6 else 4
  failIf (input.length < headerLen) (.templateRecordTruncated headerLen input.length)
  let templateId ← u16At input 0
  let fieldCount ← u16At input 2
  let (scopeFieldCount, offset) ← parseScope input fieldCount isOptions
  -- the subtraction the capacity of the field vector is computed from
  let _room ← sub input.length offset
  let (fields, offset) ← parseFields input fieldCount offset
  return ({ templateId, scopeFieldCount, fields }, offset)

structure DecodedField where
  informationElementId : Nat
  enterpriseNumber : Option Nat
  value : Bytes
  deriving DecidableEq

def DecodedField.asU64Be (f : DecodedField) : Option Nat :=
  if f.value.isEmpty || decide (8 < f.value.length) then none else some (fromBeBytes f.value)

structure DataRecord where
  templateId : Nat
  fields : List DecodedField
  deriving DecidableEq

/-- The declared length of a variable field, and the bytes its prefix takes. -/
def readVariableLengthPrefix (input : Bytes) : Decoded (Nat × Nat) :=
  match input with
  | [] => .error (.failed .variableLengthTruncated)
  | first :: _ =>
    if first ≠ 0xFF then .ok (first.toNat, 1)
    else do
      failIf (input.length < 3) .variableLengthTruncated
      let len ← u16At input 1
      return (len, 3)

/-- `map_err`: what is reported becomes `e`; a panic stays one. -/
def mapError {α : Type} (e : DecodeError) : Decoded α → Decoded α
  | .error (.failed _) => .error (.failed e)
  | x => x

/-- The length of the next field, and the offset its value starts at. -/
def fieldExtent (templateId : Nat) (input : Bytes) (spec : FieldSpecifier) (offset : Nat) :
    Decoded (Nat × Nat) :=
  if spec.fieldLength = variableLength then do
    let rest ← sliceFrom input offset
    let (len, prefixLen) ← mapError (.dataRecordTruncated templateId 1 (input.length - offset))
      (readVariableLengthPrefix rest)
    return (len, offset + prefixLen)
  else .ok (spec.fieldLength, offset)

def decodeFields (templateId : Nat) (input : Bytes) :
    List FieldSpecifier → Nat → Decoded (List DecodedField × Nat)
  | [], offset => .ok ([], offset)
  | spec :: specs, offset => do
    let (fieldLen, offset) ← fieldExtent templateId input spec offset
    failIf (input.length < offset + fieldLen)
      (.dataRecordTruncated templateId fieldLen (input.length - offset))
    let value ← slice input offset (offset + fieldLen)
    let (fields, stop) ← decodeFields templateId input specs (offset + fieldLen)
    return ({ informationElementId := spec.informationElementId,
              enterpriseNumber := spec.enterpriseNumber, value } :: fields, stop)

def decodeDataRecord (template : Template) (input : Bytes) : Decoded (DataRecord × Nat) := do
  let (fields, offset) ← decodeFields template.templateId input template.fields 0
  return ({ templateId := template.templateId, fields }, offset)

structure SamplingInfo where
  samplingInterval : Option Nat := none
  samplingAlgorithm : Option Nat := none
  deriving DecidableEq

def maxTemplates : Nat := 512
def maxTemplateFields : Nat := 8192
def ieSamplingInterval : Nat := 34
def ieSamplingAlgorithm : Nat := 35

structure TemplateCache where
  templates : Table Nat Template := ∅
  fields : Nat := 0
  sampling : SamplingInfo := {}

def TemplateCache.new : TemplateCache := {}

/-- A computation on one exporter's cache, which keeps what was done before a failure. -/
abbrev Caching (α : Type) := Action Unit TemplateCache (Fault DecodeError) α

def TemplateCache.clear (_ : TemplateCache) : TemplateCache := {}

/-- How many templates the cache would hold with this one, and how many fields it would lose. -/
def TemplateCache.displaced (c : TemplateCache) (template : Template) : Nat × Nat :=
  match c.templates[template.templateId]? with
  | some old => (c.templates.size, old.fields.length)
  | none => (c.templates.size + 1, 0)

def insert (template : Template) : Caching Unit := do
  let c ← Action.get
  let (templates, replaced) := c.displaced template
  let kept ← Action.ofExcept (sub c.fields replaced)
  let fields := kept + template.fields.length
  Action.ofExcept (failIf (maxTemplates < templates ∨ maxTemplateFields < fields)
    (.templateLimit template.templateId))
  Action.modify fun c =>
    { c with fields := fields, templates := c.templates.insert template.templateId template }

def remove (templateId : Nat) : Caching Unit := do
  let c ← Action.get
  match c.templates[templateId]? with
  | none => return ()
  | some old => do
    Action.modify fun c => { c with templates := c.templates.erase templateId }
    let fields ← Action.ofExcept (sub c.fields old.fields.length)
    Action.modify fun c => { c with fields := fields }

def SamplingInfo.observe (s : SamplingInfo) (field : DecodedField) : SamplingInfo :=
  match field.asU64Be with
  | none => s
  | some v =>
    if field.informationElementId = ieSamplingInterval then
      { s with samplingInterval := some (v % 2 ^ 32) }
    else if field.informationElementId = ieSamplingAlgorithm then
      { s with samplingAlgorithm := some (v % 2 ^ 8) }
    else s

def TemplateCache.observeOptionsData (c : TemplateCache) (record : DataRecord) : TemplateCache :=
  { c with sampling := record.fields.foldl SamplingInfo.observe c.sampling }

def templateSetId : Nat := 2
def optionsTemplateSetId : Nat := 3
def minDataSetId : Nat := 256
def setHeaderLen : Nat := 4

inductive DecodedSet where
  | templates (parsed : List Template)
  | optionsTemplates (parsed : List Template)
  | data (templateId : Nat) (records : List DataRecord)
  | unknownTemplate (templateId : Nat)
  | reservedSetId (setId : Nat)
  deriving DecidableEq

structure DecodedMessage where
  header : MessageHeader
  sets : List DecodedSet
  deriving DecidableEq

/-- A record without fields withdraws its template, or all of them. -/
def withdraw (templateId : Nat) : Caching Unit :=
  if templateId = templateSetId ∨ templateId = optionsTemplateSetId then
    Action.modify TemplateCache.clear
  else remove templateId

/-- What the loop of `parse_template_records` does with one record: the templates it adds. -/
def takeTemplate (template : Template) : Caching (List Template) := do
  if template.fields.isEmpty then do
    withdraw template.templateId
    return []
  else do
    Action.ofExcept (failIf (template.minRecordLen = 0) (.zeroLengthTemplate template.templateId))
    insert template
    return [template]

/-- The loop of `parse_template_records`, for at most `turns` records. -/
def parseTemplates (setBody : Bytes) (isOptions : Bool) : Nat → Nat → Caching (List Template)
  | 0, _ => Action.throw .exhausted
  | turns + 1, offset => do
    if offset < setBody.length then do
      let left ← Action.ofExcept (sub setBody.length offset)
      if left < setHeaderLen then return []
      else do
        let rest ← Action.ofExcept (sliceFrom setBody offset)
        let (template, consumed) ← Action.ofExcept (Template.parseRecord rest isOptions)
        let taken ← takeTemplate template
        let parsed ← parseTemplates setBody isOptions turns (offset + consumed)
        return taken ++ parsed
    else return []

def parseTemplateRecords (setBody : Bytes) (isOptions : Bool) : Caching (List Template) :=
  parseTemplates setBody isOptions (setBody.length + 1) 0

/-- The loop of `decode_data_set`, for at most `turns` records. -/
def decodeRecords (template : Template) (setBody : Bytes) :
    Nat → Nat → Decoded (List DataRecord)
  | 0, _ => .error .exhausted
  | turns + 1, offset => do
    if offset < setBody.length then do
      let left ← sub setBody.length offset
      if left < max template.minRecordLen 1 then return []
      else do
        let rest ← sliceFrom setBody offset
        let (record, consumed) ← decodeDataRecord template rest
        failIf (consumed = 0) (.emptyDataRecord template.templateId)
        let records ← decodeRecords template setBody turns (offset + consumed)
        return record :: records
    else return []

def decodeDataSet (template : Template) (setBody : Bytes) : Decoded (List DataRecord) :=
  decodeRecords template setBody (setBody.length + 1) 0

def decodeSet (setId : Nat) (setBody : Bytes) : Caching DecodedSet := do
  if setId = templateSetId then do
    let parsed ← parseTemplateRecords setBody false
    return .templates parsed
  else if setId = optionsTemplateSetId then do
    let parsed ← parseTemplateRecords setBody true
    return .optionsTemplates parsed
  else if setId < minDataSetId then return .reservedSetId setId
  else do
    let c ← Action.get
    match c.templates[setId]? with
    | none => return .unknownTemplate setId
    | some template => do
      let records ← Action.ofExcept (decodeDataSet template setBody)
      Action.modify fun c =>
        if 0 < template.scopeFieldCount then records.foldl TemplateCache.observeOptionsData c
        else c
      return .data setId records

/-- The loop of `decode_message`, for at most `turns` sets. -/
def decodeSets (body : Bytes) : Nat → Nat → Caching (List DecodedSet)
  | 0, _ => Action.throw .exhausted
  | turns + 1, offset => do
    if offset < body.length then do
      let remaining ← Action.ofExcept (sliceFrom body offset)
      if remaining.length < setHeaderLen then return []
      else do
        let setId ← Action.ofExcept (u16At remaining 0)
        let setLen ← Action.ofExcept (u16At remaining 2)
        Action.ofExcept (failIf (setLen < setHeaderLen) (.setTooShortForHeader setLen))
        Action.ofExcept (failIf (remaining.length < setLen)
          (.setLengthExceedsMessage setLen remaining.length))
        let setBody ← Action.ofExcept (slice remaining setHeaderLen setLen)
        let decoded ← decodeSet setId setBody
        let sets ← decodeSets body turns (offset + setLen)
        return decoded :: sets
    else return []

def decodeMessage (input : Bytes) : Caching DecodedMessage := do
  let header ← Action.ofExcept (MessageHeader.parse input)
  let body ← Action.ofExcept (slice input messageHeaderLen header.length)
  let sets ← decodeSets body (body.length + 1) 0
  return { header, sets }

/-- What a collector does with the cache of one exporter. -/
inductive Call where
  | decodeMessage (input : Bytes)
  | clear

def cacheMachine :
    Machine TemplateCache Call (Option (Except (Fault DecodeError) DecodedMessage)) where
  step c
    | .decodeMessage input => (some (decodeMessage input () c).1, (decodeMessage input () c).2)
    | .clear => (none, c.clear)

def DecodedSet.recordCount : DecodedSet → Nat
  | .data _ records => records.length
  | _ => 0

/-- The data records of a message, over all its sets. -/
def DecodedMessage.recordCount (m : DecodedMessage) : Nat :=
  (m.sets.map DecodedSet.recordCount).sum

end Tidegard.Ipfix.Decoder
