import Tidegard.Detector.Precedence

namespace Tidegard.Detector.Config

open Tables Text Common Input Policy Precedence

def policySchemaVersion : Nat := 1
def maxTenantPrefixes : Nat := 100000
def defaultClearPercent : Nat := 80

/-- What the standard library reads and writes: an address, and a string with `{:?}`. -/
structure Reading where
  parseAddr : String → Option IpAddr
  debug : String → String

/-- The errors of compiling a document; those of parsing its JSON are left out. -/
inductive ConfigError where
  | tooManyPrefixes (count : Nat)
  | invalid (id : String) (source : PolicyError)
  | field (id field detail : String)
  | prefix_ (tenant text detail : String)
  | duplicateId (id : String)
  deriving DecidableEq

structure PolicyDefaults where
  clearPercent : Nat := defaultClearPercent
  cooldown : Option String := none
  holdDown : Option String := none
  eventUpdateInterval : Option String := none
  severity : Option Severity := none
  executionMode : Option ExecutionMode := none
  deriving DecidableEq

structure TenantEntry where
  tenant : String
  prefixes : List String
  deriving DecidableEq

/-- A threshold, as a number or with a decimal suffix. -/
inductive Magnitude where
  | number (value : Nat)
  | text (text : String)
  deriving DecidableEq

structure PolicyEntry where
  id : String
  name : String
  description : Option String
  enabled : Bool
  tenant : String
  scopeType : ScopeType
  selector : PolicySelector
  addressFamily : Option AddressFamily
  direction : TrafficDirection
  window : String
  thresholds : Table MetricKind Magnitude
  clearPercent : Option Nat
  triggerFor : String
  clearFor : String
  cooldown : Option String
  holdDown : Option String
  eventUpdateInterval : Option String
  severity : Option Severity
  executionMode : Option ExecutionMode
  priority : Int
  labels : Table String String
  version : Nat

structure PolicyDocument where
  schemaVersion : Nat
  defaults : PolicyDefaults
  tenants : List TenantEntry
  policies : List PolicyEntry

structure CompiledPolicies where
  policies : PolicySet
  tenantPrefixes : TenantPrefixes

/-- `Duration::from_millis`. -/
def fromMillis (n : Nat) : Nat := n * 1000000

/-- The leading digits of a text, and what follows them. -/
def splitDigits (text : String) : List Char × String :=
  (text.toList.takeWhile Char.isDigit, String.ofList (text.toList.dropWhile Char.isDigit))

/-- The number and the unit, scaled: the last steps of both parsers. `scale` refuses a unit. -/
def scaled (debug : String → String) (trimmed : String) (scale : String → Except String Nat) :
    Except String Nat := do
  let (digits, unit) := splitDigits trimmed
  if digits.isEmpty then .error (debug trimmed ++ " does not start with a number")
  else
    match parseDigits u64Max digits with
    | none => .error (debug (String.ofList digits) ++ " is not a whole number")
    | some value => do
      let multiplier ← scale unit
      -- `checked_mul`
      if value * multiplier ≤ u64Max then return value * multiplier
      else .error (debug trimmed ++ " overflows")

def durationUnit (debug : String → String) : String → Except String Nat
  | "ms" => .ok 1
  | "s" => .ok 1000
  | "m" => .ok 60000
  | "h" => .ok 3600000
  | "d" => .ok 86400000
  | other => .error ("unit " ++ debug other ++ " is not one of ms, s, m, h, d")

def parseDuration (debug : String → String) (text : String) : Except String Nat :=
  let trimmed := trim text
  if trimmed = "" then .error "is empty"
  else if (splitDigits trimmed).2 = "" then
    .error (debug trimmed ++ " has no unit; write \"" ++ trimmed ++ "s\" or \"" ++ trimmed ++ "ms\"")
  else do
    let millis ← scaled debug trimmed (durationUnit debug)
    return fromMillis millis

def magnitudeSuffix (debug : String → String) : String → Except String Nat
  | "" => .ok 1
  | "k" | "K" => .ok 1000
  | "M" => .ok 1000000
  | "G" => .ok 1000000000
  | "T" => .ok 1000000000000
  | other => .error ("suffix " ++ debug other ++ " is not one of k, M, G, T")

def parseMagnitude (debug : String → String) (text : String) : Except String Nat :=
  let trimmed := trim text
  if trimmed = "" then .error "is empty"
  else scaled debug trimmed (magnitudeSuffix debug)

def Magnitude.resolve (debug : String → String) : Magnitude → Except String Nat
  | .number value => .ok value
  | .text written => parseMagnitude debug written

/-- `str::split_once('/')`. -/
def splitOnce (text : String) : Option (String × String) :=
  match text.toList.dropWhile (· ≠ '/') with
  | [] => none
  | _ :: rest => some (String.ofList (text.toList.takeWhile (· ≠ '/')), String.ofList rest)

def parseCidr (reading : Reading) (text : String) : Except String (IpAddr × Nat) :=
  match splitOnce text with
  | none => .error "is not in address/length form"
  | some (addrText, lenText) =>
    match reading.parseAddr (trim addrText) with
    | none => .error (reading.debug addrText ++ " is not an IP address")
    | some addr =>
      match parseUnsigned 255 (trim lenText) with
      | none => .error (reading.debug lenText ++ " is not a prefix length")
      | some len =>
        if maxPrefixLen addr < len then
          .error ("prefix length " ++ toString len ++ " exceeds " ++ toString (maxPrefixLen addr) ++
            " for this family")
        else .ok (addr, len)

def insertPrefix (prefixes : TenantPrefixes) (tenant : String) (addr : IpAddr) (len : Nat) :
    TenantPrefixes :=
  prefixes.insert tenant ((prefixes[tenant]?.getD []) ++ [(addr, len)])

/-- The inner loop of `tenant_prefixes`. -/
def insertTenant (reading : Reading) (tenant : TenantEntry) (prefixes : TenantPrefixes) :
    Except ConfigError TenantPrefixes :=
  tenant.prefixes.foldlM (fun prefixes raw =>
    match parseCidr reading raw with
    | .error detail => .error (.prefix_ tenant.tenant raw detail)
    | .ok (addr, len) => .ok (insertPrefix prefixes tenant.tenant addr len)) prefixes

def PolicyDocument.tenantPrefixes (reading : Reading) (doc : PolicyDocument) :
    Except ConfigError TenantPrefixes :=
  let total := (doc.tenants.map (·.prefixes.length)).sum
  if maxTenantPrefixes < total then .error (.tooManyPrefixes total)
  else doc.tenants.foldlM (fun prefixes tenant => insertTenant reading tenant prefixes) ∅

/-- A duration of the entry, with the field it is written in. -/
def durationField (debug : String → String) (id field text : String) : Except ConfigError Nat :=
  (parseDuration debug text).mapError (.field id field)

/-- A duration the entry may leave to the defaults, and both to `absent`. -/
def optionalField (debug : String → String) (id field : String) (own fallback : Option String)
    (absent : Nat) : Except ConfigError Nat :=
  match own.or fallback with
  | some text => durationField debug id field text
  | none => .ok absent

def resolveThresholds (debug : String → String) (id : String)
    (thresholds : Table MetricKind Magnitude) : Except ConfigError Thresholds :=
  thresholds.toList.foldlM (fun (resolved : Thresholds) entry =>
    match entry.2.resolve debug with
    | .error detail => .error (.field id "thresholds" (entry.1.asStr ++ ": " ++ detail))
    | .ok value => .ok (resolved.insert entry.1 value)) ∅

def PolicyEntry.toDraft (debug : String → String) (e : PolicyEntry) (defaults : PolicyDefaults) :
    Except ConfigError PolicyDraft := do
  let thresholds ← resolveThresholds debug e.id e.thresholds
  let window ← durationField debug e.id "window" e.window
  let triggerFor ← durationField debug e.id "triggerFor" e.triggerFor
  let clearFor ← durationField debug e.id "clearFor" e.clearFor
  let cooldown ← optionalField debug e.id "cooldown" e.cooldown defaults.cooldown 0
  let holdDown ← optionalField debug e.id "holdDown" e.holdDown defaults.holdDown 0
  let eventUpdateInterval ← optionalField debug e.id "eventUpdateInterval" e.eventUpdateInterval
    defaults.eventUpdateInterval (fromSecs 60)
  return {
    id := e.id
    name := e.name
    description := e.description
    enabled := e.enabled
    tenant := e.tenant
    scopeType := e.scopeType
    selector := e.selector
    addressFamily := e.addressFamily
    direction := e.direction
    window := window
    thresholds := thresholds
    clearPercent := e.clearPercent.getD defaults.clearPercent
    triggerFor := triggerFor
    clearFor := clearFor
    cooldown := cooldown
    holdDown := holdDown
    eventUpdateInterval := eventUpdateInterval
    severity := (e.severity.or defaults.severity).getD .major
    executionMode := (e.executionMode.or defaults.executionMode).getD .alertOnly
    priority := e.priority
    labels := e.labels
    version := e.version }

/-- `validate`, with the evidence a policy set asks for. -/
def validated (d : PolicyDraft) (tenantPrefixes : TenantPrefixes) :
    Except PolicyError ValidPolicy :=
  match h : d.validate tenantPrefixes with
  | .ok p => .ok ⟨p, d, tenantPrefixes, h⟩
  | .error e => .error e

/-- The loop of `compile`; `seen` holds the ids before. -/
def compileEntries (debug : String → String) (defaults : PolicyDefaults)
    (tenantPrefixes : TenantPrefixes) :
    List String → List PolicyEntry → Except ConfigError (List ValidPolicy)
  | _, [] => .ok []
  | seen, entry :: rest =>
    if entry.id ∈ seen then .error (.duplicateId entry.id)
    else do
      let draft ← entry.toDraft debug defaults
      let policy ← (validated draft tenantPrefixes).mapError (.invalid entry.id)
      let policies ← compileEntries debug defaults tenantPrefixes (entry.id :: seen) rest
      return policy :: policies

def fromPoliciesError : PolicyError → ConfigError
  | .duplicateId id => .duplicateId id
  | source => .invalid "" source

def PolicyDocument.compile (reading : Reading) (doc : PolicyDocument) :
    Except ConfigError CompiledPolicies := do
  let tenantPrefixes ← doc.tenantPrefixes reading
  let policies ← compileEntries reading.debug doc.defaults tenantPrefixes [] doc.policies
  let policies ← (PolicySet.fromPolicies policies).mapError fromPoliciesError
  return { policies, tenantPrefixes }

/-- The units a duration is written in, the largest first. -/
def renderUnits : List (String × Nat) :=
  [("d", 86400000), ("h", 3600000), ("m", 60000), ("s", 1000)]

def renderDuration (duration : Nat) : String :=
  let millis := duration / 1000000
  match renderUnits.find? fun u => millis ≠ 0 && millis % u.2 == 0 with
  | some (unit, size) => toString (millis / size) ++ unit
  | none => toString millis ++ "ms"

def renderPolicy (p : DetectionPolicy) : PolicyEntry where
  id := p.id
  name := p.name
  description := p.description
  enabled := p.enabled
  tenant := p.tenant
  scopeType := p.scopeType
  selector := p.selector
  addressFamily := p.addressFamily
  direction := p.direction
  window := renderDuration p.window
  thresholds := p.thresholds.map fun _ value => .number value
  clearPercent := some p.clearPercent.percent
  triggerFor := renderDuration p.triggerFor
  clearFor := renderDuration p.clearFor
  cooldown := some (renderDuration p.cooldown)
  holdDown := some (renderDuration p.holdDown)
  eventUpdateInterval := some (renderDuration p.eventUpdateInterval)
  severity := some p.severity
  executionMode := some p.executionMode
  priority := p.priority
  labels := p.labels
  version := p.version

def toDocument (policies : List DetectionPolicy) : PolicyDocument where
  schemaVersion := policySchemaVersion
  defaults := {}
  tenants := []
  policies := policies.map renderPolicy

/-- `PolicySet::iter`. -/
def iter (s : PolicySet) : List DetectionPolicy := s.policies.toList.map Prod.snd

end Tidegard.Detector.Config
