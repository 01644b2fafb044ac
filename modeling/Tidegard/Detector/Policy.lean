import Tidegard.Fallible
import Tidegard.Tables
import Tidegard.Text
import Tidegard.Detector.Input

namespace Tidegard.Detector.Policy

open Fallible Tables Text Common Input

variable {p : DetectionPolicy}

def maxPolicyIdLen : Nat := 128
def maxPolicyNameLen : Nat := 256
def maxDescriptionLen : Nat := 2048
def maxLabels : Nat := 16
def maxLabelKeyLen : Nat := 64
def maxLabelValueLen : Nat := 256
def maxWindow : Nat := fromSecs 300
def maxTimer : Nat := fromSecs (7 * 24 * 3600)
def wildcardTenant : String := "*"

inductive ExecutionMode where
  | disabled
  | observe
  | alertOnly
  | dryRun
  deriving DecidableEq

def ExecutionMode.evaluates : ExecutionMode → Bool
  | .disabled => false
  | _ => true

def ExecutionMode.emitsEvents : ExecutionMode → Bool
  | .alertOnly | .dryRun => true
  | _ => false

inductive Severity where
  | info
  | minor
  | major
  | critical
  deriving DecidableEq

def Severity.asStr : Severity → String
  | .info => "info"
  | .minor => "minor"
  | .major => "major"
  | .critical => "critical"

inductive PolicySelector where
  | host (addr : IpAddr)
  | network (addr : IpAddr) (prefixLen : Nat)
  | hostgroup (name : String)
  | any
  deriving DecidableEq

def PolicySelector.kindName : PolicySelector → String
  | .host _ => "host"
  | .network _ _ => "network"
  | .hostgroup _ => "hostgroup"
  | .any => "any"

/-- Trigger levels in canonical units, iterated in metric order. -/
abbrev Thresholds := Table MetricKind Nat

/-- How far below its trigger a metric must fall to count as recovering. -/
structure ClearPercent where
  percent : Nat
  inRange : 1 ≤ percent ∧ percent ≤ 100
  deriving DecidableEq

def ClearPercent.new (percent : Nat) : Option ClearPercent :=
  if h : 1 ≤ percent ∧ percent ≤ 100 then some ⟨percent, h⟩ else none

def ClearPercent.clearThreshold (c : ClearPercent) (trigger : Nat) : Nat :=
  min (trigger * c.percent / 100) u64Max

structure DetectionPolicy where
  id : String
  name : String
  description : Option String
  enabled : Bool
  tenant : String
  scopeType : ScopeType
  selector : PolicySelector
  addressFamily : Option AddressFamily
  direction : TrafficDirection
  window : Nat
  thresholds : Thresholds
  clearPercent : ClearPercent
  triggerFor : Nat
  clearFor : Nat
  cooldown : Nat
  holdDown : Nat
  eventUpdateInterval : Nat
  severity : Severity
  executionMode : ExecutionMode
  priority : Int
  labels : Table String String
  version : Nat

def selectorMatches : PolicySelector → ScopeId → Bool
  | .any, _ => true
  | .host addr, .host other => addr == other
  | .network addr len, .network other otherLen => addr == other && len == otherLen
  | .hostgroup name, .hostgroup other => name == other
  | _, _ => false

def DetectionPolicy.matchesScope (p : DetectionPolicy) (key : ScopeKey) : Bool :=
  p.enabled &&
  (p.tenant == wildcardTenant || p.tenant == key.tenant) &&
  p.scopeType == key.scopeType &&
  p.direction == key.direction &&
  p.addressFamily.all (· == key.addressFamily) &&
  selectorMatches p.selector key.scopeId

def DetectionPolicy.specificity (p : DetectionPolicy) : Nat :=
  let scope := p.scopeType.specificity * 1000
  let selector := match p.selector with
    | .host _ => 900
    | .network _ len => 100 + len
    | .hostgroup _ => 50
    | .any => 0
  let family := if p.addressFamily.isSome then 1 else 0
  let tenant := if p.tenant = wildcardTenant then 0 else 1000000
  tenant + scope + selector + family

inductive PolicyError where
  | emptyId
  | idTooLong (id : String)
  | idCharacter (id : String) (ch : Char)
  | emptyName (id : String)
  | nameTooLong (id : String)
  | descriptionTooLong (id : String)
  | emptyTenant (id : String)
  | tooManyLabels (id : String) (count : Nat)
  | labelTooLong (id : String) (key : String)
  | zeroWindow (id : String)
  | windowTooLong (id : String) (window : Nat)
  | noThresholds (id : String)
  | zeroThreshold (id : String) (metric : String)
  | invalidClearPercent (id : String) (percent : Nat)
  | triggerShorterThanWindow (id : String) (triggerFor window : Nat)
  | clearShorterThanWindow (id : String) (clearFor window : Nat)
  | timerTooLong (id field : String) (value : Nat)
  | zeroEventUpdateInterval (id : String)
  | selectorScopeMismatch (id scope selector : String)
  | invalidPrefixLength (id : String) (addr : IpAddr) (prefixLen : Nat)
  | prefixNotOwnedByTenant (id tenant : String) (addr : IpAddr) (prefixLen : Nat)
  | unsupportedDirection (id direction : String)
  | duplicateId (id : String)
  deriving DecidableEq

/-- `if bad { return Err(error) }`. -/
def reject (bad : Prop) [Decidable bad] (error : PolicyError) : Except PolicyError Unit :=
  if bad then .error error else .ok ()

def validateId (id : String) : Except PolicyError Unit := do
  reject (id = "") .emptyId
  reject (maxPolicyIdLen < id.length) (.idTooLong id)
  match id.toList.find? fun c => !(isAsciiAlphanumeric c || c == '-' || c == '_' || c == '.') with
  | some ch => .error (.idCharacter id ch)
  | none => .ok ()

def selectorCompatible : ScopeType → PolicySelector → Bool
  | _, .any => true
  | .host, .host _ => true
  | .prefix_, .network _ _ => true
  | .slash24, .network _ len => len == 24
  | .hostgroupTotal, .hostgroup _ => true
  | _, _ => false

def maxPrefixLen : IpAddr → Nat
  | .v4 _ => 32
  | .v6 _ => 128

def validateSelector (id : String) (scopeType : ScopeType) (selector : PolicySelector) :
    Except PolicyError Unit := do
  reject (selectorCompatible scopeType selector = false)
    (.selectorScopeMismatch id scopeType.asStr selector.kindName)
  match selector with
  | .network addr len => reject (maxPrefixLen addr < len) (.invalidPrefixLength id addr len)
  | _ => .ok ()

def validateDirection (id : String) (direction : TrafficDirection) : Except PolicyError Unit :=
  reject (direction = .unknown) (.unsupportedDirection id direction.asStr)

/-- The leading `len` bits of an address, as the mask comparison keeps them. -/
def leadingBits {w : Nat} (len : Nat) (bits : BitVec w) : BitVec w :=
  bits &&& (BitVec.allOnes w <<< (w - len))

def prefixContains (network : IpAddr) (prefixLen : Nat) (addr : IpAddr) : Bool :=
  match network, addr with
  | .v4 n, .v4 a =>
    if 32 < prefixLen then false
    else if prefixLen = 0 then true
    else leadingBits prefixLen n == leadingBits prefixLen a
  | .v6 n, .v6 a =>
    if 128 < prefixLen then false
    else if prefixLen = 0 then true
    else leadingBits prefixLen n == leadingBits prefixLen a
  | _, _ => false

abbrev TenantPrefixes := Table String (List (IpAddr × Nat))

def TenantPrefixes.covers (t : TenantPrefixes) (tenant : String) (addr : IpAddr)
    (prefixLen : Nat) : Bool :=
  match t[tenant]? with
  | none => false
  | some owned => owned.any fun (ownedAddr, ownedLen) =>
      decide (ownedLen ≤ prefixLen) && prefixContains ownedAddr ownedLen addr

def validatePrefixOwnership (id tenant : String) (selector : PolicySelector)
    (tenantPrefixes : TenantPrefixes) : Except PolicyError Unit :=
  if tenantPrefixes.isEmpty || tenant == wildcardTenant then .ok ()
  else
    match selector with
    | .network addr len =>
      reject (TenantPrefixes.covers tenantPrefixes tenant addr len = false)
        (.prefixNotOwnedByTenant id tenant addr len)
    | .host addr =>
      reject (TenantPrefixes.covers tenantPrefixes tenant addr (maxPrefixLen addr) = false)
        (.prefixNotOwnedByTenant id tenant addr (maxPrefixLen addr))
    | _ => .ok ()

/-- What an operator writes, before it is checked. -/
structure PolicyDraft where
  id : String
  name : String
  description : Option String
  enabled : Bool
  tenant : String
  scopeType : ScopeType
  selector : PolicySelector
  addressFamily : Option AddressFamily
  direction : TrafficDirection
  window : Nat
  thresholds : Thresholds
  clearPercent : Nat
  triggerFor : Nat
  clearFor : Nat
  cooldown : Nat
  holdDown : Nat
  eventUpdateInterval : Nat
  severity : Severity
  executionMode : ExecutionMode
  priority : Int
  labels : Table String String
  version : Nat

def validateLabels (id : String) : List (String × String) → Except PolicyError Unit
  | [] => .ok ()
  | (k, v) :: rest => do
    reject (maxLabelKeyLen < k.length ∨ maxLabelValueLen < v.length) (.labelTooLong id k)
    validateLabels id rest

def validateThresholds (id : String) : List (MetricKind × Nat) → Except PolicyError Unit
  | [] => .ok ()
  | (metric, value) :: rest => do
    reject (value = 0) (.zeroThreshold id metric.asStr)
    validateThresholds id rest

def validateTimers (id : String) : List (String × Nat) → Except PolicyError Unit
  | [] => .ok ()
  | (field, value) :: rest => do
    reject (maxTimer < value) (.timerTooLong id field value)
    validateTimers id rest

def validateClearPercent (id : String) (percent : Nat) : Except PolicyError ClearPercent :=
  match ClearPercent.new percent with
  | some c => .ok c
  | none => .error (.invalidClearPercent id percent)

def PolicyDraft.validate (d : PolicyDraft) (tenantPrefixes : TenantPrefixes) :
    Except PolicyError DetectionPolicy := do
  validateId d.id
  reject (isBlank d.name = true) (.emptyName d.id)
  reject (maxPolicyNameLen < d.name.length) (.nameTooLong d.id)
  reject (d.description.any (maxDescriptionLen < ·.length) = true) (.descriptionTooLong d.id)
  reject (isBlank d.tenant = true) (.emptyTenant d.id)
  reject (maxLabels < d.labels.size) (.tooManyLabels d.id d.labels.size)
  validateLabels d.id d.labels.toList
  reject (d.window = 0) (.zeroWindow d.id)
  reject (maxWindow < d.window) (.windowTooLong d.id d.window)
  reject (d.thresholds.isEmpty = true) (.noThresholds d.id)
  validateThresholds d.id d.thresholds.toList
  let clearPercent ← validateClearPercent d.id d.clearPercent
  reject (d.triggerFor < d.window) (.triggerShorterThanWindow d.id d.triggerFor d.window)
  reject (d.clearFor < d.window) (.clearShorterThanWindow d.id d.clearFor d.window)
  validateTimers d.id [("triggerFor", d.triggerFor), ("clearFor", d.clearFor),
    ("cooldown", d.cooldown), ("holdDown", d.holdDown),
    ("eventUpdateInterval", d.eventUpdateInterval)]
  reject (d.eventUpdateInterval = 0) (.zeroEventUpdateInterval d.id)
  validateSelector d.id d.scopeType d.selector
  validateDirection d.id d.direction
  validatePrefixOwnership d.id d.tenant d.selector tenantPrefixes
  return {
    id := d.id
    name := d.name
    description := d.description
    enabled := d.enabled
    tenant := d.tenant
    scopeType := d.scopeType
    selector := d.selector
    addressFamily := d.addressFamily
    direction := d.direction
    window := d.window
    thresholds := d.thresholds
    clearPercent := clearPercent
    triggerFor := d.triggerFor
    clearFor := d.clearFor
    cooldown := d.cooldown
    holdDown := d.holdDown
    eventUpdateInterval := d.eventUpdateInterval
    severity := d.severity
    executionMode := d.executionMode
    priority := d.priority
    labels := d.labels
    version := d.version }

/-- Validation accepted some draft as this policy. -/
def DetectionPolicy.Accepted (p : DetectionPolicy) : Prop :=
  ∃ (d : PolicyDraft) (tenantPrefixes : TenantPrefixes), d.validate tenantPrefixes = .ok p

/-- A policy that came out of `PolicyDraft.validate`. -/
abbrev ValidPolicy := { p : DetectionPolicy // p.Accepted }

@[simp] theorem reject_eq_ok {bad : Prop} [Decidable bad] : reject bad error = .ok u ↔ ¬bad := by
  unfold reject
  split <;> simp_all

theorem validateThresholds_ok {id : String}
    (h : validateThresholds id l = .ok u) : ∀ mt ∈ l, 0 < mt.2 := by
  induction l with
  | nil => simp
  | cons mt l ih =>
    simp only [validateThresholds, bind_eq_ok, reject_eq_ok] at h
    obtain ⟨_, hv, hrest⟩ := h
    intro m hm
    rcases List.mem_cons.mp hm with rfl | hm
    · omega
    · exact ih hrest m hm

/-- All that `validate` checks of a draft, and the policy it makes of it. -/
structure PolicyDraft.Passes (d : PolicyDraft) (tenantPrefixes : TenantPrefixes)
    (p : DetectionPolicy) : Prop where
  id : validateId d.id = .ok ()
  name : ¬isBlank d.name = true
  nameLen : ¬maxPolicyNameLen < d.name.length
  description : ¬d.description.any (maxDescriptionLen < ·.length) = true
  tenant : ¬isBlank d.tenant = true
  labelCount : ¬maxLabels < d.labels.size
  labels : validateLabels d.id d.labels.toList = .ok ()
  window : ¬d.window = 0
  windowLen : ¬maxWindow < d.window
  thresholdCount : ¬d.thresholds.isEmpty = true
  thresholds : validateThresholds d.id d.thresholds.toList = .ok ()
  clearPercent : validateClearPercent d.id d.clearPercent = .ok p.clearPercent
  trigger : ¬d.triggerFor < d.window
  clear : ¬d.clearFor < d.window
  timers : validateTimers d.id [("triggerFor", d.triggerFor), ("clearFor", d.clearFor),
    ("cooldown", d.cooldown), ("holdDown", d.holdDown),
    ("eventUpdateInterval", d.eventUpdateInterval)] = .ok ()
  interval : ¬d.eventUpdateInterval = 0
  selector : validateSelector d.id d.scopeType d.selector = .ok ()
  direction : validateDirection d.id d.direction = .ok ()
  ownership : validatePrefixOwnership d.id d.tenant d.selector tenantPrefixes = .ok ()
  policy : p = { d with clearPercent := p.clearPercent }

theorem validate_eq_ok {d : PolicyDraft} :
    d.validate tenantPrefixes = .ok p ↔ d.Passes tenantPrefixes p := by
  simp only [PolicyDraft.validate, bind_eq_ok, reject_eq_ok, pure_eq_ok]
  constructor
  · rintro ⟨_, h₁, _, h₂, _, h₃, _, h₄, _, h₅, _, h₆, _, h₇, _, h₈, _, h₉, _, h₁₀, _, h₁₁, c, h₁₂, _,
      h₁₃, _, h₁₄, _, h₁₅, _, h₁₆, _, h₁₇, _, h₁₈, _, h₁₉, rfl⟩
    exact ⟨h₁, h₂, h₃, h₄, h₅, h₆, h₇, h₈, h₉, h₁₀, h₁₁, h₁₂, h₁₃, h₁₄, h₁₅, h₁₆, h₁₇, h₁₈, h₁₉, rfl⟩
  · intro h
    exact ⟨(), h.id, (), h.name, (), h.nameLen, (), h.description, (), h.tenant, (), h.labelCount,
      (), h.labels, (), h.window, (), h.windowLen, (), h.thresholdCount, (), h.thresholds,
      p.clearPercent, h.clearPercent, (), h.trigger, (), h.clear, (), h.timers, (), h.interval, (),
      h.selector, (), h.direction, (), h.ownership, h.policy.symm⟩

/-- The checks of `validate` that the state machine relies on. -/
structure DetectionPolicy.Checked (p : DetectionPolicy) : Prop where
  window_pos : 0 < p.window
  window_le_trigger : p.window ≤ p.triggerFor
  window_le_clear : p.window ≤ p.clearFor
  interval_pos : 0 < p.eventUpdateInterval
  threshold_pos : ∀ (metric : MetricKind) threshold, p.thresholds[metric]? = some threshold → 0 < threshold

theorem DetectionPolicy.Accepted.checked (h : p.Accepted) : p.Checked := by
  obtain ⟨d, tenantPrefixes, hd⟩ := h
  have hpasses := validate_eq_ok.mp hd
  have hwindow := hpasses.window
  have htrigger := hpasses.trigger
  have hclear := hpasses.clear
  have hupdate := hpasses.interval
  rw [hpasses.policy]
  refine ⟨?_, ?_, ?_, ?_, ?_⟩ <;> dsimp only
  · omega
  · omega
  · omega
  · omega
  · intro metric threshold hget
    exact validateThresholds_ok hpasses.thresholds (metric, threshold) ((mem_toList _ _ _).mpr hget)

theorem DetectionPolicy.Accepted.selector (h : p.Accepted) :
    selectorCompatible p.scopeType p.selector = true ∧
      ∀ addr len, p.selector = .network addr len → len ≤ maxPrefixLen addr := by
  obtain ⟨d, tenantPrefixes, hd⟩ := h
  have hpasses := validate_eq_ok.mp hd
  have hselector := hpasses.selector
  simp only [validateSelector, bind_eq_ok, reject_eq_ok, Bool.not_eq_false] at hselector
  obtain ⟨_, hcompatible, hlen⟩ := hselector
  rw [hpasses.policy]
  refine ⟨hcompatible, ?_⟩
  intro addr len heq
  change d.selector = _ at heq
  rw [heq] at hlen
  simpa using hlen

/-- A sustained crossing takes time: validation rejects a zero `triggerFor`. -/
theorem DetectionPolicy.Accepted.trigger_pos (h : p.Accepted) :
    0 < p.triggerFor := lt_of_lt_of_le h.checked.window_pos h.checked.window_le_trigger

theorem DetectionPolicy.Accepted.clear_pos (h : p.Accepted) :
    0 < p.clearFor := lt_of_lt_of_le h.checked.window_pos h.checked.window_le_clear

def sampleDraft (executionMode : ExecutionMode) (triggerFor : Nat) : PolicyDraft where
  id := "sample"
  name := "sample"
  description := none
  enabled := true
  tenant := wildcardTenant
  scopeType := .host
  selector := .any
  addressFamily := none
  direction := .incoming
  window := 1
  thresholds := (∅ : Thresholds).insert .bps 10
  clearPercent := 80
  triggerFor := triggerFor
  clearFor := 1
  cooldown := 0
  holdDown := 0
  eventUpdateInterval := 1
  severity := .major
  executionMode := executionMode
  priority := 0
  labels := ∅
  version := 1

def samplePolicy (executionMode : ExecutionMode) (triggerFor : Nat) : DetectionPolicy :=
  { sampleDraft executionMode triggerFor with clearPercent := ⟨80, by decide⟩ }

set_option maxRecDepth 4000 in
theorem samplePolicy_accepted (executionMode : ExecutionMode) :
    (samplePolicy executionMode 1).Accepted :=
  ⟨sampleDraft executionMode 1, ∅, by cases executionMode <;> rfl⟩

end Tidegard.Detector.Policy
