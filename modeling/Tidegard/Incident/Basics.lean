import Tidegard.Detector.Policy

namespace Tidegard.Incident.Basics

open Common Detector.Input Detector.Policy

def u32Max : Nat := 2 ^ 32 - 1

abbrev TenantId := String

instance : Std.TransCmp (compare : TenantId ×ₗ String → TenantId ×ₗ String → Ordering) :=
  Tables.transCmp

instance byteCount : NeZero (256 : Nat) := ⟨by decide⟩

/-- An opaque identity of sixteen bytes, compared byte by byte. -/
structure IncidentId where
  bytes : List (Fin 256)
  size : bytes.length = 16
  deriving DecidableEq

theorem IncidentId.bytes_injective : Function.Injective IncidentId.bytes := by
  rintro ⟨a, ha⟩ ⟨b, hb⟩ h
  cases h
  rfl

instance : LinearOrder IncidentId := LinearOrder.lift' IncidentId.bytes IncidentId.bytes_injective

def hexDigit (n : Nat) : Char :=
  if n < 10 then Char.ofNat (48 + n) else Char.ofNat (87 + n)

/-- `{:02x}`. -/
def hexByte (b : Fin 256) : List Char := [hexDigit (b.val / 16), hexDigit (b.val % 16)]

/-- Lower-case hexadecimal in groups of 8, 4, 4, 4 and 12 digits. -/
def IncidentId.toCanonicalString (id : IncidentId) : String :=
  let group (skip count : Nat) := ((id.bytes.drop skip).take count).flatMap hexByte
  String.ofList (group 0 4 ++ '-' :: group 4 2 ++ '-' :: group 6 2 ++ '-' :: group 8 2 ++
    '-' :: group 10 6)

inductive IncidentIdParseError where
  | wrongLength (length : Nat)
  | invalidHex
  -- not an error of the source: a slice that ends inside a character panics
  | slicePanic
  deriving DecidableEq

/-- `char::to_digit(16)`. -/
def hexValue (c : Char) : Option Nat :=
  let n := c.toNat
  if 48 ≤ n ∧ n ≤ 57 then some (n - 48)
  else if 97 ≤ n ∧ n ≤ 102 then some (n - 87)
  else if 65 ≤ n ∧ n ≤ 70 then some (n - 55)
  else none

/-- `u8::from_str_radix` on two characters, which takes a leading plus sign. -/
def byteFromHex (first second : Char) : Option (Fin 256) :=
  if first = '+' then (hexValue second).map (Fin.ofNat 256)
  else do
    let high ← hexValue first
    let low ← hexValue second
    return Fin.ofNat 256 (16 * high + low)

/-- The next two bytes of a text. A character of two bytes is no digit; one that only begins
within them is cut. -/
def parsePair : List Char → Except IncidentIdParseError (Fin 256 × List Char)
  | [] => .error .slicePanic
  | first :: rest =>
    if first.utf8Size = 2 then .error .invalidHex
    else if first.utf8Size = 1 then
      match rest with
      | [] => .error .slicePanic
      | second :: rest =>
        if second.utf8Size = 1 then
          match byteFromHex first second with
          | some byte => .ok (byte, rest)
          | none => .error .invalidHex
        else .error .slicePanic
    else .error .slicePanic

def parsePairs : (n : Nat) → List Char →
    Except IncidentIdParseError { bytes : List (Fin 256) // bytes.length = n }
  | 0, _ => .ok ⟨[], rfl⟩
  | n + 1, chars => do
    let (byte, rest) ← parsePair chars
    let ⟨bytes, h⟩ ← parsePairs n rest
    return ⟨byte :: bytes, by rw [List.length_cons, h]⟩

def IncidentId.parse (s : String) : Except IncidentIdParseError IncidentId := do
  let hex := s.toList.filter (· ≠ '-')
  let size := (String.ofList hex).utf8ByteSize
  if size ≠ 32 then
    .error (.wrongLength size)
  else
    let ⟨bytes, h⟩ ← parsePairs 16 hex
    return ⟨bytes, h⟩

/-- What a detected or manual incident is about. -/
structure CorrelationKey where
  tenant : TenantId
  targetType : ScopeType
  targetIdentity : ScopeId
  direction : TrafficDirection
  addressFamily : AddressFamily
  deriving DecidableEq

def CorrelationKey.scope (k : CorrelationKey) : ScopeKey :=
  ⟨k.tenant, k.targetType, k.targetIdentity, k.direction, k.addressFamily⟩

theorem CorrelationKey.scope_injective : Function.Injective CorrelationKey.scope := by
  rintro ⟨_, _, _, _, _⟩ ⟨_, _, _, _, _⟩ h
  cases h
  rfl

instance : LinearOrder CorrelationKey :=
  LinearOrder.lift' CorrelationKey.scope CorrelationKey.scope_injective

inductive IncidentState where
  | open_
  | acknowledged
  | investigating
  | monitoring
  | recovering
  | resolved
  | closed
  deriving DecidableEq

def Active (state : IncidentState) : Prop := state ≠ .resolved ∧ state ≠ .closed

instance (state : IncidentState) : Decidable (Active state) := inferInstanceAs (Decidable (_ ∧ _))

def IncidentState.isTerminal : IncidentState → Bool
  | .closed => true
  | _ => false

def IncidentState.canAutomaticTransitionTo : IncidentState → IncidentState → Bool
  | .open_, .recovering
  | .acknowledged, .recovering
  | .investigating, .recovering
  | .monitoring, .recovering
  | .recovering, .resolved
  -- an aborted recovery restores whichever state preceded it
  | .recovering, .open_
  | .recovering, .acknowledged
  | .recovering, .investigating
  | .recovering, .monitoring
  | .resolved, .closed
  | .resolved, .open_
  | .closed, .open_ => true
  | _, _ => false

def IncidentState.canOperatorTransitionTo : IncidentState → IncidentState → Bool
  | .open_, .acknowledged
  | .open_, .investigating
  | .acknowledged, .investigating
  | .monitoring, .investigating
  | .acknowledged, .monitoring
  | .investigating, .monitoring
  | .open_, .resolved
  | .acknowledged, .resolved
  | .investigating, .resolved
  | .monitoring, .resolved
  | .recovering, .resolved
  | .resolved, .closed
  | .resolved, .open_
  | .closed, .open_ => true
  | _, _ => false

inductive CorrelationConflict where
  | openIncidentAlreadyExists (id : IncidentId)
  | reopenTargetChanged
  deriving DecidableEq

inductive IncidentError where
  | notFound
  | invalidTransition (fromState toState : IncidentState)
  | versionConflict (expected current : Nat) (currentState : IncidentState)
  | idempotencyConflict
  | tenantMismatch
  | unauthorized
  | validationError (detail : String)
  | capacityExceeded (what : String)
  | duplicateActiveIncident (id : IncidentId)
  | invalidReopen (detail : String)
  | manualClosureRequired
  | suppressedOperation
  | evidenceUnavailable
  | internalInvariantViolation (detail : String)
  | stateUnchanged (state : IncidentState)
  | corruptSnapshot (field detail : String)
  | clockSkew (referenceMicros decisionMicros : Int)
  | correlation (conflict : CorrelationConflict)
  deriving DecidableEq

inductive Permission where
  | incidentRead
  | incidentList
  | incidentCreate
  | incidentUpdate
  | incidentAcknowledge
  | incidentAssign
  | incidentInvestigate
  | incidentNoteCreate
  | incidentNoteRedact
  | incidentNoteCustomerVisible
  | incidentSeverityChange
  | incidentPriorityChange
  | incidentResolve
  | incidentClose
  | incidentReopen
  | incidentSuppress
  | incidentExport
  | incidentAuditRead
  | incidentConfigRead
  | incidentClosurePolicyOverride
  | incidentIngest
  | platformIncidentReadAll
  | platformIncidentAdmin
  | incidentNotificationRecord
  | trafficRead
  | mitigationRead
  | mitigationRequest
  | mitigationApprove
  | mitigationWithdraw
  | mitigationPropose
  | mitigationExecute
  | mitigationKillSwitchEngage
  | mitigationKillSwitchRelease
  deriving DecidableEq

inductive Actor where
  | operator (id : String)
  | serviceAccount (id : String)
  | system
  | platform (id : String)
  deriving DecidableEq

structure AuthorizationContext where
  tenant : TenantId
  actor : Actor
  granted : List Permission
  deriving DecidableEq

def AuthorizationContext.has (auth : AuthorizationContext) (permission : Permission) : Bool :=
  auth.granted.contains permission

inductive Priority where
  | p1
  | p2
  | p3
  | p4
  deriving DecidableEq

def Priority.defaultFor : Severity → Priority
  | .critical => .p1
  | .major => .p2
  | .minor => .p3
  | .info => .p4

def Priority.asStr : Priority → String
  | .p1 => "P1"
  | .p2 => "P2"
  | .p3 => "P3"
  | .p4 => "P4"

inductive SeveritySource where
  | detection
  | operator
  deriving DecidableEq

/-- `severity as u8`. -/
def severityLevel (s : Severity) : Nat := s.ctorIdx

inductive Assignee where
  | user (id : String)
  | team (id : String)
  deriving DecidableEq

inductive ClosureReason where
  | resolved
  | falsePositive
  | duplicate
  | expectedTraffic
  | noActionRequired
  | other
  deriving DecidableEq

structure ClosurePolicy where
  criticalManualClosureRequired : Bool := true
  automaticClosureEnabled : Bool := true
  automaticClosureDelay : Nat := fromSecs 1800
  deriving DecidableEq

def ClosurePolicy.allowsAutomaticClosure (p : ClosurePolicy) (severity : Severity) : Bool :=
  if !p.automaticClosureEnabled then false
  else if severity = .critical && p.criticalManualClosureRequired then false
  else true

def maxReopenWindow : Nat := fromSecs 86400

/-- A reopen window is at most a day. -/
structure ReopenPolicy where
  window : Nat := fromSecs 900
  bounded : window ≤ maxReopenWindow := by decide
  deriving DecidableEq

end Tidegard.Incident.Basics
