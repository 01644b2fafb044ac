import Tidegard.Incident.Basics
import Tidegard.Mitigation.Guard

set_option linter.dupNamespace false

namespace Tidegard.Mitigation.Mitigation

open Common Text Incident.Basics Mitigation.Prefix Mitigation.Action Mitigation.Guard

def maxReasonChars : Nat := 1000

inductive MitigationState where
  | proposed
  | requested
  | approved
  | announcing
  | active
  | withdrawing
  | withdrawn
  | rejected
  | expired
  | failed
  deriving DecidableEq

def MitigationState.isTerminal : MitigationState → Bool
  | .withdrawn | .rejected | .expired | .failed => true
  | _ => false

def MitigationState.awaitsApproval : MitigationState → Bool
  | .proposed | .requested => true
  | _ => false

def MitigationState.mayHoldARoute : MitigationState → Bool
  | .announcing | .active | .withdrawing => true
  | _ => false

def MitigationState.canTransitionTo : MitigationState → MitigationState → Bool
  | .proposed, .approved
  | .requested, .approved
  | .proposed, .rejected
  | .requested, .rejected
  | .proposed, .expired
  | .requested, .expired
  | .approved, .announcing
  -- withdrawn before anything was announced
  | .approved, .withdrawn
  -- the guard refused it as announcing would begin
  | .approved, .failed
  | .announcing, .active
  | .announcing, .failed
  -- a withdrawal or the kill switch while announcing
  | .announcing, .withdrawing
  | .active, .withdrawing
  | .withdrawing, .withdrawn => true
  | _, _ => false

inductive WithdrawalCause where
  | operator
  | durationReached
  | killSwitch
  deriving DecidableEq

def WithdrawalCause.asStr : WithdrawalCause → String
  | .operator => "operator"
  | .durationReached => "duration_reached"
  | .killSwitch => "kill_switch"

/-- The canonical text of an identity. -/
abbrev MitigationId := String

structure MitigationRequest where
  target : Prefix
  action : Action
  reason : String
  duration : Nat
  incidentId : Option String
  deriving DecidableEq

structure MitigationRecord where
  id : MitigationId
  tenant : TenantId
  incidentId : Option String
  target : Prefix
  action : Action
  reason : String
  duration : Nat
  state : MitigationState
  version : Nat
  requestedBy : Actor
  approvedBy : Option Actor
  dryRun : Option Bool
  withdrawal : Option WithdrawalCause
  lastError : Option String
  deriving DecidableEq

/-- One edge taken, or the creation when there is no state before. -/
structure Transition where
  fromState : Option MitigationState
  toState : MitigationState
  actor : Actor
  permission : Permission
  detail : Option String
  deriving DecidableEq

inductive MitigationError where
  | forbidden (permission : Permission)
  | notFound
  | illegalTransition (fromState toState : MitigationState)
  | selfApproval
  | invalid (detail : String)
  | duplicate
  | versionConflict (expected : Nat)
  | refused (refusal : GuardRefusal)
  deriving DecidableEq

def require (ctx : AuthorizationContext) (permission : Permission) :
    Except MitigationError Unit :=
  if ctx.has permission then .ok () else .error (.forbidden permission)

def validateReason (reason : String) : Except MitigationError String :=
  let reason := trim reason
  if reason = "" then .error (.invalid "a reason is required")
  else if maxReasonChars < reason.length then
    .error (.invalid "a reason is at most 1000 characters")
  else if reason.toList.any isControl then
    .error (.invalid "a reason cannot hold control characters")
  else .ok reason

def validateAction (action : Action) (target : Prefix) : Except MitigationError Unit :=
  match action.validateFor target with
  | .ok () => .ok ()
  | .error e => .error (.invalid e.text)

def validateDuration (duration : Nat) : Except MitigationError Unit :=
  if duration < minDuration || decide (maxDuration < duration) then
    .error (.invalid "the duration must be between 60 and 604800 seconds")
  else .ok ()

/-- An incident id is kept in its canonical form. A text that makes the parser panic has no
outcome in the source; it is refused here like any other. -/
def canonicalIncidentId : Option String → Except MitigationError (Option String)
  | none => .ok none
  | some text =>
    match IncidentId.parse text with
    | .ok id => .ok (some id.toCanonicalString)
    | .error _ => .error (.invalid "the incident id is not a UUID")

/-- The requester is whoever makes the call, and nobody has approved yet. -/
def create (ctx : AuthorizationContext) (id : MitigationId) (request : MitigationRequest)
    (permission : Permission) (state : MitigationState) :
    Except MitigationError (MitigationRecord × Transition) := do
  require ctx permission
  validateAction request.action request.target
  let reason ← validateReason request.reason
  validateDuration request.duration
  let incidentId ← canonicalIncidentId request.incidentId
  return ({
    id
    tenant := ctx.tenant
    incidentId
    target := request.target
    action := request.action
    reason
    duration := request.duration
    state
    version := 1
    requestedBy := ctx.actor
    approvedBy := none
    dryRun := none
    withdrawal := none
    lastError := none },
    { fromState := none, toState := state, actor := ctx.actor, permission, detail := some reason })

def propose (ctx : AuthorizationContext) (id : MitigationId) (request : MitigationRequest) :
    Except MitigationError (MitigationRecord × Transition) :=
  create ctx id request .mitigationPropose .proposed

def request (ctx : AuthorizationContext) (id : MitigationId) (request : MitigationRequest) :
    Except MitigationError (MitigationRecord × Transition) :=
  create ctx id request .mitigationRequest .requested

def MitigationRecord.duplicateKey (showAddr : IpAddr → String) (m : MitigationRecord) : String :=
  m.action.duplicateKey showAddr m.target

/-! A command answers with the edge it took or why it took none, and leaves the record. -/

def check (ctx : AuthorizationContext) (permission : Permission) (m : MitigationRecord) :
    Except MitigationError Unit :=
  if ctx.tenant = m.tenant then require ctx permission else .error .notFound

def allowed (next : MitigationState) (m : MitigationRecord) : Except MitigationError Unit :=
  if m.state.canTransitionTo next then .ok () else .error (.illegalTransition m.state next)

def apply (ctx : AuthorizationContext) (permission : Permission) (next : MitigationState)
    (detail : Option String) (m : MitigationRecord) : MitigationRecord × Transition :=
  ({ m with state := next, version := (m.version + 1) % 2 ^ 64 },
    { fromState := some m.state, toState := next, actor := ctx.actor, permission, detail })

/-- What a command decides: the new record and the edge, or a refusal. -/
abbrev Decision := Except MitigationError (MitigationRecord × Transition)

def approve (ctx : AuthorizationContext) (allowSelfApproval : Bool) (m : MitigationRecord) :
    Decision := do
  check ctx .mitigationApprove m
  allowed .approved m
  if !allowSelfApproval && m.requestedBy = ctx.actor then
    .error .selfApproval
  else
    return apply ctx .mitigationApprove .approved none { m with approvedBy := some ctx.actor }

def reject (ctx : AuthorizationContext) (reason : String) (m : MitigationRecord) : Decision := do
  check ctx .mitigationApprove m
  let reason ← validateReason reason
  allowed .rejected m
  return apply ctx .mitigationApprove .rejected (some reason) m

/-- An approved mitigation is withdrawn at once; one that may hold a route goes through
Withdrawing. -/
def takeDown (ctx : AuthorizationContext) (permission : Permission) (cause : WithdrawalCause)
    (reason : Option String) (m : MitigationRecord) : Decision := do
  let next : MitigationState := if m.state = .approved then .withdrawn else .withdrawing
  allowed next m
  let detail := match reason with
    | some reason => cause.asStr ++ ": " ++ reason
    | none => cause.asStr
  return apply ctx permission next (some detail) { m with withdrawal := some cause }

def withdraw (ctx : AuthorizationContext) (reason : String) (m : MitigationRecord) :
    Decision := do
  check ctx .mitigationWithdraw m
  let reason ← validateReason reason
  takeDown ctx .mitigationWithdraw .operator (some reason) m

def beginWithdrawal (ctx : AuthorizationContext) (cause : WithdrawalCause)
    (m : MitigationRecord) : Decision := do
  check ctx .mitigationExecute m
  takeDown ctx .mitigationExecute cause none m

def beginAnnouncing (ctx : AuthorizationContext) (dryRun : Bool) (m : MitigationRecord) :
    Decision := do
  check ctx .mitigationExecute m
  allowed .announcing m
  return apply ctx .mitigationExecute .announcing (if dryRun then some "dry_run" else none)
    { m with dryRun := some dryRun }

def execute (ctx : AuthorizationContext) (next : MitigationState) (detail : Option String)
    (m : MitigationRecord) : Decision := do
  check ctx .mitigationExecute m
  allowed next m
  return apply ctx .mitigationExecute next detail m

def markActive (ctx : AuthorizationContext) (m : MitigationRecord) : Decision :=
  execute ctx .active none m

/-- An approved mitigation ends only with a recorded cause. -/
def markWithdrawn (ctx : AuthorizationContext) (m : MitigationRecord) : Decision :=
  if m.state = .approved then .error (.illegalTransition m.state .withdrawn)
  else execute ctx .withdrawn none m

def errorText (error : String) : String :=
  String.ofList ((error.toList.filter fun c => !isControl c).take maxReasonChars)

def markFailed (ctx : AuthorizationContext) (error : String) (m : MitigationRecord) : Decision :=
  execute ctx .failed (some (errorText error)) { m with lastError := some (errorText error) }

def expire (ctx : AuthorizationContext) (m : MitigationRecord) : Decision :=
  execute ctx .expired none m

inductive Command where
  | approve (allowSelfApproval : Bool)
  | reject (reason : String)
  | withdraw (reason : String)
  | beginWithdrawal (cause : WithdrawalCause)
  | beginAnnouncing (dryRun : Bool)
  | markActive
  | markWithdrawn
  | markFailed (error : String)
  | expire
  deriving DecidableEq

def carryOut (ctx : AuthorizationContext) : Command → MitigationRecord → Decision
  | .approve allowSelfApproval => approve ctx allowSelfApproval
  | .reject reason => reject ctx reason
  | .withdraw reason => withdraw ctx reason
  | .beginWithdrawal cause => beginWithdrawal ctx cause
  | .beginAnnouncing dryRun => beginAnnouncing ctx dryRun
  | .markActive => markActive ctx
  | .markWithdrawn => markWithdrawn ctx
  | .markFailed error => markFailed ctx error
  | .expire => expire ctx

/-- What a refused command leaves. A failure is noted before the edge is checked, so the error
text stays even when the failure itself is refused. -/
def refused : Command → MitigationRecord → MitigationRecord
  | .markFailed error, m => { m with lastError := some (errorText error) }
  | _, m => m

def perform (ctx : AuthorizationContext) (command : Command) (m : MitigationRecord) :
    Except MitigationError Transition × MitigationRecord :=
  match carryOut ctx command m with
  | .ok (m', transition) => (.ok transition, m')
  | .error e => (.error e, refused command m)

end Tidegard.Mitigation.Mitigation
