import Tidegard.Text
import Tidegard.Mitigation.Action

set_option linter.dupNamespace false

namespace Tidegard.Mitigation.Guard

open Common Text Mitigation.Prefix Mitigation.Action

def minDuration : Nat := fromSecs 60
def maxDuration : Nat := fromSecs (7 * 24 * 3600)

def ipv4Floor : Nat := 16
def ipv6Floor : Nat := 32

structure MinLength where
  ipv4 : Nat := 24
  ipv6 : Nat := 48
  deriving DecidableEq

structure AllowlistEntry where
  target : Prefix
  tenant : String
  actions : List ActionKind
  deriving DecidableEq

structure GuardConfig where
  dryRun : Bool := true
  bgpEnabled : Bool := false
  killSwitch : Bool := false
  maxDurationSeconds : Nat := 3600
  approvalWindowSeconds : Nat := 900
  allowSelfApproval : Bool := false
  minLength : MinLength := {}
  allowlist : List AllowlistEntry := []
  deriving DecidableEq

inductive ConfigError where
  | minLength (detail : String)
  | maxDuration
  | approvalWindow
  | entryTooWide (target : Prefix)
  | entryEmpty (target : Prefix)
  | overlap (a b : Prefix)
  deriving DecidableEq

inductive GuardRefusal where
  | killSwitch
  | notAllowlisted (target : Prefix)
  | actionNotAllowed (kind : ActionKind) (target : Prefix)
  | tooWide (target : Prefix) (min : Nat)
  | tooLong (seconds : Nat)
  deriving DecidableEq

def GuardRefusal.text (showAddr : IpAddr → String) : GuardRefusal → String
  | .killSwitch => "the kill switch is on: no mitigation may start"
  | .notAllowlisted target => target.toText showAddr ++ " is not on this tenant's allowlist"
  | .actionNotAllowed kind target =>
    "the allowlist does not permit " ++ kind.asStr ++ " on " ++ target.toText showAddr
  | .tooWide target min =>
    target.toText showAddr ++ " is wider than the shortest prefix allowed, /" ++ toString min
  | .tooLong seconds =>
    "the duration is longer than the maximum, " ++ toString seconds ++ " seconds"

def floor (p : Prefix) : Nat := if p.isIpv4 then ipv4Floor else ipv6Floor

/-- The bounds on the numbers of a configuration. -/
def checkLimits (config : GuardConfig) : Except ConfigError Unit :=
  let min := config.minLength
  let max := fromSecs config.maxDurationSeconds
  if ¬ (ipv4Floor ≤ min.ipv4 ∧ min.ipv4 ≤ 32) then
    .error (.minLength ("ipv4 /" ++ toString min.ipv4))
  else if ¬ (ipv6Floor ≤ min.ipv6 ∧ min.ipv6 ≤ 128) then
    .error (.minLength ("ipv6 /" ++ toString min.ipv6))
  else if max < minDuration ∨ maxDuration < max then .error .maxDuration
  else if ¬ (60 ≤ config.approvalWindowSeconds ∧ config.approvalWindowSeconds ≤ 86400) then
    .error .approvalWindow
  else .ok ()

def checkEntries : List AllowlistEntry → Except ConfigError Unit
  | [] => .ok ()
  | entry :: rest =>
    if entry.target.length < floor entry.target then .error (.entryTooWide entry.target)
    else if isBlank entry.tenant || entry.actions.isEmpty then .error (.entryEmpty entry.target)
    else checkEntries rest

/-- Whether two entries overlap and name different tenants. -/
def AllowlistEntry.clashes (a b : AllowlistEntry) : Bool :=
  (a.target.contains b.target || b.target.contains a.target) && a.tenant != b.tenant

def checkOverlaps : List AllowlistEntry → Except ConfigError Unit
  | [] => .ok ()
  | a :: rest =>
    match rest.find? a.clashes with
    | some b => .error (.overlap a.target b.target)
    | none => checkOverlaps rest

/-- A configuration in force is one that was checked. -/
structure Guard where
  config : GuardConfig
  limits : checkLimits config = .ok ()
  entries : checkEntries config.allowlist = .ok ()
  overlaps : checkOverlaps config.allowlist = .ok ()
  deriving DecidableEq

def Guard.new (config : GuardConfig) : Except ConfigError Guard :=
  match limits : checkLimits config with
  | .error e => .error e
  | .ok () =>
    match entries : checkEntries config.allowlist with
    | .error e => .error e
    | .ok () =>
      match overlaps : checkOverlaps config.allowlist with
      | .error e => .error e
      | .ok () => .ok ⟨config, limits, entries, overlaps⟩

def Guard.effectiveDryRun (g : Guard) : Bool := g.config.dryRun || !g.config.bgpEnabled

/-- The later of two entries wins a tie, as with `max_by_key`. -/
def longer (a b : AllowlistEntry) : AllowlistEntry :=
  if a.target.length ≤ b.target.length then b else a

def mostSpecific : List AllowlistEntry → Option AllowlistEntry
  | [] => none
  | first :: rest => some (rest.foldl longer first)

/-- The entry that decides on a prefix: the most specific one that contains it, if it is the
tenant's. -/
def Guard.entryFor (g : Guard) (tenant : String) (target : Prefix) : Option AllowlistEntry :=
  (mostSpecific (g.config.allowlist.filter fun entry => entry.target.contains target)).filter
    fun entry => entry.tenant = tenant

def Guard.minLengthFor (g : Guard) (target : Prefix) : Nat :=
  if target.isIpv4 then g.config.minLength.ipv4 else g.config.minLength.ipv6

/-- A source of length zero matches everything. -/
def checkSource (action : Action) : Except GuardRefusal Unit :=
  match action.flow.bind (·.source) with
  | some source => if source.length = 0 then .error (.tooWide source 1) else .ok ()
  | none => .ok ()

def Guard.check (g : Guard) (tenant : String) (target : Prefix) (action : Action) (duration : Nat)
    (killSwitch : Bool) : Except GuardRefusal Unit :=
  if killSwitch || g.config.killSwitch then .error .killSwitch
  else
    match g.entryFor tenant target with
    | none => .error (.notAllowlisted target)
    | some entry =>
      if !entry.actions.contains action.kind then .error (.actionNotAllowed action.kind target)
      else if !target.isHost && decide (target.length < g.minLengthFor target) then
        .error (.tooWide target (g.minLengthFor target))
      else
        match checkSource action with
        | .error e => .error e
        | .ok () =>
          -- `duration.as_secs()`
          if g.config.maxDurationSeconds < duration / 1000000000 then
            .error (.tooLong g.config.maxDurationSeconds)
          else .ok ()

end Tidegard.Mitigation.Guard
