import Tidegard.Mitigation.Prefix

set_option linter.dupNamespace false

namespace Tidegard.Mitigation.Action

open Common Mitigation.Prefix

def maxRateBytesPerSecond : Nat := 12500000000

inductive ActionKind where
  | rtbh
  | parentPrefix
  | flowspecDiscard
  | flowspecRateLimit
  deriving DecidableEq

def ActionKind.asStr : ActionKind → String
  | .rtbh => "rtbh"
  | .parentPrefix => "parent_prefix"
  | .flowspecDiscard => "flowspec_discard"
  | .flowspecRateLimit => "flowspec_rate_limit"

structure FlowMatch where
  protocol : Option (BitVec 8) := none
  source : Option Prefix := none
  sourcePort : Option (BitVec 16) := none
  destinationPort : Option (BitVec 16) := none
  deriving DecidableEq

def FlowMatch.canonical (showAddr : IpAddr → String) (flow : FlowMatch) : String :=
  let part (name : String) (value : Option String) : String :=
    match value with
    | some value => name ++ "=" ++ value ++ ";"
    | none => ""
  part "proto" (flow.protocol.map fun v => toString v.toNat) ++
    part "src" (flow.source.map (Prefix.toText showAddr)) ++
    part "sport" (flow.sourcePort.map fun v => toString v.toNat) ++
    part "dport" (flow.destinationPort.map fun v => toString v.toNat)

inductive Action where
  | rtbh
  | parentPrefix
  | flowspecDiscard (flow : FlowMatch)
  | flowspecRateLimit (flow : FlowMatch) (bytesPerSecond : Nat)
  deriving DecidableEq

inductive ActionError where
  | rtbhNotHost
  | parentIsHost
  | portsWithoutTransport
  | sourceFamily
  | rate
  | notFlowspec
  deriving DecidableEq

def ActionError.text : ActionError → String
  | .rtbhNotHost => "RTBH blackholes one host: the prefix must be a /32 or /128"
  | .parentIsHost =>
    "a parent-prefix announcement covers more than one host: use RTBH for a /32 or /128"
  | .portsWithoutTransport => "ports are matched only for TCP (6) or UDP (17)"
  | .sourceFamily => "the source prefix is not the same address family as the destination"
  | .rate => "a rate-limit needs a rate above zero and at most 12500000000 bytes per second; " ++
      "zero is a discard"
  | .notFlowspec => "only FlowSpec actions take a match or a rate"

def Action.kind : Action → ActionKind
  | .rtbh => .rtbh
  | .parentPrefix => .parentPrefix
  | .flowspecDiscard _ => .flowspecDiscard
  | .flowspecRateLimit .. => .flowspecRateLimit

def Action.flow : Action → Option FlowMatch
  | .flowspecDiscard flow => some flow
  | .flowspecRateLimit flow _ => some flow
  | .rtbh => none
  | .parentPrefix => none

def validateFlow (flow : FlowMatch) (target : Prefix) : Except ActionError Unit :=
  let ports := flow.sourcePort.isSome || flow.destinationPort.isSome
  if ports && !(flow.protocol == some 6 || flow.protocol == some 17) then
    .error .portsWithoutTransport
  else
    match flow.source with
    | some source =>
      if source.isIpv4 != target.isIpv4 then .error .sourceFamily else .ok ()
    | none => .ok ()

def Action.validateFor (action : Action) (target : Prefix) : Except ActionError Unit :=
  match action with
  | .rtbh => if target.isHost then .ok () else .error .rtbhNotHost
  | .parentPrefix => if target.isHost then .error .parentIsHost else .ok ()
  | .flowspecDiscard flow => validateFlow flow target
  | .flowspecRateLimit flow bytesPerSecond =>
    if bytesPerSecond = 0 || decide (maxRateBytesPerSecond < bytesPerSecond) then .error .rate
    else validateFlow flow target

/-- Two live mitigations with one key would announce the same route. -/
def Action.duplicateKey (showAddr : IpAddr → String) (action : Action) (target : Prefix) :
    String :=
  let flow := match action.flow with
    | some flow => flow.canonical showAddr
    | none => ""
  action.kind.asStr ++ "|" ++ target.toText showAddr ++ "|" ++ flow

end Tidegard.Mitigation.Action
