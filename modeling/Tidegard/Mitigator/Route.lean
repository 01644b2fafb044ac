import Tidegard.Mitigation.Action

namespace Tidegard.Mitigator.Route

open Common Mitigation.Prefix Mitigation.Action

inductive Afi where
  | ip
  | ip6
  deriving DecidableEq

inductive Safi where
  | unicast
  | flowSpecUnicast
  deriving DecidableEq

structure Family where
  afi : Afi
  safi : Safi
  deriving DecidableEq

structure FlowSpecComponentItem where
  op : Nat
  value : Nat
  deriving DecidableEq

inductive FlowSpecRule where
  | ipPrefix (type : Nat) (length : Nat) (address : String)
  | component (type : Nat) (items : List FlowSpecComponentItem)
  deriving DecidableEq

inductive Nlri where
  | unicast (length : Nat) (address : String)
  | flowSpec (rules : List FlowSpecRule)
  deriving DecidableEq

structure LargeCommunity where
  globalAdmin : Nat
  localData1 : Nat
  localData2 : Nat
  deriving DecidableEq

inductive Attribute where
  | origin (origin : Nat)
  | nextHop (nextHop : String)
  | mpReach (family : Family) (nextHops : List String) (nlris : List Nlri)
  -- the one extended community that is read back
  | trafficRate (asn : Nat) (rate : Rat)
  | communities (communities : List Nat)
  | largeCommunities (communities : List LargeCommunity)
  deriving DecidableEq

structure Path where
  nlri : Option Nlri
  pattrs : List Attribute
  family : Option Family
  isWithdraw : Bool := false
  deriving DecidableEq

def blackhole : Nat := 0xFFFF029A
def noExportCommunity : Nat := 0xFFFFFF01
def noAdvertiseCommunity : Nat := 0xFFFFFF02
def ownershipMarker : Nat := 0x00574E4D
def ownershipVersion : Nat := 1

def flowspecDestination : Nat := 1
def flowspecSource : Nat := 2
def flowspecProtocol : Nat := 3
def flowspecDestinationPort : Nat := 5
def flowspecSourcePort : Nat := 6
def opEqual : Nat := 1
def opComparison : Nat := 7
def originIgp : Nat := 0

structure RouteConfig where
  localAsn : Nat
  rtbhNextHopIpv4 : BitVec 32
  rtbhNextHopIpv6 : BitVec 128
  communities : List Nat := [blackhole]
  largeCommunities : List (Nat × Nat × Nat) := []
  noExport : Bool := true
  noAdvertise : Bool := false
  deriving DecidableEq

def RouteConfig.ownership (config : RouteConfig) : LargeCommunity :=
  ⟨config.localAsn, ownershipMarker, ownershipVersion⟩

def RouteConfig.large (config : RouteConfig) : List LargeCommunity :=
  config.ownership :: config.largeCommunities.map fun (a, b, c) => ⟨a, b, c⟩

def RouteConfig.scopeCommunities (config : RouteConfig) : List Nat :=
  (if config.noExport then [noExportCommunity] else []) ++
    (if config.noAdvertise then [noAdvertiseCommunity] else [])

/-- How the standard library writes an address and reads it. -/
structure AddrText where
  showAddr : IpAddr → String
  parseAddr : String → Option IpAddr

def isFlowspec : ActionKind → Bool
  | .flowspecDiscard | .flowspecRateLimit => true
  | .rtbh | .parentPrefix => false

def family (target : Prefix) (kind : ActionKind) : Family :=
  ⟨if target.isIpv4 then .ip else .ip6, if isFlowspec kind then .flowSpecUnicast else .unicast⟩

def ipRule (text : AddrText) (type : Nat) (p : Prefix) : FlowSpecRule :=
  .ipPrefix type p.length (text.showAddr p.address)

def equalRule (type value : Nat) : FlowSpecRule := .component type [⟨opEqual, value⟩]

/-- The rules stand in the order of their types. -/
def flowspecRules (text : AddrText) (target : Prefix) (flow : FlowMatch) : List FlowSpecRule :=
  ipRule text flowspecDestination target ::
    ((flow.source.map (ipRule text flowspecSource)).toList ++
      (flow.protocol.map fun v => equalRule flowspecProtocol v.toNat).toList ++
      (flow.destinationPort.map fun v => equalRule flowspecDestinationPort v.toNat).toList ++
      (flow.sourcePort.map fun v => equalRule flowspecSourcePort v.toNat).toList)

/-- The NLRI a mitigation announces. -/
def nlri (text : AddrText) (target : Prefix) (action : Action) : Nlri :=
  match action.flow with
  | none => .unicast target.length (text.showAddr target.address)
  | some flow => .flowSpec (flowspecRules text target flow)

/-- A whole number as a 32-bit float: the 24 leading bits are kept, and the rest is rounded to
the nearest, a tie to the even one. -/
def asF32 (n : Nat) : Nat :=
  let unit := 2 ^ (Nat.log2 n - 23)
  let quotient := n / unit
  let rest := n % unit
  if unit < 2 * rest ∨ (2 * rest = unit ∧ quotient % 2 = 1) then (quotient + 1) * unit
  else quotient * unit

def bytesPerSecond : Action → Option Nat
  | .flowspecRateLimit _ rate => some rate
  | _ => none

def reachAttributes (text : AddrText) (target : Prefix) (action : Action) (config : RouteConfig) :
    List Attribute :=
  match action.flow with
  | none =>
    if target.isIpv4 then [.nextHop (text.showAddr (.v4 config.rtbhNextHopIpv4))]
    else [.mpReach (family target action.kind) [text.showAddr (.v6 config.rtbhNextHopIpv6)]
      [nlri text target action]]
  | some _ =>
    [.mpReach (family target action.kind) [if target.isIpv4 then "0.0.0.0" else "::"]
      [nlri text target action],
      .trafficRate 0 (asF32 ((bytesPerSecond action).getD 0))]

def pathCommunities (action : Action) (config : RouteConfig) : List Nat :=
  match action.flow with
  | none => config.communities ++ config.scopeCommunities
  | some _ => config.scopeCommunities

def announcement (text : AddrText) (target : Prefix) (action : Action) (config : RouteConfig) :
    Path where
  nlri := some (nlri text target action)
  pattrs :=
    .origin originIgp :: reachAttributes text target action config ++
      (if (pathCommunities action config).isEmpty then []
        else [.communities (pathCommunities action config)]) ++
      [.largeCommunities config.large]
  family := some (family target action.kind)

def withdrawal (text : AddrText) (target : Prefix) (action : Action) : Path where
  nlri := some (nlri text target action)
  pattrs := []
  family := some (family target action.kind)
  isWithdraw := true

def isOwned (path : Path) (config : RouteConfig) : Bool :=
  path.pattrs.any fun
    | .largeCommunities communities => communities.contains config.ownership
    | _ => false

structure OwnedRoute where
  target : Prefix
  action : Action
  key : String
  path : Path
  deriving DecidableEq

def prefixOf (text : AddrText) (address : String) (length : Nat) : Option Prefix := do
  let address ← text.parseAddr address
  if length < 256 then (Prefix.new address length).toOption else none

/-- What the rules of a FlowSpec path have said so far. -/
structure FlowRead where
  destination : Option Prefix := none
  flow : FlowMatch := {}
  deriving DecidableEq

def readComponent (type value : Nat) (sofar : FlowRead) : Except String FlowRead :=
  if type = flowspecProtocol then
    if value ≤ 255 then
      .ok { sofar with flow := { sofar.flow with protocol := some (BitVec.ofNat 8 value) } }
    else .error "a value out of range"
  else if type = flowspecDestinationPort then
    if value ≤ 65535 then
      .ok { sofar with flow := { sofar.flow with destinationPort := some (BitVec.ofNat 16 value) } }
    else .error "a value out of range"
  else if type = flowspecSourcePort then
    if value ≤ 65535 then
      .ok { sofar with flow := { sofar.flow with sourcePort := some (BitVec.ofNat 16 value) } }
    else .error "a value out of range"
  else .error "an unexpected FlowSpec component"

def readRule (text : AddrText) (sofar : FlowRead) : FlowSpecRule → Except String FlowRead
  | .ipPrefix type length address =>
    match prefixOf text address length with
    | none => .error "a FlowSpec prefix"
    | some p =>
      if type = flowspecDestination then .ok { sofar with destination := some p }
      else if type = flowspecSource then
        .ok { sofar with flow := { sofar.flow with source := some p } }
      else .error "an unexpected FlowSpec prefix type"
  | .component type [item] =>
    if item.op &&& opComparison ≠ opEqual then .error "a FlowSpec comparison other than equals"
    else readComponent type item.value sofar
  | .component _ _ => .error "a FlowSpec component with several values"

def readRules (text : AddrText) : FlowRead → List FlowSpecRule → Except String FlowRead
  | sofar, [] => .ok sofar
  | sofar, rule :: rules =>
    match readRule text sofar rule with
    | .ok sofar => readRules text sofar rules
    | .error e => .error e

def trafficRate (path : Path) : Option Rat :=
  path.pattrs.findSome? fun
    | .trafficRate _ rate => some rate
    | _ => none

/-- `rate.round() as u64` of a positive rate. -/
def roundRate (rate : Rat) : Nat := min (rate + 1 / 2).floor.toNat (2 ^ 64 - 1)

def readAction (flow : FlowMatch) (rate : Rat) : Action :=
  if rate ≤ 0 then .flowspecDiscard flow else .flowspecRateLimit flow (roundRate rate)

def readNlri (text : AddrText) (path : Path) : Nlri → Except String (Prefix × Action)
  | .unicast length address =>
    match prefixOf text address length with
    | none => .error "the prefix"
    | some target => .ok (target, if target.isHost then .rtbh else .parentPrefix)
  | .flowSpec rules =>
    match readRules text {} rules with
    | .error e => .error e
    | .ok sofar =>
      match sofar.destination with
      | none => .error "no FlowSpec destination"
      | some target =>
        match trafficRate path with
        | none => .error "no traffic-rate"
        | some rate => .ok (target, readAction sofar.flow rate)

/-- Reads an owned path back into the mitigation it implements. -/
def readBack (text : AddrText) (path : Path) : Except String OwnedRoute :=
  match path.nlri with
  | none => .error "no NLRI"
  | some nlri =>
    match readNlri text path nlri with
    | .error e => .error e
    | .ok (target, action) =>
      .ok ⟨target, action, action.duplicateKey text.showAddr target, path⟩

end Tidegard.Mitigator.Route
