import Tidegard.Aggregator
import Tidegard.Classifier
import Tidegard.Masks

set_option linter.dupNamespace false

namespace Tidegard.Aggregator.Ingest

open Common Masks Classifier Tidegard.Aggregator

instance : LinearOrder IpAddr := LinearOrder.lift' IpAddr.code IpAddr.code_injective

/-- A flow with the autonomous systems at its two ends. -/
structure AsnFlow extends NormalizedFlow where
  sourceAsn : Option Nat
  destinationAsn : Option Nat
  deriving DecidableEq

structure AggregatorConfig where
  maxHosts : Nat
  maxNetworks : Nat
  maxHostgroups : Nat
  maxAsns : Nat
  maxExporters : Nat
  ipv4PrefixLengths : List Nat
  ipv6PrefixLengths : List Nat
  deriving DecidableEq

structure IngestReport where
  evictions : Nat := 0
  rejections : Nat := 0
  deriving DecidableEq

/-- The dimensions that are exported. -/
structure Aggregator where
  config : AggregatorConfig
  totalIpv4Counters : TrafficCounters
  totalIpv6Counters : TrafficCounters
  ipv4Hosts : BoundedMap IpAddr TrafficCounters
  ipv6Hosts : BoundedMap IpAddr TrafficCounters
  ipv4Slash24 : BoundedMap IpAddr TrafficCounters
  ipv4Networks : BoundedMap (IpAddr ×ₗ Nat) TrafficCounters
  ipv6Networks : BoundedMap (IpAddr ×ₗ Nat) TrafficCounters
  hostgroups : BoundedMap String TrafficCounters
  asns : BoundedMap Nat TrafficCounters
  exporters : BoundedMap IpAddr TrafficCounters

def Aggregator.new (config : AggregatorConfig) : Aggregator where
  config := config
  totalIpv4Counters := {}
  totalIpv6Counters := {}
  ipv4Hosts := .new config.maxHosts
  ipv6Hosts := .new config.maxHosts
  ipv4Slash24 := .new config.maxNetworks
  ipv4Networks := .new config.maxNetworks
  ipv6Networks := .new config.maxNetworks
  hostgroups := .new config.maxHostgroups
  asns := .new config.maxAsns
  exporters := .new config.maxExporters

inductive TrafficKey where
  | totalIpv4
  | totalIpv6
  | ipv4Host (address : IpAddr)
  | ipv6Host (address : IpAddr)
  | ipv4Slash24 (address : IpAddr)
  | ipv4Network (address : IpAddr) (length : Nat)
  | ipv6Network (address : IpAddr) (length : Nat)
  | hostgroup (name : String)
  | asn (number : Nat)
  | exporter (address : IpAddr)
  deriving DecidableEq

def addressKeys (config : AggregatorConfig) : IpAddr → List TrafficKey
  | .v4 a => .ipv4Host (.v4 a) :: .ipv4Slash24 (.v4 (maskBits a 24)) ::
      config.ipv4PrefixLengths.map fun len => .ipv4Network (.v4 (maskBits a len)) len
  | .v6 a => .ipv6Host (.v6 a) ::
      config.ipv6PrefixLengths.map fun len => .ipv6Network (.v6 (maskBits a len)) len

/-- The entries a flow is counted under, in the order `ingest` comes to them. An entry at both
ends of the flow is counted twice. -/
def ingestKeys (config : AggregatorConfig) (flow : AsnFlow) (classification : ClassificationResult) :
    List TrafficKey :=
  (match flow.sourceAddr with
    | .v4 _ => .totalIpv4
    | .v6 _ => .totalIpv6) ::
  .exporter flow.exporter ::
  (addressKeys config flow.sourceAddr ++ addressKeys config flow.destinationAddr ++
    flow.sourceAsn.toList.map .asn ++ flow.destinationAsn.toList.map .asn ++
    classification.sourceMatchedHostgroup.toList.map .hostgroup ++
    classification.destinationMatchedHostgroup.toList.map .hostgroup)

def IngestReport.noted (report : IngestReport) : UpsertOutcome → IngestReport
  | .insertedByEviction => { report with evictions := report.evictions + 1 }
  | .rejected => { report with rejections := report.rejections + 1 }
  | _ => report

section Track

variable (rank : TrafficKey → Nat) (flow : NormalizedFlow) (now : Nat)

def trackIn {κ : Type} [LinearOrder κ] (map : BoundedMap κ TrafficCounters) (name : κ → TrafficKey)
    (key : κ) : UpsertOutcome × BoundedMap κ TrafficCounters :=
  map.upsert (rank ∘ name) key now {} fun c => c.add flow

/-- Count the flow under one entry. The totals are always there. -/
def track (a : Aggregator) : TrafficKey → UpsertOutcome × Aggregator
  | .totalIpv4 => (.updated, { a with totalIpv4Counters := a.totalIpv4Counters.add flow })
  | .totalIpv6 => (.updated, { a with totalIpv6Counters := a.totalIpv6Counters.add flow })
  | .ipv4Host address =>
    let (outcome, map) := trackIn rank flow now a.ipv4Hosts .ipv4Host address
    (outcome, { a with ipv4Hosts := map })
  | .ipv6Host address =>
    let (outcome, map) := trackIn rank flow now a.ipv6Hosts .ipv6Host address
    (outcome, { a with ipv6Hosts := map })
  | .ipv4Slash24 address =>
    let (outcome, map) := trackIn rank flow now a.ipv4Slash24 .ipv4Slash24 address
    (outcome, { a with ipv4Slash24 := map })
  | .ipv4Network address length =>
    let (outcome, map) := trackIn rank flow now a.ipv4Networks
      (fun key => .ipv4Network (ofLex key).1 (ofLex key).2) (toLex (address, length))
    (outcome, { a with ipv4Networks := map })
  | .ipv6Network address length =>
    let (outcome, map) := trackIn rank flow now a.ipv6Networks
      (fun key => .ipv6Network (ofLex key).1 (ofLex key).2) (toLex (address, length))
    (outcome, { a with ipv6Networks := map })
  | .hostgroup name =>
    let (outcome, map) := trackIn rank flow now a.hostgroups .hostgroup name
    (outcome, { a with hostgroups := map })
  | .asn number =>
    let (outcome, map) := trackIn rank flow now a.asns .asn number
    (outcome, { a with asns := map })
  | .exporter address =>
    let (outcome, map) := trackIn rank flow now a.exporters .exporter address
    (outcome, { a with exporters := map })

def trackAll : List TrafficKey → Aggregator × IngestReport → Aggregator × IngestReport
  | [], state => state
  | key :: keys, (a, report) =>
    let (outcome, a) := track rank flow now a key
    trackAll keys (a, report.noted outcome)

end Track

/-- `rank` is the order in which the hash maps visit their entries when one has to make room. -/
def Aggregator.ingest (rank : TrafficKey → Nat) (a : Aggregator) (flow : AsnFlow)
    (classification : ClassificationResult) (now : Nat) : Aggregator × IngestReport :=
  trackAll rank flow.toNormalizedFlow now (ingestKeys a.config flow classification) (a, {})

end Tidegard.Aggregator.Ingest
