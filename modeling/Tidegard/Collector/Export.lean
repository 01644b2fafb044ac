import Tidegard.Runs
import Tidegard.Aggregator.Ingest

namespace Tidegard.Collector.Export

open Common Runs Classifier Tidegard.Aggregator Aggregator.Ingest

/-- A row of a traffic table. The table and the row's key columns are told by the entry the row
is for; `timestamp` is in seconds. -/
structure TrafficRow where
  key : TrafficKey
  timestamp : Int
  counters : TrafficCounters
  deriving DecidableEq

def rowsOf {κ : Type} [LinearOrder κ] (name : κ → TrafficKey) (now : Int)
    (map : BoundedMap κ TrafficCounters) : List TrafficRow :=
  map.toList.map fun (key, counters) => ⟨name key, now, counters⟩

/-- One row for every tracked entry of every dimension. -/
def snapshot (a : Aggregator) (now : Int) : List TrafficRow :=
  ⟨.totalIpv4, now, a.totalIpv4Counters⟩ :: ⟨.totalIpv6, now, a.totalIpv6Counters⟩ ::
    (rowsOf .ipv4Host now a.ipv4Hosts ++ rowsOf .ipv6Host now a.ipv6Hosts ++
      rowsOf (fun key => .ipv4Network (ofLex key).1 (ofLex key).2) now a.ipv4Networks ++
      rowsOf (fun key => .ipv6Network (ofLex key).1 (ofLex key).2) now a.ipv6Networks ++
      rowsOf .ipv4Slash24 now a.ipv4Slash24 ++ rowsOf .hostgroup now a.hostgroups ++
      rowsOf .asn now a.asns ++ rowsOf .exporter now a.exporters)

/-- What the queries add up. -/
inductive Measure where
  | bytes
  | packets
  deriving DecidableEq

def Measure.ofCounters : Measure → TrafficCounters → Nat
  | .bytes, c => c.bytes
  | .packets, c => c.packets

def Measure.ofFlow : Measure → NormalizedFlow → Nat
  | .bytes, flow => flow.bytes
  | .packets, flow => flow.packets

/-- The sum the summary and the top queries return for one key over the range `[start, stop)`. -/
def reported (measure : Measure) (key : TrafficKey) (start stop : Int) (rows : List TrafficRow) :
    Nat :=
  ((rows.filter fun row => row.key = key ∧ start ≤ row.timestamp ∧ row.timestamp < stop).map
    fun row => measure.ofCounters row.counters).sum

/-- The collector, as far as traffic goes, with the rows that reached the tables. -/
structure CollectorState where
  aggregator : Aggregator
  rows : List TrafficRow

inductive Event where
  | ingest (flow : AsnFlow) (classification : ClassificationResult) (now : Nat)
  | snapshot (now : Int)

/-- Every row that is pushed is stored once. -/
def machine (rank : TrafficKey → Nat) : Machine CollectorState Event IngestReport where
  step s
    | .ingest flow classification now =>
      let (aggregator, report) := s.aggregator.ingest rank flow classification now
      (report, { s with aggregator })
    | .snapshot now => ({}, { s with rows := s.rows ++ snapshot s.aggregator now })

def started (config : AggregatorConfig) : CollectorState := ⟨Aggregator.new config, []⟩

end Tidegard.Collector.Export
