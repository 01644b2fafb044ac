import Tidegard.Common
import Tidegard.Tables

namespace Tidegard.Aggregator

open Common Tables

structure TrafficCounters where
  bytes : Nat := 0
  packets : Nat := 0
  flows : Nat := 0
  tcpBytes : Nat := 0
  tcpPackets : Nat := 0
  udpBytes : Nat := 0
  udpPackets : Nat := 0
  icmpBytes : Nat := 0
  icmpPackets : Nat := 0
  tcpSynPackets : Nat := 0
  fragmentedPackets : Nat := 0
  droppedPackets : Nat := 0
  deriving DecidableEq

def TrafficCounters.addProtocol (c : TrafficCounters) (flow : NormalizedFlow) : TrafficCounters :=
  match flow.protocol with
  | some .tcp =>
    { c with
      tcpBytes := saturatingAdd c.tcpBytes flow.bytes
      tcpPackets := saturatingAdd c.tcpPackets flow.packets
      tcpSynPackets :=
        if flow.isTcpSyn then saturatingAdd c.tcpSynPackets flow.packets else c.tcpSynPackets }
  | some .udp =>
    { c with
      udpBytes := saturatingAdd c.udpBytes flow.bytes
      udpPackets := saturatingAdd c.udpPackets flow.packets }
  | some .icmp | some .icmpv6 =>
    { c with
      icmpBytes := saturatingAdd c.icmpBytes flow.bytes
      icmpPackets := saturatingAdd c.icmpPackets flow.packets }
  | _ => c

def TrafficCounters.add (c : TrafficCounters) (flow : NormalizedFlow) : TrafficCounters :=
  let c := TrafficCounters.addProtocol
    { c with
      bytes := saturatingAdd c.bytes flow.bytes
      packets := saturatingAdd c.packets flow.packets
      flows := saturatingAdd c.flows 1 } flow
  { c with
    fragmentedPackets :=
      if flow.fragmented then saturatingAdd c.fragmentedPackets flow.packets
      else c.fragmentedPackets
    droppedPackets :=
      if flow.forwardingStatusKnown && flow.dropped then
        saturatingAdd c.droppedPackets flow.packets
      else c.droppedPackets }

structure Slot (ν : Type) where
  value : ν
  lastUpdated : Nat

inductive UpsertOutcome where
  | inserted
  | updated
  | insertedByEviction
  | rejected
  deriving DecidableEq

/-- A map with a fixed capacity that makes room by dropping its least recently updated entry. -/
structure BoundedMap (κ ν : Type) [LinearOrder κ] where
  maxEntries : Nat
  entries : Table κ (Slot ν)

variable {κ ν : Type} [LinearOrder κ]

def BoundedMap.new (maxEntries : Nat) : BoundedMap κ ν where
  maxEntries := maxEntries
  entries := ∅

/-- Of two slots, the one `min_by_key` keeps: the older one, and of two equally old ones the one
the hash map visits first. `rank` is the position in that visiting order. -/
def older (rank : κ → Nat) (a b : κ × Slot ν) : κ × Slot ν :=
  if b.2.lastUpdated < a.2.lastUpdated ∨
      b.2.lastUpdated = a.2.lastUpdated ∧ rank b.1 < rank a.1 then b else a

def BoundedMap.leastRecentlyUpdatedKey (m : BoundedMap κ ν) (rank : κ → Nat) : Option κ :=
  match m.entries.toList with
  | [] => none
  | first :: rest => some (rest.foldl (older rank) first).1

def BoundedMap.upsert (m : BoundedMap κ ν) (rank : κ → Nat) (key : κ) (now : Nat) (default : ν)
    (update : ν → ν) : UpsertOutcome × BoundedMap κ ν :=
  if m.maxEntries = 0 then (.rejected, m)
  else
    match m.entries[key]? with
    | some slot =>
      (.updated, { m with entries := m.entries.insert key ⟨update slot.value, now⟩ })
    | none =>
      if m.maxEntries ≤ m.entries.size then
        match m.leastRecentlyUpdatedKey rank with
        | none => (.rejected, m)
        | some victim =>
          (.insertedByEviction,
            { m with entries := (m.entries.erase victim).insert key ⟨update default, now⟩ })
      else (.inserted, { m with entries := m.entries.insert key ⟨update default, now⟩ })

/-- The entries in key order; no caller depends on the order the hash map would give. -/
def BoundedMap.toList (m : BoundedMap κ ν) : List (κ × ν) :=
  m.entries.toList.map fun (key, slot) => (key, slot.value)

end Tidegard.Aggregator
