import Tidegard.Detector.Window
import Tidegard.IncidentPostgres.Row
import Tidegard.Mitigation.Prefix

namespace Tidegard.IncidentPostgres.Schema

open Common Detector.Input Detector.Window Incident.Basics Incident.Record
open Row
open Mitigation.Prefix (maxLength)

/-- How the database reads an address with or without a length from a text. -/
structure Postgres where
  inet : String → Option (IpAddr × Nat)

/-- It reads back what the standard library shows; a bare address has the full length. -/
structure Postgres.ReadsBack (pg : Postgres) (showAddr : IpAddr → String) : Prop where
  address : ∀ a, pg.inet (showAddr a) = some (a, maxLength a)
  network : ∀ a length, length ≤ maxLength a →
    pg.inet (showAddr a ++ "/" ++ toString length) = some (a, length)

/-- `network(inet)`: the host bits are cleared and the length kept. -/
def network (value : IpAddr × Nat) : IpAddr × Nat :=
  (Tidegard.Mitigation.Prefix.mask value.1 value.2, value.2)

inductive IndexEntry where
  | host (tenant : String) (target : IpAddr × Nat) (direction : String) (addressFamily : Int)
  | network (tenant : String) (target : IpAddr × Nat) (direction : String) (addressFamily : Int)
  | hostgroup (tenant name direction : String)
  deriving DecidableEq

/-- The entry a row has, if any: a resolved or closed incident has none, and neither has a row
whose indexed column is null. -/
def indexEntry (pg : Postgres) (row : IncidentRow) : Option IndexEntry :=
  if row.state = "resolved" ∨ row.state = "closed" then none
  else if row.targetType = "host" then
    (row.targetAddr.bind pg.inet).map (.host row.tenantId · row.direction row.addressFamily)
  else if row.targetType = "network" then
    (row.targetNetwork.bind pg.inet).map
      fun value => .network row.tenantId (network value) row.direction row.addressFamily
  else if row.targetType = "hostgroup" then
    row.targetHostgroup.map (.hostgroup row.tenantId · row.direction)
  else none

/-- Two rows that cannot both be in the table. -/
def Collides (pg : Postgres) (row row' : IncidentRow) : Prop :=
  ∃ entry, indexEntry pg row = some entry ∧ indexEntry pg row' = some entry

def keyOf (scope : ScopeKey) : CorrelationKey :=
  ⟨scope.tenant, scope.scopeType, scope.scopeId, scope.direction, scope.addressFamily⟩

/-- The keys of detections, which the windows make, and of manual incidents. -/
inductive Carried : CorrelationKey → Prop
  | host (side : Side) : Carried (keyOf (side.key .host (.host side.addr)))
  | matched (side : Side) (prefixLen : Nat) (inRange : prefixLen ≤ maxLength side.addr) :
      Carried (keyOf (side.key .prefix_ (.network (mask side.addr prefixLen) prefixLen)))
  | slash24 (side : Side) (ipv4 : side.addr.isIpv4 = true) :
      Carried (keyOf (side.key .slash24 (.network (mask side.addr 24) 24)))
  | hostgroup (side : Side) (name : String) (member : side.hostgroup = some name) :
      Carried (keyOf (side.key .hostgroupTotal (.hostgroup name)))
  | manual (request : ManualIncident) (tenant : TenantId) (valid : request.validate = .ok ()) :
      Carried (request.correlationKey tenant)

/-- The kind of the target, the target and the family agree. -/
def Agrees (key : CorrelationKey) : Prop :=
  match key.targetType, key.targetIdentity with
  | .host, .host addr => key.addressFamily = AddressFamily.of addr
  | .prefix_, .network addr length | .slash24, .network addr length =>
    key.addressFamily = AddressFamily.of addr ∧ length ≤ maxLength addr
  | .hostgroupTotal, .hostgroup _ => True
  | _, _ => False

/-- The incident is filed under the key: its own fields say the same. -/
def HasKey (i : Incident) (key : CorrelationKey) : Prop :=
  i.correlationKey = key ∧
    key = ⟨i.tenantId, i.targetType, i.targetIdentity, i.direction, i.addressFamily⟩

/-- The row of an active incident with the key. -/
def ActiveRow (lib : Library) (key : CorrelationKey) (row : IncidentRow) : Prop :=
  ∃ i, HasKey i key ∧ Active i.state ∧ fromIncident lib i = .ok row

/-- The indexes take the keys for one although they differ: a network under two kinds or with
different host bits, or a host group in two families. -/
def Confused (k k' : CorrelationKey) : Prop :=
  k.tenant = k'.tenant ∧ k.direction = k'.direction ∧
    ((∃ addr addr' length, k.targetIdentity = .network addr length ∧
        k'.targetIdentity = .network addr' length ∧ k.addressFamily = k'.addressFamily ∧
        network (addr, length) = network (addr', length) ∧
        (addr ≠ addr' ∨ k.targetType ≠ k'.targetType)) ∨
      (∃ name, k.targetIdentity = .hostgroup name ∧ k'.targetIdentity = .hostgroup name ∧
        k.addressFamily ≠ k'.addressFamily))

end Tidegard.IncidentPostgres.Schema
