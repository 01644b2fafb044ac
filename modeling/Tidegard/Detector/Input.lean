import Tidegard.Common

namespace Tidegard.Detector.Input

open Common

inductive AddressFamily where
  | ipv4
  | ipv6
  deriving DecidableEq

def AddressFamily.of : IpAddr → AddressFamily
  | .v4 _ => .ipv4
  | .v6 _ => .ipv6

inductive TrafficDirection where
  | incoming
  | outgoing
  | internal
  | other
  | unknown
  deriving DecidableEq

def TrafficDirection.asStr : TrafficDirection → String
  | .incoming => "incoming"
  | .outgoing => "outgoing"
  | .internal => "internal"
  | .other => "other"
  | .unknown => "unknown"

inductive ScopeType where
  | host
  | prefix_
  | slash24
  | hostgroupTotal
  deriving DecidableEq

def ScopeType.asStr : ScopeType → String
  | .host => "host"
  | .prefix_ => "prefix"
  | .slash24 => "slash24"
  | .hostgroupTotal => "hostgroupTotal"

def ScopeType.specificity : ScopeType → Nat
  | .host => 40
  | .prefix_ => 30
  | .slash24 => 20
  | .hostgroupTotal => 10

inductive ScopeId where
  | host (addr : IpAddr)
  | network (addr : IpAddr) (prefixLen : Nat)
  | hostgroup (name : String)
  deriving DecidableEq

/-- What is being watched: one traffic direction of one scope of one tenant. -/
structure ScopeKey where
  tenant : String
  scopeType : ScopeType
  scopeId : ScopeId
  direction : TrafficDirection
  addressFamily : AddressFamily
  deriving DecidableEq

def ScopeId.code : ScopeId → Nat ×ₗ (Nat ×ₗ Nat) ×ₗ Nat ×ₗ String
  | .host addr => toLex (0, toLex (addr.code, toLex (0, "")))
  | .network addr len => toLex (1, toLex (addr.code, toLex (len, "")))
  | .hostgroup name => toLex (2, toLex (toLex (0, 0), toLex (0, name)))

theorem ScopeId.code_injective : Function.Injective ScopeId.code := by
  intro a b h
  cases a <;> cases b <;>
    simp [ScopeId.code, IpAddr.code_injective.eq_iff] at h ⊢ <;> exact h

/-- The fields in declaration order, which is the order the derived `Ord` compares them in. -/
def ScopeKey.code (k : ScopeKey) :
    String ×ₗ Nat ×ₗ (Nat ×ₗ (Nat ×ₗ Nat) ×ₗ Nat ×ₗ String) ×ₗ Nat ×ₗ Nat :=
  toLex (k.tenant, toLex (k.scopeType.ctorIdx, toLex (k.scopeId.code,
    toLex (k.direction.ctorIdx, k.addressFamily.ctorIdx))))

theorem ScopeType.ctorIdx_injective : Function.Injective ScopeType.ctorIdx := by
  intro a b h
  cases a <;> cases b <;> first | rfl | cases h

theorem TrafficDirection.ctorIdx_injective : Function.Injective TrafficDirection.ctorIdx := by
  intro a b h
  cases a <;> cases b <;> first | rfl | cases h

theorem AddressFamily.ctorIdx_injective : Function.Injective AddressFamily.ctorIdx := by
  intro a b h
  cases a <;> cases b <;> first | rfl | cases h

theorem ScopeKey.code_injective : Function.Injective ScopeKey.code := by
  intro a b h
  simp only [ScopeKey.code, toLex_inj, Prod.mk.injEq, ScopeType.ctorIdx_injective.eq_iff,
    TrafficDirection.ctorIdx_injective.eq_iff, AddressFamily.ctorIdx_injective.eq_iff,
    ScopeId.code_injective.eq_iff] at h
  obtain ⟨h₁, h₂, h₃, h₄, h₅⟩ := h
  cases a
  cases b
  simp_all

instance : LinearOrder ScopeKey := LinearOrder.lift' ScopeKey.code ScopeKey.code_injective

inductive MetricKind where
  | bps
  | pps
  | fps
  | tcpBps
  | tcpPps
  | udpBps
  | udpPps
  | icmpBps
  | icmpPps
  | tcpSynBps
  | tcpSynPps
  | fragmentedBps
  | fragmentedPps
  | droppedBps
  | droppedPps
  deriving DecidableEq

theorem MetricKind.ctorIdx_injective : Function.Injective MetricKind.ctorIdx := by
  intro a b h
  cases a <;> cases b <;> first | rfl | cases h

instance : LinearOrder MetricKind := LinearOrder.lift' MetricKind.ctorIdx MetricKind.ctorIdx_injective

def MetricKind.asStr : MetricKind → String
  | .bps => "bps"
  | .pps => "pps"
  | .fps => "fps"
  | .tcpBps => "tcpBps"
  | .tcpPps => "tcpPps"
  | .udpBps => "udpBps"
  | .udpPps => "udpPps"
  | .icmpBps => "icmpBps"
  | .icmpPps => "icmpPps"
  | .tcpSynBps => "tcpSynBps"
  | .tcpSynPps => "tcpSynPps"
  | .fragmentedBps => "fragmentedBps"
  | .fragmentedPps => "fragmentedPps"
  | .droppedBps => "droppedBps"
  | .droppedPps => "droppedPps"

inductive CompletenessFlag where
  | protocol
  | tcpFlags
  | fragmentation
  | forwardingStatus
  deriving DecidableEq

/-- The exporter field a metric cannot be judged without. -/
def MetricKind.requiredCompleteness : MetricKind → Option CompletenessFlag
  | .tcpSynBps | .tcpSynPps => some .tcpFlags
  | .fragmentedBps | .fragmentedPps => some .fragmentation
  | .droppedBps | .droppedPps => some .forwardingStatus
  | .tcpBps | .tcpPps | .udpBps | .udpPps | .icmpBps | .icmpPps => some .protocol
  | .bps | .pps | .fps => none

structure DataCompleteness where
  protocolSeen : Bool := false
  tcpFlagsSeen : Bool := false
  fragmentationSeen : Bool := false
  forwardingStatusSeen : Bool := false
  deriving DecidableEq

def DataCompleteness.has (c : DataCompleteness) : CompletenessFlag → Bool
  | .protocol => c.protocolSeen
  | .tcpFlags => c.tcpFlagsSeen
  | .fragmentation => c.fragmentationSeen
  | .forwardingStatus => c.forwardingStatusSeen

def DataCompleteness.merge (c other : DataCompleteness) : DataCompleteness where
  protocolSeen := c.protocolSeen || other.protocolSeen
  tcpFlagsSeen := c.tcpFlagsSeen || other.tcpFlagsSeen
  fragmentationSeen := c.fragmentationSeen || other.fragmentationSeen
  forwardingStatusSeen := c.forwardingStatusSeen || other.forwardingStatusSeen

structure SamplingStatus where
  corrected : Bool := false
  usedGlobalDefault : Bool := false
  maxRate : Nat := 0
  deriving DecidableEq

def SamplingStatus.merge (s other : SamplingStatus) : SamplingStatus where
  corrected := s.corrected || other.corrected
  usedGlobalDefault := s.usedGlobalDefault || other.usedGlobalDefault
  maxRate := max s.maxRate other.maxRate

structure MetricRates where
  bps : Nat := 0
  pps : Nat := 0
  fps : Nat := 0
  tcpBps : Nat := 0
  tcpPps : Nat := 0
  udpBps : Nat := 0
  udpPps : Nat := 0
  icmpBps : Nat := 0
  icmpPps : Nat := 0
  tcpSynBps : Nat := 0
  tcpSynPps : Nat := 0
  fragmentedBps : Nat := 0
  fragmentedPps : Nat := 0
  droppedBps : Nat := 0
  droppedPps : Nat := 0
  deriving DecidableEq

def MetricRates.get (r : MetricRates) : MetricKind → Nat
  | .bps => r.bps
  | .pps => r.pps
  | .fps => r.fps
  | .tcpBps => r.tcpBps
  | .tcpPps => r.tcpPps
  | .udpBps => r.udpBps
  | .udpPps => r.udpPps
  | .icmpBps => r.icmpBps
  | .icmpPps => r.icmpPps
  | .tcpSynBps => r.tcpSynBps
  | .tcpSynPps => r.tcpSynPps
  | .fragmentedBps => r.fragmentedBps
  | .fragmentedPps => r.fragmentedPps
  | .droppedBps => r.droppedBps
  | .droppedPps => r.droppedPps

/-- One scope's traffic over one rate window. -/
structure DetectionSnapshot where
  key : ScopeKey
  window : Nat
  observedAt : Nat
  observedWall : Int
  rates : MetricRates
  completeness : DataCompleteness
  sampling : SamplingStatus
  flowsObserved : Nat
  exportersObserved : Nat
  deriving DecidableEq

def sampleKey : ScopeKey where
  tenant := "acme"
  scopeType := .host
  scopeId := .host (.v4 0xCB007107#32)
  direction := .incoming
  addressFamily := .ipv4

def sampleSnapshot (observedAt bps : Nat) : DetectionSnapshot where
  key := sampleKey
  window := 1
  observedAt := observedAt
  observedWall := observedAt
  rates := { bps := bps }
  completeness := {}
  sampling := {}
  flowsObserved := 1
  exportersObserved := 1

end Tidegard.Detector.Input
