import Mathlib

namespace Tidegard.Common

/-! Instants and durations are nanoseconds, in `Nat`; an instant counts from some fixed point
of the monotonic clock. A wall-clock time is nanoseconds from the Unix epoch, in `Int`: a wall
clock may stand before it. -/

def u64Max : Nat := 2 ^ 64 - 1

/-- `u64::saturating_add`. -/
def saturatingAdd (a b : Nat) : Nat := min (a + b) u64Max

/-- `u64::saturating_mul`. -/
def saturatingMul (a b : Nat) : Nat := min (a * b) u64Max

/-- `Duration::from_secs`. -/
def fromSecs (n : Nat) : Nat := n * 1000000000

inductive IpAddr where
  | v4 (bits : BitVec 32)
  | v6 (bits : BitVec 128)
  deriving DecidableEq

def IpAddr.isIpv4 : IpAddr → Bool
  | .v4 _ => true
  | .v6 _ => false

def IpAddr.code : IpAddr → Nat ×ₗ Nat
  | .v4 b => toLex (0, b.toNat)
  | .v6 b => toLex (1, b.toNat)

theorem IpAddr.code_injective : Function.Injective IpAddr.code := by
  intro a b h
  cases a <;> cases b <;> simp [IpAddr.code, BitVec.toNat_inj] at h ⊢ <;> exact h

inductive Protocol where
  | icmp
  | tcp
  | udp
  | icmpv6
  | other (number : BitVec 8)
  deriving DecidableEq

def tcpFlagSyn : BitVec 8 := 0b00000010#8

/-- A sampling rate is never zero. -/
structure SamplingRate where
  rate : Nat
  pos : 0 < rate
  deriving DecidableEq

inductive SamplingSource where
  | recordLevel
  | optionsTemplate
  | exporterConfigured
  | globalDefault
  | unsampled
  deriving DecidableEq

structure NormalizedFlow where
  sourceAddr : IpAddr
  destinationAddr : IpAddr
  protocol : Option Protocol
  tcpFlags : Option (BitVec 8)
  bytes : Nat
  packets : Nat
  samplingRate : SamplingRate
  samplingSource : SamplingSource
  exporter : IpAddr
  fragmented : Bool
  dropped : Bool
  forwardingStatusKnown : Bool
  deriving DecidableEq

def NormalizedFlow.isTcpSyn (flow : NormalizedFlow) : Bool :=
  flow.protocol == some .tcp && flow.tcpFlags.any fun flags => flags &&& tcpFlagSyn != 0

end Tidegard.Common
