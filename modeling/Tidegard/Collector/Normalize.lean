import Tidegard.Aggregator.Ingest
import Tidegard.Ipfix.Decoder

namespace Tidegard.Collector.Normalize

open Common Aggregator.Ingest Ipfix.Decoder

/-- The rate each tier declares, the highest priority first. -/
structure SamplingInputs where
  recordLevel : Option Nat := none
  optionsTemplate : Option Nat := none
  exporterConfigured : Option Nat := none
  globalDefault : Option Nat := none
  deriving DecidableEq

structure ResolvedSampling where
  rate : SamplingRate
  source : SamplingSource
  zeroRateSkipped : Bool
  deriving DecidableEq

def SamplingRate.new (rate : Nat) : Option SamplingRate :=
  if pos : 0 < rate then some ⟨rate, pos⟩ else none

def SamplingRate.unsampled : SamplingRate := ⟨1, Nat.one_pos⟩

/-- The usable rate of one tier, and whether a zero has been skipped up to it. -/
def consider (skipped : Bool) : Option Nat → Option SamplingRate × Bool
  | some rate => (SamplingRate.new rate, skipped || rate = 0)
  | none => (none, skipped)

/-- The first tier with a usable rate decides. -/
def resolveTiers (skipped : Bool) : List (SamplingSource × Option Nat) → ResolvedSampling
  | [] => ⟨SamplingRate.unsampled, .unsampled, skipped⟩
  | (source, value) :: rest =>
    match consider skipped value with
    | (some rate, skipped) => ⟨rate, source, skipped⟩
    | (none, skipped) => resolveTiers skipped rest

def SamplingInputs.tiers (inputs : SamplingInputs) : List (SamplingSource × Option Nat) :=
  [(.recordLevel, inputs.recordLevel), (.optionsTemplate, inputs.optionsTemplate),
    (.exporterConfigured, inputs.exporterConfigured), (.globalDefault, inputs.globalDefault)]

def resolve (inputs : SamplingInputs) : ResolvedSampling := resolveTiers false inputs.tiers

/-- `raw.checked_mul(rate)`. -/
def SamplingRate.apply (rate : SamplingRate) (raw : Nat) : Option Nat :=
  if raw * rate.rate ≤ u64Max then some (raw * rate.rate) else none

inductive FlowError where
  | empty
  | samplingOverflow (field : String)
  deriving DecidableEq

/-- A flow with every field the collector fills. The times are never known here. -/
structure IpfixFlow extends AsnFlow where
  sourcePort : Option Nat
  destinationPort : Option Nat
  rawBytes : Nat
  rawPackets : Nat
  inputInterface : Option Nat
  outputInterface : Option Nat
  observationDomainId : Nat
  deriving DecidableEq

structure NormalizedFlowBuilder where
  sourceAddr : IpAddr
  destinationAddr : IpAddr
  sourcePort : Option Nat
  destinationPort : Option Nat
  protocol : Option Protocol
  tcpFlags : Option (BitVec 8)
  rawBytes : Nat
  rawPackets : Nat
  inputInterface : Option Nat
  outputInterface : Option Nat
  sourceAsn : Option Nat
  destinationAsn : Option Nat
  exporter : IpAddr
  observationDomainId : Nat
  fragmented : Bool
  dropped : Bool
  forwardingStatusKnown : Bool
  deriving DecidableEq

/-- A raw counter times the rate; `field` is the name the overflow is reported under. -/
def corrected (rate : SamplingRate) (field : String) (raw : Nat) : Except FlowError Nat :=
  match SamplingRate.apply rate raw with
  | some n => .ok n
  | none => .error (.samplingOverflow field)

def NormalizedFlowBuilder.build (b : NormalizedFlowBuilder) (rate : SamplingRate)
    (source : SamplingSource) : Except FlowError IpfixFlow := do
  if b.rawBytes = 0 ∧ b.rawPackets = 0 then .error .empty
  else
    let bytes ← corrected rate "bytes" b.rawBytes
    let packets ← corrected rate "packets" b.rawPackets
    return {
      sourceAddr := b.sourceAddr
      destinationAddr := b.destinationAddr
      sourcePort := b.sourcePort
      destinationPort := b.destinationPort
      protocol := b.protocol
      tcpFlags := b.tcpFlags
      bytes
      packets
      rawBytes := b.rawBytes
      rawPackets := b.rawPackets
      samplingRate := rate
      samplingSource := source
      inputInterface := b.inputInterface
      outputInterface := b.outputInterface
      sourceAsn := b.sourceAsn
      destinationAsn := b.destinationAsn
      exporter := b.exporter
      observationDomainId := b.observationDomainId
      fragmented := b.fragmented
      dropped := b.dropped
      forwardingStatusKnown := b.forwardingStatusKnown }

def protocolOfNumber (n : BitVec 8) : Protocol :=
  match n.toNat with
  | 1 => .icmp
  | 6 => .tcp
  | 17 => .udp
  | 58 => .icmpv6
  | _ => .other n

@[match_pattern] def ieOctetDeltaCount : Nat := 1
@[match_pattern] def iePacketDeltaCount : Nat := 2
@[match_pattern] def ieProtocolIdentifier : Nat := 4
@[match_pattern] def ieTcpControlBits : Nat := 6
@[match_pattern] def ieSourceTransportPort : Nat := 7
@[match_pattern] def ieSourceIpv4Address : Nat := 8
@[match_pattern] def ieIngressInterface : Nat := 10
@[match_pattern] def ieDestinationTransportPort : Nat := 11
@[match_pattern] def ieDestinationIpv4Address : Nat := 12
@[match_pattern] def ieEgressInterface : Nat := 14
@[match_pattern] def ieBgpSourceAsNumber : Nat := 16
@[match_pattern] def ieBgpDestinationAsNumber : Nat := 17
@[match_pattern] def ieSourceIpv6Address : Nat := 27
@[match_pattern] def ieDestinationIpv6Address : Nat := 28
@[match_pattern] def ieRecordSamplingInterval : Nat := 34
@[match_pattern] def ieForwardingStatus : Nat := 89

def forwardingStatusDropped : Nat := 2

def asIpv4 (f : DecodedField) : Option IpAddr :=
  if f.value.length = 4 then some (.v4 (BitVec.ofNat 32 (fromBeBytes f.value))) else none

def asIpv6 (f : DecodedField) : Option IpAddr :=
  if f.value.length = 16 then some (.v6 (BitVec.ofNat 128 (fromBeBytes f.value))) else none

/-- `field.as_u64_be()` narrowed with `as` to `bits` bits. -/
def narrowed (bits : Nat) (f : DecodedField) : Option Nat := f.asU64Be.map (· % 2 ^ bits)

/-- The two top bits of the low octet are the coarse status. -/
def isDropped (status : Nat) : Bool := status % 2 ^ 8 / 2 ^ 6 = forwardingStatusDropped

/-- What the loop over the fields of a record has collected. -/
structure Scan where
  sourceAddr : Option IpAddr := none
  destinationAddr : Option IpAddr := none
  sourcePort : Option Nat := none
  destinationPort : Option Nat := none
  protocol : Option Protocol := none
  tcpFlags : Option (BitVec 8) := none
  rawBytes : Nat := 0
  rawPackets : Nat := 0
  inputInterface : Option Nat := none
  outputInterface : Option Nat := none
  sourceAsn : Option Nat := none
  destinationAsn : Option Nat := none
  recordLevelSampling : Option Nat := none
  forwardingStatusKnown : Bool := false
  dropped : Bool := false
  deriving DecidableEq

/-- One field: only its element id is looked at, never its enterprise number. -/
def Scan.take (s : Scan) (f : DecodedField) : Scan :=
  match f.informationElementId with
  | ieSourceIpv4Address => { s with sourceAddr := asIpv4 f }
  | ieDestinationIpv4Address => { s with destinationAddr := asIpv4 f }
  | ieSourceIpv6Address => { s with sourceAddr := asIpv6 f }
  | ieDestinationIpv6Address => { s with destinationAddr := asIpv6 f }
  | ieSourceTransportPort => { s with sourcePort := narrowed 16 f }
  | ieDestinationTransportPort => { s with destinationPort := narrowed 16 f }
  | ieProtocolIdentifier =>
    { s with protocol := f.asU64Be.map fun v => protocolOfNumber (BitVec.ofNat 8 v) }
  | ieTcpControlBits => { s with tcpFlags := f.asU64Be.map (BitVec.ofNat 8) }
  | ieOctetDeltaCount => { s with rawBytes := f.asU64Be.getD 0 }
  | iePacketDeltaCount => { s with rawPackets := f.asU64Be.getD 0 }
  | ieIngressInterface => { s with inputInterface := narrowed 32 f }
  | ieEgressInterface => { s with outputInterface := narrowed 32 f }
  | ieBgpSourceAsNumber => { s with sourceAsn := narrowed 32 f }
  | ieBgpDestinationAsNumber => { s with destinationAsn := narrowed 32 f }
  | ieRecordSamplingInterval => { s with recordLevelSampling := narrowed 32 f }
  | ieForwardingStatus =>
    -- a value that cannot be read leaves both as they are
    { s with
      forwardingStatusKnown := s.forwardingStatusKnown || f.asU64Be.isSome
      dropped := (f.asU64Be.map isDropped).getD s.dropped }
  | _ => s

def scan (record : DataRecord) : Scan := record.fields.foldl Scan.take {}

inductive NormalizeError where
  | missingAddresses
  | flow (error : FlowError)
  deriving DecidableEq

structure ExternalSamplingConfig where
  exporterConfigured : Option Nat := none
  globalDefault : Option Nat := none
  deriving DecidableEq

structure NormalizeOutcome where
  flow : IpfixFlow
  zeroRateSkipped : Bool
  deriving DecidableEq

def samplingInputs (s : Scan) (optionsSampling : SamplingInfo) (external : ExternalSamplingConfig) :
    SamplingInputs where
  recordLevel := s.recordLevelSampling
  optionsTemplate := optionsSampling.samplingInterval
  exporterConfigured := external.exporterConfigured
  globalDefault := external.globalDefault

/-- What is built from the collected fields once both addresses are there. -/
def Scan.builder (s : Scan) (sourceAddr destinationAddr exporter : IpAddr)
    (observationDomainId : Nat) : NormalizedFlowBuilder where
  sourceAddr := sourceAddr
  destinationAddr := destinationAddr
  sourcePort := s.sourcePort
  destinationPort := s.destinationPort
  protocol := s.protocol
  tcpFlags := s.tcpFlags
  rawBytes := s.rawBytes
  rawPackets := s.rawPackets
  inputInterface := s.inputInterface
  outputInterface := s.outputInterface
  sourceAsn := s.sourceAsn
  destinationAsn := s.destinationAsn
  exporter := exporter
  observationDomainId := observationDomainId
  fragmented := false
  dropped := s.dropped
  forwardingStatusKnown := s.forwardingStatusKnown

def normalizeScan (s : Scan) (exporter : IpAddr) (observationDomainId : Nat)
    (optionsSampling : SamplingInfo) (external : ExternalSamplingConfig) :
    Except NormalizeError NormalizeOutcome :=
  match s.sourceAddr, s.destinationAddr with
  | some sourceAddr, some destinationAddr => do
    let resolved := resolve (samplingInputs s optionsSampling external)
    let builder := s.builder sourceAddr destinationAddr exporter observationDomainId
    let flow ← (builder.build resolved.rate resolved.source).mapError .flow
    return { flow, zeroRateSkipped := resolved.zeroRateSkipped }
  | _, _ => .error .missingAddresses

def normalizeIpfixRecord (record : DataRecord) (exporter : IpAddr) (observationDomainId : Nat)
    (optionsSampling : SamplingInfo) (external : ExternalSamplingConfig) :
    Except NormalizeError NormalizeOutcome :=
  normalizeScan (scan record) exporter observationDomainId optionsSampling external

end Tidegard.Collector.Normalize
