import Tidegard.Collector.Normalize
import Tidegard.Fallible
import Tidegard.Latest

namespace Tidegard.Collector.Proofs.Normalized

open Common Fallible Ipfix.Decoder Latest Normalize Scan

/-- `after` is `before` with the values of some enterprise-specific fields replaced, and some of
those fields left out. -/
inductive Varied : List DecodedField → List DecodedField → Prop
  | nil : Varied [] []
  | keep (f : DecodedField) {before after : List DecodedField} (rest : Varied before after) :
      Varied (f :: before) (f :: after)
  | replace (f : DecodedField) (specific : f.enterpriseNumber.isSome) (value : Bytes)
      {before after : List DecodedField} (rest : Varied before after) :
      Varied (f :: before) ({ f with value } :: after)
  | delete (f : DecodedField) (specific : f.enterpriseNumber.isSome)
      {before after : List DecodedField} (rest : Varied before after) : Varied (f :: before) after

/-- Two records normalize alike, whatever else is given, and teach every cache the same. -/
def SameMeaning (a b : DataRecord) : Prop :=
  (∀ exporter domain sampling external,
    normalizeIpfixRecord b exporter domain sampling external =
      normalizeIpfixRecord a exporter domain sampling external) ∧
  ∀ cache : TemplateCache, (cache.observeOptionsData b).sampling =
    (cache.observeOptionsData a).sampling

/-- The elements that a field's id alone stands for, in normalization or in options data. -/
def interpreted : List Nat :=
  [ieOctetDeltaCount, iePacketDeltaCount, ieProtocolIdentifier, ieTcpControlBits,
    ieSourceTransportPort, ieSourceIpv4Address, ieIngressInterface, ieDestinationTransportPort,
    ieDestinationIpv4Address, ieEgressInterface, ieBgpSourceAsNumber, ieBgpDestinationAsNumber,
    ieSourceIpv6Address, ieDestinationIpv6Address, ieSamplingInterval, ieSamplingAlgorithm,
    ieForwardingStatus]

section Varied

variable {f : DecodedField} {before after : List DecodedField}

theorem take_uninterpreted (h : f.informationElementId ∉ interpreted) (s : Scan) :
    s.take f = s := by
  unfold take
  -- every branch but the last is entered with an interpreted id
  split
  case h_17 => rfl
  all_goals
    rename_i hid
    rw [hid] at h
    exact absurd (by decide) h

theorem observe_uninterpreted (h : f.informationElementId ∉ interpreted) (s : SamplingInfo) :
    s.observe f = s := by
  have hinterval : f.informationElementId ≠ ieSamplingInterval := by
    rintro hid
    exact h (by rw [hid]; decide)
  have halgorithm : f.informationElementId ≠ ieSamplingAlgorithm := by
    rintro hid
    exact h (by rw [hid]; decide)
  unfold SamplingInfo.observe
  split
  · rfl
  · rw [if_neg hinterval, if_neg halgorithm]

/-- A fold that passes over the enterprise-specific fields does not see their variation. -/
theorem foldl_varied {σ : Type} {step : σ → DecodedField → σ} {ids : List Nat}
    (skips : ∀ (f : DecodedField) s, f.informationElementId ∉ ids → step s f = s)
    (h : Varied before after)
    (other : ∀ f ∈ before, f.enterpriseNumber.isSome → f.informationElementId ∉ ids) (s : σ) :
    after.foldl step s = before.foldl step s := by
  induction h generalizing s with
  | nil => rfl
  | keep f rest ih => exact ih (fun g hg => other g (List.mem_cons_of_mem _ hg)) _
  | replace f specific value rest ih =>
    have hid := other f List.mem_cons_self specific
    rw [List.foldl_cons, List.foldl_cons, skips { f with value } s hid, skips f s hid]
    exact ih (fun g hg => other g (List.mem_cons_of_mem _ hg)) _
  | delete f specific rest ih =>
    have hid := other f List.mem_cons_self specific
    rw [List.foldl_cons, skips f s hid]
    exact ih (fun g hg => other g (List.mem_cons_of_mem _ hg)) _

theorem sameMeaning_of_uninterpreted {record : DataRecord} (h : Varied record.fields after)
    (other : ∀ f ∈ record.fields, f.enterpriseNumber.isSome →
      f.informationElementId ∉ interpreted) :
    SameMeaning record { record with fields := after } := by
  have hscan : scan { record with fields := after } = scan record :=
    foldl_varied (fun f s hf => take_uninterpreted hf s) h other _
  constructor
  · intro exporter domain sampling external
    unfold normalizeIpfixRecord
    rw [hscan]
  · intro cache
    exact foldl_varied (fun f s hf => observe_uninterpreted hf s) h other _

end Varied

def plainFields : List DecodedField :=
  [⟨ieSourceIpv4Address, none, [10, 0, 0, 1]⟩, ⟨ieDestinationIpv4Address, none, [10, 0, 0, 2]⟩,
    ⟨ieOctetDeltaCount, none, [1]⟩]

/-- A field of enterprise 9 under the element id, with a value of the element's width. -/
def reusedField (id : Nat) : DecodedField where
  informationElementId := id
  enterpriseNumber := some 9
  value :=
    if id = ieSourceIpv4Address ∨ id = ieDestinationIpv4Address then [192, 0, 2, 9]
    else if id = ieSourceIpv6Address ∨ id = ieDestinationIpv6Address then List.replicate 16 1
    else [2]

def reusingRecord (id : Nat) : DataRecord where
  templateId := 256
  fields := plainFields ++ [reusedField id]

def plainRecord : DataRecord where
  templateId := 256
  fields := plainFields

/-- Whether the reused element changes the flow, or what is learned of the sampling. -/
def reuseShows (id : Nat) : Bool :=
  decide (normalizeIpfixRecord plainRecord (.v4 0) 7 {} {} ≠
    normalizeIpfixRecord (reusingRecord id) (.v4 0) 7 {} {}) ||
  decide ((TemplateCache.new.observeOptionsData plainRecord).sampling ≠
    (TemplateCache.new.observeOptionsData (reusingRecord id)).sampling)

theorem reuse_shows : ∀ id ∈ interpreted, reuseShows id = true := by decide +kernel

theorem plain_of_reusing (id : Nat) : Varied (reusingRecord id).fields plainFields :=
  .keep _ (.keep _ (.keep _ (.delete _ rfl .nil)))

theorem not_sameMeaning_of_shows {id : Nat} (h : reuseShows id = true) :
    ¬SameMeaning (reusingRecord id) plainRecord := by
  rintro ⟨hflow, hsampling⟩
  unfold reuseShows at h
  rw [hflow, hsampling] at h
  simp at h

/-- Replacing or leaving out enterprise-specific fields changes neither the flow or the error of a
record nor the sampling parameters learned from it, for all records whose enterprise-specific fields
have ids in `ids`, exactly when none of these ids is interpreted as an IANA element. -/
theorem enterprise_ignored_iff (ids : Set Nat) :
    (∀ (record : DataRecord) (after : List DecodedField),
      (∀ f ∈ record.fields, f.enterpriseNumber.isSome → f.informationElementId ∈ ids) →
      Varied record.fields after → SameMeaning record { record with fields := after }) ↔
    ∀ id ∈ ids, id ∉ interpreted := by
  constructor
  · intro h id hid hinterpreted
    apply not_sameMeaning_of_shows (reuse_shows id hinterpreted)
    refine h (reusingRecord id) plainFields ?_ (plain_of_reusing id)
    intro f hf specific
    simp only [reusingRecord, plainFields, List.cons_append, List.nil_append, List.mem_cons,
      List.not_mem_nil, or_false] at hf
    rcases hf with rfl | rfl | rfl | rfl
    · cases specific
    · cases specific
    · cases specific
    · exact hid
  · intro h record after hids hvaried
    exact sameMeaning_of_uninterpreted hvaried fun f hf specific => h _ (hids f hf specific)

/-- An enterprise's own element 8 becomes the source address, and its own element 34 the sampling
interval. -/
theorem enterprise_reuse_overwrites :
    ((normalizeIpfixRecord (reusingRecord ieSourceIpv4Address) (.v4 0) 7 {} {}).map
      (·.flow.sourceAddr)) = .ok (.v4 0xC0000209#32) ∧
    ((normalizeIpfixRecord plainRecord (.v4 0) 7 {} {}).map (·.flow.sourceAddr)) =
      .ok (.v4 0x0A000001#32) ∧
    (TemplateCache.new.observeOptionsData (reusingRecord ieSamplingInterval)).sampling =
      { samplingInterval := some 2 } ∧
    ¬SameMeaning (reusingRecord ieSourceIpv4Address) plainRecord := by
  refine ⟨by decide +kernel, by decide +kernel, by decide +kernel, ?_⟩
  exact not_sameMeaning_of_shows (reuse_shows ieSourceIpv4Address (by decide))

/-- The last field under one of the ids. -/
def lastField (ids : List Nat) (fields : List DecodedField) : Option DecodedField :=
  lastWrite (fun f => if f.informationElementId ∈ ids then some f else none) fields

/-- A variable that only the fields under `ids` write holds what the last of them wrote. -/
theorem scan_read {β : Type} (read : Scan → β) (ids : List Nat) (value : DecodedField → β)
    (hit : ∀ (s : Scan) f, f.informationElementId ∈ ids → read (s.take f) = value f)
    (miss : ∀ (s : Scan) f, f.informationElementId ∉ ids → read (s.take f) = read s)
    (record : DataRecord) :
    read (scan record) = ((lastField ids record.fields).map value).getD (read {}) := by
  have hstep : ∀ s f, read (take s f) =
      ((if f.informationElementId ∈ ids then some f else none).map value).getD (read s) := by
    intro s f
    by_cases h : f.informationElementId ∈ ids
    · rw [if_pos h]
      exact hit s f h
    · rw [if_neg h]
      exact miss s f h
  have hfold := read_foldl read hstep record.fields {}
  rw [lastWrite_map] at hfold
  exact hfold

/-- The record without its enterprise-specific fields: what it says in IANA's elements. -/
def iana (record : DataRecord) : DataRecord :=
  { record with fields := record.fields.filter (·.enterpriseNumber.isNone) }

/-- The counter of a record, without its sampling correction. -/
def rawCount (id : Nat) (record : DataRecord) : Nat :=
  ((lastField [id] record.fields).bind DecodedField.asU64Be).getD 0

/-- The sampling interval of a record, in all its 64 bits. -/
def recordInterval (record : DataRecord) : Option Nat :=
  (lastField [ieSamplingInterval] record.fields).bind DecodedField.asU64Be

/-- The sampling interval of options data: the last one that can be read. -/
def optionsInterval (observed : List DataRecord) : Option Nat :=
  lastWrite (fun f => if f.informationElementId = ieSamplingInterval then f.asU64Be else none)
    (observed.flatMap (·.fields))

section Scan

variable (record : DataRecord)

/-- How a field under an address element is read. -/
def readAddress (v4 : Nat) (f : DecodedField) : Option IpAddr :=
  if f.informationElementId = v4 then asIpv4 f else asIpv6 f

theorem scan_sourceAddr :
    (scan record).sourceAddr =
      (lastField [ieSourceIpv4Address, ieSourceIpv6Address] record.fields).bind
        (readAddress ieSourceIpv4Address) := by
  rw [scan_read sourceAddr [ieSourceIpv4Address, ieSourceIpv6Address]
    (readAddress ieSourceIpv4Address)]
  · cases lastField [ieSourceIpv4Address, ieSourceIpv6Address] record.fields <;> rfl
  · intro s f hf
    simp only [List.mem_cons, List.not_mem_nil, or_false] at hf
    unfold take readAddress
    rcases hf with hid | hid <;> rw [hid] <;> rfl
  · intro s f hf
    unfold take
    split <;> first | rfl | (rename_i hid; exact absurd (by rw [hid]; decide) hf)

theorem scan_destinationAddr :
    (scan record).destinationAddr =
      (lastField [ieDestinationIpv4Address, ieDestinationIpv6Address] record.fields).bind
        (readAddress ieDestinationIpv4Address) := by
  rw [scan_read destinationAddr [ieDestinationIpv4Address, ieDestinationIpv6Address]
    (readAddress ieDestinationIpv4Address)]
  · cases lastField [ieDestinationIpv4Address, ieDestinationIpv6Address] record.fields <;> rfl
  · intro s f hf
    simp only [List.mem_cons, List.not_mem_nil, or_false] at hf
    unfold take readAddress
    rcases hf with hid | hid <;> rw [hid] <;> rfl
  · intro s f hf
    unfold take
    split <;> first | rfl | (rename_i hid; exact absurd (by rw [hid]; decide) hf)

theorem scan_rawBytes : (scan record).rawBytes = rawCount ieOctetDeltaCount record := by
  rw [scan_read rawBytes [ieOctetDeltaCount] (fun f => f.asU64Be.getD 0)]
  · unfold rawCount
    cases lastField [ieOctetDeltaCount] record.fields <;> rfl
  · intro s f hf
    unfold take
    rw [List.mem_singleton.mp hf]
    rfl
  · intro s f hf
    unfold take
    split <;> first | rfl | (rename_i hid; exact absurd (by rw [hid]; decide) hf)

theorem scan_rawPackets : (scan record).rawPackets = rawCount iePacketDeltaCount record := by
  rw [scan_read rawPackets [iePacketDeltaCount] (fun f => f.asU64Be.getD 0)]
  · unfold rawCount
    cases lastField [iePacketDeltaCount] record.fields <;> rfl
  · intro s f hf
    unfold take
    rw [List.mem_singleton.mp hf]
    rfl
  · intro s f hf
    unfold take
    split <;> first | rfl | (rename_i hid; exact absurd (by rw [hid]; decide) hf)

theorem scan_recordLevelSampling :
    (scan record).recordLevelSampling = (recordInterval record).map (· % 2 ^ 32) := by
  rw [scan_read recordLevelSampling [ieSamplingInterval] (narrowed 32)]
  · unfold recordInterval narrowed
    cases lastField [ieSamplingInterval] record.fields <;> rfl
  · intro s f hf
    unfold take
    rw [List.mem_singleton.mp hf]
    rfl
  · intro s f hf
    unfold take
    split <;> first | rfl | (rename_i hid; exact absurd (by rw [hid]; decide) hf)

end Scan

theorem observe_interval (s : SamplingInfo) (field : DecodedField) :
    (s.observe field).samplingInterval =
      ((if field.informationElementId = ieSamplingInterval then field.asU64Be else none).map
        fun v => some (v % 2 ^ 32)).getD s.samplingInterval := by
  unfold SamplingInfo.observe
  cases field.asU64Be with
  | none =>
    dsimp only
    split <;> rfl
  | some v =>
    dsimp only
    split
    · rfl
    · split <;> rfl

theorem options_samplingInterval (observed : List DataRecord) :
    (observed.foldl TemplateCache.observeOptionsData .new).sampling.samplingInterval =
      (optionsInterval observed).map (· % 2 ^ 32) := by
  have hfields (c : TemplateCache) :
      (observed.foldl TemplateCache.observeOptionsData c).sampling =
        (observed.flatMap (·.fields)).foldl SamplingInfo.observe c.sampling := by
    induction observed generalizing c with
    | nil => rfl
    | cons record observed ih =>
      rw [List.foldl_cons, ih, List.flatMap_cons, List.foldl_append]
      rfl
  rw [hfields, read_foldl SamplingInfo.samplingInterval observe_interval, lastWrite_map]
  unfold optionsInterval
  cases lastWrite _ _ <;> rfl

/-- A declared rate that is passed over: it is zero, or does not fit 32 bits. -/
def PassedOver (declared : Option Nat) : Prop := ∀ v, declared = some v → v = 0 ∨ 2 ^ 32 ≤ v

/-- The rate is the one its source declares, and the tiers above the source are passed over. -/
def RateDeclared (byRecord byOptions : Option Nat) (external : ExternalSamplingConfig)
    (source : SamplingSource) (rate : Nat) : Prop :=
  match source with
  | .recordLevel => byRecord = some rate
  | .optionsTemplate => PassedOver byRecord ∧ byOptions = some rate
  | .exporterConfigured =>
    PassedOver byRecord ∧ PassedOver byOptions ∧ external.exporterConfigured = some rate
  | .globalDefault =>
    PassedOver byRecord ∧ PassedOver byOptions ∧ PassedOver external.exporterConfigured ∧
      external.globalDefault = some rate
  | .unsampled =>
    PassedOver byRecord ∧ PassedOver byOptions ∧ PassedOver external.exporterConfigured ∧
      PassedOver external.globalDefault ∧ rate = 1

/-- The low 32 bits of an interval give a rate. -/
def Decides (read : Option Nat) : Prop := ∃ n, 0 < n ∧ read.map (· % 2 ^ 32) = some n

/-- The first interval read that gives a rate gives the one declared there, and what is declared
where none is read is passed over. -/
def RateRead (byRecord byOptions readRecord readOptions : Option Nat) : Prop :=
  (Decides readRecord → byRecord = readRecord.map (· % 2 ^ 32)) ∧
    (¬Decides readRecord → PassedOver byRecord ∧
      (Decides readOptions → byOptions = readOptions.map (· % 2 ^ 32)) ∧
      (¬Decides readOptions → PassedOver byOptions))

section Resolve

variable (skipped : Bool) (source : SamplingSource) (rest : List (SamplingSource × Option Nat))
variable {read : Option Nat}
variable {n : Nat}

theorem resolveTiers_some (pos : 0 < n) :
    resolveTiers skipped ((source, some n) :: rest) =
      ⟨⟨n, pos⟩, source, skipped || n = 0⟩ := by
  have hnew : SamplingRate.new n = some ⟨n, pos⟩ := dif_pos pos
  unfold resolveTiers consider
  dsimp only
  rw [hnew]

theorem resolveTiers_spare (spare : ∀ n, value = some n → n = 0) :
    ∃ skipped', resolveTiers skipped ((source, value) :: rest) = resolveTiers skipped' rest := by
  cases value with
  | none => exact ⟨skipped, rfl⟩
  | some n =>
    obtain rfl := spare n rfl
    exact ⟨skipped || true, rfl⟩

theorem spare_or_positive (value : Option Nat) :
    (∀ n, value = some n → n = 0) ∨ ∃ n, 0 < n ∧ value = some n := by
  cases value with
  | none => simp
  | some n => rcases Nat.eq_zero_or_pos n with h | h <;> simp [h]

theorem not_decides_of_spare (spare : ∀ n, read.map (· % 2 ^ 32) = some n → n = 0) :
    ¬Decides read := by
  rintro ⟨n, pos, hn⟩
  exact pos.ne' (spare n hn)

theorem resolve_declared_iff (byRecord byOptions readRecord readOptions : Option Nat)
    (external : ExternalSamplingConfig) {resolved : ResolvedSampling}
    (h : resolve ⟨readRecord.map (· % 2 ^ 32), readOptions.map (· % 2 ^ 32),
      external.exporterConfigured, external.globalDefault⟩ = resolved) :
    RateDeclared byRecord byOptions external resolved.source resolved.rate.rate ↔
      RateRead byRecord byOptions readRecord readOptions := by
  unfold resolve SamplingInputs.tiers at h
  dsimp only at h
  unfold RateRead
  rcases spare_or_positive (readRecord.map (· % 2 ^ 32)) with spare₁ | ⟨n, pos, hn⟩
  case inr =>
    have hdecides : Decides readRecord := ⟨n, pos, hn⟩
    rw [hn, resolveTiers_some _ _ _ pos] at h
    subst h
    rw [hn]
    simp [hdecides, RateDeclared]
  obtain ⟨skipped₁, hskip⟩ := resolveTiers_spare false .recordLevel
    [(.optionsTemplate, readOptions.map (· % 2 ^ 32)),
      (.exporterConfigured, external.exporterConfigured), (.globalDefault, external.globalDefault)]
    spare₁
  rw [hskip] at h
  have hpassed₁ := not_decides_of_spare spare₁
  rcases spare_or_positive (readOptions.map (· % 2 ^ 32)) with spare₂ | ⟨n, pos, hn⟩
  case inr =>
    have hdecides : Decides readOptions := ⟨n, pos, hn⟩
    rw [hn, resolveTiers_some _ _ _ pos] at h
    subst h
    rw [hn]
    simp [hpassed₁, hdecides, RateDeclared]
  obtain ⟨skipped₂, hskip⟩ := resolveTiers_spare skipped₁ .optionsTemplate
    [(.exporterConfigured, external.exporterConfigured), (.globalDefault, external.globalDefault)]
    spare₂
  rw [hskip] at h
  -- neither interval decides, so the rate comes from the configuration as it stands there
  have hpassed₂ := not_decides_of_spare spare₂
  simp only [hpassed₁, hpassed₂, false_imp_iff, not_false_eq_true, true_imp_iff, true_and]
  rcases spare_or_positive external.exporterConfigured with spare₃ | ⟨n, pos, hn⟩
  case inr =>
    rw [hn, resolveTiers_some _ _ _ pos] at h
    subst h
    simp [RateDeclared, hn]
  obtain ⟨skipped₃, hskip⟩ := resolveTiers_spare skipped₂ .exporterConfigured
    [(.globalDefault, external.globalDefault)] spare₃
  rw [hskip] at h
  have passed₃ : PassedOver external.exporterConfigured := fun v hv => Or.inl (spare₃ v hv)
  rcases spare_or_positive external.globalDefault with spare₄ | ⟨n, pos, hn⟩
  case inr =>
    rw [hn, resolveTiers_some _ _ _ pos] at h
    subst h
    simp [RateDeclared, hn, passed₃]
  obtain ⟨skipped₄, hskip⟩ := resolveTiers_spare skipped₃ .globalDefault [] spare₄
  rw [hskip] at h
  subst h
  have passed₄ : PassedOver external.globalDefault := fun v hv => Or.inl (spare₄ v hv)
  exact ⟨fun h => ⟨h.1, h.2.1⟩, fun h => ⟨h.1, h.2, passed₃, passed₄, rfl⟩⟩

end Resolve

/-- The family of the last source field and that of the last destination field agree. -/
def SameFamilyElements (record : DataRecord) : Prop :=
  ∀ a b, lastField [ieSourceIpv4Address, ieSourceIpv6Address] record.fields = some a →
    lastField [ieDestinationIpv4Address, ieDestinationIpv6Address] record.fields = some b →
    (a.informationElementId = ieSourceIpv4Address ↔
      b.informationElementId = ieDestinationIpv4Address)

/-- The two ends are of one family, the rate is one declared in IANA's elements, and the counters
are the record's own times that rate. -/
structure Sound (record : DataRecord) (observed : List DataRecord)
    (external : ExternalSamplingConfig) (flow : IpfixFlow) : Prop where
  family : flow.sourceAddr.isIpv4 = flow.destinationAddr.isIpv4
  rate : RateDeclared (recordInterval (iana record)) (optionsInterval (observed.map iana)) external
    flow.samplingSource flow.samplingRate.rate
  bytes : flow.bytes = rawCount ieOctetDeltaCount (iana record) * flow.samplingRate.rate
  packets : flow.packets = rawCount iePacketDeltaCount (iana record) * flow.samplingRate.rate

/-- What is read by the element ids alone is what IANA's elements say. -/
structure AsDeclared (record : DataRecord) (observed : List DataRecord) : Prop where
  family : SameFamilyElements record
  rate : RateRead (recordInterval (iana record)) (optionsInterval (observed.map iana))
    (recordInterval record) (optionsInterval observed)
  bytes : rawCount ieOctetDeltaCount record = rawCount ieOctetDeltaCount (iana record)
  packets : rawCount iePacketDeltaCount record = rawCount iePacketDeltaCount (iana record)

section Flow

variable {record : DataRecord} {exporter : IpAddr} {domain : Nat} {sampling : SamplingInfo}
variable {external : ExternalSamplingConfig}

theorem corrected_ok (h : corrected rate field raw = .ok n) : n = raw * rate.rate := by
  unfold corrected SamplingRate.apply at h
  split at h
  · rename_i m hm
    split at hm
    · cases hm
      cases h
      rfl
    · cases hm
  · cases h

theorem normalize_ok
    (h : normalizeIpfixRecord record exporter domain sampling external = .ok outcome) :
    ∃ resolved, resolve (samplingInputs (scan record) sampling external) = resolved ∧
      (scan record).sourceAddr = some outcome.flow.sourceAddr ∧
      (scan record).destinationAddr = some outcome.flow.destinationAddr ∧
      outcome.flow.samplingRate = resolved.rate ∧ outcome.flow.samplingSource = resolved.source ∧
      outcome.flow.bytes = (scan record).rawBytes * resolved.rate.rate ∧
      outcome.flow.packets = (scan record).rawPackets * resolved.rate.rate := by
  unfold normalizeIpfixRecord normalizeScan at h
  split at h
  · rename_i a b ha hb
    obtain ⟨flow, hflow, h⟩ := bind_eq_ok.mp h
    rw [mapError_eq_ok] at hflow
    cases h
    unfold NormalizedFlowBuilder.build at hflow
    split at hflow
    · cases hflow
    · obtain ⟨bytes, hbytes, hflow⟩ := bind_eq_ok.mp hflow
      obtain ⟨packets, hpackets, hflow⟩ := bind_eq_ok.mp hflow
      cases hflow
      exact ⟨_, rfl, ha, hb, rfl, rfl, corrected_ok hbytes, corrected_ok hpackets⟩
  · cases h

theorem readAddress_isIpv4
    (h : readAddress v4 f = some a) : a.isIpv4 = true ↔ f.informationElementId = v4 := by
  unfold readAddress asIpv4 asIpv6 at h
  split at h
  · rename_i hid
    split at h
    · cases h
      exact iff_of_true rfl hid
    · cases h
  · rename_i hid
    split at h
    · cases h
      exact iff_of_false Bool.false_ne_true hid
    · cases h

end Flow

/-- Of a record that gives a flow, the flow's two ends are of one family, its rate is the one its
source declares and its counters are the raw ones times that rate, exactly when the last source and
the last destination element are of one family, the last fields under the ids of the interval and
the counters say what the last of IANA's elements say, and an interval that decides fits 32 bits. -/
theorem normalized_sound_iff (record : DataRecord) (exporter : IpAddr) (domain : Nat)
    (observed : List DataRecord) (external : ExternalSamplingConfig) (outcome : NormalizeOutcome)
    (h : normalizeIpfixRecord record exporter domain
      (observed.foldl TemplateCache.observeOptionsData .new).sampling external = .ok outcome) :
    Sound record observed external outcome.flow ↔ AsDeclared record observed := by
  obtain ⟨resolved, hresolve, hsource, hdestination, hrate, hfrom, hbytes, hpackets⟩ :=
    normalize_ok h
  unfold samplingInputs at hresolve
  rw [scan_recordLevelSampling, options_samplingInterval] at hresolve
  have hdeclared := resolve_declared_iff (recordInterval (iana record))
    (optionsInterval (observed.map iana)) _ _ external hresolve
  rw [← hrate, ← hfrom] at hdeclared
  rw [← hrate, scan_rawBytes] at hbytes
  rw [← hrate, scan_rawPackets] at hpackets
  rw [scan_sourceAddr] at hsource
  rw [scan_destinationAddr] at hdestination
  obtain ⟨a, ha, hreada⟩ := Option.bind_eq_some_iff.mp hsource
  obtain ⟨b, hb, hreadb⟩ := Option.bind_eq_some_iff.mp hdestination
  have hfamily : outcome.flow.sourceAddr.isIpv4 = outcome.flow.destinationAddr.isIpv4 ↔
      SameFamilyElements record := by
    unfold SameFamilyElements
    rw [Bool.eq_iff_iff, readAddress_isIpv4 hreada, readAddress_isIpv4 hreadb, ha, hb]
    simp
  have hpos := outcome.flow.samplingRate.pos
  constructor
  · intro sound
    refine ⟨hfamily.mp sound.family, hdeclared.mp sound.rate, ?_, ?_⟩
    · exact Nat.eq_of_mul_eq_mul_right hpos (hbytes.symm.trans sound.bytes)
    · exact Nat.eq_of_mul_eq_mul_right hpos (hpackets.symm.trans sound.packets)
  · intro agree
    refine ⟨hfamily.mpr agree.family, hdeclared.mpr agree.rate, ?_, ?_⟩
    · rw [hbytes, agree.bytes]
    · rw [hpackets, agree.packets]

/-- An interval of enterprise 9, and then IANA's own of 2. -/
def sampledRecord : DataRecord where
  templateId := 256
  fields := plainFields ++
    [⟨ieSamplingInterval, some 9, [7]⟩, ⟨ieSamplingInterval, none, [2]⟩]

theorem sampledRecord_asDeclared : AsDeclared sampledRecord [] where
  family := by
    have hsource : lastField [ieSourceIpv4Address, ieSourceIpv6Address] sampledRecord.fields =
        some ⟨ieSourceIpv4Address, none, [10, 0, 0, 1]⟩ := by decide +kernel
    have hdestination : lastField [ieDestinationIpv4Address, ieDestinationIpv6Address]
        sampledRecord.fields = some ⟨ieDestinationIpv4Address, none, [10, 0, 0, 2]⟩ := by
      decide +kernel
    rw [SameFamilyElements, hsource, hdestination]
    simp
  rate := by
    have hdecides : Decides (recordInterval sampledRecord) := ⟨2, by decide, by decide +kernel⟩
    exact ⟨fun _ => by decide +kernel, fun h => absurd hdecides h⟩
  bytes := by decide +kernel
  packets := by decide +kernel

theorem normalized_sound_sampled :
    ∃ outcome, normalizeIpfixRecord sampledRecord (.v4 0) 7
      (([] : List DataRecord).foldl TemplateCache.observeOptionsData .new).sampling {} =
        .ok outcome ∧ Sound sampledRecord [] {} outcome.flow := by
  have hok : (normalizeIpfixRecord sampledRecord (.v4 0) 7
      (([] : List DataRecord).foldl TemplateCache.observeOptionsData .new).sampling {}).toOption.isSome
        = true := by decide +kernel
  cases hflow : normalizeIpfixRecord sampledRecord (.v4 0) 7
      (([] : List DataRecord).foldl TemplateCache.observeOptionsData .new).sampling {} with
  | error e =>
    rw [hflow] at hok
    cases hok
  | ok outcome =>
    exact ⟨outcome, rfl, (normalized_sound_iff sampledRecord (.v4 0) 7 [] {} outcome hflow).mpr
      sampledRecord_asDeclared⟩

/-- An IPv4 source with an IPv6 destination, and an interval of 2^32 + 2. -/
def mixedRecord : DataRecord where
  templateId := 256
  fields := [⟨ieSourceIpv4Address, none, [10, 0, 0, 1]⟩,
    ⟨ieDestinationIpv6Address, none, List.replicate 16 1⟩, ⟨ieOctetDeltaCount, none, [5]⟩,
    ⟨ieSamplingInterval, none, [1, 0, 0, 0, 2]⟩]

theorem mixedRecord_unsound :
    recordInterval mixedRecord = some 4294967298 ∧
    ∃ outcome, normalizeIpfixRecord mixedRecord (.v4 0) 7 {} {} = .ok outcome ∧
      outcome.flow.sourceAddr.isIpv4 = true ∧ outcome.flow.destinationAddr.isIpv4 = false ∧
      outcome.flow.samplingSource = .recordLevel ∧ outcome.flow.samplingRate.rate = 2 ∧
      outcome.flow.bytes = 10 ∧ ¬Sound mixedRecord [] {} outcome.flow := by
  refine ⟨by decide +kernel, ?_⟩
  have hok : (normalizeIpfixRecord mixedRecord (.v4 0) 7 {} {}).toOption.isSome = true := by
    decide +kernel
  have hsays : (normalizeIpfixRecord mixedRecord (.v4 0) 7 {} {}).map (fun o =>
      (o.flow.sourceAddr.isIpv4, o.flow.destinationAddr.isIpv4, o.flow.samplingSource,
        o.flow.samplingRate.rate, o.flow.bytes)) = .ok (true, false, .recordLevel, 2, 10) := by
    decide +kernel
  cases hflow : normalizeIpfixRecord mixedRecord (.v4 0) 7 {} {} with
  | error e =>
    rw [hflow] at hok
    cases hok
  | ok outcome =>
    rw [hflow] at hsays
    simp only [Except.map, Except.ok.injEq, Prod.mk.injEq] at hsays
    obtain ⟨hsource, hdestination, hfrom, hrate, hbytes⟩ := hsays
    refine ⟨outcome, rfl, hsource, hdestination, hfrom, hrate, hbytes, ?_⟩
    intro sound
    have hfamily := sound.family
    rw [hsource, hdestination] at hfamily
    cases hfamily

end Tidegard.Collector.Proofs.Normalized
