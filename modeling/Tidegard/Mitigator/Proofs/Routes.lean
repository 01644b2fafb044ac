import Tidegard.Delimited
import Tidegard.Mitigator.Route

namespace Tidegard.Mitigator.Proofs.Routes

open Common Delimited Mitigation.Prefix Mitigation.Action Route

variable {action' : Action}

/-- What is used of the standard library's addresses: they are read back as they are written, and
written with digits, letters, dots and colons. -/
structure Faithful (text : AddrText) : Prop where
  reads : ∀ a, text.parseAddr (text.showAddr a) = some a
  plain : ∀ a, ∀ c ∈ (text.showAddr a).toList, c.isAlphanum = true ∨ c = '.' ∨ c = ':'

/-- The rule without the length and end-of-list bits that GoBGP adds to the operators. -/
def bareRule : FlowSpecRule → FlowSpecRule
  | .component type items =>
    .component type (items.map fun item => { item with op := item.op &&& opComparison })
  | rule => rule

def bare : Nlri → Nlri
  | .flowSpec rules => .flowSpec (rules.map bareRule)
  | nlri => nlri

/-- Where GoBGP keeps a path: a path announced there replaces it, a withdrawal removes it. -/
def place (path : Path) : Option Family × Option Nlri := (path.family, path.nlri.map bare)

/-- How GoBGP lists what was announced: in its place, and with the communities and the rate. -/
structure Listed (path announced : Path) : Prop where
  place : place path = place announced
  owned : ∀ config, isOwned path config = isOwned announced config
  rate : trafficRate path = trafficRate announced

def routePlace (text : AddrText) (target : Prefix) (action : Action) :
    Option Family × Option Nlri :=
  (some (family target action.kind), some (nlri text target action))

variable {text : AddrText} {action : Action}

theorem bare_nlri : bare (nlri text target action) = nlri text target action := by
  unfold nlri
  cases action.flow with
  | none => rfl
  | some flow =>
    obtain ⟨protocol, source, sourcePort, destinationPort⟩ := flow
    cases protocol <;> cases source <;> cases sourcePort <;> cases destinationPort <;>
      simp [bare, flowspecRules, ipRule, equalRule, bareRule, opEqual, opComparison]

theorem place_announcement :
    place (announcement text target action config) = routePlace text target action := by
  simp [place, announcement, routePlace, bare_nlri]

theorem place_withdrawal :
    place (withdrawal text target action) = routePlace text target action := by
  simp [place, withdrawal, routePlace, bare_nlri]

section Listing

variable {path announced : Path}

/-- Only the comparison of an operator is read. -/
theorem readRules_bare (sofar : FlowRead) (rules : List FlowSpecRule) :
    readRules text sofar (rules.map bareRule) = readRules text sofar rules := by
  have hrule : ∀ sofar rule, readRule text sofar (bareRule rule) = readRule text sofar rule := by
    intro sofar rule
    rcases rule with _ | ⟨type, _ | ⟨item, _ | _⟩⟩ <;>
      simp [bareRule, readRule]
  induction rules generalizing sofar with
  | nil => rfl
  | cons rule rules ih => simp only [List.map_cons, readRules, hrule, ih]

theorem readNlri_bare (nlri : Nlri) : readNlri text path (bare nlri) = readNlri text path nlri := by
  cases nlri with
  | unicast => rfl
  | flowSpec rules => simp only [bare, readNlri, readRules_bare]

theorem readBack_listed (listed : Listed path announced)
    (h : readBack text announced = .ok route) : readBack text path = .ok { route with path } := by
  have hrate : ∀ nlri, readNlri text path nlri = readNlri text announced nlri := by
    intro nlri
    cases nlri with
    | unicast => rfl
    | flowSpec rules => simp only [readNlri, listed.rate]
  have hplace : path.nlri.map bare = announced.nlri.map bare := congrArg Prod.snd listed.place
  unfold readBack at h ⊢
  rcases hann : announced.nlri with _ | nlri
  · simp [hann] at h
  obtain ⟨nlri', hpath, hbare⟩ := Option.map_eq_some_iff.mp (hplace.trans (congrArg _ hann))
  have hread : readNlri text path nlri' = readNlri text announced nlri := by
    rw [hrate, ← readNlri_bare, hbare, readNlri_bare]
  simp only [hann, hpath, hread] at h ⊢
  split at h
  · cases h
  · cases h
    rfl

end Listing

section Reads

variable (reads : ∀ a, text.parseAddr (text.showAddr a) = some a)

include reads in
theorem prefixOf_showAddr (p : Prefix) :
    prefixOf text (text.showAddr p.address) p.length = some p := by
  have hlength : p.length < 256 := by
    have hrange := p.inRange
    have hmax : maxLength p.address ≤ 128 := by cases p.address <;> simp [maxLength]
    omega
  simp only [prefixOf, reads, Option.bind_eq_bind, Option.bind_some, if_pos hlength]
  unfold Prefix.new
  rw [dif_pos p.inRange, dif_pos p.noHostBits]
  rfl

include reads in
theorem readRule_destination (sofar : FlowRead) (p : Prefix) :
    readRule text sofar (ipRule text flowspecDestination p) =
      .ok { sofar with destination := some p } := by
  simp [readRule, ipRule, prefixOf_showAddr reads]

include reads in
theorem readRule_source (sofar : FlowRead) (p : Prefix) :
    readRule text sofar (ipRule text flowspecSource p) =
      .ok { sofar with flow := { sofar.flow with source := some p } } := by
  simp [readRule, ipRule, prefixOf_showAddr reads, flowspecSource, flowspecDestination]

theorem readRule_protocol (sofar : FlowRead) (v : BitVec 8) :
    readRule text sofar (equalRule flowspecProtocol v.toNat) =
      .ok { sofar with flow := { sofar.flow with protocol := some v } } := by
  have hv : v.toNat ≤ 255 := by have := v.isLt; omega
  simp [readRule, equalRule, opEqual, opComparison, readComponent, hv]

theorem readRule_destinationPort (sofar : FlowRead) (v : BitVec 16) :
    readRule text sofar (equalRule flowspecDestinationPort v.toNat) =
      .ok { sofar with flow := { sofar.flow with destinationPort := some v } } := by
  have hv : v.toNat ≤ 65535 := by have := v.isLt; omega
  simp [readRule, equalRule, opEqual, opComparison, readComponent, hv, flowspecProtocol,
    flowspecDestinationPort]

theorem readRule_sourcePort (sofar : FlowRead) (v : BitVec 16) :
    readRule text sofar (equalRule flowspecSourcePort v.toNat) =
      .ok { sofar with flow := { sofar.flow with sourcePort := some v } } := by
  have hv : v.toNat ≤ 65535 := by have := v.isLt; omega
  simp [readRule, equalRule, opEqual, opComparison, readComponent, hv, flowspecProtocol,
    flowspecDestinationPort, flowspecSourcePort]

include reads in
theorem readRules_flowspecRules (flow : FlowMatch) :
    readRules text {} (flowspecRules text target flow) = .ok ⟨some target, flow⟩ := by
  obtain ⟨protocol, source, sourcePort, destinationPort⟩ := flow
  cases protocol <;> cases source <;> cases sourcePort <;> cases destinationPort <;>
    simp [flowspecRules, readRules, readRule_destination reads, readRule_source reads,
      readRule_protocol, readRule_destinationPort, readRule_sourcePort]

theorem asF32_zero : asF32 0 = 0 := by decide

theorem asF32_pos (hn : 0 < n) : 0 < asF32 n := by
  have hunit : 2 ^ (Nat.log2 n - 23) ≤ n :=
    (Nat.pow_le_pow_right (by omega) (Nat.sub_le _ _)).trans (Nat.log2_self_le (by omega))
  have hpow : 0 < 2 ^ (Nat.log2 n - 23) := Nat.two_pow_pos _
  have hquotient : 0 < n / 2 ^ (Nat.log2 n - 23) := Nat.div_pos hunit hpow
  unfold asF32
  dsimp only
  split
  · exact Nat.mul_pos (by omega) hpow
  · exact Nat.mul_pos hquotient hpow

include reads in
/-- A path that Tidegard announces is read back as the mitigation it is for, up to what the
32-bit rate loses. -/
theorem readBack_announcement (config : RouteConfig) (valid : action.validateFor target = .ok ()) :
    ∃ action', readBack text (announcement text target action config) =
        .ok ⟨target, action', action.duplicateKey text.showAddr target,
          announcement text target action config⟩ ∧
      action'.kind = action.kind ∧ action'.flow = action.flow := by
  cases action with
  | rtbh =>
    have hhost : target.isHost = true := by
      by_contra h
      simp [Action.validateFor, h] at valid
    refine ⟨.rtbh, ?_, rfl, rfl⟩
    simp [readBack, announcement, nlri, Action.flow, readNlri, prefixOf_showAddr reads, hhost]
  | parentPrefix =>
    have hhost : ¬ target.isHost = true := by
      intro h
      simp [Action.validateFor, h] at valid
    refine ⟨.parentPrefix, ?_, rfl, rfl⟩
    simp [readBack, announcement, nlri, Action.flow, readNlri, prefixOf_showAddr reads, hhost]
  | flowspecDiscard flow =>
    refine ⟨.flowspecDiscard flow, ?_, rfl, rfl⟩
    simp [readBack, announcement, nlri, Action.flow, readNlri, readRules_flowspecRules reads,
      trafficRate, reachAttributes, bytesPerSecond, asF32_zero, readAction]
  | flowspecRateLimit flow rate =>
    have hrate : 0 < rate := by
      by_contra h
      have hzero : rate = 0 := by omega
      simp [Action.validateFor, hzero] at valid
    have hpos : ¬ ((asF32 rate : Rat) ≤ 0) := by
      have := asF32_pos hrate
      exact not_le.mpr (by exact_mod_cast this)
    refine ⟨.flowspecRateLimit flow (roundRate (asF32 rate)), ?_, rfl, rfl⟩
    simp [readBack, announcement, nlri, Action.flow, readNlri, readRules_flowspecRules reads,
      trafficRate, reachAttributes, bytesPerSecond, readAction, hpos, Action.duplicateKey,
      Action.kind]

include reads in
theorem routePlace_inj (h : routePlace text target action = routePlace text target' action') :
    target = target' ∧ action.flow = action'.flow := by
  have hnlri := Option.some.inj (congrArg Prod.snd h)
  unfold nlri at hnlri
  cases hflow : action.flow with
  | none =>
    cases hflow' : action'.flow with
    | none =>
      rw [hflow, hflow'] at hnlri
      obtain ⟨hlength, haddress⟩ := Nlri.unicast.inj hnlri
      have hread := prefixOf_showAddr reads target
      rw [hlength, haddress, prefixOf_showAddr reads target'] at hread
      exact ⟨(Option.some.inj hread).symm, rfl⟩
    | some flow' =>
      rw [hflow, hflow'] at hnlri
      cases hnlri
  | some flow =>
    cases hflow' : action'.flow with
    | none =>
      rw [hflow, hflow'] at hnlri
      cases hnlri
    | some flow' =>
      rw [hflow, hflow'] at hnlri
      have hread : readRules text {} (flowspecRules text target flow) = _ :=
        readRules_flowspecRules reads flow
      rw [Nlri.flowSpec.inj hnlri, readRules_flowspecRules reads flow'] at hread
      cases hread
      exact ⟨rfl, rfl⟩

end Reads

theorem isOwned_announcement (asn : config.localAsn = config'.localAsn) :
    isOwned (announcement text target action config) config' = true := by
  simp [isOwned, announcement, RouteConfig.large, RouteConfig.ownership, asn]

theorem isFlowspec_kind (action : Action) : isFlowspec action.kind = action.flow.isSome := by
  cases action <;> rfl

theorem routePlace_congr (hflow : action'.flow = action.flow) :
    routePlace text target action' = routePlace text target action := by
  unfold routePlace family nlri
  rw [isFlowspec_kind, isFlowspec_kind, hflow]

theorem showAddr_injective (faithful : Faithful text) : Function.Injective text.showAddr := by
  intro a b h
  have hread := faithful.reads a
  rw [h, faithful.reads b] at hread
  exact (Option.some.inj hread).symm

theorem not_mem_showAddr (faithful : Faithful text) (a : IpAddr) (hc : c.isAlphanum = false)
    (hdot : c ≠ '.') (hcolon : c ≠ ':') : c ∉ (text.showAddr a).toList := by
  intro hmem
  rcases faithful.plain a c hmem with h | h | h
  · rw [hc] at h
    cases h
  · exact hdot h
  · exact hcolon h

theorem not_mem_repr (n : Nat) (hc : c.isDigit = false) : c ∉ n.repr.toList := by
  intro hmem
  rw [Nat.toList_repr] at hmem
  have hdigit := Nat.isDigit_of_mem_toDigits (by decide) (by decide) hmem
  rw [hc] at hdigit
  cases hdigit

theorem toText_toList (p : Prefix) : (p.toText text.showAddr).toList =
    (text.showAddr p.address).toList ++ '/' :: p.length.repr.toList := by
  simp [Prefix.toText, ToString.toString]

theorem not_mem_toText (faithful : Faithful text) (p : Prefix) (hc : c.isAlphanum = false)
    (hdot : c ≠ '.') (hcolon : c ≠ ':') (hslash : c ≠ '/') :
    c ∉ (p.toText text.showAddr).toList := by
  have hdigit : c.isDigit = false := by
    rw [Char.isAlphanum, Bool.or_eq_false_iff] at hc
    exact hc.2
  rw [toText_toList, List.mem_append, List.mem_cons]
  rintro (h | h | h)
  · exact not_mem_showAddr faithful _ hc hdot hcolon h
  · exact hslash h
  · exact not_mem_repr _ hdigit h

theorem toText_injective (faithful : Faithful text) :
    Function.Injective (Prefix.toText text.showAddr) := by
  intro p q h
  have hlist := congrArg String.toList h
  rw [toText_toList, toText_toList] at hlist
  have hslash : ∀ a, '/' ∉ (text.showAddr a).toList := fun a =>
    not_mem_showAddr faithful a (by decide) (by decide) (by decide)
  obtain ⟨haddr, hlength⟩ := split_at_first (hslash _) (hslash _) hlist
  have haddr := showAddr_injective faithful (String.toList_injective haddr)
  have hlength := Nat.repr_inj.mp (String.toList_injective hlength)
  cases p
  cases q
  cases haddr
  cases hlength
  rfl

def numberText {w : Nat} (v : BitVec w) : List Char := v.toNat.repr.toList

theorem numberText_injective : Function.Injective (numberText : BitVec w → List Char) := by
  intro v v' h
  exact BitVec.toNat_inj.mp (Nat.repr_inj.mp (String.toList_injective h))

def prefixText (text : AddrText) (p : Prefix) : List Char := (p.toText text.showAddr).toList

theorem canonical_toList (flow : FlowMatch) : (flow.canonical text.showAddr).toList =
    field "proto=".toList ';' (flow.protocol.map numberText) ++
      (field "src=".toList ';' (flow.source.map (prefixText text)) ++
        (field "sport=".toList ';' (flow.sourcePort.map numberText) ++
          (field "dport=".toList ';' (flow.destinationPort.map numberText) ++ []))) := by
  obtain ⟨protocol, source, sourcePort, destinationPort⟩ := flow
  cases protocol <;> cases source <;> cases sourcePort <;> cases destinationPort <;>
    simp [FlowMatch.canonical, field, numberText, prefixText, ToString.toString]

theorem stop_not_mem_number (v : Option (BitVec w)) : ∀ x ∈ v.map numberText, ';' ∉ x := by
  intro x hx
  obtain ⟨n, -, rfl⟩ := Option.mem_map.mp hx
  exact not_mem_repr _ (by decide)

theorem stop_not_mem_prefixText (faithful : Faithful text) (v : Option Prefix) :
    ∀ x ∈ v.map (prefixText text), ';' ∉ x := by
  intro x hx
  obtain ⟨p, -, rfl⟩ := Option.mem_map.mp hx
  exact not_mem_toText faithful p (by decide) (by decide) (by decide) (by decide)

theorem not_proto (a b c : Option (List Char)) : ¬ "proto=".toList <+:
    field "src=".toList ';' a ++ (field "sport=".toList ';' b ++
      (field "dport=".toList ';' c ++ [])) := by
  cases a <;> cases b <;> cases c <;> simp [field]

theorem not_src (a b : Option (List Char)) : ¬ "src=".toList <+:
    field "sport=".toList ';' a ++ (field "dport=".toList ';' b ++ []) := by
  cases a <;> cases b <;> simp [field]

theorem not_sport (a : Option (List Char)) : ¬ "sport=".toList <+:
    field "dport=".toList ';' a ++ [] := by
  cases a <;> simp [field]

/-- The fields stand in one order and each starts with its name, so none is taken for another. -/
theorem canonical_injective (faithful : Faithful text) :
    Function.Injective (FlowMatch.canonical text.showAddr) := by
  intro flow flow' h
  have hlist := congrArg String.toList h
  rw [canonical_toList, canonical_toList] at hlist
  have number := fun {w : Nat} (v v' : Option (BitVec w)) (h : v.map numberText = v'.map numberText) =>
    Option.map_injective numberText_injective h
  obtain ⟨hprotocol, hlist⟩ := field_append_inj (stop_not_mem_number _) (stop_not_mem_number _)
    (not_proto _ _ _) (not_proto _ _ _) hlist
  obtain ⟨hsource, hlist⟩ := field_append_inj (stop_not_mem_prefixText faithful _)
    (stop_not_mem_prefixText faithful _) (not_src _ _) (not_src _ _) hlist
  obtain ⟨hsport, hlist⟩ := field_append_inj (stop_not_mem_number _) (stop_not_mem_number _)
    (not_sport _) (not_sport _) hlist
  obtain ⟨hdport, -⟩ := field_append_inj (stop_not_mem_number _) (stop_not_mem_number _)
    (by simp) (by simp) hlist
  have hsource := Option.map_injective
    (fun p q h => toText_injective faithful (String.toList_injective h)) hsource
  cases flow
  cases flow'
  cases number _ _ hprotocol
  cases hsource
  cases number _ _ hsport
  cases number _ _ hdport
  rfl

def flowText (text : AddrText) (action : Action) : List Char :=
  (match action.flow with
    | some flow => flow.canonical text.showAddr
    | none => "").toList

theorem duplicateKey_toList (action : Action) (target : Prefix) :
    (action.duplicateKey text.showAddr target).toList =
      action.kind.asStr.toList ++ '|' :: (prefixText text target ++ '|' :: flowText text action) := by
  simp only [Action.duplicateKey, prefixText, flowText, String.toList_append, List.append_assoc]
  rfl

theorem duplicateKey_inj (faithful : Faithful text)
    (h : action.duplicateKey text.showAddr target = action'.duplicateKey text.showAddr target') :
    action.kind = action'.kind ∧ target = target' ∧ action.flow = action'.flow := by
  have hlist := congrArg String.toList h
  rw [duplicateKey_toList, duplicateKey_toList] at hlist
  have hkind : ∀ kind : ActionKind, '|' ∉ kind.asStr.toList := by
    intro kind
    cases kind <;> simp [ActionKind.asStr]
  have hplain : ∀ p, '|' ∉ prefixText text p := fun p =>
    not_mem_toText faithful p (by decide) (by decide) (by decide) (by decide)
  obtain ⟨hk, hlist⟩ := split_at_first (hkind _) (hkind _) hlist
  obtain ⟨hp, hf⟩ := split_at_first (hplain _) (hplain _) hlist
  have hk : action.kind = action'.kind := by
    have hasStr := String.toList_injective hk
    generalize action.kind = k at hasStr
    generalize action'.kind = k' at hasStr
    cases k <;> cases k' <;> first | rfl | simp [ActionKind.asStr] at hasStr
  refine ⟨hk, toText_injective faithful (String.toList_injective hp), ?_⟩
  have hf := String.toList_injective hf
  cases action <;> cases action' <;> simp only [Action.kind, reduceCtorEq] at hk <;>
    first
    | rfl
    | exact congrArg some (canonical_injective faithful hf)

end Tidegard.Mitigator.Proofs.Routes
