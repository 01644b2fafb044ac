import Tidegard.Addresses
import Tidegard.Classifier.Proofs.Trie

namespace Tidegard.Classifier.Proofs.LongestMatch

open List Common Addresses Runs Registry Trie

variable {accepted : List Insertion} {r : PrefixRegistry}
variable {w : Nat} {i : Insertion}

def Contains (a b : Insertion) : Prop :=
  a.prefixLen ≤ b.prefixLen ∧ Agree a.prefixLen a.network b.network

instance (a b : Insertion) : Decidable (Contains a b) := inferInstanceAs (Decidable (_ ∧ _))

def Covers (a : Insertion) (addr : IpAddr) : Prop := Agree a.prefixLen a.network addr

def SamePrefix (a b : Insertion) : Prop :=
  a.prefixLen = b.prefixLen ∧ Agree b.prefixLen a.network b.network

instance (a b : Insertion) : Decidable (SamePrefix a b) := inferInstanceAs (Decidable (_ ∧ _))

/-- Too long for its family, or accepted before. -/
def Refused (accepted : List Insertion) (i : Insertion) : Prop :=
  width i.network < i.prefixLen ∨ ∃ a ∈ accepted, SamePrefix a i

instance (accepted : List Insertion) (i : Insertion) : Decidable (Refused accepted i) :=
  inferInstanceAs (Decidable (_ ∨ _))

def accept (accepted : List Insertion) (i : Insertion) : List Insertion :=
  if Refused accepted i then accepted else accepted ++ [i]

/-- The insertions of a sequence that are accepted, by comparing each with those before it. -/
def acceptedOf (calls : List Insertion) : List Insertion := calls.foldl accept []

/-- The answer of a scan through the accepted prefixes for the longest that covers the address. -/
def IsLongestMatch (accepted : List Insertion) (addr : IpAddr) (m : PrefixMatch) : Prop :=
  ∃ a ∈ accepted, Covers a addr ∧ m = ⟨a.entry, a.prefixLen⟩ ∧
    ∀ b ∈ accepted, Covers b addr → b.prefixLen ≤ a.prefixLen

/-- The path of an address, cut to a length. -/
def addrPath (addr : IpAddr) (len : Nat) : List Bool :=
  leadingPath (addrBits addr) len (width addr)

theorem map_range_leads_iff :
    (List.range k).map f <+: (List.range m).map g ↔ k ≤ m ∧ ∀ i < k, f i = g i := by
  rw [List.prefix_iff_getElem?]
  constructor
  · intro h
    have hlt : ∀ i < k, i < m ∧ f i = g i := by
      intro i hi
      have := h i (by simpa using hi)
      simp only [getElem_map, getElem_range, List.getElem?_map] at this
      rcases Nat.lt_or_ge i m with him | him
      · rw [List.getElem?_range him] at this
        exact ⟨him, by simpa using this.symm⟩
      · rw [List.getElem?_eq_none (by simpa using him)] at this
        cases this
    refine ⟨?_, fun i hi => (hlt i hi).2⟩
    rcases Nat.eq_zero_or_pos k with rfl | hk
    · exact Nat.zero_le _
    · have := (hlt (k - 1) (by omega)).1
      omega
  · rintro ⟨hkm, heq⟩ i hi
    have hik : i < k := by simpa using hi
    simp [List.getElem?_range (hik.trans_le hkm), heq i hik]

theorem bitAt_eq (x : BitVec w) {i : Nat} (hi : i < w) : bitAt x.toNat i w = x.getMsbD i := by
  rw [BitVec.getMsbD_eq_getLsbD, bitAt]
  simp [hi, BitVec.getLsbD]

theorem leadingPath_eq (x : BitVec w) {len : Nat} (h : len ≤ w) :
    leadingPath x.toNat len w = (List.range len).map x.getMsbD := by
  unfold leadingPath
  refine map_congr_left fun i hi => bitAt_eq x ?_
  exact (List.mem_range.mp hi).trans_le h

theorem addrPath_length (addr : IpAddr) (len : Nat) : (addrPath addr len).length = len := by
  simp [addrPath, leadingPath]

/-- Of two paths in one family, one leads through the end of the other exactly when it is no
shorter and has the same bits that far. -/
theorem addrPath_leads_iff (hfamily : a.isIpv4 = b.isIpv4) (hk : k ≤ width a)
    (hm : m ≤ width b) : addrPath a k <+: addrPath b m ↔ k ≤ m ∧ Agree k a b := by
  cases a <;> cases b <;> first
    | (simp only [addrPath, addrBits, width] at hk hm ⊢
       rw [leadingPath_eq _ hk, leadingPath_eq _ hm, map_range_leads_iff]
       exact Iff.rfl)
    | cases hfamily

theorem width_of_family (h : a.isIpv4 = b.isIpv4) : width a = width b := by
  cases a <;> cases b <;> first | rfl | cases h

theorem path_eq_iff (hfamily : a.network.isIpv4 = i.network.isIpv4)
    (ha : a.prefixLen ≤ width a.network) (hi : i.prefixLen ≤ width i.network) :
    a.path = i.path ↔ SamePrefix a i := by
  have hleads := addrPath_leads_iff hfamily ha hi
  have hlena := addrPath_length a.network a.prefixLen
  have hleni := addrPath_length i.network i.prefixLen
  change addrPath a.network a.prefixLen = addrPath i.network i.prefixLen ↔ _
  constructor
  · intro h
    have hlen : a.prefixLen = i.prefixLen := by rw [← hlena, ← hleni, h]
    have hagree := (hleads.mp (h ▸ prefix_rfl)).2
    exact ⟨hlen, hlen ▸ hagree⟩
  · rintro ⟨hlen, hagree⟩
    refine (hleads.mpr ⟨hlen.le, hlen ▸ hagree⟩).eq_of_length ?_
    rw [hlena, hleni, hlen]

theorem related_iff (hfamily : a.network.isIpv4 = i.network.isIpv4)
    (ha : a.prefixLen ≤ width a.network) (hi : i.prefixLen ≤ width i.network) :
    related i.path a.path = true ↔ Contains a i ∨ Contains i a := by
  unfold related
  rw [Bool.or_eq_true, isPrefixOf_iff_prefix, isPrefixOf_iff_prefix]
  exact or_congr (addrPath_leads_iff hfamily ha hi) (addrPath_leads_iff hfamily.symm hi ha)

def ofFamily (addr : IpAddr) (accepted : List Insertion) : List Insertion :=
  accepted.filter fun a => a.network.isIpv4 == addr.isIpv4

structure Represents (r : PrefixRegistry) (accepted : List Insertion) : Prop where
  widths : ∀ addr, (r.trie addr).maxBits = width addr
  held : ∀ addr, (entries (r.trie addr).root).Perm
    ((ofFamily addr accepted).map fun a => (a.path, a.entry))
  valid : ∀ a ∈ accepted, a.prefixLen ≤ width a.network
  counted : r.len = accepted.length

theorem mem_ofFamily :
    a ∈ ofFamily addr accepted ↔ a ∈ accepted ∧ a.network.isIpv4 = addr.isIpv4 := by
  simp [ofFamily]

theorem Represents.new : Represents .new [] where
  widths addr := by cases addr <;> rfl
  held addr := by cases addr <;> exact List.Perm.refl _
  valid a ha := by cases ha
  counted := rfl

section Step

variable {r : PrefixRegistry} {accepted : List Insertion} {i : Insertion}

section

variable (h : Represents r accepted)

include h

theorem Represents.get_iff (addr : IpAddr) :
    get (r.trie addr).root path = some e ↔
      ∃ a ∈ accepted, a.network.isIpv4 = addr.isIpv4 ∧ a.path = path ∧ a.entry = e := by
  rw [← mem_entries, (h.held addr).mem_iff, mem_map]
  simp only [mem_ofFamily, Prod.mk.injEq, and_assoc]

theorem Represents.taken_iff (hi : i.prefixLen ≤ width i.network) :
    (∃ e, get (r.trie i.network).root i.path = some e) ↔ ∃ a ∈ accepted, SamePrefix a i := by
  simp only [h.get_iff]
  constructor
  · rintro ⟨e, a, ha, hfamily, hpath, -⟩
    exact ⟨a, ha, (path_eq_iff hfamily (h.valid a ha) hi).mp hpath⟩
  · rintro ⟨a, ha, hsame⟩
    have hfamily := hsame.2.family
    exact ⟨a.entry, a, ha, hfamily, (path_eq_iff hfamily (h.valid a ha) hi).mpr hsame, rfl⟩

theorem insert_tooLong (hi : width i.network < i.prefixLen) :
    r.insert i.network i.prefixLen i.tenant i.hostgroup =
      .error (.prefixTooLong i.prefixLen (width i.network)) := by
  have hw := h.widths i.network
  rw [← hw] at hi ⊢
  cases hn : i.network <;> rw [hn] at hi <;>
    simp only [PrefixRegistry.insert, PrefixRegistry.trie, PrefixTrie.insert] at hi ⊢ <;>
    rw [if_pos hi] <;> rfl

theorem insert_fits (hi : i.prefixLen ≤ width i.network) :
    r.insert i.network i.prefixLen i.tenant i.hostgroup = do
      let (overlaps, root) ← Node.insert i.entry i.path 0 (r.trie i.network).root
      return (overlaps, { r.withRoot i.network root with len := r.len + 1 }) := by
  have hw := h.widths i.network
  have hfits : ¬(r.trie i.network).maxBits < i.prefixLen := by omega
  unfold Insertion.path
  rw [← hw]
  cases hn : i.network with
  | v4 bits =>
    rw [hn] at hfits
    simp only [PrefixRegistry.insert, PrefixRegistry.trie, PrefixTrie.insert, Insertion.entry,
      addrBits] at hfits ⊢
    rw [if_neg hfits]
    generalize Node.insert _ _ 0 r.ipv4.root = inserted
    cases inserted <;> rfl
  | v6 bits =>
    rw [hn] at hfits
    simp only [PrefixRegistry.insert, PrefixRegistry.trie, PrefixTrie.insert, Insertion.entry,
      addrBits] at hfits ⊢
    rw [if_neg hfits]
    generalize Node.insert _ _ 0 r.ipv6.root = inserted
    cases inserted <;> rfl

end

theorem withRoot_self (r : PrefixRegistry) (addr : IpAddr) :
    r.withRoot addr (r.trie addr).root = r := by
  cases addr <;> rfl

theorem perform_refused (display : IpAddr → String) (h : Represents r accepted)
    (hrefused : Refused accepted i) :
    (r.perform display i).2 = r ∧
      (r.perform display i).1 = .error
        (if width i.network < i.prefixLen then .prefixTooLong i.prefixLen (width i.network)
        else .duplicatePrefix) := by
  unfold PrefixRegistry.perform
  by_cases hlong : width i.network < i.prefixLen
  · rw [insert_tooLong h hlong, if_pos hlong]
    exact ⟨rfl, rfl⟩
  · have hi := Nat.le_of_not_lt hlong
    obtain ⟨e, he⟩ := (h.taken_iff hi).mpr (hrefused.resolve_left hlong)
    obtain ⟨herror, hwalked⟩ := insert_taken i.entry he 0
    rw [insert_fits h hi, herror, if_neg hlong]
    refine ⟨?_, rfl⟩
    change r.withRoot i.network ((r.trie i.network).root.walked i.path) = r
    rw [hwalked, withRoot_self]

/-- How an accepted insertion reports a prefix that contains it or lies inside it. -/
def reported (display : IpAddr → String) (i a : Insertion) : OverlapDiagnostic :=
  diagnostic display i ⟨decide (a.prefixLen < i.prefixLen), a.prefixLen⟩

theorem overlaps_perm (h : Represents r accepted) (hi : i.prefixLen ≤ width i.network) :
    (overlaps i.path 0 (r.trie i.network).root).Perm
      ((accepted.filter fun a => Contains a i ∨ Contains i a).map fun a =>
        (⟨decide (a.prefixLen < i.prefixLen), a.prefixLen⟩ : OverlapKind)) := by
  refine (((h.held i.network).filter _).map _).trans ?_
  rw [filter_map, map_map]
  unfold ofFamily
  rw [filter_filter]
  have hfilter : accepted.filter (fun a =>
      ((fun e : List Bool × PrefixEntry => related i.path e.1) ∘
        fun a => (a.path, a.entry)) a && a.network.isIpv4 == i.network.isIpv4) =
      accepted.filter fun a => Contains a i ∨ Contains i a := by
    refine filter_congr fun a ha => ?_
    rw [Bool.eq_iff_iff, Bool.and_eq_true, beq_iff_eq, decide_eq_true_iff]
    constructor
    · rintro ⟨hrelated, hfamily⟩
      exact (related_iff hfamily (h.valid a ha) hi).mp hrelated
    · intro hrelated
      have hfamily : a.network.isIpv4 = i.network.isIpv4 := by
        rcases hrelated with hc | hc
        · exact hc.2.family
        · exact hc.2.family.symm
      exact ⟨(related_iff hfamily (h.valid a ha) hi).mpr hrelated, hfamily⟩
  rw [hfilter]
  refine List.Perm.of_eq (map_congr_left fun a _ => ?_)
  have hlen (j : Insertion) : j.path.length = j.prefixLen := addrPath_length _ _
  simp only [Function.comp_apply, overlap, hlen, Nat.zero_add]

theorem trie_withRoot (r : PrefixRegistry) (network addr : IpAddr) (root : Node PrefixEntry) :
    (r.withRoot network root).trie addr =
      if network.isIpv4 = addr.isIpv4 then { r.trie network with root := root }
      else r.trie addr := by
  cases network <;> cases addr <;> rfl

theorem trie_of_family (r : PrefixRegistry) (h : a.isIpv4 = b.isIpv4) : r.trie a = r.trie b := by
  cases a <;> cases b <;> first | rfl | cases h

theorem Represents.added (h : Represents r accepted) (hi : i.prefixLen ≤ width i.network)
    (hroot : (entries root).Perm ((i.path, i.entry) :: entries (r.trie i.network).root)) :
    Represents { r.withRoot i.network root with len := r.len + 1 } (accepted ++ [i]) := by
  have htrie (addr : IpAddr) :
      ({ r.withRoot i.network root with len := r.len + 1 } : PrefixRegistry).trie addr =
        if i.network.isIpv4 = addr.isIpv4 then { r.trie i.network with root := root }
        else r.trie addr := by
    rw [← trie_withRoot]
    cases addr <;> rfl
  refine ⟨fun addr => ?_, fun addr => ?_, ?_, ?_⟩
  · rw [htrie]
    split
    · rename_i hfamily
      rw [← width_of_family hfamily]
      exact h.widths i.network
    · exact h.widths addr
  · rw [htrie]
    unfold ofFamily
    rw [filter_append, map_append]
    split
    · rename_i hfamily
      refine hroot.trans ?_
      rw [trie_of_family r hfamily, filter_cons_of_pos (by simpa using hfamily)]
      exact ((h.held addr).cons _).trans (perm_append_singleton _ _).symm
    · rename_i hfamily
      rw [filter_cons_of_neg (by simpa using hfamily), filter_nil, map_nil,
        append_nil]
      exact h.held addr
  · intro a ha
    rcases List.mem_append.mp ha with ha | ha
    · exact h.valid a ha
    · rw [List.mem_singleton.mp ha]
      exact hi
  · rw [length_append, length_singleton, ← h.counted]

theorem perform_accepted (display : IpAddr → String) (h : Represents r accepted)
    (haccepted : ¬Refused accepted i) :
    Represents (r.perform display i).2 (accepted ++ [i]) ∧
      ∃ diagnostics, (r.perform display i).1 = .ok diagnostics ∧
        diagnostics.Perm
          ((accepted.filter fun a => Contains a i ∨ Contains i a).map (reported display i)) := by
  obtain ⟨hlong, hfresh⟩ := not_or.mp haccepted
  have hi := Nat.le_of_not_lt hlong
  have hfree : get (r.trie i.network).root i.path = none := by
    rw [← h.taken_iff hi] at hfresh
    exact Option.eq_none_iff_forall_ne_some.mpr fun e he => hfresh ⟨e, he⟩
  obtain ⟨root, hinsert, hroot⟩ := insert_free i.entry hfree 0
  unfold PrefixRegistry.perform
  rw [insert_fits h hi, hinsert]
  refine ⟨h.added hi hroot, _, rfl, ?_⟩
  have hperm := (overlaps_perm h hi).map (diagnostic display i)
  rwa [map_map] at hperm

theorem perform_represents (display : IpAddr → String) (h : Represents r accepted)
    (i : Insertion) : Represents (r.perform display i).2 (accept accepted i) := by
  unfold accept
  split
  · rename_i hrefused
    rw [(perform_refused display h hrefused).1]
    exact h
  · rename_i haccepted
    exact (perform_accepted display h haccepted).1

end Step

theorem run_represents (display : IpAddr → String) (calls : List Insertion) :
    Represents ((registryMachine display).run .new calls) (acceptedOf calls) := by
  induction calls using List.reverseRecOn with
  | nil => exact Represents.new
  | append_singleton calls i ih =>
    rw [Machine.run_snoc, acceptedOf, foldl_append]
    exact perform_represents display ih i

theorem lookup_eq (r : PrefixRegistry) (hw : ∀ addr, (r.trie addr).maxBits = width addr)
    (addr : IpAddr) :
    r.lookup addr = ((r.trie addr).root.lookup 0 none (addrPath addr (width addr))).map
      fun p => ⟨p.1, p.2⟩ := by
  have hwidth := hw addr
  unfold addrPath
  rw [← hwidth]
  cases addr <;> rfl

theorem covers_iff (hfamily : a.network.isIpv4 = addr.isIpv4) (ha : a.prefixLen ≤ width a.network) :
    a.path <+: addrPath addr (width addr) ↔ Covers a addr := by
  rw [width_of_family hfamily] at ha
  refine (addrPath_leads_iff hfamily (width_of_family hfamily ▸ ha) le_rfl).trans ?_
  exact and_iff_right ha

section

variable (h : Represents r accepted)

include h

theorem lookup_cases (addr : IpAddr) :
    (∃ m, r.lookup addr = some m ∧ IsLongestMatch accepted addr m) ∨
      (r.lookup addr = none ∧ ∀ a ∈ accepted, ¬Covers a addr) := by
  rw [lookup_eq r h.widths]
  have hheld {a : Insertion} (ha : a ∈ accepted) (hc : Covers a addr) :
      a.path <+: addrPath addr (width addr) ∧
        get (r.trie addr).root a.path = some a.entry := by
    have hfamily := hc.family
    exact ⟨(covers_iff hfamily (h.valid a ha)).mpr hc,
      (h.get_iff addr).mpr ⟨a, ha, hfamily, rfl, rfl⟩⟩
  have hlen (j : Insertion) : j.path.length = j.prefixLen := addrPath_length _ _
  rcases lookup_spec (r.trie addr).root (addrPath addr (width addr)) 0 none with
    ⟨q, e, hq, hget, hfound, hlongest⟩ | ⟨hnone, hfound⟩
  · obtain ⟨a, ha, hfamily, rfl, rfl⟩ := (h.get_iff addr).mp hget
    refine Or.inl ⟨⟨a.entry, a.prefixLen⟩, ?_, a, ha, ?_, rfl, ?_⟩
    · rw [hfound, hlen, Nat.zero_add]
      rfl
    · exact (covers_iff hfamily (h.valid a ha)).mp hq
    · intro b hb hc
      obtain ⟨hpath, hgetb⟩ := hheld hb hc
      have := hlongest b.path b.entry hpath hgetb
      rwa [hlen, hlen] at this
  · refine Or.inr ⟨by rw [hfound]; rfl, fun a ha hc => ?_⟩
    obtain ⟨hpath, hgeta⟩ := hheld ha hc
    rw [hnone a.path hpath] at hgeta
    cases hgeta

theorem Represents.entry_unique (ha : a ∈ accepted)
    (hb : b ∈ accepted) (hca : Covers a addr) (hcb : Covers b addr)
    (hlen : a.prefixLen = b.prefixLen) : a.entry = b.entry := by
  have hsame : SamePrefix a b := ⟨hlen, (hlen ▸ hca : Agree b.prefixLen _ _).trans hcb.symm⟩
  have hpath := (path_eq_iff hsame.2.family (h.valid a ha) (h.valid b hb)).mpr hsame
  have hgeta := (h.get_iff addr).mpr ⟨a, ha, hca.family, rfl, rfl⟩
  have hgetb := (h.get_iff addr).mpr ⟨b, hb, hcb.family, rfl, rfl⟩
  rw [hpath, hgetb] at hgeta
  exact (Option.some.inj hgeta).symm

theorem Represents.longest_unique (hm : IsLongestMatch accepted addr m)
    (hm' : IsLongestMatch accepted addr m') : m = m' := by
  obtain ⟨a, ha, hca, rfl, hlongest⟩ := hm
  obtain ⟨b, hb, hcb, rfl, hlongest'⟩ := hm'
  have hlen : a.prefixLen = b.prefixLen :=
    le_antisymm (hlongest' a ha hca) (hlongest b hb hcb)
  rw [h.entry_unique ha hb hca hcb hlen, hlen]

theorem lookup_iff (addr : IpAddr) (m : PrefixMatch) :
    r.lookup addr = some m ↔ IsLongestMatch accepted addr m := by
  rcases lookup_cases h addr with ⟨m', hlookup, hm'⟩ | ⟨hlookup, hnone⟩
  · rw [hlookup, Option.some.injEq]
    exact ⟨fun heq => heq ▸ hm', fun hm => h.longest_unique hm' hm⟩
  · rw [hlookup]
    refine ⟨fun heq => (by cases heq), ?_⟩
    rintro ⟨a, ha, hc, -⟩
    exact absurd hc (hnone a ha)

theorem lookup_none_iff (addr : IpAddr) :
    r.lookup addr = none ↔ ∀ a ∈ accepted, ¬Covers a addr := by
  rcases lookup_cases h addr with ⟨m, hlookup, a, ha, hc, -⟩ | ⟨hlookup, hnone⟩
  · rw [hlookup]
    exact ⟨fun heq => (by cases heq), fun hall => absurd hc (hall a ha)⟩
  · exact ⟨fun _ => hnone, fun _ => hlookup⟩

end

def DistinctPrefixes (calls : List Insertion) : Prop :=
  calls.Pairwise fun a b => ¬SamePrefix a b

theorem SamePrefix.symm (h : SamePrefix a b) : SamePrefix b a :=
  ⟨h.1.symm, h.1 ▸ h.2.symm⟩

theorem mem_acceptedOf (distinct : DistinctPrefixes calls) :
    a ∈ acceptedOf calls ↔ a ∈ calls ∧ a.prefixLen ≤ width a.network := by
  induction calls using List.reverseRecOn generalizing a with
  | nil => simp [acceptedOf]
  | append_singleton calls i ih =>
    unfold DistinctPrefixes at distinct
    rw [pairwise_append] at distinct
    obtain ⟨hbefore, -, hlast⟩ := distinct
    have hfresh : ¬∃ b ∈ acceptedOf calls, SamePrefix b i := by
      rintro ⟨b, hb, hsame⟩
      exact hlast b ((ih hbefore).mp hb).1 i (mem_singleton_self i) hsame
    have hrefused : Refused (acceptedOf calls) i ↔ width i.network < i.prefixLen :=
      or_iff_left hfresh
    have hstep : acceptedOf (calls ++ [i]) = accept (acceptedOf calls) i := by
      simp [acceptedOf]
    rw [hstep]
    unfold accept
    split
    · rename_i hr
      have hlong := hrefused.mp hr
      rw [ih hbefore, mem_append, mem_singleton]
      constructor
      · exact fun h => ⟨Or.inl h.1, h.2⟩
      · rintro ⟨h | rfl, hfits⟩
        · exact ⟨h, hfits⟩
        · omega
    · rename_i hr
      have hfits := mt hrefused.mpr hr
      rw [mem_append, mem_append, ih hbefore, mem_singleton]
      constructor
      · rintro (h | rfl)
        · exact ⟨Or.inl h.1, h.2⟩
        · exact ⟨Or.inr rfl, Nat.le_of_not_lt hfits⟩
      · rintro ⟨h | rfl, hle⟩
        · exact Or.inl ⟨h, hle⟩
        · exact Or.inr rfl

theorem DistinctPrefixes.perm (h : DistinctPrefixes calls)
    (hperm : calls.Perm calls') : DistinctPrefixes calls' :=
  hperm.pairwise h fun {_ _} hne hsame => hne hsame.symm

/-- After every sequence of insertions, accepted and refused, of both families: a lookup is the
scan for the longest accepted prefix that covers the address; an insertion is refused exactly when
it is too long or its prefix was accepted before, and then leaves the registry as it was; an
accepted one reports each accepted prefix it overlaps once; and the order in which distinct
prefixes are inserted does not matter to the lookups. -/
theorem registry_scans (display : IpAddr → String) (calls : List Insertion) :
    let r := (registryMachine display).run .new calls
    let accepted := acceptedOf calls
    (∀ addr m, r.lookup addr = some m ↔ IsLongestMatch accepted addr m) ∧
    (∀ addr, r.lookup addr = none ↔ ∀ a ∈ accepted, ¬Covers a addr) ∧
    r.len = accepted.length ∧
    (∀ i, (∃ e, ((registryMachine display).step r i).1 = .error e) ↔ Refused accepted i) ∧
    (∀ i, Refused accepted i → ((registryMachine display).step r i).2 = r) ∧
    (∀ i, ¬Refused accepted i → ∃ diagnostics,
      ((registryMachine display).step r i).1 = .ok diagnostics ∧
      diagnostics.Perm
        ((accepted.filter fun a => Contains a i ∨ Contains i a).map (reported display i))) ∧
    (DistinctPrefixes calls → ∀ calls', calls.Perm calls' → ∀ addr,
      ((registryMachine display).run .new calls').lookup addr = r.lookup addr) := by
  intro r accepted
  have h : Represents r accepted := run_represents display calls
  refine ⟨lookup_iff h, lookup_none_iff h, h.counted, fun i => ?_, fun i hi => ?_, fun i hi => ?_,
    fun distinct calls' hperm addr => ?_⟩
  · constructor
    · rintro ⟨e, he⟩
      by_contra haccepted
      obtain ⟨-, diagnostics, hok, -⟩ := perform_accepted display h haccepted
      cases hok.symm.trans he
    · intro hrefused
      exact ⟨_, (perform_refused display h hrefused).2⟩
  · exact (perform_refused display h hi).1
  · exact (perform_accepted display h hi).2
  · have h' := run_represents display calls'
    have hmem (a : Insertion) : a ∈ acceptedOf calls' ↔ a ∈ accepted := by
      rw [mem_acceptedOf (distinct.perm hperm), mem_acceptedOf distinct, hperm.mem_iff]
    refine Option.ext fun m => ?_
    rw [lookup_iff h', lookup_iff h]
    simp only [IsLongestMatch, hmem]

/-- A default route, a network inside it, and the network once more with another host bit. -/
def sampleInsertions : List Insertion :=
  [⟨.v4 0, 0, "all", none⟩, ⟨.v4 0x0A010000#32, 16, "t", some "web"⟩,
    ⟨.v4 0x0A010203#32, 16, "u", none⟩]

theorem registry_scans_sample :
    let display : IpAddr → String := fun _ => "10.1.0.0"
    let r := (registryMachine display).run .new sampleInsertions
    r.len = (acceptedOf sampleInsertions).length ∧
      ((registryMachine display).step r ⟨.v4 0x0A010000#32, 16, "t", none⟩).2 = r := by
  intro display r
  have h := registry_scans display sampleInsertions
  refine ⟨h.2.2.1, h.2.2.2.2.1 _ ?_⟩
  decide

end Tidegard.Classifier.Proofs.LongestMatch
