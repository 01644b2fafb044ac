import Tidegard.Classifier.Proofs.LongestMatch
import Tidegard.Detector.Window
import Tidegard.Masks

namespace Tidegard.Detector.Proofs.PrefixScope

open Common Masks Addresses Classifier.Registry Classifier.Proofs.LongestMatch Input
open Window

theorem mask_eq_iff (h : len ≤ width a) : mask a len = mask b len ↔ Agree len a b := by
  cases a with
  | v4 x =>
    cases b with
    | v4 y =>
      replace h : len ≤ 32 := h
      change IpAddr.v4 (maskBits x (min len 32)) = IpAddr.v4 (maskBits y (min len 32)) ↔ _
      rw [min_eq_left h, IpAddr.v4.injEq, maskBits_eq_iff_leading x y h]
      exact Iff.rfl
    | v6 y => exact ⟨fun heq => (by cases heq), False.elim⟩
  | v6 x =>
    cases b with
    | v4 y => exact ⟨fun heq => (by cases heq), False.elim⟩
    | v6 y =>
      replace h : len ≤ 128 := h
      change IpAddr.v6 (maskBits x (min len 128)) = IpAddr.v6 (maskBits y (min len 128)) ↔ _
      rw [min_eq_left h, IpAddr.v6.injEq, maskBits_eq_iff_leading x y h]
      exact Iff.rfl

/-- The id an address with a match of this length is filed under. -/
def prefixScope (addr : IpAddr) (m : PrefixMatch) : ScopeId :=
  .network (mask addr m.matchedPrefixLen) m.matchedPrefixLen

/-- The accepted prefix is the longest that covers the address. -/
def LongestFor (accepted : List Insertion) (addr : IpAddr) (p : Insertion) : Prop :=
  p ∈ accepted ∧ Covers p addr ∧ ∀ q ∈ accepted, Covers q addr → q.prefixLen ≤ p.prefixLen

theorem longestFor_iff :
    IsLongestMatch accepted addr m ↔
      ∃ p, LongestFor accepted addr p ∧ m = ⟨p.entry, p.prefixLen⟩ := by
  constructor
  · rintro ⟨p, hp, hc, hm, hlongest⟩
    exact ⟨p, ⟨hp, hc, hlongest⟩, hm⟩
  · rintro ⟨p, ⟨hp, hc, hlongest⟩, hm⟩
    exact ⟨p, hp, hc, hm, hlongest⟩

/-- The windows file every address the registry matches under its masked address and the length of
the match, and two such addresses under one id exactly when one registered prefix is the longest
match of both. -/
theorem files_by_longest_match (display : IpAddr → String) (calls : List Insertion) :
    let r := (registryMachine display).run .new calls
    (∀ (hashing : Hashing) (flow : NormalizedFlow) (now : Nat) (w : DetectionWindows) (side : Side)
        (m : PrefixMatch), r.lookup side.addr = some m →
      let key := side.key .prefix_ (prefixScope side.addr m)
      (w.count hashing (matchedLen r) flow now side).networks =
        (w.networks.upsert (hashing.visit key) key now {}
          (Accumulator.add hashing.hash flow)).2) ∧
    ∀ (a b : IpAddr) (m m' : PrefixMatch), r.lookup a = some m → r.lookup b = some m' →
      (prefixScope a m = prefixScope b m' ↔
        ∃ p, LongestFor (acceptedOf calls) a p ∧ LongestFor (acceptedOf calls) b p) := by
  intro r
  have h : Represents r (acceptedOf calls) := run_represents display calls
  refine ⟨fun hashing flow now w side m hm => ?_, fun a b m m' hm hm' => ?_⟩
  · have hlen : matchedLen r side.addr = some m.matchedPrefixLen := by rw [matchedLen, hm]; rfl
    unfold DetectionWindows.count
    rw [hlen]
    rfl
  · obtain ⟨p, hp, rfl⟩ := longestFor_iff.mp ((lookup_iff h a m).mp hm)
    obtain ⟨q, hq, rfl⟩ := longestFor_iff.mp ((lookup_iff h b m').mp hm')
    have hwidth : p.prefixLen ≤ width a := by
      rw [← width_of_family hp.2.1.family]
      exact h.valid p hp.1
    simp only [prefixScope, ScopeId.network.injEq]
    constructor
    · rintro ⟨hmask, hlen⟩
      rw [← hlen] at hmask
      have hagree : Agree p.prefixLen a b := (mask_eq_iff hwidth).mp hmask
      refine ⟨p, hp, hp.1, hp.2.1.trans hagree, fun s hs hc => ?_⟩
      rw [hlen]
      exact hq.2.2 s hs hc
    · rintro ⟨s, hsa, hsb⟩
      have hps : p.prefixLen = s.prefixLen :=
        le_antisymm (hsa.2.2 p hp.1 hp.2.1) (hp.2.2 s hsa.1 hsa.2.1)
      have hqs : q.prefixLen = s.prefixLen :=
        le_antisymm (hsb.2.2 q hq.1 hq.2.1) (hq.2.2 s hsb.1 hsb.2.1)
      rw [hps] at hwidth
      rw [hps, hqs]
      exact ⟨(mask_eq_iff hwidth).mpr (hsa.2.1.symm.trans hsb.2.1), rfl⟩

theorem files_by_longest_match_sample :
    let r := (registryMachine fun _ => "").run .new sampleInsertions
    let m : PrefixMatch := ⟨⟨"t", some "web", 16⟩, 16⟩
    r.lookup (.v4 0x0A010001#32) = some m ∧ r.lookup (.v4 0x0A01FF07#32) = some m ∧
      ∃ p, LongestFor (acceptedOf sampleInsertions) (.v4 0x0A010001#32) p ∧
        LongestFor (acceptedOf sampleInsertions) (.v4 0x0A01FF07#32) p := by
  intro r m
  have hm : r.lookup (.v4 0x0A010001#32) = some m := by decide +kernel
  have hm' : r.lookup (.v4 0x0A01FF07#32) = some m := by decide +kernel
  have hsame : prefixScope (.v4 0x0A010001#32) m = prefixScope (.v4 0x0A01FF07#32) m := by decide
  refine ⟨hm, hm', ?_⟩
  exact ((files_by_longest_match (fun _ => "") sampleInsertions).2 _ _ m m hm hm').mp hsame

end Tidegard.Detector.Proofs.PrefixScope
