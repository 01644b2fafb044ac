import Tidegard.Notification.Destination

namespace Tidegard.Notification.Proofs.Vetting

open Common Destination

/-- The ways to write an IPv4 address as an IPv6 one. -/
inductive Form where
  | mapped
  | compatible
  | nat64
  | sixToFour
  deriving DecidableEq

def Form.Writes (v4 : BitVec 32) (v6 : BitVec 128) : Form → Prop
  | .mapped => v6.toNat = 0xffff * 2 ^ 32 + v4.toNat
  | .compatible => v6.toNat = v4.toNat
  | .nat64 => v6.toNat = 0x0064ff9b * 2 ^ 96 + v4.toNat
  | .sixToFour => v6.toNat / 2 ^ 80 = 0x2002 * 2 ^ 32 + v4.toNat

/-- The address is a form of one that `isPublicV4` refuses. -/
def Hides (form : Form) (ip : IpAddr) : Prop :=
  ∃ v6 v4, ip = .v6 v6 ∧ form.Writes v4 v6 ∧ isPublicV4 v4 = false

theorem isPublic_mapped (writes : Form.mapped.Writes v4 v6) :
    isPublic (.v6 v6) = isPublicV4 v4 := by
  change v6.toNat = 0xffff * 2 ^ 32 + v4.toNat at writes
  have hv4 := v4.isLt
  have hmapped : toIpv4Mapped v6 = some v4 := by
    rw [toIpv4Mapped, if_pos (by omega)]
    congr 1
    apply BitVec.eq_of_toNat_eq
    rw [BitVec.toNat_setWidth]
    omega
  simp only [isPublic, hmapped]

theorem isPublic_nat64 (writes : Form.nat64.Writes v4 v6) : isPublic (.v6 v6) = false := by
  change v6.toNat = 0x0064ff9b * 2 ^ 96 + v4.toNat at writes
  have hv4 := v4.isLt
  have hmapped : toIpv4Mapped v6 = none := if_neg (by omega)
  have hfirst : v6.toNat / 2 ^ 112 = 0x0064 := by omega
  have hsecond : v6.toNat / 2 ^ 96 % 2 ^ 16 = 0xff9b := by omega
  simp only [isPublic, hmapped, hfirst, hsecond, and_self, or_true, not_true_eq_false, decide_false]

/-- The host is on the list, or below the suffix of a wildcard that is. -/
def Listed (host : List Char) (allowlist : List String) : Prop :=
  ∃ pattern ∈ allowlist, host = pattern.toList.map Char.toLower ∨
    ∃ suffix sub, pattern.toList.map Char.toLower = '*' :: '.' :: suffix ∧ sub ≠ [] ∧
      host = sub ++ '.' :: suffix

theorem matchesPattern_spec (h : matchesPattern host pattern = true) :
    host = pattern ∨ ∃ suffix sub, pattern = '*' :: '.' :: suffix ∧ sub ≠ [] ∧
      host = sub ++ '.' :: suffix := by
  unfold matchesPattern at h
  split at h
  case h_2 => exact .inl (by simpa using h)
  case h_1 suffix =>
    simp only [Bool.and_eq_true, decide_eq_true_eq] at h
    obtain ⟨⟨head, rfl⟩, hlast, hlen⟩ := h
    simp only [List.length_append, Nat.add_sub_cancel, List.take_left'] at hlast hlen
    obtain ⟨sub, rfl⟩ := List.getLast?_eq_some_iff.mp hlast
    refine .inr ⟨suffix, sub, rfl, ?_, by simp⟩
    rintro rfl
    simp at hlen

/-- What the address of a target is, if it is vetted. -/
structure Vetted (target : Target) (allowlist : List String) (allowPrivate : Bool)
    (answers : List SocketAddr) (address : SocketAddr) : Prop where
  listed : Listed (bareHost target.host) allowlist
  secure : target.scheme = .https ∨ allowPrivate
  resolved : address ∈ answers
  routable : ¬ allowPrivate → ∀ a ∈ answers, isPublic a.ip ∧ ∀ form, ¬ Hides form a.ip

theorem isPublic_hides (h : isPublic ip = true) (compatible : ¬ Hides .compatible ip)
    (sixToFour : ¬ Hides .sixToFour ip) (form : Form) : ¬ Hides form ip := by
  cases form with
  | compatible => exact compatible
  | sixToFour => exact sixToFour
  | mapped =>
    rintro ⟨v6, v4, rfl, writes, refused⟩
    rw [isPublic_mapped writes, refused] at h
    cases h
  | nat64 =>
    rintro ⟨v6, v4, rfl, writes, -⟩
    rw [isPublic_nat64 writes] at h
    cases h

/-- An address that is returned is vetted exactly when private receivers are allowed or no answer of
the resolver is the IPv4-compatible or the 6to4 form of an address that is not public. -/
theorem vet_sound_iff (h : vet lookup target allowlist allowPrivate = .ok address) :
    (∃ answers, lookup target.host target.port = some answers ∧
      Vetted target allowlist allowPrivate answers address) ↔
    (¬ allowPrivate → ∀ answers ∈ lookup target.host target.port, ∀ a ∈ answers,
      ¬ Hides .compatible a.ip ∧ ¬ Hides .sixToFour a.ip) := by
  constructor
  · rintro ⟨answers, hanswers, vetted⟩ hprivate answers' hmem a ha
    obtain rfl : answers = answers' := Option.some.inj (hanswers.symm.trans hmem)
    have hforms := (vetted.routable hprivate a ha).2
    exact ⟨hforms .compatible, hforms .sixToFour⟩
  intro plain
  unfold vet at h
  split_ifs at h with hplain hallowed
  split at h
  · cases h
  · cases h
  case h_3 first rest hlookup =>
    split_ifs at h with hpublic
    cases h
    refine ⟨_, hlookup, ?_, ?_, List.mem_cons_self, fun hprivate a ha => ?_⟩
    · obtain ⟨pattern, hmem, hmatches⟩ := List.any_eq_true.mp hallowed
      exact ⟨pattern, hmem, matchesPattern_spec hmatches⟩
    · cases hscheme : target.scheme with
      | https => exact .inl rfl
      | http => exact .inr (not_not.mp fun hprivate => hplain ⟨hscheme, hprivate⟩)
    · have hroutable : isPublic a.ip = true := by
        by_contra hrefused
        exact hpublic ⟨hprivate, List.any_eq_true.mpr ⟨a, ha, by simpa using hrefused⟩⟩
      obtain ⟨hcompatible, hsixToFour⟩ := plain hprivate _ hlookup a ha
      exact ⟨hroutable, isPublic_hides hroutable hcompatible hsixToFour⟩

def sampleTarget : Target := ⟨.https, "Hooks.Example.com.", 443⟩

theorem vet_sound_iff_sample : ∃ answers, some [⟨.v4 0x01010101, 443⟩] = some answers ∧
    Vetted sampleTarget ["*.example.com"] false answers ⟨.v4 0x01010101, 443⟩ := by
  have hvet : vet (fun _ _ => some [⟨.v4 0x01010101, 443⟩]) sampleTarget ["*.example.com"] false =
      .ok ⟨.v4 0x01010101, 443⟩ := by decide
  exact (vet_sound_iff hvet).mpr (by simp [Hides])

/-- `::10.0.0.1` is let through. -/
theorem private_form_vetted :
    vet (fun _ _ => some [⟨.v6 0x0a000001, 443⟩]) sampleTarget ["*.example.com"] false =
      .ok ⟨.v6 0x0a000001, 443⟩ ∧ Hides .compatible (.v6 0x0a000001) :=
  ⟨by decide, 0x0a000001, 0x0a000001, rfl, rfl, by decide⟩

end Tidegard.Notification.Proofs.Vetting
