import Tidegard.Common
import Tidegard.Masks

set_option linter.dupNamespace false

namespace Tidegard.Mitigation.Prefix

open Common Masks

def maxLength : IpAddr → Nat
  | .v4 _ => 32
  | .v6 _ => 128

def mask (address : IpAddr) (length : Nat) : IpAddr :=
  match address with
  | .v4 bits => .v4 (maskBits bits length)
  | .v6 bits => .v6 (maskBits bits length)

/-- A network: no bit is set below the length. -/
structure Prefix where
  address : IpAddr
  length : Nat
  inRange : length ≤ maxLength address
  noHostBits : mask address length = address
  deriving DecidableEq

inductive PrefixError where
  | form
  | address
  | length
  | hostBits (address : IpAddr) (length : Nat)
  deriving DecidableEq

def Prefix.new (address : IpAddr) (length : Nat) : Except PrefixError Prefix :=
  if h : length ≤ maxLength address then
    if hm : mask address length = address then .ok ⟨address, length, h, hm⟩
    else .error (.hostBits (mask address length) length)
  else .error .length

/-- The address and the length, with a slash between them. -/
def Prefix.toText (showAddr : IpAddr → String) (p : Prefix) : String :=
  showAddr p.address ++ "/" ++ toString p.length

def Prefix.isIpv4 (p : Prefix) : Bool := p.address.isIpv4

def Prefix.isHost (p : Prefix) : Bool := p.length = maxLength p.address

def Prefix.contains (p other : Prefix) : Bool :=
  p.address.isIpv4 == other.address.isIpv4 && decide (p.length ≤ other.length) &&
    mask other.address p.length == p.address

/-- The address is in the network: it is of the same family and has the same leading bits. -/
def Prefix.Holds (p : Prefix) (a : IpAddr) : Prop :=
  match p.address, a with
  | .v4 network, .v4 bits => ∀ i < p.length, bits.getMsbD i = network.getMsbD i
  | .v6 network, .v6 bits => ∀ i < p.length, bits.getMsbD i = network.getMsbD i
  | _, _ => False

section Addresses

variable {p q : Prefix} {a : IpAddr}

theorem mask_mask (a : IpAddr) {length length' : Nat} (hl : length ≤ maxLength a)
    (hle : length' ≤ length) : mask (mask a length) length' = mask a length' := by
  cases a with
  | v4 bits => exact congrArg IpAddr.v4 (maskBits_maskBits bits hl hle)
  | v6 bits => exact congrArg IpAddr.v6 (maskBits_maskBits bits hl hle)

@[simp] theorem isIpv4_mask (a : IpAddr) (length : Nat) : (mask a length).isIpv4 = a.isIpv4 := by
  cases a <;> rfl

@[simp] theorem maxLength_mask (a : IpAddr) (length : Nat) :
    maxLength (mask a length) = maxLength a := by
  cases a <;> rfl

theorem holds_iff_mask : p.Holds a ↔ mask a p.length = p.address := by
  obtain ⟨address, length, inRange, noHostBits⟩ := p
  cases address with
  | v4 network =>
    cases a with
    | v4 bits =>
      refine (maskBits_eq_iff_leading bits network inRange).symm.trans ?_
      rw [IpAddr.v4.inj noHostBits]
      exact ⟨congrArg IpAddr.v4, IpAddr.v4.inj⟩
    | v6 bits => simp [Prefix.Holds, mask]
  | v6 network =>
    cases a with
    | v4 bits => simp [Prefix.Holds, mask]
    | v6 bits =>
      refine (maskBits_eq_iff_leading bits network inRange).symm.trans ?_
      rw [IpAddr.v6.inj noHostBits]
      exact ⟨congrArg IpAddr.v6, IpAddr.v6.inj⟩

theorem Prefix.Holds.maxLength_eq (h : p.Holds a) : maxLength a = maxLength p.address := by
  rw [← holds_iff_mask.mp h, maxLength_mask]

theorem Prefix.holds_address (p : Prefix) : p.Holds p.address := holds_iff_mask.mpr p.noHostBits

theorem contains_iff_mask : p.contains q = true ↔
    p.length ≤ q.length ∧ mask q.address p.length = p.address := by
  unfold Prefix.contains
  simp only [Bool.and_eq_true, beq_iff_eq, decide_eq_true_eq]
  constructor
  · rintro ⟨⟨-, hlength⟩, hmask⟩
    exact ⟨hlength, hmask⟩
  · rintro ⟨hlength, hmask⟩
    refine ⟨⟨?_, hlength⟩, hmask⟩
    rw [← hmask, isIpv4_mask]

theorem exists_holds_not_mask (hlt : q.length < p.length) (hp : p.length ≤ maxLength q.address) :
    ∃ a, q.Holds a ∧ mask a p.length ≠ mask q.address p.length := by
  obtain ⟨address, length, inRange, noHostBits⟩ := q
  cases address with
  | v4 bits =>
    obtain ⟨y, hy, hne⟩ := exists_agreeing bits (Nat.lt_of_lt_of_le hlt hp)
    refine ⟨.v4 y, holds_iff_mask.mpr ((congrArg IpAddr.v4 hy).trans noHostBits), fun h => ?_⟩
    exact hne p.length hlt hp (IpAddr.v4.inj h)
  | v6 bits =>
    obtain ⟨y, hy, hne⟩ := exists_agreeing bits (Nat.lt_of_lt_of_le hlt hp)
    refine ⟨.v6 y, holds_iff_mask.mpr ((congrArg IpAddr.v6 hy).trans noHostBits), fun h => ?_⟩
    exact hne p.length hlt hp (IpAddr.v6.inj h)

theorem contains_iff : p.contains q = true ↔ ∀ a, q.Holds a → p.Holds a := by
  rw [contains_iff_mask]
  constructor
  · rintro ⟨hlength, hmask⟩ a ha
    have hrange : q.length ≤ maxLength a := by
      rw [ha.maxLength_eq]
      exact q.inRange
    rw [holds_iff_mask, ← mask_mask a hrange hlength, holds_iff_mask.mp ha, hmask]
  · intro h
    have haddress := holds_iff_mask.mp (h _ q.holds_address)
    refine ⟨?_, haddress⟩
    by_contra hlt
    have hp : p.length ≤ maxLength q.address := by
      rw [← maxLength_mask q.address p.length, haddress]
      exact p.inRange
    obtain ⟨a, ha, hne⟩ := exists_holds_not_mask (Nat.lt_of_not_le hlt) hp
    exact hne ((holds_iff_mask.mp (h a ha)).trans haddress.symm)

/-- Of two prefixes that share an address, the shorter one contains the other. -/
theorem contains_of_shared (hp : p.Holds a) (hq : q.Holds a) (hle : p.length ≤ q.length) :
    p.contains q = true := by
  rw [contains_iff_mask]
  refine ⟨hle, ?_⟩
  have hrange : q.length ≤ maxLength a := by
    rw [hq.maxLength_eq]
    exact q.inRange
  rw [← holds_iff_mask.mp hq, mask_mask a hrange hle, holds_iff_mask.mp hp]

theorem contains_or_of_shared (hp : p.Holds a) (hq : q.Holds a) :
    p.contains q = true ∨ q.contains p = true := by
  rcases Nat.le_total p.length q.length with hle | hle
  · exact Or.inl (contains_of_shared hp hq hle)
  · exact Or.inr (contains_of_shared hq hp hle)

end Addresses

end Tidegard.Mitigation.Prefix
