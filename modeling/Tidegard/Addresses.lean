import Tidegard.Common

namespace Tidegard.Addresses

open Common

/-- The addresses are of one family and have their first `len` bits in common. -/
def Agree (len : Nat) : IpAddr → IpAddr → Prop
  | .v4 a, .v4 b => ∀ i < len, a.getMsbD i = b.getMsbD i
  | .v6 a, .v6 b => ∀ i < len, a.getMsbD i = b.getMsbD i
  | _, _ => False

instance (len : Nat) (a b : IpAddr) : Decidable (Agree len a b) :=
  match a, b with
  | .v4 _, .v4 _ => Nat.decidableBallLT _ _
  | .v6 _, .v6 _ => Nat.decidableBallLT _ _
  | .v4 _, .v6 _ => .isFalse id
  | .v6 _, .v4 _ => .isFalse id

variable {len k : Nat} {a b c : IpAddr}

theorem Agree.symm (h : Agree len a b) : Agree len b a := by
  cases a <;> cases b <;> first | exact fun i hi => (h i hi).symm | exact h

theorem Agree.trans (hab : Agree len a b) (hbc : Agree len b c) : Agree len a c := by
  cases a <;> cases b <;> cases c <;>
    first | exact fun i hi => (hab i hi).trans (hbc i hi) | exact hab.elim | exact hbc.elim

theorem Agree.mono (h : Agree len a b) (hk : k ≤ len) : Agree k a b := by
  cases a <;> cases b <;> first | exact fun i hi => h i (hi.trans_le hk) | exact h

theorem Agree.family (h : Agree len a b) : a.isIpv4 = b.isIpv4 := by
  cases a <;> cases b <;> first | rfl | exact h.elim

end Tidegard.Addresses
