import Mathlib

namespace Tidegard.Text

/-- Unicode `White_Space`, which is what `char::is_whitespace` tests. -/
def isWhitespace (c : Char) : Bool :=
  let n := c.toNat
  (9 ≤ n && n ≤ 13) || n == 0x20 || n == 0x85 || n == 0xA0 || n == 0x1680 ||
    (0x2000 ≤ n && n ≤ 0x200A) || n == 0x2028 || n == 0x2029 || n == 0x202F || n == 0x205F ||
    n == 0x3000

/-- `s.trim().is_empty()`. -/
def isBlank (s : String) : Bool := s.toList.all isWhitespace

/-- `char::is_ascii_alphanumeric`. -/
def isAsciiAlphanumeric (c : Char) : Bool :=
  let n := c.toNat
  (48 ≤ n && n ≤ 57) || (65 ≤ n && n ≤ 90) || (97 ≤ n && n ≤ 122)

/-- `str::trim`. -/
def trim (s : String) : String :=
  String.ofList ((((s.toList.dropWhile isWhitespace).reverse.dropWhile isWhitespace)).reverse)

/-- `char::is_control`. -/
def isControl (c : Char) : Bool :=
  let n := c.toNat
  n ≤ 0x1F || (0x7F ≤ n && n ≤ 0x9F)

/-- `str::parse` of a string of digits, for an unsigned type with this maximum. -/
def parseDigits (max : Nat) (digits : List Char) : Option Nat :=
  let value := Nat.ofDigitChars 10 digits 0
  if value ≤ max then some value else none

/-- `str::parse` for an unsigned type: one leading plus sign is allowed. -/
def parseUnsigned (max : Nat) (text : String) : Option Nat :=
  let digits := match text.toList with
    | '+' :: rest => rest
    | all => all
  if digits.isEmpty || !digits.all Char.isDigit then none else parseDigits max digits

theorem isDigit_toDigits (h : c ∈ Nat.toDigits 10 n) : c.isDigit = true :=
  Nat.isDigit_of_mem_toDigits (by omega) le_rfl h

theorem parseDigits_toDigits {max : Nat} (h : n ≤ max) :
    parseDigits max (Nat.toDigits 10 n) = some n := by
  unfold parseDigits
  rw [Nat.ofDigitChars_toDigits (by omega) le_rfl]
  exact if_pos h

theorem length_le_utf8ByteSize (s : String) : s.length ≤ s.utf8ByteSize := by
  rw [← String.ofList_toList (s := s)]
  generalize s.toList = l
  induction l with
  | nil => simp
  | cons c =>
    rw [String.ofList_cons, String.utf8ByteSize_append, String.length_append]
    simp only [String.utf8ByteSize_singleton, String.length_singleton]
    have := c.utf8Size_pos
    omega

end Tidegard.Text
