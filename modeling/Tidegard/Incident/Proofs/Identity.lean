import Tidegard.Incident.Basics

namespace Tidegard.Incident.Proofs.Identity

open List Basics

theorem hexByte_digits : ∀ b : Fin 256, (hexDigit (b.val / 16)).utf8Size = 1 ∧
    (hexDigit (b.val % 16)).utf8Size = 1 ∧ hexDigit (b.val / 16) ≠ '-' ∧
    hexDigit (b.val % 16) ≠ '-' ∧
    byteFromHex (hexDigit (b.val / 16)) (hexDigit (b.val % 16)) = some b := by
  decide +kernel

theorem hexValue_ascii : ∀ n : Fin 128, ∀ v ∈ hexValue (Char.ofNat n.val),
    v < 16 ∧ hexDigit v = (Char.ofNat n.val).toLower ∧ (Char.ofNat n.val).utf8Size = 1 := by
  decide +kernel

/-- Writing a digit's value gives the digit in lower case. -/
theorem hexDigit_of_hexValue (h : hexValue c = some v) :
    v < 16 ∧ hexDigit v = c.toLower ∧ c.utf8Size = 1 := by
  have hascii : c.toNat < 128 := by
    unfold hexValue at h
    dsimp only at h
    split at h
    · omega
    · split at h
      · omega
      · split at h
        · omega
        · cases h
  have hc : Char.ofNat c.toNat = c := Char.ofNat_toNat c
  simpa [hc] using hexValue_ascii ⟨c.toNat, hascii⟩ v (by simpa [hc] using h)

theorem hexByte_of_values (hfirst : hexValue first = some high)
    (hsecond : hexValue second = some low) :
    hexByte (Fin.ofNat 256 (16 * high + low)) = [first.toLower, second.toLower] := by
  obtain ⟨hhigh, heqHigh, -⟩ := hexDigit_of_hexValue hfirst
  obtain ⟨hlow, heqLow, -⟩ := hexDigit_of_hexValue hsecond
  have hval : (Fin.ofNat 256 (16 * high + low)).val = 16 * high + low :=
    Nat.mod_eq_of_lt (by omega)
  have hdiv : (16 * high + low) / 16 = high := by omega
  have hmod : (16 * high + low) % 16 = low := by omega
  rw [hexByte, hval, hdiv, hmod, heqHigh, heqLow]

theorem utf8ByteSize_plain (h : ∀ c ∈ chars, Char.utf8Size c = 1) :
    (String.ofList chars).utf8ByteSize = chars.length := by
  induction chars with
  | nil => simp
  | cons c chars ih =>
    rw [String.ofList_cons, String.utf8ByteSize_append, String.utf8ByteSize_singleton,
      ih fun c hc => h c (mem_cons_of_mem _ hc), h c mem_cons_self, length_cons, Nat.add_comm]

theorem mem_hexBytes (h : c ∈ flatMap hexByte bytes) : c.utf8Size = 1 ∧ c ≠ '-' := by
  obtain ⟨b, -, hc⟩ := List.mem_flatMap.mp h
  obtain ⟨hfirst, hsecond, hfirst', hsecond', -⟩ := hexByte_digits b
  simp only [hexByte, mem_cons, not_mem_nil, or_false] at hc
  rcases hc with rfl | rfl
  · exact ⟨hfirst, hfirst'⟩
  · exact ⟨hsecond, hsecond'⟩

section

variable (bytes : List (Fin 256))

theorem length_hexBytes :
    (bytes.flatMap hexByte).length = 2 * bytes.length := by
  simp [hexByte, Nat.mul_comm]

theorem filter_hexBytes :
    (bytes.flatMap hexByte).filter (· ≠ '-') = bytes.flatMap hexByte := by
  rw [filter_eq_self]
  intro c hc
  simpa using (mem_hexBytes hc).2

theorem take_hexBytes (n : Nat) :
    (bytes.take n).flatMap hexByte = (bytes.flatMap hexByte).take (2 * n) := by
  induction bytes generalizing n with
  | nil => simp
  | cons b bytes ih =>
    cases n with
    | zero => simp
    | succ n => simp [hexByte, ih, Nat.mul_add]

theorem drop_hexBytes (n : Nat) :
    (bytes.drop n).flatMap hexByte = (bytes.flatMap hexByte).drop (2 * n) := by
  induction bytes generalizing n with
  | nil => simp
  | cons b bytes ih =>
    cases n with
    | zero => simp
    | succ n => simp [hexByte, ih, Nat.mul_add]

end

/-- Hyphens after the 8th, 12th, 16th and 20th digit. -/
def hyphenated (digits : List Char) : String :=
  String.ofList (digits.take 8 ++ '-' :: (digits.drop 8).take 4 ++ '-' :: (digits.drop 12).take 4 ++
    '-' :: (digits.drop 16).take 4 ++ '-' :: digits.drop 20)

theorem toCanonicalString_eq (id : IncidentId) :
    id.toCanonicalString = hyphenated (id.bytes.flatMap hexByte) := by
  have hlast : (id.bytes.drop 10).take 6 = id.bytes.drop 10 :=
    take_of_length_le (by simp [id.size])
  simp only [IncidentId.toCanonicalString, hyphenated, hlast, take_hexBytes, drop_hexBytes,
    drop_zero, Nat.reduceMul]

theorem parsePair_hexByte (b : Fin 256) (rest : List Char) :
    parsePair (hexByte b ++ rest) = .ok (b, rest) := by
  obtain ⟨hfirst, hsecond, -, -, hbyte⟩ := hexByte_digits b
  simp [parsePair, hexByte, hfirst, hsecond, hbyte]

theorem parsePairs_hexBytes (h : bytes.length = n) :
    parsePairs n (bytes.flatMap hexByte) = .ok ⟨bytes, h⟩ := by
  induction bytes generalizing n with
  | nil =>
    subst h
    rfl
  | cons b bytes ih =>
    cases n with
    | zero => cases h
    | succ n =>
      have hrest : bytes.length = n := by simpa using h
      rw [flatMap_cons, parsePairs, parsePair_hexByte]
      simp only [bind, Except.bind, ih hrest]
      rfl

theorem filter_hyphenated (digits : List Char) :
    (hyphenated digits).toList.filter (· ≠ '-') = digits.filter (· ≠ '-') := by
  have hsplit : ∀ skip count, (digits.drop skip).take count ++ digits.drop (skip + count) =
      digits.drop skip := by
    intro skip count
    rw [← drop_drop, take_append_drop]
  have hdash : ∀ l : List Char, ('-' :: l).filter (· ≠ '-') = l.filter (· ≠ '-') := by simp
  simp only [hyphenated, String.toList_ofList, filter_append, hdash]
  rw [← filter_append, ← filter_append, ← filter_append, ← filter_append, append_assoc,
    append_assoc, append_assoc, hsplit 16 4, hsplit 12 4, hsplit 8 4, take_append_drop]

theorem parse_canonical (id : IncidentId) : IncidentId.parse id.toCanonicalString = .ok id := by
  unfold IncidentId.parse
  simp only [toCanonicalString_eq, filter_hyphenated, filter_hexBytes,
    utf8ByteSize_plain fun c hc => (mem_hexBytes hc).1, length_hexBytes, id.size]
  rw [if_neg (by decide), parsePairs_hexBytes id.size]
  rfl

/-- Pairs that are read as bytes: two digits each, or a plus sign and a digit. -/
inductive Pairs : List Char → Prop
  | nil : Pairs []
  | cons (readable : (byteFromHex first second).isSome) (rest : Pairs text) :
      Pairs (first :: second :: text)

/-- After such pairs come two whole bytes that are none: one character, or two. -/
inductive Stops : List Char → Prop
  | wide (size : first.utf8Size = 2) : Stops (first :: text)
  | here (hfirst : first.utf8Size = 1) (hsecond : second.utf8Size = 1)
      (unreadable : byteFromHex first second = none) : Stops (first :: second :: text)
  | later (readable : (byteFromHex first second).isSome) (rest : Stops text) :
      Stops (first :: second :: text)

/-- The text is all digits, or is refused where the first pairs end. -/
def Settled (hex : List Char) : Prop := Pairs hex ∧ '+' ∉ hex ∨ Stops hex

theorem digit_plain (h : (hexValue c).isSome) : c.utf8Size = 1 := by
  obtain ⟨v, hv⟩ := Option.isSome_iff_exists.mp h
  exact (hexDigit_of_hexValue hv).2.2

theorem byteFromHex_plain (h : (byteFromHex first second).isSome) :
    first.utf8Size = 1 ∧ second.utf8Size = 1 := by
  unfold byteFromHex at h
  split at h
  · rename_i hplus
    exact ⟨by rw [hplus]; decide, digit_plain (by simpa using h)⟩
  · rcases hhigh : hexValue first with _ | high
    · simp [hhigh] at h
    · rcases hlow : hexValue second with _ | low
      · simp [hhigh, hlow] at h
      · exact ⟨(hexDigit_of_hexValue hhigh).2.2, (hexDigit_of_hexValue hlow).2.2⟩

theorem Pairs.plain (h : Pairs text) : ∀ c ∈ text, Char.utf8Size c = 1 := by
  induction h with
  | nil => simp
  | cons readable rest ih =>
    obtain ⟨hfirst, hsecond⟩ := byteFromHex_plain readable
    simpa [hfirst, hsecond] using ih

theorem Pairs.not_stops (h : Pairs text) : ¬Stops text := by
  induction h with
  | nil => exact fun h => by cases h
  | cons readable _ ih =>
    intro h
    cases h with
    | wide size => simp [(byteFromHex_plain readable).1] at size
    | here _ _ unreadable => simp [unreadable] at readable
    | later _ rest => exact ih rest

theorem byteFromHex_digits (h : byteFromHex first second = some byte) (hplus : first ≠ '+') :
    (hexValue first).isSome ∧ (hexValue second).isSome ∧
      hexByte byte = [first.toLower, second.toLower] := by
  unfold byteFromHex at h
  rw [if_neg hplus] at h
  rcases hhigh : hexValue first with _ | high
  · simp [hhigh] at h
  rcases hlow : hexValue second with _ | low
  · simp [hhigh, hlow] at h
  obtain rfl : Fin.ofNat 256 (16 * high + low) = byte := by simpa [hhigh, hlow] using h
  exact ⟨rfl, rfl, hexByte_of_values hhigh hlow⟩

theorem byteFromHex_isSome (hhigh : (hexValue first).isSome) (hlow : (hexValue second).isSome) :
    (byteFromHex first second).isSome := by
  obtain ⟨high, hhigh⟩ := Option.isSome_iff_exists.mp hhigh
  obtain ⟨low, hlow⟩ := Option.isSome_iff_exists.mp hlow
  have hplus : first ≠ '+' := by
    rintro rfl
    cases hhigh
  simp [byteFromHex, hplus, hhigh, hlow]

/-- A text is all pairs, stops after some, or a character of it is cut. -/
theorem parsePairs_cases (hsize : (String.ofList text).utf8ByteSize = 2 * n) :
    (Pairs text ∧ ∃ bytes, parsePairs n text = .ok bytes ∧ ('+' ∉ text →
      (∀ c ∈ text, (hexValue c).isSome) ∧ bytes.val.flatMap hexByte = text.map Char.toLower)) ∨
    (Stops text ∧ parsePairs n text = .error .invalidHex ∧ ¬∀ c ∈ text, (hexValue c).isSome) ∨
    (¬Pairs text ∧ ¬Stops text ∧ parsePairs n text = .error .slicePanic) := by
  induction n generalizing text with
  | zero =>
    rcases text with _ | ⟨c, text⟩
    · exact .inl ⟨.nil, _, rfl, by simp⟩
    · have := c.utf8Size_pos
      simp [String.ofList_cons] at hsize
      omega
  | succ n ih =>
    rcases text with _ | ⟨first, text⟩
    · simp at hsize
    by_cases htwo : first.utf8Size = 2
    · refine .inr (.inl ⟨.wide htwo, by simp [parsePairs, parsePair, htwo]; rfl, fun h => ?_⟩)
      simp [digit_plain (h first mem_cons_self)] at htwo
    by_cases hone : first.utf8Size = 1
    case neg =>
      refine .inr (.inr ⟨fun h => ?_, fun h => ?_, by simp [parsePairs, parsePair, htwo, hone]; rfl⟩)
      · exact hone (h.plain first mem_cons_self)
      · cases h with
        | wide size => exact htwo size
        | here hfirst => exact hone hfirst
        | later readable => exact hone (byteFromHex_plain readable).1
    rcases text with _ | ⟨second, text⟩
    · simp [String.ofList_cons, hone] at hsize
      omega
    by_cases hsecond : second.utf8Size = 1
    case neg =>
      refine .inr (.inr ⟨fun h => ?_, fun h => ?_, by simp [parsePairs, parsePair, hone, hsecond]; rfl⟩)
      · exact hsecond (h.plain second (by simp))
      · cases h with
        | wide size => exact htwo size
        | here _ hplain => exact hsecond hplain
        | later readable => exact hsecond (byteFromHex_plain readable).2
    rw [parsePairs]
    rcases hbyte : byteFromHex first second with _ | byte
    · have hpair : parsePair (first :: second :: text) = .error .invalidHex := by
        simp [parsePair, hone, hsecond, hbyte]
      refine .inr (.inl ⟨.here hone hsecond hbyte, by rw [hpair]; rfl, fun h => ?_⟩)
      obtain ⟨hhigh, hlow, -⟩ := by simpa only [forall_mem_cons] using h
      simpa [hbyte] using byteFromHex_isSome hhigh hlow
    have hpair : parsePair (first :: second :: text) = .ok (byte, text) := by
      simp [parsePair, hone, hsecond, hbyte]
    rw [hpair]
    have readable : (byteFromHex first second).isSome := by rw [hbyte]; rfl
    have hrest : (String.ofList text).utf8ByteSize = 2 * n := by
      simp only [String.ofList_cons, String.utf8ByteSize_append, String.utf8ByteSize_singleton,
        hone, hsecond] at hsize
      omega
    rcases ih hrest with ⟨hpairs, bytes, hbytes, htold⟩ | ⟨hstops, herror, hdigits⟩ |
      ⟨hpairs, hstops, hpanic⟩
    · refine .inl ⟨.cons readable hpairs, ⟨byte :: bytes.val, by simp [bytes.property]⟩, ?_, ?_⟩
      · simp only [bind, Except.bind, hbytes]
        rfl
      · intro hplus
        simp only [mem_cons, not_or] at hplus
        obtain ⟨hhigh, hlow, heq⟩ := byteFromHex_digits hbyte (Ne.symm hplus.1)
        obtain ⟨hdigits, hrest⟩ := htold hplus.2.2
        refine ⟨forall_mem_cons.mpr ⟨hhigh, forall_mem_cons.mpr ⟨hlow, hdigits⟩⟩, ?_⟩
        rw [flatMap_cons, heq, hrest]
        rfl
    · refine .inr (.inl ⟨.later readable hstops, by simp only [bind, Except.bind, herror], ?_⟩)
      exact fun h => hdigits fun c hc => h c (by simp [hc])
    · refine .inr (.inr ⟨fun h => ?_, fun h => ?_, by simp only [bind, Except.bind, hpanic]⟩)
      · cases h with
        | cons _ rest => exact hpairs rest
      · cases h with
        | wide size => exact htwo size
        | here _ _ unreadable => simp [hbyte] at unreadable
        | later _ rest => exact hstops rest

/-- Reading the text does not panic, accepts exactly 32 digits and writes them in lower case. -/
def ReadsAsTold (s : String) : Prop :=
  IncidentId.parse s ≠ .error .slicePanic ∧
  ((∃ id, IncidentId.parse s = .ok id) ↔ (s.toList.filter (· ≠ '-')).length = 32 ∧
    ∀ c ∈ s.toList.filter (· ≠ '-'), (hexValue c).isSome) ∧
  ∀ id, IncidentId.parse s = .ok id →
    id.toCanonicalString = hyphenated ((s.toList.filter (· ≠ '-')).map Char.toLower)

/-- Reading a text does not panic, accepts exactly 32 digits and writes them in lower case, exactly
when, should the text have 32 bytes, it is pairs without a plus sign, or pairs up to two bytes that
are no pair and cut no character. Every id is read back from the text it is written as. -/
theorem parse_spec_iff (s : String) :
    (ReadsAsTold s ↔ ((String.ofList (s.toList.filter (· ≠ '-'))).utf8ByteSize = 32 →
      Settled (s.toList.filter (· ≠ '-')))) ∧
    ∀ id, IncidentId.parse id.toCanonicalString = .ok id := by
  refine ⟨?_, parse_canonical⟩
  unfold ReadsAsTold IncidentId.parse
  dsimp only
  generalize s.toList.filter (· ≠ '-') = hex
  by_cases hsize : (String.ofList hex).utf8ByteSize = 32
  case neg =>
    have hdigits : ¬(hex.length = 32 ∧ ∀ c ∈ hex, (hexValue c).isSome) := by
      rintro ⟨hlen, hdigits⟩
      exact hsize ((utf8ByteSize_plain fun c hc => digit_plain (hdigits c hc)).trans hlen)
    simp [hsize, hdigits]
  rw [if_neg (not_not.mpr hsize)]
  simp only [hsize, forall_const]
  rcases parsePairs_cases (n := 16) hsize with ⟨hpairs, bytes, hbytes, htold⟩ |
    ⟨hstops, herror, hdigits⟩ | ⟨hpairs, hstops, hpanic⟩
  · rw [hbytes]
    have hlen : hex.length = 32 := by rw [← utf8ByteSize_plain hpairs.plain, hsize]
    constructor
    · rintro ⟨-, haccepts, -⟩
      refine .inl ⟨hpairs, fun hplus => ?_⟩
      exact absurd ((haccepts.mp ⟨_, rfl⟩).2 '+' hplus) (by decide)
    · rintro (⟨-, hplus⟩ | hstops)
      · obtain ⟨hdigits, heq⟩ := htold hplus
        refine ⟨by simp [bind, Except.bind, pure, Except.pure],
          ⟨fun _ => ⟨hlen, hdigits⟩, fun _ => ⟨_, rfl⟩⟩, fun id h => ?_⟩
        cases h
        rw [toCanonicalString_eq, heq]
      · exact absurd hstops hpairs.not_stops
  · rw [herror]
    simp [bind, Except.bind, hdigits, Settled, hstops]
  · rw [hpanic]
    simp [bind, Except.bind, Settled, hpairs, hstops]

/-- A sign before a pair that is none: the text is refused. -/
theorem parse_spec_iff_signed : ReadsAsTold "+fzz0000000000000000000000000000" := by
  exact (parse_spec_iff _).1.mpr fun _ => .inr (.later rfl (.here (by decide) (by decide) (by decide)))

/-- A character cut in two panics, and sixteen signed digits are an id. -/
theorem parse_accepts_and_panics :
    IncidentId.parse "aé00000000000000000000000000000" = .error .slicePanic ∧
    IncidentId.parse "+f+f+f+f+f+f+f+f+f+f+f+f+f+f+f+f" = .ok ⟨replicate 16 15, by decide⟩ := by
  decide +kernel

end Tidegard.Incident.Proofs.Identity
