import Tidegard.Common.HttpEndpoint
import Tidegard.Common.Proofs.Timestamps

namespace Tidegard.Common.Proofs.Endpoints

open List hiding after
open Fallible Text Rfc3339 HttpEndpoint Timestamps

theorem stripScheme_eq_some : stripScheme url = some (s, rest) ↔ url = s.start ++ rest := by
  cases hsecure : Scheme.https.start.isPrefixOf? url with
  | some more =>
    simp only [stripScheme, hsecure]
    rw [isPrefixOf?_eq_some_iff_append_eq] at hsecure
    subst hsecure
    -- no text starts with both schemes
    cases s <;> simp [Scheme.start]
  | none =>
    simp only [stripScheme, hsecure, Option.map_eq_some_iff, Prod.mk.injEq,
      isPrefixOf?_eq_some_iff_append_eq]
    cases s with
    | http => simp [eq_comm]
    | https =>
      refine ⟨by simp, fun h => ?_⟩
      rw [isPrefixOf?_eq_some_iff_append_eq.mpr h.symm] at hsecure
      cases hsecure

theorem authority_append (rest : List Char) :
    ∃ slash, (slash = [] ∨ slash = ['/']) ∧ rest = authority rest ++ slash := by
  unfold authority stripSuffix
  split
  · rename_i hends
    exact ⟨['/'], .inr rfl, (suffix_iff_eq_append.mp hends).symm⟩
  · exact ⟨[], .inl rfl, (append_nil _).symm⟩

theorem splitOnce_eq_some (h : splitOnce c text = some (before, after)) :
    text = before ++ c :: after ∧ c ∉ before := by
  induction text generalizing before with
  | nil => cases h
  | cons x text ih =>
    unfold splitOnce at h
    split at h
    · rename_i hx
      cases h
      exact ⟨by rw [hx, nil_append], not_mem_nil⟩
    · rename_i hx
      obtain ⟨⟨first, last⟩, hsplit, hpair⟩ := Option.map_eq_some_iff.mp h
      cases hpair
      obtain ⟨rfl, hfree⟩ := ih hsplit
      exact ⟨rfl, not_mem_cons_of_ne_of_not_mem (Ne.symm hx) hfree⟩

theorem rsplitOnce_eq_some (h : rsplitOnce c text = some (before, after)) :
    text = before ++ c :: after := by
  obtain ⟨⟨last, first⟩, hsplit, hpair⟩ := Option.map_eq_some_iff.mp h
  cases hpair
  rw [← reverse_reverse text, (splitOnce_eq_some hsplit).1]
  simp

theorem rsplitOnce_last (h : rsplitOnce c text = some (before, after)) : c ∉ after := by
  obtain ⟨⟨last, first⟩, hsplit, hpair⟩ := Option.map_eq_some_iff.mp h
  cases hpair
  simpa using (splitOnce_eq_some hsplit).2

theorem rsplitOnce_eq_none (h : rsplitOnce c text = none) : c ∉ text := by
  intro hmem
  obtain ⟨last, first, hwhole, hlast⟩ := eq_append_cons_of_mem (mem_reverse.mpr hmem)
  rw [rsplitOnce, hwhole, splitOnce_append _ hlast] at h
  cases h

/-- A text that spells a number: decimal digits, after a plus sign or without. -/
def Spells (text : List Char) (p : Nat) : Prop :=
  ∃ digits, (text = digits ∨ text = '+' :: digits) ∧ digits ≠ [] ∧
    digits.all Char.isDigit ∧ Nat.ofDigitChars 10 digits 0 = p

/-- The text after the host: the port, or nothing for the scheme's default. -/
def PortText (s : Scheme) (p : Nat) (text : List Char) : Prop :=
  text = [] ∧ p = s.defaultPort ∨ ∃ spelling, text = ':' :: spelling ∧ Spells spelling p

theorem parseUnsigned_eq_some (h : parseUnsigned limit (String.ofList text) = some p) :
    Spells text p ∧ p ≤ limit := by
  simp only [parseUnsigned, parseDigits, Option.ite_none_left_eq_some,
    Option.ite_none_right_eq_some, String.toList_ofList, Bool.or_eq_true, List.isEmpty_iff,
    Bool.not_eq_true', not_or, Bool.not_eq_false, Option.some.injEq] at h
  obtain ⟨⟨hsome, hall⟩, hfits, rfl⟩ := h
  refine ⟨⟨_, ?_, hsome, hall, rfl⟩, hfits⟩
  split
  · exact .inr rfl
  · exact .inl rfl

theorem parsePort_ok (h : parsePort s port = .ok p) :
    PortText s p (port.elim [] (':' :: ·)) ∧ 0 < p ∧ p ≤ 65535 := by
  cases port with
  | none =>
    cases h
    exact ⟨.inl ⟨rfl, rfl⟩, by cases s <;> decide⟩
  | some text =>
    unfold parsePort at h
    dsimp only at h
    split at h
    · rename_i port hport
      cases h
      obtain ⟨hport, hpos⟩ := Option.filter_eq_some_iff.mp hport
      obtain ⟨hspells, hfits⟩ := parseUnsigned_eq_some hport
      exact ⟨.inr ⟨text, rfl, hspells⟩, of_decide_eq_true hpos, hfits⟩
    · cases h

theorem parsePort_toDigits (hpos : 0 < p) (hfits : p ≤ 65535) :
    parsePort s (some (Nat.toDigits 10 p)) = .ok p := by
  have hread : parseUnsigned 65535 (String.ofList (Nat.toDigits 10 p)) = some p := by
    unfold parseUnsigned
    rw [String.toList_ofList]
    split
    · rename_i rest hplus
      exact absurd (isDigit_toDigits (hplus ▸ mem_cons_self)) (by decide)
    · have hall : (Nat.toDigits 10 p).all Char.isDigit := all_eq_true.mpr fun _ => isDigit_toDigits
      simp [hall, Nat.toDigits_ne_nil, parseDigits_toDigits hfits]
  unfold parsePort
  simp only [hread, Option.filter_some, hpos, decide_true, if_true]

/-- A host that is read back from `hostText`. -/
def Readable (host : List Char) : Prop :=
  if ':' ∈ host then ']' ∉ host else host.head? ≠ some '['

/-- An authority in which every character counts: brackets hold an address with a colon and end the
authority or stand before the port, and outside brackets there is one colon at most. -/
def Regular : List Char → Prop
  | '[' :: bracketed => ∀ host after, splitOnce ']' bracketed = some (host, after) →
      ':' ∈ host ∧ (after = [] ∨ ∃ port, after = ':' :: port)
  | authority => authority.count ':' ≤ 1

theorem hostAndPort_ok (h : hostAndPort text = .ok (host, port)) (regular : Regular text) :
    text = hostText host ++ port.elim [] (':' :: ·) ∧ Readable host := by
  unfold hostAndPort at h
  split at h
  · split at h
    · cases h
    · rename_i host after hsplit
      cases h
      obtain ⟨hcolon, hafter⟩ := regular _ _ hsplit
      obtain ⟨rfl, hfree⟩ := splitOnce_eq_some hsplit
      refine ⟨?_, by rw [Readable, if_pos hcolon]; exact hfree⟩
      obtain rfl | ⟨port, rfl⟩ := hafter <;> simp [hostText, hcolon, isPrefixOf?]
  · rename_i hplain
    have hone : text.count ':' ≤ 1 := by
      unfold Regular at regular
      split at regular
      · exact absurd rfl (hplain _)
      · exact regular
    have hhead : ∀ more, text = host ++ more → host.head? ≠ some '[' := by
      intro more hmore hhead
      obtain ⟨tail, rfl⟩ := head?_eq_some_iff.mp hhead
      exact hplain _ hmore
    split at h
    · rename_i hsplit
      cases h
      have hwhole := rsplitOnce_eq_some hsplit
      have hfree : ':' ∉ host := by
        rw [hwhole, count_append, count_cons_self] at hone
        exact count_eq_zero.mp (by omega)
      simp only [hostText, Readable, if_neg hfree]
      exact ⟨hwhole, hhead _ hwhole⟩
    · rename_i hsplit
      cases h
      simp only [hostText, Readable, if_neg (rsplitOnce_eq_none hsplit)]
      exact ⟨(append_nil _).symm, hhead [] (append_nil _).symm⟩

theorem hostAndPort_hostText (readable : Readable host) (hhost : host ≠ []) (hport : ':' ∉ port) :
    hostAndPort (hostText host ++ ':' :: port) = .ok (host, some port) := by
  unfold Readable at readable
  split at readable
  · rename_i hcolon
    simp [hostText, hcolon, hostAndPort, splitOnce_append _ readable, isPrefixOf?]
  · rename_i hcolon
    rw [hostText, if_neg hcolon]
    have hsplit : rsplitOnce ':' (host ++ ':' :: port) = some (host, port) := by
      rw [rsplitOnce, reverse_append, reverse_cons, append_assoc, singleton_append,
        splitOnce_append _ (by simpa using hport)]
      simp
    unfold hostAndPort
    split
    · rename_i bracketed hbracket
      obtain ⟨x, tail, rfl⟩ := exists_cons_of_ne_nil hhost
      cases hbracket
      exact absurd rfl readable
    · rw [hsplit]

theorem parseUrl_eq_ok : parseUrl url = .ok (s, h, p) ↔
    ∃ rest port, url.toList = s.start ++ rest ∧
      (∀ c ∈ authority rest, c ∉ ['/', '?', '#', '@']) ∧
      hostAndPort (authority rest) = .ok (h.toList, port) ∧ h.toList ≠ [] ∧
      parsePort s port = .ok p := by
  simp only [← stripScheme_eq_some]
  unfold parseUrl
  constructor
  · intro hparsed
    split at hparsed
    · cases hparsed
    · rename_i scheme rest hscheme
      split at hparsed
      · cases hparsed
      · rename_i hplain
        obtain ⟨⟨host, port⟩, hread, hparsed⟩ := bind_eq_ok.mp hparsed
        dsimp only at hparsed
        split at hparsed
        · cases hparsed
        · rename_i hhost
          obtain ⟨number, hport, hparsed⟩ := bind_eq_ok.mp hparsed
          cases hparsed
          refine ⟨rest, port, hscheme, ?_, by simpa using hread, by simpa using hhost, hport⟩
          simpa using hplain
  · rintro ⟨rest, port, hscheme, hplain, hread, hhost, hport⟩
    rw [hscheme]
    dsimp only
    rw [if_neg (by simpa using hplain), hread, ok_bind]
    dsimp only
    rw [if_neg (by simpa using hhost), hport, String.ofList_toList]
    rfl

theorem parseUrl_authorityUrl (readable : Readable h.toList) (hhost : h.toList ≠ [])
    (hplain : ∀ c ∈ hostText h.toList, c ∉ ['/', '?', '#', '@']) (hpos : 0 < p)
    (hfits : p ≤ 65535) : parseUrl (authorityUrl s h p) = .ok (s, h, p) := by
  have hdigits : ∀ c ∈ ':' :: Nat.toDigits 10 p, c ∉ ['/', '?', '#', '@'] := by
    intro c hc
    obtain rfl | hc := mem_cons.mp hc
    · decide
    · have := isDigit_toDigits hc
      rintro hspecial
      fin_cases hspecial <;> cases this
  have hall : ∀ c ∈ hostText h.toList ++ ':' :: Nat.toDigits 10 p, c ∉ ['/', '?', '#', '@'] :=
    fun c hc => (mem_append.mp hc).elim (hplain c) (hdigits c)
  have hauthority : authority (hostText h.toList ++ ':' :: Nat.toDigits 10 p) =
      hostText h.toList ++ ':' :: Nat.toDigits 10 p := by
    rw [authority, stripSuffix, if_neg]
    · rfl
    · intro hslash
      exact hall '/' (hslash.subset mem_cons_self) (by decide)
  rw [parseUrl_eq_ok]
  refine ⟨_, some (Nat.toDigits 10 p), by rw [authorityUrl, String.toList_ofList, append_assoc],
    ?_, ?_, hhost, parsePort_toDigits hpos hfits⟩
  · rw [hauthority]
    exact hall
  · rw [hauthority]
    refine hostAndPort_hostText readable hhost fun hcolon => ?_
    exact absurd (isDigit_toDigits hcolon) (by decide)

/-- The text is the scheme, the host, the port and at most one slash, and nothing else. -/
def Covers (url : String) (s : Scheme) (h : String) (p : Nat) : Prop :=
  ∃ port slash, url.toList = s.start ++ hostText h.toList ++ port ++ slash ∧ PortText s p port ∧
    (slash = [] ∨ slash = ['/'])

theorem covers_of_regular (accepted : parseUrl url = .ok (s, h, p))
    (hurl : url.toList = s.start ++ rest) (regular : Regular (authority rest)) :
    Covers url s h p ∧ parseUrl (authorityUrl s h p) = .ok (s, h, p) := by
  obtain ⟨rest', port, hurl', hplain, hread, hhost, hport⟩ := parseUrl_eq_ok.mp accepted
  obtain rfl := append_cancel_left (hurl.symm.trans hurl')
  obtain ⟨hwhole, readable⟩ := hostAndPort_ok hread regular
  obtain ⟨hspelled, hpos, hfits⟩ := parsePort_ok hport
  obtain ⟨slash, hslash, hrest⟩ := authority_append rest
  refine ⟨⟨_, slash, ?_, hspelled, hslash⟩, parseUrl_authorityUrl readable hhost ?_ hpos hfits⟩
  · rw [hurl, hrest, hwhole]
    simp only [append_assoc]
  · intro c hc
    exact hplain c (by rw [hwhole]; exact mem_append_left _ hc)

theorem bracket_not_mem (hport : PortText s p port) (hslash : slash = [] ∨ slash = ['/']) :
    ']' ∉ port ++ slash := by
  have hdigits {digits : List Char} (hall : digits.all Char.isDigit) : ']' ∉ digits :=
    fun h => absurd (all_eq_true.mp hall _ h) (by decide)
  rcases hport with ⟨rfl, -⟩ | ⟨spelling, rfl, digits, rfl | rfl, -, hall, -⟩ <;>
    rcases hslash with rfl | rfl <;> simp_all

theorem regular_of_covers (accepted : parseUrl url = .ok (s, h, p)) (covers : Covers url s h p)
    (hurl : url.toList = s.start ++ rest) : Regular (authority rest) := by
  obtain ⟨rest', port, hurl', hplain, hread, -, -⟩ := parseUrl_eq_ok.mp accepted
  obtain rfl := append_cancel_left (hurl.symm.trans hurl')
  obtain ⟨text, slash, hwhole, htext, hslash⟩ := covers
  obtain ⟨slash', -, hrest⟩ := authority_append rest
  rw [hurl, append_assoc, append_assoc, append_cancel_left_eq, hrest] at hwhole
  generalize authority rest = whole at *
  unfold Regular
  split
  · rename_i bracketed
    intro host after hsplit
    obtain ⟨rfl, hfree⟩ := splitOnce_eq_some hsplit
    simp only [hostAndPort, hsplit, Except.ok.injEq, Prod.mk.injEq] at hread
    obtain ⟨rfl, -⟩ := hread
    by_cases hcolon : ':' ∈ h.toList
    · refine ⟨hcolon, ?_⟩
      simp only [hostText, if_pos hcolon, cons_append, append_assoc, cons.injEq, true_and,
        append_cancel_left_eq, nil_append] at hwhole
      -- what stands after the bracket is the port, for the authority has no slash
      rcases htext with ⟨rfl, -⟩ | ⟨spelling, rfl, -⟩
      · rcases after with _ | ⟨x, after⟩
        · exact .inl rfl
        · rcases hslash with rfl | rfl
          · cases hwhole
          · obtain rfl := (cons.inj hwhole).1
            exact absurd (by decide : '/' ∈ ['/', '?', '#', '@']) (hplain '/' (by simp))
      · rcases after with _ | ⟨x, after⟩
        · exact .inl rfl
        · obtain rfl := (cons.inj hwhole).1
          exact .inr ⟨_, rfl⟩
    · rw [hostText, if_neg hcolon] at hwhole
      have hbracket : ']' ∈ h.toList ++ (text ++ slash) := by
        rw [← hwhole]
        simp
      exact absurd hbracket (by
        rw [mem_append, not_or]
        exact ⟨hfree, bracket_not_mem htext hslash⟩)
  · rename_i hno
    by_contra hmany
    have hcolon : ':' ∈ h.toList := by
      unfold hostAndPort at hread
      split at hread
      · exact absurd rfl (hno _)
      · split at hread
        · rename_i host port hsplit
          cases hread
          have hfree := rsplitOnce_last hsplit
          rw [rsplitOnce_eq_some hsplit, count_append, count_cons_self,
            count_eq_zero.mpr hfree] at hmany
          exact count_pos_iff.mp (by omega)
        · rename_i hsplit
          rw [count_eq_zero.mpr (rsplitOnce_eq_none hsplit)] at hmany
          omega
    rw [hostText, if_pos hcolon] at hwhole
    rcases whole with _ | ⟨x, whole⟩
    · simp at hmany
    · obtain rfl := (cons.inj hwhole).1
      exact hno _ rfl

/-- Of a URL that is accepted no part is ignored, and the URL written from what was read is read as
the same, exactly when its authority is regular. -/
theorem parseUrl_covers_iff (accepted : parseUrl url = .ok (s, h, p)) :
    (Covers url s h p ∧ parseUrl (authorityUrl s h p) = .ok (s, h, p)) ↔
      ∀ rest, url.toList = s.start ++ rest → Regular (authority rest) := by
  obtain ⟨rest, port, hurl, -⟩ := parseUrl_eq_ok.mp accepted
  refine ⟨fun covers rest hrest => regular_of_covers accepted covers.1 hrest, fun regular => ?_⟩
  exact covers_of_regular accepted hurl (regular rest hurl)

/-- An address in brackets before its port and a slash. -/
theorem parseUrl_covers_iff_bracketed : Covers "http://[::1]:9000/" .http "::1" 9000 ∧
    parseUrl (authorityUrl .http "::1" 9000) = .ok (.http, "::1", 9000) := by
  have accepted : parseUrl "http://[::1]:9000/" = .ok (.http, "::1", 9000) := by decide
  refine (parseUrl_covers_iff accepted).mpr fun rest hrest => ?_
  obtain rfl : "[::1]:9000/".toList = rest := by simpa [Scheme.start] using hrest
  intro host after hsplit
  cases hsplit
  exact ⟨by decide, .inr ⟨_, rfl⟩⟩

/-- What stands between a closing bracket and the end is ignored when it is no port, and a host with
a colon may hold a bracket of its own: it is read back only up to that. -/
theorem parseUrl_ignores : parseUrl "http://[::1]x9000" = .ok (.http, "::1", 8123) ∧
    ¬ Covers "http://[::1]x9000" .http "::1" 8123 ∧
    parseUrl "http://a]b:c:80" = .ok (.http, "a]b:c", 80) ∧
    parseUrl (authorityUrl .http "a]b:c" 80) = .ok (.http, "a", 8123) := by
  refine ⟨by decide, ?_, by decide, by decide⟩
  rintro ⟨port, slash, htext, hport, hslash⟩
  have hrest : "x9000".toList = port ++ slash := by simpa [Scheme.start, hostText] using htext
  obtain ⟨rfl, -⟩ | ⟨spelling, rfl, -⟩ := hport
  · obtain rfl | rfl := hslash <;> cases hrest
  · cases hrest

end Tidegard.Common.Proofs.Endpoints
