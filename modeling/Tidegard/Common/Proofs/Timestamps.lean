import Tidegard.Common.Proofs.Civil

namespace Tidegard.Common.Proofs.Timestamps

open List Rfc3339 Civil Gregorian Fallible

variable {text : List Char} {y : Nat} {n micros m fraction : Int} {c : Char} {f : Fields}
variable {d : Nat} {h : Int}

/-- A part of exactly so many digits. -/
def Digits (width : Nat) (part : List Char) : Prop := part.length = width ∧ part.all Char.isDigit

theorem number_eq_some (h : number part width = some n) :
    Digits width part ∧ n = Nat.ofDigitChars 10 part 0 := by
  unfold number at h
  split at h
  · rename_i hdigits
    exact ⟨hdigits, (Option.some.inj h).symm⟩
  · cases h

theorem digit_lt (h : c.isDigit = true) : c.toNat - '0'.toNat < 10 := by
  simp only [Char.isDigit, Bool.and_eq_true, decide_eq_true_eq] at h
  have hnine : c.toNat ≤ '9'.toNat := h.2
  have : '9'.toNat - '0'.toNat = 9 := rfl
  omega

theorem ofDigitChars_lt (h : part.all Char.isDigit) :
    Nat.ofDigitChars 10 part 0 < 10 ^ part.length := by
  induction part using List.reverseRecOn with
  | nil => simp
  | append_singleton part c ih =>
    rw [all_append, Bool.and_eq_true] at h
    have hc : c.isDigit = true := by simpa using h.2
    have hlast := digit_lt hc
    have hbefore := ih h.1
    rw [Nat.ofDigitChars_append, Nat.ofDigitChars_cons, Nat.ofDigitChars_nil, length_append,
      length_singleton, pow_succ]
    omega

theorem number_range (h : number part width = some n) : 0 ≤ n ∧ n < 10 ^ width := by
  obtain ⟨⟨hlen, hall⟩, rfl⟩ := number_eq_some h
  have hlt := ofDigitChars_lt hall
  rw [hlen] at hlt
  exact ⟨Int.natCast_nonneg _, by exact_mod_cast hlt⟩

theorem ofDigitChars_zeros (k : Nat) (l : List Char) :
    Nat.ofDigitChars 10 (List.replicate k '0' ++ l) 0 = Nat.ofDigitChars 10 l 0 := by
  induction k with
  | zero => simp
  | succ k ih =>
    rw [replicate_succ, cons_append, Nat.ofDigitChars_cons]
    exact ih

theorem padded_digits (hw : 0 < width) (hn : 0 ≤ n ∧ n < 10 ^ width) :
    Digits width (padded width n) := by
  obtain ⟨k, rfl⟩ := Int.eq_ofNat_of_zero_le hn.1
  have hk : k < 10 ^ width := by exact_mod_cast hn.2
  unfold padded
  rw [if_neg (by omega), Int.natAbs_natCast]
  constructor
  · rw [length_leftpad]
    have hlen : (Nat.toDigits 10 k).length ≤ width :=
      (Nat.length_toDigits_le_iff (by decide) hw).mpr hk
    omega
  · rw [all_eq_true]
    intro c hc
    rw [List.leftpad, mem_append] at hc
    rcases hc with hzero | hdigit
    · rw [eq_of_mem_replicate hzero]
      rfl
    · exact Nat.isDigit_of_mem_toDigits (by decide) (by decide) hdigit

theorem number_padded (hw : 0 < width) (hn : 0 ≤ n ∧ n < 10 ^ width) :
    number (padded width n) width = some n := by
  have hdigits := padded_digits hw hn
  unfold number
  rw [if_pos (show _ ∧ _ from hdigits)]
  obtain ⟨k, rfl⟩ := Int.eq_ofNat_of_zero_le hn.1
  unfold padded
  rw [if_neg (by omega), Int.natAbs_natCast, List.leftpad, ofDigitChars_zeros,
    Nat.ofDigitChars_ten_toDigits]

theorem Digits.notMem (h : Digits width part) (hc : c.isDigit = false) : c ∉ part := by
  intro hmem
  have := List.all_eq_true.mp h.2 c hmem
  rw [hc] at this
  cases this

theorem splitOnce_append (after : List Char) (h : c ∉ before) :
    splitOnce c (before ++ c :: after) = some (before, after) := by
  induction before with
  | nil => simp [splitOnce]
  | cons x before ih =>
    rw [mem_cons, not_or] at h
    rw [cons_append, splitOnce, if_neg (Ne.symm h.1), ih h.2]
    rfl

theorem splitOnce_none (h : c ∉ text) : splitOnce c text = none := by
  induction text with
  | nil => rfl
  | cons x text ih =>
    rw [mem_cons, not_or] at h
    rw [splitOnce, if_neg (Ne.symm h.1), ih h.2]
    rfl

theorem split_self (h : c ∉ text) : split c text = [text] := by
  induction text with
  | nil => rfl
  | cons x text ih =>
    rw [mem_cons, not_or] at h
    rw [split, if_neg (Ne.symm h.1), ih h.2]

theorem split_append (after : List Char) (h : c ∉ before) :
    split c (before ++ c :: after) = before :: split c after := by
  induction before with
  | nil => simp [split]
  | cons x before ih =>
    rw [mem_cons, not_or] at h
    rw [cons_append, split, if_neg (Ne.symm h.1), ih h.2]

theorem split_three (h1 : c ∉ first) (h2 : c ∉ second)
    (h3 : c ∉ third) : split c (first ++ c :: (second ++ c :: third)) = [first, second, third] := by
  rw [split_append _ h1, split_append _ h2, split_self h3]

theorem stripSuffix_append (ending text : List Char) :
    stripSuffix ending (text ++ ending) = some text := by
  unfold stripSuffix
  rw [if_pos (suffix_append _ _)]
  simp

/-- The ranges the numbers of a text lie in. -/
structure Bounded (f : Fields) : Prop where
  year : 0 ≤ f.year ∧ f.year < 10 ^ 4
  month : 0 ≤ f.month ∧ f.month < 10 ^ 2
  day : 0 ≤ f.day ∧ f.day < 10 ^ 2
  hour : 0 ≤ f.hour ∧ f.hour ≤ 23
  minute : 0 ≤ f.minute ∧ f.minute ≤ 59
  second : 0 ≤ f.second ∧ f.second ≤ 59
  fraction : ∀ n k, f.fraction = some (n, k) → 1 ≤ k ∧ k ≤ 6 ∧ 0 ≤ n ∧ n < 10 ^ k

theorem parseDate_range (h : parseDate date = some (year, month, day)) :
    (0 ≤ year ∧ year < 10 ^ 4) ∧ (0 ≤ month ∧ month < 10 ^ 2) ∧ (0 ≤ day ∧ day < 10 ^ 2) := by
  unfold parseDate at h
  split at h
  · simp only [Option.bind_eq_bind, Option.bind_eq_some_iff, Option.pure_def, Option.some.injEq,
      Prod.mk.injEq] at h
    obtain ⟨_, hyear, _, hmonth, _, hday, rfl, rfl, rfl⟩ := h
    exact ⟨number_range hyear, number_range hmonth, number_range hday⟩
  · cases h

theorem parseClock_range (h : parseClock clock = some (hour, minute, second)) :
    (0 ≤ hour ∧ hour ≤ 23) ∧ (0 ≤ minute ∧ minute ≤ 59) ∧ (0 ≤ second ∧ second ≤ 59) := by
  unfold parseClock at h
  split at h
  · simp only [Option.bind_eq_bind, Option.bind_eq_some_iff] at h
    obtain ⟨hour', hhour, minute', hminute, second', hsecond, hin⟩ := h
    split at hin
    · cases hin
    · rename_i hsmall
      obtain ⟨rfl, rfl, rfl⟩ : hour' = hour ∧ minute' = minute ∧ second' = second := by
        simpa using hin
      have := number_range hhour
      have := number_range hminute
      have := number_range hsecond
      omega
  · cases h

theorem parseFraction_range {digits : Option (List Char)} {fraction : Option (Int × Nat)}
    (h : parseFraction digits = some fraction) :
    ∀ n k, fraction = some (n, k) → 1 ≤ k ∧ k ≤ 6 ∧ 0 ≤ n ∧ n < 10 ^ k := by
  rintro n k rfl
  cases digits with
  | none => cases h
  | some digits =>
    rw [parseFraction] at h
    split at h
    · rename_i hlen
      obtain ⟨value, hvalue, hpair⟩ := Option.map_eq_some_iff.mp h
      obtain ⟨rfl, rfl⟩ : value = n ∧ digits.length = k := by simpa using hpair
      exact ⟨hlen.1, hlen.2, number_range hvalue⟩
    · cases h

theorem parseFields_bounded (h : parseFields text = some f) : Bounded f := by
  unfold parseFields at h
  simp only [Option.bind_eq_bind, Option.bind_eq_some_iff, Option.pure_def, Option.some.injEq] at h
  obtain ⟨_, -, ⟨_, _⟩, -, ⟨_, _, _⟩, hdate, ⟨_, _, _⟩, hclock, _, hfraction, rfl⟩ := h
  obtain ⟨hyear, hmonth, hday⟩ := parseDate_range hdate
  obtain ⟨hhour, hminute, hsecond⟩ := parseClock_range hclock
  exact ⟨hyear, hmonth, hday, hhour, hminute, hsecond, parseFraction_range hfraction⟩

theorem fractionMicros_ok (hf : Bounded f) :
    ∃ micros, fractionMicros f.fraction = .ok micros ∧ 0 ≤ micros ∧ micros < 1000000 := by
  cases hfraction : f.fraction with
  | none => exact ⟨0, rfl, le_rfl, by decide⟩
  | some pair =>
    obtain ⟨n, k⟩ := pair
    obtain ⟨hlow, hhigh, hn, hlt⟩ := hf.fraction n k hfraction
    have hrange : 0 ≤ n * 10 ^ (6 - k) ∧ n * 10 ^ (6 - k) < 1000000 := by
      interval_cases k <;> omega
    exact ⟨_, checked_ok (by omega) (by omega), hrange⟩

/-- The microseconds from the epoch to a time of a day. -/
def instantAt (day : Nat) (hour minute second micros : Int) : Int :=
  ((((day : Int) - 719528) * 86400 + hour * 3600 + minute * 60 + second) * 1000000) + micros

theorem parse_of_dayExists {text : String} (h : parseFields text.toList = some f) {m : Nat}
    (hy : f.year = y) (hm : f.month = m) (hd : f.day = d)
    (hmicros : fractionMicros f.fraction = .ok micros) (hday : DayExists y m d) :
    parseRfc3339 text
      = .ok (some (instantAt (dayNumber y m d) f.hour f.minute f.second micros)) := by
  have hf := parseFields_bounded h
  have hyear : y ≤ 9999 := by
    have := hf.year
    omega
  have hmonth := month_of_dayExists hday
  obtain ⟨micros', hmicros', hlow, hhigh⟩ := fractionMicros_ok hf
  obtain rfl : micros' = micros := Except.ok.inj (hmicros'.symm.trans hmicros)
  have hvalid : ¬(¬(1 ≤ f.month ∧ f.month ≤ 12) ∨ f.day < 1 ∨ f.day > daysInMonth f.year f.month) := by
    rw [hy, hm, hd, daysInMonth_eq hmonth]
    have := hday.1
    have := hday.2
    omega
  have hnumber : dayNumber y m d < 3652425 := by
    have hnext := dayNumber_lt hday
    have hmono := daysBeforeYear_mono (show y + 1 ≤ 10000 by omega)
    have hcount := daysBeforeYear_eq 10000
    omega
  have hhour := hf.hour
  have hminute := hf.minute
  have hsecond := hf.second
  unfold parseRfc3339 instantAt
  rw [h]
  dsimp only
  rw [hmicros, ok_bind, if_neg hvalid, hy, hm, hd, daysFromCivil_ok hyear hday, ok_bind]
  generalize dayNumber y m d = day at hnumber ⊢
  iterate 8 rw [checked_bind (by omega) (by omega)]
  rfl

theorem parse_of_not_dayExists {text : String} (h : parseFields text.toList = some f) {m : Nat}
    (hy : f.year = y) (hm : f.month = m) (hd : f.day = d) (hday : ¬ DayExists y m d) :
    parseRfc3339 text = .ok none := by
  obtain ⟨micros, hmicros, -⟩ := fractionMicros_ok (parseFields_bounded h)
  have hinvalid : ¬(1 ≤ f.month ∧ f.month ≤ 12) ∨ f.day < 1 ∨ f.day > daysInMonth f.year f.month := by
    by_cases hmonth : 1 ≤ m ∧ m ≤ 12
    · right
      rw [hy, hm, hd, daysInMonth_eq hmonth]
      unfold DayExists at hday
      omega
    · left
      omega
  unfold parseRfc3339
  rw [h]
  dsimp only
  rw [hmicros, ok_bind, if_pos hinvalid]
  rfl

/-- A text is accepted exactly for a day that exists, and stands for that day. -/
theorem parse_cases (text : String) :
    parseRfc3339 text = .ok none ∨
      ∃ f micros, ∃ y m d : Nat, parseFields text.toList = some f ∧
        (f.year = y ∧ f.month = m ∧ f.day = d) ∧ y ≤ 9999 ∧ DayExists y m d ∧
        (0 ≤ micros ∧ micros < 1000000) ∧
        parseRfc3339 text
          = .ok (some (instantAt (dayNumber y m d) f.hour f.minute f.second micros)) := by
  cases h : parseFields text.toList with
  | none =>
    left
    unfold parseRfc3339
    rw [h]
  | some f =>
    have hf := parseFields_bounded h
    have hyear := hf.year
    obtain ⟨y, hy⟩ := Int.eq_ofNat_of_zero_le hf.year.1
    obtain ⟨m, hm⟩ := Int.eq_ofNat_of_zero_le hf.month.1
    obtain ⟨d, hd⟩ := Int.eq_ofNat_of_zero_le hf.day.1
    obtain ⟨micros, hmicros, hrange⟩ := fractionMicros_ok hf
    by_cases hday : DayExists y m d
    · right
      exact ⟨f, micros, y, m, d, rfl, ⟨hy, hm, hd⟩, by omega, hday, hrange,
        parse_of_dayExists h hy hm hd hmicros hday⟩
    · left
      exact parse_of_not_dayExists h hy hm hd hday

theorem dateText_notMem {y d : Int} (hy : 0 ≤ y ∧ y < 10 ^ 4) (hm : 0 ≤ m ∧ m < 10 ^ 2)
    (hd : 0 ≤ d ∧ d < 10 ^ 2) : 'T' ∉ dateText y m d := by
  have hyear := (padded_digits (by decide) hy).notMem (show 'T'.isDigit = false from rfl)
  have hmonth := (padded_digits (by decide) hm).notMem (show 'T'.isDigit = false from rfl)
  have hday := (padded_digits (by decide) hd).notMem (show 'T'.isDigit = false from rfl)
  simp [dateText, hyear, hmonth, hday]

theorem clockText_notMem (hh : 0 ≤ h ∧ h < 10 ^ 2) (hm : 0 ≤ m ∧ m < 10 ^ 2)
    (hs : 0 ≤ s ∧ s < 10 ^ 2) : '.' ∉ clockText h m s := by
  have hhour := (padded_digits (by decide) hh).notMem (show '.'.isDigit = false from rfl)
  have hminute := (padded_digits (by decide) hm).notMem (show '.'.isDigit = false from rfl)
  have hsecond := (padded_digits (by decide) hs).notMem (show '.'.isDigit = false from rfl)
  simp [clockText, hhour, hminute, hsecond]

theorem parseDate_dateText {y d : Int} (hy : 0 ≤ y ∧ y < 10 ^ 4) (hm : 0 ≤ m ∧ m < 10 ^ 2)
    (hd : 0 ≤ d ∧ d < 10 ^ 2) : parseDate (dateText y m d) = some (y, m, d) := by
  have hdash : '-'.isDigit = false := rfl
  unfold parseDate dateText
  rw [split_three ((padded_digits (by decide) hy).notMem hdash)
    ((padded_digits (by decide) hm).notMem hdash) ((padded_digits (by decide) hd).notMem hdash)]
  dsimp only
  rw [number_padded (by decide) hy, number_padded (by decide) hm, number_padded (by decide) hd]
  rfl

theorem parseClock_clockText (hh : 0 ≤ h ∧ h ≤ 23) (hm : 0 ≤ m ∧ m ≤ 59) (hs : 0 ≤ s ∧ s ≤ 59) :
    parseClock (clockText h m s) = some (h, m, s) := by
  have hcolon : ':'.isDigit = false := rfl
  have hh' : 0 ≤ h ∧ h < 10 ^ 2 := by omega
  have hm' : 0 ≤ m ∧ m < 10 ^ 2 := by omega
  have hs' : 0 ≤ s ∧ s < 10 ^ 2 := by omega
  have hsmall : ¬(h > 23 ∨ m > 59 ∨ s > 59) := by omega
  unfold parseClock clockText
  rw [split_three ((padded_digits (by decide) hh').notMem hcolon)
    ((padded_digits (by decide) hm').notMem hcolon)
    ((padded_digits (by decide) hs').notMem hcolon)]
  dsimp only
  rw [number_padded (by decide) hh', number_padded (by decide) hm', number_padded (by decide) hs']
  simp only [Option.bind_eq_bind, Option.bind_some]
  rw [if_neg hsmall]
  rfl

theorem parseFraction_padded (h : 0 ≤ fraction ∧ fraction < 10 ^ 6) :
    parseFraction (some (padded 6 fraction)) = some (some (fraction, 6)) := by
  have hlen : (padded 6 fraction).length = 6 := (padded_digits (by decide) h).1
  rw [parseFraction, hlen, if_pos (by decide), number_padded (by decide) h]
  rfl

theorem parseFields_rendered (hf : Bounded f) (hfraction : 0 ≤ fraction ∧ fraction < 10 ^ 6)
    (hspelt : f.fraction = if fraction = 0 then none else some (fraction, 6)) :
    parseFields (dateText f.year f.month f.day ++ 'T' ::
      timeText f.hour f.minute f.second fraction ++ ['Z']) = some f := by
  have hdot : '.' ∉ clockText f.hour f.minute f.second := by
    have hhour := hf.hour
    have hminute := hf.minute
    have hsecond := hf.second
    exact clockText_notMem (by omega) (by omega) (by omega)
  unfold parseFields
  rw [stripSuffix_append]
  simp only [Option.orElse_eq_orElse, Option.orElse_eq_or, Option.some_or, Option.bind_eq_bind,
    Option.bind_some]
  rw [splitOnce_append _ (dateText_notMem hf.year hf.month hf.day)]
  simp only [Option.bind_some]
  rw [parseDate_dateText hf.year hf.month hf.day]
  simp only [Option.bind_some]
  unfold timeText
  by_cases hwhole : fraction = 0
  · rw [if_pos hwhole] at hspelt ⊢
    rw [splitOnce_none hdot]
    dsimp only
    rw [parseClock_clockText hf.hour hf.minute hf.second, parseFraction, ← hspelt]
    rfl
  · rw [if_neg hwhole] at hspelt ⊢
    rw [splitOnce_append _ hdot]
    dsimp only
    rw [parseClock_clockText hf.hour hf.minute hf.second, parseFraction_padded hfraction, ← hspelt]
    rfl

theorem rfc3339_ok (h : Fits micros) :
    ∃ y m d hour minute second fraction : Int,
      rfc3339 micros = .ok (String.ofList
        (dateText y m d ++ 'T' :: timeText hour minute second fraction ++ ['Z'])) ∧
      Stands (micros / 86400000000) y m d ∧
      (0 ≤ hour ∧ hour ≤ 23) ∧ (0 ≤ minute ∧ minute ≤ 59) ∧ (0 ≤ second ∧ second ≤ 59) ∧
      (0 ≤ fraction ∧ fraction < 1000000) ∧
      micros = ((micros / 86400000000 * 86400 + hour * 3600 + minute * 60 + second) * 1000000)
        + fraction := by
  obtain ⟨hlow, hhigh⟩ := h
  have hdays : micros / 1000000 / 86400 = micros / 86400000000 := by omega
  have hfrom : -2 ^ 62 ≤ micros / 86400000000 := by omega
  obtain ⟨y, m, d, hcivil, hstands⟩ := civilFromDays_ok hfrom (by omega)
  have hofDay : 0 ≤ micros / 1000000 % 86400 := by omega
  have hhour : (micros / 1000000 % 86400).tdiv 3600 = micros / 1000000 % 86400 / 3600 :=
    Int.tdiv_eq_ediv_of_nonneg hofDay
  have hminute : ((micros / 1000000 % 86400).tmod 3600).tdiv 60
      = micros / 1000000 % 86400 % 3600 / 60 := by
    rw [Int.tmod_eq_emod_of_nonneg hofDay, Int.tdiv_eq_ediv_of_nonneg (by omega)]
  have hsecond : (micros / 1000000 % 86400).tmod 60 = micros / 1000000 % 86400 % 60 :=
    Int.tmod_eq_emod_of_nonneg hofDay
  refine ⟨y, m, d, micros / 1000000 % 86400 / 3600, micros / 1000000 % 86400 % 3600 / 60,
    micros / 1000000 % 86400 % 60, micros % 1000000, ?_, hstands, by omega, by omega, by omega,
    by omega, by omega⟩
  unfold rfc3339
  dsimp only
  rw [hdays, hcivil, ok_bind, hhour, hminute, hsecond]
  rfl

/-- Digits of fixed widths, and a fraction only where the second is not whole. -/
def Canonical (text : List Char) : Prop :=
  ∃ year month day hour minute second rest,
    text = year ++ '-' :: (month ++ '-' :: day) ++ 'T' ::
      (hour ++ ':' :: (minute ++ ':' :: second)) ++ rest ++ ['Z'] ∧
    Digits 4 year ∧ Digits 2 month ∧ Digits 2 day ∧ Digits 2 hour ∧ Digits 2 minute ∧
    Digits 2 second ∧
    (rest = [] ∨ ∃ six, rest = '.' :: six ∧ Digits 6 six ∧ Nat.ofDigitChars 10 six 0 ≠ 0)

def dayOf (micros : Int) : Int := micros / 86400000000 + dayNumber 1970 1 1

def InYear (y : Nat) (micros : Int) : Prop :=
  daysBeforeYear y ≤ dayOf micros ∧ dayOf micros < daysBeforeYear (y + 1)

theorem epoch_eq : dayNumber 1970 1 1 = 719528 := by
  have hcount := daysBeforeYear_eq 1970
  have hsum : dayNumber 1970 1 1 = daysBeforeYear 1970 := by
    simp [dayNumber, daysBeforeMonth]
  omega

theorem canonical_rendered (hf : Bounded f) (hfraction : 0 ≤ fraction ∧ fraction < 10 ^ 6) :
    Canonical (dateText f.year f.month f.day ++ 'T' ::
      timeText f.hour f.minute f.second fraction ++ ['Z']) := by
  have hhour := hf.hour
  have hminute := hf.minute
  have hsecond := hf.second
  refine ⟨padded 4 f.year, padded 2 f.month, padded 2 f.day, padded 2 f.hour, padded 2 f.minute,
    padded 2 f.second, if fraction = 0 then [] else '.' :: padded 6 fraction, ?_,
    padded_digits (by decide) hf.year, padded_digits (by decide) hf.month,
    padded_digits (by decide) hf.day, padded_digits (by decide) (by omega),
    padded_digits (by decide) (by omega), padded_digits (by decide) (by omega), ?_⟩
  · unfold dateText timeText clockText
    split <;> simp
  · by_cases hwhole : fraction = 0
    · rw [if_pos hwhole]
      exact .inl rfl
    · rw [if_neg hwhole]
      obtain ⟨-, hvalue⟩ := number_eq_some (number_padded (by decide) hfraction)
      refine .inr ⟨_, rfl, padded_digits (by decide) hfraction, ?_⟩
      intro hzero
      rw [hzero] at hvalue
      exact hwhole hvalue

theorem inYear_range (h : InYear y micros) (hy : y ≤ 9999) :
    0 ≤ micros / 86400000000 + 719528 ∧ micros / 86400000000 + 719528 < 3652425 := by
  obtain ⟨hlow, hhigh⟩ := h
  unfold dayOf at hlow hhigh
  rw [epoch_eq] at hlow hhigh
  have hmono := daysBeforeYear_mono (show y + 1 ≤ 10000 by omega)
  have hcount := daysBeforeYear_eq 10000
  omega

theorem parse_rendered (hlow : 0 ≤ micros / 86400000000 + 719528)
    (hhigh : micros / 86400000000 + 719528 < 3652425) :
    ∃ text, rfc3339 micros = .ok text ∧ Canonical text.toList ∧
      parseRfc3339 text = .ok (some micros) := by
  have hfits : Fits micros := ⟨by omega, by omega⟩
  obtain ⟨year, m, d, hour, minute, second, fraction, htext, hstands, hhour, hminute, hsecond,
    hfraction, hmicros⟩ := rfc3339_ok hfits
  obtain ⟨hm, hd, hcounted, hbefore⟩ := hstands
  have hyear : 0 ≤ year := by
    by_contra hneg
    have := hbefore (by omega)
    omega
  obtain ⟨y, rfl⟩ := Int.eq_ofNat_of_zero_le hyear
  obtain ⟨hday, hnumber⟩ := hcounted y rfl
  -- A year past 9999 would start after the day.
  have hy : y ≤ 9999 := by
    by_contra hlate
    have hmono := daysBeforeYear_mono (show 10000 ≤ y by omega)
    have hcount := daysBeforeYear_eq 10000
    unfold dayNumber at hnumber
    omega
  obtain ⟨f, hf⟩ : ∃ f : Fields, f = ⟨y, m, d, hour, minute, second,
    if fraction = 0 then none else some (fraction, 6)⟩ := ⟨_, rfl⟩
  have hyear' : 0 ≤ (y : Int) ∧ (y : Int) < 10 ^ 4 := by omega
  have hm' : 0 ≤ m ∧ m < 10 ^ 2 := by omega
  have hd' : 0 ≤ d ∧ d < 10 ^ 2 := by omega
  have hbounded : Bounded f := by
    subst hf
    refine ⟨hyear', hm', hd', hhour, hminute, hsecond, ?_⟩
    intro n k hsome
    dsimp only at hsome
    split at hsome
    · cases hsome
    · cases hsome
      exact ⟨by decide, by decide, hfraction.1, by omega⟩
  have hspelt : f.fraction = if fraction = 0 then none else some (fraction, 6) := by rw [hf]
  have hread := parseFields_rendered hbounded (by omega) hspelt
  have hcanonical := canonical_rendered hbounded (show 0 ≤ fraction ∧ fraction < 10 ^ 6 by omega)
  have hpart : fractionMicros f.fraction = .ok fraction := by
    rw [hspelt]
    by_cases hwhole : fraction = 0
    · rw [if_pos hwhole, hwhole]
      rfl
    · rw [if_neg hwhole]
      change checked (fraction * 1) = _
      rw [mul_one, checked_ok (by omega) (by omega)]
  have hinstant : instantAt (dayNumber y m.toNat d.toNat) hour minute second fraction = micros := by
    unfold instantAt
    omega
  rw [← String.toList_ofList (l := dateText f.year f.month f.day ++ 'T' ::
      timeText f.hour f.minute f.second fraction ++ ['Z'])] at hread hcanonical
  have hparse := parse_of_dayExists hread (show f.year = y by rw [hf])
    (show f.month = (m.toNat : Int) by rw [hf]; dsimp only; omega)
    (show f.day = (d.toNat : Int) by rw [hf]; dsimp only; omega) hpart hday
  rw [hf] at hparse hcanonical
  exact ⟨_, htext, hcanonical, by rw [hparse, hinstant]⟩

/-- Rendering and parsing are inverse on the years 0 to 9999. A text is accepted only for a day
that exists, and stands for that day; no operation on the way overflows. -/
theorem rfc3339_round_trip :
    (∀ micros y, InYear y micros → y ≤ 9999 →
      ∃ text, rfc3339 micros = .ok text ∧ parseRfc3339 text = .ok (some micros)) ∧
    (∀ text micros, parseRfc3339 text = .ok (some micros) →
      ∃ spelling, rfc3339 micros = .ok spelling ∧ Canonical spelling.toList ∧
        parseRfc3339 spelling = .ok (some micros)) ∧
    (∀ text micros, parseRfc3339 text = .ok (some micros) →
      ∃ f, ∃ y m d : Nat, parseFields text.toList = some f ∧
        (f.year = y ∧ f.month = m ∧ f.day = d) ∧ DayExists y m d ∧
        dayOf micros = dayNumber y m d) ∧
    (∀ micros, Fits micros → ∃ text, rfc3339 micros = .ok text) ∧
    (∀ text, ∃ answer, parseRfc3339 text = .ok answer) := by
  have accepted : ∀ text micros, parseRfc3339 text = .ok (some micros) →
      ∃ f, ∃ y m d : Nat, parseFields text.toList = some f ∧
        (f.year = y ∧ f.month = m ∧ f.day = d) ∧ y ≤ 9999 ∧ DayExists y m d ∧
        micros / 86400000000 + 719528 = dayNumber y m d := by
    intro text micros h
    obtain hnone | ⟨f, part, y, m, d, hfields, hdate, hy, hday, hpart, hparse⟩ := parse_cases text
    · cases hnone.symm.trans h
    · obtain rfl := Option.some.inj (Except.ok.inj (hparse.symm.trans h))
      have hf := parseFields_bounded hfields
      have hhour := hf.hour
      have hminute := hf.minute
      have hsecond := hf.second
      refine ⟨f, y, m, d, hfields, hdate, hy, hday, ?_⟩
      unfold instantAt
      omega
  refine ⟨?_, ?_, ?_, ?_, ?_⟩
  · intro micros y hin hy
    obtain ⟨hlow, hhigh⟩ := inYear_range hin hy
    obtain ⟨text, htext, -, hparse⟩ := parse_rendered hlow hhigh
    exact ⟨text, htext, hparse⟩
  · intro text micros h
    obtain ⟨f, y, m, d, -, -, hy, hday, hnumber⟩ := accepted text micros h
    have hnext := dayNumber_lt hday
    have hmono := daysBeforeYear_mono (show y + 1 ≤ 10000 by omega)
    have hcount := daysBeforeYear_eq 10000
    exact parse_rendered (by omega) (by omega)
  · intro text micros h
    obtain ⟨f, y, m, d, hfields, hdate, -, hday, hnumber⟩ := accepted text micros h
    refine ⟨f, y, m, d, hfields, hdate, hday, ?_⟩
    unfold dayOf
    rw [epoch_eq]
    exact hnumber
  · intro micros hfits
    obtain ⟨_, _, _, _, _, _, _, htext, -⟩ := rfc3339_ok hfits
    exact ⟨_, htext⟩
  · intro text
    obtain hnone | ⟨_, _, _, _, _, -, -, -, -, -, hparse⟩ := parse_cases text
    · exact ⟨_, hnone⟩
    · exact ⟨_, hparse⟩

/-- A leap day, to the microsecond. -/
theorem rfc3339_round_trip_leap_day :
    InYear 2000 951782400000001 ∧ (2000 : Nat) ≤ 9999 ∧
      ∃ text, rfc3339 951782400000001 = .ok text ∧
        parseRfc3339 text = .ok (some 951782400000001) := by
  have hin : InYear 2000 951782400000001 := by
    have hfirst := daysBeforeYear_eq 2000
    have hnext := daysBeforeYear_eq (2000 + 1)
    unfold InYear dayOf
    rw [epoch_eq]
    omega
  exact ⟨hin, by decide, rfc3339_round_trip.1 _ _ hin (by decide)⟩

end Tidegard.Common.Proofs.Timestamps
