import Mathlib

namespace Tidegard.Common.Rfc3339

/-- An operation left the range of `i64`. -/
inductive Overflow where
  | overflow
  deriving DecidableEq

def Fits (n : Int) : Prop := -2 ^ 63 ≤ n ∧ n < 2 ^ 63

instance (n : Int) : Decidable (Fits n) := inferInstanceAs (Decidable (_ ∧ _))

/-- The result of an addition, a subtraction or a multiplication. -/
def checked (n : Int) : Except Overflow Int := if Fits n then .ok n else .error .overflow

/-! `div_euclid` and `rem_euclid` are the division of `Int`; `/` and `%` round towards zero. -/

def daysInMonth (year month : Int) : Int :=
  if month = 2 then
    if year.tmod 4 = 0 ∧ (year.tmod 100 ≠ 0 ∨ year.tmod 400 = 0) then 29 else 28
  else if month = 4 ∨ month = 6 ∨ month = 9 ∨ month = 11 then 30
  else 31

/-- January and February count to the year before. -/
def yearFromMarch (year month : Int) : Except Overflow Int :=
  if month ≤ 2 then checked (year - 1) else .ok year

def daysFromCivil (year month day : Int) : Except Overflow Int := do
  let year ← yearFromMarch year month
  let era := year / 400
  let yearOfEra := year % 400
  let shifted ← checked (month + 9)
  let shiftedMonth := shifted.tmod 12
  let months ← checked (153 * shiftedMonth)
  let months ← checked (months + 2)
  let dayOfYear ← checked (months.tdiv 5 + day)
  let dayOfYear ← checked (dayOfYear - 1)
  let dayOfEra ← checked (yearOfEra * 365)
  let dayOfEra ← checked (dayOfEra + yearOfEra.tdiv 4)
  let dayOfEra ← checked (dayOfEra - yearOfEra.tdiv 100)
  let dayOfEra ← checked (dayOfEra + dayOfYear)
  let eraDays ← checked (era * 146097)
  let days ← checked (eraDays + dayOfEra)
  checked (days - 719468)

/-- `n as u32`. -/
def asU32 (n : Int) : Int := n % 2 ^ 32

def civilFromDays (days : Int) : Except Overflow (Int × Int × Int) := do
  let z ← checked (days + 719468)
  let era := z / 146097
  let dayOfEra := z % 146097
  let yearDays ← checked (dayOfEra - dayOfEra.tdiv 1460)
  let yearDays ← checked (yearDays + dayOfEra.tdiv 36524)
  let yearDays ← checked (yearDays - dayOfEra.tdiv 146096)
  let yearOfEra := yearDays.tdiv 365
  let before ← checked (365 * yearOfEra)
  let before ← checked (before + yearOfEra.tdiv 4)
  let before ← checked (before - yearOfEra.tdiv 100)
  let dayOfYear ← checked (dayOfEra - before)
  let fifths ← checked (5 * dayOfYear)
  let fifths ← checked (fifths + 2)
  let shiftedMonth := fifths.tdiv 153
  let months ← checked (153 * shiftedMonth)
  let months ← checked (months + 2)
  let day ← checked (dayOfYear - months.tdiv 5)
  let day ← checked (day + 1)
  let month ← if shiftedMonth < 10 then checked (shiftedMonth + 3) else checked (shiftedMonth - 9)
  let eraYears ← checked (era * 400)
  let year ← checked (yearOfEra + eraYears)
  let year ← checked (year + if month ≤ 2 then 1 else 0)
  return (year, asU32 month, asU32 day)

/-- A number with zeros before it up to a width, which a minus sign counts towards. -/
def padded (width : Nat) (n : Int) : List Char :=
  if n < 0 then '-' :: List.leftpad (width - 1) '0' (Nat.toDigits 10 n.natAbs)
  else List.leftpad width '0' (Nat.toDigits 10 n.natAbs)

/-- `{year:04}-{month:02}-{day:02}`. -/
def dateText (year month day : Int) : List Char :=
  padded 4 year ++ '-' :: (padded 2 month ++ '-' :: padded 2 day)

/-- `{hour:02}:{minute:02}:{second:02}`. -/
def clockText (hour minute second : Int) : List Char :=
  padded 2 hour ++ ':' :: (padded 2 minute ++ ':' :: padded 2 second)

/-- A whole second is written without a fraction, anything finer with six digits. -/
def timeText (hour minute second fraction : Int) : List Char :=
  if fraction = 0 then clockText hour minute second
  else clockText hour minute second ++ '.' :: padded 6 fraction

def rfc3339 (micros : Int) : Except Overflow String := do
  let seconds := micros / 1000000
  let fraction := micros % 1000000
  let (year, month, day) ← civilFromDays (seconds / 86400)
  let ofDay := seconds % 86400
  let (hour, minute, second) := (ofDay.tdiv 3600, (ofDay.tmod 3600).tdiv 60, ofDay.tmod 60)
  return String.ofList
    (dateText year month day ++ 'T' :: timeText hour minute second fraction ++ ['Z'])

/-- `strip_suffix`. -/
def stripSuffix (ending text : List Char) : Option (List Char) :=
  if ending <:+ text then some (text.take (text.length - ending.length)) else none

/-- `split_once`. -/
def splitOnce (c : Char) : List Char → Option (List Char × List Char)
  | [] => none
  | x :: rest =>
    if x = c then some ([], rest)
    else (splitOnce c rest).map fun (before, after) => (x :: before, after)

/-- `split`. -/
def split (c : Char) : List Char → List (List Char)
  | [] => [[]]
  | x :: rest =>
    if x = c then [] :: split c rest
    else match split c rest with
      | [] => [[x]]
      | first :: others => (x :: first) :: others

def number (part : List Char) (len : Nat) : Option Int :=
  if part.length = len ∧ part.all Char.isDigit then some (Nat.ofDigitChars 10 part 0) else none

/-- The numbers a text spells; the fraction with its number of digits. -/
structure Fields where
  year : Int
  month : Int
  day : Int
  hour : Int
  minute : Int
  second : Int
  fraction : Option (Int × Nat)
  deriving DecidableEq

def parseDate (date : List Char) : Option (Int × Int × Int) :=
  match split '-' date with
  | [year, month, day] => do
    let year ← number year 4
    let month ← number month 2
    let day ← number day 2
    return (year, month, day)
  | _ => none

def parseClock (clock : List Char) : Option (Int × Int × Int) :=
  match split ':' clock with
  | [hour, minute, second] => do
    let hour ← number hour 2
    let minute ← number minute 2
    let second ← number second 2
    if hour > 23 ∨ minute > 59 ∨ second > 59 then none else return (hour, minute, second)
  | _ => none

/-- One to six digits, if there is a fraction at all. -/
def parseFraction : Option (List Char) → Option (Option (Int × Nat))
  | none => some none
  | some digits =>
    if 1 ≤ digits.length ∧ digits.length ≤ 6 then
      (number digits digits.length).map fun n => some (n, digits.length)
    else none

def parseFields (text : List Char) : Option Fields := do
  let text ← stripSuffix ['Z'] text <|> stripSuffix ['+', '0', '0', ':', '0', '0'] text
  let (date, time) ← splitOnce 'T' text
  let (year, month, day) ← parseDate date
  let (clock, fraction) := match splitOnce '.' time with
    | some (clock, fraction) => (clock, some fraction)
    | none => (time, none)
  let (hour, minute, second) ← parseClock clock
  let fraction ← parseFraction fraction
  return { year, month, day, hour, minute, second, fraction }

def fractionMicros : Option (Int × Nat) → Except Overflow Int
  | none => .ok 0
  | some (n, digits) => checked (n * 10 ^ (6 - digits))

def parseRfc3339 (text : String) : Except Overflow (Option Int) :=
  match parseFields text.toList with
  | none => .ok none
  | some f => do
    let micros ← fractionMicros f.fraction
    if ¬(1 ≤ f.month ∧ f.month ≤ 12) ∨ f.day < 1 ∨ f.day > daysInMonth f.year f.month then
      return none
    else
      let days ← daysFromCivil f.year f.month f.day
      let seconds ← checked (days * 86400)
      let hours ← checked (f.hour * 3600)
      let seconds ← checked (seconds + hours)
      let minutes ← checked (f.minute * 60)
      let seconds ← checked (seconds + minutes)
      let seconds ← checked (seconds + f.second)
      let instant ← checked (seconds * 1000000)
      let instant ← checked (instant + micros)
      return some instant

end Tidegard.Common.Rfc3339
