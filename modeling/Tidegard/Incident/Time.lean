import Tidegard.Incident.Basics

namespace Tidegard.Incident.Time

open Basics

def i64Max : Int := 2 ^ 63 - 1

/-- Whole microseconds since the Unix epoch. -/
structure DurableTimestamp where
  micros : Int
  deriving DecidableEq

theorem DurableTimestamp.micros_injective : Function.Injective DurableTimestamp.micros := by
  rintro ⟨a⟩ ⟨b⟩ h
  cases h
  rfl

instance : LinearOrder DurableTimestamp :=
  LinearOrder.lift' DurableTimestamp.micros DurableTimestamp.micros_injective

theorem le_iff_micros {a b : DurableTimestamp} : a ≤ b ↔ a.micros ≤ b.micros := Iff.rfl

def outOfRange : IncidentError := .validationError "timestamp is out of range"

/-- Truncation is toward negative infinity on both sides of the epoch: before it, a magnitude
with a fraction of a microsecond is rounded up. -/
def DurableTimestamp.fromSystemTime (wall : Int) : Except IncidentError DurableTimestamp :=
  if 0 ≤ wall then
    let whole := wall / 1000
    if whole ≤ i64Max then .ok ⟨whole⟩ else .error outOfRange
  else
    let magnitude := -wall
    let whole := magnitude / 1000
    if i64Max < whole then .error outOfRange
    else
      let rounded := whole + if magnitude % 1000 = 0 then 0 else 1
      if rounded ≤ i64Max then .ok ⟨-rounded⟩ else .error outOfRange

/-- `i64::saturating_abs`. -/
def saturatingAbs (n : Int) : Int := if n = -2 ^ 63 then i64Max else |n|

/-- Whole seconds and the nanoseconds of the rest, together in nanoseconds. -/
def microsToDuration (micros : Int) : Int :=
  let micros := max micros 0
  micros / 1000000 * 1000000000 + micros % 1000000 * 1000

/-- `representable` tells what the platform's `SystemTime` can hold. -/
def DurableTimestamp.toSystemTime (representable : Int → Bool) (t : DurableTimestamp) :
    Option Int :=
  let magnitude := microsToDuration (saturatingAbs t.micros)
  let wall := if 0 ≤ t.micros then magnitude else -magnitude
  if representable wall then some wall else none

/-- `u128` microseconds of a duration, as an `i64` if they fit, added without overflow. -/
def DurableTimestamp.checkedPlus (t : DurableTimestamp) (duration : Nat) :
    Option DurableTimestamp :=
  let added : Int := ((duration / 1000 : Nat) : Int)
  if i64Max < added then none
  else if t.micros + added ≤ i64Max then some ⟨t.micros + added⟩ else none

/-- The duration between two timestamps, in nanoseconds. The subtraction of two `i64` wraps. -/
def DurableTimestamp.checkedElapsedSince (t earlier : DurableTimestamp) :
    Except IncidentError Nat :=
  if t.micros < earlier.micros then .error (.clockSkew earlier.micros t.micros)
  else .ok ((Int.bmod (t.micros - earlier.micros) (2 ^ 64)).toNat * 1000)

/-- A window of zero never reopens, whatever the clock says. -/
def reopens (p : ReopenPolicy)
    (closedOrResolvedAt now : DurableTimestamp) : Except IncidentError Bool :=
  if p.window = 0 then .ok false
  else do
    let elapsed ← now.checkedElapsedSince closedOrResolvedAt
    return decide (elapsed ≤ p.window)

end Tidegard.Incident.Time
