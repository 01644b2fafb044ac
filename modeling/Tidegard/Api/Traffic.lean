import Tidegard.Tables
import Tidegard.Fallible
import Tidegard.Common.Rfc3339

namespace Tidegard.Api.Traffic

open Tables Fallible Common.Rfc3339

def maxRangeSeconds : Int := 30 * 24 * 3600

def maxPoints : Int := 500

def minStepSeconds : Int := 10

def defaultRangeSeconds : Int := 3600

inductive Problem where
  | invalid (detail : String)
  -- not a problem of the source: an overflow while a time is parsed
  | overflow
  deriving DecidableEq

def seconds (parameters : Table String String) (name : String) : Except Problem (Option Int) :=
  match parameters[name]? with
  | none => .ok none
  | some text =>
    match parseRfc3339 text with
    | .ok (some micros) => .ok (some (micros / 1000000))
    | .ok none => .error (.invalid (name ++ " is not RFC 3339 UTC"))
    | .error _ => .error .overflow

/-- `start` and `stop` are the source's `from` and `to`. -/
def range (parameters : Table String String) (now : Int) : Except Problem (Int × Int) := do
  let stop := (← seconds parameters "to").getD now
  let start := (← seconds parameters "from").getD (stop - defaultRangeSeconds)
  if stop ≤ start ∨ maxRangeSeconds < stop - start then
    .error (.invalid "from must be before to, at most 30 days apart")
  else if start < 0 ∨ 2 ^ 32 - 1 < stop then
    .error (.invalid "from and to must fall between 1970 and 2106")
  else .ok (start, stop)

/-- `/` rounds towards zero. -/
def stepFor (start stop : Int) : Int :=
  let raw := (stop - start + maxPoints - 1).tdiv maxPoints
  let rounded := (raw + minStepSeconds - 1).tdiv minStepSeconds * minStepSeconds
  max rounded minStepSeconds

end Tidegard.Api.Traffic
