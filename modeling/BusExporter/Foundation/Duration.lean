import BusExporter.Foundation.Text

/-!
# Durations

A duration is a whole number of nanoseconds.
-/

namespace BusExporter.Foundation

/-- A duration in nanoseconds. -/
abbrev Duration := ℕ

namespace Duration

def ofSecs (secs : ℕ) : Duration := secs * 1000000000

def ofMillis (millis : ℕ) : Duration := millis * 1000000

def asMillis (d : Duration) : ℕ := d / 1000000

/-- `as_secs_f64`. -/
def asSecsF64 (d : Duration) : Float :=
  (UInt64.ofNat (d / 1000000000)).toFloat + (UInt64.ofNat (d % 1000000000)).toFloat / 1000000000.0

/-- A fraction of a unit after the decimal point, trailing zeros dropped. -/
def fractionText (digits fraction : ℕ) : String :=
  if fraction = 0 then ""
  else
    let padded := zeroPad digits (Nat.toDigits 10 fraction)
    "." ++ String.ofList (padded.reverse.dropWhile (· = '0')).reverse

/-- `{:?}`: the largest unit that is not zero, and the rest as a decimal fraction. -/
def debug (d : Duration) : String :=
  if 1000000000 ≤ d then
    toString (d / 1000000000) ++ fractionText 9 (d % 1000000000) ++ "s"
  else if 1000000 ≤ d then
    toString (d / 1000000) ++ fractionText 6 (d % 1000000) ++ "ms"
  else if 1000 ≤ d then
    toString (d / 1000) ++ fractionText 3 (d % 1000) ++ "µs"
  else
    toString d ++ "ns"

end Duration

end BusExporter.Foundation
