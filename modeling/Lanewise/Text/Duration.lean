/-!
# Durations as text

A duration is shown in the largest of the units second, millisecond, microsecond and nanosecond in which
it is at least one, with as many decimals as it needs.
-/

set_option autoImplicit false

namespace Lanewise

/-- A length of time, in nanoseconds. -/
structure Duration where
  nanoseconds : Nat
  deriving DecidableEq

namespace Duration

/-- A decimal fraction of `digits` digits, without the zeros at its end. -/
def fractionText (digits fraction : Nat) : String :=
  let text := (Nat.toDigits 10 fraction)
  let padded := List.replicate (digits - text.length) '0' ++ text
  String.ofList ((padded.reverse.dropWhile fun c => c = '0').reverse)

/-- A number of nanoseconds in a unit of `10 ^ digits` nanoseconds. -/
def inUnit (nanoseconds digits : Nat) (unit : String) : String :=
  let whole := nanoseconds / Nat.pow 10 digits
  let fraction := nanoseconds % Nat.pow 10 digits
  if fraction = 0 then toString whole ++ unit
  else toString whole ++ "." ++ fractionText digits fraction ++ unit

/-- The text of a duration. -/
def text (d : Duration) : String :=
  let ns := d.nanoseconds
  if Nat.pow 10 9 ≤ ns then inUnit ns 9 "s"
  else if Nat.pow 10 6 ≤ ns then inUnit ns 6 "ms"
  else if Nat.pow 10 3 ≤ ns then inUnit ns 3 "µs"
  else inUnit ns 0 "ns"

end Duration

end Lanewise
