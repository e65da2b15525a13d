import Lanewise.Toml.Value

/-!
# TOML numbers, dates and booleans

The values that are written as one run of characters. Each class of lexemes is a test on the whole run,
so a run that belongs to no class is refused.
-/

set_option autoImplicit false

namespace Lanewise.Toml

/-- Whether a character is a digit of a base up to sixteen. -/
def isDigitOf (base : Nat) (c : Char) : Bool :=
  if c.isDigit then c.toNat - 48 < base
  else base = 16 && ((97 ≤ c.toNat && c.toNat ≤ 102) || (65 ≤ c.toNat && c.toNat ≤ 70))

/-- The value of a digit. -/
def digitValue (c : Char) : Nat :=
  if c.isDigit then c.toNat - 48
  else if 97 ≤ c.toNat then c.toNat - 87
  else c.toNat - 55

/-- The digits of a number. Underscores may stand between digits, one at a time. -/
def digits? (base : Nat) : List Char → Option (List Nat)
  | [] => none
  | [c] => if isDigitOf base c then some [digitValue c] else none
  | c :: '_' :: rest =>
    if isDigitOf base c then (digits? base rest).map (digitValue c :: ·) else none
  | c :: rest =>
    if isDigitOf base c then (digits? base rest).map (digitValue c :: ·) else none

/-- The number with the given digits. -/
def ofDigits (base : Nat) (digits : List Nat) : Nat :=
  digits.foldl (fun n d => n * base + d) 0

/-- The digits of a decimal number that does not start with a superfluous zero. -/
def decimal? (cs : List Char) : Option (List Nat) := do
  let digits ← digits? 10 cs
  match digits with
  | 0 :: _ :: _ => none
  | _ => return digits

/-- A sign and what follows it. -/
def splitSign : List Char → Bool × List Char
  | '-' :: rest => (true, rest)
  | '+' :: rest => (false, rest)
  | cs => (false, cs)

/-- An integer in the range of 64-bit words. -/
def word64? (n : Int) : Option Int :=
  if Int64.minValue.toInt ≤ n ∧ n ≤ Int64.maxValue.toInt then some n else none

/-- An integer: decimal with an optional sign, or hexadecimal, octal or binary. -/
def integer? : List Char → Option Int
  | '0' :: 'x' :: rest => do word64? (ofDigits 16 (← digits? 16 rest))
  | '0' :: 'o' :: rest => do word64? (ofDigits 8 (← digits? 8 rest))
  | '0' :: 'b' :: rest => do word64? (ofDigits 2 (← digits? 2 rest))
  | cs => do
    let (negative, rest) := splitSign cs
    let n := ofDigits 10 (← decimal? rest)
    word64? (if negative then -(n : Int) else n)

/-! ### Floating-point numbers -/

/-- Whether `mantissa * 10 ^ exponent` is too large for double precision: it rounds to infinity. -/
def overflows (mantissa : Nat) (exponent : Int) : Bool :=
  let magnitude : Int := (Nat.toDigits 10 mantissa).length + exponent
  let limit := Nat.pow 2 1024 - Nat.pow 2 970
  if mantissa = 0 || magnitude < 300 then false
  else if 400 < magnitude then true
  else if 0 ≤ exponent then limit ≤ mantissa * Nat.pow 10 exponent.toNat
  else limit * Nat.pow 10 (-exponent).toNat ≤ mantissa

/-- The part of a float before and after the mark of its exponent. -/
def splitExponent (cs : List Char) : List Char × Option (List Char) :=
  let head := cs.takeWhile fun c => c ≠ 'e' && c ≠ 'E'
  match cs.dropWhile fun c => c ≠ 'e' && c ≠ 'E' with
  | [] => (head, none)
  | _ :: tail => (head, some tail)

/-- The part of a float before and after its point. -/
def splitPoint (cs : List Char) : List Char × Option (List Char) :=
  let head := cs.takeWhile fun c => c ≠ '.'
  match cs.dropWhile fun c => c ≠ '.' with
  | [] => (head, none)
  | _ :: tail => (head, some tail)

/-- The value of an exponent. -/
def exponent? (cs : List Char) : Option Int := do
  let (negative, rest) := splitSign cs
  let n := ofDigits 10 (← digits? 10 rest)
  return if negative then -(n : Int) else n

/-- Whether a run is a floating-point number: a decimal number with a fraction, an exponent or both. A
positive number that is too large is refused. -/
def isFloat (cs : List Char) : Bool :=
  let (negative, unsigned) := splitSign cs
  if unsigned = "inf".toList || unsigned = "nan".toList then true
  else
    let (number, exponentText) := splitExponent unsigned
    let (whole, fractionText) := splitPoint number
    if exponentText.isNone && fractionText.isNone then false
    else
      let checked : Option Bool := do
        let wholeDigits ← decimal? whole
        let fraction ←
          match fractionText with
          | none => pure []
          | some text => digits? 10 text
        let exponent ←
          match exponentText with
          | none => pure 0
          | some text => exponent? text
        let mantissa := ofDigits 10 (wholeDigits ++ fraction)
        return negative || !overflows mantissa (exponent - fraction.length)
      checked.getD false

/-! ### Dates and times -/

/-- The number that exactly `count` decimal digits stand for, and the rest. -/
def fixedNumber? (count : Nat) (cs : List Char) : Option (Nat × List Char) :=
  let head := cs.take count
  if head.length = count && head.all Char.isDigit then
    some (ofDigits 10 (head.map digitValue), cs.drop count)
  else none

/-- What follows an expected character. -/
def after? (expected : Char) : List Char → Option (List Char)
  | c :: rest => if c = expected then some rest else none
  | [] => none

/-- Whether a year has a 29th of February. -/
def isLeapYear (year : Nat) : Bool :=
  year % 4 = 0 && (year % 100 ≠ 0 || year % 400 = 0)

/-- The number of days of a month. -/
def daysIn (year month : Nat) : Nat :=
  if month = 2 then if isLeapYear year then 29 else 28
  else if month = 4 || month = 6 || month = 9 || month = 11 then 30
  else 31

/-- Reads a date. -/
def date? (cs : List Char) : Option (List Char) := do
  let (year, cs) ← fixedNumber? 4 cs
  let cs ← after? '-' cs
  let (month, cs) ← fixedNumber? 2 cs
  let cs ← after? '-' cs
  let (day, cs) ← fixedNumber? 2 cs
  if 1 ≤ month && month ≤ 12 && 1 ≤ day && day ≤ daysIn year month then some cs else none

/-- Reads the fraction of a second, if there is one. -/
def secondFraction? : List Char → Option (List Char)
  | '.' :: c :: rest => if c.isDigit then some (rest.dropWhile Char.isDigit) else none
  | '.' :: [] => none
  | cs => some cs

/-- Reads the time of day. A minute may have a leap second. -/
def time? (cs : List Char) : Option (List Char) := do
  let (hour, cs) ← fixedNumber? 2 cs
  let cs ← after? ':' cs
  let (minute, cs) ← fixedNumber? 2 cs
  let cs ← after? ':' cs
  let (second, cs) ← fixedNumber? 2 cs
  let cs ← secondFraction? cs
  if hour ≤ 23 && minute ≤ 59 && second ≤ 60 then some cs else none

/-- Whether a run is empty or the offset of a time zone. -/
def isOffset : List Char → Bool
  | [] => true
  | ['Z'] => true
  | ['z'] => true
  | sign :: rest =>
    (sign = '+' || sign = '-') &&
      (do
        let (hours, cs) ← fixedNumber? 2 rest
        let cs ← after? ':' cs
        let (minutes, cs) ← fixedNumber? 2 cs
        return hours ≤ 23 && minutes ≤ 59 && cs.isEmpty).getD false

/-- Whether a run is the time of day with an optional offset. -/
def isTimeWithOffset (cs : List Char) : Bool :=
  (time? cs).any isOffset

/-- Whether a run is a date. -/
def isDate (cs : List Char) : Bool :=
  (date? cs).any List.isEmpty

/-- Whether a run is a date with a time after it. -/
def isDateTime (cs : List Char) : Bool :=
  match date? cs with
  | some (c :: rest) => (c = 'T' || c = 't') && isTimeWithOffset rest
  | _ => false

/-- Whether a run is the time of day. -/
def isTime (cs : List Char) : Bool :=
  (time? cs).any List.isEmpty

/-- The value of a run of characters. -/
def lexeme? (cs : List Char) : Option Value :=
  if cs = "true".toList then some (.boolean true)
  else if cs = "false".toList then some (.boolean false)
  else if isDate cs || isDateTime cs || isTime cs then some (.dateTime (String.ofList cs))
  else if isFloat cs then some (.float (String.ofList cs))
  else (integer? cs).map .integer

end Lanewise.Toml
