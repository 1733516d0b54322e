import ClassAtlas.Number.Binary64

/-!
# The shortest decimal of a double-precision number

A number is written with the fewest digits that still read back as the same
number; of several such digit strings the one nearest to the value is taken.
The test is exact: a decimal reads back if it lies between the midpoints to the
two neighbouring numbers, midpoints included if the significand is even.
-/

namespace ClassAtlas.Binary64

/-- A positive decimal `d.ddd * 10^exponent`, where `digits` is `dddd` read as a number. -/
structure Decimal where
  digits : Nat
  exponent : Int
  deriving DecidableEq, Repr

/-- The decimals that read back as one number: all between `low / den` and `high / den`. The value
itself is `value / den`. -/
structure Readback where
  low : Nat
  value : Nat
  high : Nat
  den : Nat
  closed : Bool
  deriving DecidableEq, Repr

/-- The range of `significand * 2^exponent`. The gap below a power of two is half of the one
above, unless that power is the smallest normal one. -/
def Readback.of (significand : Nat) (exponent : Int) : Readback :=
  let below := if significand = pow2 52 ∧ exponent ≠ -1074 then 1 else 2
  let scale := if 2 ≤ exponent then pow2 (exponent - 2).toNat else 1
  { low := (4 * significand - below) * scale
    value := 4 * significand * scale
    high := (4 * significand + 2) * scale
    den := if 2 ≤ exponent then 1 else pow2 (2 - exponent).toNat
    closed := significand % 2 = 0 }

/-- Whether `digits * 10^power` reads back as the number. -/
def Readback.admits (r : Readback) (digits : Nat) (power : Int) : Bool :=
  let x := digits * r.den * pow10 power.toNat
  let unit := pow10 (-power).toNat
  if r.closed then r.low * unit ≤ x && x ≤ r.high * unit
  else r.low * unit < x && x < r.high * unit

/-- The exponent of the leading decimal digit of `num / den`, for positive arguments. -/
def leadingExponent (num den : Nat) : Int :=
  if den ≤ num then ((Nat.toDigits 10 (num / den)).length : Int) - 1
  else -((Nat.toDigits 10 ((den - 1) / num)).length : Int)

/-- The two neighbours of `num / den` on the grid of multiples of `10^power`, the nearer first, on
a tie the even one. -/
def gridNeighbours (num den : Nat) (power : Int) : List Nat :=
  let n := num * pow10 (-power).toNat
  let d := den * pow10 power.toNat
  let q := n / d
  let r := n % d
  if 2 * r < d then [q, q + 1]
  else if d < 2 * r then [q + 1, q]
  else if q % 2 = 0 then [q, q + 1] else [q + 1, q]

/-- Tries grids of more and more digits. Seventeen digits always read back. -/
def searchDigits (r : Readback) (leading : Int) : (fuel count : Nat) → Decimal
  | 0, _ => ⟨0, 0⟩
  | fuel + 1, count =>
    let power := leading - (count : Int) + 1
    match (gridNeighbours r.value r.den power).find? (r.admits · power) with
    | some digits => ⟨digits, power⟩
    | none => searchDigits r leading fuel (count + 1)

/-- Moves trailing zeros into the exponent. -/
def stripZeros : (fuel : Nat) → Nat → Int → Nat × Int
  | 0, digits, power => (digits, power)
  | fuel + 1, digits, power =>
    if digits % 10 = 0 ∧ digits ≠ 0 then stripZeros fuel (digits / 10) (power + 1)
    else (digits, power)

/-- The shortest decimal of a positive finite number, its digits without trailing zeros and the
exponent of its first digit. -/
def shortest (significand : Nat) (exponent : Int) : Decimal :=
  let r := Readback.of significand exponent
  let found := searchDigits r (leadingExponent r.value r.den) 17 1
  let (digits, power) := stripZeros 20 found.digits found.exponent
  ⟨digits, power + (Nat.toDigits 10 digits).length - 1⟩

/-- How numbers are laid out as text. -/
structure TextFormat where
  /-- Positional notation is used for leading exponents from here … -/
  leastPositional : Int
  /-- … up to, and not including, here. -/
  beyondPositional : Int
  infinity : String
  nan : String

/-- The layout of settings in messages. -/
def TextFormat.plain : TextFormat := ⟨-4, 16, "inf", "nan"⟩

/-- The layout of a report, where the names of the special values are those of the format. -/
def TextFormat.report : TextFormat := ⟨-4, 16, "Infinity", "NaN"⟩

/-- Digits with a point behind the one of exponent zero; a whole number ends in `.0`. -/
def positional (digits : List Char) (exponent : Int) : List Char :=
  if exponent < 0 then
    '0' :: '.' :: List.replicate (-exponent - 1).toNat '0' ++ digits
  else
    let whole := exponent.toNat + 1
    let front := digits.take whole
    let back := digits.drop whole
    front ++ List.replicate (whole - digits.length) '0' ++ '.' :: (if back.isEmpty then ['0'] else back)

/-- Digits with a point behind the first, and the exponent with its sign and two digits at least. -/
def scientific (digits : List Char) (exponent : Int) : List Char :=
  let mantissa :=
    match digits with
    | [] => []
    | [d] => [d]
    | d :: rest => d :: '.' :: rest
  let power := Nat.toDigits 10 exponent.natAbs
  mantissa ++ 'e' :: (if exponent < 0 then '-' else '+') ::
    (if power.length < 2 then '0' :: power else power)

/-- The number as text: the shortest decimal that reads back. -/
def text (format : TextFormat) (x : Binary64) : String :=
  match x.parts with
  | .nan => format.nan
  | .infinite negative => (if negative then "-" else "") ++ format.infinity
  | .finite negative significand exponent =>
    let body :=
      if significand = 0 then ['0', '.', '0']
      else
        let d := shortest significand exponent
        let digits := Nat.toDigits 10 d.digits
        if format.leastPositional ≤ d.exponent ∧ d.exponent < format.beyondPositional then
          positional digits d.exponent
        else scientific digits d.exponent
    (if negative then "-" else "") ++ String.ofList body

end ClassAtlas.Binary64
