import ClassAtlas.Number.Arithmetic

/-!
# Double-precision numbers by their bits

Numbers of this format are carried as their 64 bits: a sign, eleven exponent
bits, 52 fraction bits. Everything is computed from the bits in exact integer
arithmetic, so a value reads the same everywhere and can be reasoned about.
`ofRatio` rounds an exact quotient to the nearest number, ties to the even one.
-/

namespace ClassAtlas

/-- The bits of a double-precision number. -/
structure Binary64 where
  bits : UInt64
  deriving DecidableEq, Repr

namespace Binary64

/-- A finite value as `(-1)^negative * significand * 2^exponent`, or one of the others. -/
inductive Parts where
  | finite (negative : Bool) (significand : Nat) (exponent : Int)
  | infinite (negative : Bool)
  | nan
  deriving DecidableEq, Repr

/-- The sign bit. -/
def isNegative (x : Binary64) : Bool := pow2 63 ≤ x.bits.toNat

/-- The eleven exponent bits. -/
def exponentBits (x : Binary64) : Nat := x.bits.toNat / pow2 52 % 2048

/-- The 52 fraction bits. -/
def fraction (x : Binary64) : Nat := x.bits.toNat % pow2 52

/-- What the bits stand for. -/
def parts (x : Binary64) : Parts :=
  if x.exponentBits = 2047 then
    if x.fraction = 0 then .infinite x.isNegative else .nan
  else if x.exponentBits = 0 then .finite x.isNegative x.fraction (-1074)
  else .finite x.isNegative (pow2 52 + x.fraction) (x.exponentBits - 1075 : Int)

/-- Whether the bits stand for no number. -/
def isNaN (x : Binary64) : Bool := x.exponentBits == 2047 && x.fraction != 0

/-- Positive or negative zero. -/
def isZero (x : Binary64) : Bool := x.exponentBits == 0 && x.fraction == 0

/-- Puts a number together from its three fields. -/
def assemble (negative : Bool) (exponentBits fraction : Nat) : Binary64 :=
  ⟨UInt64.ofNat ((if negative then pow2 63 else 0) + exponentBits * pow2 52 + fraction)⟩

/-- The infinity of a sign. -/
def infinity (negative : Bool) : Binary64 := assemble negative 2047 0

/-- The usual bits for no number. -/
def quietNaN (negative : Bool := false) : Binary64 := assemble negative 2047 (pow2 51)

/-- The zero of a sign. -/
def zero (negative : Bool := false) : Binary64 := assemble negative 0 0

/-- The quotient rounded to the nearest integer, a tie to the even one. -/
def roundDiv (num den : Nat) : Nat :=
  let q := num / den
  let r := num % den
  if 2 * r < den then q
  else if den < 2 * r then q + 1
  else if q % 2 = 0 then q else q + 1

/-- The number nearest to `significand * 2^exponent` for a significand of at most 53 bits that
already is a value of the format, or one above the largest. -/
def pack (negative : Bool) (significand : Nat) (exponent : Int) : Binary64 :=
  -- a carry out of 53 bits moves to the next binade by itself
  let (significand, exponent) :=
    if significand = pow2 53 then (pow2 52, exponent + 1) else (significand, exponent)
  if significand < pow2 52 then assemble negative 0 significand
  else if exponent + 1075 ≥ 2047 then infinity negative
  else assemble negative (exponent + 1075).toNat (significand - pow2 52)

/-- The largest `e` with `2^e * den ≤ num`, for positive arguments. -/
def binaryExponent (num den : Nat) : Int :=
  let guess : Int := (num.log2 : Int) - (den.log2 : Int)
  let reaches : Bool :=
    if 0 ≤ guess then den * pow2 guess.toNat ≤ num else den ≤ num * pow2 (-guess).toNat
  if reaches then guess else guess - 1

/-- The number nearest to `num / den`, a tie going to the even significand. -/
def ofRatio (negative : Bool) (num den : Nat) : Binary64 :=
  if num = 0 ∨ den = 0 then zero negative
  else
    -- the unit in the last place of the result
    let unit : Int := max (binaryExponent num den - 52) (-1074)
    let significand :=
      if 0 ≤ unit then roundDiv num (den * pow2 unit.toNat)
      else roundDiv (num * pow2 (-unit).toNat) den
    pack negative significand unit

/-- The number nearest to `digits * 10^exponent`. Values that no digit string of this length can
bring back into range are settled without the exact power. -/
def ofDecimal (negative : Bool) (digits : Nat) (exponent : Int) : Binary64 :=
  let magnitude : Int := (Nat.toDigits 10 digits).length + exponent
  if digits = 0 then zero negative
  else if magnitude > 310 then infinity negative
  else if magnitude < -330 then zero negative
  else if 0 ≤ exponent then ofRatio negative (digits * pow10 exponent.toNat) 1
  else ofRatio negative digits (pow10 (-exponent).toNat)

/-- The value of a single-precision number, which is always one of this format. -/
def ofBinary32 (bits : UInt32) : Binary64 :=
  let n := bits.toNat
  let negative : Bool := pow2 31 ≤ n
  let exponentBits := n / pow2 23 % 256
  let fraction := n % pow2 23
  if exponentBits = 255 then
    if fraction = 0 then infinity negative else quietNaN negative
  else if exponentBits = 0 then ofRatio negative fraction (pow2 149)
  else assemble negative (exponentBits + 896) (fraction * pow2 29)

/-- A finite value as an exact fraction. -/
def ratio? (x : Binary64) : Option (Int × Nat) :=
  match x.parts with
  | .finite negative significand exponent =>
    let signed : Int := if negative then -significand else significand
    some (if 0 ≤ exponent then (signed * pow2 exponent.toNat, 1) else (signed, pow2 (-exponent).toNat))
  | _ => none

/-- Whether the value is less than an integer. -/
def isBelow (x : Binary64) (n : Int) : Bool :=
  match x.ratio? with
  | some (num, den) => num < n * den
  | none => !x.isNaN && x.isNegative

/-- Whether the value is greater than an integer. -/
def isAbove (x : Binary64) (n : Int) : Bool :=
  match x.ratio? with
  | some (num, den) => n * den < num
  | none => !x.isNaN && !x.isNegative

/-- The least integer that is not less than the value. There is none for positive infinity, and
nothing compares with what is no number; negative infinity counts as zero here. -/
def leastCount? (x : Binary64) : Option Int :=
  match x.ratio? with
  | some (num, den) => some (-(-num / (den : Int)))
  | none => if x.isBelow 0 then some 0 else none

end Binary64

end ClassAtlas
