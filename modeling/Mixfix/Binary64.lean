import Mixfix.Decimal

/-!
# Doubles as exact numbers

A finite double is a sign, a natural mantissa and a power of two. `form` reads these off the bits of
a double, and `nearest` finds the bits of the double next to a ratio of natural numbers, a tie going
to the even mantissa. Everything that converts to or from doubles in this library goes through these
two: integers, decimal notation, exact quotients, remainders and comparisons with integers.
-/

set_option autoImplicit false

namespace Mixfix.Binary64

/-- What a double stands for. A finite one is `mantissa * 2 ^ exponent` up to its sign. -/
inductive Form
  | nan
  | infinite (negative : Bool)
  | finite (negative : Bool) (mantissa : Nat) (exponent : Int)

/-- The least exponent of a finite double. -/
def minExponent : Int := -1074

/-- The form of a double, from its bits. -/
def form (x : Float) : Form :=
  let bits : Nat := x.toBits.toNat
  let negative := bits / Nat.pow 2 63 == 1
  let biased : Nat := bits / Nat.pow 2 52 % Nat.pow 2 11
  let fraction : Nat := bits % Nat.pow 2 52
  if biased = 2047 then
    if fraction = 0 then .infinite negative else .nan
  else if biased = 0 then .finite negative fraction minExponent
  else .finite negative (fraction + Nat.pow 2 52) ((biased : Int) - 1075)

/-- Two to a power, as a ratio of natural numbers. -/
def powTwo (e : Int) : Nat × Nat :=
  if 0 ≤ e then (Nat.pow 2 e.toNat, 1) else (1, Nat.pow 2 (-e).toNat)

/-- Ten to a power, as a ratio of natural numbers. -/
def powTen (e : Int) : Nat × Nat :=
  if 0 ≤ e then (Nat.pow 10 e.toNat, 1) else (1, Nat.pow 10 (-e).toNat)

/-- The integer nearest to `num / den`, a half going to the even neighbour. -/
def roundHalfEven (num den : Nat) : Nat :=
  let low := num / den
  let rest := num % den
  if 2 * rest < den then low
  else if den < 2 * rest then low + 1
  else if low % 2 = 0 then low else low + 1

/-- The bits of the positive infinity. Bits of finite doubles without a sign are below it. -/
def infinityBits : Nat := 0x7FF0000000000000

/-- The exponent of the last place that a double near `num / den` has. -/
def lastPlace (num den : Nat) : Int :=
  let guess : Int := (num.log2 : Int) - den.log2 - 52
  let (up, down) := powTwo guess
  let exact := if num * down < den * up * Nat.pow 2 52 then guess - 1 else guess
  max exact minExponent

/-- The bits of the double nearest to `num / den`, unless it lies beyond the greatest double. -/
def nearest (num den : Nat) : Option Nat :=
  if num = 0 then some 0
  else
    let place := lastPlace num den
    let (up, down) := powTwo place
    let mantissa := roundHalfEven (num * down) (den * up)
    let bits := (place - minExponent).toNat * Nat.pow 2 52 + mantissa
    if bits < infinityBits then some bits else none

/-- The double of a sign and of bits without one. -/
def ofSignBits (negative : Bool) (bits : Nat) : Float :=
  Float.ofBits (UInt64.ofNat (if negative then bits + Nat.pow 2 63 else bits))

/-- Zero of either sign. -/
def zero (negative : Bool) : Float :=
  ofSignBits negative 0

/-- Infinity of either sign. -/
def infinity (negative : Bool) : Float :=
  ofSignBits negative infinityBits

/-- The value that is no number. -/
def notANumber : Float :=
  Float.ofBits 0x7FF8000000000000

/-- The double nearest to a signed ratio, unless it is too large. -/
def ofRatio (negative : Bool) (num den : Nat) : Option Float :=
  (nearest num den).map (ofSignBits negative)

/-- The double nearest to an integer, unless it is too large. -/
def ofInt (n : Int) : Option Float :=
  ofRatio (n < 0) n.natAbs 1

/-- A power of ten beyond which every double is zero or infinite. -/
def decimalRange : Int := 400

/-- The double nearest to `digits * 10 ^ exponent`, infinite where that is too large. -/
def ofDecimal (negative : Bool) (digits : Nat) (exponent : Int) : Float :=
  let size : Int := exponent + (Nat.toDigits 10 digits).length
  if digits = 0 || size < -decimalRange then zero negative
  else if decimalRange < size then infinity negative
  else
    let (up, down) := powTen exponent
    (ofRatio negative (digits * up) down).getD (infinity negative)

/-- The double of a decimal notation: an optional minus sign, digits, and a point somewhere among
them. -/
def readDecimal (s : Text) : Float :=
  let negative := s.head? == some (CodePoint.ofChar '-')
  let whole := s.takeWhile fun c => !(c == CodePoint.ofChar '.')
  let fraction := (s.drop whole.length).drop 1
  ofDecimal negative (Decimal.toNat ((whole ++ fraction).filter CodePoint.isDigit))
    (-(fraction.length : Int))

/-- The order of an integer and a double, taken exactly. -/
def compareInt (n : Int) (x : Float) : Option Ordering :=
  match form x with
  | .nan => none
  | .infinite negative => some (if negative then .gt else .lt)
  | .finite negative mantissa exponent =>
    let (up, down) := powTwo exponent
    let signed : Int := if negative then -(mantissa : Int) else mantissa
    some (compare (n * down) (signed * up))

/-- The integer that a double is, if it is one. -/
def toInt? (x : Float) : Option Int :=
  match form x with
  | .finite negative mantissa exponent =>
    let (up, down) := powTwo exponent
    if mantissa % down = 0 then
      let n := mantissa / down * up
      some (if negative then -(n : Int) else n)
    else none
  | _ => none

/-- A finite double without its fraction. -/
def truncated? (x : Float) : Option Int :=
  match form x with
  | .finite negative mantissa exponent =>
    let (up, down) := powTwo exponent
    let n := mantissa * up / down
    some (if negative then -(n : Int) else n)
  | _ => none

/-- Whether the sign bit of a double is set. -/
def isNegative (x : Float) : Bool :=
  x.toBits.toNat / Nat.pow 2 63 == 1

/-- The remainder of a division that rounds towards zero. It has the sign of the dividend. -/
def remainder (x y : Float) : Float :=
  match form x, form y with
  | .finite negative m e, .finite _ m' e' =>
    let low := min e e'
    let rest := (m * Nat.pow 2 (e - low).toNat) % (m' * Nat.pow 2 (e' - low).toNat)
    let (up, down) := powTwo low
    (ofRatio negative (rest * up) down).getD notANumber
  | .finite .., .infinite _ => x
  | _, _ => notANumber

/-- The remainder of a division that rounds down, for a divisor other than zero. It has the sign of
the divisor, zero included. -/
def floorRemainder (x y : Float) : Float :=
  let rest := remainder x y
  if rest == 0 then zero (isNegative y)
  else if (rest < 0) != (y < 0) then rest + y
  else rest

end Mixfix.Binary64
