import Mixfix.Binary64

/-!
# The shortest decimal notation of a double

Of the decimal numbers that read back as a given double, `shortest` takes one with the fewest
digits, and of these the one nearest to the double. For one, two and more digits it looks at the two
neighbours of the double among the decimal numbers with so many digits, and stops at the first count
for which one of them reads back. All of it is arithmetic on natural numbers.

How the digits are laid out is a `Style`: where positional notation ends, whether a whole number
shows a fraction, and how the values without digits are written.
-/

set_option autoImplicit false

namespace Mixfix.Binary64

/-- A decimal number: `coefficient * 10 ^ exponent`. -/
structure DecimalNumber where
  coefficient : Nat
  exponent : Int

/-- The largest `e` with `10 ^ e ≤ num / den`, for positive numbers. -/
def decimalExponent (num den : Nat) : Int :=
  let guess : Int := (Nat.toDigits 10 num).length - (Nat.toDigits 10 den).length
  let (up, down) := powTen guess
  if den * up ≤ num * down then guess else guess - 1

/-- The ratios that read back as one double: all between two ends, which belong to them or not. -/
structure Interval where
  low : Nat
  value : Nat
  high : Nat
  den : Nat
  closed : Bool

/-- The ratios nearest to the positive double `mantissa * 2 ^ exponent`. The double below a power of
two is only half as far away as the one above it. -/
def interval (mantissa : Nat) (exponent : Int) : Interval :=
  let (up, down) := powTwo (exponent - 2)
  let below := if mantissa = Nat.pow 2 52 && minExponent < exponent then 1 else 2
  { low := (4 * mantissa - below) * up
    value := 4 * mantissa * up
    high := (4 * mantissa + 2) * up
    den := down
    closed := mantissa % 2 = 0 }

/-- Whether `num / den` lies in an interval. -/
def Interval.holds (i : Interval) (num den : Nat) : Bool :=
  if i.closed then i.low * den ≤ num * i.den && num * i.den ≤ i.high * den
  else i.low * den < num * i.den && num * i.den < i.high * den

/-- The neighbour of an interval's value among the multiples of `10 ^ place` that lies in the
interval. Of two the nearer is taken, and of two equally near the even multiple. -/
def Interval.onGrid? (i : Interval) (place : Int) : Option DecimalNumber :=
  let (up, down) := powTen place
  let k := i.value * down / (i.den * up)
  let inside := fun k => i.holds (k * up) down
  match inside k, inside (k + 1) with
  | true, true =>
    let twice := 2 * i.value * down
    let middle := (2 * k + 1) * up * i.den
    some ⟨if twice < middle then k else if middle < twice then k + 1
      else if k % 2 = 0 then k else k + 1, place⟩
  | true, false => some ⟨k, place⟩
  | false, true => some ⟨k + 1, place⟩
  | false, false => none

/-- The shortest decimal number that reads back as the positive double `mantissa * 2 ^ exponent`.
Seventeen digits are always enough. -/
def shortest (mantissa : Nat) (exponent : Int) : DecimalNumber :=
  let i := interval mantissa exponent
  let first := decimalExponent i.value i.den
  ((List.range 17).findSome? fun (k : Nat) => i.onGrid? (first - k)).getD ⟨0, 0⟩

/-- How the digits of a double are laid out. -/
structure Style where
  /-- The least exponent of the leading digit that is written positionally. -/
  leastPositional : Int
  /-- The least exponent above these that is not. -/
  endPositional : Int
  /-- Whether a whole number in positional notation ends in `.0`. -/
  wholeFraction : Bool
  /-- Whether a lone digit before an exponent is followed by `.0`. -/
  pointBeforeExponent : Bool
  nan : Text
  infinity : Text
  negativeInfinity : Text

/-- An exponent with its sign and at least two digits. -/
def exponentText (e : Int) : Text :=
  let digits := Decimal.ofNat e.natAbs
  let sign := if e < 0 then txt "-" else txt "+"
  sign ++ (if digits.length < 2 then txt "0" ++ digits else digits)

/-- The digits of a decimal number, without trailing zeros, and the exponent of the first of them. -/
def DecimalNumber.scientific (d : DecimalNumber) : Text × Int :=
  let digits := Decimal.ofNat d.coefficient
  let shown := (digits.reverse.dropWhile (· == CodePoint.ofChar '0')).reverse
  (shown, d.exponent + digits.length - 1)

/-- Digits laid out in a style, `first` being the exponent of the first of them. -/
def Style.layOut (style : Style) (digits : Text) (first : Int) : Text :=
  if style.leastPositional ≤ first && first < style.endPositional then
    if first < 0 then
      txt "0." ++ List.replicate ((-first).toNat - 1) (CodePoint.ofChar '0') ++ digits
    else
      let whole := digits.take (first.toNat + 1)
      let padded := whole ++ List.replicate (first.toNat + 1 - whole.length) (CodePoint.ofChar '0')
      match digits.drop (first.toNat + 1) with
      | [] => if style.wholeFraction then padded ++ txt ".0" else padded
      | fraction => padded ++ txt "." ++ fraction
  else
    match digits with
    | [] => []
    | [d] =>
      d :: (if style.pointBeforeExponent then txt ".0" else []) ++ txt "e" ++ exponentText first
    | d :: rest => d :: txt "." ++ rest ++ txt "e" ++ exponentText first

/-- The notation of a double in a style. -/
def Style.write (style : Style) (x : Float) : Text :=
  match form x with
  | .nan => style.nan
  | .infinite negative => if negative then style.negativeInfinity else style.infinity
  | .finite negative mantissa exponent =>
    let sign := if negative then txt "-" else []
    if mantissa = 0 then sign ++ (if style.wholeFraction then txt "0.0" else txt "0")
    else
      let (digits, first) := (shortest mantissa exponent).scientific
      sign ++ style.layOut digits first

end Mixfix.Binary64
