import Mixfix.Binary64.Shortest

/-!
# Doubles with a given number of digits

A double rounded to so many digits after the point, or to so many digits in all. The exact value is
rounded, a half going to the even neighbour. Zeros at the end stay unless the layout drops them.
-/

set_option autoImplicit false

namespace Mixfix.Binary64

/-- How a rounded double is laid out. -/
inductive Layout
  /-- So many digits after the point. -/
  | fixed
  /-- One digit, so many after the point, and an exponent. -/
  | scientific
  /-- So many digits in all. An exponent stands where the first digit is too far from the point, and
  zeros at the end are dropped. -/
  | general

/-- Whether zeros at the end stay. -/
def Layout.keepsZeros (keepPoint : Bool) : Layout → Bool
  | .fixed | .scientific => true
  | .general => keepPoint

/-- So many zeros. -/
def zeros (n : Nat) : Text :=
  List.replicate n '0'

/-- Digits with a point between them. A point with nothing after it is left out unless it is to
stay. -/
def pointed (keepPoint : Bool) (whole fraction : Text) : Text :=
  if fraction.isEmpty && !keepPoint then whole else whole ++ txt "." ++ fraction

/-- No double has more digits after the point, nor more digits from the first that is not zero to the
last. So all that are asked for beyond it are zeros. -/
def mostDigits : Nat := 1100

/-- `num / den` with so many digits after the point. -/
def fixedText (keepPoint : Bool) (places num den : Nat) : Text :=
  let exact := min places mostDigits
  let digits := Decimal.ofNat (roundHalfEven (num * Nat.pow 10 exact) den)
  let padded := zeros (exact + 1 - digits.length) ++ digits
  let whole := padded.length - exact
  pointed keepPoint (padded.take whole) (padded.drop whole ++ zeros (places - exact))

/-- The first `count` digits of `num / den` after rounding, and the exponent of the first of them. -/
def leadingDigits (count num den : Nat) : Text × Int :=
  if num = 0 then (zeros count, 0)
  else
    let exact := min count mostDigits
    let first := decimalExponent num den
    let (up, down) := powTen (first - exact + 1)
    let digits := Decimal.ofNat (roundHalfEven (num * down) (den * up))
    let more := zeros (count - exact)
    if exact < digits.length then (digits.take exact ++ more, first + 1) else (digits ++ more, first)

/-- Digits with a point after the first of them, and an exponent. -/
def scientificText (keepPoint : Bool) (digits : Text) (first : Int) : Text :=
  pointed keepPoint (digits.take 1) (digits.drop 1) ++ txt "e" ++ exponentText first

/-- `num / den` with so many digits in all. -/
def generalText (keepPoint : Bool) (count num den : Nat) : Text :=
  let (digits, first) := leadingDigits count num den
  let kept :=
    if keepPoint then digits
    else (digits.reverse.dropWhile (· == CodePoint.ofChar '0')).reverse
  let shown := if kept.isEmpty then zeros 1 else kept
  if first < -4 || (count : Int) ≤ first then scientificText keepPoint shown first
  else if first < 0 then txt "0." ++ zeros ((-first).toNat - 1) ++ shown
  else
    let whole := first.toNat + 1
    pointed keepPoint (shown.take whole ++ zeros (whole - shown.length)) (shown.drop whole)

/-- The notation of a rounded double. -/
def writeRounded (layout : Layout) (keepPoint : Bool) (precision : Nat) (x : Float) : Text :=
  match form x with
  | .nan => txt "nan"
  | .infinite negative => if negative then txt "-inf" else txt "inf"
  | .finite negative mantissa exponent =>
    let (up, down) := powTwo exponent
    let num := mantissa * up
    let shown := match layout with
      | .fixed => fixedText keepPoint precision num down
      | .scientific =>
        let (digits, first) := leadingDigits (precision + 1) num down
        scientificText keepPoint digits first
      | .general =>
        let count := if layout.keepsZeros keepPoint then precision else min precision mostDigits
        generalText keepPoint (max count 1) num down
    (if negative then txt "-" else []) ++ shown

end Mixfix.Binary64
