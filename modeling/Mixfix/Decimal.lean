import Mixfix.Text

/-!
# Decimal notation of integers

Integers are unlimited, but their decimal notation is not: neither reading nor writing goes beyond
`digitLimit` digits. Leading zeros count as digits.
-/

set_option autoImplicit false

namespace Mixfix.Decimal

/-- The longest decimal notation that is converted to or from an integer. -/
def digitLimit : Nat := 4300

/-- An integer has more decimal digits than are converted. -/
inductive TooManyDigits
  | tooManyDigits

/-- The decimal digits of a natural number, without leading zeros. -/
def ofNat (n : Nat) : Text :=
  (Nat.toDigits 10 n).map CodePoint.ofChar

/-- The decimal notation of an integer. -/
def ofInt (n : Int) : Text :=
  if n < 0 then CodePoint.ofChar '-' :: ofNat n.natAbs else ofNat n.natAbs

/-- The number that a run of digits writes. -/
def toNat (digits : Text) : Nat :=
  digits.foldl (fun n d => 10 * n + d.hexValue) 0

/-- The integer that an optional minus sign and a run of digits write. -/
def toInt (s : Text) : Int :=
  match s with
  | [] => 0
  | c :: digits => if c = '-' then -(toNat digits : Int) else toNat (c :: digits)

/-- The number of digits in the notation of an integer: all of it but the sign. -/
def digitCount (s : Text) : Nat :=
  s.countP CodePoint.isDigit

/-- The integer of a decimal notation, unless the notation is too long. -/
def readInt (s : Text) : Except TooManyDigits Int :=
  if digitCount s ≤ digitLimit then .ok (toInt s) else .error .tooManyDigits

/-- The least natural number whose notation is too long. -/
def tooLong : Nat := Nat.pow 10 digitLimit

/-- The decimal notation of an integer, unless it is too long. -/
def writeInt (n : Int) : Except TooManyDigits Text :=
  let s := ofInt n
  if digitCount s ≤ digitLimit then .ok s else .error .tooManyDigits

end Mixfix.Decimal
