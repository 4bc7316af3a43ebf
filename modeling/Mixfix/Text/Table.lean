import Mixfix.Text

/-!
# Tables of code points

A property of code points is given by the ranges of those that have it, in ascending order. Long tables
are written as texts, in which the ranges stand with blanks between them: `A-B` is the range from `A` to
`B`, and `A` a single code point, in hexadecimal digits.
-/

set_option autoImplicit false

namespace Mixfix.CodePoint

/-- Whether some range of an ascending list holds `n`. -/
def inRanges (n : Nat) : List (Nat × Nat) → Bool
  | [] => false
  | (low, high) :: rest => if n < low then false else n ≤ high || inRanges n rest

/-- A range as it is written in a table. -/
def readRange (s : Text) : Nat × Nat :=
  match Text.splitFirst? '-' s with
  | some (low, high) => (Text.ofHex low, Text.ofHex high)
  | none => (Text.ofHex s, Text.ofHex s)

/-- The ranges of a table. -/
def readRanges (lines : List String) : List (Nat × Nat) :=
  lines.flatMap fun line => (Text.splitOn ' ' (txt line)).map readRange

end Mixfix.CodePoint
