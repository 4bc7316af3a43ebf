import Mixfix.Text.Direction
import Mixfix.Decimal

/-!
# Labels of both directions

A label that is read from right to left must not look as if its parts stood in another order. So it
begins with a letter, its letters are all of one direction, its digits of one kind, and it ends in a
letter or digit, marks apart.
-/

set_option autoImplicit false

namespace Mixfix

namespace Direction

/-- Whether only text from right to left has a direction. -/
def isRightToLeft (d : Direction) : Bool :=
  d = .right || d = .arabicLetter || d = .arabicNumber

/-- Whether text may have a direction within it. -/
def isWithin (rightToLeft : Bool) (d : Direction) : Bool :=
  if rightToLeft then d != .left else !d.isRightToLeft

/-- Whether text may end in a direction. -/
def isLast (rightToLeft : Bool) (d : Direction) : Bool :=
  d = .europeanNumber || (if rightToLeft then d.isRightToLeft else d = .left)

end Direction

namespace Domain

/-- What is wrong with the directions of a label. -/
inductive BidiProblem
  /-- It does not begin with a letter. -/
  | first
  /-- A code point has another direction than the label. -/
  | inside (position : Nat) (rightToLeft : Bool)
  | mixedNumbers
  /-- It does not end in a letter or digit. -/
  | last

/-- The wording of a problem of a label. -/
def BidiProblem.text (shown : Text) : BidiProblem → Text
  | .first => txt "First codepoint in label " ++ shown ++ txt " must be directionality L, R or AL"
  | .inside position rightToLeft =>
    txt "Invalid direction for codepoint at position " ++ Decimal.ofNat position ++
      (if rightToLeft then txt " in a right-to-left label" else txt " in a left-to-right label")
  | .mixedNumbers => txt "Can not mix numeral types in a right-to-left label"
  | .last => txt "Label ends with illegal codepoint directionality"

/-- What is wrong within a label from a position on. `number` is the kind of its digits so far. -/
def insideProblem? (rightToLeft : Bool) (number : Option Direction) (position : Nat) :
    List Direction → Option BidiProblem
  | [] => none
  | d :: rest =>
    if !d.isWithin rightToLeft then some (.inside position rightToLeft)
    else if rightToLeft && (d = .arabicNumber || d = .europeanNumber) then
      if number.getD d = d then insideProblem? rightToLeft (some d) (position + 1) rest
      else some .mixedNumbers
    else insideProblem? rightToLeft number (position + 1) rest

/-- What is wrong with the directions of a label that has to keep to the rule. -/
def bidiProblem? (label : Text) : Option BidiProblem :=
  let directions := label.map CodePoint.direction
  match directions with
  | [] => none
  | first :: _ =>
    let rightToLeft := first = .right || first = .arabicLetter
    if !(rightToLeft || first = .left) then some .first
    else
      match insideProblem? rightToLeft none 1 directions with
      | some problem => some problem
      | none =>
        match directions.reverse.find? fun d => d != .mark with
        | some last => if last.isLast rightToLeft then none else some .last
        | none => some .last

/-- Whether a label has code points from right to left. -/
def hasRightToLeft (label : Text) : Bool :=
  label.any fun c => c.direction.isRightToLeft

end Domain

end Mixfix
