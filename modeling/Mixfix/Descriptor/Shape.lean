import Mixfix.Value.Compare

/-!
# Shapes of values

What a schema descriptor describes: the shape that a value has to have. Bounds on a number limit its
value, and bounds on a text its length.

Values are checked by a library of the host (`Checker`). It makes a checker of a shape, or refuses the shape,
and a checker says whether a value has the shape, and what is wrong with it if it has not.
-/

set_option autoImplicit false

namespace Mixfix

/-- One side of a range. -/
structure Limit where
  value : Number
  /-- Whether the limit itself is out of the range. -/
  strict : Bool

/-- A range, open on either side where there is no limit. -/
structure Bounds where
  lower : Option Limit
  upper : Option Limit

namespace Bounds

/-- The range of everything. -/
def all : Bounds :=
  ⟨none, none⟩

/-- The limits of a range. -/
def limits (bounds : Bounds) : List Limit :=
  bounds.lower.toList ++ bounds.upper.toList

end Bounds

/-- What the code points of a text have to be. -/
inductive TextClass
  | any
  | alpha
  | alphanumeric
  | digits
  | lower
  | upper
  | uuid
  deriving DecidableEq

/-- The shape of a value. -/
inductive Shape
  | number (whole : Bool) (bounds : Bounds)
  | text (kind : TextClass) (least most : Option Int)
  | email
  | url
  | boolean
  | null
  | undefined
  | anything
  /-- Exactly this value. -/
  | literal (value : Value)
  /-- A list of items of one shape. -/
  | array (item : Shape)
  /-- Any of some shapes. -/
  | union (alternatives : List Shape)

/-- What checks values against shapes. -/
class Checker where
  /-- Whether a checker is made of a shape. -/
  checkable : Shape → Bool
  /-- Whether a value has a shape. -/
  accepts : Shape → Value → Bool
  /-- What is wrong with a value that has not. -/
  complaints : Shape → Value → List Text

end Mixfix
