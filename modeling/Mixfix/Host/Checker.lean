import Mixfix.Descriptor.Shape
import Mixfix.Host.Email
import Mixfix.Host.Url
import Mixfix.Value.Display

/-!
# The checker of the program

`accepts` says whether a value has a shape, and `complaints` lists what is wrong where it has not.
A number is taken for an integer first and then for a double, and it is enough that one of the two
fits: so an integer too large for a double is a number. Where neither fits, both complain. A union
likewise lists the complaints of all its alternatives, those within its alternatives included, and
only null is left out, as long as there is anything else.

Not every shape can be checked. The bounds of a number have to be whole and within the doubles, those
of a length within sixty-four bits, and so has an integer that a value should be. A text that a value
should be must not hold surrogates. Values that are compared with these have to keep to the same rules.
-/

set_option autoImplicit false

namespace Mixfix

namespace Limit

/-- Whether a limit is exceeded by a number that has an order with it. What has no order exceeds every
limit. -/
def exceededBy (limit : Limit) (above : Bool) (order : Option Ordering) : Bool :=
  match order with
  | none => true
  | some .eq => limit.strict
  | some .lt => !above
  | some .gt => above

/-- The wording of an upper limit that is exceeded. -/
def upperComplaint (limit : Limit) (shown : Text) : Text :=
  (if limit.strict then txt "Input should be less than "
    else txt "Input should be less than or equal to ") ++ shown

/-- The wording of a lower limit that is exceeded. -/
def lowerComplaint (limit : Limit) (shown : Text) : Text :=
  (if limit.strict then txt "Input should be greater than "
    else txt "Input should be greater than or equal to ") ++ shown

end Limit

namespace Number

/-- The integer that a number is, if it is whole. -/
def whole? : Number → Option Int
  | .int n => some n
  | .real x => Binary64.toInt? x

/-- The double nearest to a number, which has to be within the doubles. -/
def nearestDouble (a : Number) : Float :=
  match a with
  | .real x => x
  | .int n => (Binary64.ofInt n).getD (Binary64.infinity (n < 0))

end Number

namespace Shape

/-- Whole doubles without a fraction or exponent. -/
def limitStyle : Binary64.Style where
  leastPositional := -5
  endPositional := 400
  wholeFraction := false
  pointBeforeExponent := false
  nan := txt "NaN"
  infinity := txt "inf"
  negativeInfinity := txt "-inf"

/-- The first complaint about a number that has an order with each limit. -/
def rangeComplaint? (bounds : Bounds) (order : Limit → Option Ordering) (shown : Limit → Text) :
    Option Text :=
  match bounds.upper.filter fun limit => limit.exceededBy true (order limit) with
  | some limit => some (limit.upperComplaint (shown limit))
  | none =>
    (bounds.lower.filter fun limit => limit.exceededBy false (order limit)).map fun limit =>
      limit.lowerComplaint (shown limit)

/-- The complaint about a value as an integer within bounds. -/
def integerComplaint? (bounds : Bounds) (value : Value) : Option Text :=
  match value with
  | .int n =>
    let whole := fun (limit : Limit) => limit.value.whole?.getD 0
    rangeComplaint? bounds (fun limit => some (compare n (whole limit)))
      fun limit => Decimal.ofInt (whole limit)
  | _ => some "Input should be a valid integer"

/-- The double that a value is taken for. -/
def double? : Value → Option Float
  | .int n => Binary64.ofInt n
  | .float x => some x
  | .nan _ => some Binary64.notANumber
  | _ => none

/-- Whether a double has a fraction that is more than a billionth part of it. -/
def hasFraction (x : Float) : Bool :=
  let rest := (Binary64.remainder x 1).abs
  let tolerance := x.abs / 1e9
  rest > tolerance && (rest - 1).abs > tolerance

/-- The complaint about a value as a double within bounds. -/
def doubleComplaint? (whole : Bool) (bounds : Bounds) (value : Value) : Option Text :=
  match double? value with
  | none => some "Input should be a valid number"
  | some x =>
    if whole && hasFraction x then some "Input should be a multiple of 1"
    else
      rangeComplaint? bounds (fun limit => Number.compareReals x limit.value.nearestDouble)
        fun limit => limitStyle.write limit.value.nearestDouble

/-- Whether a text is groups of hexadecimal digits with hyphens between them. -/
def isHexGroups : List Nat → Text → Bool
  | [], s => s.isEmpty
  | size :: sizes, s =>
    let group := s.take size
    group.length == size && group.all CodePoint.isHexDigit &&
      match sizes, s.drop size with
      | [], rest => rest.isEmpty
      | sizes, c :: rest => c == '-' && isHexGroups sizes rest
      | _, [] => false

end Shape

namespace TextClass

/-- Whether a text is of a class. -/
def holds : TextClass → Text → Bool
  | .any, _ => true
  | .alpha, s => s.all CodePoint.isLetter
  | .alphanumeric, s => s.all fun c => c.isLetter || c.isDigit
  | .digits, s => s.all CodePoint.isDigit
  | .lower, s => s.all fun c => !c.between 'A' 'Z'
  | .upper, s => s.all fun c => !c.between 'a' 'z'
  | .uuid, s => Shape.isHexGroups [8, 4, 4, 4, 12] s

/-- The pattern that describes a class. -/
def pattern : TextClass → Text
  | .any => []
  | .alpha => txt "^[A-Za-z]*$"
  | .alphanumeric => txt "^[A-Za-z0-9]*$"
  | .digits => txt "^[0-9]*$"
  | .lower => txt "^[^A-Z]*$"
  | .upper => txt "^[^a-z]*$"
  | .uuid => txt <| "^[0-9a-fA-F]\x7b8\x7d-[0-9a-fA-F]\x7b4\x7d-[0-9a-fA-F]\x7b4\x7d-" ++
      "[0-9a-fA-F]\x7b4\x7d-[0-9a-fA-F]\x7b12\x7d$"

end TextClass

namespace Shape

/-- A number of code points. -/
def characters (n : Int) : Text :=
  Decimal.ofInt n ++ if n = 1 then txt " character" else txt " characters"

/-- The wording for a text that holds surrogates. -/
def surrogateComplaint : Text :=
  "Input should be a valid string, unable to parse raw data as a unicode string"

/-- The complaint about a text of a class and of a limited length. -/
def textComplaint? (kind : TextClass) (least most : Option Int) (value : Value) : Option Text :=
  match value with
  | .str s =>
    if (kind != .any || least.isSome || most.isSome) && s.any CodePoint.isSurrogate then
      some surrogateComplaint
    else
      match least.filter fun n => (s.length : Int) < n with
      | some n => some (txt "String should have at least " ++ characters n)
      | none =>
        match most.filter fun n => n < (s.length : Int) with
        | some n => some (txt "String should have at most " ++ characters n)
        | none =>
          if kind.holds s then none
          else some (txt "String should match pattern '" ++ kind.pattern ++ txt "'")
  | _ => some "Input should be a valid string"

/-- The complaint about an email address. -/
def emailComplaint? : Value → Option Text
  | .str s =>
    (Email.problem? s).map fun problem =>
      txt "value is not a valid email address: " ++ problem.text
  | _ => some "Input should be a valid string"

/-- The complaint about a URL. -/
def urlComplaint? : Value → Option Text
  | .str s =>
    if s.any CodePoint.isSurrogate then some surrogateComplaint
    else (Url.problem? s).map fun problem => txt "Input should be a valid URL, " ++ problem.text
  | _ => some "URL input should be a string or URL"

/-- The wording for a value that is not null. -/
def nullComplaint : Text := "Input should be None"

/-- The complaints about a number: none if it fits as an integer or as a double. -/
def numberComplaints (whole : Bool) (bounds : Bounds) (value : Value) : List Text :=
  match integerComplaint? bounds value, doubleComplaint? whole bounds value with
  | some integer, some double => [integer, double]
  | _, _ => []

/-- Whether an integer has at most sixty-four bits. -/
def isShort (n : Int) : Bool :=
  -(Nat.pow 2 63 : Nat) ≤ n && n < (Nat.pow 2 63 : Nat)

/-- The complaint about a value that cannot be compared with the one it should be. -/
def incomparable? (expected value : Value) : Option Text :=
  match expected, value with
  | .int _, .int n =>
    if isShort n then none
    else some "Unable to parse input string as an integer, exceeded maximum size"
  | .str _, .str s => if s.any CodePoint.isSurrogate then some surrogateComplaint else none
  | _, _ => none

/-- The complaint about a value that should be a given one. -/
def literalComplaint? (expected value : Value) : Option Text :=
  match incomparable? expected value with
  | some complaint => some complaint
  | none => if value == expected then none else some (txt "Input should be " ++ expected.shown)

mutual
/-- Whether a value has a shape. -/
def accepts : Shape → Value → Bool
  | .number whole bounds, v => (numberComplaints whole bounds v).isEmpty
  | .text kind least most, v => (textComplaint? kind least most v).isNone
  | .email, v => (emailComplaint? v).isNone
  | .url, v => (urlComplaint? v).isNone
  | .boolean, v => match v with
    | .bool _ => true
    | _ => false
  | .null, v => match v with
    | .null => true
    | _ => false
  | .undefined, v => match v with
    | .undefined => true
    | _ => false
  | .anything, _ => true
  | .literal expected, v => (literalComplaint? expected v).isNone
  | .array item, v => match v with
    | .list items => items.all fun v => accepts item v
    | _ => false
  | .union alternatives, v => anyAccepts alternatives v

/-- Whether a value has one of some shapes. -/
def anyAccepts : List Shape → Value → Bool
  | [], _ => false
  | shape :: rest, v => accepts shape v || anyAccepts rest v
end

mutual
/-- Whether a shape has no alternative but null. -/
def isNull : Shape → Bool
  | .null => true
  | .union alternatives => areNull alternatives
  | _ => false

/-- Whether no shape has an alternative but null. -/
def areNull : List Shape → Bool
  | [] => true
  | shape :: rest => isNull shape && areNull rest
end

mutual
/-- What is wrong with a value that does not have a shape. -/
def complaints : Shape → Value → List Text
  | .number whole bounds, v => numberComplaints whole bounds v
  | .text kind least most, v => (textComplaint? kind least most v).toList
  | .email, v => (emailComplaint? v).toList
  | .url, v => (urlComplaint? v).toList
  | .boolean, v => match v with
    | .bool _ => []
    | _ => ["Input should be a valid boolean"]
  | .null, v => match v with
    | .null => []
    | _ => [nullComplaint]
  | .undefined, v => match v with
    | .undefined => []
    | _ => ["Input should be an instance of _Undefined"]
  | .anything, _ => []
  | .literal expected, v => (literalComplaint? expected v).toList
  | .array item, v => match v with
    | .list items => items.flatMap fun v => complaints item v
    | _ => ["Input should be a valid list"]
  | .union alternatives, v =>
    if anyAccepts alternatives v then []
    else if areNull alternatives then [nullComplaint]
    else allComplaints alternatives v

/-- The complaints of alternatives none of which a value has. Null says nothing. -/
def allComplaints : List Shape → Value → List Text
  | [], _ => []
  | shape :: rest, v =>
    (if isNull shape then [] else complaints shape v) ++ allComplaints rest v
end

/-- Whether a limit of a number can be checked: a whole number within the doubles, and within
sixty-four bits where it is written with a fraction. -/
def checkableLimit (limit : Limit) : Bool :=
  match limit.value with
  | .int n => (Binary64.ofInt n).isSome
  | .real x =>
    match Binary64.toInt? x with
    | some n => n.natAbs < Nat.pow 2 63
    | none => false

/-- Whether a limit of a length can be checked. -/
def checkableLength (n : Int) : Bool :=
  0 ≤ n && n.toNat < Nat.pow 2 64

/-- Whether a value can be what others are compared with. -/
def checkableLiteral : Value → Bool
  | .int n => isShort n
  | .str s => !s.any CodePoint.isSurrogate
  | _ => true

mutual
/-- Whether values can be checked against a shape. -/
def checkable : Shape → Bool
  | .number _ bounds => bounds.limits.all checkableLimit
  | .text _ least most => (least.toList ++ most.toList).all checkableLength
  | .literal expected => checkableLiteral expected
  | .array item => checkable item
  | .union alternatives => allCheckable alternatives
  | _ => true

/-- Whether values can be checked against each of some shapes. -/
def allCheckable : List Shape → Bool
  | [] => true
  | shape :: rest => checkable shape && allCheckable rest
end

end Shape

instance : Checker where
  checkable := Shape.checkable
  accepts := Shape.accepts
  complaints := Shape.complaints

end Mixfix
