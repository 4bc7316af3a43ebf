import Mixfix.Template
import Mixfix.Binary64.Rounded
import Mixfix.Value.Arithmetic
import Mixfix.Value.Display

/-!
# Values written at places

The letter of a place is a conversion. Three of them write any value as a text, and their precision
says how much of it is shown. The others take numbers: as integers in one of three bases, where the
precision is the least number of digits, as doubles, where it is the number of digits after the point
or in all, or as a code point, which has no precision.

Blanks fill up to the width, at the front or at the end. Zeros fill up numbers instead, between the
sign and the digits.
-/

set_option autoImplicit false

namespace Mixfix.Template

/-- The bases of integers. -/
inductive Base
  | octal
  | decimal
  | hexadecimal (upper : Bool)

/-- How a value is written. -/
inductive Conversion
  | plain
  | shown
  | asciiShown
  | integer (base : Base)
  | real (layout : Binary64.Layout) (upper : Bool)
  | codePoint

/-- The conversion of a letter. -/
def Conversion.ofLetter? (c : CodePoint) : Option Conversion :=
  if c = 's' then some .plain
  else if c = 'r' then some .shown
  else if c = 'a' then some .asciiShown
  else if c = 'd' || c = 'i' || c = 'u' then some (.integer .decimal)
  else if c = 'o' then some (.integer .octal)
  else if c = 'x' || c = 'X' then some (.integer (.hexadecimal (c == 'X')))
  else if c = 'e' || c = 'E' then some (.real .scientific (c == 'E'))
  else if c = 'f' || c = 'F' then some (.real .fixed (c == 'F'))
  else if c = 'g' || c = 'G' then some (.real .general (c == 'G'))
  else if c = 'c' then some .codePoint
  else none

/-- A value before it is filled up to a width. -/
structure Written where
  sign : Text
  /-- What shows the base of an integer. -/
  mark : Text
  body : Text
  isNumber : Bool

/-- What is no number as it is written. -/
def Written.ofText (s : Text) : Written :=
  ⟨[], [], s, false⟩

/-- The sign of a number. -/
def Flags.sign (flags : Flags) (negative : Bool) : Text :=
  if negative then txt "-"
  else if flags.plusSign then txt "+"
  else if flags.blankSign then txt " "
  else []

/-- A number as it is written: its digits may have a minus sign. -/
def Flags.number (flags : Flags) (mark digits : Text) : Written :=
  match Text.after? (txt "-") digits with
  | some body => ⟨flags.sign true, mark, body, true⟩
  | none => ⟨flags.sign false, mark, digits, true⟩

/-- Fills up what is written to a width. -/
def Flags.fillUp (flags : Flags) (width : Nat) (w : Written) : Text :=
  let missing := width - (w.sign.length + w.mark.length + w.body.length)
  let filling := fun (c : CodePoint) => List.replicate missing c
  if flags.leftAligned then w.sign ++ w.mark ++ w.body ++ filling ' '
  else if flags.zeroFilled && w.isNumber then w.sign ++ w.mark ++ filling '0' ++ w.body
  else filling ' ' ++ w.sign ++ w.mark ++ w.body

/-- A value as a text, cut off after so many code points. -/
def writeText (precision : Option Nat) (write : Value → Text) (v : Value) :
    Except OperationError Written :=
  if v.convertible then
    let s := write v
    .ok (.ofText ((precision.map s.take).getD s))
  else .error .tooManyDigits

/-- The integer that a value is written as in a base. Only in the decimal base it may be a double,
whose fraction is not written. -/
def wholeNumber (base : Base) (v : Value) : Except OperationError Int :=
  match v.number?, base with
  | some (.int n), _ => .ok n
  | some (.real x), .decimal =>
    match Binary64.truncated? x with
    | some n => .ok n
    | none => if x.isNaN then .error (.place .notANumber) else .error (.overflow .doubleToInteger)
  | _, _ => .error .unsupportedOperands

/-- The digits of a number in a base. -/
def Base.digits (base : Base) (n : Nat) : Text :=
  match base with
  | .octal => (Nat.toDigits 8 n).map CodePoint.ofChar
  | .decimal => Decimal.ofNat n
  | .hexadecimal false => Text.shortHex n
  | .hexadecimal true => (Text.shortHex n).map CodePoint.toUpper

/-- What shows a base. -/
def Base.mark : Base → Text
  | .octal => txt "0o"
  | .decimal => []
  | .hexadecimal false => txt "0x"
  | .hexadecimal true => txt "0X"

/-- The most digits that an integer is filled up to. -/
def mostIntegerDigits : Nat := largestPrecision - 3

/-- A value as an integer with at least so many digits. -/
def writeInteger (flags : Flags) (precision : Option Nat) (base : Base) (v : Value) :
    Except OperationError Written := do
  let n ← wholeNumber base v
  let least := precision.getD 0
  let isDecimal := match base with
    | .decimal => true
    | _ => false
  if mostIntegerDigits < least then throw (.overflow .digits)
  else if isDecimal && Decimal.tooLong ≤ n.natAbs then throw .tooManyDigits
  else
    let digits := base.digits n.natAbs
    return {
      sign := flags.sign (n < 0)
      mark := if flags.alternate then base.mark else []
      body := Binary64.zeros (least - digits.length) ++ digits
      isNumber := true }

/-- The digits of a double where no precision is given. -/
def standardPrecision : Nat := 6

/-- A value as a double. -/
def writeReal (flags : Flags) (precision : Option Nat) (layout : Binary64.Layout) (upper : Bool)
    (v : Value) : Except OperationError Written := do
  match v.number? with
  | none => throw .unsupportedOperands
  | some number =>
    let x ← number.toDouble
    let s := Binary64.writeRounded layout flags.alternate (precision.getD standardPrecision) x
    return flags.number [] (if upper then s.map CodePoint.toUpper else s)

/-- A value as a code point: itself, or the one whose number it is. -/
def writeCodePoint (v : Value) : Except OperationError Written :=
  match v, v.number? with
  | .str [c], _ => .ok (.ofText [c])
  | _, some (.int n) =>
    if 0 ≤ n && n < 0x110000 then .ok (.ofText [CodePoint.ofNat n.toNat])
    else .error (.overflow .codePoint)
  | _, _ => .error .unsupportedOperands

/-- A value as a conversion writes it. -/
def Conversion.write (conversion : Conversion) (flags : Flags) (precision : Option Nat) (v : Value) :
    Except OperationError Written :=
  match conversion with
  | .plain => writeText precision Value.plain v
  | .shown => writeText precision Value.shown v
  | .asciiShown => writeText precision (fun v => v.shown.asciiOnly) v
  | .integer base => writeInteger flags precision base v
  | .real layout upper => writeReal flags precision layout upper v
  | .codePoint => writeCodePoint v

/-- A value as it is written at a place. -/
def Place.write (place : Place) (conversion : Conversion) (v : Value) : Except OperationError Text :=
  do
  let w ← conversion.write place.flags place.precision? v
  return place.flags.fillUp place.minimum w

end Mixfix.Template
