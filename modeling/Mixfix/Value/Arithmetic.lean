import Mixfix.Value.Compare
import Mixfix.Template

/-!
# Arithmetic on values

Integers are exact, and an operation with a double is done in doubles: the integer is first rounded
to the nearest double, which fails where there is none. The quotient of two integers is the double
nearest to it, however long the integers are. A remainder has the sign of the divisor.

`+` also joins two texts or two lists, and `*` repeats one.
-/

set_option autoImplicit false

namespace Mixfix

/-- Which operation met a zero divisor. -/
inductive ZeroDivision
  | integerQuotient
  | doubleQuotient
  | integerRemainder
  | doubleRemainder

/-- What went beyond a limit. -/
inductive Overflow
  /-- An integer is beyond the greatest double. -/
  | integerToDouble
  /-- A quotient of integers is beyond the greatest double. -/
  | quotient
  /-- The count of a repetition has more than sixty-four bits. -/
  | repetitionCount
  /-- The length of a repeated text has more than sixty-four bits. -/
  | repeatedText
  /-- An infinite double is to be an integer. -/
  | doubleToInteger
  /-- An integer is no code point. -/
  | codePoint
  /-- A width that is taken from a value has more than sixty-four bits. -/
  | width
  /-- A precision that is taken from a value has more than thirty-two bits. -/
  | precision
  /-- The digits of an integer are to be filled up to more than thirty-two bits can count. -/
  | digits

/-- The wording of an overflow. -/
def Overflow.message : Overflow → Text
  | .integerToDouble => txt "int too large to convert to float"
  | .quotient => txt "integer division result too large for a float"
  | .repetitionCount => txt "cannot fit 'int' into an index-sized integer"
  | .repeatedText => txt "repeated string is too long"
  | .doubleToInteger => txt "cannot convert float infinity to integer"
  | .codePoint => txt "%c arg not in range(0x110000)"
  | .width => txt "Python int too large to convert to C ssize_t"
  | .precision => txt "Python int too large to convert to C int"
  | .digits => txt "precision too large"

/-- Why an operation on values has no result. -/
inductive OperationError
  /-- The operands are of types that the operation does not take. -/
  | unsupportedOperands
  | zeroDivision (operation : ZeroDivision)
  | overflow (what : Overflow)
  | place (problem : Template.Problem)
  /-- The length of a repeated list has more than sixty-four bits. -/
  | outOfMemory
  /-- An integer has more digits than are converted. -/
  | tooManyDigits
  /-- A name that the operation needs has no value. -/
  | missingName

namespace OperationError

/-- The wording of an arithmetic failure. The other failures have none. -/
def arithmeticMessage? : OperationError → Option Text
  | .zeroDivision .integerQuotient => some "division by zero"
  | .zeroDivision .doubleQuotient => some "float division by zero"
  | .zeroDivision .integerRemainder => some "integer modulo by zero"
  | .zeroDivision .doubleRemainder => some "float modulo"
  | .overflow what => some what.message
  | _ => none

end OperationError

namespace Number

/-- The value of a number. -/
def toValue : Number → Value
  | .int n => .int n
  | .real x => .float x

/-- The double next to a number. -/
def toDouble : Number → Except OperationError Float
  | .real x => .ok x
  | .int n =>
    match Binary64.ofInt n with
    | some x => .ok x
    | none => .error (.overflow .integerToDouble)

/-- An operation that is exact on integers, and done in doubles where one operand is a double. -/
def combine (ints : Int → Int → Int) (reals : Float → Float → Float) (a b : Number) :
    Except OperationError Number :=
  match a, b with
  | .int m, .int n => .ok (.int (ints m n))
  | a, b => do
    let x ← a.toDouble
    let y ← b.toDouble
    return .real (reals x y)

/-- The quotient, always a double. -/
def quotient (a b : Number) : Except OperationError Number :=
  match a, b with
  | .int m, .int n =>
    if n = 0 then .error (.zeroDivision .integerQuotient)
    else
      match Binary64.ofRatio ((m < 0) != (n < 0)) m.natAbs n.natAbs with
      | some x => .ok (.real x)
      | none => .error (.overflow .quotient)
  | a, b => do
    let x ← a.toDouble
    let y ← b.toDouble
    if y == 0 then .error (.zeroDivision .doubleQuotient) else .ok (.real (x / y))

/-- The remainder of the quotient rounded down. -/
def remainder (a b : Number) : Except OperationError Number :=
  match a, b with
  | .int m, .int n =>
    if n = 0 then .error (.zeroDivision .integerRemainder) else .ok (.int (Int.fmod m n))
  | a, b => do
    let x ← a.toDouble
    let y ← b.toDouble
    if y == 0 then .error (.zeroDivision .doubleRemainder)
    else .ok (.real (Binary64.floorRemainder x y))

end Number

namespace Value

/-- The largest count and length. -/
def largestIndex : Nat := Nat.pow 2 63 - 1

/-- A list repeated, not at all where the count is negative. -/
def repeated {α : Type} (tooLong : OperationError) (items : List α) (count : Int) :
    Except OperationError (List α) :=
  if count < -(largestIndex : Int) - 1 || (largestIndex : Int) < count then
    .error (.overflow .repetitionCount)
  else if items.isEmpty then .ok []
  else
    let length := items.length * count.toNat
    if largestIndex < length then .error tooLong
    else .ok (List.replicate count.toNat items).flatten

/-- A text repeated. -/
def repeatedText (s : Text) (count : Int) : Except OperationError Value :=
  (repeated (.overflow .repeatedText) s count).map .str

/-- A list repeated. -/
def repeatedList (items : List Value) (count : Int) : Except OperationError Value :=
  (repeated .outOfMemory items count).map .list

/-- The integer that a value is, truth values included. -/
def integer? (v : Value) : Option Int :=
  match v.number? with
  | some (.int n) => some n
  | _ => none

/-- An arithmetic operation on two values that are numbers. -/
def arithmetic (operation : Number → Number → Except OperationError Number) (a b : Value) :
    Except OperationError Value :=
  match a.number?, b.number? with
  | some x, some y => (operation x y).map Number.toValue
  | _, _ => .error .unsupportedOperands

/-- The sum of two numbers, or two texts or two lists joined. -/
def add : Value → Value → Except OperationError Value
  | .str s, .str t => .ok (.str (s ++ t))
  | .list items, .list others => .ok (.list (items ++ others))
  | a, b => arithmetic (Number.combine (· + ·) (· + ·)) a b

/-- The difference of two numbers. -/
def sub (a b : Value) : Except OperationError Value :=
  arithmetic (Number.combine (· - ·) (· - ·)) a b

/-- The product of two numbers, or a text or list repeated. -/
def mul (a b : Value) : Except OperationError Value :=
  match a, a.integer?, b, b.integer? with
  | .str s, _, _, some n => repeatedText s n
  | _, some n, .str s, _ => repeatedText s n
  | .list items, _, _, some n => repeatedList items n
  | _, some n, .list items, _ => repeatedList items n
  | _, _, _, _ => arithmetic (Number.combine (· * ·) (· * ·)) a b

/-- The quotient of two numbers. -/
def div (a b : Value) : Except OperationError Value :=
  arithmetic Number.quotient a b

/-- Compares two values, if they have an order. -/
def compareWith (c : Comparison) (a b : Value) : Except OperationError Value :=
  match c.between? a b with
  | some result => .ok (.bool result)
  | none => .error .unsupportedOperands

end Value

end Mixfix
