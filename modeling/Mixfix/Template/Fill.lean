import Mixfix.Template.Conversion

/-!
# Filling templates

A template is filled from one value. A place without a name takes the value itself, which is then
used up, and a place with a name takes what the value has under the name. A value that can have names
need not be used. Any other has to be, and that once.

The value may also be the width or the precision of a place. It is used up by that, so no template
with such a place is filled in the end.
-/

set_option autoImplicit false

namespace Mixfix.Template

/-- What a value has under a name, for values that can have names. A list has nothing under any
name. -/
def lookUp? : Value → Option (Text → Except OperationError Value)
  | .map entries | .node (.composite _ _ entries) =>
    some fun name =>
      match Entries.find? name entries with
      | some value => .ok value
      | none => .error .missingName
  | .list _ => some fun _ => .error .unsupportedOperands
  | _ => none

/-- A part of a place, whose problem is one of the operation. -/
def checked {α : Type} : Except Problem α → Except OperationError α
  | .ok a => .ok a
  | .error problem => .error (.place problem)

/-- The value that a place takes, from the value that is left. -/
def Place.value (place : Place) (whole : Value) (left : Option Value) :
    Except OperationError (Option Value) :=
  match place.name with
  | none => .ok left
  | some name => do
    match lookUp? whole with
    | none => throw .unsupportedOperands
    | some named => return some (← named (← checked name))

/-- What is left of a value after a width or a precision. -/
def afterAmount (bits : Nat) (tooLarge : Overflow) (amount : Part Amount) (left : Option Value) :
    Except OperationError (Option Value) :=
  match amount with
  | none => .ok left
  | some amount => do
    match ← checked amount with
    | .given _ => return left
    | .taken =>
      match left.bind Value.integer? with
      | none => throw .unsupportedOperands
      | some n =>
        let limit : Int := Nat.pow 2 (bits - 1)
        if -limit ≤ n && n < limit then return none else throw (.overflow tooLarge)

/-- What is written at a place, `left` being what is left of the whole value. -/
def Place.fill (place : Place) (whole : Value) (left : Option Value) : Except OperationError Text := do
  let value ← place.value whole left
  let value ← afterAmount 64 .width place.width value
  let value ← afterAmount 32 .precision place.precision value
  let (letter, index) ← checked place.letter
  match value with
  | none => throw .unsupportedOperands
  | some v =>
    match Conversion.ofLetter? letter with
    | some conversion => place.write conversion v
    | none => throw (.place (.unknownLetter letter index))

/-- The text of some pieces, and what is left of the whole value after them. -/
def fillPieces (whole : Value) (left : Option Value) :
    List Piece → Except OperationError (Text × Option Value)
  | [] => .ok ([], left)
  | .point c :: rest => do
    let (s, left) ← fillPieces whole left rest
    return (c :: s, left)
  | .place place :: rest => do
    let written ← place.fill whole left
    let (s, left) ← fillPieces whole none rest
    return (written ++ s, left)

/-- A template filled from a value. -/
def fill (s : Text) (v : Value) : Except OperationError Text := do
  let (filled, left) ← fillPieces v (some v) (pieces s)
  if left.isSome && (lookUp? v).isNone then throw .unsupportedOperands else return filled

end Mixfix.Template

namespace Mixfix

/-- The remainder of two numbers, or a template filled from a value. -/
def Value.mod (a b : Value) : Except OperationError Value :=
  match a with
  | .str s => (Template.fill s b).map Value.str
  | a => arithmetic Number.remainder a b

end Mixfix
