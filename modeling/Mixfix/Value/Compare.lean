import Mixfix.Value
import Mixfix.Binary64

/-!
# Equality and order of values

Numbers are equal when they are the same number, whole or not, and `true` and `false` are the
numbers one and zero. Lists are equal item by item, maps name by name whatever their order, nodes
part by part. Values of different kinds are not equal, and equality never fails.

A double that is no number is equal to nothing. Inside of a list, a map or a node it is only asked
whether both sides hold the same one.

Order is defined between two numbers, two texts and two lists. A list is ordered by its first item
that differs.
-/

set_option autoImplicit false

namespace Mixfix

/-- A number: an unlimited integer or a double. -/
inductive Number
  | int (n : Int)
  | real (x : Float)

/-- The number that a value is, truth values included. -/
def Value.number? : Value → Option Number
  | .bool b => some (.int (if b then 1 else 0))
  | .int n => some (.int n)
  | .float x => some (.real x)
  | .nan _ => some (.real Binary64.notANumber)
  | _ => none

namespace Number

/-- The order of two doubles, which a value that is no number has with nothing. -/
def compareReals (x y : Float) : Option Ordering :=
  if x < y then some .lt else if y < x then some .gt else if x == y then some .eq else none

/-- The exact order of two numbers. -/
def compare? : Number → Number → Option Ordering
  | .int m, .int n => some (compare m n)
  | .int m, .real y => Binary64.compareInt m y
  | .real x, .int n => (Binary64.compareInt n x).map Ordering.swap
  | .real x, .real y => compareReals x y

/-- Whether two numbers are the same number. -/
def equal (a b : Number) : Bool :=
  compare? a b == some .eq

end Number

mutual
/-- Whether two values are equal. `inside` says whether they stand in values that are compared. -/
def Value.equal (inside : Bool) : Value → Value → Bool
  | .null, .null => true
  | .undefined, .undefined => true
  | .nan here, .nan there => inside && here == there
  | .str s, .str t => s == t
  | .list items, .list others => equalItems items others
  | .map entries, .map others => entries.length == others.length && equalEntries entries others
  | .node n, .node m => n.equal m
  | a, b =>
    match a.number?, b.number? with
    | some x, some y => x.equal y
    | _, _ => false

/-- Whether two nodes are of one kind and equal in their parts. -/
def Node.equal : Node → Node → Bool
  | .literal raw value schema, .literal raw' value' schema' =>
    raw == raw' && value.equal true value' && schema.equal true schema'
  | .identifier name schema, .identifier name' schema' => name == name' && schema.equal true schema'
  | .const schema, .const schema' => schema.equal true schema'
  | .composite rule schema fields, .composite rule' schema' fields' =>
    rule == rule' && schema.equal true schema' && fields.length == fields'.length &&
      equalEntries fields fields'
  | _, _ => false

/-- Whether two lists have equal items. -/
def equalItems : List Value → List Value → Bool
  | [], [] => true
  | a :: rest, b :: rest' => a.equal true b && equalItems rest rest'
  | _, _ => false

/-- Whether every entry has an equal in a map. -/
def equalEntries : List (Text × Value) → List (Text × Value) → Bool
  | [], _ => true
  | (key, value) :: rest, others =>
    (match Entries.find? key others with
      | some other => value.equal true other
      | none => false) && equalEntries rest others
end

instance : BEq Value := ⟨Value.equal false⟩

/-- One of the four comparisons. -/
inductive Comparison
  | lt
  | le
  | gt
  | ge

namespace Comparison

/-- Whether a comparison holds of two things in a given order. -/
def holds : Comparison → Ordering → Bool
  | .lt, o => o == .lt
  | .le, o => o != .gt
  | .gt, o => o == .gt
  | .ge, o => o != .lt

mutual
/-- Whether a comparison holds of two values, if they have an order. Nothing holds of a value that
is no number. -/
def between? (c : Comparison) : Value → Value → Option Bool
  | .str s, .str t => some (c.holds (if s < t then .lt else if s = t then .eq else .gt))
  | .list items, .list others => betweenItems? c items others
  | a, b =>
    match a.number?, b.number? with
    | some x, some y => some (((x.compare? y).map c.holds).getD false)
    | _, _ => none

/-- Compares two lists by the first items that differ, and else by their lengths. -/
def betweenItems? (c : Comparison) : List Value → List Value → Option Bool
  | [], [] => some (c.holds .eq)
  | [], _ :: _ => some (c.holds .lt)
  | _ :: _, [] => some (c.holds .gt)
  | a :: rest, b :: rest' =>
    if a.equal true b then betweenItems? c rest rest' else between? c a b
end

end Comparison

end Mixfix
