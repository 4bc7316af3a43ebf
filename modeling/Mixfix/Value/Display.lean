import Mixfix.Value
import Mixfix.Text.Quoted
import Mixfix.Binary64.Shortest

/-!
# Values in messages

How messages show a value and name its type.
-/

set_option autoImplicit false

namespace Mixfix

/-- Doubles in messages: positional from `0.0001` to below `10 ^ 16`, always with a fraction. -/
def messageStyle : Binary64.Style where
  leastPositional := -4
  endPositional := 16
  wholeFraction := true
  pointBeforeExponent := false
  nan := txt "nan"
  infinity := txt "inf"
  negativeInfinity := txt "-inf"

/-- A call with named arguments, as messages show a node. -/
private def shownCall (name : String) (arguments : List (String × Text)) : Text :=
  txt name ++ txt "(" ++
    Text.join (txt ", ") (arguments.map fun (key, value) => txt key ++ txt "=" ++ value) ++ txt ")"

mutual
/-- A value as messages show it. -/
def Value.shown : Value → Text
  | .null => txt "None"
  | .undefined => txt "undefined"
  | .bool b => if b then txt "True" else txt "False"
  | .int n => Decimal.ofInt n
  | .float x => messageStyle.write x
  | .nan _ => messageStyle.nan
  | .str s => s.quoted
  | .list items => txt "[" ++ Text.join (txt ", ") (shownItems items) ++ txt "]"
  | .map entries => txt "\x7b" ++ Text.join (txt ", ") (shownEntries entries) ++ txt "\x7d"
  | .node n => n.shown

/-- A node as messages show it. -/
def Node.shown : Node → Text
  | .literal raw value schema =>
    shownCall "LiteralNode"
      [("raw", raw.quoted), ("value", value.shown), ("output_schema", schema.shown)]
  | .identifier name schema =>
    shownCall "IdentifierNode" [("name", name.quoted), ("output_schema", schema.shown)]
  | .const schema => shownCall "ConstNode" [("output_schema", schema.shown)]
  | .composite rule schema fields =>
    shownCall "CompositeNode"
      [("node", rule.quoted), ("output_schema", schema.shown),
        ("fields", txt "\x7b" ++ Text.join (txt ", ") (shownEntries fields) ++ txt "\x7d")]

/-- Each value of a list as messages show it. -/
def shownItems : List Value → List Text
  | [] => []
  | value :: rest => value.shown :: shownItems rest

/-- Each entry of a map as messages show it. -/
def shownEntries : List (Text × Value) → List Text
  | [] => []
  | (key, value) :: rest => (key.quoted ++ txt ": " ++ value.shown) :: shownEntries rest
end

mutual
/-- Whether no integer in a value has more digits than are converted. -/
def Value.convertible : Value → Bool
  | .int n => n.natAbs < Decimal.tooLong
  | .list items => convertibleItems items
  | .map entries => convertibleEntries entries
  | .node n => n.convertible
  | _ => true

/-- Whether no integer in a node has more digits than are converted. -/
def Node.convertible : Node → Bool
  | .literal _ value schema => value.convertible && schema.convertible
  | .identifier _ schema => schema.convertible
  | .const schema => schema.convertible
  | .composite _ schema fields => schema.convertible && convertibleEntries fields

/-- Whether no integer in a list has more digits than are converted. -/
def convertibleItems : List Value → Bool
  | [] => true
  | value :: rest => value.convertible && convertibleItems rest

/-- Whether no integer in a map has more digits than are converted. -/
def convertibleEntries : List (Text × Value) → Bool
  | [] => true
  | (_, value) :: rest => value.convertible && convertibleEntries rest
end

/-- A value as plain text: a text is itself, all else is as in messages. -/
def Value.plain : Value → Text
  | .str s => s
  | value => value.shown

/-- The name that messages give to the type of a value. -/
def Value.typeName : Value → Text
  | .null => txt "NoneType"
  | .undefined => txt "_Undefined"
  | .bool _ => txt "bool"
  | .int _ => txt "int"
  | .float _ => txt "float"
  | .nan _ => txt "float"
  | .str _ => txt "str"
  | .list _ => txt "list"
  | .map _ => txt "dict"
  | .node (.literal ..) => txt "LiteralNode"
  | .node (.identifier ..) => txt "IdentifierNode"
  | .node (.const _) => txt "ConstNode"
  | .node (.composite ..) => txt "CompositeNode"

end Mixfix
