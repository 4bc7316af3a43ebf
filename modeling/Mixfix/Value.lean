import Mixfix.Entries

/-!
# Values and nodes

Expressions are evaluated to values, and rules may put any value into a field of the nodes they
make, nodes included. So values and nodes are one family: a value may be a node, and a node has
values for fields.

The schema of a node is a text in every node that parsing makes. Nodes rebuilt from data keep
whatever the data holds in its place, so its type is `Value`.

A double that is no number differs from itself, but what holds it does not: a list is equal to itself
whatever is in it. So data marks where such a double stands, and two of one mark are the same one.
-/

set_option autoImplicit false

namespace Mixfix

/-- Where in data a double that is no number stands. All those in JSON texts are one, and all those in
YAML texts. -/
inductive Occurrence
  | json
  | yaml
  | place (n : Nat)
  deriving DecidableEq

mutual
/-- A value of the expression language, or of the data it is evaluated over. -/
inductive Value
  | null
  | undefined
  | bool (b : Bool)
  | int (n : Int)
  | float (x : Float)
  /-- A double that is no number and stands in data. -/
  | nan (occurrence : Occurrence)
  | str (s : Text)
  | list (items : List Value)
  | map (entries : List (Text × Value))
  | node (n : Node)

/-- A node of a syntax tree.

A literal keeps its source text, without the quotation marks of a string. A `const` is a matched
operator or bracket. A composite is what a rule with named elements makes of them. -/
inductive Node
  | literal (raw : Text) (value : Value) (schema : Value)
  | identifier (name : Text) (schema : Value)
  | const (schema : Value)
  | composite (rule : Text) (schema : Value) (fields : List (Text × Value))
end

instance : Inhabited Value := ⟨.null⟩

instance : Inhabited Node := ⟨.const .null⟩

/-- Named values: the fields of a node, or the evaluated elements of a rule. -/
abbrev Fields := Entries Value

/-- The schema that says nothing about a value. -/
def unknownSchema : Text := txt "unknown"

namespace Node

/-- The static type of a node. -/
def schema : Node → Value
  | .literal _ _ schema => schema
  | .identifier _ schema => schema
  | .const schema => schema
  | .composite _ schema _ => schema

/-- The name of a node's kind: a built-in kind, or the rule that made it. -/
def kind : Node → Text
  | .literal .. => txt "literal"
  | .identifier .. => txt "identifier"
  | .const _ => txt "const"
  | .composite rule .. => rule

end Node

namespace Value

/-- The schema of a value that is a node. -/
def schema? : Value → Option Value
  | .node n => some n.schema
  | _ => none

/-- Whether a value counts as true: all but null, undefined, false, zero and what is empty. -/
def truthy : Value → Bool
  | .null | .undefined => false
  | .bool b => b
  | .int n => n != 0
  | .float x => !(x == 0)
  | .nan _ => true
  | .str s => !s.isEmpty
  | .list items => !items.isEmpty
  | .map entries => !entries.isEmpty
  | .node _ => true

/-- Whether a value is a given text. -/
def isText (s : Text) : Value → Bool
  | .str t => t == s
  | _ => false

end Value

end Mixfix
