import Mixfix.Value.Arithmetic

/-!
# Rules

A rule says what one kind of node looks like in the source text: a sequence of elements, each of them
a terminal or a subexpression. The precedence places the rule among the others, a lower one binding
looser. An element that is bound to a name becomes a field of the node, any other is matched and
dropped.
-/

set_option autoImplicit false

namespace Mixfix

/-- The declared schemas of variables. -/
abbrev Context := Entries Text

/-- Which rules may match a subexpression. -/
inductive Role
  /-- Those that bind tighter than the rule of the element. -/
  | lhs
  /-- Those that bind at least as tight as the rule of the element. -/
  | rhs
  /-- All rules. -/
  | expr
  deriving DecidableEq

/-- An element that one token matches. -/
inductive Terminal
  | number
  | string (marks : List Text)
  | identifier
  | const (value : Text)
  | null
  | boolean
  | undefined
  deriving DecidableEq

/-- What an element matches. -/
inductive ElementKind
  | terminal (t : Terminal)
  /-- A subexpression, and the schema that it must have. -/
  | subexpression (role : Role) (constraint : Option Text)
  deriving DecidableEq

/-- An element of a pattern, and the field that its match becomes. -/
structure Element where
  kind : ElementKind
  binding : Option Text
  deriving DecidableEq

/-- The schema of the nodes that a rule makes. -/
inductive ResultType
  | fixed (schema : Text)
  /-- The union of the schemas of the named elements. -/
  | union (names : List Text)
  deriving DecidableEq

/-- Turns the bound elements of a match into the fields of its node. -/
abbrev Configuration := Fields → Context → Fields

/-- Computes the value of a node from the values of its bound elements and from the data. -/
abbrev Evaluation := Fields → Fields → Except OperationError Value

/-- A rule. Without a configuration the bound elements are the fields of a node, and without an
evaluation a node has no value. -/
structure Rule where
  name : Text
  pattern : List Element
  precedence : Int
  resultType : ResultType
  configure : Option Configuration
  eval : Option Evaluation

/-- The names of the bound elements in order. -/
def Rule.bindingNames (rule : Rule) : List Text :=
  rule.pattern.filterMap Element.binding

end Mixfix
