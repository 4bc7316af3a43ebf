import Mixfix.Grammar
import Mixfix.Rule.Assembly
import Mixfix.Parse.Terminal

/-!
# The parsing engine

A parse from a level tries the rules of that level in order, then those of the next, and takes the
first that matches. A rule matches when all its elements match one after the other. A subexpression
is parsed from a level that its role says:

- `lhs`: the level after that of the rule,
- `rhs`: the level of the rule, so that chains of one operator nest to the right,
- `expr`: the first level.

A subexpression that is required to have a schema does not match when it has another one, and the
engine goes on to the next rule. So an operator can mean different things on operands of different
schemas.

The engine is one definition for any monad `m`. The `Hooks` say what happens besides the matching:
whether results are remembered and whether progress is recorded. It takes fuel, one unit for each
parse inside another. As each of these starts further on in the text or at a later level, `depth`
is enough, unless a rule begins with a subexpression of its own level or of all levels.
-/

set_option autoImplicit false

namespace Mixfix

open Decimal (TooManyDigits)

/-- Why a parse is broken off. -/
inductive Interruption
  /-- An integer has more digits than are converted. -/
  | tooManyDigits
  /-- A rule begins with itself. -/
  | endlessRecursion

/-- A node and the text after it, where there is a match. -/
abbrev Found := Option (Match Node)

/-- What happens besides the matching. -/
structure Hooks (m : Type → Type) where
  /-- A terminal matched and left a text. -/
  reached : Text → m Unit
  /-- Stands around each parse of a text from a level. -/
  remember : Nat → Text → m Found → m Found
  /-- Breaks the parse off. -/
  interrupt : Interruption → m Found

/-- The level that a subexpression of a rule is parsed from. -/
def Role.start (role : Role) (level : Nat) : Nat :=
  match role with
  | .lhs => level + 1
  | .rhs => level
  | .expr => 0

/-- Whether a node has the schema that is required. -/
def meets (constraint : Option Text) (node : Node) : Bool :=
  match constraint with
  | some schema => node.schema.isText schema
  | none => true

namespace Engine

variable {m : Type → Type} [Monad m]

/-- The first result of a list of attempts. -/
def firstSome {α β : Type} (attempt : α → m (Option β)) : List α → m (Option β)
  | [] => return none
  | a :: rest => do
    match ← attempt a with
    | some result => return some result
    | none => firstSome attempt rest

/-- Matches one element of a rule of a level. -/
def matchElement (hooks : Hooks m) (parse : Nat → Text → m Found) (context : Context) (level : Nat)
    (kind : ElementKind) (s : Text) : m Found :=
  match kind with
  | .subexpression role constraint => do
    let found ← parse (role.start level) s
    return found.filter fun result => meets constraint result.value
  | .terminal t =>
    match t.match? context s with
    | .error .tooManyDigits => hooks.interrupt .tooManyDigits
    | .ok none => return none
    | .ok (some result) => do
      hooks.reached result.rest
      return some result

/-- Matches elements one after the other. -/
def matchElements (hooks : Hooks m) (parse : Nat → Text → m Found) (context : Context)
    (level : Nat) : List Element → Text → m (Option (Match (List Node)))
  | [], s => return some ⟨[], s⟩
  | element :: rest, s => do
    match ← matchElement hooks parse context level element.kind s with
    | none => return none
    | some first =>
      match ← matchElements hooks parse context level rest first.rest with
      | none => return none
      | some others => return some ⟨first.value :: others.value, others.rest⟩

/-- Matches a rule of a level. -/
def matchRule (hooks : Hooks m) (parse : Nat → Text → m Found) (context : Context) (level : Nat)
    (rule : Rule) (s : Text) : m Found := do
  let found ← matchElements hooks parse context level rule.pattern s
  return found.map fun matched => ⟨rule.assemble matched.value context, matched.rest⟩

/-- The rules from a level on, with their levels. -/
def candidates (grammar : Grammar) (start : Nat) : List (Nat × Rule) :=
  ((grammar.drop start).zipIdx start).flatMap fun (level, index) =>
    level.rules.map fun rule => (index, rule)

/-- Parses a text from a level on. -/
def parseFrom (hooks : Hooks m) (grammar : Grammar) (context : Context) :
    Nat → Nat → Text → m Found
  | 0, _, _ => hooks.interrupt .endlessRecursion
  | fuel + 1, start, s =>
    hooks.remember start s <|
      firstSome
        (fun (index, rule) =>
          matchRule hooks (parseFrom hooks grammar context fuel) context index rule s)
        (candidates grammar start)

/-- How deep the parses of a text can be nested. -/
def depth (grammar : Grammar) (s : Text) : Nat :=
  (s.length + 1) * (grammar.length + 1) + 1

end Engine

end Mixfix
