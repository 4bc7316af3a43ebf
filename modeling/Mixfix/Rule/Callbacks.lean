import Mixfix.Rule

/-!
# Configurations and evaluations

The usual ways to turn bound elements into the fields of a node, and the values of bound elements
into the value of a node.
-/

set_option autoImplicit false

namespace Mixfix

namespace Evaluation

/-- The value under a name, which has to be there. -/
def named (values : Fields) (name : Text) : Except OperationError Value :=
  match values.find? name with
  | some value => .ok value
  | none => .error .missingName

/-- An operation on the values of two elements. -/
def binary (operation : Value → Value → Except OperationError Value) (left right : Text) :
    Evaluation :=
  fun values _ => do
    let a ← named values left
    let b ← named values right
    operation a b

/-- The values of all elements, as a map. -/
def all : Evaluation :=
  fun values _ => .ok (.map values)

/-- The names of all elements in ascending order. -/
def sortedNames : Evaluation :=
  fun values _ => .ok (.list ((Text.sortedSet (Entries.names values)).map Value.str))

/-- The value of one element. -/
def get (name : Text) : Evaluation :=
  fun values _ => named values name

/-- The values of some elements, as a list. -/
def list (names : List Text) : Evaluation :=
  fun values _ => do return .list (← names.mapM (named values))

/-- An entry of the data. -/
def fromData (key : Text) : Evaluation :=
  fun _ data => named data key

/-- The first value that is not null among the values of some elements. -/
def firstPresent (names : List Text) : Evaluation :=
  fun values _ => go values names
where
  /-- Looks at one element after the other and stops at the first that has a value. -/
  go (values : Fields) : List Text → Except OperationError Value
    | [] => .ok .null
    | name :: rest => do
      match ← named values name with
      | .null => go values rest
      | value => return value

/-- One value for all. -/
def constant (value : Value) : Evaluation :=
  fun _ _ => .ok value

end Evaluation

namespace Configuration

/-- Keeps the elements of some names. -/
def keep (names : List Text) : Configuration :=
  fun bindings _ => bindings.filter fun entry => names.contains entry.1

/-- Renames elements. Where two get one name the later one stays. -/
def rename (newNames : Entries Text) : Configuration :=
  fun bindings _ =>
    Entries.ofList (bindings.map fun (name, value) => ((newNames.find? name).getD name, value))

/-- Adds fields, in the place of elements of the same names. -/
def extra (fields : Fields) : Configuration :=
  fun bindings _ => Entries.putAll bindings fields

/-- Puts the name of an identifier in the place of its node. -/
def identifierNames : Configuration :=
  fun bindings _ => bindings.map fun
    | (key, .node (.identifier name _)) => (key, .str name)
    | entry => entry

/-- Adds the declared schemas as a field. -/
def withContext : Configuration :=
  fun bindings context =>
    Entries.put (txt "context") (.map (context.map fun (name, schema) => (name, .str schema))) bindings

end Configuration

end Mixfix
