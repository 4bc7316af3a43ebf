import Mixfix.Tree.Document
import Mixfix.Json.Reader
import Mixfix.Value.Compare
import Mixfix.Yaml

/-!
# Trees as JSON and YAML

A tree goes to JSON and YAML through its form as plain data, and comes back the same way.
-/

set_option autoImplicit false

namespace Mixfix.Tree

/-- Why a tree is not written or not read. -/
inductive FormatError
  | document (error : DocumentError)
  | writeJson (error : Json.WriteError)
  | readJson (error : Json.ReadError)
  | writeYaml (error : Yaml.WriteError)
  | readYaml (error : Yaml.ReadError)
  | readDocument (error : ReadError)

/-- A tree as JSON. The step of the indentation may be missing. -/
def toJson (indent : Option Nat) (tree : Value) : Except FormatError Text := do
  let document ← (toDocument tree).mapError .document
  (Json.write ⟨indent, false⟩ document).mapError .writeJson

/-- The tree of a JSON text. -/
def ofJson (s : Text) : Except FormatError Node := do
  let document ← (Json.read s).mapError .readJson
  (ofDocument document).mapError .readDocument

section

variable [Yaml.Codec]

/-- A tree as YAML. -/
def toYaml (tree : Value) : Except FormatError Text := do
  match ← (toDocument tree).mapError .document with
  | .map entries => (Yaml.Codec.dump entries).mapError .writeYaml
  | _ => throw (.writeYaml .notData)

/-- The tree of a YAML text. -/
def ofYaml (s : Text) : Except FormatError Node := do
  let document ← (Yaml.Codec.load s).mapError .readYaml
  (ofDocument document).mapError .readDocument

end

/-- The step of the indentation where nothing else is said. -/
def standardIndent : Nat := 2

/-- Whether a tree comes back from plain data as it was. -/
def survivesDocument (tree : Value) : Except FormatError Bool := do
  let document ← (toDocument tree).mapError .document
  let back ← (ofDocument document).mapError .readDocument
  return Value.node back == tree

/-- Whether a tree comes back from JSON as it was. -/
def survivesJson (tree : Value) : Except FormatError Bool := do
  return Value.node (← ofJson (← toJson (some standardIndent) tree)) == tree

/-- Whether a tree comes back from YAML as it was. -/
def survivesYaml [Yaml.Codec] (tree : Value) : Except FormatError Bool := do
  return Value.node (← ofYaml (← toYaml tree)) == tree

end Mixfix.Tree
