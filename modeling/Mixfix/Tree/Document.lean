import Mixfix.Json.Writer

/-!
# Trees as plain data

A node as a map: its kind under `node`, its schema under `outputSchema`, and its parts under their
own names. `toDocument` makes such a map of a node, and `ofDocument` makes a node of a map that has
what its kind requires.

The undefined value is no data. As the value of a literal it is left out, and the schema tells that
it was there. In a field it becomes null.
-/

set_option autoImplicit false

namespace Mixfix

/-- Why a value is no node. -/
inductive InvalidNode
  | notNode (typeName : Text)
  | notMapping (typeName : Text)
  | noKind
  | literalWithoutValue
  | identifierWithoutName
  | parenthesesWithoutInner

/-- The wording of the reason. -/
def InvalidNode.message : InvalidNode → Text
  | .notNode typeName => txt "Invalid AST node: expected an AST node, got " ++ typeName
  | .notMapping typeName => txt "Invalid AST node: expected mapping, got " ++ typeName
  | .noKind => txt "Invalid AST node: missing 'node' key"
  | .literalWithoutValue => txt "Literal node missing 'value' key"
  | .identifierWithoutName => txt "Identifier node missing 'name' key"
  | .parenthesesWithoutInner => txt "Parentheses node missing 'inner' field"

namespace Tree

/-- The key of the kind of a node. -/
def kindKey : Text := txt "node"

/-- The key of the schema of a node. -/
def schemaKey : Text := txt "outputSchema"

/-- Whether a key is taken for the kind or the schema of a node. -/
def isReserved (key : Text) : Bool :=
  key == kindKey || key == schemaKey

/-- Why a tree has no form as plain data. -/
inductive DocumentError
  | invalid (reason : InvalidNode)
  /-- A field has the name of a key that is taken. -/
  | reservedField (field kind : Text)

/-- The wording of the error. -/
def DocumentError.message : DocumentError → Text
  | .invalid reason => reason.message
  | .reservedField field kind =>
    txt "Field " ++ field.quoted ++ txt " of node " ++ kind.quoted ++
      txt " collides with a reserved key"

/-- The entries that say what a node is. -/
def heading (kind : Text) (schema : Value) : Fields :=
  [(kindKey, .str kind), (schemaKey, schema)]

mutual
/-- A node as plain data. -/
def nodeDocument : Node → Except DocumentError Value
  | .literal raw value schema =>
    .ok (.map (heading (txt "literal") schema ++ [(txt "raw", .str raw)] ++
      match value with
      | .undefined => []
      | value => [(txt "value", value)]))
  | .identifier name schema =>
    .ok (.map (heading (txt "identifier") schema ++ [(txt "name", .str name)]))
  | .const schema => .ok (.map (heading (txt "const") schema))
  | .composite rule schema fields => do
    return .map (heading rule schema ++ (← fieldDocuments rule fields))

/-- The fields of a node as plain data. -/
def fieldDocuments (kind : Text) : List (Text × Value) → Except DocumentError Fields
  | [] => .ok []
  | (key, value) :: rest =>
    if isReserved key then .error (.reservedField key kind)
    else do
      let first ← valueDocument value
      return (key, first) :: (← fieldDocuments kind rest)

/-- A value in a field as plain data. -/
def valueDocument : Value → Except DocumentError Value
  | .node n => nodeDocument n
  | .list items => do return .list (← itemDocuments items)
  | .map entries => do return .map (← entryDocuments entries)
  | .undefined => .ok .null
  | value => .ok value

/-- Each value of a list as plain data. -/
def itemDocuments : List Value → Except DocumentError (List Value)
  | [] => .ok []
  | value :: rest => do
    let first ← valueDocument value
    return first :: (← itemDocuments rest)

/-- Each entry of a map as plain data. -/
def entryDocuments : List (Text × Value) → Except DocumentError Fields
  | [] => .ok []
  | (key, value) :: rest => do
    let first ← valueDocument value
    return (key, first) :: (← entryDocuments rest)
end

/-- A tree as plain data. -/
def toDocument : Value → Except DocumentError Value
  | .node n => nodeDocument n
  | value => .error (.invalid (.notNode value.typeName))

/-- Why plain data is not read as a tree. -/
inductive ReadError
  | invalid (reason : InvalidNode)
  /-- The source text of a literal has an integer with more digits than are converted. -/
  | tooManyDigits

/-- A value as a source text. -/
def plainSource (value : Value) : Except ReadError Text :=
  if value.convertible then .ok value.plain else .error .tooManyDigits

/-- The source text of a literal that comes without one: JSON, or how messages show the value where that
fails. -/
def literalSource (value : Value) : Except ReadError Text :=
  match value with
  | .undefined => .ok (txt "undefined")
  | value =>
    match Json.writeLine value with
    | .ok s => .ok s
    | .error _ => plainSource value

/-- What the map of a node says before its fields are looked at. -/
inductive Heading
  | leaf (n : Node)
  | composite (rule : Text) (schema : Value)

/-- The source text of a literal that a map describes. -/
def sourceOf (entries : Fields) (value : Value) : Except ReadError Text :=
  match entries.find? (txt "raw") with
  | none | some .null => literalSource value
  | some raw => plainSource raw

/-- The value of a literal that a map describes. -/
def valueOf (schema : Value) (entries : Fields) : Except ReadError Value :=
  match entries.find? (txt "value") with
  | some value => .ok value
  | none =>
    if schema.isText (txt "undefined") then .ok .undefined
    else .error (.invalid .literalWithoutValue)

/-- The literal that a map describes. -/
def literalOf (schema : Value) (entries : Fields) : Except ReadError Node := do
  let value ← valueOf schema entries
  return .literal (← sourceOf entries value) value schema

/-- The kind of the node that a map describes, and the node if it has no fields. -/
def headingOf (entries : Fields) : Except ReadError Heading :=
  let schema := (entries.find? schemaKey).getD (.str unknownSchema)
  match entries.find? kindKey with
  | some (.str kind) =>
    if kind == txt "literal" then (literalOf schema entries).map .leaf
    else if kind == txt "identifier" then
      match entries.find? (txt "name") with
      | some (.str name) => .ok (.leaf (.identifier name schema))
      | _ => .error (.invalid .identifierWithoutName)
    else if kind == txt "const" then .ok (.leaf (.const schema))
    else .ok (.composite kind schema)
  | _ => .error (.invalid .noKind)

mutual
/-- A value in a field, where every map with a kind is a node. -/
def fieldValue : Value → Except ReadError Value
  | .map entries =>
    if Entries.has kindKey entries then do
      match ← headingOf entries with
      | .leaf n => return .node n
      | .composite rule schema => return .node (.composite rule schema (← fieldsOf entries))
    else .ok (.map entries)
  | .list items => do return .list (← itemsOf items)
  | value => .ok value

/-- The values of a list. -/
def itemsOf : List Value → Except ReadError (List Value)
  | [] => .ok []
  | value :: rest => do
    let first ← fieldValue value
    return first :: (← itemsOf rest)

/-- The fields of a node: the entries whose keys are not taken. -/
def fieldsOf : List (Text × Value) → Except ReadError Fields
  | [] => .ok []
  | (key, value) :: rest =>
    if isReserved key then fieldsOf rest
    else do
      let first ← fieldValue value
      return (key, first) :: (← fieldsOf rest)
end

/-- The node that plain data describes. A node describes itself. -/
def ofDocument : Value → Except ReadError Node
  | .node n => .ok n
  | .map entries => do
    match ← headingOf entries with
    | .leaf n => return n
    | .composite rule schema => return .composite rule schema (← fieldsOf entries)
  | value => .error (.invalid (.notMapping value.typeName))

/-- The static type of a tree. -/
def infer : Value → Except InvalidNode Value
  | .node n => .ok n.schema
  | value => .error (.notNode value.typeName)

end Tree

end Mixfix
