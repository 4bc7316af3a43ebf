import Mixfix.Rule

/-!
# From matches to nodes

Once every element of a rule has matched, the matches become a node. Those of bound elements are its
fields, after the configuration of the rule where there is one. A lone match without a name passes
through, so a rule that only groups leaves no node of its own.

The schema of the node is the one the rule states. A union is taken over the schemas of the named
elements, and a rule that states nothing inherits the schema of its only bound element.

Parsing makes nodes whose schemas are texts. Values in the place of matches may have other schemas, of
which there is no union.
-/

set_option autoImplicit false

namespace Mixfix

/-- The matches of the bound elements under their names. -/
def boundMatches {α : Type} (pattern : List Element) (matched : List α) : Entries α :=
  Entries.ofList <| (pattern.zip matched).filterMap fun (element, item) =>
    element.binding.map fun name => (name, item)

/-- The schema of a value for a union: a text that says something. -/
def knownSchema? (value : Value) : Option Text :=
  match value.schema? with
  | some (.str schema) => if schema.isEmpty || schema == unknownSchema then none else some schema
  | _ => none

/-- The union of schemas: the distinct ones in ascending order. -/
def joinSchemas (schemas : List Text) : Text :=
  if schemas.isEmpty then unknownSchema else Text.join (txt " | ") (Text.sortedSet schemas)

/-- The union of the schemas of the named elements. -/
def unionSchema (bindings : Fields) (names : List Text) : Text :=
  joinSchemas <| names.filterMap fun name => (bindings.find? name).bind knownSchema?

/-- Whether the schema of a value can go into a union: it is a text, or says nothing. -/
def hasUnitableSchema (value : Value) : Bool :=
  match value.schema? with
  | none | some (.str _) => true
  | some schema => !schema.truthy

/-- The union of the schemas of the named elements, if there is one. -/
def unionSchema? (bindings : Fields) (names : List Text) : Option Text :=
  if names.all fun name => ((bindings.find? name).map hasUnitableSchema).getD true then
    some (unionSchema bindings names)
  else none

/-- The schema of the only bound element, unless it is empty. -/
def inheritedSchema? : Fields → Option Value
  | [(_, value)] => value.schema?.filter Value.truthy
  | _ => none

namespace Rule

/-- The schema of the node that a rule makes of its bound elements. -/
def resultSchema (rule : Rule) (bindings : Fields) : Value :=
  match rule.resultType with
  | .union names => .str (unionSchema bindings names)
  | .fixed schema =>
    if schema == unknownSchema then (inheritedSchema? bindings).getD (.str schema) else .str schema

/-- The node that a rule makes of its bound elements. -/
def compositeNode (rule : Rule) (bindings : Fields) (context : Context) : Node :=
  .composite rule.name (rule.resultSchema bindings)
    (match rule.configure with
    | some configure => configure bindings context
    | none => bindings)

/-- The only match of a rule that binds nothing. -/
def lone? {α : Type} (bindings : Entries α) (matched : List α) : Option α :=
  match bindings, matched with
  | [], [item] => some item
  | _, _ => none

/-- What a rule makes of the nodes that its elements matched. -/
def assemble (rule : Rule) (matched : List Node) (context : Context) : Node :=
  let bindings := boundMatches rule.pattern matched
  match lone? bindings matched with
  | some node => node
  | none => rule.compositeNode (bindings.map fun (name, node) => (name, .node node)) context

/-- Whether the schema of the node that a rule makes of its bound elements can be told. -/
def hasResultSchema (rule : Rule) (bindings : Fields) : Bool :=
  match rule.resultType with
  | .union names => (unionSchema? bindings names).isSome
  | .fixed _ => true

/-- What a rule makes of values in the place of its matches, if there is a schema for it. -/
def assembleValues? (rule : Rule) (matched : List Value) (context : Context) : Option Value :=
  let bindings := boundMatches rule.pattern matched
  match lone? bindings matched with
  | some value => some value
  | none =>
    if rule.hasResultSchema bindings then some (.node (rule.compositeNode bindings context)) else none

end Rule

end Mixfix
