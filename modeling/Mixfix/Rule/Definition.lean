import Mixfix.Rule
import Mixfix.Value.Display

/-!
# Defining rules

What a rule definition gives may be anything, so a draft of a rule holds values where a rule holds an
integer, a pattern element or a result type. `define` makes a rule of a draft or reports the first
thing that is wrong with it.

Some names belong to the nodes that every grammar has, and a rule cannot take them.
-/

set_option autoImplicit false

namespace Mixfix

/-- The names of the nodes that every grammar has. -/
def reservedNodeNames : List Text :=
  ["literal", "identifier", "const", "parentheses"]

/-- What is wrong with a rule or with a set of rules. -/
inductive DefinitionProblem
  | emptyConst
  | noQuotationMark
  | emptyBinding
  | emptyName
  | reservedName
  /-- The precedence is a value of another type. -/
  | precedenceType (value : Value)
  | notAnElement (value : Value)
  | emptyPattern
  | repeatedBinding (name : Text)
  | notAResultType (value : Value)
  /-- The result type is the union of elements of which these are not there. -/
  | unboundUnion (names : List Text)
  | repeatedRule

/-- A rule or a set of rules that cannot be used. -/
structure DefinitionError where
  problem : DefinitionProblem
  /-- The rule with the problem, if it has a name already. -/
  rule : Option Text

namespace DefinitionProblem

/-- The wording of a problem. -/
def text : DefinitionProblem → Text
  | .emptyConst => txt "const() needs a non-empty string"
  | .noQuotationMark => txt "string() needs at least one non-empty quote character"
  | .emptyBinding => txt "binding name must be a non-empty string"
  | .emptyName => txt "node name must be a non-empty string"
  | .reservedName => txt "name is reserved for built-in nodes"
  | .precedenceType value => txt "precedence must be an int, got " ++ value.typeName
  | .notAnElement value =>
    txt "pattern element " ++ value.shown ++ txt " is not a grammarkit pattern element"
  | .emptyPattern => txt "pattern must contain at least one element"
  | .repeatedBinding name => txt "binding " ++ name.quoted ++ txt " is bound more than once"
  | .notAResultType value =>
    txt "result_type must be a descriptor string or ComputedUnion, got " ++ value.shown
  | .unboundUnion names =>
    txt "union result type names unbound bindings " ++ Text.quotedList names
  | .repeatedRule => txt "rule name is defined more than once"

end DefinitionProblem

/-- The wording of a definition error, which names the rule. -/
def DefinitionError.message (error : DefinitionError) : Text :=
  match error.rule with
  | some name => txt "Invalid node " ++ name.quoted ++ txt ": " ++ error.problem.text
  | none => error.problem.text

/-- An element of a pattern, checked: no constant is empty, no string is without quotation marks,
and no name is empty. -/
def Element.define (kind : ElementKind) (binding : Option Text) :
    Except DefinitionError Element := do
  match kind with
  | .terminal (.const []) => throw ⟨.emptyConst, none⟩
  | .terminal (.string marks) =>
    if marks.isEmpty || marks.any List.isEmpty then throw ⟨.noQuotationMark, none⟩
  | _ => pure ()
  if binding == some [] then throw ⟨.emptyBinding, none⟩
  return { kind, binding }

/-- What a rule definition gives as an element. -/
inductive ElementDraft
  | element (e : Element)
  | other (value : Value)

/-- What a rule definition gives as a result type. -/
inductive ResultDraft
  | result (type : ResultType)
  | other (value : Value)

/-- A rule definition before it is checked. -/
structure RuleDraft where
  name : Option Text
  pattern : List ElementDraft
  precedence : Value
  resultType : ResultDraft
  configure : Option Configuration
  eval : Option Evaluation

/-- The first text of a list that occurs in it before. -/
def firstRepeated? : List Text → Option Text :=
  go []
where
  /-- The first text that is among those before it. -/
  go (seen : List Text) : List Text → Option Text
    | [] => none
    | s :: rest => if seen.contains s then some s else go (s :: seen) rest

namespace RuleDraft

/-- The name of a draft, if a rule can take it. -/
def checkedName (draft : RuleDraft) : Except DefinitionError Text :=
  match draft.name with
  | none | some [] => throw ⟨.emptyName, none⟩
  | some name => if reservedNodeNames.contains name then throw ⟨.reservedName, name⟩ else .ok name

/-- The precedence of a draft, if it is an integer. -/
def checkedPrecedence (draft : RuleDraft) (name : Text) : Except DefinitionError Int :=
  match draft.precedence with
  | .int n => .ok n
  | value => throw ⟨.precedenceType value, name⟩

/-- The pattern of a draft, if it has elements and binds no name twice. -/
def checkedPattern (draft : RuleDraft) (name : Text) : Except DefinitionError (List Element) := do
  let pattern ← draft.pattern.mapM fun
    | .element e => pure e
    | .other value => throw ⟨.notAnElement value, some name⟩
  if pattern.isEmpty then throw ⟨.emptyPattern, name⟩
  match firstRepeated? (pattern.filterMap Element.binding) with
  | some binding => throw ⟨.repeatedBinding binding, name⟩
  | none => return pattern

/-- The result type of a draft, if it is one and names bound elements only. -/
def checkedResult (draft : RuleDraft) (name : Text) (pattern : List Element) :
    Except DefinitionError ResultType :=
  match draft.resultType with
  | .other value => throw ⟨.notAResultType value, name⟩
  | .result (.fixed schema) => .ok (.fixed schema)
  | .result (.union names) =>
    let bound := pattern.filterMap Element.binding
    match names.filter fun n => !bound.contains n with
    | [] => .ok (.union names)
    | missing => throw ⟨.unboundUnion missing, name⟩

/-- The rule that a draft describes. -/
def define (draft : RuleDraft) : Except DefinitionError Rule := do
  let name ← draft.checkedName
  let precedence ← draft.checkedPrecedence name
  let pattern ← draft.checkedPattern name
  let resultType ← draft.checkedResult name pattern
  return {
    name, pattern, precedence, resultType, configure := draft.configure, eval := draft.eval }

end RuleDraft

end Mixfix
