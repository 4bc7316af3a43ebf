import Mixfix.Rule
import Mixfix.Tree.Document
import Mixfix.Validator

/-!
# Evaluation

A literal has its value, and an identifier has the value that the data holds under its name, checked
against the schema of the identifier. Parentheses have the value of what is inside. Any other node
has the value that the rule of its kind computes from its fields: those that are named by bound
elements of the rule and are still there. They are evaluated in the order of the pattern.

Descriptors that were compiled stay in the cache, also when the evaluation fails later.
-/

set_option autoImplicit false

namespace Mixfix

/-- Why a tree has no value. -/
inductive EvalError
  | invalidNode (reason : InvalidNode)
  | unknownKind (kind : Text)
  | missingEvaluation (kind : Text)
  | constNode
  | undefinedVariable (name : Text)
  | failedValidation (name schema reason : Text)
  /-- The schema of an identifier is no descriptor. -/
  | schemaType
  | compile (error : CompileError)
  | operation (error : OperationError)
  /-- The source text of a literal has an integer with more digits than are converted. -/
  | tooManyDigits

/-- The wording of an error, where there is one. -/
def EvalError.message? : EvalError → Option Text
  | .invalidNode reason => some reason.message
  | .unknownKind kind =>
    some (txt "Unknown node type: " ++ kind ++
      txt ". Make sure to pass all node schemas to evaluate().")
  | .missingEvaluation kind =>
    some (txt "Node type " ++ kind.quoted ++ txt " has no eval function defined")
  | .constNode => some (txt "Cannot evaluate const node directly")
  | .undefinedVariable name => some (txt "Undefined variable: " ++ name)
  | .failedValidation name schema reason =>
    some (txt "Variable " ++ name.quoted ++ txt " failed validation for schema " ++
      schema.quoted ++ txt ": " ++ reason)
  | .schemaType => none
  | .compile error => error.message?
  | .operation error => error.arithmeticMessage?
  | .tooManyDigits => none

/-- The failure where plain data is not read. -/
def EvalError.ofRead : Tree.ReadError → EvalError
  | .invalid reason => .invalidNode reason
  | .tooManyDigits => .tooManyDigits

/-- A computation that may fail and that keeps compiled descriptors. -/
abbrev EvalM := ExceptT EvalError (StateM ShapeCache)

namespace Eval

/-- Checks a value against a descriptor, with the cache. -/
def check [Checker] (value : Value) (descriptor : Option Text) : EvalM Verdict := do
  match (← get).validate value descriptor with
  | .error e => throw (.compile e)
  | .ok (verdict, cache) => do
    set cache
    return verdict

/-- The descriptor that the schema of a node is. -/
def descriptor? : Value → Except EvalError (Option Text)
  | .null => .ok none
  | .str s => .ok (some s)
  | _ => .error .schemaType

/-- The value of an identifier. -/
def identifier [Checker] (data : Fields) (name : Text) (schema : Value) : EvalM Value :=
  match data.find? name with
  | none => throw (.undefinedVariable name)
  | some value => do
    let descriptor ← descriptor? schema
    let verdict ← check value descriptor
    if verdict.ok then return value
    else throw (.failedValidation name (descriptor.getD []) verdict.reason)

/-- Evaluates the fields that bound elements name, in the order of the elements. -/
def boundFields (fields : Entries (EvalM Value)) : List Text → EvalM Fields
  | [] => return []
  | name :: rest =>
    match fields.find? name with
    | none => boundFields fields rest
    | some run => do
      let value ← run
      return (name, value) :: (← boundFields fields rest)

/-- The value of a node with fields, which are given as their evaluations. -/
def composite (rules : List Rule) (data : Fields) (kind : Text) (fields : Entries (EvalM Value)) :
    EvalM Value :=
  if kind == txt "parentheses" then
    match fields.find? (txt "inner") with
    | some run => run
    | none => throw (.invalidNode .parenthesesWithoutInner)
  else
    match rules.find? fun rule => rule.name == kind with
    | none => throw (.unknownKind kind)
    | some rule =>
      match rule.eval with
      | none => throw (.missingEvaluation kind)
      | some run => do
        let values ← boundFields fields rule.bindingNames
        match run (Entries.ofList values) data with
        | .ok value => return value
        | .error e => throw (.operation e)

variable [Checker]

mutual
/-- The value of a tree. -/
def value (rules : List Rule) (data : Fields) : Value → EvalM Value
  | .node n => node rules data n
  | v => throw (.invalidNode (.notNode v.typeName))

/-- The value of a node. -/
def node (rules : List Rule) (data : Fields) : Node → EvalM Value
  | .literal _ v _ => return v
  | .identifier name schema => identifier data name schema
  | .const _ => throw .constNode
  | .composite kind _ fields => composite rules data kind (evaluations rules data fields)

/-- The evaluations of the fields of a node. -/
def evaluations (rules : List Rule) (data : Fields) :
    List (Text × Value) → Entries (EvalM Value)
  | [] => []
  | (key, v) :: rest => (key, value rules data v) :: evaluations rules data rest
end

end Eval

/-- The value of a tree, or of the tree that plain data describes. -/
def evaluate [Checker] (rules : List Rule) (data : Fields) (tree : Value) : EvalM Value := do
  match tree with
  | .node n => Eval.node rules data n
  | document =>
    match Tree.ofDocument document with
    | .ok n => Eval.node rules data n
    | .error e => throw (.ofRead e)

/-- The value of a tree with no descriptor compiled before. -/
def evaluateOnce [Checker] (rules : List Rule) (data : Fields) (tree : Value) : Except EvalError Value :=
  (evaluate rules data tree []).1

end Mixfix
