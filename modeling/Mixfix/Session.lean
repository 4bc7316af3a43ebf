import Mixfix.Outcome
import Mixfix.Eval

/-!
# Parsers

A parser is a grammar together with its rules and settings. What changes as it is used is the cache
of compiled descriptors. An expression is compiled by parsing it once, after all descriptors of its
context have been compiled, and can then be evaluated on any data.
-/

set_option autoImplicit false

namespace Mixfix

/-- A grammar with its rules and settings. -/
structure Parser where
  rules : List Rule
  grammar : Grammar
  settings : Settings

/-- A parsed expression and the context it was parsed in. -/
structure Expression where
  ast : Node
  context : Context

/-- Why an expression does not compile. -/
inductive ExpressionError
  | descriptor (error : CompileError)
  | broken (reason : Interruption)
  | rejected (diagnostic : Diagnostic)

/-- The kind and the schema of an expression as messages show them. -/
def Expression.shown (e : Expression) : Text :=
  txt "BoundEvaluator(node=" ++ e.ast.kind.quoted ++ txt ", output_schema=" ++ e.ast.schema.shown ++
    txt ")"

namespace Parser

/-- The parser of some rules. -/
def make (rules : List Rule) (settings : Settings) : Except DefinitionError Parser :=
  return { rules, grammar := ← Grammar.build rules, settings }

/-- Compiles the descriptors that do not pass everything, in order. What was compiled before an
error stays. -/
def compileAll [Checker] (cache : ShapeCache) : List Text → Except CompileError Unit × ShapeCache
  | [] => (.ok (), cache)
  | descriptor :: rest =>
    if alwaysPasses (some descriptor) then compileAll cache rest
    else
      match cache.compile descriptor with
      | .ok (_, cache) => compileAll cache rest
      | .error e => (.error e, cache)

/-- The text that a match of the front leaves over is refused, unless it is blank or settings allow
it. -/
def leftOver? (settings : Settings) (s : Text) (rest : Text) : Option Diagnostic :=
  let left := rest.trim
  if left.isEmpty || settings.allowTrailing then none
  else
    let offset : Int := s.length - rest.trimStart.length
    some (.unexpectedToken s offset left (some "end of input") settings)

/-- Parses a whole expression. -/
def parseExpression (parser : Parser) (context : Context) (s : Text) :
    Except ExpressionError Expression :=
  match parser.grammar.parseOutcome context parser.settings s with
  | .error reason => .error (.broken reason)
  | .ok outcome =>
    match outcome.result with
    | .error diagnostic => .error (.rejected diagnostic)
    | .ok found =>
      match leftOver? parser.settings s found.rest with
      | some diagnostic => .error (.rejected diagnostic)
      | none => .ok ⟨found.value, context⟩

/-- Compiles an expression, and returns the cache with its descriptors. -/
def compile [Checker] (parser : Parser) (cache : ShapeCache) (context : Context) (s : Text) :
    Except ExpressionError Expression × ShapeCache :=
  match compileAll cache (context.map Prod.snd) with
  | (.error e, cache) => (.error (.descriptor e), cache)
  | (.ok (), cache) => (parser.parseExpression context s, cache)

/-- Evaluates a tree with the rules of a parser. -/
def evaluate [Checker] (parser : Parser) (data : Fields) (tree : Value) : EvalM Value :=
  Mixfix.evaluate parser.rules data tree

end Parser

end Mixfix
