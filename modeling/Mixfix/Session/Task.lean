import Mixfix.Session

/-!
# A parser at work

What is asked of one parser in turn: to parse, to compile an expression and keep it under a key, to
evaluate what was compiled before, to evaluate a tree, and to forget the compiled descriptors. From
one task to the next a parser keeps the compiled descriptors and the compiled expressions.
-/

set_option autoImplicit false

namespace Mixfix

/-- What a parser can be asked for. -/
inductive ParserTask (κ : Type)
  | parse (context : Context) (s : Text)
  | outcome (context : Context) (s : Text)
  | compile (key : κ) (context : Context) (s : Text)
  /-- Evaluates the expression that was compiled last under a key. -/
  | call (key : κ) (data : Fields)
  | evaluate (tree : Value) (data : Fields)
  | clear

/-- What a parser says to a task. -/
inductive ParserReply
  | parsed (result : Except Interruption Found)
  | outcome (result : Except Interruption Outcome)
  | compiled (result : Except ExpressionError Expression)
  | evaluated (result : Except EvalError Value)
  /-- Nothing has been compiled under the key. -/
  | notCompiled
  | cleared

/-- What a parser keeps: its compiled descriptors, and its compiled expressions, the last first. -/
structure ParserMemory (κ : Type) where
  cache : ShapeCache
  expressions : List (κ × Expression)

namespace ParserMemory

variable {κ : Type} [BEq κ]

/-- Nothing is compiled. -/
def start : ParserMemory κ :=
  ⟨[], []⟩

/-- The expression that was compiled last under a key. -/
def expression? (memory : ParserMemory κ) (key : κ) : Option Expression :=
  (memory.expressions.find? fun entry => entry.1 == key).map Prod.snd

end ParserMemory

namespace Parser

variable {κ : Type} [BEq κ]

/-- Evaluates a tree. -/
def evaluateIn [Checker] (parser : Parser) (memory : ParserMemory κ) (tree : Value) (data : Fields) :
    ParserReply × ParserMemory κ :=
  let (result, cache) := parser.evaluate data tree memory.cache
  (.evaluated result, { memory with cache })

/-- Does a task. -/
def perform [Checker] (parser : Parser) (memory : ParserMemory κ) :
    ParserTask κ → ParserReply × ParserMemory κ
  | .parse context s => (.parsed (parser.grammar.parse context s), memory)
  | .outcome context s =>
    (.outcome (parser.grammar.parseOutcome context parser.settings s), memory)
  | .compile key context s =>
    match parser.compile memory.cache context s with
    | (.ok expression, cache) =>
      (.compiled (.ok expression), ⟨cache, (key, expression) :: memory.expressions⟩)
    | (.error e, cache) => (.compiled (.error e), { memory with cache })
  | .call key data =>
    match memory.expression? key with
    | some expression => parser.evaluateIn memory (.node expression.ast) data
    | none => (.notCompiled, memory)
  | .evaluate tree data => parser.evaluateIn memory tree data
  | .clear => (.cleared, { memory with cache := [] })

/-- Does tasks one after the other. -/
def run [Checker] (parser : Parser) (memory : ParserMemory κ) (tasks : List (ParserTask κ)) :
    ParserMemory κ :=
  tasks.foldl (fun memory task => (parser.perform memory task).2) memory

end Parser

end Mixfix
