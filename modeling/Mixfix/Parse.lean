import Std.Data.HashMap
import Mixfix.Parse.Engine
import Mixfix.Parse.Progress

/-!
# Parsing

The engine is run in four ways. A plain run does nothing besides the matching, and it is what the
results mean. A tracking run also records how far the terminals have come. A remembering run records
this too, and keeps the result of each parse by its level and by how much of the text was left. Rules
that share their first operand would otherwise parse it once each, which doubles the work with each
level of nesting. An untracked run remembers and records nothing. The program uses remembering runs
where it reports progress and untracked runs elsewhere.
-/

set_option autoImplicit false

namespace Mixfix

namespace Parse

/-- Runs the engine without anything besides. -/
def plainHooks : Hooks (Except Interruption) where
  reached _ := .ok ()
  remember _ _ run := run
  interrupt := .error

/-- Runs the engine and records progress. -/
def trackingHooks : Hooks (StateT Progress (Except Interruption)) where
  reached left := modify (Progress.record left)
  remember _ _ run := run
  interrupt reason := throw reason

/-- Progress, and results by their levels and the lengths of their texts. -/
structure Memory where
  progress : Progress
  results : Std.HashMap (Nat × Nat) Found

/-- No result yet. -/
def Memory.start (source : Text) : Memory :=
  ⟨Progress.start source, Std.HashMap.emptyWithCapacity⟩

/-- Runs the engine, records progress and parses nothing twice. -/
def rememberingHooks : Hooks (StateT Memory (Except Interruption)) where
  reached left := modify fun memory => { memory with progress := memory.progress.record left }
  remember start s run := do
    let key := (start, s.length)
    match (← get).results[key]? with
    | some result => return result
    | none =>
      let result ← run
      modify fun memory => { memory with results := memory.results.insert key result }
      return result
  interrupt reason := throw reason

/-- Runs the engine and parses nothing twice. -/
def untrackedHooks : Hooks (StateT Memory (Except Interruption)) :=
  { rememberingHooks with reached _ := pure () }

/-- Parses a text from a level on, without memory. -/
def plain (grammar : Grammar) (context : Context) (start : Nat) (s : Text) :
    Except Interruption Found :=
  Engine.parseFrom plainHooks grammar context (Engine.depth grammar s) start s

/-- Parses a text from a level on, without memory, and tells how far the terminals came. -/
def tracked (grammar : Grammar) (context : Context) (start : Nat) (s : Text) :
    Except Interruption (Found × Progress) :=
  Engine.parseFrom trackingHooks grammar context (Engine.depth grammar s) start s (Progress.start s)

/-- A result, and how far the terminals came. -/
def withProgress (s : Text) (run : StateT Memory (Except Interruption) Found) :
    Except Interruption (Found × Progress) := do
  let (found, memory) ← run (Memory.start s)
  return (found, memory.progress)

/-- Parses a text from a level on and tells how far the terminals came. -/
def levels (grammar : Grammar) (context : Context) (start : Nat) (s : Text) :
    Except Interruption (Found × Progress) :=
  withProgress s <|
    Engine.parseFrom rememberingHooks grammar context (Engine.depth grammar s) start s

/-- Parses a text from a level on, with memory, and tells nothing else. -/
def untracked (grammar : Grammar) (context : Context) (start : Nat) (s : Text) :
    Except Interruption Found := do
  let (found, _) ← withProgress s <|
    Engine.parseFrom untrackedHooks grammar context (Engine.depth grammar s) start s
  return found

/-- Matches one rule as a rule of a level and tells how far the terminals came. -/
def rule (grammar : Grammar) (context : Context) (level : Nat) (rule : Rule) (s : Text) :
    Except Interruption (Found × Progress) :=
  withProgress s <|
    Engine.matchRule rememberingHooks
      (Engine.parseFrom rememberingHooks grammar context (Engine.depth grammar s))
      context level rule s

end Parse

/-- Parses the front of a text. -/
def Grammar.parse (grammar : Grammar) (context : Context) (s : Text) : Except Interruption Found :=
  Parse.untracked grammar context 0 s

end Mixfix
