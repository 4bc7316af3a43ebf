import Mixfix.Diagnostic
import Mixfix.Parse

/-!
# Parsing with diagnostics

A parse that matches nothing is described by a diagnostic: at the furthest point that a terminal
came to, and there after the blanks. Blank input is not parsed at all.
-/

set_option autoImplicit false

namespace Mixfix

/-- What a parse came to: a match of the front of the input, or a diagnostic. -/
structure Outcome where
  input : Text
  result : Except Diagnostic (Match Node)

/-- The offset to report when nothing matched. -/
def failureOffset (s : Text) (furthest : Nat) : Nat :=
  s.length - (Text.trimStart (s.drop furthest)).length

/-- Parses the front of a text, or describes why nothing matches. How far the terminals come is asked
of a second parse, after the first has matched nothing. -/
def Grammar.parseOutcome (grammar : Grammar) (context : Context) (settings : Settings) (s : Text) :
    Except Interruption Outcome := do
  if s.isBlank then return ⟨s, .error (.emptyInput s settings)⟩
  match ← grammar.parse context s with
  | some result => return ⟨s, .ok result⟩
  | none =>
    let (_, progress) ← Parse.levels grammar context 0 s
    return ⟨s, .error (.noMatch s (failureOffset s progress.furthest) settings)⟩

end Mixfix
