import Mixfix.Rule
import Mixfix.Token
import Mixfix.Json.Quote

/-!
# Matching terminals

A terminal matches one token and makes a node of it: a literal, an identifier with its declared
schema, or a `const` whose schema is its text as a JSON string.
-/

set_option autoImplicit false

namespace Mixfix

open Decimal (TooManyDigits)

/-- What a parser makes of the front of a text, and the text after it. -/
structure Match (α : Type) where
  value : α
  rest : Text

namespace Terminal

/-- The literal of a token. -/
def literal (schema : Text) (token : Token) : Match Node :=
  ⟨.literal token.raw token.value (.str schema), token.rest⟩

/-- The `const` node of a text. -/
def constNode (value : Text) : Node :=
  .const (.str (Json.quote false value))

/-- The schema that a context declares for an identifier. -/
def declaredSchema (context : Context) (name : Text) : Text :=
  (context.find? name).getD unknownSchema

/-- The node that a terminal makes of the front of a text. -/
def match? (context : Context) (s : Text) :
    Terminal → Except TooManyDigits (Option (Match Node))
  | .number => do return (← Scan.number s).map (literal (txt "number"))
  | .string marks => .ok ((Scan.string marks s).map (literal (txt "string")))
  | .identifier => .ok <| (Scan.identifier s).map fun token =>
    ⟨.identifier token.raw (.str (declaredSchema context token.raw)), token.rest⟩
  | .const value => .ok ((Scan.const value s).map fun token => ⟨constNode value, token.rest⟩)
  | .null => .ok ((Scan.keyword .null s).map (literal (txt "null")))
  | .boolean => .ok <|
    ((Scan.keyword .true s).or (Scan.keyword .false s)).map (literal (txt "boolean"))
  | .undefined => .ok ((Scan.keyword .undefined s).map (literal (txt "undefined")))

end Terminal

/-- The node that a terminal element makes of the front of a text. A subexpression is no terminal. -/
def ElementKind.matchTerminal? (context : Context) (s : Text) :
    ElementKind → Except TooManyDigits (Option (Match Node))
  | .terminal t => t.match? context s
  | .subexpression .. => .ok none

end Mixfix
