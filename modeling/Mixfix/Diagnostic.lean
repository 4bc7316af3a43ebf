import Mixfix.Settings
import Mixfix.Source

/-!
# Diagnostics

The description of a failed parse: what went wrong, where, and the text around that place.
-/

set_option autoImplicit false

namespace Mixfix

/-- What went wrong. -/
inductive DiagnosticKind
  | noMatch
  | typeMismatch
  | unterminatedString
  | unclosedParenthesis
  | unexpectedToken
  | emptyInput
  deriving DecidableEq

/-- The name of a kind of diagnostic. -/
def DiagnosticKind.name : DiagnosticKind → Text
  | .noMatch => txt "no_match"
  | .typeMismatch => txt "type_mismatch"
  | .unterminatedString => txt "unterminated_string"
  | .unclosedParenthesis => txt "unclosed_paren"
  | .unexpectedToken => txt "unexpected_token"
  | .emptyInput => txt "empty_input"

/-- What was expected, what was there, and what was being parsed, as far as this is known. -/
structure Detail where
  expected : Option Text
  actual : Option Text
  parsing : Option Text

/-- The description of a failed parse. -/
structure Diagnostic where
  kind : DiagnosticKind
  message : Text
  position : SourcePosition
  snippet : Text
  input : Text
  detail : Option Detail

namespace Diagnostic

/-- A diagnostic at an offset. -/
def report (kind : DiagnosticKind) (message : Text) (s : Text) (offset : Int)
    (detail : Option Detail) (settings : Settings) : Diagnostic where
  kind := kind
  message := message
  position := .ofOffset s offset
  snippet := Mixfix.snippet s offset settings.snippetReach settings.snippetMark
  input := s
  detail := detail

/-- The line and column of an offset as messages show them. -/
def place (s : Text) (offset : Int) : Text :=
  (SourcePosition.ofOffset s offset).text

/-- The length of the preview of unmatched text. -/
def previewLength : Nat := 20

/-- No rule matches at an offset. -/
def noMatch (s : Text) (offset : Int) (settings : Settings) : Diagnostic :=
  let left := (s.fromOffset offset).trim
  let preview := left.take previewLength ++ if previewLength < left.length then txt "..." else []
  let message :=
    if s.isBlank then txt "Empty or whitespace-only input"
    else if s.length ≤ offset then txt "Unexpected end of input"
    else txt "No grammar rule matched at position " ++ place s offset ++ txt ": \"" ++ preview ++
      txt "\""
  report .noMatch message s offset none settings

/-- A text, unless it is missing or empty. -/
def given? (s : Option Text) : Option Text :=
  s.filter fun t => !t.isEmpty

/-- A subexpression has another schema than the one required. -/
def typeMismatch (s : Text) (offset : Int) (expected actual : Text) (parsing : Option Text)
    (settings : Settings) : Diagnostic :=
  let during := match given? parsing with
    | some parsing => txt " while parsing " ++ parsing
    | none => []
  let message := txt "Type mismatch at " ++ place s offset ++ txt ": expected '" ++ expected ++
    txt "', got '" ++ actual ++ txt "'" ++ during
  report .typeMismatch message s offset (some ⟨expected, actual, parsing⟩) settings

/-- A string has no closing quotation mark. -/
def unterminatedString (s : Text) (offset : Int) (mark : Text) (settings : Settings) : Diagnostic :=
  report .unterminatedString
    (txt "Unterminated string literal at " ++ place s offset ++ txt ": missing closing " ++ mark)
    s offset (some ⟨none, none, txt "string literal"⟩) settings

/-- A parenthesis is not closed. -/
def unclosedParenthesis (s : Text) (offset : Int) (settings : Settings) : Diagnostic :=
  report .unclosedParenthesis
    (txt "Unclosed parenthesis at " ++ place s offset ++ txt ": missing ')'")
    s offset (some ⟨none, none, txt "parenthesized expression"⟩) settings

/-- Some text cannot be consumed. -/
def unexpectedToken (s : Text) (offset : Int) (found : Text) (expected : Option Text)
    (settings : Settings) : Diagnostic :=
  let instead := match given? expected with
    | some expected => txt ", expected " ++ expected
    | none => []
  report .unexpectedToken
    (txt "Unexpected token at " ++ place s offset ++ txt ": found '" ++ found ++ txt "'" ++ instead)
    s offset (some ⟨expected, none, txt "expression"⟩) settings

/-- There is nothing to parse. -/
def emptyInput (s : Text) (settings : Settings) : Diagnostic :=
  report .emptyInput (txt "Cannot parse empty or whitespace-only input") s 0 none settings

/-- The lines that tell what was expected and what was there, if both are known. -/
def detailLines (diagnostic : Diagnostic) : List Text :=
  match diagnostic.detail with
  | some detail =>
    match given? detail.expected, given? detail.actual with
    | some expected, some actual =>
      [txt "", txt "  Expected: " ++ expected, txt "  Actual:   " ++ actual]
    | _, _ => []
  | none => []

/-- A diagnostic as several lines of text. -/
def format (diagnostic : Diagnostic) : Text :=
  Text.join (txt "\n") <|
    [txt "Error at line " ++ Decimal.ofNat diagnostic.position.line ++ txt ", column " ++
        Decimal.ofInt diagnostic.position.column ++ txt ":",
      txt "  " ++ diagnostic.message,
      txt "",
      txt "  " ++ diagnostic.snippet] ++ diagnostic.detailLines

/-- Diagnostics one after the other, with empty lines between them. -/
def formatAll (diagnostics : List Diagnostic) : Text :=
  Text.join (txt "\n\n") (diagnostics.map format)

end Diagnostic

end Mixfix
