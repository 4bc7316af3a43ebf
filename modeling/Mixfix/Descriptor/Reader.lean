import Mixfix.Descriptor.Token
import Mixfix.Descriptor.Shape
import Mixfix.Token
import Mixfix.Text.Quoted

/-!
# Reading schema descriptors

The grammar of descriptors, where a range has its bound on either side or on both:

- descriptor: alternatives with `|` between them,
- alternative: a primary and then any number of `[]`,
- primary: a descriptor in parentheses; a quoted text, a number, `true` or `false`; or a type, alone
  or with a comparison, or in a range that begins with a number.

`number`, `number.integer`, `string` and the subtypes of `string` that only say what its code points
are can be compared. The bounds of a string are integers.
-/

set_option autoImplicit false

namespace Mixfix

open Decimal (TooManyDigits)

namespace Descriptor

/-- What is wrong with a descriptor. -/
inductive Problem
  | empty
  | unexpectedCharacter (c : CodePoint)
  | unexpected (found : Text)
  | expected (what : Text) (found : Text)
  | lowerBound (comparison : Text)
  | upperBound (comparison : Text)
  | fractionalLength
  | noComparison (type : Text)
  | unknownType (name : Text)

/-- The wording of a problem. -/
def Problem.text : Problem → Text
  | .empty => txt "descriptor is empty"
  | .unexpectedCharacter c => txt "unexpected character " ++ Text.quoted [c]
  | .unexpected found => txt "unexpected " ++ found.quoted
  | .expected what found => txt "expected " ++ what ++ txt ", found " ++ found.quoted
  | .lowerBound comparison =>
    txt "a lower bound must use '<' or '<=', not " ++ comparison.quoted
  | .upperBound comparison =>
    txt "an upper bound must use '<' or '<=', not " ++ comparison.quoted
  | .fractionalLength => txt "string length bounds must be integers"
  | .noComparison type => type.quoted ++ txt " does not accept comparisons"
  | .unknownType name => txt "unknown type " ++ name.quoted

/-- Why a descriptor cannot be read. -/
inductive ReadError
  | malformed (problem : Problem)
  /-- An integer has more digits than are converted. -/
  | tooManyDigits

/-- What was read of a sequence of tokens, and the tokens after it. -/
abbrev Reading (α : Type) := α × List Token

/-- The text of the first token, as messages show what they found. -/
def foundText : List Token → Text
  | [] => txt "end"
  | token :: _ => token.text

/-- Something else was expected. -/
def mismatch {α : Type} (what : String) (tokens : List Token) : Except ReadError α :=
  .error (.malformed (.expected (txt what) (foundText tokens)))

/-- The number that a token writes. -/
def numberOf (digits : Text) : Except ReadError Number :=
  if digits.contains (CodePoint.ofChar '.') then .ok (.real (Binary64.readDecimal digits))
  else
    match Decimal.readInt digits with
    | .ok n => .ok (.int n)
    | .error .tooManyDigits => .error .tooManyDigits

/-- A number. -/
def readNumber : List Token → Except ReadError (Reading Number)
  | .number digits :: rest => do return (← numberOf digits, rest)
  | tokens => mismatch "number" tokens

/-- The comparison at the front, if there is one. -/
def comparison? : List Token → Option (Symbol × List Token)
  | .symbol s :: rest =>
    match s with
    | .less | .lessEqual | .greater | .greaterEqual => some (s, rest)
    | _ => none
  | _ => none

/-- The range of what a comparison holds, its limit standing on the right. -/
def boundsRight (s : Symbol) (limit : Number) : Bounds :=
  match s with
  | .greater => ⟨some ⟨limit, true⟩, none⟩
  | .greaterEqual => ⟨some ⟨limit, false⟩, none⟩
  | .less => ⟨none, some ⟨limit, true⟩⟩
  | _ => ⟨none, some ⟨limit, false⟩⟩

/-- The code points that a subtype of strings allows. -/
def textClass? (name : Text) : Option TextClass :=
  if name == txt "string" then some .any
  else if name == txt "string.alpha" then some .alpha
  else if name == txt "string.alphanumeric" then some .alphanumeric
  else if name == txt "string.digits" then some .digits
  else if name == txt "string.lower" then some .lower
  else if name == txt "string.upper" then some .upper
  else if name == txt "string.uuid" then some .uuid
  else none

/-- The shape of a type that takes no comparison. -/
def plainShape? (name : Text) : Option Shape :=
  if name == txt "boolean" then some .boolean
  else if name == txt "null" then some .null
  else if name == txt "undefined" then some .undefined
  else if name == txt "unknown" || name == txt "any" then some .anything
  else if name == txt "string.email" then some .email
  else if name == txt "string.url" then some .url
  else none

/-- The whole number of a limit on lengths, moved by a step where the limit is strict. -/
def lengthLimit (step : Int) (limit : Limit) : Except ReadError Int :=
  match limit.value with
  | .int n => .ok (if limit.strict then n + step else n)
  | .real _ => .error (.malformed .fractionalLength)

/-- The shape that a type name describes together with bounds. -/
def typeShape (name : Text) (bounds : Bounds) : Except ReadError Shape :=
  if name == txt "number" then .ok (.number false bounds)
  else if name == txt "number.integer" then .ok (.number true bounds)
  else
    match textClass? name with
    | some kind => do
      let least ← bounds.lower.mapM (lengthLimit 1)
      let most ← bounds.upper.mapM (lengthLimit (-1))
      return .text kind least most
    | none =>
      match plainShape? name with
      | some shape =>
        if bounds.limits.isEmpty then .ok shape else .error (.malformed (.noComparison name))
      | none => .error (.malformed (.unknownType name))

/-- The upper end of a range whose lower end stands before the type. -/
def readUpper (tokens : List Token) : Except ReadError (Reading (Option Limit)) :=
  match comparison? tokens with
  | none => .ok (none, tokens)
  | some (s, rest) =>
    if s = .less || s = .lessEqual then do
      let (limit, rest) ← readNumber rest
      return (some ⟨limit, s = .less⟩, rest)
    else .error (.malformed (.upperBound s.text))

/-- A literal number, or a range that begins with this number. -/
def readFromNumber (value : Number) (tokens : List Token) : Except ReadError (Reading Shape) :=
  match comparison? tokens with
  | none => .ok (.literal value.toValue, tokens)
  | some (s, rest) =>
    if s = .less || s = .lessEqual then
      match rest with
      | .name name :: rest => do
        let (upper, rest) ← readUpper rest
        let shape ← typeShape name ⟨some ⟨value, s = .less⟩, upper⟩
        return (shape, rest)
      | tokens => mismatch "a type name" tokens
    else .error (.malformed (.lowerBound s.text))

/-- A truth value, or a type with or without a comparison. -/
def readFromName (name : Text) (tokens : List Token) : Except ReadError (Reading Shape) :=
  if name == txt "true" || name == txt "false" then
    .ok (.literal (.bool (name == txt "true")), tokens)
  else
    match comparison? tokens with
    | none => do return (← typeShape name .all, tokens)
    | some (s, rest) => do
      let (limit, rest) ← readNumber rest
      return (← typeShape name (boundsRight s limit), rest)

/-- The text between quotation marks, with its escapes decoded. -/
def unquote (source : Text) : Text :=
  Text.decodeEscapes (source.drop 1).dropLast

/-- A primary. `nested` reads what stands in parentheses. -/
def readPrimary (nested : List Token → Except ReadError (Reading Shape)) :
    List Token → Except ReadError (Reading Shape)
  | .symbol .opening :: rest => do
    let (shape, rest) ← nested rest
    match rest with
    | .symbol .closing :: rest => return (shape, rest)
    | tokens => mismatch "')'" tokens
  | .quoted source :: rest => .ok (.literal (.str (unquote source)), rest)
  | .number digits :: rest => do readFromNumber (← numberOf digits) rest
  | .name name :: rest => readFromName name rest
  | tokens => mismatch "a type" tokens

/-- A list of a shape for each `[]` at the front. -/
def readSuffixes (shape : Shape) : List Token → Shape × List Token
  | .symbol .list :: rest => readSuffixes (.array shape) rest
  | tokens => (shape, tokens)

/-- The shape of some alternatives. -/
def Shape.ofAlternatives : List Shape → Shape
  | [shape] => shape
  | shapes => .union shapes

/-- Alternatives with bars between them. Every alternative takes a token, and so does a parenthesis,
so one more than the number of tokens is enough fuel. -/
def readAlternatives : Nat → List Token → Except ReadError (Reading (List Shape))
  | 0, tokens => mismatch "a type" tokens
  | fuel + 1, tokens => do
    let nested := fun tokens => do
      let (shapes, rest) ← readAlternatives fuel tokens
      return (Shape.ofAlternatives shapes, rest)
    let (primary, rest) ← readPrimary nested tokens
    let (shape, rest) := readSuffixes primary rest
    match rest with
    | .symbol .bar :: rest => do
      let (shapes, rest) ← readAlternatives fuel rest
      return (shape :: shapes, rest)
    | rest => return ([shape], rest)

/-- The shape that a descriptor describes. -/
def read (descriptor : Text) : Except ReadError Shape :=
  match tokenize descriptor.length descriptor with
  | .error c => .error (.malformed (.unexpectedCharacter c))
  | .ok [] => .error (.malformed .empty)
  | .ok tokens => do
    let (shapes, rest) ← readAlternatives (tokens.length + 1) tokens
    match rest with
    | [] => return Shape.ofAlternatives shapes
    | token :: _ => throw (.malformed (.unexpected token.text))

end Descriptor

end Mixfix
