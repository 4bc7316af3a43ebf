import Mixfix.Text

/-!
# Tokens of schema descriptors

A descriptor is a sequence of quoted texts, numbers, names and symbols, with blanks between them as
one likes. The names of subtypes have points in them. A backslash in a quoted text hides the code
point after it, which cannot be a line feed.
-/

set_option autoImplicit false

namespace Mixfix.Descriptor

/-- The symbols of descriptors. -/
inductive Symbol
  | lessEqual
  | greaterEqual
  | less
  | greater
  | list
  | bar
  | opening
  | closing
  deriving DecidableEq

/-- The spelling of a symbol. -/
def Symbol.text : Symbol → Text
  | .lessEqual => txt "<="
  | .greaterEqual => txt ">="
  | .less => txt "<"
  | .greater => txt ">"
  | .list => txt "[]"
  | .bar => txt "|"
  | .opening => txt "("
  | .closing => txt ")"

/-- A token of a descriptor. A quoted text keeps its quotation marks. -/
inductive Token
  | quoted (source : Text)
  | number (digits : Text)
  | name (s : Text)
  | symbol (s : Symbol)
  deriving DecidableEq

/-- The source text of a token. -/
def Token.text : Token → Text
  | .quoted source => source
  | .number digits => digits
  | .name s => s
  | .symbol s => s.text

/-- The symbols in the order in which they are tried: a longer one before a shorter one. -/
def symbols : List Symbol :=
  [.lessEqual, .greaterEqual, .less, .greater, .list, .bar, .opening, .closing]

/-- The symbol at the front of a text. -/
def symbol? (s : Text) : Option (Token × Text) :=
  symbols.findSome? fun symbol =>
    (Text.after? symbol.text s).map fun rest => (.symbol symbol, rest)

/-- A quoted text up to its closing mark and with it, and the text after that. -/
def quotedRest? (mark : CodePoint) : Text → Option (Text × Text)
  | [] => none
  | c :: rest =>
    if c = mark then some ([c], rest)
    else if c = '\\' then
      match rest with
      | [] => none
      | e :: rest =>
        if e = '\n' then none
        else (quotedRest? mark rest).map fun (body, after) => (c :: e :: body, after)
    else (quotedRest? mark rest).map fun (body, after) => (c :: body, after)

/-- The quoted text at the front of a text. -/
def quoted? : Text → Option (Token × Text)
  | [] => none
  | c :: rest =>
    if c = '"' || c = '\'' then
      (quotedRest? c rest).map fun (body, after) => (.quoted (c :: body), after)
    else none

/-- The digits at the front of a text, if there are any. -/
def digits? (s : Text) : Option (Text × Text) :=
  match Text.takeRun CodePoint.isDigit s with
  | ([], _) => none
  | (digits, rest) => some (digits, rest)

/-- The digits at the front of a text, with a point and the digits after it. -/
def unsigned? (s : Text) : Option (Text × Text) := do
  let (whole, rest) ← digits? s
  match rest with
  | [] => return (whole, [])
  | c :: after =>
    if c = '.' then
      match digits? after with
      | some (fraction, after) => return (whole ++ c :: fraction, after)
      | none => return (whole, rest)
    else return (whole, rest)

/-- The number at the front of a text. -/
def number? (s : Text) : Option (Token × Text) :=
  match s with
  | [] => none
  | c :: rest =>
    if c = '-' then (unsigned? rest).map fun (digits, after) => (.number (c :: digits), after)
    else (unsigned? s).map fun (digits, after) => (.number digits, after)

/-- The word at the front of a text: letters, digits and underscores, no digit first. -/
def word? (s : Text) : Option (Text × Text) :=
  match s with
  | [] => none
  | c :: _ =>
    if c.isLetter || c == '_' then
      some (Text.takeRun (fun c => c.isLetter || c.isDigit || c == '_') s)
    else none

/-- Further words of a name, each after a point. The fuel is the length of the text. -/
def moreWords : Nat → Text → Text × Text
  | 0, s => ([], s)
  | fuel + 1, s =>
    match s with
    | [] => ([], [])
    | c :: after =>
      if c = '.' then
        match word? after with
        | some (word, rest) =>
          let (words, rest) := moreWords fuel rest
          (c :: word ++ words, rest)
        | none => ([], s)
      else ([], s)

/-- The name at the front of a text. -/
def name? (s : Text) : Option (Token × Text) :=
  (word? s).map fun (word, rest) =>
    let (words, rest) := moreWords rest.length rest
    (.name (word ++ words), rest)

/-- The token at the front of a text. -/
def token? (s : Text) : Option (Token × Text) :=
  (quoted? s).or <| (number? s).or <| (name? s).or (symbol? s)

/-- The tokens of a text, or the first code point that begins none. A token takes at least one code
point, so the length of the text is enough fuel. -/
def tokenize : Nat → Text → Except CodePoint (List Token)
  | 0, _ => .ok []
  | fuel + 1, s =>
    match s.trimStart with
    | [] => .ok []
    | c :: rest =>
      match token? (c :: rest) with
      | none => .error c
      | some (token, after) => (tokenize fuel after).map fun tokens => token :: tokens

end Mixfix.Descriptor
