import Mixfix.Host.Email.Problem

/-!
# Parts of email addresses

An email address is a part before the sign and a host name after it. The part before may be in quotation
marks, and then a backslash hides what it stands before. A name may come first, which is also in quotation
marks unless it is simple, and then the address is in angle brackets.
-/

set_option autoImplicit false

namespace Mixfix.Email

/-- The parts of an address. -/
structure Parts where
  /-- Whether the address is in angle brackets. -/
  inBrackets : Bool
  localPart : Text
  isQuoted : Bool
  domain : Text

/-- A period. -/
def period : CodePoint := '.'

/-- A quotation mark. -/
def quote : CodePoint := '"'

/-- A bracket that opens. -/
def openBracket : CodePoint := '<'

/-- A bracket that closes. -/
def closeBracket : CodePoint := '>'

/-- The sign. -/
def sign : CodePoint := '@'

/-- A code point of a host name, periods included. -/
def inDomain (c : CodePoint) : Bool :=
  c.isLetter || c.isDigit || c == Domain.hyphen || c == period || 0x80 ≤ c.val

/-- A code point of the part before the sign, periods included. -/
def inLocal (c : CodePoint) : Bool :=
  inDomain c || (txt "_!#$%&'*+/=?^`\x7b|\x7d~").contains c

/-- Whether a mark makes another code point of the bracket that it follows. -/
def isStruck (c : CodePoint) (rest : Text) : Bool :=
  c == openBracket && (rest.head?.map Fin.val) == some 0x338

/-- The text before the first of some code points that is not in quotation marks, and the text from there
on. -/
def splitBefore? (marks : List CodePoint) (inQuotes hidden : Bool) : Text → Option (Text × Text)
  | [] => none
  | c :: rest =>
    if !inQuotes && marks.contains c && !isStruck c rest then some ([], c :: rest)
    else
      let quotes := if c == quote && !hidden then !inQuotes else inQuotes
      let hides := inQuotes && c == '\\' && !hidden
      (splitBefore? marks quotes hides rest).map fun (before, after) => (c :: before, after)

/-- The text up to the quotation mark that closes, and the text after it. -/
def readQuoted (hidden : Bool) : Text → Text × Text
  | [] => ([], [])
  | c :: rest =>
    if hidden then
      let (s, after) := readQuoted false rest
      (c :: s, after)
    else if c == '\\' then readQuoted true rest
    else if c == quote then ([], rest)
    else
      let (s, after) := readQuoted false rest
      (c :: s, after)

/-- A text without the quotation marks around it, and whether there were any. -/
def unquoted (s : Text) : Except Problem (Text × Bool) :=
  match s with
  | [] => .ok ([], false)
  | c :: rest =>
    if c == quote then
      match readQuoted false rest with
      | (inner, []) => .ok (inner, true)
      | (_, after) => .error (.afterQuote after)
    else .ok (s, false)

/-- Whether a code point cannot be shown on its own, or changes what is around it. -/
def isUnsafe (spaces isFirst : Bool) (c : CodePoint) : Bool :=
  if c.isMark then isFirst
  else if c.isVisible then false
  else !(spaces && c.isBlank && c.val != 0x2028 && c.val != 0x2029 && c.val != 0x85 && 0x20 ≤ c.val)

/-- The code points of a text that make it unsafe. -/
def unsafeCharacters (spaces : Bool) (s : Text) : List CodePoint :=
  (s.take 1).filter (isUnsafe spaces true) ++ (s.drop 1).filter (isUnsafe spaces false)

/-- Fails where there are code points that should not be there. -/
def expectNone (problem : List CodePoint → Problem) (cs : List CodePoint) : Except Problem Unit :=
  if cs.isEmpty then .ok () else .error (problem cs)

/-- Checks the name before an address. -/
def checkName (s : Text) : Except Problem Unit := do
  let (name, isQuoted) ← unquoted s.trimEnd
  let isSimple := fun (c : CodePoint) => c == ' ' || (c.val < 0x80 && c != period && inLocal c)
  if isQuoted then pure () else expectNone .nameCharacters (name.filter fun c => !isSimple c)
  expectNone .unsafeCharacters (unsafeCharacters true name)

/-- The part before the sign and the part after it. -/
def signed (inBrackets : Bool) (before after : Text) : Except Problem Parts := do
  let (localPart, isQuoted) ← unquoted before
  return ⟨inBrackets, localPart, isQuoted, after.drop 1⟩

/-- The parts of a text as an email address. -/
def Parts.ofText (s : Text) : Except Problem Parts := do
  match splitBefore? [sign, openBracket] false false s with
  | none => throw .noSign
  | some (before, after) =>
    if after.head? == some openBracket then
      checkName before
      if !after.contains closeBracket then throw .noCloseBracket
      else
        let address := (after.reverse.dropWhile fun c => c == CodePoint.ofChar ' ')
        if address.head? != some closeBracket then throw .afterBracket
        else
          let inner := (address.dropWhile fun c => c == closeBracket).reverse.drop 1
          match splitBefore? [sign] false false inner with
          | none => throw .noSign
          | some (before, after) => signed true before after
    else signed false before after

/-- A code point of a simple name before an address in angle brackets, which blanks divide. -/
def inName (c : CodePoint) : Bool :=
  inLocal c || c.isBlank

/-- The address in the angle brackets at the end of a text, after a simple name or none. -/
def afterSimpleName? (s : Text) : Option Text := do
  let (name, rest) ← Text.splitFirst? openBracket s
  if name.all inName && rest.getLast? == some closeBracket && 1 < rest.length then some rest.dropLast
  else none

/-- The address in angle brackets at the end of a text, after a name in quotation marks that the text
goes on with. The last quotation mark that can close the name does. -/
def afterQuotedName? (isEmpty : Bool) : Text → Option Text
  | [] => none
  | c :: rest =>
    match afterQuotedName? false rest with
    | some address => some address
    | none =>
      if c == quote && !isEmpty && ((Text.trimStart rest).head? == some openBracket) then
        afterSimpleName? (Text.trimStart rest)
      else none

/-- The address that a text gives, after a name or without one. -/
def address (s : Text) : Text :=
  let trimmed := s.trim
  let inner :=
    match trimmed with
    | c :: rest => if c == quote then afterQuotedName? true rest else afterSimpleName? trimmed
    | [] => none
  (inner.getD s).trim

end Mixfix.Email
