import Mixfix.Text.Name
import Mixfix.Decimal

/-!
# Addresses of hosts in brackets

After the sign of an email address there may be the address of a host in brackets. Four bytes need nothing
else, any other kind of address begins with its name and a colon. Eight words are the only kind there is.
-/

set_option autoImplicit false

namespace Mixfix.Email

/-- What is wrong with one byte of an address. -/
inductive ByteProblem
  | empty
  | notDigits (part : Text)
  | tooLong (part : Text)
  | leadingZero (part : Text)
  | tooLarge (n : Nat)

/-- What is wrong with four bytes. -/
inductive BytesProblem
  | empty
  | slash
  | count
  | byte (problem : ByteProblem)

/-- What is wrong with one word of an address. -/
inductive WordProblem
  | notDigits (part : Text)
  | tooLong (part : Text)

/-- What is wrong with eight words. -/
inductive WordsProblem
  | slash
  | zone
  | empty
  | tooFew
  | bytes (part : Text) (problem : BytesProblem)
  | tooManyColons
  | leftOutTwice
  | leadingColon
  | trailingColon
  | nothingLeftOut
  | count
  | word (problem : WordProblem)

/-- What is wrong with an address in brackets. -/
inductive LiteralProblem
  | bytes (address : Text) (problem : BytesProblem)
  | words (whole address : Text) (problem : WordsProblem)
  | unnamed
  | characters (characters : List CodePoint)
  | unknownName

/-- The wording of a problem. -/
def ByteProblem.text : ByteProblem → Text
  | .empty => txt "Empty octet not permitted"
  | .notDigits part => txt "Only decimal digits permitted in " ++ part.quoted
  | .tooLong part => txt "At most 3 characters permitted in " ++ part.quoted
  | .leadingZero part => txt "Leading zeros are not permitted in " ++ part.quoted
  | .tooLarge n => txt "Octet " ++ Decimal.ofNat n ++ txt " (> 255) not permitted"

/-- The wording of a problem of an address. -/
def BytesProblem.text (address : Text) : BytesProblem → Text
  | .empty => txt "Address cannot be empty"
  | .slash => txt "Unexpected '/' in " ++ address.quoted
  | .count => txt "Expected 4 octets in " ++ address.quoted
  | .byte problem => problem.text ++ txt " in " ++ address.quoted

/-- The wording of a problem. -/
def WordProblem.text : WordProblem → Text
  | .notDigits part => txt "Only hex digits permitted in " ++ part.quoted
  | .tooLong part => txt "At most 4 characters permitted in " ++ part.quoted

/-- The wording of a problem of an address, which the whole goes on from with the name of a zone. -/
def WordsProblem.text (whole address : Text) : WordsProblem → Text
  | .slash => txt "Unexpected '/' in " ++ whole.quoted
  | .zone => txt "Invalid IPv6 address: \"" ++ whole.quoted ++ txt "\""
  | .empty => txt "Address cannot be empty"
  | .tooFew => txt "At least 3 parts expected in " ++ address.quoted
  | .bytes part problem => problem.text part ++ txt " in " ++ address.quoted
  | .tooManyColons => txt "At most 8 colons permitted in " ++ address.quoted
  | .leftOutTwice => txt "At most one '::' permitted in " ++ address.quoted
  | .leadingColon => txt "Leading ':' only permitted as part of '::' in " ++ address.quoted
  | .trailingColon => txt "Trailing ':' only permitted as part of '::' in " ++ address.quoted
  | .nothingLeftOut => txt "Expected at most 7 other parts with '::' in " ++ address.quoted
  | .count => txt "Exactly 8 parts expected without '::' in " ++ address.quoted
  | .word problem => problem.text ++ txt " in " ++ address.quoted

/-- The wording of a problem. -/
def LiteralProblem.text : LiteralProblem → Text
  | .bytes address problem =>
    txt "The address in brackets after the @-sign is not valid: It is not an IPv4 address (" ++
      problem.text address ++ txt ") or is missing an address literal tag."
  | .words whole address problem =>
    txt "The IPv6 address in brackets after the @-sign is not valid (" ++ problem.text whole address ++
      txt ")."
  | .unnamed => txt <| "The part after the @-sign in brackets is not an IPv4 address and has no " ++
      "address literal tag."
  | .characters cs =>
    txt "The part after the @-sign contains invalid characters in brackets: " ++
      CodePoint.displayedSet cs ++ txt "."
  | .unknownName =>
    txt "The part after the @-sign contains an invalid address literal tag in brackets."

/-- What is wrong with a text as a byte. -/
def byteProblem? (s : Text) : Option ByteProblem :=
  if s.isEmpty then some .empty
  else if !s.all CodePoint.isDigit then some (.notDigits s)
  else if 3 < s.length then some (.tooLong s)
  else if s != txt "0" && s.head? == some (CodePoint.ofChar '0') then some (.leadingZero s)
  else if 255 < Decimal.toNat s then some (.tooLarge (Decimal.toNat s))
  else none

/-- What is wrong with a text as four bytes. -/
def bytesProblem? (s : Text) : Option BytesProblem :=
  let parts := Text.splitOn '.' s
  if s.contains '/' then some .slash
  else if s.isEmpty then some .empty
  else if parts.length != 4 then some .count
  else (parts.findSome? byteProblem?).map .byte

/-- What is wrong with a text as a word. -/
def wordProblem? (s : Text) : Option WordProblem :=
  if !s.all CodePoint.isHexDigit then some (.notDigits s)
  else if 4 < s.length then some (.tooLong s)
  else none

/-- What is wrong with the parts between colons, all of which have to be words but one that stands for the
words left out. Empty parts at the ends belong to that one. -/
def partsProblem? (parts : List Text) : Option WordsProblem :=
  let inner := parts.drop 1 |>.dropLast
  let noFirst := parts.head? == some []
  let noLast := parts.getLast? == some []
  let words := (parts.filter fun part => !part.isEmpty)
  let before := (inner.takeWhile fun part => !part.isEmpty).length + 1
  let wordsProblem? := (words.findSome? wordProblem?).map .word
  if 9 < parts.length then some .tooManyColons
  else
    match (inner.filter List.isEmpty).length with
    | 0 =>
      if parts.length != 8 then some .count
      else if noFirst then some .leadingColon
      else if noLast then some .trailingColon
      else wordsProblem?
    | 1 =>
      let after := parts.length - before - 1
      if noFirst && 1 < before then some .leadingColon
      else if noLast && 1 < after then some .trailingColon
      else if 7 < words.length then some .nothingLeftOut
      else wordsProblem?
    | _ => some .leftOutTwice

/-- What is wrong with a text as eight words. -/
def wordsProblem? (s : Text) : Option WordsProblem :=
  let parts := Text.splitOn ':' s
  let last := parts.getLast?.getD []
  if s.isEmpty then some .empty
  else if parts.length < 3 then some .tooFew
  else if last.contains '.' then
    match bytesProblem? last with
    | some problem => some (.bytes last problem)
    | none => partsProblem? (parts.dropLast ++ [txt "0", txt "0"])
  else partsProblem? parts

/-- What is wrong with a text as eight words that may have a zone. -/
def zonedProblem? (whole : Text) : Option LiteralProblem :=
  let (address, zone) : Text × Option Text :=
    match Text.splitFirst? '%' whole with
    | some (address, zone) => (address, some zone)
    | none => (whole, none)
  let problem :=
    if whole.contains '/' then some .slash
    else if (zone.map fun zone => zone.isEmpty || zone.contains '%').getD false then some .zone
    else wordsProblem? address
  problem.map (.words whole address)

/-- Whether a code point may stand in brackets. -/
def inLiteral (c : CodePoint) : Bool :=
  0x21 ≤ c.val && c.val ≤ 0xFA

/-- What is wrong with a text in brackets. -/
def literalProblem? (s : Text) : Option LiteralProblem :=
  if !s.isEmpty && s.all fun c => c.isDigit || c == '.' then (bytesProblem? s).map (.bytes s)
  else
    match Text.after? (txt "IPv6:") s with
    | some address => zonedProblem? address
    | none =>
      if !s.contains ':' then some .unnamed
      else if !s.all inLiteral then some (.characters (s.filter fun c => !inLiteral c))
      else some .unknownName

end Mixfix.Email
