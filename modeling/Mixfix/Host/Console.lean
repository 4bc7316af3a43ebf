import Mixfix.Cli.Console

/-!
# The console of the program

Printed text may have tags in square brackets, which say how what stands between them looks. A backslash
before a tag makes it plain text. `render` leaves out the tags, and `escape` writes a text so that rendering
gives it back.

A tag is an opening bracket, a small letter or one of `#/@`, and anything but an opening bracket up to
the next closing bracket. It has the name of a style, and a closing tag closes the last open one of its name.

The output takes no surrogates. In the diagnostics they are written out.
-/

set_option autoImplicit false

namespace Mixfix.Markup

/-- A backslash. -/
def backslash : CodePoint := '\\'

/-- What may come first in a tag. -/
def beginsTag (c : CodePoint) : Bool :=
  c.between 'a' 'z' || c == '#' || c == '/' || c == '@'

/-- What stands in a tag up to its closing bracket, and the text after that. -/
def tagBody? : Text → Option (Text × Text)
  | [] => none
  | c :: rest =>
    if c = ']' then some ([], rest)
    else if c = '[' then none
    else (tagBody? rest).map fun (body, after) => (c :: body, after)

/-- What stands in the tag at the front of a text, and the text after the tag. -/
def tag? : Text → Option (Text × Text)
  | opening :: c :: rest =>
    if opening = '[' && beginsTag c then
      (tagBody? rest).map fun (body, after) => (c :: body, after)
    else none
  | _ => none

/-- A piece of a text with markup. -/
inductive Piece
  | plain (s : Text)
  /-- A tag, and the number of backslashes before it. -/
  | tag (backslashes : Nat) (body : Text)

/-- The pieces of a text. The fuel is the length of the text. -/
def pieces : Nat → Text → List Piece
  | 0, s => [.plain s]
  | fuel + 1, s =>
    let (slashes, rest) := Text.takeRun (· == backslash) s
    match tag? rest with
    | some (body, after) => .tag slashes.length body :: pieces fuel after
    | none =>
      match slashes, rest with
      | [], [] => []
      | [], c :: rest => .plain [c] :: pieces fuel rest
      | slashes, rest => .plain slashes :: pieces fuel rest

/-- The pieces of a text. -/
def split (s : Text) : List Piece :=
  pieces (s.length + 1) s

/-- Backslashes. -/
def backslashes (count : Nat) : Text :=
  List.replicate count backslash

/-- A text with a backslash before each tag, and with every backslash before it twice. A lone
backslash at the end is written twice as well. -/
def escape (s : Text) : Text :=
  let escaped := (split s).flatMap fun
    | .plain s => s
    | .tag n body => backslashes (2 * n + 1) ++ txt "[" ++ body ++ txt "]"
  let trailing := (escaped.reverse.takeWhile (· == backslash)).length
  if trailing == 1 then escaped ++ [backslash] else escaped

/-- The style that a tag names. -/
def styleName (s : Text) : Text :=
  Text.trim (s.map CodePoint.toLower)

/-- A list without the first occurrence of an item, if it has one. -/
def removeFirst? (name : Text) : List Text → Option (List Text)
  | [] => none
  | other :: rest =>
    if other = name then some rest else (removeFirst? name rest).map fun rest => other :: rest

/-- What remains open after a tag, `opened` being what was open before, the last first. -/
def follow (opened : List Text) (body : Text) : Except Cli.PrintError (List Text) :=
  match body with
  | c :: name =>
    if c = '/' then
      let name := Text.trim (name.takeWhile fun c => !(c == CodePoint.ofChar '='))
      match if name.isEmpty then opened.tail? else removeFirst? (styleName name) opened with
      | some rest => .ok rest
      | none => .error .unmatchedTag
    else .ok (styleName (body.takeWhile fun c => !(c == CodePoint.ofChar '=')) :: opened)
  | [] => .ok opened

/-- An opening bracket loses a backslash before it. -/
def unescapeBrackets : Text → Text
  | a :: b :: rest =>
    if a = backslash && b = '[' then b :: unescapeBrackets rest else a :: unescapeBrackets (b :: rest)
  | s => s


/-- The plain pieces of a text joined up to the next tag. -/
def renderPieces : List Text → Text → List Piece → Except Cli.PrintError Text
  | _, held, [] => .ok (unescapeBrackets held)
  | opened, held, .plain s :: rest => renderPieces opened (held ++ s) rest
  | opened, held, .tag n body :: rest => do
    let before := unescapeBrackets held ++ backslashes (n / 2)
    if n % 2 = 1 then
      return before ++ unescapeBrackets (txt "[" ++ body ++ txt "]") ++ (← renderPieces opened [] rest)
    else return before ++ (← renderPieces (← follow opened body) [] rest)

/-- A control character that moves the cursor or rings the bell. The line feed and the tab stay. -/
def movesCursor (c : CodePoint) : Bool :=
  c.val == 0x07 || c.val == 0x08 || c.val == 0x0B || c.val == 0x0C || c.val == 0x0D

/-- A text as it is shown: without its tags, and without what moves the cursor. -/
def render (s : Text) : Except Cli.PrintError Text := do
  let shown ← renderPieces [] [] (split s)
  return shown.filter fun c => !movesCursor c

end Mixfix.Markup

namespace Mixfix.Cli

/-- What is printed without its markup. -/
def Printed.rendered : Printed → Except PrintError Printed
  | .text s => return .text (← Markup.render s)
  | .table title columns rows => do
    let title ← title.mapM Markup.render
    return .table title columns (← rows.mapM fun cells => cells.mapM Markup.render)
  | .panel title s => return .panel (← Markup.render title) (← Markup.render s)
  | .code format s => return .code format s

/-- Rows of a table as lines of cells. -/
def rowLine (cells : List Text) : Text :=
  Text.join (txt "  ") cells

/-- What is printed, as plain lines. -/
def Printed.plain : Printed → Text
  | .text s => s
  | .table title columns rows => Text.join (txt "\n") (title.toList ++ (columns :: rows).map rowLine)
  | .panel title s => title ++ txt "\n" ++ s
  | .code _ s => s

instance : Console where
  escape := Markup.escape
  display channel printed := do
    let seen ← printed.rendered
    if channel == .output && seen.plain.any CodePoint.isSurrogate then throw .notEncodable
    return seen

end Mixfix.Cli
