import Mixfix.Text.Utf8
import Mixfix.Host.Yaml.Cursor

/-!
# Tags of YAML

A tag says what a node is. It is written in full between angle brackets, or as a handle and a suffix,
where a directive says what the handle is short for. A single exclamation mark only says that a scalar
is what it looks like, even between quotation marks.

The tags known here are those that need no directive. A node of any other tag is not read.
-/

set_option autoImplicit false

namespace Mixfix.Yaml

/-- What a node is. -/
inductive Tag
  | scalar (looks : Looks)
  | list
  | map
  /-- A list of maps of one entry each. -/
  | pairs
  | set
  | bytes
  | unknown
  deriving DecidableEq

/-- A tag as it is written. -/
inductive TagName
  | full (name : Text)
  | short (handle suffix : Text)

/-- What the names of the known tags begin with. -/
def standardStart : Text :=
  txt "tag:yaml.org,2002:"

/-- The tag that leaves it open what a scalar is. -/
def openTag : Text :=
  txt "!"

/-- The handles that need no directive. -/
def standardHandles : Entries Text :=
  [(txt "!", txt "!"), (txt "!!", standardStart)]

/-- The known tags by the rests of their names. -/
def standardTags : List (String × Tag) :=
  [("bool", .scalar .bool), ("float", .scalar .float), ("int", .scalar .int), ("merge", .scalar .merge),
    ("null", .scalar .null), ("timestamp", .scalar .timestamp), ("value", .scalar .value),
    ("str", .scalar .text), ("seq", .list), ("map", .map), ("omap", .pairs), ("pairs", .pairs), ("set", .set),
    ("binary", .bytes)]

/-- The tag of a full name. -/
def Tag.ofName (name : Text) : Tag :=
  match Text.after? standardStart name with
  | none => .unknown
  | some short => ((standardTags.find? fun entry => txt entry.1 == short).map Prod.snd).getD .unknown

/-- The full name of a tag, if its handle is known. -/
def TagName.resolve (handles : Entries Text) : TagName → Option Text
  | .full name => some name
  | .short handle suffix => (handles.find? handle).map fun start => start ++ suffix

/-! ## Scanning tags -/

/-- What may stand in the name of a tag but the percent sign. -/
def isTagPoint (c : CodePoint) : Bool :=
  isNamePoint c || isOneOf ";/?:@&=+$,.!~*'()[]" c

/-- The bytes of the percent signs with two hexadecimal digits at the front of a text. -/
def percentBytes : Text → Except ReadError (List Nat)
  | [] => .ok []
  | c :: rest =>
    if c = '%' then
      match rest with
      | high :: low :: rest =>
        if high.isHexDigit && low.isHexDigit then do
          return (16 * high.hexValue + low.hexValue) :: (← percentBytes rest)
        else .error .malformed
      | _ => .error .malformed
    else .ok []

/-- The rest of the name of a tag. Bytes after percent signs are those of its code points. -/
def tagRest : Nat → Cursor → Except ReadError (Text × Cursor)
  | 0, cur => .ok ([], cur)
  | fuel + 1, cur =>
    match cur.rest with
    | [] => .ok ([], cur)
    | c :: _ =>
      if c = '%' then do
        let bytes ← percentBytes cur.rest
        let some points := Text.ofUtf8? bytes | throw .malformed
        let (more, last) ← tagRest fuel (cur.forward (3 * bytes.length))
        return (points ++ more, last)
      else if isTagPoint c then do
        let run := cur.rest.takeWhile isTagPoint
        let (more, last) ← tagRest fuel (cur.forward run.length)
        return (run ++ more, last)
      else .ok ([], cur)

/-- The name of a tag or the end of one, which is not empty. -/
def tagText (cur : Cursor) : Except ReadError (Text × Cursor) := do
  let (name, last) ← tagRest cur.fuel cur
  if last.offset == cur.offset then throw .malformed
  return (name, last)

/-- A handle: an exclamation mark, or a name that may be empty between two of them. -/
def tagHandle (cur : Cursor) : Except ReadError (Text × Cursor) :=
  match cur.rest with
  | [] => .error .malformed
  | mark :: rest =>
    let name := rest.takeWhile isNamePoint
    if !(mark == '!') then .error .malformed
    else if rest.head? == some (CodePoint.ofChar ' ') then .ok (txt "!", cur.forward 1)
    else if (rest.drop name.length).head? == some (CodePoint.ofChar '!') then
      .ok (txt "!" ++ name ++ txt "!", cur.forward (name.length + 2))
    else .error .malformed

/-- A tag from its exclamation mark on. -/
def tagName (cur : Cursor) : Except ReadError (TagName × Cursor) := do
  let after := cur.forward 1
  let (name, last) ←
    if after.startsWith '<' then do
      let (name, last) ← tagText (after.forward 1)
      if last.startsWith '>' then pure (TagName.full name, last.forward 1) else throw .malformed
    else if after.meets isGap then pure (TagName.full openTag, after)
    else do
      let word := after.rest.takeWhile fun c => !(isSpace c || startsBreak c)
      let (handle, start) ←
        if word.contains (CodePoint.ofChar '!') then tagHandle cur else pure (txt "!", after)
      let (suffix, last) ← tagText start
      pure (TagName.short handle suffix, last)
  if last.atWordEnd then return (name, last) else throw .malformed

end Mixfix.Yaml
