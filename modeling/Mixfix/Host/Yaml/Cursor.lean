import Mixfix.Host.Yaml.Writer
import Mixfix.Host.Yaml.Number

/-!
# Scanning YAML

A cursor is a place in a YAML text. Here are the scanners for what stands on its own there: gaps and
comments, names, plain and quoted scalars, and scalars in block layout.

A break inside of a scalar reads as a space, and each further one as a line feed. A byte order mark
stands in no column.
-/

set_option autoImplicit false

namespace Mixfix.Yaml

/-- The text from some place on, and the line and column of that place, from zero. -/
structure Cursor where
  rest : Text
  line : Nat
  column : Nat
  /-- The code points before the place on its line, byte order marks included. -/
  offset : Nat
  /-- The length of the whole text and one more, which is fuel enough for any scan of the rest. -/
  fuel : Nat

/-- The break at the front of a text, as it is read, and the text after it. -/
def break? : Text → Option (CodePoint × Text)
  | [] => none
  | c :: rest =>
    if c = '\r' then
      match rest with
      | d :: after => some ('\n', if d = '\n' then after else rest)
      | [] => some ('\n', [])
    else if c = '\n' || c.val = 0x85 then some ('\n', rest)
    else if c.val = 0x2028 || c.val = 0x2029 then some (c, rest)
    else none

/-- Whether a code point begins a break. -/
def startsBreak (c : CodePoint) : Bool :=
  isBreak c || c == '\r'

/-- Whether a code point is in a list of ASCII characters. -/
def isOneOf (marks : String) (c : CodePoint) : Bool :=
  (txt marks).contains c

/-- A byte order mark. -/
def isByteOrderMark (c : CodePoint) : Bool :=
  c.val == 0xFEFF

/-- A code point of a name: an English letter, an ASCII digit, a hyphen or an underscore. -/
def isNamePoint (c : CodePoint) : Bool :=
  c.isLetter || c.isDigit || c == '-' || c == '_'

namespace Cursor

/-- The beginning of a text. -/
def start (s : Text) : Cursor :=
  ⟨s, 0, 0, 0, s.length + 1⟩

/-- The place some code points further on the line. -/
def forward (count : Nat) (cur : Cursor) : Cursor :=
  let marks := (cur.rest.take count).countP isByteOrderMark
  ⟨cur.rest.drop count, cur.line, cur.column + (count - marks), cur.offset + count, cur.fuel⟩

/-- The place at the start of the next line, before a given text. -/
def newLine (rest : Text) (cur : Cursor) : Cursor :=
  ⟨rest, cur.line + 1, 0, 0, cur.fuel⟩

/-- The place after a run of code points on the line. -/
def skipRun (p : CodePoint → Bool) (cur : Cursor) : Cursor :=
  cur.forward (cur.rest.takeWhile p).length

/-- The place of the next token: after spaces, comments and breaks. -/
def skipGaps : Nat → Cursor → Cursor
  | 0, cur => cur
  | fuel + 1, cur =>
    match cur.rest with
    | [] => cur
    | c :: _ =>
      if c = ' ' then skipGaps fuel (cur.skipRun isSpace)
      else if c = '#' then skipGaps fuel (cur.skipRun fun c => !startsBreak c)
      else
        match break? cur.rest with
        | some (_, after) => skipGaps fuel (cur.newLine after)
        | none => cur

/-- The place of the next token. -/
def next (cur : Cursor) : Cursor :=
  skipGaps cur.fuel cur

/-- Whether a mark of three code points that begins or ends a document stands here. -/
def hasDocumentMark (mark : String) (cur : Cursor) : Bool :=
  cur.column == 0 &&
    match Text.after? (txt mark) cur.rest with
    | some after => beforeGap after
    | none => false

/-- Whether a document begins or ends here. -/
def atDocumentEdge (cur : Cursor) : Bool :=
  cur.hasDocumentMark "---" || cur.hasDocumentMark "..."

/-- Whether a mark stands here with a gap after it. -/
def hasMark (mark : CodePoint) (cur : Cursor) : Bool :=
  match cur.rest with
  | c :: after => c == mark && beforeGap after
  | [] => false

/-- Whether a comment begins here. -/
def hasComment (cur : Cursor) : Bool :=
  cur.rest.head? == some (CodePoint.ofChar '#')

/-- Whether a code point stands here. -/
def startsWith (c : CodePoint) (cur : Cursor) : Bool :=
  cur.rest.head? == some c

/-- Whether a code point with a property, or the end of the text, stands here. -/
def meets (p : CodePoint → Bool) (cur : Cursor) : Bool :=
  (cur.rest.head?.map p).getD true

/-- Whether the line or a word ends here. -/
def atWordEnd (cur : Cursor) : Bool :=
  cur.meets fun c => isSpace c || startsBreak c

/-- The place after the rest of the line, which may hold spaces and a comment, and after its break. -/
def afterLine (cur : Cursor) : Except ReadError Cursor :=
  let spaced := cur.skipRun isSpace
  let ended := if spaced.hasComment then spaced.skipRun fun c => !startsBreak c else spaced
  match break? ended.rest with
  | some (_, after) => .ok (ended.newLine after)
  | none => if ended.rest.isEmpty then .ok ended else .error .malformed

/-- The name here and the place after it. -/
def name (cur : Cursor) : Except ReadError (Text × Cursor) :=
  let name := cur.rest.takeWhile isNamePoint
  if name.isEmpty then .error .malformed else .ok (name, cur.forward name.length)

end Cursor

/-! ## Plain scalars -/

/-- The code points of a plain scalar up to the next gap or mark. -/
def plainChunk (inFlow : Bool) : Text → Text
  | [] => []
  | c :: rest =>
    let stops := isGap c ||
      (c == ':' && (beforeGap rest || (inFlow && (rest.head?.map (isOneOf ",[]\x7b\x7d")).getD false))) ||
      (inFlow && isOneOf ",?[]\x7b\x7d" c)
    if stops then [] else c :: plainChunk inFlow rest

/-- Spaces and breaks at the start of lines, and the breaks among them. -/
def breakLines : Nat → Cursor → Text × Cursor
  | 0, cur => ([], cur)
  | fuel + 1, cur =>
    let spaced := cur.skipRun isSpace
    match break? spaced.rest with
    | none => ([], spaced)
    | some (c, after) =>
      let cur := spaced.newLine after
      if cur.atDocumentEdge then ([c], cur)
      else
        let (others, cur) := breakLines fuel cur
        (c :: others, cur)

/-- What a first break and the breaks after it read as. -/
def foldedBreaks (first : CodePoint) (others : Text) : Text :=
  if first ≠ '\n' then first :: others
  else if others.isEmpty then txt " "
  else others

/-- The gap after a chunk of a plain scalar, as it is read. -/
def plainGap (cur : Cursor) : Text × Cursor :=
  let spaces := cur.rest.takeWhile isSpace
  let spaced := cur.forward spaces.length
  match break? spaced.rest with
  | none => (spaces, spaced)
  | some (c, after) =>
    let cur := spaced.newLine after
    if cur.atDocumentEdge then ([], cur)
    else
      let (others, cur) := breakLines cur.fuel cur
      if cur.atDocumentEdge then ([], cur) else (foldedBreaks c others, cur)

/-- A plain scalar that was read. -/
structure PlainReading where
  text : Text
  after : Cursor
  /-- Whether the place after it is the first one of its line that is no space. -/
  onNewLine : Bool

/-- The rest of a plain scalar after a chunk. Lines that go on have to begin at a column. -/
def plainRest (inFlow : Bool) (least : Int) : Nat → Cursor → PlainReading
  | 0, cur => ⟨[], cur, false⟩
  | fuel + 1, cur =>
    let (gap, after) := plainGap cur
    let chunk := plainChunk inFlow after.rest
    if gap.isEmpty || chunk.isEmpty || after.hasComment || (!inFlow && (after.column : Int) < least) then
      ⟨[], after, after.line != cur.line⟩
    else
      let more := plainRest inFlow least fuel (after.forward chunk.length)
      { more with text := gap ++ chunk ++ more.text }

/-- A plain scalar. -/
def plainScalar (inFlow : Bool) (least : Int) (cur : Cursor) : PlainReading :=
  let chunk := plainChunk inFlow cur.rest
  let more := plainRest inFlow least cur.fuel (cur.forward chunk.length)
  { more with text := chunk ++ more.text }

/-- Whether a plain scalar begins here. -/
def startsPlain (inFlow : Bool) : Text → Bool
  | [] => false
  | c :: rest =>
    if isOneOf "-?:" c then !beforeGap rest && (c == '-' || !inFlow)
    else !isGap c && !isOneOf ",[]\x7b\x7d#&*!|>'\"%@\x60" c

/-! ## Quoted scalars -/

/-- What the letter of an escape stands for. -/
def readEscape? (c : CodePoint) : Option CodePoint :=
  if c = '\t' || c = ' ' || c = '/' then some c
  else (Writer.escapeLetters.find? fun entry => c == entry.2).map fun entry => CodePoint.ofNat entry.1

/-- The number of digits of an escape by number. -/
def escapeLength? (c : CodePoint) : Option Nat :=
  if c = 'x' then some 2 else if c = 'u' then some 4 else if c = 'U' then some 8 else none

/-- Spaces and tabs at the start of lines in a quoted scalar, and the breaks among them. -/
def quotedBreaks : Nat → Cursor → Except ReadError (Text × Cursor)
  | 0, cur => .ok ([], cur)
  | fuel + 1, cur =>
    if cur.atDocumentEdge then .error .malformed
    else
      let spaced := cur.skipRun isSpaceOrTab
      match break? spaced.rest with
      | none => .ok ([], spaced)
      | some (c, after) => do
        let (others, cur) ← quotedBreaks fuel (spaced.newLine after)
        return (c :: others, cur)

/-- The rest of a quoted scalar up to its closing mark. Every round takes a code point. -/
def quotedRest (double : Bool) : Nat → Cursor → Except ReadError (Text × Cursor)
  | 0, _ => .error .malformed
  | fuel + 1, cur =>
    let go := fun (s : Text) (cur : Cursor) => do
      let (more, last) ← quotedRest double fuel cur
      return (s ++ more, last)
    match cur.rest with
    | [] => .error .malformed
    | c :: rest =>
      if isSpaceOrTab c || startsBreak c then
        let spaces := cur.rest.takeWhile isSpaceOrTab
        let spaced := cur.forward spaces.length
        match break? spaced.rest with
        | none => go spaces spaced
        | some (first, after) => do
          let (others, cur) ← quotedBreaks cur.fuel (spaced.newLine after)
          go (foldedBreaks first others) cur
      else if !double && c = '\'' then
        if rest.head? == some (CodePoint.ofChar '\'') then go [c] (cur.forward 2)
        else .ok ([], cur.forward 1)
      else if double && c = '"' then .ok ([], cur.forward 1)
      else if double && c = '\\' then
        match rest with
        | [] => .error .malformed
        | e :: rest =>
          match readEscape? e, escapeLength? e with
          | some d, _ => go [d] (cur.forward 2)
          | none, some count =>
            let digits := rest.take count
            if digits.length = count && digits.all CodePoint.isHexDigit then
              let n := ofBase 16 digits
              if h : n < 0x110000 then go [⟨n, h⟩] (cur.forward (count + 2))
              else if n < 0x80000000 then .error (.unreadable (txt "chr() arg not in range(0x110000)"))
              else .error .tooLarge
            else .error .malformed
          | none, none =>
            match break? (e :: rest) with
            | none => .error .malformed
            | some (_, after) => do
              let (breaks, cur) ← quotedBreaks cur.fuel (cur.newLine after)
              go breaks cur
      else go [c] (cur.forward 1)

/-- A quoted scalar from its opening mark on. -/
def quotedScalar (double : Bool) (cur : Cursor) : Except ReadError (Text × Cursor) :=
  quotedRest double cur.fuel (cur.forward 1)

/-! ## Scalars in block layout -/

/-- What happens to the breaks at the end of a scalar in block layout. -/
inductive Chomping
  | strip
  | clip
  | keep
  deriving DecidableEq

/-- The marks after the first one of a scalar in block layout. -/
structure BlockMarks where
  chomping : Chomping
  indent : Option Nat

/-- The chomping that a mark asks for. -/
def chomping? (c : CodePoint) : Option Chomping :=
  if c = '+' then some .keep else if c = '-' then some .strip else none

/-- The indentation that a mark asks for. -/
def blockIndent? (c : CodePoint) : Option Nat :=
  if c.between '1' '9' then some c.hexValue else none

/-- The marks of a scalar in block layout, in any order. -/
def blockMarks (cur : Cursor) : BlockMarks × Cursor :=
  match cur.rest with
  | [] => (⟨.clip, none⟩, cur)
  | c :: rest =>
    let second := rest.head?
    match chomping? c, blockIndent? c with
    | some chomping, _ =>
      match second.bind blockIndent? with
      | some n => (⟨chomping, some n⟩, cur.forward 2)
      | none => (⟨chomping, none⟩, cur.forward 1)
    | none, some n =>
      match second.bind chomping? with
      | some chomping => (⟨chomping, some n⟩, cur.forward 2)
      | none => (⟨.clip, some n⟩, cur.forward 1)
    | none, none => (⟨.clip, none⟩, cur)

/-- Empty lines, each up to an indentation, and their breaks. -/
def blockBreaks (indent : Nat) : Nat → Cursor → Text × Cursor
  | 0, cur => ([], cur)
  | fuel + 1, cur =>
    let spaced := cur.forward ((cur.rest.takeWhile isSpace).take (indent - cur.column)).length
    match break? spaced.rest with
    | none => ([], spaced)
    | some (c, after) =>
      let (others, cur) := blockBreaks indent fuel (spaced.newLine after)
      (c :: others, cur)

/-- The widest indentation of the empty lines at the front of a scalar and of the first line that is
not empty. -/
def widestIndent : Nat → Cursor → Nat
  | 0, _ => 0
  | fuel + 1, cur =>
    let spaced := cur.skipRun isSpace
    match break? spaced.rest with
    | none => spaced.column
    | some (_, after) => max spaced.column (widestIndent fuel (spaced.newLine after))

/-- The lines of a scalar in block layout, `breaks` being those before the first line. -/
def blockLines (folded : Bool) (chomping : Chomping) (indent : Nat) :
    Nat → Text → Cursor → Text × Cursor
  | 0, _, cur => ([], cur)
  | fuel + 1, breaks, cur =>
    let line := cur.rest.takeWhile fun c => !startsBreak c
    let ended := cur.forward line.length
    let (ending, after) := match break? ended.rest with
      | some (c, after) => ([c], ended.newLine after)
      | none => ([], ended)
    let (later, next) := blockBreaks indent after.fuel after
    if next.column == indent && !next.rest.isEmpty then
      let joins := folded && ending == txt "\n" && !startsBlank line && !startsBlank next.rest
      let between := if joins then (if later.isEmpty then txt " " else []) else ending
      let (more, last) := blockLines folded chomping indent fuel later next
      (breaks ++ line ++ between ++ more, last)
    else
      let tail := match chomping with
        | .strip => []
        | .clip => ending
        | .keep => ending ++ later
      (breaks ++ line ++ tail, next)
where
  /-- Whether a text begins with a space or a tab. -/
  startsBlank (s : Text) : Bool :=
    (s.head?.map isSpaceOrTab).getD false

/-- A scalar in block layout from its first mark on, inside of a map or list at some column. -/
def blockScalar (parent : Int) (folded : Bool) (cur : Cursor) : Except ReadError (Text × Cursor) := do
  let (marks, cur) := blockMarks (cur.forward 1)
  if !cur.atWordEnd then throw .malformed
  let cur ← cur.afterLine
  let least := max 1 (parent + 1).toNat
  let indent := match marks.indent with
    | some n => least + n - 1
    | none => max least (widestIndent cur.fuel cur)
  let (breaks, cur) := blockBreaks indent cur.fuel cur
  if cur.column == indent && !cur.rest.isEmpty then
    return blockLines folded marks.chomping indent cur.fuel breaks cur
  else
    return (if marks.chomping = .keep then breaks else [], cur)

end Mixfix.Yaml
