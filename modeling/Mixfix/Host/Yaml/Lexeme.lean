import Mixfix.Host.Yaml.Tag

/-!
# Lexemes of YAML

A YAML text as a sequence of lexemes, among them the beginnings and ends of maps and lists in block
layout, which columns stand for.

A key needs no mark before it: that it is one shows at the colon after it. So each place where a key may
begin is a candidate, and the lexeme of the key, and before it that of a map that begins there, is put in
at that place once the colon comes. There is one candidate at most at every level of brackets. It is
given up when its line ends or after `keyReach` code points, and that is an error where it stands at the
column of a map, so that only a key can stand there.

A text that breaks the rules at some place has the lexemes before that place, and then `broken`.
-/

set_option autoImplicit false

namespace Mixfix.Yaml

/-- A directive before a document. -/
inductive Directive
  | version (major : Int)
  | handle (handle start : Text)
  | other

/-- The smallest part of a YAML text. -/
inductive Lexeme
  | directive (directive : Directive)
  | documentStart
  | documentEnd
  | finish
  /-- A list or map in block layout begins. -/
  | blockList
  | blockMap
  | blockEnd
  /-- A bracket of a list, or a brace of a map. -/
  | openList
  | closeList
  | openMap
  | closeMap
  | comma
  | dash
  | key
  | value
  | alias (name : Text)
  | anchor (name : Text)
  | tag (name : TagName)
  | scalar (isPlain : Bool) (s : Text)
  | broken (error : ReadError)

/-- A place where a key may begin. -/
structure Candidate where
  /-- The number of lexemes before it. -/
  before : Nat
  /-- Whether nothing else can stand there. -/
  required : Bool
  place : Cursor

/-- How far a key and its colon may be apart. -/
def keyReach : Nat := 1024

/-- Whether the colon of a key can no longer come. -/
def Candidate.expired (cur : Cursor) (c : Candidate) : Bool :=
  c.place.line != cur.line || c.place.offset + keyReach < cur.offset

/-- A text that is read up to some place. -/
structure Scan where
  cursor : Cursor
  /-- The lexemes so far, the last one first. -/
  lexemes : List Lexeme
  /-- The number of lexemes so far. -/
  count : Nat
  /-- The columns of the lists and maps in block layout around the place, the innermost first. -/
  columns : List Nat
  /-- The candidate among the brackets right around the place. -/
  candidate : Option Candidate
  /-- The candidate at each level of brackets further out. There are as many as open brackets. -/
  outer : List (Option Candidate)
  /-- Whether a key may begin here. -/
  keyAllowed : Bool

namespace Scan

/-- The beginning of a text, after a byte order mark. -/
def start (s : Text) : Scan :=
  let first := Cursor.start s
  let place := match s with
    | c :: _ => if isByteOrderMark c then first.forward 1 else first
    | [] => first
  ⟨place, [], 0, [], none, [], true⟩

/-- Whether the place is between brackets. -/
def inFlow (s : Scan) : Bool :=
  !s.outer.isEmpty

/-- The column of the innermost list or map in block layout, minus one where there is none. -/
def column (s : Scan) : Int :=
  match s.columns with
  | [] => -1
  | n :: _ => n

/-- Adds a lexeme. -/
def push (lexeme : Lexeme) (s : Scan) : Scan :=
  { s with lexemes := lexeme :: s.lexemes, count := s.count + 1 }

/-- Adds a lexeme of some code points. -/
def pushMark (count : Nat) (lexeme : Lexeme) (s : Scan) : Scan :=
  { s.push lexeme with cursor := s.cursor.forward count }

/-- Goes on to the next lexeme. A key may begin on a new line. -/
def skip (s : Scan) : Scan :=
  let cur := s.cursor.next
  { s with cursor := cur, keyAllowed := s.keyAllowed || (!s.inFlow && cur.line != s.cursor.line) }

/-- A candidate unless it has expired. -/
def unexpired (cur : Cursor) : Option Candidate → Except ReadError (Option Candidate)
  | none => .ok none
  | some c =>
    if c.expired cur then (if c.required then .error .malformed else .ok none) else .ok (some c)

/-- Gives up the candidates whose colons can no longer come. -/
def expire (s : Scan) : Except ReadError Scan := do
  let candidate ← unexpired s.cursor s.candidate
  let outer ← s.outer.mapM (unexpired s.cursor)
  return { s with candidate, outer }

/-- Gives up the candidate at the level of the place. -/
def withdraw (s : Scan) : Except ReadError Scan :=
  match s.candidate with
  | some c => if c.required then .error .malformed else .ok { s with candidate := none }
  | none => .ok s

/-- Makes the place a candidate, if a key may begin there. -/
def offer (s : Scan) : Except ReadError Scan :=
  if s.keyAllowed then do
    let s ← s.withdraw
    let required := !s.inFlow && s.column == (s.cursor.column : Int)
    return { s with candidate := some ⟨s.count, required, s.cursor⟩ }
  else .ok s

/-- Ends the lists and maps in block layout whose columns are beyond one. -/
def unwind (column : Int) (s : Scan) : Scan :=
  if s.inFlow then s
  else
    let ended := s.columns.takeWhile fun (n : Nat) => column < (n : Int)
    { s with
      lexemes := ended.map (fun _ => Lexeme.blockEnd) ++ s.lexemes
      count := s.count + ended.length
      columns := s.columns.drop ended.length }

/-- Adds a lexeme before the last ones, so that some number of them stand before it. -/
def insert (before : Nat) (lexeme : Lexeme) (s : Scan) : Scan :=
  { s with lexemes := s.lexemes.insertIdx (s.count - before) lexeme, count := s.count + 1 }

/-- Begins a list or map in block layout at a column, unless one stands there. Its lexeme has some number
of lexemes before it. -/
def beginBlock (before column : Nat) (lexeme : Lexeme) (s : Scan) : Scan :=
  if s.inFlow || !(s.column < (column : Int)) then s
  else { s.insert before lexeme with columns := column :: s.columns }

/-- Begins a list or map in block layout at the place, where a key would be allowed. -/
def beginHere (lexeme : Lexeme) (s : Scan) : Except ReadError Scan :=
  if !s.inFlow && !s.keyAllowed then .error .malformed
  else .ok (s.beginBlock s.count s.cursor.column lexeme)

/-- Leaves all that is in block layout, before a lexeme between documents. -/
def leave (s : Scan) : Except ReadError Scan := do
  let s ← (s.unwind (-1)).withdraw
  return { s with keyAllowed := false }

/-! ## One lexeme after another -/

/-- The number before the point of a version. -/
def version (cur : Cursor) : Except ReadError (Int × Cursor) := do
  let digits := cur.rest.takeWhile CodePoint.isDigit
  if digits.isEmpty then throw .malformed
  return (← integerOf 10 digits, cur.forward digits.length)

/-- A directive from its percent sign on, and the place on the next line. -/
def directive (cur : Cursor) : Except ReadError (Directive × Cursor) := do
  let (name, after) ← (cur.forward 1).name
  if !after.atWordEnd then throw .malformed
  let spaced := after.skipRun isSpace
  let (directive, last) ←
    if name == txt "YAML" then do
      let (major, after) ← version spaced
      if !after.startsWith '.' then throw .malformed
      let (_, last) ← version (after.forward 1)
      pure (Directive.version major, last)
    else if name == txt "TAG" then do
      let (handle, after) ← tagHandle spaced
      if !after.startsWith ' ' then throw .malformed
      let (start, last) ← tagText (after.skipRun isSpace)
      pure (Directive.handle handle start, last)
    else pure (Directive.other, after.skipRun fun c => !startsBreak c)
  if !last.atWordEnd then throw .malformed
  return (directive, ← last.afterLine)

/-- Reads a directive. -/
def readDirective (s : Scan) : Except ReadError Scan := do
  let s ← s.leave
  let (directive, last) ← directive s.cursor
  return { s.push (.directive directive) with cursor := last }

/-- Reads the mark of the beginning or the end of a document. -/
def readDocumentMark (lexeme : Lexeme) (s : Scan) : Except ReadError Scan := do
  return (← s.leave).pushMark 3 lexeme

/-- Reads an opening bracket. -/
def readOpening (lexeme : Lexeme) (s : Scan) : Except ReadError Scan := do
  let s ← s.offer
  return { s.pushMark 1 lexeme with
    candidate := none, outer := s.candidate :: s.outer, keyAllowed := true }

/-- Reads a closing bracket. -/
def readClosing (lexeme : Lexeme) (s : Scan) : Except ReadError Scan := do
  let s ← s.withdraw
  return { s.pushMark 1 lexeme with
    candidate := s.outer.head?.getD none, outer := s.outer.drop 1, keyAllowed := false }

/-- Reads a comma. -/
def readComma (s : Scan) : Except ReadError Scan := do
  return { (← s.withdraw).pushMark 1 .comma with keyAllowed := true }

/-- Reads the dash before an item. -/
def readDash (s : Scan) : Except ReadError Scan := do
  let s ← (← s.beginHere .blockList).withdraw
  return { s.pushMark 1 .dash with keyAllowed := true }

/-- Reads the question mark before a key. -/
def readKey (s : Scan) : Except ReadError Scan := do
  let s ← (← s.beginHere .blockMap).withdraw
  return { s.pushMark 1 .key with keyAllowed := !s.inFlow }

/-- Reads the colon before a value, which makes a key of the candidate there is. -/
def readValue (s : Scan) : Except ReadError Scan :=
  match s.candidate with
  | some c =>
    let s := (s.insert c.before .key).beginBlock c.before c.place.column .blockMap
    .ok { s.pushMark 1 .value with candidate := none, keyAllowed := false }
  | none => do
    let s ← s.beginHere .blockMap
    return { s.pushMark 1 .value with keyAllowed := !s.inFlow }

/-- Reads what may begin a key and is followed by no key on its line. -/
def readWord (word : Cursor → Except ReadError (Lexeme × Cursor)) (s : Scan) :
    Except ReadError Scan := do
  let s ← s.offer
  let (lexeme, last) ← word s.cursor
  return { s.push lexeme with cursor := last, keyAllowed := false }

/-- The name after the mark of an anchor or an alias. -/
def markedName (lexeme : Text → Lexeme) (cur : Cursor) : Except ReadError (Lexeme × Cursor) := do
  let (name, last) ← (cur.forward 1).name
  if last.meets fun c => isGap c || isOneOf "?:,]\x7d%@\x60" c then return (lexeme name, last)
  else throw .malformed

/-- The tag at a place. -/
def tag (cur : Cursor) : Except ReadError (Lexeme × Cursor) := do
  let (name, last) ← tagName cur
  return (.tag name, last)

/-- The quoted scalar at a place. -/
def quoted (double : Bool) (cur : Cursor) : Except ReadError (Lexeme × Cursor) := do
  let (s, last) ← quotedScalar double cur
  return (.scalar false s, last)

/-- Reads a scalar in block layout. -/
def readBlockScalar (folded : Bool) (s : Scan) : Except ReadError Scan := do
  let s ← s.withdraw
  let (text, last) ← blockScalar s.column folded s.cursor
  return { s.push (.scalar false text) with cursor := last, keyAllowed := true }

/-- Reads a plain scalar. A key may begin on the line after it. -/
def readPlain (s : Scan) : Except ReadError Scan := do
  let s ← s.offer
  let reading := plainScalar s.inFlow (s.column + 1) s.cursor
  return { s.push (.scalar true reading.text) with
    cursor := reading.after, keyAllowed := reading.onNewLine }

/-- Whether a mark stands here that only counts before a gap, except between brackets. -/
def hasIndicator (mark : CodePoint) (s : Scan) : Bool :=
  if s.inFlow then s.cursor.startsWith mark else s.cursor.hasMark mark

/-- Reads the lexeme that begins with a code point. -/
def readAt (c : CodePoint) (s : Scan) : Except ReadError Scan :=
  let cur := s.cursor
  if c = '%' && cur.column == 0 then s.readDirective
  else if cur.hasDocumentMark "---" then s.readDocumentMark .documentStart
  else if cur.hasDocumentMark "..." then s.readDocumentMark .documentEnd
  else if c = '[' then s.readOpening .openList
  else if c = '\x7b' then s.readOpening .openMap
  else if c = ']' then s.readClosing .closeList
  else if c = '\x7d' then s.readClosing .closeMap
  else if c = ',' then s.readComma
  else if cur.hasMark '-' then s.readDash
  else if s.hasIndicator '?' then s.readKey
  else if s.hasIndicator ':' then s.readValue
  else if c = '*' then s.readWord (markedName .alias)
  else if c = '&' then s.readWord (markedName .anchor)
  else if c = '!' then s.readWord tag
  else if (c = '|' || c = '>') && !s.inFlow then s.readBlockScalar (c == CodePoint.ofChar '>')
  else if c = '\'' || c = '"' then s.readWord (quoted (c == CodePoint.ofChar '"'))
  else if startsPlain s.inFlow cur.rest then s.readPlain
  else .error .malformed

/-- Reads the next lexeme, and the ends of the lists and maps before it. -/
def step (s : Scan) : Except ReadError Scan := do
  let s ← s.skip.expire
  let s := s.unwind s.cursor.column
  match s.cursor.rest with
  | [] => return (← s.leave).push .finish
  | c :: _ => s.readAt c

/-- All lexemes of a text. Every step but the last takes a code point, so one more than the length of
the text is enough fuel. -/
def run : Nat → Scan → List Lexeme
  | 0, s => s.lexemes.reverse
  | fuel + 1, s =>
    match s.step with
    | .error error => s.lexemes.reverse ++ [.broken error]
    | .ok s =>
      match s.lexemes with
      | .finish :: _ => s.lexemes.reverse
      | _ => run fuel s

end Scan

/-- What a YAML text cannot hold. -/
def isForbidden (c : CodePoint) : Bool :=
  let n := c.val
  !(n == 0x09 || n == 0x0A || n == 0x0D || (0x20 ≤ n && n ≤ 0x7E) || n == 0x85 ||
    (0xA0 ≤ n && n ≤ 0xD7FF) || (0xE000 ≤ n && n ≤ 0xFFFD) || 0x10000 ≤ n)

/-- The lexemes of a text. -/
def lexemes (s : Text) : List Lexeme :=
  if s.any isForbidden then [.broken .malformed] else Scan.run (s.length + 1) (Scan.start s)

end Mixfix.Yaml
