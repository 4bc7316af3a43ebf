import Mixfix.Host.Yaml.Scalar
import Mixfix.Yaml

/-!
# Writing YAML

Plain data as a YAML document in block layout: an entry or an item a line, two columns of indentation
for what is inside, except that the items of a list are not indented under their key.

A text is written plain if it reads back as the same text, else between apostrophes, and between
quotation marks if it holds anything that is not printable. Texts are folded at spaces once a line is
longer than eighty columns, keys never are. An empty, long or many-lined key stands after a question
mark on a line of its own.

The writer goes from left to right. Its state is the column it is at and what it wrote last.
-/

set_option autoImplicit false

namespace Mixfix.Yaml

/-- What a document is made of. -/
inductive Tree
  /-- A scalar that is always plain. -/
  | plain (s : Text)
  | text (s : Text)
  | list (items : List Tree)
  | map (entries : List (Text × Tree))

mutual
/-- A value as a document. -/
def Tree.ofValue : Value → Except WriteError Tree
  | .null => .ok (.plain (txt "null"))
  | .undefined => .error .notData
  | .bool b => .ok (.plain (if b then txt "true" else txt "false"))
  | .int n =>
    match Decimal.writeInt n with
    | .ok s => .ok (.plain s)
    | .error .tooManyDigits => .error .tooManyDigits
  | .float x => .ok (.plain (doubleStyle.write x))
  | .nan _ => .ok (.plain doubleStyle.nan)
  | .str s => .ok (.text s)
  | .list items => do return .list (← itemTrees items)
  | .map entries => do return .map (← entryTrees entries)
  | .node _ => .error .notData

/-- Each value of a list as a document. -/
def itemTrees : List Value → Except WriteError (List Tree)
  | [] => .ok []
  | value :: rest => do
    let first ← Tree.ofValue value
    return first :: (← itemTrees rest)

/-- Each entry of a map as a document. -/
def entryTrees : List (Text × Value) → Except WriteError (List (Text × Tree))
  | [] => .ok []
  | (key, value) :: rest => do
    let first ← Tree.ofValue value
    return (key, first) :: (← entryTrees rest)
end

/-! ## What a text allows -/

/-- A space, a tab or a break of any kind. -/
def isGap (c : CodePoint) : Bool :=
  isBreak c || c == ' ' || c == '\t' || c == '\r' || c.val == 0

/-- What may not begin a plain scalar. -/
def leadingMarks : Text :=
  txt "#,[]\x7b\x7d&*!|>'\"%@\x60"

/-- Whether the next code point is missing or a gap. -/
def beforeGap (rest : Text) : Bool :=
  match rest with
  | [] => true
  | c :: _ => isGap c

/-- Whether there is a mark that makes no plain scalar after the first code point of a text.
`afterGap` says whether what comes before is a gap. -/
def hasInnerMark : Bool → Text → Bool
  | _, [] => false
  | afterGap, c :: rest =>
    (c == ':' && beforeGap rest) || (c == '#' && afterGap) || hasInnerMark (isGap c) rest

/-- Whether there is a mark that makes no plain scalar. -/
def hasMark (s : Text) : Bool :=
  match s with
  | [] => false
  | c :: rest =>
    (Text.after? (txt "---") s).isSome || (Text.after? (txt "...") s).isSome ||
      leadingMarks.contains c ||
      ((c == '?' || c == ':' || c == '-') && beforeGap rest) || hasInnerMark (isGap c) rest

/-- Whether a text can be written plain. -/
def plainAllowed (s : Text) : Bool :=
  match s.head?, s.getLast? with
  | some first, some last =>
    !isSpace first && !isSpace last && !s.any isBreak && s.all isPlainPoint && !hasMark s
  | _, _ => true

/-- How a scalar is written. -/
inductive ScalarStyle
  | plain
  | apostrophes
  | quotationMarks
  deriving DecidableEq

/-- How a text is written, as a key on one line or elsewhere. -/
def textStyle (asKey : Bool) (s : Text) : ScalarStyle :=
  let lines := s.any isBreak
  if looks s == .text && plainAllowed s && !(asKey && (s.isEmpty || lines)) then .plain
  else if apostrophesAllowed s && !(asKey && lines) then .apostrophes
  else .quotationMarks

/-! ## The writer -/

/-- Where the writer is. -/
structure Writer where
  /-- What is written, last code point first. -/
  reversed : Text
  column : Nat
  /-- Whether the last thing written separates what comes next. -/
  spaced : Bool
  /-- Whether nothing but indentation and marks is on the line. -/
  fresh : Bool

namespace Writer

/-- Nothing is written. -/
def start : Writer :=
  ⟨[], 0, true, true⟩

/-- Writes a text on the line. -/
def put (s : Text) (w : Writer) : Writer :=
  { w with reversed := s.reverse ++ w.reversed, column := w.column + s.length }

/-- Writes a line break. -/
def lineBreak (c : CodePoint) (w : Writer) : Writer :=
  ⟨c :: w.reversed, 0, true, true⟩

/-- Goes to an indentation, on a new line unless the line is fresh. -/
def indentTo (indent : Nat) (w : Writer) : Writer :=
  let w :=
    if !w.fresh || indent < w.column || (w.column == indent && !w.spaced) then w.lineBreak '\n' else w
  if w.column < indent then
    { w.put (List.replicate (indent - w.column) ' ') with spaced := true }
  else w

/-- Writes a mark, after a space where it needs one. -/
def mark (s : String) (needsSpace leavesSpace keepsFresh : Bool) (w : Writer) : Writer :=
  let shown := if w.spaced || !needsSpace then txt s else txt " " ++ txt s
  { w.put shown with spaced := leavesSpace, fresh := w.fresh && keepsFresh }

/-- Marks the line as one with a scalar on it. -/
def closeScalar (w : Writer) : Writer :=
  { w with spaced := false, fresh := false }

/-- A run of spaces, of line breaks, or of anything else. -/
inductive Run
  | spaces (count : Nat)
  | breaks (run : Text)
  | solid (run : Text)

/-- The runs of a text. -/
def runs : Text → List Run
  | [] => []
  | c :: rest =>
    match runs rest with
    | .spaces n :: others =>
      if isSpace c then .spaces (n + 1) :: others else single c :: .spaces n :: others
    | .breaks run :: others =>
      if isBreak c then .breaks (c :: run) :: others else single c :: .breaks run :: others
    | .solid run :: others =>
      if isSpace c || isBreak c then single c :: .solid run :: others
      else .solid (c :: run) :: others
    | [] => [single c]
where
  /-- The run of one code point. -/
  single (c : CodePoint) : Run :=
    if isSpace c then .spaces 1 else if isBreak c then .breaks [c] else .solid [c]

/-- Writes spaces. A single space inside of a text becomes a line break where the line is too long. -/
def putSpaces (fold inside : Bool) (indent count : Nat) (w : Writer) : Writer :=
  if count == 1 && fold && inside && lineWidth < w.column then w.indentTo indent
  else w.put (List.replicate count ' ')

/-- Writes the runs of a plain scalar. -/
def plainRuns (fold : Bool) (indent : Nat) : List Run → Writer → Writer
  | [], w => w
  | .spaces n :: rest, w =>
    plainRuns fold indent rest (closeScalar (w.putSpaces fold true indent n))
  | .breaks run :: rest, w => plainRuns fold indent rest (w.put run)
  | .solid run :: rest, w => plainRuns fold indent rest (w.put run)

/-- Writes a plain scalar. -/
def plain (fold : Bool) (indent : Nat) (s : Text) (w : Writer) : Writer :=
  if s.isEmpty then w
  else
    let w := if w.spaced then w else w.put (txt " ")
    plainRuns fold indent (runs s) w.closeScalar

/-- Writes line breaks in a scalar. A line feed that begins them is written twice, since one alone
would read back as a space. -/
def putBreaks (indent : Nat) (run : Text) (w : Writer) : Writer :=
  let w := if run.head? == some (CodePoint.ofChar '\n') then w.lineBreak '\n' else w
  (run.foldl (fun w c => lineBreak c w) w).indentTo indent

/-- Writes the runs of a text between apostrophes. `first` says that nothing was written before. -/
def apostropheRuns (fold : Bool) (indent : Nat) : Bool → List Run → Writer → Writer
  | _, [], w => w
  | first, .spaces n :: rest, w =>
    apostropheRuns fold indent false rest (w.putSpaces fold (!first && !rest.isEmpty) indent n)
  | _, .breaks run :: rest, w => apostropheRuns fold indent false rest (w.putBreaks indent run)
  | _, .solid run :: rest, w =>
    apostropheRuns fold indent false rest
      (w.put (run.flatMap fun (c : CodePoint) => if c = '\'' then [c, c] else [c]))

/-- Writes a text between apostrophes. -/
def apostrophes (fold : Bool) (indent : Nat) (s : Text) (w : Writer) : Writer :=
  (apostropheRuns fold indent true (runs s) (w.mark "'" true false false)).mark "'" false false false

/-- The escape of a code point by its number. -/
def numberEscape (c : CodePoint) : Text :=
  if c.val < 0x100 then txt "\\x" ++ Text.hex true 2 c.val
  else if c.val < 0x10000 then txt "\\u" ++ Text.hex true 4 c.val
  else txt "\\U" ++ Text.hex true 8 c.val

/-- The letters of the escapes that have one. -/
def escapeLetters : List (Nat × Char) :=
  [(0x00, '0'), (0x07, 'a'), (0x08, 'b'), (0x09, 't'), (0x0A, 'n'), (0x0B, 'v'), (0x0C, 'f'),
    (0x0D, 'r'), (0x1B, 'e'), (0x22, '"'), (0x5C, '\\'), (0x85, 'N'), (0xA0, '_'), (0x2028, 'L'),
    (0x2029, 'P')]

/-- The escape of a code point between quotation marks, if it needs one. -/
def escape? (c : CodePoint) : Option Text :=
  let n := c.val
  let bare := (0x20 ≤ n && n ≤ 0x7E) || (0xA0 ≤ n && n ≤ 0xD7FF) || (0xE000 ≤ n && n ≤ 0xFFFD)
  let marked := c == '"' || c == '\\' || n == 0x2028 || n == 0x2029 || n == 0xFEFF
  if bare && !marked then none
  else
    match escapeLetters.find? fun entry => entry.1 == n with
    | some (_, letter) => some ['\\', letter]
    | none => some (numberEscape c)

/-- Breaks a line between quotation marks, where spaces at both ends of a line need a backslash. -/
def foldQuoted (indent : Nat) (spaceNext : Bool) (w : Writer) : Writer :=
  let w := { (w.put (txt "\\")).indentTo indent with spaced := false, fresh := false }
  if spaceNext then w.put (txt "\\") else w

/-- Writes the code points between quotation marks. `held` are those that are read but not yet
written, last first, and `first` says that nothing was read before. The line may be broken before a
space, and next to an escape, but not at the first code point or the last. -/
def quotedPoints (fold : Bool) (indent : Nat) : Bool → Text → Text → Writer → Writer
  | _, held, [], w => w.put held.reverse
  | first, held, c :: rest, w =>
    let inside := fold && !first && !rest.isEmpty
    match escape? c with
    | some escaped =>
      let w := (w.put held.reverse).put escaped
      let w :=
        if inside && lineWidth + 1 < w.column then
          w.foldQuoted indent (rest.head? == some (CodePoint.ofChar ' '))
        else w
      quotedPoints fold indent false [] rest w
    | none =>
      if inside && (isSpace c || held.isEmpty) && lineWidth < w.column + held.length then
        quotedPoints fold indent false [c] rest
          ((w.put held.reverse).foldQuoted indent (isSpace c))
      else quotedPoints fold indent false (c :: held) rest w

/-- Writes a text between quotation marks. -/
def quotationMarks (fold : Bool) (indent : Nat) (s : Text) (w : Writer) : Writer :=
  (quotedPoints fold indent true [] s (w.mark "\"" true false false)).mark "\"" false false false

/-- Writes a text at an indentation, as a key on one line or elsewhere. -/
def text (asKey : Bool) (indent : Nat) (s : Text) (w : Writer) : Writer :=
  match textStyle asKey s with
  | .plain => w.plain (!asKey) indent s
  | .apostrophes => w.apostrophes (!asKey) indent s
  | .quotationMarks => w.quotationMarks (!asKey) indent s

/-- The longest key that stands on a line with its value. -/
def longestKey : Nat := 122

/-- Whether a key can stand on a line with its value. -/
def isSimpleKey (key : Text) : Bool :=
  !key.isEmpty && !key.any isBreak && key.length ≤ longestKey

/-- Writes a key and what stands between it and its value. -/
def key (indent : Nat) (s : Text) (w : Writer) : Writer :=
  if isSimpleKey s then ((w.indentTo indent).text true (indent + 2) s).mark ":" false false false
  else
    let w := ((w.indentTo indent).mark "?" true false true).text false (indent + 2) s
    (w.indentTo indent).mark ":" true false true

mutual
/-- Writes what stands after a key or a dash. `indent` is the column of the map or list around it. -/
def tree (indent : Nat) (underKey : Bool) : Tree → Writer → Writer
  | .plain s, w => w.plain true (indent + 2) s
  | .text s, w => w.text false (indent + 2) s
  | .list [], w => (w.mark "[" true true false).mark "]" false false false
  | .list items, w => listItems (if underKey && !w.fresh then indent else indent + 2) items w
  | .map [], w => (w.mark "\x7b" true true false).mark "\x7d" false false false
  | .map entries, w => mapEntries (indent + 2) entries w

/-- Writes the items of a list, each after a dash. -/
def listItems (indent : Nat) : List Tree → Writer → Writer
  | [], w => w
  | item :: rest, w =>
    listItems indent rest (tree indent false item ((w.indentTo indent).mark "-" true false true))

/-- Writes the entries of a map. -/
def mapEntries (indent : Nat) : List (Text × Tree) → Writer → Writer
  | [], w => w
  | (name, value) :: rest, w => mapEntries indent rest (tree indent true value (w.key indent name))
end

end Writer

/-- Plain data as a YAML document. -/
def write (entries : Fields) : Except WriteError Text := do
  let trees ← entryTrees entries
  let written :=
    if trees.isEmpty then Writer.tree 0 false (.map []) .start else Writer.mapEntries 0 trees .start
  return (written.indentTo 0).reversed.reverse

end Mixfix.Yaml
