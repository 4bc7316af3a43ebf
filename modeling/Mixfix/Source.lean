import Mixfix.Decimal

/-!
# Places in a source text

An offset is an integer. One below zero counts from the end of the text, as far as cutting the text
goes, and one beyond the end cuts nothing off. The line and the column of an offset are those after
the text before it. Lines end at line feeds, and both counts begin at one.
-/

set_option autoImplicit false

namespace Mixfix

namespace Text

/-- The cut that an offset makes in a text. -/
def cutAt (s : Text) (offset : Int) : Nat :=
  if offset < 0 then (offset + s.length).toNat else min offset.toNat s.length

/-- The text between two offsets. -/
def slice (s : Text) (start stop : Int) : Text :=
  (s.take (s.cutAt stop)).drop (s.cutAt start)

/-- The text before an offset. -/
def before (s : Text) (offset : Int) : Text :=
  s.take (s.cutAt offset)

/-- The text from an offset on. -/
def fromOffset (s : Text) (offset : Int) : Text :=
  s.drop (s.cutAt offset)

end Text

/-- An offset with its line and column. -/
structure SourcePosition where
  offset : Int
  line : Nat
  column : Int
  deriving DecidableEq

namespace SourcePosition

/-- The index of the last line feed, and minus one where there is none. -/
def lastLineFeed (s : Text) : Int :=
  let tail := s.reverse.takeWhile fun c => !(c == CodePoint.ofChar '\n')
  (s.length : Int) - tail.length - 1

/-- The line and column of an offset. -/
def ofOffset (s : Text) (offset : Int) : SourcePosition :=
  let before := s.before offset
  { offset
    line := before.count (CodePoint.ofChar '\n') + 1
    column := offset - lastLineFeed before }

/-- A position as messages show it. -/
def text (position : SourcePosition) : Text :=
  Decimal.ofNat position.line ++ txt ":" ++ Decimal.ofInt position.column

end SourcePosition

/-- Code points that would break a line, or the layout of one, as their escapes. -/
def Text.onOneLine (s : Text) : Text :=
  s.flatMap fun (c : CodePoint) =>
    if c = '\n' then txt "\\n"
    else if c = '\t' then txt "\\t"
    else if c = '\r' then txt "\\r"
    else [c]

/-- A text around an offset, with a mark at the offset and at most `reach` code points on each side.
Dots stand for what is left out. -/
def snippet (s : Text) (offset reach : Int) (mark : Text) : Text :=
  if s.isEmpty then txt "(empty input)"
  else
    let start : Int := max 0 (offset - reach)
    let stop : Int := min s.length (offset + reach)
    Text.onOneLine <|
      (if 0 < start then txt "..." else []) ++ s.slice start offset ++ mark ++ s.slice offset stop ++
        (if stop < s.length then txt "..." else [])

end Mixfix
