import Mixfix.Text

/-!
# Progress of a parse

How far the terminals of a parse have come. What is recorded is what a terminal left over, and the
furthest offset is the one that the least of these leaves.
-/

set_option autoImplicit false

namespace Mixfix

/-- The length of a source text and the least that a terminal has left of it. -/
structure Progress where
  length : Nat
  leastLeft : Nat
  deriving DecidableEq

namespace Progress

/-- No terminal has matched yet. -/
def start (source : Text) : Progress :=
  ⟨source.length, source.length⟩

/-- A terminal matched and left a text. -/
def record (left : Text) (progress : Progress) : Progress :=
  { progress with leastLeft := min left.length progress.leastLeft }

/-- The offset just after the furthest terminal. -/
def furthest (progress : Progress) : Nat :=
  progress.length - progress.leastLeft

/-- The furthest offsets at the start and after each record in turn. -/
def furthestOffsets (source : Text) (records : List Text) : List Nat :=
  (records.scanl (fun progress left => progress.record left) (start source)).map furthest

end Progress

end Mixfix
