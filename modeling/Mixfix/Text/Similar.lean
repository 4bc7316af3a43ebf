import Mixfix.Text

/-!
# Similar names

How alike two texts are: the longest stretch that both have is set aside, then the longest stretch
before it and the longest one after it, and so on. Twice the length of these stretches over the
length of both texts is between zero, nothing in common, and one, the same text.

The stretches depend on which of several longest ones comes first, so the measure is not symmetric.
-/

set_option autoImplicit false

namespace Mixfix.Text

/-- The length of the longest common start of two texts. -/
def commonStart : Text → Text → Nat
  | a :: s, b :: t => if a = b then commonStart s t + 1 else 0
  | _, _ => 0

/-- A stretch that stands in two texts, and where it begins in each. -/
structure Stretch where
  first : Nat
  second : Nat
  length : Nat

/-- The longest stretch that stands in two texts: of several the one that is first in the first
text, and of these the one that is first in the second. -/
def longestStretch (s t : Text) : Stretch :=
  let places := (List.range s.length).flatMap fun i => (List.range t.length).map fun j => (i, j)
  places.foldl (fun best (i, j) =>
    let length := commonStart (s.drop i) (t.drop j)
    if best.length < length then ⟨i, j, length⟩ else best) ⟨0, 0, 0⟩

/-- The length of what two texts have in common. The fuel is the length of the first. -/
def commonLength : Nat → Text → Text → Nat
  | 0, _, _ => 0
  | fuel + 1, s, t =>
    let best := longestStretch s t
    if best.length = 0 then 0
    else
      commonLength fuel (s.take best.first) (t.take best.second) + best.length +
        commonLength fuel (s.drop (best.first + best.length)) (t.drop (best.second + best.length))

/-- How much of a name and a word is common to both, as a fraction. -/
def likeness (word name : Text) : Nat × Nat :=
  (2 * commonLength name.length name word, name.length + word.length)

/-- The names that a misspelt word may stand for, in ascending order: the three that are most like
it, of those with a likeness of three fifths or more. -/
def closest (word : Text) (names : List Text) : List Text :=
  let scored := names.map fun name => (name, likeness word name)
  let near := scored.filter fun (_, common, whole) => 3 * whole ≤ 5 * common
  let ranked := near.mergeSort fun (a, x) (b, y) =>
    if x.1 * y.2 = y.1 * x.2 then !decide (a < b) else y.1 * x.2 < x.1 * y.2
  sortedSet ((ranked.take 3).map Prod.fst)

end Mixfix.Text
