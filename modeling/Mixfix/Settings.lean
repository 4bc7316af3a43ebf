import Mixfix.Decimal

/-!
# Settings of a parser
-/

set_option autoImplicit false

namespace Mixfix

/-- How errors are shown, and whether an expression may be followed by other text. -/
structure Settings where
  /-- How many code points a snippet shows on each side of an error. -/
  snippetReach : Nat
  /-- What stands at the place of an error in a snippet. -/
  snippetMark : Text
  allowTrailing : Bool

/-- A snippet cannot reach a negative number of code points. -/
structure NegativeReach where
  reach : Int

/-- The wording of the error. -/
def NegativeReach.message (error : NegativeReach) : Text :=
  txt "snippet_context must be non-negative, got " ++ Decimal.ofInt error.reach

namespace Settings

/-- The settings where nothing else is said. -/
def standard : Settings where
  snippetReach := 20
  snippetMark := txt "→"
  allowTrailing := false

/-- Settings with a reach that may be negative, which is refused. -/
def checked (reach : Int) (mark : Text) (allowTrailing : Bool) : Except NegativeReach Settings :=
  if reach < 0 then .error ⟨reach⟩ else .ok ⟨reach.toNat, mark, allowTrailing⟩

end Settings

end Mixfix
