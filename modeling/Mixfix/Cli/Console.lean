import Mixfix.Cli.Options

/-!
# The console

What is printed goes through a library of the host. It takes texts with markup, from which text that is
meant as it stands has to be kept by `escape`, and it may refuse to print them.
-/

set_option autoImplicit false

namespace Mixfix.Cli

/-- Where something is printed. -/
inductive Channel
  | output
  | diagnostics
  deriving DecidableEq

/-- What is printed at once. -/
inductive Printed
  /-- A text with markup. -/
  | text (s : Text)
  /-- A table. There may be markup in all its texts. -/
  | table (title : Option Text) (columns : List Text) (rows : List (List Text))
  /-- A text in a frame with a title, both with markup. -/
  | panel (title s : Text)
  /-- A written tree. -/
  | code (format : Format) (s : Text)

/-- Why something is not printed. -/
inductive PrintError
  /-- A tag closes nothing. -/
  | unmatchedTag
  /-- A text has half of a surrogate pair. -/
  | notEncodable
  deriving DecidableEq

/-- What prints. -/
class Console where
  /-- A text without markup, as markup. -/
  escape : Text → Text
  /-- What is seen of what is printed. -/
  display : Channel → Printed → Except PrintError Printed

end Mixfix.Cli
