import Mixfix.Text.Quoted

/-!
# The words of a command line

The commands with their options and arguments. The words of a command line are told apart by a library of
the host (`Shell`): it finds out which command they call, which options they give and with which texts. What
these texts mean is not its business, except that it refuses words that call nothing.
-/

set_option autoImplicit false

namespace Mixfix.Cli

/-- An option that takes a value. -/
inductive Setting
  | grammar
  /-- The schema of a variable. -/
  | schema
  /-- The value of a variable. -/
  | value
  | format
  | output
  deriving DecidableEq

namespace Setting

/-- The name of an option. -/
def name : Setting → Text
  | .grammar => txt "--grammar"
  | .schema => txt "--var"
  | .value => txt "--set"
  | .format => txt "--format"
  | .output => txt "--output"

/-- The letter of an option that has one. -/
def letter? : Setting → Option CodePoint
  | .grammar => some 'g'
  | .output => some 'o'
  | _ => none

end Setting

/-- A command. -/
inductive Command
  | version
  | grammars
  | levels
  | parse
  | eval
  deriving DecidableEq

namespace Command

/-- The commands in the order of their names. -/
def all : List Command :=
  [.eval, .grammars, .levels, .parse, .version]

/-- The name of a command. -/
def name : Command → Text
  | .version => txt "version"
  | .grammars => txt "grammars"
  | .levels => txt "levels"
  | .parse => txt "parse"
  | .eval => txt "eval"

/-- The options that a command takes. -/
def settings : Command → List Setting
  | .parse => [.grammar, .schema, .format, .output]
  | .eval => [.grammar, .schema, .value]
  | _ => []

/-- The name of the argument of a command. -/
def argument? : Command → Option Text
  | .levels => txt "GRAMMAR"
  | .parse | .eval => txt "EXPRESSION"
  | _ => none

end Command

/-- Why words are refused: the kind of the error and its wording, if it has one. -/
structure Refusal where
  kind : Text
  message : Option Text
  deriving DecidableEq

/-- A command that is called. -/
structure Call where
  command : Command
  /-- The options with their texts in the order in which they are given. -/
  given : List (Setting × Text)
  /-- The argument, if there is the one that the command takes. It is asked for when the options are read. -/
  argument : Except Refusal Text

/-- What tells the words of a command line apart. -/
class Shell where
  /-- The command that words call, if they do not only ask for a text about the program. -/
  read : List Text → Except Refusal (Option Call)

/-- What is wrong with a command line. -/
inductive UsageError
  | refused (refusal : Refusal)
  | notPair (setting : Setting) (given : Text)
  | notJson (name given : Text)
  | notFormat (given : Text)
  deriving DecidableEq

/-- The kind of an error. A value that an option does not take is a bad parameter. -/
def UsageError.kind : UsageError → Text
  | .refused refusal => refusal.kind
  | _ => txt "BadParameter"

/-- The wording of an error, if it has one. -/
def UsageError.message? : UsageError → Option Text
  | .refused refusal => refusal.message
  | .notPair setting given =>
    some (txt "Invalid value for " ++ setting.name ++ txt ": expected NAME=VALUE, got " ++ given.quoted)
  | .notJson name given =>
    some (txt "Invalid value for " ++ Setting.name .value ++ txt ": value of " ++ name.quoted ++
      txt " is not valid JSON: " ++ given.quoted)
  | .notFormat given =>
    some (txt "Invalid value for " ++ (Setting.name .format).quoted ++ txt ": " ++ given.quoted ++
      txt " is not one of 'json', 'yaml'.")

end Mixfix.Cli
