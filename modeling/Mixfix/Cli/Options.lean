import Mixfix.Cli.Shell
import Mixfix.Json.Reader
import Mixfix.Rule

/-!
# The options of a command

What the values of the options mean. An option of which one value counts has the last one that is
given. The options for variables are pairs of a name and a value, and of pairs with one name the last
one counts.

Options are looked at in the order in which they are first given, each with all its values, so the
first faulty one is reported.
-/

set_option autoImplicit false

namespace Mixfix.Cli

/-- A format of written trees. -/
inductive Format
  | json
  | yaml
  deriving DecidableEq

/-- The name of a format. -/
def Format.name : Format → Text
  | .json => txt "json"
  | .yaml => txt "yaml"

/-- The format of a name, in which capital letters count as small ones. -/
def Format.named? (s : Text) : Option Format :=
  let lower := s.map fun c => if c.between 'A' 'Z' then CodePoint.ofNat (c.val + 32) else c
  [Format.json, Format.yaml].find? fun format => format.name == lower

/-- The options of a command. -/
structure Options where
  grammar : Text
  /-- The schemas of variables. -/
  schemas : Context
  /-- The values of variables. -/
  values : Fields
  format : Format
  /-- The file for the result. -/
  output : Option Text

/-- The options where none is given. -/
def Options.standard : Options where
  grammar := txt "standard"
  schemas := []
  values := []
  format := .json
  output := none

/-- Why options have no meaning. -/
inductive OptionError
  | usage (error : UsageError)
  /-- An integer in a value has more digits than are converted. -/
  | tooManyDigits

/-- The name and the value of a pair. -/
def pair (setting : Setting) (s : Text) : Except UsageError (Text × Text) :=
  match Text.splitFirst? '=' s with
  | some (name, value) =>
    if name.isBlank then .error (.notPair setting s) else .ok (name.trim, value.trim)
  | none => .error (.notPair setting s)

/-- The names and values of pairs, the last of one name counting. -/
def pairs (setting : Setting) (texts : List Text) : Except UsageError (Entries Text) :=
  return Entries.ofList (← texts.mapM (pair setting))

/-- The value that a text in JSON is. -/
def jsonValue (entry : Text × Text) : Except OptionError (Text × Value) :=
  match Json.read entry.2 with
  | .ok value => .ok (entry.1, value)
  | .error .malformed => .error (.usage (.notJson entry.1 entry.2))
  | .error .tooManyDigits => .error .tooManyDigits

/-- The options with all the values of one option set. -/
def Options.set (options : Options) (setting : Setting) (texts : List Text) :
    Except OptionError Options :=
  match setting with
  | .grammar => .ok { options with grammar := texts.getLastD options.grammar }
  | .output => .ok { options with output := texts.getLast? }
  | .format =>
    match texts.getLast? with
    | none => .ok options
    | some s =>
      match Format.named? s with
      | some format => .ok { options with format }
      | none => .error (.usage (.notFormat s))
  | .schema => do
    return { options with schemas := ← (pairs .schema texts).mapError .usage }
  | .value => do
    let values ← (pairs .value texts).mapError .usage
    return { options with values := ← values.mapM jsonValue }

/-- The options that are given, each once, in the order in which they first come. -/
def settingsGiven (given : List (Setting × Text)) : List Setting :=
  (given.map Prod.fst).eraseDups

/-- The values of one option in order. -/
def valuesGiven (setting : Setting) (given : List (Setting × Text)) : List Text :=
  (given.filter fun entry => entry.1 == setting).map Prod.snd

/-- The meaning of the options that are given. -/
def Options.ofGiven (given : List (Setting × Text)) : Except OptionError Options :=
  (settingsGiven given).foldlM
    (fun options setting => options.set setting (valuesGiven setting given)) .standard

end Mixfix.Cli
