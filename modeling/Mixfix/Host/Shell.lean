import Mixfix.Cli.Shell
import Mixfix.Text.Similar

/-!
# The shell of the program

How the words of a command line are told apart. An option has its value in the same word, after an equals
sign or right after its letter, or in the next word, whatever that is. Two dashes end the options. A word
that is neither an option nor the value of one is an argument.

Reading the words only tells options from arguments. The first word that cannot be read is the error, and
what the values mean is not looked at here.
-/

set_option autoImplicit false

namespace Mixfix.Cli

/-- What a command takes, and what may stand before its name. -/
structure Signature where
  settings : List Setting
  /-- The options without a value, each of which asks for a text about the command. -/
  inquiries : List Text
  /-- Whether options may follow an argument. -/
  mixed : Bool

/-- The names of the options of a command. -/
def Signature.names (signature : Signature) : List Text :=
  signature.settings.map Setting.name ++ signature.inquiries

/-- What a command takes. -/
def Command.signature (command : Command) : Signature where
  settings := command.settings
  inquiries := [txt "--help"]
  mixed := true

/-- What may stand before the name of a command. -/
def topSignature : Signature where
  settings := []
  inquiries := [txt "--version", txt "--help"]
  mixed := false

/-- The names that may have been meant. -/
def suggestion (near : List Text) : Text :=
  let names := Text.join (txt ", ") (near.map Text.quoted)
  match near with
  | [] => []
  | [_] => txt " Did you mean " ++ names ++ txt "?"
  | _ => txt " (Possible options: " ++ names ++ txt ")"

/-- The refusal of an option that there is not. -/
def unknownOption (name : Text) (near : List Text) : Refusal where
  kind := txt "NoSuchOption"
  message := some (txt "No such option " ++ name.quoted ++ txt "." ++ suggestion near)

/-- The refusal of an option that is used in a wrong way. -/
def badUsage (option reason : Text) : Refusal where
  kind := txt "BadOptionUsage"
  message := some (txt "Option " ++ option.quoted ++ reason)

/-- What one word of a command line is. -/
inductive Word
  | argument
  | inquiry
  /-- An option with its value. -/
  | setting (setting : Setting) (value : Text)
  /-- An option, as it is written, with its value in the next word. -/
  | opening (setting : Setting) (written : Text)

/-- What an option of one letter is, the value maybe right after the letter. -/
def Signature.letterWord (signature : Signature) (letter : CodePoint) (value : Text) :
    Except Refusal Word :=
  let written : Text := ['-', letter]
  match signature.settings.find? fun setting => setting.letter? == some letter with
  | none => .error (unknownOption written [])
  | some setting => .ok (if value.isEmpty then .opening setting written else .setting setting value)

/-- What a word is that begins with a dash, more following. The name of an option ends at an equals
sign. -/
def Signature.optionWord (signature : Signature) (letter : CodePoint) (rest : Text) :
    Except Refusal Word :=
  let word : Text := '-' :: letter :: rest
  let (name, value) : Text × Option Text :=
    match Text.splitFirst? '=' word with
    | some (name, value) => (name, some value)
    | none => (word, none)
  match signature.settings.find? (fun setting => setting.name == name), value with
  | some setting, some value => .ok (.setting setting value)
  | some setting, none => .ok (.opening setting name)
  | none, value =>
    if signature.inquiries.contains name then
      if value.isSome then .error (badUsage name (txt " does not take a value.")) else .ok .inquiry
    else if letter = '-' then .error (unknownOption name (Text.closest name signature.names))
    else signature.letterWord letter rest

/-- What a word is, other than the end of the options. -/
def Signature.word (signature : Signature) (s : Text) : Except Refusal Word :=
  match s with
  | dash :: letter :: rest =>
    if dash = '-' then signature.optionWord letter rest else .ok .argument
  | _ => .ok .argument

/-- The words of a command line, told apart. -/
structure Line where
  /-- The options with their values in the order in which they came. -/
  given : List (Setting × Text)
  /-- Whether a text about the command is asked for. -/
  asked : Bool
  arguments : List Text

/-- Reads the words of a command line. -/
def Signature.read (signature : Signature) : List Text → Except Refusal Line
  | [] => .ok ⟨[], false, []⟩
  | s :: rest =>
    if s == txt "--" then .ok ⟨[], false, rest⟩
    else
      match signature.word s with
      | .error e => .error e
      | .ok .argument =>
        if signature.mixed then do
          let line ← read signature rest
          return { line with arguments := s :: line.arguments }
        else .ok ⟨[], false, s :: rest⟩
      | .ok .inquiry => do return { ← read signature rest with asked := true }
      | .ok (.setting setting value) => do
        let line ← read signature rest
        return { line with given := (setting, value) :: line.given }
      | .ok (.opening setting written) =>
        match rest with
        | [] => .error (badUsage written (txt " requires an argument."))
        | value :: rest => do
          let line ← read signature rest
          return { line with given := (setting, value) :: line.given }

/-- The only argument of a command, if it takes one. -/
def onlyArgument (command : Command) (arguments : List Text) : Except Refusal Text :=
  let extra (left : List Text) : Refusal :=
    ⟨txt "UsageError", some (txt "Got unexpected extra argument" ++
      (if left.length = 1 then [] else txt "s") ++ txt " (" ++ Text.join (txt " ") left ++ txt ")")⟩
  match command.argument?, arguments with
  | some name, [] =>
    .error ⟨txt "MissingParameter", some (txt "Missing argument " ++ name.quoted ++ txt ".")⟩
  | some _, [argument] => .ok argument
  | some _, _ :: rest => .error (extra rest)
  | none, [] => .ok []
  | none, rest => .error (extra rest)

/-- What the words of a command call. -/
def Command.call (command : Command) (words : List Text) : Except Refusal (Option Call) := do
  let line ← command.signature.read words
  if line.asked then return none
  return some ⟨command, line.given, onlyArgument command line.arguments⟩

/-- A word that names no command. If it looks like an option, it is refused as one. -/
def unknownCommand (word : Text) : Except Refusal (Option Call) := do
  let line ← topSignature.read [word]
  if line.asked then return none
  let near := Text.closest word (Command.all.map Command.name)
  throw ⟨txt "NoSuchCommand",
    some (txt "No such command " ++ word.quoted ++ txt "." ++ suggestion near)⟩

/-- What the words of a command line call. -/
def readWords (words : List Text) : Except Refusal (Option Call) := do
  if words.isEmpty then throw ⟨txt "NoArgsIsHelpError", none⟩
  let line ← topSignature.read words
  if line.asked then return none
  match line.arguments with
  | [] => throw ⟨txt "UsageError", some (txt "Missing command.")⟩
  | word :: rest =>
    match Command.all.find? fun command => command.name == word with
    | some command => command.call rest
    | none => unknownCommand word

instance : Shell where
  read := readWords

end Mixfix.Cli
