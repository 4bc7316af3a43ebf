import Mixfix.Cli.Console
import Mixfix.Registry.Builtin
import Mixfix.Session
import Mixfix.Tree.Formats

/-!
# What a command does

A command prints to one of two streams, writes files, and stops. It stops by itself, with a code that
says whether it did what it is for, or because the command line is wrong, or because something fails
that no command reports: these failures are told apart from the reported ones by their constructor.

What was printed and written before a command stops stays.
-/

set_option autoImplicit false

namespace Mixfix.Cli

/-- What is seen of what was printed, and what was written. -/
structure Effects where
  printed : List (Channel × Printed)
  files : Entries Text

/-- Why a file is not written. -/
inductive FileError
  | noDirectory
  | isDirectory
  /-- The text has half of a surrogate pair. -/
  | notEncodable
  deriving DecidableEq

/-- A failure that a command does not report. -/
inductive Breakdown
  | definition (error : DefinitionError)
  | registry (error : RegistryError)
  | tooManyDigits
  | interrupted (reason : Interruption)
  | compile (error : CompileError)
  | evaluation (error : EvalError)
  | tree (error : Tree.FormatError)
  | result (error : Json.WriteError)
  /-- The schema of an expression is not a text. -/
  | schemaType
  | console (error : PrintError)
  | file (error : FileError)

/-- Why a command stops early. -/
inductive Stop
  | done
  /-- A failure that has been reported. -/
  | reported
  | usage (error : UsageError)
  | breakdown (failure : Breakdown)

/-- What a command does. -/
abbrev Job := ExceptT Stop (StateM Effects)

namespace Job

/-- Stops for a failure that is not reported. -/
def breakDown {α : Type} (failure : Breakdown) : Job α :=
  throw (.breakdown failure)

/-- Goes on with a result, or stops. -/
def orStop {ε α : Type} (stop : ε → Stop) : Except ε α → Job α
  | .ok a => return a
  | .error e => throw (stop e)

section

variable [Console]

/-- Prints something. -/
def put (channel : Channel) (printed : Printed) : Job Unit := do
  let seen ← orStop (fun e => .breakdown (.console e)) (Console.display channel printed)
  modify fun effects => { effects with printed := effects.printed ++ [(channel, seen)] }

/-- Prints one thing after the other. -/
def putAll (prints : List (Channel × Printed)) : Job Unit :=
  prints.forM fun (channel, printed) => put channel printed

/-- Reports a failure with its reason, which may have markup, and stops. -/
def reportFailure {α : Type} (what reason : Text) : Job α := do
  put .diagnostics (.text (txt "[red]" ++ what ++ txt ":[/red] " ++ reason))
  throw .reported

end

/-- The steps of a path that lead somewhere else. -/
def pathSteps (path : Text) : List Text :=
  (path.splitOn (CodePoint.ofChar '/')).filter fun step => !(step.isEmpty || step == txt ".")

/-- The file of a path in the current directory, which has no directories. -/
def fileName (path : Text) : Except FileError Text :=
  match pathSteps path with
  | [] => .error .isDirectory
  | [name] => if name == txt ".." then .error .isDirectory else .ok name
  | _ => .error .noDirectory

/-- Writes a file. It is made before its text is written, and stays empty if that fails. -/
def writeFile (path s : Text) : Job Unit := do
  let name ← orStop (fun e => .breakdown (.file e)) (fileName path)
  let fails := s.any CodePoint.isSurrogate
  modify fun effects =>
    { effects with files := effects.files.put name (if fails then [] else s) }
  if fails then breakDown (.file .notEncodable)

end Job

/-- What a command did, and why it stopped if it stopped early. -/
structure Report where
  effects : Effects
  stop : Option Stop

/-- Runs an action from the start. -/
def Report.ofAction (action : Job Unit) : Report :=
  match action ⟨[], []⟩ with
  | (.ok (), effects) => ⟨effects, none⟩
  | (.error stop, effects) => ⟨effects, some stop⟩

/-- The exit code: two for a wrong command line, one for any other failure. -/
def Report.exitCode (report : Report) : Nat :=
  match report.stop with
  | none | some .done => 0
  | some .reported | some (.breakdown _) => 1
  | some (.usage _) => 2

end Mixfix.Cli
