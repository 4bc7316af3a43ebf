import Mixfix.Cli.Command
import Mixfix.Host.Checker
import Mixfix.Host.Console
import Mixfix.Host.Modules
import Mixfix.Host.Shell
import Mixfix.Host.Yaml.Reader

/-!
# The program

Runs the command line, prints what the command printed, writes its files, and exits with its code.
-/

set_option autoImplicit false

namespace Mixfix.Cli

/-- Prints what a command printed at once. -/
def Channel.print (channel : Channel) (printed : Printed) : IO Unit :=
  match channel with
  | .output => IO.println printed.plain.display
  | .diagnostics => IO.eprintln printed.plain.display

/-- Prints why a command stopped, where the command has not reported it itself. -/
def Stop.print (stop : Stop) : IO Unit :=
  match stop with
  | .done | .reported => return
  | .usage e => IO.eprintln (txt "Error: " ++ e.message?.getD (txt "Missing command.")).display
  | .breakdown _ => IO.eprintln "The command broke down."

/-- Prints and writes what a command did. -/
def Report.carryOut (report : Report) : IO Unit := do
  for (channel, printed) in report.effects.printed do
    channel.print printed
  for (name, s) in report.effects.files do
    IO.FS.writeFile name.display s.display
  report.stop.forM Stop.print

end Mixfix.Cli

def main (arguments : List String) : IO UInt32 := do
  let report := Mixfix.Cli.run (arguments.map Mixfix.Text.ofString)
  report.carryOut
  return UInt32.ofNat report.exitCode
