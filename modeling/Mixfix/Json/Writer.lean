import Mixfix.Json.Quote
import Mixfix.Value.Display

/-!
# Writing JSON

A value as a JSON text, on one line or with an indentation. Doubles that JSON has no notation for are
written by their names. The undefined value and nodes are not data, so they cannot be written.
-/

set_option autoImplicit false

namespace Mixfix.Json

/-- Why a value is not written. -/
inductive WriteError
  /-- The undefined value or a node. -/
  | notData
  /-- An integer has more digits than are converted. -/
  | tooManyDigits

/-- Doubles in JSON. -/
def doubleStyle : Binary64.Style :=
  { messageStyle with
    nan := txt "NaN", infinity := txt "Infinity", negativeInfinity := txt "-Infinity" }

/-- How a JSON text is laid out. -/
structure Layout where
  /-- The step by which what is inside is indented. Without it all stands on one line. -/
  indent : Option Nat
  /-- Whether everything beyond ASCII is escaped. -/
  ascii : Bool

namespace Layout

/-- What stands before an item or a closing bracket at some depth. -/
def lineStart (layout : Layout) (depth : Nat) : Text :=
  match layout.indent with
  | some step => CodePoint.ofChar '\n' :: List.replicate (step * depth) ' '
  | none => []

/-- What stands between two items. -/
def separator (layout : Layout) (depth : Nat) : Text :=
  match layout.indent with
  | some _ => txt "," ++ layout.lineStart depth
  | none => txt ", "

/-- Items between brackets, at some depth. -/
def bracketed (layout : Layout) (depth : Nat) (opening closing : String) (items : List Text) :
    Text :=
  if items.isEmpty then txt opening ++ txt closing
  else
    txt opening ++ layout.lineStart (depth + 1) ++ Text.join (layout.separator (depth + 1)) items ++
      layout.lineStart depth ++ txt closing

end Layout

/-- A double as JSON. -/
def writeDouble (x : Float) : Text :=
  doubleStyle.write x

/-- An integer as JSON. -/
def writeInteger (n : Int) : Except WriteError Text :=
  match Decimal.writeInt n with
  | .ok s => .ok s
  | .error .tooManyDigits => .error .tooManyDigits

mutual
/-- A value as JSON, at some depth. -/
def writeAt (layout : Layout) (depth : Nat) : Value → Except WriteError Text
  | .null => .ok (txt "null")
  | .undefined => .error .notData
  | .bool b => .ok (if b then txt "true" else txt "false")
  | .int n => writeInteger n
  | .float x => .ok (writeDouble x)
  | .nan _ => .ok doubleStyle.nan
  | .str s => .ok (quote layout.ascii s)
  | .list items => do
    return layout.bracketed depth "[" "]" (← writeItems layout (depth + 1) items)
  | .map entries => do
    return layout.bracketed depth "\x7b" "\x7d" (← writeEntries layout (depth + 1) entries)
  | .node _ => .error .notData

/-- Each value of a list as JSON. -/
def writeItems (layout : Layout) (depth : Nat) : List Value → Except WriteError (List Text)
  | [] => .ok []
  | value :: rest => do
    let first ← writeAt layout depth value
    return first :: (← writeItems layout depth rest)

/-- Each entry of a map as JSON. -/
def writeEntries (layout : Layout) (depth : Nat) :
    List (Text × Value) → Except WriteError (List Text)
  | [] => .ok []
  | (key, value) :: rest => do
    let first ← writeAt layout depth value
    return (quote layout.ascii key ++ txt ": " ++ first) :: (← writeEntries layout depth rest)
end

/-- A value as a JSON text. -/
def write (layout : Layout) (value : Value) : Except WriteError Text :=
  writeAt layout 0 value

/-- A value as a JSON text on one line, in ASCII. -/
def writeLine (value : Value) : Except WriteError Text :=
  write ⟨none, true⟩ value

end Mixfix.Json
