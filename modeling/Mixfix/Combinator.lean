import Mixfix.Parse.Terminal

/-!
# Parser combinators

Parsers for texts without precedences, put together from tokens. A token makes a node; a sequence and
a repetition make the list of what their parts make; what may be missing makes null where it is.

A repetition stops at the first match that consumes nothing, so it ends on every text.
-/

set_option autoImplicit false

namespace Mixfix

open Decimal (TooManyDigits)

/-- A parser put together from tokens. -/
inductive Combinator
  | token (t : Terminal)
  /-- The first of some parsers that matches. -/
  | choice (parsers : List Combinator)
  /-- Some parsers one after the other. -/
  | sequence (parsers : List Combinator)
  /-- A parser or nothing. -/
  | maybe (p : Combinator)
  /-- A parser any number of times. -/
  | many (p : Combinator)

instance : Inhabited Combinator := ⟨.sequence []⟩

namespace Combinator

/-- The result of running a parser on a text. -/
abbrev Run := Except TooManyDigits (Option (Match Value))

/-- Runs a parser until it fails or consumes nothing. Each round before that shortens the text, so
the length of the text is enough fuel. -/
def repeated (run : Text → Run) : Nat → Text → Except TooManyDigits (Match (List Value))
  | 0, s => .ok ⟨[], s⟩
  | fuel + 1, s => do
    match ← run s with
    | none => return ⟨[], s⟩
    | some first =>
      if first.rest = s then return ⟨[], s⟩
      else
        let others ← repeated run fuel first.rest
        return ⟨first.value :: others.value, others.rest⟩

mutual
/-- Runs a parser on the front of a text. -/
def run (context : Context) : Combinator → Text → Run
  | .token t, s => do
    let found ← t.match? context s
    return found.map fun result => ⟨.node result.value, result.rest⟩
  | .choice parsers, s => runFirst context parsers s
  | .sequence parsers, s => do
    let found ← runAll context parsers s
    return found.map fun result => ⟨.list result.value, result.rest⟩
  | .maybe p, s => do
    let found ← run context p s
    return some (found.getD ⟨.null, s⟩)
  | .many p, s => do
    let result ← repeated (run context p) s.length s
    return some ⟨.list result.value, result.rest⟩

/-- Runs the first parser that matches. -/
def runFirst (context : Context) : List Combinator → Text → Run
  | [], _ => .ok none
  | p :: rest, s => do
    match ← run context p s with
    | some result => return some result
    | none => runFirst context rest s

/-- Runs parsers one after the other. -/
def runAll (context : Context) :
    List Combinator → Text → Except TooManyDigits (Option (Match (List Value)))
  | [], s => .ok (some ⟨[], s⟩)
  | p :: rest, s => do
    match ← run context p s with
    | none => return none
    | some first =>
      match ← runAll context rest first.rest with
      | none => return none
      | some others => return some ⟨first.value :: others.value, others.rest⟩
end

end Combinator

end Mixfix
