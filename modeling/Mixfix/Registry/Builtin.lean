import Mixfix.Grammar.Builtin
import Mixfix.Registry

/-!
# The registry of the program

The program has two ready-made grammars, whose factories only make rules and use no registry. Others come
from the packages that are installed, as modules and as entry points, and their code may do anything.
-/

set_option autoImplicit false

namespace Mixfix

/-- A factory: one that only makes rules, or code of the host. -/
inductive Factory (C : Type)
  | rules (made : Except DefinitionError (List Rule))
  | code (c : C)

/-- What is installed, with the code of the host that can be a factory. -/
class Importer (C : outParam Type) where
  call : C → Registry (Factory C) → Course (Factory C) (List Rule)
  /-- Imports a module for one of its attributes. -/
  member (module name : Text) : Registry (Factory C) → Course (Factory C) (Member (Factory C))
  /-- What the installed packages offer. -/
  entryPoints : List (EntryPoint (Factory C))

instance {C : Type} [Importer C] : Host (Factory C) where
  call f registry :=
    match f with
    | .rules made => ⟨[], made.mapError .definition⟩
    | .code c => Importer.call c registry
  member := Importer.member

/-- The registry with the ready-made grammars. -/
def Registry.standard {C : Type} : Registry (Factory C) :=
  [("arithmetic", .rules (.ok arithmeticRules)), ("standard", .rules (.ok standardRules))]

end Mixfix
