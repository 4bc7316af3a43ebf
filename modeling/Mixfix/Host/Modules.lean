import Mixfix.Registry.Builtin

/-!
# The modules of the program

The modules whose attributes can be had as grammars where nothing but the package itself is installed.
Importing them changes no registry, and there are no entry points.
-/

set_option autoImplicit false

namespace Mixfix

/-- A module with its grammars: those that are made by a factory, and those that are there. -/
structure Module where
  name : Text
  factories : Entries (Factory Empty)
  rules : Entries (List Rule)

/-- The modules that have grammars. -/
def grammarModules : List Module :=
  [⟨"grammarkit.grammars.builtin", Registry.standard, []⟩,
    ⟨"grammarkit.grammars", Registry.standard, []⟩,
    ⟨"grammarkit.grammar.grammar", [], [("BUILT_IN_ATOMS", atomRules)]⟩,
    ⟨"grammarkit.grammar", [], [("BUILT_IN_ATOMS", atomRules)]⟩]

/-- The packages and modules that can be imported. -/
def importable : List Text :=
  txt "grammarkit" :: grammarModules.map Module.name

/-- The first of the modules on the path of a dotted name that cannot be imported. -/
def missingModule (name : Text) : Text :=
  let words := name.splitOn (CodePoint.ofChar '.')
  let path := (List.range words.length).map fun n => Text.join (txt ".") (words.take (n + 1))
  (path.find? fun module => !importable.contains module).getD name

/-- The attribute of a module. -/
def Module.member (m : Module) (name : Text) : Except HostError (Member (Factory Empty)) :=
  match m.factories.find? name, m.rules.find? name with
  | some f, _ => .ok (.factory f)
  | none, some rules => .ok (.rules (.ok rules))
  | none, none => .error (.noMember m.name name)

/-- The attribute of a module that is given by its name. -/
def memberOf (module name : Text) : Except HostError (Member (Factory Empty)) :=
  if module.isEmpty then .error .emptyModuleName
  else
    match grammarModules.find? fun m => m.name == module with
    | none => .error (.noModule (missingModule module))
    | some m => m.member name

instance : Importer Empty where
  call c _ := nomatch c
  entryPoints := []
  member module name _ := ⟨[], memberOf module name⟩

end Mixfix
