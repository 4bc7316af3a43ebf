import Mixfix.Rule.Definition

/-!
# The registry of grammars

Grammars under their names, each as a factory whose rules are made when they are asked for. A name is
taken once: it has to be free before something is registered under it.

What a factory does when it is called and a module when it is imported is up to the host. Such code may
use the registry itself, so it comes with the changes that it asks the registry for, and a registry that
runs it makes these changes first.

Packages offer grammars as entry points. Loading these registers the ones that can be had under names
that are free, and skips all others. What is no factory is refused with a message that shows it, and one
that cannot be shown ends the load.
-/

set_option autoImplicit false

namespace Mixfix

/-- What is offered as a factory. -/
inductive Offer (F : Type)
  | factory (f : F)
  | other (value : Value)

/-- Grammars under their names. -/
abbrev Registry (F : Type) := Entries F

/-- A change that a registry is asked for. -/
inductive Change (F : Type)
  | register (name : Text) (offer : Offer F)
  | deregister (name : Text)

/-- What code of the host fails with. -/
inductive HostError
  | definition (error : DefinitionError)
  | noModule (name : Text)
  | noMember (module name : Text)
  | emptyModuleName
  /-- Any other exception, by its class and its text. -/
  | other (kind message : Text)

/-- The wording of the error. -/
def HostError.message : HostError → Text
  | .definition error => error.message
  | .noModule name => txt "No module named " ++ name.quoted
  | .noMember module name =>
    txt "module " ++ module.quoted ++ txt " has no attribute " ++ name.quoted
  | .emptyModuleName => txt "Empty module name"
  | .other _ message => message

/-- What code of the host does: the changes that it asks the registry for, whether they are refused or
not, and what it comes to. -/
structure Course (F α : Type) where
  changes : List (Change F)
  outcome : Except HostError α

/-- What an attribute of a module is to the registry. -/
inductive Member (F : Type)
  | factory (f : F)
  /-- What is no factory, as the rules that are found in it. -/
  | rules (found : Except HostError (List Rule))

/-- The code of the host that a registry runs. -/
class Host (F : Type) where
  /-- Calls a factory. -/
  call : F → Registry F → Course F (List Rule)
  /-- Imports a module for one of its attributes. -/
  member (module name : Text) : Registry F → Course F (Member F)

/-- Why something cannot be registered or had. -/
inductive RegistryError
  | notFound (name : Text) (available : List Text)
  | alreadyRegistered (name : Text)
  | notCallable (value : Value) (name : Text)
  /-- What is no factory cannot be shown, since an integer in it has too many digits. -/
  | tooManyDigits
  | host (error : HostError)

/-- The wording of an error, where there is one. -/
def RegistryError.message? : RegistryError → Option Text
  | .notFound name available =>
    some (txt "Grammar " ++ name.quoted ++ txt " is not registered. Available grammars: " ++
      (if (Text.join (txt ", ") available).isEmpty then txt "none"
        else Text.join (txt ", ") available) ++
      txt ". Check that the package is installed and its entry-points are declared.")
  | .alreadyRegistered name =>
    some (txt "Grammar " ++ name.quoted ++ txt " is already registered. " ++
      txt "Use a unique name or explicitly deregister the existing entry first.")
  | .notCallable value name =>
    some (txt "Cannot register " ++ value.shown ++ txt " under " ++ name.quoted ++
      txt ": it is not callable.")
  | .tooManyDigits => none
  | .host error => some error.message

/-- An entry point of a package. Loading it fails, or gives what it offers. -/
structure EntryPoint (F : Type) where
  name : Text
  group : Text
  load : Course F (Offer F)

/-- The group of the entry points that offer grammars. -/
def grammarGroup : Text := txt "grammarkit.grammars"

namespace Registry

variable {F : Type}

/-- The names in ascending order. -/
def list (registry : Registry F) : List Text :=
  Text.sortedSet (Entries.names registry)

/-- A registry as messages show it. -/
def shown (registry : Registry F) : Text :=
  txt "GrammarRegistry(grammars=" ++ Text.quotedList registry.list ++ txt ")"

/-- The error of a name that is not registered. -/
def notFound (registry : Registry F) (name : Text) : RegistryError :=
  .notFound name registry.list

/-- The refusal of what is no factory. Its message shows the value. -/
def refusal (value : Value) (name : Text) : RegistryError :=
  if value.convertible then .notCallable value name else .tooManyDigits

/-- Registers a factory under a free name. -/
def register (registry : Registry F) (name : Text) (offer : Offer F) :
    Except RegistryError (Registry F) :=
  if Entries.has name registry then .error (.alreadyRegistered name)
  else
    match offer with
    | .factory f => .ok (Entries.put name f registry)
    | .other value => .error (refusal value name)

/-- Frees a name. -/
def deregister (registry : Registry F) (name : Text) : Except RegistryError (Registry F) :=
  if Entries.has name registry then .ok (Entries.erase name registry)
  else .error (registry.notFound name)

/-- Makes a change. -/
def change (registry : Registry F) : Change F → Except RegistryError (Registry F)
  | .register name offer => registry.register name offer
  | .deregister name => registry.deregister name

/-- The registry after a change that it is asked for: the same if the change is refused. -/
def after (registry : Registry F) (change : Change F) : Registry F :=
  match registry.change change with
  | .ok changed => changed
  | .error _ => registry

/-- The registry after changes that it is asked for one after the other. -/
def afterAll (registry : Registry F) (changes : List (Change F)) : Registry F :=
  changes.foldl after registry

/-- The factory under a name. -/
def get (registry : Registry F) (name : Text) : Except RegistryError F :=
  match Entries.find? name registry with
  | some f => .ok f
  | none => .error (registry.notFound name)

/-! ## Code of the host

What is had from it, and the registry after it. -/

section

variable [Host F]

/-- The rules that a factory makes when it is called. -/
def call (registry : Registry F) (f : F) : Except RegistryError (List Rule) × Registry F :=
  let course := Host.call f registry
  (course.outcome.mapError .host, registry.afterAll course.changes)

/-- The rules of the grammar under a name. -/
def build (registry : Registry F) (name : Text) : Except RegistryError (List Rule) × Registry F :=
  match registry.get name with
  | .ok f => registry.call f
  | .error e => (.error e, registry)

/-- The rules that an attribute of a module is or makes. -/
def fetch (registry : Registry F) (module name : Text) :
    Except RegistryError (List Rule) × Registry F :=
  let course := Host.member module name registry
  let imported := registry.afterAll course.changes
  match course.outcome with
  | .ok (.factory f) => imported.call f
  | .ok (.rules found) => (found.mapError .host, imported)
  | .error e => (.error (.host e), imported)

/-- The rules that a reference means: those of a registered name, or an attribute of a module after
a colon. -/
def resolve (registry : Registry F) (reference : Text) :
    Except RegistryError (List Rule) × Registry F :=
  if Entries.has reference registry then registry.build reference
  else
    match Text.splitFirst? ':' reference with
    | none => registry.build reference
    | some (module, name) => registry.fetch module name

end

/-! ## Entry points -/

/-- Registers what was loaded, unless it is refused. A refusal without a wording is none, but a
failure. -/
def accept (registry : Registry F) (name : Text) (offer : Offer F) :
    Except RegistryError Unit × Registry F :=
  match registry.register name offer with
  | .ok registered => (.ok (), registered)
  | .error .tooManyDigits => (.error .tooManyDigits, registry)
  | .error _ => (.ok (), registry)

/-- Loads an entry point of a group, unless its name is taken, and registers what it offers. -/
def loadEntryPoint (registry : Registry F) (group : Text) (entry : EntryPoint F) :
    Except RegistryError Unit × Registry F :=
  if entry.group == group && !Entries.has entry.name registry then
    let loaded := registry.afterAll entry.load.changes
    match entry.load.outcome with
    | .ok offer => loaded.accept entry.name offer
    | .error _ => (.ok (), loaded)
  else (.ok (), registry)

/-- Loads the entry points of a group one after the other, up to the first that fails. -/
def loadEntryPoints (registry : Registry F) (group : Text) :
    List (EntryPoint F) → Except RegistryError Unit × Registry F
  | [] => (.ok (), registry)
  | entry :: entries =>
    match registry.loadEntryPoint group entry with
    | (.ok (), loaded) => loadEntryPoints loaded group entries
    | (.error e, loaded) => (.error e, loaded)

end Registry

end Mixfix
