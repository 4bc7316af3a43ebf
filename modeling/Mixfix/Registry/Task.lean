import Mixfix.Registry

/-!
# A registry at work

What is asked of one registry in turn.
-/

set_option autoImplicit false

namespace Mixfix

/-- What a registry can be asked for. -/
inductive RegistryTask (F : Type)
  | register (name : Text) (offer : Offer F)
  | deregister (name : Text)
  | get (name : Text)
  | build (name : Text)
  | resolve (reference : Text)
  | load (group : Text) (entries : List (EntryPoint F))

/-- What a registry says when it is done. -/
inductive RegistryReply (F : Type)
  | done
  | factory (f : F)
  | rules (rules : List Rule)

namespace Registry

variable {F : Type} [Host F]

/-- The reply to a change, and the registry after it. -/
def reply (registry : Registry F) (change : Change F) :
    Except RegistryError (RegistryReply F) × Registry F :=
  ((registry.change change).map fun _ => .done, registry.after change)

/-- Does a task. -/
def perform (registry : Registry F) :
    RegistryTask F → Except RegistryError (RegistryReply F) × Registry F
  | .register name offer => registry.reply (.register name offer)
  | .deregister name => registry.reply (.deregister name)
  | .get name => ((registry.get name).map .factory, registry)
  | .build name => ((registry.build name).1.map .rules, (registry.build name).2)
  | .resolve reference => ((registry.resolve reference).1.map .rules, (registry.resolve reference).2)
  | .load group entries =>
    ((registry.loadEntryPoints group entries).1.map fun _ => .done,
      (registry.loadEntryPoints group entries).2)

/-- Does tasks one after the other. -/
def run (registry : Registry F) (tasks : List (RegistryTask F)) : Registry F :=
  tasks.foldl (fun registry task => (registry.perform task).2) registry

end Registry

end Mixfix
