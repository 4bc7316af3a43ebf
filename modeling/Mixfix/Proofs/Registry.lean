import Mixfix.Host.Modules
import Mixfix.Proofs.Entries
import Mixfix.Proofs.Except
import Mixfix.Proofs.Text.Sorted
import Mixfix.Registry.Task

/-!
# What a registry holds, from what was done to it

A task comes to the changes that the registry is asked for in it, one after the other (`perform_snd`): its own, those
of the entry points that it loads, and those that code of the host asks for when a factory is called or a module is
imported. A change that is refused changes nothing, and one that succeeds is noted as an event (`after_cases`).

**`run_isMap`** says that after any run from an empty registry the registry is a map from names: its names are
distinct, the list of them ascends and has all of them, and the factory under a name is that of the last registration
of the name since which the name was not freed. What a registry is asked for next obeys the map. Outside of loads,
what fails leaves the registry to the code of the host alone. A load is no such task: it can fail after it registered
something (`not_unchanged_of_load`).

Which changes the code of the host asks for is not said here.
-/

set_option autoImplicit false

namespace Mixfix

variable {F : Type}

/-- What succeeded at a registry. -/
inductive RegistryEvent (F : Type)
  | registered (name : Text) (f : F)
  | freed (name : Text)

/-- The name that an event is about. -/
def RegistryEvent.name : RegistryEvent F → Text
  | .registered name _ => name
  | .freed name => name

/-- The changes that a registry is asked for where an entry point is loaded. -/
def EntryPoint.changes (entry : EntryPoint F) : List (Change F) :=
  entry.load.changes ++
    match entry.load.outcome with
    | .ok offer => [.register entry.name offer]
    | .error _ => []

namespace Registry

/-! ## Changes and events -/

/-- The event of a change, if it succeeds. -/
def event? (registry : Registry F) (change : Change F) : Option (RegistryEvent F) :=
  match registry.change change, change with
  | .ok _, .register name (.factory f) => some (.registered name f)
  | .ok _, .deregister name => some (.freed name)
  | _, _ => none

/-- The events of changes that are asked for one after the other. -/
def events (registry : Registry F) : List (Change F) → List (RegistryEvent F)
  | [] => []
  | change :: changes => (registry.event? change).toList ++ events (registry.after change) changes

/-- The changes that loading entry points asks for. -/
def loadChanges (registry : Registry F) (group : Text) : List (EntryPoint F) → List (Change F)
  | [] => []
  | entry :: entries =>
    let own := if entry.group == group && !Entries.has entry.name registry then entry.changes else []
    match registry.loadEntryPoint group entry with
    | (.ok (), loaded) => own ++ loadChanges loaded group entries
    | (.error _, _) => own

section

variable [Host F]

/-- The changes that the factory under a name asks for. -/
def buildChanges (registry : Registry F) (name : Text) : List (Change F) :=
  match registry.get name with
  | .ok f => (Host.call f registry).changes
  | .error _ => []

/-- The changes that importing a module asks for, and the factory that is found there. -/
def fetchChanges (registry : Registry F) (module name : Text) : List (Change F) :=
  let course := Host.member module name registry
  course.changes ++
    match course.outcome with
    | .ok (.factory f) => (Host.call f (registry.afterAll course.changes)).changes
    | _ => []

/-- The changes that resolving a reference asks for. -/
def resolveChanges (registry : Registry F) (reference : Text) : List (Change F) :=
  if Entries.has reference registry then registry.buildChanges reference
  else
    match Text.splitFirst? ':' reference with
    | none => registry.buildChanges reference
    | some (module, name) => registry.fetchChanges module name

/-- The changes that code of the host asks for in a task that is no load. -/
def hostChanges (registry : Registry F) : RegistryTask F → List (Change F)
  | .build name => registry.buildChanges name
  | .resolve reference => registry.resolveChanges reference
  | _ => []

/-- All changes that are asked for in a task. -/
def changes (registry : Registry F) : RegistryTask F → List (Change F)
  | .register name offer => [.register name offer]
  | .deregister name => [.deregister name]
  | .load group entries => registry.loadChanges group entries
  | task => registry.hostChanges task

/-- All that succeeded in a run. -/
def history (registry : Registry F) : List (RegistryTask F) → List (RegistryEvent F)
  | [] => []
  | task :: tasks => registry.events (registry.changes task) ++ history (registry.perform task).2 tasks

end

/-- A factory is that of the last event of a name, which is its registration. -/
def Standing (name : Text) (f : F) (events : List (RegistryEvent F)) : Prop :=
  ∃ earlier later, events = earlier ++ .registered name f :: later ∧ ∀ event ∈ later, event.name ≠ name

/-- An entry point ends a load: it is of the group and its name is free, also when it is loaded, and it offers what is
no factory and cannot be shown. -/
structure Chokes (registry : Registry F) (group : Text) (entry : EntryPoint F) : Prop where
  group : entry.group = group
  free : entry.name ∉ registry.list
  still_free : entry.name ∉ (registry.afterAll entry.load.changes).list
  offer : ∃ value, entry.load.outcome = .ok (.other value) ∧ value.convertible = false

/-- What a registry shows is the map that events leave. -/
structure IsMap [Host F] (registry : Registry F) (events : List (RegistryEvent F)) : Prop where
  /-- No name is there twice. -/
  nodup : (Entries.names registry).Nodup
  /-- The list of names ascends strictly. -/
  ascends : registry.list.Pairwise (· < ·)
  /-- The list has as many names as the registry. -/
  length_list : registry.list.length = registry.length
  /-- The list has the names that the registry has. -/
  mem_list : ∀ name, name ∈ registry.list ↔ Entries.has name registry = true
  /-- The factory under a name is that of its last registration, unless the name was freed since. -/
  get : ∀ name f, registry.get name = .ok f ↔ Standing name f events
  /-- A name that is not there is not found. -/
  get_of_not_mem : ∀ name, name ∉ registry.list →
    registry.get name = .error (.notFound name registry.list)
  /-- A factory can be registered under any name that is not there. -/
  register_factory : ∀ name f, name ∉ registry.list →
    registry.perform (.register name (.factory f)) = (.ok .done, registry ++ [(name, f)])
  /-- What is not a factory cannot be registered under such a name. -/
  register_other : ∀ name value, name ∉ registry.list →
    registry.perform (.register name (.other value)) = (.error (refusal value name), registry)
  /-- Nothing can be registered under a name that is there. -/
  register_of_mem : ∀ name offer, name ∈ registry.list →
    registry.perform (.register name offer) = (.error (.alreadyRegistered name), registry)
  /-- A name that is there can be freed. -/
  deregister_of_mem : ∀ name, name ∈ registry.list →
    registry.perform (.deregister name) = (.ok .done, Entries.erase name registry)
  /-- A name that is not there cannot be freed. -/
  deregister_of_not_mem : ∀ name, name ∉ registry.list →
    registry.perform (.deregister name) = (.error (.notFound name registry.list), registry)
  /-- What fails changes nothing of its own, unless it is a load. -/
  perform_of_error : ∀ task e, (∀ group entries, task ≠ .load group entries) →
    (registry.perform task).1 = .error e → (registry.perform task).2 = registry.afterAll (registry.hostChanges task)
  /-- A load does the changes of its entry points one after the other. -/
  load : ∀ group entries,
    (registry.perform (.load group entries)).2 = registry.afterAll (registry.loadChanges group entries)
  /-- It fails exactly at the first entry point that ends it, and keeps what was registered until then. -/
  load_of_error : ∀ group entries e, (registry.perform (.load group entries)).1 = .error e ↔
    e = .tooManyDigits ∧ ∃ before entry after, entries = before ++ entry :: after ∧
      (registry.perform (.load group before)).1 = .ok .done ∧
      Chokes (registry.perform (.load group before)).2 group entry ∧
      (registry.perform (.load group entries)).2 =
        (registry.perform (.load group before)).2.afterAll entry.load.changes

/-! ## A task and its changes -/

theorem afterAll_append (registry : Registry F) (first second : List (Change F)) :
    registry.afterAll (first ++ second) = (registry.afterAll first).afterAll second :=
  List.foldl_append

theorem mem_list_iff {registry : Registry F} {name : Text} :
    name ∈ registry.list ↔ Entries.has name registry = true := by
  rw [list, Text.mem_sortedSet, Entries.has, Option.isSome_iff_ne_none, ne_eq, Entries.find?_eq_none, not_not]

theorem has_eq_false {registry : Registry F} {name : Text} (h : name ∉ registry.list) :
    Entries.has name registry = false :=
  Bool.eq_false_iff.mpr fun hhas => h (mem_list_iff.mpr hhas)

/-- What is loaded and refused leaves the registry as it was. -/
theorem accept_snd (registry : Registry F) (name : Text) (offer : Offer F) :
    (registry.accept name offer).2 = registry.after (.register name offer) := by
  unfold accept after
  rw [show registry.change (.register name offer) = registry.register name offer from rfl]
  cases registry.register name offer with
  | ok registered => rfl
  | error e => cases e <;> rfl

/-- Loading an entry point comes to the changes that are asked for in it. -/
theorem loadEntryPoint_snd (registry : Registry F) (group : Text) (entry : EntryPoint F) :
    (registry.loadEntryPoint group entry).2 = registry.afterAll
      (if entry.group == group && !Entries.has entry.name registry then entry.changes else []) := by
  unfold loadEntryPoint EntryPoint.changes
  split
  · rw [afterAll_append]
    cases entry.load.outcome with
    | ok offer => exact accept_snd ..
    | error e => rfl
  · rfl

/-- So does a load. -/
theorem loadEntryPoints_snd (registry : Registry F) (group : Text) (entries : List (EntryPoint F)) :
    (registry.loadEntryPoints group entries).2 = registry.afterAll (registry.loadChanges group entries) := by
  induction entries generalizing registry with
  | nil => rfl
  | cons entry entries ih =>
    have hentry := loadEntryPoint_snd registry group entry
    unfold loadEntryPoints loadChanges
    rcases hload : registry.loadEntryPoint group entry with ⟨_ | _, loaded⟩
    · rwa [hload] at hentry
    · rw [hload] at hentry
      dsimp only
      rw [afterAll_append, ← hentry]
      exact ih loaded

section

variable [Host F]

theorem build_snd (registry : Registry F) (name : Text) :
    (registry.build name).2 = registry.afterAll (registry.buildChanges name) := by
  unfold build buildChanges
  cases registry.get name <;> rfl

theorem fetch_snd (registry : Registry F) (module name : Text) :
    (registry.fetch module name).2 = registry.afterAll (registry.fetchChanges module name) := by
  unfold fetch fetchChanges
  dsimp only
  rw [afterAll_append]
  rcases (Host.member module name registry).outcome with _ | _ | _ <;> rfl

theorem resolve_snd (registry : Registry F) (reference : Text) :
    (registry.resolve reference).2 = registry.afterAll (registry.resolveChanges reference) := by
  unfold resolve resolveChanges
  split
  · exact build_snd registry reference
  · cases Text.splitFirst? ':' reference with
    | none => exact build_snd registry reference
    | some parts => exact fetch_snd registry parts.1 parts.2

/-- **A task comes to the changes that are asked for in it.** -/
theorem perform_snd (registry : Registry F) (task : RegistryTask F) :
    (registry.perform task).2 = registry.afterAll (registry.changes task) := by
  cases task with
  | register name offer => rfl
  | deregister name => rfl
  | get name => rfl
  | build name => exact build_snd ..
  | resolve reference => exact resolve_snd ..
  | load group entries => exact loadEntryPoints_snd ..

end

/-! ## One change -/

/-- What stands after one more event. -/
theorem standing_append {name : Text} {f : F} {events : List (RegistryEvent F)} {event : RegistryEvent F} :
    Standing name f (events ++ [event]) ↔
      event = .registered name f ∨ event.name ≠ name ∧ Standing name f events := by
  constructor
  · rintro ⟨earlier, later, heq, hlater⟩
    rcases List.eq_nil_or_concat later with rfl | ⟨front, last, rfl⟩
    · exact .inl (List.append_inj_right' heq rfl |> List.singleton_inj.mp)
    · have hassoc : earlier ++ .registered name f :: front.concat last =
          (earlier ++ .registered name f :: front) ++ [last] := by simp
      obtain ⟨hevents, hlast⟩ := List.append_inj' (heq.trans hassoc) rfl
      refine .inr ⟨?_, earlier, front, hevents, fun event hmem => hlater event ?_⟩
      · rw [List.singleton_inj.mp hlast]
        exact hlater last (by simp)
      · simp [hmem]
  · rintro (rfl | ⟨hname, earlier, later, rfl, hlater⟩)
    · exact ⟨events, [], rfl, fun _ hmem => absurd hmem List.not_mem_nil⟩
    · refine ⟨earlier, later ++ [event], by simp, fun other hmem => ?_⟩
      rcases List.mem_append.mp hmem with hmem | hmem
      · exact hlater other hmem
      · exact (List.mem_singleton.mp hmem) ▸ hname

/-- A registry holds what events leave: its names are distinct, and under each stands the factory of the
last registration. -/
structure Holds (registry : Registry F) (events : List (RegistryEvent F)) : Prop where
  nodup : (Entries.names registry).Nodup
  find? : ∀ name f, Entries.find? name registry = some f ↔ Standing name f events

/-- An empty registry holds what no event leaves. -/
theorem Holds.empty : Holds (F := F) [] [] where
  nodup := List.nodup_nil
  find? name f := by
    refine ⟨fun h => (Option.some_ne_none f h.symm).elim, ?_⟩
    rintro ⟨earlier, later, heq, -⟩
    simp at heq

/-- What one change does: it registers a factory under a free name, frees a name, or does nothing and is no event. -/
theorem after_cases (registry : Registry F) (change : Change F) :
    (∃ name f, Entries.has name registry = false ∧ registry.after change = Entries.put name f registry ∧
      registry.event? change = some (.registered name f)) ∨
    (∃ name, registry.after change = Entries.erase name registry ∧ registry.event? change = some (.freed name)) ∨
    registry.after change = registry ∧ registry.event? change = none := by
  cases change with
  | register name offer =>
    by_cases hhas : Entries.has name registry = true
    · exact .inr (.inr (by cases offer <;> simp [after, event?, Registry.change, register, hhas]))
    · rw [Bool.not_eq_true] at hhas
      cases offer with
      | factory f => exact .inl ⟨name, f, hhas, by simp [after, event?, Registry.change, register, hhas]⟩
      | other value => exact .inr (.inr (by simp [after, event?, Registry.change, register, hhas]))
  | deregister name =>
    by_cases hhas : Entries.has name registry = true
    · exact .inr (.inl ⟨name, by simp [after, event?, Registry.change, deregister, hhas]⟩)
    · exact .inr (.inr (by simp [after, event?, Registry.change, deregister, hhas]))

namespace Holds

variable {registry : Registry F} {events : List (RegistryEvent F)}

/-- A change keeps a registry and its events together. -/
theorem after (h : Holds registry events) (change : Change F) :
    Holds (registry.after change) (events ++ (registry.event? change).toList) := by
  obtain ⟨name, f, hnew, hafter, hevent⟩ | ⟨name, hafter, hevent⟩ | ⟨hafter, hevent⟩ :=
    after_cases registry change
  · have hnew : name ∉ Entries.names registry :=
      Entries.find?_eq_none.mp (Option.isSome_eq_false_iff.mp hnew |> Option.isNone_iff_eq_none.mp)
    rw [hafter, hevent]
    refine ⟨Entries.nodup_names_put h.nodup hnew f, fun key g => ?_⟩
    rw [Entries.find?_put, Option.toList_some, standing_append, ← h.find?]
    by_cases hkey : name = key
    · subst hkey
      simp [RegistryEvent.name]
    · simp [RegistryEvent.name, hkey]
  · rw [hafter, hevent]
    refine ⟨Entries.nodup_names_erase h.nodup name, fun key g => ?_⟩
    rw [Entries.find?_erase, Option.toList_some, standing_append, ← h.find?]
    by_cases hkey : name = key
    · subst hkey
      simp [RegistryEvent.name]
    · simp [RegistryEvent.name, hkey]
  · rw [hafter, hevent, Option.toList_none, List.append_nil]
    exact h

/-- So do changes one after the other. -/
theorem afterAll (h : Holds registry events) (changes : List (Change F)) :
    Holds (registry.afterAll changes) (events ++ registry.events changes) := by
  induction changes generalizing registry events with
  | nil =>
    rw [Registry.events, List.append_nil]
    exact h
  | cons change changes ih =>
    rw [Registry.events, ← List.append_assoc]
    exact ih (h.after change)

/-- And so does a run. -/
theorem run [Host F] (h : Holds registry events) (tasks : List (RegistryTask F)) :
    Holds (registry.run tasks) (events ++ registry.history tasks) := by
  induction tasks generalizing registry events with
  | nil =>
    rw [history, List.append_nil]
    exact h
  | cons task tasks ih =>
    have htask := h.afterAll (registry.changes task)
    rw [← perform_snd] at htask
    rw [history, ← List.append_assoc]
    exact ih htask

end Holds

/-! ## How a load fails -/

theorem loadEntryPoints_append (registry : Registry F) (group : Text) (before after : List (EntryPoint F))
    (h : (registry.loadEntryPoints group before).1 = .ok ()) :
    registry.loadEntryPoints group (before ++ after) =
      (registry.loadEntryPoints group before).2.loadEntryPoints group after := by
  induction before generalizing registry with
  | nil => rfl
  | cons entry before ih =>
    rw [List.cons_append]
    rw [loadEntryPoints] at h
    rw [loadEntryPoints, loadEntryPoints]
    rcases hload : registry.loadEntryPoint group entry with ⟨_ | _, loaded⟩
    · rw [hload] at h
      cases h
    · rw [hload] at h
      exact ih loaded h

/-- What is loaded and cannot be registered is no failure, unless it is no factory and cannot be shown. -/
theorem accept_eq_error {registry : Registry F} {name : Text} {offer : Offer F} {e : RegistryError}
    {left : Registry F} : registry.accept name offer = (.error e, left) ↔
      e = .tooManyDigits ∧ name ∉ registry.list ∧
        (∃ value, offer = .other value ∧ value.convertible = false) ∧ left = registry := by
  unfold accept register
  rw [mem_list_iff]
  cases Entries.has name registry with
  | true => simp
  | false =>
    rcases offer with f | value
    · simp
    · cases hconvertible : value.convertible <;>
        simp [refusal, hconvertible, @eq_comm _ _ e, @eq_comm _ _ left]

/-- What ends a load. -/
theorem loadEntryPoint_eq_error {registry : Registry F} {group : Text} {entry : EntryPoint F} {e : RegistryError}
    {loaded : Registry F} : registry.loadEntryPoint group entry = (.error e, loaded) ↔
      e = .tooManyDigits ∧ registry.Chokes group entry ∧ loaded = registry.afterAll entry.load.changes := by
  unfold loadEntryPoint
  constructor
  · intro h
    split at h
    · rename_i hcondition
      obtain ⟨hgroup, hfree⟩ := Bool.and_eq_true_iff.mp hcondition
      cases houtcome : entry.load.outcome with
      | error other =>
        rw [houtcome] at h
        cases h
      | ok offer =>
        rw [houtcome] at h
        obtain ⟨rfl, hstill, ⟨value, rfl, hconvertible⟩, rfl⟩ := accept_eq_error.mp h
        exact ⟨rfl, ⟨beq_iff_eq.mp hgroup, by simpa [mem_list_iff] using hfree, hstill, value, houtcome,
          hconvertible⟩, rfl⟩
    · cases h
  · rintro ⟨rfl, ⟨hgroup, hfree, hstill, value, houtcome, hconvertible⟩, rfl⟩
    rw [if_pos (by simp [hgroup, has_eq_false hfree]), houtcome]
    exact accept_eq_error.mpr ⟨rfl, hstill, ⟨value, rfl, hconvertible⟩, rfl⟩

/-- **A load fails exactly at the first entry point that ends it.** -/
theorem loadEntryPoints_eq_error {registry : Registry F} {group : Text} {entries : List (EntryPoint F)}
    {e : RegistryError} {loaded : Registry F} : registry.loadEntryPoints group entries = (.error e, loaded) ↔
      e = .tooManyDigits ∧ ∃ before entry after, entries = before ++ entry :: after ∧
        (registry.loadEntryPoints group before).1 = .ok () ∧
        Chokes (registry.loadEntryPoints group before).2 group entry ∧
        loaded = (registry.loadEntryPoints group before).2.afterAll entry.load.changes := by
  constructor
  · intro h
    induction entries generalizing registry with
    | nil => cases h
    | cons entry entries ih =>
      unfold loadEntryPoints at h
      rcases hload : registry.loadEntryPoint group entry with ⟨_ | _, next⟩
      · rw [hload] at h
        cases h
        obtain ⟨rfl, hchokes, rfl⟩ := loadEntryPoint_eq_error.mp hload
        exact ⟨rfl, [], entry, entries, rfl, rfl, hchokes, rfl⟩
      · rw [hload] at h
        obtain ⟨rfl, before, last, after, rfl, hbefore, hchokes, rfl⟩ := ih h
        have hcons : registry.loadEntryPoints group (entry :: before) = next.loadEntryPoints group before := by
          rw [loadEntryPoints, hload]
        refine ⟨rfl, entry :: before, last, after, rfl, ?_⟩
        rw [hcons]
        exact ⟨hbefore, hchokes, rfl⟩
  · rintro ⟨rfl, before, entry, after, rfl, hbefore, hchokes, rfl⟩
    rw [loadEntryPoints_append registry group before _ hbefore]
    have hentry := loadEntryPoint_eq_error.mpr ⟨rfl, hchokes, rfl⟩
    rw [loadEntryPoints, hentry]

/-! ## A run -/

section

variable [Host F]

theorem perform_load_eq_ok {registry : Registry F} {group : Text} {entries : List (EntryPoint F)} :
    (registry.perform (.load group entries)).1 = .ok .done ↔ (registry.loadEntryPoints group entries).1 = .ok () := by
  rw [perform]
  cases (registry.loadEntryPoints group entries).1 <;> simp [Except.map]

/-- What fails and is no load changes nothing of its own. -/
theorem perform_of_error {registry : Registry F} {task : RegistryTask F} {e : RegistryError}
    (hload : ∀ group entries, task ≠ .load group entries) (h : (registry.perform task).1 = .error e) :
    (registry.perform task).2 = registry.afterAll (registry.hostChanges task) := by
  have hchange (change : Change F) (h : (registry.reply change).1 = .error e) :
      (registry.reply change).2 = registry := by
    unfold reply after at *
    rw [map_eq_error] at h
    rw [h]
  cases task with
  | register name offer => exact hchange _ h
  | deregister name => exact hchange _ h
  | load group entries => exact absurd rfl (hload group entries)
  | get name => rfl
  | build name => exact build_snd ..
  | resolve reference => exact resolve_snd ..

/-- A registry that holds what events leave is the map of these. -/
theorem Holds.isMap {registry : Registry F} {events : List (RegistryEvent F)} (h : Holds registry events) :
    registry.IsMap events := by
  exact {
    nodup := h.nodup
    ascends := Text.pairwise_sortedSet _
    length_list := (Text.length_sortedSet h.nodup).trans (List.length_map _)
    mem_list := fun _ => mem_list_iff
    get := fun name f => by
      rw [← h.find?]
      unfold Registry.get
      cases Entries.find? name registry <;> simp
    get_of_not_mem := fun name hname => by
      have hfind : Entries.find? name registry = none :=
        Entries.find?_eq_none.mpr fun hin => hname (Text.mem_sortedSet.mpr hin)
      simp only [Registry.get, hfind, notFound]
    register_factory := fun name f hname => by
      have hput : Entries.put name f registry = registry ++ [(name, f)] :=
        Entries.put_of_not_mem fun hin => hname (Text.mem_sortedSet.mpr hin)
      simp [perform, reply, Registry.after, Registry.change, register, has_eq_false hname, hput, Except.map]
    register_other := fun name value hname => by
      simp [perform, reply, Registry.after, Registry.change, register, has_eq_false hname, Except.map]
    register_of_mem := fun name offer hname => by
      simp [perform, reply, Registry.after, Registry.change, register, mem_list_iff.mp hname, Except.map]
    deregister_of_mem := fun name hname => by
      simp [perform, reply, Registry.after, Registry.change, deregister, mem_list_iff.mp hname, Except.map]
    deregister_of_not_mem := fun name hname => by
      simp [perform, reply, Registry.after, Registry.change, deregister, has_eq_false hname, Except.map, notFound]
    perform_of_error := fun _ _ => perform_of_error
    load := fun group entries => loadEntryPoints_snd registry group entries
    load_of_error := fun group entries e => by
      have hfails : (registry.perform (.load group entries)).1 = .error e ↔
          registry.loadEntryPoints group entries = (.error e, (registry.loadEntryPoints group entries).2) := by
        rw [perform, map_eq_error, Prod.ext_iff, and_iff_left rfl]
      simp only [hfails, loadEntryPoints_eq_error, perform_load_eq_ok]
      rfl }

/-- **After any run from an empty registry, the registry is the map of names that the run leaves.** Names
are distinct, the list of them ascends and has all of them, and the factory under a name is that of its last
registration since which it was not freed. Factories can be registered under names that are free and nothing else
can, names that are taken can be freed and no others, and what fails changes nothing of its own, unless it is a load,
which keeps what it registered until it failed. -/
theorem run_isMap (tasks : List (RegistryTask F)) : (run [] tasks).IsMap (history [] tasks) :=
  Holds.empty.run tasks |>.isMap

end

/-- A name that was freed is taken by the first factory that entry points offer for it, and is found there. -/
theorem run_isMap_freed :
    let f : Factory Empty := .rules (.ok atomRules)
    let tasks : List (RegistryTask (Factory Empty)) :=
      [.register "x" (.factory (.rules (.ok []))), .deregister "x",
        .load grammarGroup [⟨"x", grammarGroup, ⟨[], .ok (.other .null)⟩⟩,
          ⟨"x", grammarGroup, ⟨[.register "y" (.factory (.rules (.ok [])))], .ok (.factory f)⟩⟩]]
    (run [] tasks).get "x" = .ok f ∧
      (run [] tasks).perform (.register "x" (.factory f)) = (.error (.alreadyRegistered "x"), run [] tasks) := by
  intro f tasks
  have hmap := run_isMap tasks
  have hget : (run [] tasks).get "x" = .ok f :=
    (hmap.get _ _).mpr
      ⟨[.registered "x" (.rules (.ok [])), .freed "x", .registered "y" (.rules (.ok []))], [], rfl, nofun⟩
  exact ⟨hget, hmap.register_of_mem _ _ ((hmap.mem_list _).mpr rfl)⟩

/-- A load can fail and change the registry, though no code of the host asks for any change: it registers a grammar,
and then it meets an integer that has too many digits to be shown. -/
theorem not_unchanged_of_load :
    ¬∀ (tasks : List (RegistryTask (Factory Empty))) (task : RegistryTask (Factory Empty)) (e : RegistryError),
      ((run [] tasks).perform task).1 = .error e → ((run [] tasks).perform task).2 = run [] tasks := by
  intro hunchanged
  let grammar : EntryPoint (Factory Empty) := ⟨"x", grammarGroup, ⟨[], .ok (.factory (.rules (.ok [])))⟩⟩
  let huge : EntryPoint (Factory Empty) := ⟨"y", grammarGroup, ⟨[], .ok (.other (.int (10 ^ 4300)))⟩⟩
  have hhuge : Value.convertible (.int (10 ^ 4300)) = false := by decide +kernel
  let loaded : Registry (Factory Empty) := [(txt "x", .rules (.ok []))]
  have hchokes : loaded.Chokes grammarGroup huge := ⟨rfl, by decide +kernel, by decide +kernel, _, rfl, hhuge⟩
  have hload : loadEntryPoints [] grammarGroup [grammar, huge] = (.error .tooManyDigits, loaded) :=
    loadEntryPoints_eq_error.mpr ⟨rfl, [grammar], huge, [], rfl, rfl, hchokes, rfl⟩
  have hperform : perform [] (.load grammarGroup [grammar, huge]) = (.error .tooManyDigits, loaded) := by
    rw [perform, hload]
    rfl
  have hsame := hunchanged [] _ _ (congrArg Prod.fst hperform)
  rw [run, List.foldl_nil, hperform] at hsame
  cases hsame

end Registry

end Mixfix
