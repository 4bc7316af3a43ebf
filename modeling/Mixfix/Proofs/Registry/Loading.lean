import Mixfix.Proofs.Registry

/-!
# What a load adds

A load goes through the entry points in order and takes what an entry point of its group offers as a factory,
unless the name is there by then (`loadEntryPoint_cases`). An entry point that fails to load, or that offers
something else, takes no name, so a later one of its name can still have it. What is found after a load is
therefore what was there before, or else the first that was offered (`find?_loadEntryPoints`).

**`load_extends`** says of any registry that a load extends it by the entry points that it reads, and that the same
load again changes nothing. It reads all of them, unless it meets one that offers what is no factory and cannot be
shown: that one is not skipped, and ends it (`not_extends_of_huge`).

Loading an entry point is taken to change no registry by itself.
-/

set_option autoImplicit false

namespace Mixfix

variable {F : Type}

/-- The factory that an entry point has for a name, as far as a load of a group is concerned. -/
def EntryPoint.offered? (group name : Text) (entry : EntryPoint F) : Option F :=
  if entry.group = group ∧ entry.name = name then
    match entry.load.outcome with
    | .ok (.factory f) => some f
    | .ok (.other _) | .error _ => none
  else none

namespace Registry

/-- A factory is the first that entry points have for a name. -/
def FirstOffered (group : Text) (entries : List (EntryPoint F)) (name : Text) (f : F) : Prop :=
  ∃ before entry after, entries = before ++ entry :: after ∧ entry.offered? group name = some f ∧
    ∀ earlier ∈ before, earlier.offered? group name = none

/-- What a load makes of a registry. -/
structure IsExtension [Host F] (registry : Registry F) (group : Text) (entries : List (EntryPoint F))
    (loaded : Registry F) : Prop where
  /-- Every name that was there keeps its factory. -/
  keeps : ∀ name f, registry.get name = .ok f → loaded.get name = .ok f
  /-- A name that was not there has the first factory that an entry point has for it. -/
  adds : ∀ name f, name ∉ registry.list → (loaded.get name = .ok f ↔ FirstOffered group entries name f)
  /-- The new names are those that an entry point has a factory for. -/
  mem_list : ∀ name, name ∈ loaded.list ↔
    name ∈ registry.list ∨ ∃ entry ∈ entries, ∃ f, entry.offered? group name = some f
  /-- What was there stays in its place, and new names come once and after it. -/
  appends : ∃ added, loaded = registry ++ added ∧ (Entries.names added).Nodup ∧
    ∀ name ∈ Entries.names added, name ∉ registry.list
  /-- The same load again changes nothing. -/
  again : loaded.perform (.load group entries) = (.ok .done, loaded)

variable {registry loaded : Registry F} {group name : Text} {entry : EntryPoint F} {entries : List (EntryPoint F)}
  {f : F}

/-! ### One entry point -/

/-- A registry lists the names that something is found under. -/
theorem mem_list_iff_find? : name ∈ registry.list ↔ ∃ f, Entries.find? name registry = some f := by
  rw [mem_list_iff, Entries.has, Option.isSome_iff_exists]

/-- What is had of a registry is what is found there. -/
theorem get_eq_ok : registry.get name = .ok f ↔ Entries.find? name registry = some f := by
  unfold get
  cases Entries.find? name registry <;> simp

/-- An entry point has a factory for its own name only. -/
theorem name_of_offered? (h : entry.offered? group name = some f) : entry.name = name := by
  unfold EntryPoint.offered? at h
  split at h
  · rename_i hentry
    exact hentry.2
  · cases h

/-- What a load does with one entry point: it puts the factory under a name that is new, or it changes
nothing, and then there was nothing to put or the name was there. -/
theorem loadEntryPoint_cases (hquiet : entry.load.changes = []) (registry : Registry F) (group : Text) :
    (∃ f, entry.offered? group entry.name = some f ∧ Entries.find? entry.name registry = none ∧
      registry.loadEntryPoint group entry = (.ok (), Entries.put entry.name f registry)) ∨
    (registry.loadEntryPoint group entry).2 = registry ∧
      ∀ f, entry.offered? group entry.name = some f → ∃ g, Entries.find? entry.name registry = some g := by
  have hsnd := loadEntryPoint_snd registry group entry
  unfold EntryPoint.changes at hsnd
  rw [hquiet, List.nil_append] at hsnd
  obtain ⟨name, entryGroup, changes, outcome⟩ := entry
  cases hquiet
  by_cases hgroup : entryGroup = group
  · subst hgroup
    cases hfind : Entries.find? name registry with
    | some g => simp [loadEntryPoint, Entries.has, hfind]
    | none =>
      rcases outcome with e | f | value
      · simp [loadEntryPoint, EntryPoint.offered?, Entries.has, hfind, afterAll]
      · simp [loadEntryPoint, EntryPoint.offered?, accept, register, Entries.has, hfind, afterAll]
      · refine .inr ⟨?_, by simp [EntryPoint.offered?]⟩
        rw [hsnd]
        simp [Entries.has, hfind, afterAll, after, change, register]
  · simp [loadEntryPoint, EntryPoint.offered?, hgroup]

/-- After one entry point a name has what it had, or else what the entry point has for it. -/
theorem find?_loadEntryPoint (hquiet : entry.load.changes = []) (registry : Registry F) (group name : Text) :
    Entries.find? name (registry.loadEntryPoint group entry).2 =
      (Entries.find? name registry).or (entry.offered? group name) := by
  rcases loadEntryPoint_cases hquiet registry group with ⟨f, hoffered, hnew, hload⟩ | ⟨hload, hhad⟩
  · rw [hload, Entries.find?_put]
    by_cases hname : entry.name = name
    · subst hname
      rw [if_pos rfl, hnew, hoffered, Option.none_or]
    · have hnone : entry.offered? group name = none := by
        rw [Option.eq_none_iff_forall_ne_some]
        exact fun f hf => hname (name_of_offered? hf)
      rw [if_neg hname, hnone, Option.or_none]
  · rw [hload]
    cases hoffered : entry.offered? group name with
    | none => rw [Option.or_none]
    | some f =>
      have hname := name_of_offered? hoffered
      subst hname
      obtain ⟨g, hg⟩ := hhad f hoffered
      rw [hg, Option.some_or]

/-- A load has nothing to do for an entry point: if its name is free, it fails to load or offers something else that
can be shown. -/
def Settled (registry : Registry F) (group : Text) (entry : EntryPoint F) : Prop :=
  entry.group = group → entry.name ∉ registry.list → ∀ offer, entry.load.outcome = .ok offer →
    ∃ value, offer = .other value ∧ value.convertible = true

theorem loadEntryPoint_of_settled (hquiet : entry.load.changes = []) (h : registry.Settled group entry) :
    registry.loadEntryPoint group entry = (.ok (), registry) := by
  unfold loadEntryPoint
  split
  · rename_i hcondition
    obtain ⟨hgroup, hfree⟩ := Bool.and_eq_true_iff.mp hcondition
    rw [Bool.not_eq_true', ← Bool.not_eq_true, ← mem_list_iff] at hfree
    rw [hquiet]
    cases houtcome : entry.load.outcome with
    | error e => rfl
    | ok offer =>
      obtain ⟨value, rfl, hconvertible⟩ := h (beq_iff_eq.mp hgroup) hfree offer houtcome
      simp [afterAll, accept, register, has_eq_false hfree, refusal, hconvertible]
  · rfl

/-- After an entry point is loaded there is nothing to do for it. -/
theorem settled_of_loadEntryPoint (hquiet : entry.load.changes = [])
    (h : registry.loadEntryPoint group entry = (.ok (), loaded)) : loaded.Settled group entry := by
  intro hgroup hfree offer houtcome
  have hfind := find?_loadEntryPoint hquiet registry group entry.name
  rw [h] at hfind
  have hnone : Entries.find? entry.name loaded = none := by
    rw [Option.eq_none_iff_forall_ne_some]
    exact fun g hg => hfree (mem_list_iff_find?.mpr ⟨g, hg⟩)
  obtain ⟨hnew, hoffered⟩ := Option.or_eq_none_iff.mp (hfind.symm.trans hnone)
  rcases offer with f | value
  · simp [EntryPoint.offered?, hgroup, houtcome] at hoffered
  · refine ⟨value, rfl, ?_⟩
    by_contra hconvertible
    have hnot : entry.name ∉ registry.list := by
      rw [mem_list_iff, Entries.has, hnew]
      exact Bool.false_ne_true
    have hchokes : registry.Chokes group entry :=
      ⟨hgroup, hnot, by rwa [hquiet], value, houtcome, Bool.not_eq_true _ ▸ hconvertible⟩
    have hfails := loadEntryPoint_eq_error.mpr ⟨rfl, hchokes, rfl⟩
    rw [h] at hfails
    cases hfails

/-! ### A whole load -/

/-- A load that fails nowhere takes its entry points one after the other. -/
theorem loadEntryPoints_cons_eq_ok (h : registry.loadEntryPoints group (entry :: entries) = (.ok (), loaded)) :
    ∃ next, registry.loadEntryPoint group entry = (.ok (), next) ∧
      next.loadEntryPoints group entries = (.ok (), loaded) := by
  rw [loadEntryPoints] at h
  rcases hload : registry.loadEntryPoint group entry with ⟨_ | _, next⟩
  · rw [hload] at h
    cases h
  · rw [hload] at h
    exact ⟨next, rfl, h⟩

/-- **After a load** a name has what it had, or else the first that an entry point has for it. -/
theorem find?_loadEntryPoints (hquiet : ∀ entry ∈ entries, entry.load.changes = [])
    (h : registry.loadEntryPoints group entries = (.ok (), loaded)) (name : Text) :
    Entries.find? name loaded =
      (Entries.find? name registry).or (entries.findSome? (EntryPoint.offered? group name)) := by
  induction entries generalizing registry with
  | nil =>
    cases h
    exact Option.or_none.symm
  | cons entry entries ih =>
    obtain ⟨hentry, hentries⟩ := List.forall_mem_cons.mp hquiet
    obtain ⟨next, hnext, hrest⟩ := loadEntryPoints_cons_eq_ok h
    have hfind := find?_loadEntryPoint hentry registry group name
    rw [hnext] at hfind
    rw [ih hentries hrest, hfind, Option.or_assoc, List.findSome?_cons]
    cases entry.offered? group name with
    | none => rw [Option.none_or]
    | some f => rw [Option.some_or]

/-- What a load finds for a name is the first that entry points have for it. -/
theorem findSome?_offered : entries.findSome? (EntryPoint.offered? group name) = some f ↔
    FirstOffered group entries name f := by
  rw [List.findSome?_eq_some_iff]
  rfl

/-- A load that has nothing to do changes nothing. -/
theorem loadEntryPoints_of_settled (hquiet : ∀ entry ∈ entries, entry.load.changes = [])
    (h : ∀ entry ∈ entries, registry.Settled group entry) :
    registry.loadEntryPoints group entries = (.ok (), registry) := by
  induction entries with
  | nil => rfl
  | cons entry entries ih =>
    obtain ⟨hentry, hentries⟩ := List.forall_mem_cons.mp h
    obtain ⟨hone, hall⟩ := List.forall_mem_cons.mp hquiet
    rw [loadEntryPoints, loadEntryPoint_of_settled hone hentry]
    exact ih hall hentries

/-- A load appends entries of new names, each of them once. -/
theorem exists_append_of_load (hquiet : ∀ entry ∈ entries, entry.load.changes = [])
    (h : registry.loadEntryPoints group entries = (.ok (), loaded)) :
    ∃ added, loaded = registry ++ added ∧ (Entries.names added).Nodup ∧
      ∀ name ∈ Entries.names added, name ∉ Entries.names registry := by
  induction entries generalizing registry with
  | nil =>
    cases h
    exact ⟨[], (List.append_nil loaded).symm, List.nodup_nil, fun _ h => absurd h List.not_mem_nil⟩
  | cons entry entries ih =>
    obtain ⟨hentry, hentries⟩ := List.forall_mem_cons.mp hquiet
    obtain ⟨next, hnext, hrest⟩ := loadEntryPoints_cons_eq_ok h
    obtain ⟨added, hadded, hnodup, hnew⟩ := ih hentries hrest
    rw [hadded]
    rcases loadEntryPoint_cases hentry registry group with ⟨f, -, hfree, hload⟩ | ⟨hload, -⟩
    · have hfree := Entries.find?_eq_none.mp hfree
      obtain rfl : next = Entries.put entry.name f registry := congrArg Prod.snd (hnext.symm.trans hload)
      rw [Entries.names_put_of_not_mem hfree] at hnew
      rw [Entries.put_of_not_mem hfree, List.append_assoc]
      refine ⟨(entry.name, f) :: added, rfl, List.nodup_cons.mpr ⟨fun hmem => ?_, hnodup⟩, ?_⟩
      · exact hnew entry.name hmem (List.mem_append_right _ (List.mem_singleton_self _))
      · refine List.forall_mem_cons.mpr ⟨hfree, fun name hmem hold => ?_⟩
        exact hnew name hmem (List.mem_append_left _ hold)
    · rw [hnext] at hload
      subst hload
      exact ⟨added, rfl, hnodup, hnew⟩

/-! ### What is had after a load -/

section

variable (hquiet : ∀ entry ∈ entries, entry.load.changes = [])
  (h : registry.loadEntryPoints group entries = (.ok (), loaded))
include hquiet h

/-- A load keeps the names that are there. -/
theorem get_of_load (hget : registry.get name = .ok f) : loaded.get name = .ok f := by
  rw [get_eq_ok] at hget ⊢
  rw [find?_loadEntryPoints hquiet h, hget, Option.some_or]

/-- A load gives a new name the first factory that is offered for it. -/
theorem get_of_load_new (hname : name ∉ registry.list) :
    loaded.get name = .ok f ↔ FirstOffered group entries name f := by
  have hnone : Entries.find? name registry = none := by
    rw [Option.eq_none_iff_forall_ne_some]
    exact fun g hg => hname (mem_list_iff_find?.mpr ⟨g, hg⟩)
  rw [get_eq_ok, find?_loadEntryPoints hquiet h, hnone, Option.none_or, findSome?_offered]

/-- After a load the names are those that were there and those that something is offered for. -/
theorem mem_list_of_load : name ∈ loaded.list ↔
    name ∈ registry.list ∨ ∃ entry ∈ entries, ∃ f, entry.offered? group name = some f := by
  rw [mem_list_iff_find?, mem_list_iff_find?, ← Option.isSome_iff_exists, ← Option.isSome_iff_exists,
    find?_loadEntryPoints hquiet h, Option.isSome_or, Bool.or_eq_true, List.findSome?_isSome_iff]
  simp only [Option.isSome_iff_exists]

/-- After a load there is nothing to do for any of its entry points. -/
theorem settled_of_load : ∀ entry ∈ entries, loaded.Settled group entry := by
  induction entries generalizing registry with
  | nil => nofun
  | cons entry entries ih =>
    obtain ⟨hentry, hentries⟩ := List.forall_mem_cons.mp hquiet
    obtain ⟨next, hnext, hrest⟩ := loadEntryPoints_cons_eq_ok h
    refine List.forall_mem_cons.mpr ⟨fun hgroup hfree => ?_, ih hentries hrest⟩
    have hold : entry.name ∉ next.list := fun hmem => hfree ((mem_list_of_load hentries hrest).mpr (.inl hmem))
    exact settled_of_loadEntryPoint hentry hnext hgroup hold

/-- A load that fails nowhere extends a registry. -/
theorem isExtension_of_load [Host F] : registry.IsExtension group entries loaded where
  keeps _ _ := get_of_load hquiet h
  adds _ _ := get_of_load_new hquiet h
  mem_list _ := mem_list_of_load hquiet h
  appends := by
    obtain ⟨added, hadded, hnodup, hnew⟩ := exists_append_of_load hquiet h
    exact ⟨added, hadded, hnodup, fun name hmem hlist => hnew name hmem (Text.mem_sortedSet.mp hlist)⟩
  again := by
    rw [perform, loadEntryPoints_of_settled hquiet (settled_of_load hquiet h)]
    rfl

end

/-- **A load extends a registry, and to load again changes nothing.** It keeps every name with its factory and adds the
names that were not there and that an entry point of the group has a factory for, each with the first factory that is
offered for it. It fails exactly where it meets an entry point of a free name that offers what is no factory and cannot
be shown. Then it has extended the registry by the entry points before that one. -/
theorem load_extends [Host F] (registry : Registry F) (group : Text) {entries : List (EntryPoint F)}
    (hquiet : ∀ entry ∈ entries, entry.load.changes = []) :
    ∃ read rest loaded, entries = read ++ rest ∧ registry.IsExtension group read loaded ∧
      ((registry.perform (.load group entries) = (.ok .done, loaded) ∧ rest = []) ∨
        registry.perform (.load group entries) = (.error .tooManyDigits, loaded) ∧
          ∃ entry after, rest = entry :: after ∧ loaded.Chokes group entry) := by
  rcases hload : registry.loadEntryPoints group entries with ⟨e | _, loaded⟩
  · obtain ⟨rfl, before, entry, after, rfl, hbefore, hchokes, rfl⟩ := loadEntryPoints_eq_error.mp hload
    obtain ⟨hfront, hback⟩ := List.forall_mem_append.mp hquiet
    have hnone : entry.load.changes = [] := hback entry List.mem_cons_self
    rw [hnone] at hload
    refine ⟨before, entry :: after, _, rfl, isExtension_of_load hfront (Prod.ext hbefore rfl), .inr ⟨?_, ?_⟩⟩
    · rw [perform, hload]
      rfl
    · exact ⟨entry, after, rfl, hchokes⟩
  · refine ⟨entries, [], loaded, (List.append_nil entries).symm, isExtension_of_load hquiet hload, .inl ⟨?_, rfl⟩⟩
    rw [perform, hload]
    rfl

/-- A name goes to the first entry point that has a factory for it, after one that fails to load and one that
offers something else. -/
theorem load_extends_offered :
    let f : Factory Empty := .rules (.ok atomRules)
    let point (offer : Except HostError (Offer (Factory Empty))) : EntryPoint (Factory Empty) :=
      ⟨"x", grammarGroup, ⟨[], offer⟩⟩
    let entries := [point (.error .emptyModuleName), point (.ok (.other .null)), point (.ok (.factory f)),
      point (.ok (.factory (.rules (.ok []))))]
    (∀ entry ∈ entries, entry.load.changes = []) ∧
      ((perform [] (.load grammarGroup entries)).2.get "x" = .ok f) := by
  intro f point entries
  have hquiet : ∀ entry ∈ entries, entry.load.changes = [] := by
    simp [entries, point]
  obtain ⟨read, rest, loaded, hsplit, hextension, ⟨hperform, rfl⟩ | ⟨hperform, -⟩⟩ :=
    load_extends [] grammarGroup hquiet
  · rw [List.append_nil] at hsplit
    subst hsplit
    rw [hperform]
    exact ⟨hquiet, (hextension.adds _ _ (by decide)).mpr
      ⟨[point (.error .emptyModuleName), point (.ok (.other .null))], point (.ok (.factory f)),
        [point (.ok (.factory (.rules (.ok []))))], rfl, rfl, by simp [point, EntryPoint.offered?]⟩⟩
  · cases hperform

/-- So a load can fail: an integer with too many digits ends it. -/
theorem not_extends_of_huge :
    ¬∀ entries : List (EntryPoint (Factory Empty)), (∀ entry ∈ entries, entry.load.changes = []) →
      ∃ loaded, perform [] (.load grammarGroup entries) = (.ok .done, loaded) := by
  intro hextends
  let huge : EntryPoint (Factory Empty) := ⟨"x", grammarGroup, ⟨[], .ok (.other (.int (10 ^ 4300)))⟩⟩
  have hhuge : Value.convertible (.int (10 ^ 4300)) = false := by decide +kernel
  have hchokes : Chokes ([] : Registry (Factory Empty)) grammarGroup huge :=
    ⟨rfl, by decide +kernel, by decide +kernel, _, rfl, hhuge⟩
  have hload : loadEntryPoints [] grammarGroup [huge] = (.error .tooManyDigits, []) :=
    loadEntryPoints_eq_error.mpr ⟨rfl, [], huge, [], rfl, rfl, hchokes, rfl⟩
  obtain ⟨loaded, hloaded⟩ := hextends [huge] (List.forall_mem_singleton.mpr rfl)
  rw [perform, hload] at hloaded
  cases hloaded

end Registry

end Mixfix
