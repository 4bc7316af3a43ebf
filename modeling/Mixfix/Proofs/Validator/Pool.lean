import Mathlib.Data.List.Count
import Mixfix.Host.Checker
import Mixfix.Proofs.Validator
import Mixfix.Validator.Pool

/-!
# What the caches of validators hold

Validators at work on caches of their own or on shared ones. What a task does to a cache is said once, by
`ShapeCache.Changes`: it clears the cache, puts in the descriptor that it asks for and that was compiled for it,
or leaves it. So after every run a cache holds the descriptors that its validators asked for since it was
cleared last, as far as these compile, each with the shape that it compiles to (`Reflects`).

How often descriptors are compiled does not show in a result. So the work is told a second time with a compiler
that has effects (`performBy`), and `noting` is one that notes what it compiles. Noting changes no result
(`performBy_noting`), and what it notes are the descriptors that are put into a cache.

Validators that work at the same time are not told about.
-/

set_option autoImplicit false

namespace Mixfix

/-! ## Compilers with effects -/

/-- A step with a state starts with the state that the step before it leaves. -/
theorem stateM_bind_apply {σ α β : Type} (x : StateM σ α) (f : α → StateM σ β) (state : σ) :
    (x >>= f) state = f (x state).1 (x state).2 := rfl

section

variable {m : Type → Type} [Monad m]

namespace ShapeCache

/-- The shape of a descriptor, from the cache or from a compiler, and the cache with it. -/
def compileBy (compiler : Text → m (Except CompileError Shape)) (cache : ShapeCache) (descriptor : Text) :
    m (Except CompileError (Shape × ShapeCache)) :=
  match Entries.find? descriptor cache with
  | some shape => pure (.ok (shape, cache))
  | none => do
    let compiled ← compiler descriptor
    return compiled.map fun shape => (shape, Entries.put descriptor shape cache)

/-- Checks a value against a descriptor that a compiler compiles. -/
def validateBy [Checker] (compiler : Text → m (Except CompileError Shape)) (cache : ShapeCache) (value : Value)
    (descriptor : Option Text) : m (Except CompileError (Verdict × ShapeCache)) :=
  match descriptor with
  | none => pure (.ok (.passed, cache))
  | some s =>
    if alwaysPasses (some s) then pure (.ok (.passed, cache))
    else do
      let compiled ← compileBy compiler cache s
      return compiled.map fun (shape, cache) => (shape.verdict value, cache)

/-- Does a task with a cache and a compiler. -/
def performBy [Checker] (compiler : Text → m (Except CompileError Shape)) (cache : ShapeCache) :
    ValidatorTask → m (Except CompileError ValidatorReply × ShapeCache)
  | .compile descriptor => do
    match ← compileBy compiler cache descriptor with
    | .ok (shape, cache) => return (.ok (.compiled shape), cache)
    | .error e => return (.error e, cache)
  | .validate value descriptor => do
    match ← validateBy compiler cache value descriptor with
    | .ok (verdict, cache) => return (.ok (.verdict verdict), cache)
    | .error e => return (.error e, cache)
  | .clear => pure (.ok .cleared, [])

end ShapeCache

namespace ValidatorPool

variable [Checker]

/-- Lets a validator do a task. The compiler is told the number of the cache that it compiles for. -/
def performBy (compiler : Nat → Text → m (Except CompileError Shape)) (pool : ValidatorPool)
    (validator : Nat) (task : ValidatorTask) : m (Except CompileError ValidatorReply × ValidatorPool) := do
  let (reply, cache) ← (pool.cacheOf validator).performBy (compiler (pool.uses validator)) task
  return (reply, { pool with
    caches := fun number => if number = pool.uses validator then cache else pool.caches number })

/-- Lets validators do tasks one after the other. -/
def runBy (compiler : Nat → Text → m (Except CompileError Shape)) (pool : ValidatorPool) :
    List (Nat × ValidatorTask) → m ValidatorPool
  | [] => pure pool
  | (validator, task) :: tasks => do
    let (_, pool) ← pool.performBy compiler validator task
    runBy compiler pool tasks

end ValidatorPool

end

/-- Descriptors that were compiled with success, each with the number of the cache that it was compiled
for. -/
abbrev CompileLog := List (Nat × Text)

/-- Compiles a descriptor and notes it, unless that fails. -/
def noting [Checker] (number : Nat) (descriptor : Text) : StateM CompileLog (Except CompileError Shape) := do
  match compileDescriptor descriptor with
  | .ok shape =>
    modify fun log => log ++ [(number, descriptor)]
    return .ok shape
  | .error e => return .error e

theorem noting_of_ok [Checker] {descriptor : Text} {shape : Shape} (h : compileDescriptor descriptor = .ok shape)
    (number : Nat) (log : CompileLog) :
    noting number descriptor log = (.ok shape, log ++ [(number, descriptor)]) := by
  unfold noting
  rw [h]
  rfl

theorem noting_of_error [Checker] {descriptor : Text} {e : CompileError} (h : compileDescriptor descriptor = .error e)
    (number : Nat) (log : CompileLog) : noting number descriptor log = (.error e, log) := by
  unfold noting
  rw [h]
  rfl

namespace ValidatorPool

/-- What a run compiles with success. -/
def compilations [Checker] (pool : ValidatorPool) (tasks : List (Nat × ValidatorTask)) : CompileLog :=
  (pool.runBy noting tasks []).2

end ValidatorPool

/-! ## What a task does to a cache -/

/-- The descriptor that a task asks a shape for. One that every value passes is not asked for by a check. -/
def ValidatorTask.asks? : ValidatorTask → Option Text
  | .compile descriptor => some descriptor
  | .validate _ none => none
  | .validate _ (some descriptor) => if alwaysPasses (some descriptor) then none else some descriptor
  | .clear => none

section

variable [Checker]

namespace ShapeCache

variable {cache after : ShapeCache} {task : ValidatorTask} {descriptor : Text}

/-- All that a task can do to a cache, with what is compiled for it. -/
inductive Changes (cache : ShapeCache) : ValidatorTask → ShapeCache → List Text → Prop
  | cleared : Changes cache .clear [] []
  | compiled {task : ValidatorTask} {descriptor : Text} {shape : Shape} :
      task.asks? = some descriptor → Entries.find? descriptor cache = none →
      compileDescriptor descriptor = .ok shape →
      Changes cache task (Entries.put descriptor shape cache) [descriptor]
  | kept {task : ValidatorTask} : task ≠ .clear →
      (∀ descriptor, task.asks? = some descriptor → (∃ shape, Entries.find? descriptor cache = some shape) ∨
        ∃ e, compileDescriptor descriptor = .error e) →
      Changes cache task cache []

/-- How a shape comes out of a cache, with what is compiled for it: it was there, it is compiled and put there,
or it does not compile. -/
inductive Gives (cache : ShapeCache) (descriptor : Text) :
    Except CompileError (Shape × ShapeCache) → List Text → Prop
  | held (shape : Shape) : Entries.find? descriptor cache = some shape →
      Gives cache descriptor (.ok (shape, cache)) []
  | compiled (shape : Shape) : Entries.find? descriptor cache = none →
      compileDescriptor descriptor = .ok shape →
      Gives cache descriptor (.ok (shape, Entries.put descriptor shape cache)) [descriptor]
  | failed (e : CompileError) : compileDescriptor descriptor = .error e →
      Gives cache descriptor (.error e) []

/-- A compiler that notes what it compiles gives the same shape and the same cache. -/
theorem compileBy_noting (cache : ShapeCache) (number : Nat) (descriptor : Text) :
    ∃ noted : List Text,
      (∀ log, cache.compileBy (noting number) descriptor log =
        (cache.compile descriptor, log ++ noted.map fun s => (number, s))) ∧
      cache.Gives descriptor (cache.compile descriptor) noted := by
  unfold compileBy compile
  cases hfind : Entries.find? descriptor cache with
  | some shape => exact ⟨[], fun log => by rw [List.map_nil, List.append_nil]; rfl, .held shape hfind⟩
  | none =>
    cases hcompile : compileDescriptor descriptor with
    | ok shape =>
      refine ⟨[descriptor], fun log => ?_, .compiled shape hfind hcompile⟩
      dsimp only
      rw [stateM_bind_apply, noting_of_ok hcompile]
      rfl
    | error e =>
      refine ⟨[], fun log => ?_, .failed e hcompile⟩
      dsimp only
      rw [stateM_bind_apply, noting_of_error hcompile, List.map_nil, List.append_nil]
      rfl

/-- A shape that a task asks for changes the cache only where it is compiled. -/
theorem Gives.changes {result : Except CompileError (Shape × ShapeCache)} {noted : List Text}
    (h : cache.Gives descriptor result noted) (hasks : task.asks? = some descriptor) :
    cache.Changes task ((result.map Prod.snd).toOption.getD cache) noted := by
  have hclear : task ≠ .clear := by
    rintro rfl
    cases hasks
  have honly : ∀ other, task.asks? = some other → other = descriptor := by
    intro other hother
    rw [hasks] at hother
    exact (Option.some.inj hother).symm
  cases h with
  | held shape hfind => exact .kept hclear fun other hother => .inl ⟨shape, honly other hother ▸ hfind⟩
  | compiled shape hfind hcompile => exact .compiled hasks hfind hcompile
  | failed e hcompile => exact .kept hclear fun other hother => .inr ⟨e, honly other hother ▸ hcompile⟩

/-- A task that asks for nothing and clears nothing leaves a cache as it is. -/
theorem changes_of_asks_nothing (hclear : task ≠ .clear) (hasks : task.asks? = none) :
    cache.Changes task cache [] := by
  refine .kept hclear fun descriptor h => ?_
  rw [hasks] at h
  cases h

/-- A check with a compiler that notes what it compiles gives the same verdict and the same cache. -/
theorem validateBy_noting (cache : ShapeCache) (number : Nat) (value : Value) (descriptor : Option Text) :
    ∃ noted : List Text,
      (∀ log, cache.validateBy (noting number) value descriptor log =
        (cache.validate value descriptor, log ++ noted.map fun s => (number, s))) ∧
      cache.Changes (.validate value descriptor)
        (((cache.validate value descriptor).map Prod.snd).toOption.getD cache) noted := by
  cases descriptor with
  | none =>
    refine ⟨[], fun log => ?_, changes_of_asks_nothing nofun rfl⟩
    rw [List.map_nil, List.append_nil]
    rfl
  | some s =>
    unfold validateBy validate
    dsimp only
    split
    · rename_i hpasses
      refine ⟨[], fun log => ?_, changes_of_asks_nothing nofun (if_pos hpasses)⟩
      rw [List.map_nil, List.append_nil]
      rfl
    · rename_i hpasses
      obtain ⟨noted, hrun, hgives⟩ := cache.compileBy_noting number s
      have hasks : (ValidatorTask.validate value (some s)).asks? = some s := if_neg hpasses
      have hchanges := hgives.changes hasks
      refine ⟨noted, ?_⟩
      simp only [stateM_bind_apply, hrun]
      generalize cache.compile s = result at hchanges ⊢
      cases result with
      | ok given => exact ⟨fun log => rfl, hchanges⟩
      | error e => exact ⟨fun log => rfl, hchanges⟩

/-- **A task with a compiler that notes what it compiles** does what it does without the notes, and they tell
what it changed. -/
theorem performBy_noting (cache : ShapeCache) (number : Nat) (task : ValidatorTask) :
    ∃ noted : List Text,
      (∀ log, cache.performBy (noting number) task log =
        (cache.perform task, log ++ noted.map fun s => (number, s))) ∧
      cache.Changes task (cache.perform task).2 noted := by
  cases task with
  | compile descriptor =>
    obtain ⟨noted, hrun, hgives⟩ := cache.compileBy_noting number descriptor
    have hasks : (ValidatorTask.compile descriptor).asks? = some descriptor := rfl
    have hchanges := hgives.changes hasks
    refine ⟨noted, ?_⟩
    simp only [performBy, perform, stateM_bind_apply, hrun]
    generalize cache.compile descriptor = result at hchanges ⊢
    cases result with
    | ok given => exact ⟨fun log => rfl, hchanges⟩
    | error e => exact ⟨fun log => rfl, hchanges⟩
  | validate value descriptor =>
    obtain ⟨noted, hrun, hchanges⟩ := cache.validateBy_noting number value descriptor
    refine ⟨noted, ?_⟩
    simp only [performBy, perform, stateM_bind_apply, hrun]
    generalize cache.validate value descriptor = result at hchanges ⊢
    cases result with
    | ok given => exact ⟨fun log => rfl, hchanges⟩
    | error e => exact ⟨fun log => rfl, hchanges⟩
  | clear => exact ⟨[], fun log => by rw [List.map_nil, List.append_nil]; rfl, .cleared⟩

/-- **A task that fails** leaves its cache as it is. -/
theorem perform_of_error {e : CompileError} (h : (cache.perform task).1 = .error e) :
    (cache.perform task).2 = cache := by
  cases task with
  | compile descriptor =>
    unfold perform at h ⊢
    dsimp only at h ⊢
    split at h
    · cases h
    · rfl
  | validate value descriptor =>
    unfold perform at h ⊢
    dsimp only at h ⊢
    split at h
    · cases h
    · rfl
  | clear => cases h

/-- A cache that holds the descriptors that were asked for, as far as they compile, each once and with the
shape that it compiles to. -/
structure Holds (cache : ShapeCache) (asked : Text → Prop) : Prop where
  names : ∀ descriptor, descriptor ∈ Entries.names cache ↔
    asked descriptor ∧ ∃ shape, compileDescriptor descriptor = .ok shape
  nodup : (Entries.names cache).Nodup
  entries : ∀ entry ∈ cache, compileDescriptor entry.1 = .ok entry.2

theorem holds_nil {asked : Text → Prop} (h : ∀ descriptor, ¬ asked descriptor) : Holds [] asked where
  names descriptor := by simp [Entries.names, h]
  nodup := List.nodup_nil
  entries entry hentry := absurd hentry List.not_mem_nil

theorem Holds.congr {asked asked' : Text → Prop} (h : cache.Holds asked)
    (hiff : ∀ descriptor, asked descriptor ↔ asked' descriptor) : cache.Holds asked' :=
  ⟨fun descriptor => (h.names descriptor).trans (and_congr_left' (hiff descriptor)), h.nodup, h.entries⟩

/-- A change to a cache keeps to what its task asks for. -/
theorem Holds.changes {asked : Text → Prop} {noted : List Text} (h : cache.Holds asked)
    (hchanges : cache.Changes task after noted) :
    after.Holds fun descriptor => task ≠ .clear ∧ (task.asks? = some descriptor ∨ asked descriptor) := by
  cases hchanges with
  | cleared => exact holds_nil fun _ h => h.1 rfl
  | @compiled _ asked' shape hasks hfind hcompile =>
    have hclear : task ≠ .clear := by
      rintro rfl
      cases hasks
    have hnew := Entries.find?_eq_none.mp hfind
    have hnames := Entries.names_put_of_not_mem hnew shape
    refine ⟨fun descriptor => ?_, ?_, fun entry hentry => ?_⟩
    · rw [hnames, List.mem_append, List.mem_singleton, h.names, hasks, Option.some.injEq]
      constructor
      · rintro (⟨hasked, hcompiles⟩ | rfl)
        · exact ⟨⟨hclear, .inr hasked⟩, hcompiles⟩
        · exact ⟨⟨hclear, .inl rfl⟩, shape, hcompile⟩
      · rintro ⟨⟨-, rfl | hasked⟩, hcompiles⟩
        · exact .inr rfl
        · exact .inl ⟨hasked, hcompiles⟩
    · rw [hnames]
      exact List.concat_eq_append ▸ h.nodup.concat hnew
    · rcases Entries.mem_put hentry with rfl | hentry
      · exact hcompile
      · exact h.entries entry hentry
  | kept hclear hheld =>
    refine ⟨fun descriptor => ?_, h.nodup, h.entries⟩
    constructor
    · intro hmem
      obtain ⟨hasked, hcompiles⟩ := (h.names descriptor).mp hmem
      exact ⟨⟨hclear, .inr hasked⟩, hcompiles⟩
    · rintro ⟨⟨-, hasks | hasked⟩, shape, hcompile⟩
      · rcases hheld descriptor hasks with ⟨held, hfind⟩ | ⟨e, herror⟩
        · exact List.mem_map_of_mem (Entries.mem_of_find? hfind)
        · rw [herror] at hcompile
          cases hcompile
      · exact (h.names descriptor).mpr ⟨hasked, shape, hcompile⟩

end ShapeCache

end

namespace ValidatorPool

variable {uses : Nat → Nat} {tasks : List (Nat × ValidatorTask)} {pool : ValidatorPool} {number : Nat}

/-! ## What was asked for -/

/-- No task of these clears a cache. -/
def Unclears (uses : Nat → Nat) (number : Nat) (tasks : List (Nat × ValidatorTask)) : Prop :=
  ∀ entry ∈ tasks, uses entry.1 = number → entry.2 ≠ .clear

/-- A validator with a cache asked for a descriptor, and the cache was not cleared since. -/
def AskedSinceClear (uses : Nat → Nat) (number : Nat) (tasks : List (Nat × ValidatorTask))
    (descriptor : Text) : Prop :=
  ∃ before validator task after, tasks = before ++ (validator, task) :: after ∧ uses validator = number ∧
    task.asks? = some descriptor ∧ Unclears uses number after

theorem not_askedSinceClear_nil {descriptor : Text} : ¬ AskedSinceClear uses number [] descriptor := by
  rintro ⟨before, validator, task, after, heq, -⟩
  exact absurd heq.symm (List.append_ne_nil_of_right_ne_nil before (List.cons_ne_nil _ after))

/-- One more task of a validator with another cache changes nothing. -/
theorem askedSinceClear_of_ne {validator : Nat} (h : uses validator ≠ number) (task : ValidatorTask)
    {descriptor : Text} :
    AskedSinceClear uses number (tasks ++ [(validator, task)]) descriptor ↔
      AskedSinceClear uses number tasks descriptor := by
  constructor
  · rintro ⟨before, asking, asked, after, heq, huses, hasks, hafter⟩
    rcases List.eq_nil_or_concat after with rfl | ⟨after, last, rfl⟩
    · obtain ⟨rfl, hlast⟩ := List.append_inj' heq rfl
      cases hlast
      exact absurd huses h
    · rw [List.concat_eq_append, ← List.cons_append, ← List.append_assoc] at heq
      obtain ⟨rfl, -⟩ := List.append_inj' heq rfl
      refine ⟨before, asking, asked, after, rfl, huses, hasks, fun entry hentry => ?_⟩
      exact hafter entry (List.concat_eq_append ▸ List.mem_append_left _ hentry)
  · rintro ⟨before, asking, asked, after, rfl, huses, hasks, hafter⟩
    refine ⟨before, asking, asked, after ++ [(validator, task)], by simp, huses, hasks, ?_⟩
    intro entry hentry hnumber
    rcases List.mem_append.mp hentry with hentry | hentry
    · exact hafter entry hentry hnumber
    · rw [List.mem_singleton.mp hentry] at hnumber
      exact absurd hnumber h

/-- One more task of a validator with the cache clears it, or may ask for a descriptor. -/
theorem askedSinceClear_of_eq {validator : Nat} (h : uses validator = number) (task : ValidatorTask)
    {descriptor : Text} :
    AskedSinceClear uses number (tasks ++ [(validator, task)]) descriptor ↔
      task ≠ .clear ∧ (task.asks? = some descriptor ∨ AskedSinceClear uses number tasks descriptor) := by
  constructor
  · rintro ⟨before, asking, asked, after, heq, huses, hasks, hafter⟩
    rcases List.eq_nil_or_concat after with rfl | ⟨after, last, rfl⟩
    · obtain ⟨rfl, hlast⟩ := List.append_inj' heq rfl
      cases hlast
      refine ⟨?_, .inl hasks⟩
      rintro rfl
      cases hasks
    · rw [List.concat_eq_append, ← List.cons_append, ← List.append_assoc] at heq
      obtain ⟨rfl, hlast⟩ := List.append_inj' heq rfl
      cases hlast
      rw [List.concat_eq_append] at hafter
      refine ⟨hafter _ (List.mem_append_right _ List.mem_cons_self) h, .inr ?_⟩
      exact ⟨before, asking, asked, after, rfl, huses, hasks,
        fun entry hentry => hafter entry (List.mem_append_left _ hentry)⟩
  · rintro ⟨hclear, hasks | ⟨before, asking, asked, after, rfl, huses, hasks, hafter⟩⟩
    · exact ⟨tasks, validator, task, [], rfl, h, hasks, nofun⟩
    · refine ⟨before, asking, asked, after ++ [(validator, task)], by simp, huses, hasks, ?_⟩
      intro entry hentry hnumber
      rcases List.mem_append.mp hentry with hentry | hentry
      · exact hafter entry hentry hnumber
      · rw [List.mem_singleton.mp hentry]
        exact hclear

/-! ## The invariant -/

section

variable [Checker]

/-- A pool after some tasks: every cache holds what was asked for since it was cleared. -/
structure Reflects (uses : Nat → Nat) (tasks : List (Nat × ValidatorTask)) (pool : ValidatorPool) : Prop where
  uses_eq : pool.uses = uses
  holds : ∀ number, (pool.caches number).Holds (AskedSinceClear uses number tasks)

theorem reflects_start (uses : Nat → Nat) : Reflects uses [] (start uses) where
  uses_eq := rfl
  holds _ := ShapeCache.holds_nil fun _ => not_askedSinceClear_nil

theorem caches_perform (pool : ValidatorPool) (validator : Nat) (task : ValidatorTask) (number : Nat) :
    (pool.perform validator task).2.caches number =
      if number = pool.uses validator then ((pool.cacheOf validator).perform task).2
      else pool.caches number := rfl

/-- **A task that fails** leaves the pool as it is. -/
theorem perform_of_error (pool : ValidatorPool) {validator : Nat} {task : ValidatorTask} {e : CompileError}
    (h : (pool.perform validator task).1 = .error e) : (pool.perform validator task).2 = pool := by
  refine congrArg (ValidatorPool.mk pool.uses) (funext fun number => ?_)
  change (pool.perform validator task).2.caches number = pool.caches number
  rw [caches_perform]
  split
  · rename_i hnumber
    rw [ShapeCache.perform_of_error h, hnumber]
    rfl
  · rfl

/-- **One task keeps the invariant.** -/
theorem Reflects.perform (h : Reflects uses tasks pool) (validator : Nat) (task : ValidatorTask) :
    Reflects uses (tasks ++ [(validator, task)]) (pool.perform validator task).2 := by
  refine ⟨h.uses_eq, fun number => ?_⟩
  rw [caches_perform, h.uses_eq]
  split
  · rename_i hnumber
    obtain ⟨noted, -, hchanges⟩ := (pool.cacheOf validator).performBy_noting number task
    have hheld : (pool.cacheOf validator).Holds (AskedSinceClear uses number tasks) := by
      unfold cacheOf
      rw [h.uses_eq, ← hnumber]
      exact h.holds number
    exact (hheld.changes hchanges).congr fun _ => (askedSinceClear_of_eq hnumber.symm task).symm
  · rename_i hnumber
    exact (h.holds number).congr fun _ => (askedSinceClear_of_ne (Ne.symm hnumber) task).symm

/-- **Every run keeps the invariant.** -/
theorem Reflects.run (h : Reflects uses tasks pool) (more : List (Nat × ValidatorTask)) :
    Reflects uses (tasks ++ more) (pool.run more) := by
  induction more generalizing tasks pool with
  | nil =>
    rw [List.append_nil]
    exact h
  | cons entry more ih =>
    have hrest := ih (h.perform entry.1 entry.2)
    rwa [List.append_assoc, List.singleton_append] at hrest

/-! ## Compilations -/

/-- A task of a validator with a compiler that notes what it compiles. -/
theorem performBy_noting (pool : ValidatorPool) (validator : Nat) (task : ValidatorTask) :
    ∃ noted : List Text,
      (∀ log, pool.performBy noting validator task log =
        (pool.perform validator task, log ++ noted.map fun s => (pool.uses validator, s))) ∧
      (pool.cacheOf validator).Changes task ((pool.cacheOf validator).perform task).2 noted := by
  obtain ⟨noted, hrun, hchanges⟩ := (pool.cacheOf validator).performBy_noting (pool.uses validator) task
  refine ⟨noted, fun log => ?_, hchanges⟩
  rw [performBy, stateM_bind_apply, hrun]
  rfl

/-- **Noting changes no result of a run.** -/
theorem runBy_noting (pool : ValidatorPool) (tasks : List (Nat × ValidatorTask)) (log : CompileLog) :
    pool.runBy noting tasks log = (pool.run tasks, log ++ pool.compilations tasks) := by
  unfold compilations
  induction tasks generalizing pool log with
  | nil => exact congrArg (Prod.mk pool) (List.append_nil log).symm
  | cons entry tasks ih =>
    obtain ⟨validator, task⟩ := entry
    obtain ⟨noted, hrun, -⟩ := pool.performBy_noting validator task
    have hrest := ih (pool.perform validator task).2
    simp only [runBy, stateM_bind_apply, hrun]
    rw [hrest (log ++ _), hrest ([] ++ _), List.nil_append, List.append_assoc]
    rfl

/-- What a run compiles is what its first task compiles and what the others do. -/
theorem compilations_cons (pool : ValidatorPool) (validator : Nat) (task : ValidatorTask)
    (tasks : List (Nat × ValidatorTask)) :
    ∃ noted : List Text,
      pool.compilations ((validator, task) :: tasks) =
        (noted.map fun s => (pool.uses validator, s)) ++
          (pool.perform validator task).2.compilations tasks ∧
      (pool.cacheOf validator).Changes task ((pool.cacheOf validator).perform task).2 noted := by
  obtain ⟨noted, hrun, hchanges⟩ := pool.performBy_noting validator task
  refine ⟨noted, ?_, hchanges⟩
  change (pool.runBy noting ((validator, task) :: tasks) []).2 = _
  simp only [runBy, stateM_bind_apply, hrun, runBy_noting, List.nil_append]

omit [Checker] in
/-- What is compiled for one cache is not compiled for another. -/
theorem count_map_of_ne {other : Nat} (h : number ≠ other) (noted : List Text) (descriptor : Text) :
    (noted.map fun s => (other, s)).count (number, descriptor) = 0 := by
  refine List.count_eq_zero.mpr fun hmem => ?_
  obtain ⟨s, -, heq⟩ := List.mem_map.mp hmem
  exact h (congrArg Prod.fst heq).symm

/-- As long as a cache is not cleared, a descriptor is compiled for it once at most, and not at all if the cache
holds it. -/
theorem count_compilations (pool : ValidatorPool) (h : Unclears pool.uses number tasks) (descriptor : Text) :
    (pool.compilations tasks).count (number, descriptor) ≤ 1 ∧
      (descriptor ∈ Entries.names (pool.caches number) →
        (pool.compilations tasks).count (number, descriptor) = 0) := by
  induction tasks generalizing pool with
  | nil => exact ⟨Nat.zero_le _, fun _ => rfl⟩
  | cons entry tasks ih =>
    obtain ⟨validator, task⟩ := entry
    obtain ⟨hfirst, hothers⟩ := List.forall_mem_cons.mp h
    obtain ⟨noted, hcompilations, hchanges⟩ := pool.compilations_cons validator task tasks
    have hrest := ih (pool.perform validator task).2 hothers
    rw [caches_perform] at hrest
    rw [hcompilations, List.count_append]
    by_cases hnumber : number = pool.uses validator
    · subst hnumber
      rw [if_pos rfl] at hrest
      change _ ∧ (descriptor ∈ Entries.names (pool.cacheOf validator) → _)
      generalize ((pool.cacheOf validator).perform task).2 = after at hchanges hrest
      cases hchanges with
      | cleared => exact absurd rfl (hfirst rfl)
      | @compiled _ compiled shape hasks hfind hcompile =>
        -- What is compiled was not in the cache and is from now on.
        have hnew := Entries.find?_eq_none.mp hfind
        rw [Entries.names_put_of_not_mem hnew] at hrest
        rw [List.map_singleton]
        by_cases heq : descriptor = compiled
        · subst heq
          have hnever := hrest.2 (List.mem_append_right _ List.mem_cons_self)
          rw [hnever, List.count_singleton_self]
          exact ⟨Nat.le_refl 1, fun hmem => absurd hmem hnew⟩
        · have hother : [(pool.uses validator, compiled)].count (pool.uses validator, descriptor) = 0 :=
            List.count_eq_zero.mpr fun hmem => heq (congrArg Prod.snd (List.mem_singleton.mp hmem))
          rw [hother, Nat.zero_add]
          exact ⟨hrest.1, fun hmem => hrest.2 (List.mem_append_left _ hmem)⟩
      | kept =>
        rw [List.map_nil, List.count_nil, Nat.zero_add]
        exact hrest
    · rw [if_neg hnumber] at hrest
      rw [count_map_of_ne hnumber, Nat.zero_add]
      exact hrest

/-- **The caches hold exactly what was compiled.** After every run of validators on caches that they may share:

- the names in a cache are the descriptors that a validator with this cache asked for since it was cleared last,
  as far as they compile, each of them once, and every entry is what its descriptor compiles to;
- a task that fails changes nothing, and no task changes a cache that its validator does not use;
- until a cache is cleared, no descriptor is compiled for it twice with success. -/
theorem caches_hold_compiled (uses : Nat → Nat) (tasks : List (Nat × ValidatorTask)) :
    let pool := (start uses).run tasks
    (∀ number, (pool.caches number).Holds (AskedSinceClear uses number tasks)) ∧
    (∀ validator task e, (pool.perform validator task).1 = .error e → (pool.perform validator task).2 = pool) ∧
    (∀ validator task number, number ≠ uses validator →
      (pool.perform validator task).2.caches number = pool.caches number) ∧
    ∀ more number, Unclears uses number more →
      ∀ descriptor, (pool.compilations more).count (number, descriptor) ≤ 1 := by
  intro pool
  have hreflects : Reflects uses tasks pool := (reflects_start uses).run tasks
  refine ⟨hreflects.holds, fun validator task e herror => ?_, fun validator task number hnumber => ?_,
    fun more number hmore descriptor => ?_⟩
  · exact pool.perform_of_error herror
  · rw [caches_perform, hreflects.uses_eq, if_neg hnumber]
  · exact (pool.count_compilations (hreflects.uses_eq.symm ▸ hmore) descriptor).1

end

/-- Three validators share a cache. A descriptor that every value passes is compiled only on demand, and what does
not compile is not kept. -/
example :
    ((start fun _ => 0).compilations
      [(0, .compile (txt "unknown")), (1, .validate .null (some (txt "any"))), (2, .validate .null (some (txt " "))),
        (2, .compile (txt "string |")), (0, .validate .null (some (txt "any")))]) =
      [(0, txt "unknown"), (0, txt "any")] := by
  rfl

end ValidatorPool

end Mixfix
