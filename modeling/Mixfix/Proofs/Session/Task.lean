import Mixfix.Proofs.Session
import Mixfix.Session.Task

/-!
# Tasks do not influence each other

A parser at work keeps its compiled descriptors and its compiled expressions. The descriptors make no
difference, since the cache of them stays faithful. An expression that is kept is what its task compiles on
a fresh parser, and only a call asks for it. `Reflects` is the invariant that says so: one task keeps it
(`Reflects.perform`), so it holds after every run (`reflects_run`). By `perform_independent` the reply to a
task is then that of a parser that has done nothing but what the task needs.
-/

set_option autoImplicit false

namespace Mixfix

/-- **Any tree evaluates steadily**, also one that plain data describes. -/
theorem steady_evaluate [Checker] (rules : List Rule) (data : Fields) (tree : Value) :
    (evaluate rules data tree).Steady := by
  unfold evaluate
  split
  · exact Eval.steady_node _
  · split
    · exact Eval.steady_node _
    · exact EvalM.steady_throw _

namespace Parser

variable [Checker] {κ : Type} [BEq κ] {parser : Parser} {memory : ParserMemory κ} {tasks : List (ParserTask κ)}

/-! ## What a task needs -/

/-- The expression that a task compiles under a key, told on a fresh parser. -/
def compiledUnder? (parser : Parser) (key : κ) : ParserTask κ → Option Expression
  | .compile other context s =>
    if other == key then (parser.compile [] context s).1.toOption else none
  | _ => none

theorem compiledUnder?_compile (parser : Parser) (key other : κ) (context : Context) (s : Text) :
    parser.compiledUnder? key (.compile other context s) =
      if other == key then (parser.compile [] context s).1.toOption else none := rfl

/-- The last task that compiled an expression under a key. -/
def lastCompiled? (parser : Parser) (key : κ) (tasks : List (ParserTask κ)) : Option (ParserTask κ) :=
  tasks.reverse.find? fun task => (parser.compiledUnder? key task).isSome

/-- The tasks that a task needs of those before it. Only a call needs one, the one that compiled its
expression. -/
def needs (parser : Parser) (tasks : List (ParserTask κ)) : ParserTask κ → List (ParserTask κ)
  | .call key _ => (parser.lastCompiled? key tasks).toList
  | _ => []

theorem lastCompiled?_append (parser : Parser) (key : κ) (tasks : List (ParserTask κ))
    (task : ParserTask κ) :
    parser.lastCompiled? key (tasks ++ [task]) =
      if (parser.compiledUnder? key task).isSome then some task else parser.lastCompiled? key tasks := by
  unfold lastCompiled?
  rw [List.reverse_append, List.reverse_singleton, List.singleton_append, List.find?_cons]
  split
  · rename_i h
    rw [h, if_pos rfl]
  · rename_i h
    rw [h, if_neg Bool.false_ne_true]

theorem lastCompiled?_needed {key : κ} {task : ParserTask κ}
    (h : parser.lastCompiled? key tasks = some task) : parser.lastCompiled? key [task] = some task := by
  have hcompiles := List.find?_some h
  have hlast := lastCompiled?_append parser key [] task
  rwa [if_pos hcompiles] at hlast

/-! ## The invariant -/

/-- A memory after some tasks. Its cache is faithful, and under each key it has the expression that the last
of them compiled. -/
structure Reflects (parser : Parser) (tasks : List (ParserTask κ)) (memory : ParserMemory κ) : Prop where
  faithful : memory.cache.Faithful
  expressions : ∀ key, memory.expression? key =
    (parser.lastCompiled? key tasks).bind (parser.compiledUnder? key)

theorem reflects_start (parser : Parser) : Reflects parser [] (ParserMemory.start (κ := κ)) where
  faithful := ShapeCache.faithful_nil
  expressions _ := rfl

/-- A task that compiles nothing leaves the expressions as they are. -/
theorem Reflects.of_expressions (h : Reflects parser tasks memory) {task : ParserTask κ}
    (htask : ∀ key, parser.compiledUnder? key task = none) {after : ParserMemory κ}
    (hcache : after.cache.Faithful) (hexpressions : after.expressions = memory.expressions) :
    Reflects parser (tasks ++ [task]) after := by
  refine ⟨hcache, fun key => ?_⟩
  rw [lastCompiled?_append, htask, Option.isSome_none, if_neg Bool.false_ne_true, ← h.expressions key]
  unfold ParserMemory.expression?
  rw [hexpressions]

/-- An evaluation leaves a faithful cache, and the expressions as they are. -/
theorem Reflects.evaluateIn (h : Reflects parser tasks memory) {task : ParserTask κ}
    (htask : ∀ key, parser.compiledUnder? key task = none) (tree : Value) (data : Fields) :
    Reflects parser (tasks ++ [task]) (parser.evaluateIn memory tree data).2 :=
  h.of_expressions htask ((steady_evaluate parser.rules data tree).faithful memory.cache h.faithful) rfl

/-- What compiles on a parser at work compiles to the same on a fresh one. -/
theorem compile_eq_fresh (parser : Parser) {cache : ShapeCache} (h : cache.Faithful) (context : Context) (s : Text) :
    (parser.compile cache context s).1 = (parser.compile [] context s).1 := by
  rw [compile_fst h, compile_fst ShapeCache.faithful_nil]

/-- A compiled expression is the last one under its key. -/
theorem Reflects.compile (h : Reflects parser tasks memory) (key : κ) (context : Context) (s : Text) :
    Reflects parser (tasks ++ [.compile key context s])
      (parser.perform memory (.compile key context s)).2 := by
  have hfresh := compile_eq_fresh parser h.faithful context s
  have hcache := faithful_compile parser h.faithful context s
  unfold perform
  dsimp only
  split
  · rename_i expression cache heq
    rw [heq] at hfresh hcache
    refine ⟨hcache, fun other => ?_⟩
    rw [lastCompiled?_append, compiledUnder?_compile, ← hfresh]
    unfold ParserMemory.expression?
    rw [List.find?_cons]
    cases hkey : key == other with
    | true => simp [compiledUnder?_compile, ← hfresh, hkey, Except.toOption]
    | false => simpa [ParserMemory.expression?] using h.expressions other
  · rename_i e cache heq
    rw [heq] at hfresh hcache
    refine h.of_expressions (fun other => ?_) hcache rfl
    rw [compiledUnder?_compile, ← hfresh]
    exact ite_self none

/-- **One task keeps the invariant.** -/
theorem Reflects.perform (h : Reflects parser tasks memory) (task : ParserTask κ) :
    Reflects parser (tasks ++ [task]) (parser.perform memory task).2 := by
  cases task with
  | parse context s => exact h.of_expressions (fun _ => rfl) h.faithful rfl
  | outcome context s => exact h.of_expressions (fun _ => rfl) h.faithful rfl
  | compile key context s => exact h.compile key context s
  | call key data =>
    unfold Parser.perform
    dsimp only
    split
    · exact h.evaluateIn (fun _ => rfl) _ data
    · exact h.of_expressions (fun _ => rfl) h.faithful rfl
  | evaluate tree data => exact h.evaluateIn (fun _ => rfl) tree data
  | clear => exact h.of_expressions (fun _ => rfl) ShapeCache.faithful_nil rfl

theorem Reflects.run (h : Reflects parser tasks memory) (more : List (ParserTask κ)) :
    Reflects parser (tasks ++ more) (parser.run memory more) := by
  induction more generalizing tasks memory with
  | nil =>
    rw [List.append_nil]
    exact h
  | cons task more ih =>
    have hrest := ih (h.perform task)
    rwa [List.append_assoc, List.singleton_append] at hrest

/-- **Every run keeps the invariant.** -/
theorem reflects_run (parser : Parser) (tasks : List (ParserTask κ)) :
    Reflects parser tasks (parser.run .start tasks) :=
  (reflects_start parser).run tasks

/-! ## Replies -/

theorem perform_compile (parser : Parser) (memory : ParserMemory κ) (key : κ) (context : Context) (s : Text) :
    (parser.perform memory (.compile key context s)).1 =
      .compiled (parser.compile memory.cache context s).1 := by
  unfold perform
  dsimp only
  split
  · rename_i heq
    rw [heq]
  · rename_i heq
    rw [heq]

/-- The reply to a call is that of an evaluation, where something was compiled under its key. -/
theorem perform_call (parser : Parser) (memory : ParserMemory κ) (key : κ) (data : Fields) :
    (parser.perform memory (.call key data)).1 =
      match memory.expression? key with
      | some expression => (parser.evaluateIn memory (.node expression.ast) data).1
      | none => .notCompiled := by
  unfold perform
  dsimp only
  cases memory.expression? key with
  | none => rfl
  | some expression => rfl

omit [BEq κ] in
/-- Two faithful caches give the same reply to an evaluation. -/
theorem evaluateIn_fst {other : ParserMemory κ} (h : memory.cache.Faithful) (hother : other.cache.Faithful)
    (tree : Value) (data : Fields) :
    (parser.evaluateIn memory tree data).1 = (parser.evaluateIn other tree data).1 := by
  have hsteady := steady_evaluate parser.rules data tree
  exact congrArg ParserReply.evaluated
    ((hsteady.same memory.cache h).trans (hsteady.same other.cache hother).symm)

/-- **Tasks do not influence each other.** Whatever was asked of a parser before, its reply to a task is that
of a parser that has done nothing but what the task needs: nothing at all, or for a call only to compile its
expression. -/
theorem perform_independent (parser : Parser) (tasks : List (ParserTask κ)) (task : ParserTask κ) :
    (parser.perform (parser.run .start tasks) task).1 =
      (parser.perform (parser.run .start (parser.needs tasks task)) task).1 := by
  have hran := reflects_run parser tasks
  have hneeded := reflects_run parser (parser.needs tasks task)
  generalize parser.run .start tasks = memory at hran ⊢
  cases task with
  | parse context s => rfl
  | outcome context s => rfl
  | compile key context s =>
    rw [perform_compile, perform_compile, compile_eq_fresh parser hran.faithful,
      compile_eq_fresh parser hneeded.faithful]
  | call key data =>
    have hsame : memory.expression? key =
        (parser.run .start (parser.needs tasks (.call key data))).expression? key := by
      rw [hran.expressions key, hneeded.expressions key]
      change _ = (parser.lastCompiled? key (parser.lastCompiled? key tasks).toList).bind _
      cases hlast : parser.lastCompiled? key tasks with
      | none => rfl
      | some compiled => rw [Option.toList_some, lastCompiled?_needed hlast]
    rw [perform_call, perform_call, hsame]
    split
    · exact evaluateIn_fst hran.faithful hneeded.faithful _ data
    · rfl
  | evaluate tree data => exact evaluateIn_fst hran.faithful hneeded.faithful tree data
  | clear => rfl

end Parser

end Mixfix
