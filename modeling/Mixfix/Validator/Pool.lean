import Mixfix.Validator

/-!
# Validators that share caches

Any number of validators, each with a cache of compiled descriptors that it may share with others.
What a validator does changes its own cache only, and a task that fails changes none.
-/

set_option autoImplicit false

namespace Mixfix

/-- What a validator can be asked for. -/
inductive ValidatorTask
  | compile (descriptor : Text)
  | validate (value : Value) (descriptor : Option Text)
  | clear

/-- What a validator says when it is done. -/
inductive ValidatorReply
  | compiled (shape : Shape)
  | verdict (verdict : Verdict)
  | cleared

/-- Does a task with a cache. -/
def ShapeCache.perform [Checker] (cache : ShapeCache) :
    ValidatorTask → Except CompileError ValidatorReply × ShapeCache
  | .compile descriptor =>
    match cache.compile descriptor with
    | .ok (shape, cache) => (.ok (.compiled shape), cache)
    | .error e => (.error e, cache)
  | .validate value descriptor =>
    match cache.validate value descriptor with
    | .ok (verdict, cache) => (.ok (.verdict verdict), cache)
    | .error e => (.error e, cache)
  | .clear => (.ok .cleared, [])

/-- Validators by number, each with the number of the cache that it uses. -/
structure ValidatorPool where
  uses : Nat → Nat
  caches : Nat → ShapeCache

namespace ValidatorPool

/-- Validators whose caches are empty. -/
def start (uses : Nat → Nat) : ValidatorPool :=
  ⟨uses, fun _ => []⟩

/-- The cache of a validator. -/
def cacheOf (pool : ValidatorPool) (validator : Nat) : ShapeCache :=
  pool.caches (pool.uses validator)

/-- Lets a validator do a task. -/
def perform [Checker] (pool : ValidatorPool) (validator : Nat) (task : ValidatorTask) :
    Except CompileError ValidatorReply × ValidatorPool :=
  let (reply, cache) := (pool.cacheOf validator).perform task
  (reply, { pool with
    caches := fun number => if number = pool.uses validator then cache else pool.caches number })

/-- Lets validators do tasks one after the other. -/
def run [Checker] (pool : ValidatorPool) (tasks : List (Nat × ValidatorTask)) : ValidatorPool :=
  tasks.foldl (fun pool (validator, task) => (pool.perform validator task).2) pool

end ValidatorPool

end Mixfix
