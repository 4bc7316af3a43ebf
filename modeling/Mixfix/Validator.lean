import Mixfix.Descriptor.Reader
import Mixfix.Descriptor.Shape

/-!
# Validation

A descriptor is compiled to its shape before values are checked against it, and the shape is kept in
a cache. Descriptors that accept everything are never compiled. What fails to compile is not kept.
-/

set_option autoImplicit false

namespace Mixfix

/-- Why a descriptor does not compile. -/
inductive CompileError
  | malformed (descriptor : Text) (problem : Descriptor.Problem)
  /-- An integer has more digits than are converted. -/
  | tooManyDigits
  /-- No checker is made of what the descriptor describes. -/
  | uncheckable

/-- The wording of an error, where there is one. -/
def CompileError.message? : CompileError → Option Text
  | .malformed descriptor problem =>
    some (txt "Invalid schema descriptor " ++ descriptor.quoted ++ txt ": " ++ problem.text)
  | .tooManyDigits => none
  | .uncheckable => none

/-- The shape of a descriptor, if a checker is made of it. -/
def compileDescriptor [Checker] (descriptor : Text) : Except CompileError Shape :=
  match Descriptor.read descriptor with
  | .error (.malformed problem) => .error (.malformed descriptor problem)
  | .error .tooManyDigits => .error .tooManyDigits
  | .ok shape => if Checker.checkable shape then .ok shape else .error .uncheckable

/-- Compiled descriptors. -/
abbrev ShapeCache := Entries Shape

/-- Whether a descriptor is missing, blank or `unknown`, and so accepts every value. -/
def alwaysPasses (descriptor : Option Text) : Bool :=
  match descriptor with
  | none => true
  | some s => let s := s.trim; s.isEmpty || s == unknownSchema

/-- Whether a value passed, and what is wrong with it if not. -/
structure Verdict where
  ok : Bool
  reason : Text

/-- The verdict on a value that passed. -/
def Verdict.passed : Verdict :=
  ⟨true, []⟩

/-- The verdict on a value that is to have a shape. Each complaint is given once. -/
def Shape.verdict [Checker] (shape : Shape) (value : Value) : Verdict :=
  if Checker.accepts shape value then .passed
  else ⟨false, Text.join (txt "; ") (Checker.complaints shape value).eraseDups⟩

namespace ShapeCache

variable [Checker]

/-- The shape of a descriptor, from the cache or compiled, and the cache with it. -/
def compile (cache : ShapeCache) (descriptor : Text) : Except CompileError (Shape × ShapeCache) :=
  match Entries.find? descriptor cache with
  | some shape => .ok (shape, cache)
  | none => do
    let shape ← compileDescriptor descriptor
    return (shape, Entries.put descriptor shape cache)

/-- Checks a value against a descriptor. -/
def validate (cache : ShapeCache) (value : Value) (descriptor : Option Text) :
    Except CompileError (Verdict × ShapeCache) :=
  match descriptor with
  | none => .ok (.passed, cache)
  | some s =>
    if alwaysPasses (some s) then .ok (.passed, cache)
    else do
      let (shape, cache) ← compile cache s
      return (shape.verdict value, cache)

end ShapeCache

end Mixfix
