import Mixfix.Proofs.Json
import Mixfix.Proofs.Session
import Mixfix.Proofs.Standard.Typed

/-!
# What expressions of the small language come to

A typed tree evaluated over data has data for a value, or the undefined value (`Standard.Typed.isResult`), and
its schema is a text. Where the descriptors of its context compile it fails in three ways: a variable has no
value, or one that fails its check, or an operation fails (`Standard.Typed.fails`).
-/

set_option autoImplicit false

namespace Mixfix

/-- Data or the undefined value. -/
def Value.IsResult (v : Value) : Prop :=
  v = .undefined ∨ v.IsData

/-! ## Operators -/

namespace Value

variable {a b v : Value}

/-- The values of primitive types are results. -/
theorem isResult_of_holds {type : Primitive} (h : type.holds v = true) : v.IsResult := by
  cases type with
  | undefined =>
    cases v with
    | undefined => exact .inl rfl
    | _ => cases h
  | number =>
    cases v with
    | int n => exact .inr (.int n)
    | float x => exact .inr (.float x)
    | nan occurrence => exact .inr (.nan occurrence)
    | _ => cases h
  | string =>
    cases v with
    | str s => exact .inr (.str s)
    | _ => cases h
  | boolean =>
    cases v with
    | bool b => exact .inr (.bool b)
    | _ => cases h
  | null =>
    cases v with
    | null => exact .inr .null
    | _ => cases h

/-- The items of a result are data. -/
theorem IsResult.items {items : List Value} (h : IsResult (.list items)) : ∀ v ∈ items, v.IsData := by
  rcases h with h | h
  · cases h
  · cases h with
    | list hitems => exact hitems

theorem isResult_of_arithmetic {operation : Number → Number → Except OperationError Number}
    (h : arithmetic operation a b = .ok v) : v.IsResult :=
  isResult_of_holds (holds_of_arithmetic h)

theorem isResult_of_add (ha : a.IsResult) (hb : b.IsResult) (h : add a b = .ok v) : v.IsResult := by
  unfold add at h
  split at h
  · cases h
    exact .inr (.str _)
  · cases h
    refine .inr (.list fun v hv => ?_)
    rcases List.mem_append.mp hv with hv | hv
    · exact ha.items v hv
    · exact hb.items v hv
  · exact isResult_of_arithmetic h

/-- A repeated list has the items that it repeats. -/
theorem mem_of_repeated {α : Type} {tooLong : OperationError} {items others : List α} {count : Int}
    (h : repeated tooLong items count = .ok others) {item : α} (hitem : item ∈ others) : item ∈ items := by
  unfold repeated at h
  split at h
  · cases h
  · split at h
    · cases h
      exact absurd hitem List.not_mem_nil
    · dsimp only at h
      split at h
      · cases h
      · cases h
        obtain ⟨copy, hcopy, hitem⟩ := List.mem_flatten.mp hitem
        rwa [List.eq_of_mem_replicate hcopy] at hitem

theorem isResult_of_repeatedList {items : List Value} {count : Int} (hitems : ∀ v ∈ items, v.IsData)
    (h : repeatedList items count = .ok v) : v.IsResult := by
  obtain ⟨others, hothers, rfl⟩ := map_eq_ok.mp h
  exact .inr (.list fun v hv => hitems v (mem_of_repeated hothers hv))

theorem isResult_of_repeatedText {s : Text} {count : Int} (h : repeatedText s count = .ok v) : v.IsResult := by
  obtain ⟨t, -, rfl⟩ := map_eq_ok.mp h
  exact .inr (.str t)

theorem isResult_of_mul (ha : a.IsResult) (hb : b.IsResult) (h : mul a b = .ok v) : v.IsResult := by
  unfold mul at h
  split at h
  · exact isResult_of_repeatedText h
  · exact isResult_of_repeatedText h
  · exact isResult_of_repeatedList ha.items h
  · exact isResult_of_repeatedList hb.items h
  · exact isResult_of_arithmetic h

theorem isResult_of_mod (h : mod a b = .ok v) : v.IsResult := by
  unfold mod at h
  split at h
  · obtain ⟨t, -, rfl⟩ := map_eq_ok.mp h
    exact .inr (.str t)
  · exact isResult_of_arithmetic h

end Value

open Value in
/-- **Operators give results on results.** -/
theorem Infix.isResult_of_operation {op : Infix} (h : op ∈ standardOperators) {a b v : Value}
    (ha : a.IsResult) (hb : b.IsResult) (hv : op.operation a b = .ok v) : v.IsResult := by
  simp only [standardOperators, sums, products, List.cons_append, List.nil_append, List.mem_cons,
    List.not_mem_nil, or_false] at h
  rcases h with rfl | rfl | rfl | rfl | rfl | rfl | rfl | rfl | rfl | rfl | rfl | rfl | rfl | rfl
  · cases hv
    split <;> assumption
  · cases hv
    split <;> assumption
  · cases hv
    exact .inr (.bool _)
  · cases hv
    exact .inr (.bool _)
  · exact isResult_of_holds (holds_of_compareWith hv)
  · exact isResult_of_holds (holds_of_compareWith hv)
  · exact isResult_of_holds (holds_of_compareWith hv)
  · exact isResult_of_holds (holds_of_compareWith hv)
  · exact isResult_of_add ha hb hv
  · exact isResult_of_add ha hb hv
  · exact isResult_of_arithmetic hv
  · exact isResult_of_mul ha hb hv
  · exact isResult_of_arithmetic hv
  · exact isResult_of_mod hv

/-! ## Identifiers -/

section

variable [Checker]

/-- A value can be checked against a descriptor that compiles. -/
theorem exists_verdict {descriptor : Text} (h : Parser.Compiles descriptor) (value : Value) :
    ∃ verdict, verdict? value (some descriptor) = .ok verdict := by
  unfold verdict?
  dsimp only
  split
  · exact ⟨_, rfl⟩
  · rename_i hpasses
    rcases h with h | ⟨shape, hshape⟩
    · exact absurd h hpasses
    · rw [hshape]
      exact ⟨_, rfl⟩

/-- What a context declares for a name compiles where all that it declares does. -/
theorem Terminal.compiles_declaredSchema {context : Context}
    (h : ∀ descriptor ∈ context.map Prod.snd, Parser.Compiles descriptor) (name : Text) :
    Parser.Compiles (declaredSchema context name) := by
  unfold declaredSchema
  cases hfind : context.find? name with
  | none => exact .inl (by decide)
  | some descriptor => exact h descriptor (List.mem_map.mpr ⟨_, Entries.mem_of_find? hfind, rfl⟩)

end

namespace Standard

variable {context : Context} {data : Fields} {tree : Node}

/-- Why a tree has no value: a variable has none, or a wrong one, or an operation fails. -/
inductive Fails : EvalError → Prop
  | undefinedVariable (name : Text) : Fails (.undefinedVariable name)
  | failedValidation (name schema reason : Text) : Fails (.failedValidation name schema reason)
  | operation (e : OperationError) : Fails (.operation e)

theorem fails_of_identifier [Checker] {name descriptor : Text} (hdescriptor : Parser.Compiles descriptor)
    {e : EvalError} (h : (Eval.identifier data name (.str descriptor)).once = .error e) : Fails e := by
  cases hfind : data.find? name with
  | none =>
    rw [Eval.identifier, hfind] at h
    cases h
    exact .undefinedVariable name
  | some value =>
    obtain ⟨verdict, hverdict⟩ := exists_verdict hdescriptor value
    rw [Eval.once_identifier hfind] at h
    change ((verdict? value (some descriptor)).mapError EvalError.compile >>= _) = _ at h
    rw [hverdict] at h
    change (if verdict.ok then _ else _) = Except.error e at h
    split at h
    · cases h
    · cases h
      exact .failedValidation _ _ _

namespace Typed

/-- The schema of a typed tree is a text. -/
theorem exists_schema (h : Typed context tree) : ∃ schema, tree.schema = .str schema := by
  induction h with
  | literal _ type => exact ⟨_, rfl⟩
  | identifier name => exact ⟨_, rfl⟩
  | @parentheses inner schema _ hschema ih =>
    change ∃ s, schema = .str s
    rw [hschema.eq_of_unknown]
    split
    · exact ih
    · exact ⟨_, rfl⟩
  | binary => exact ⟨_, rfl⟩
  | negation => exact ⟨_, rfl⟩
  | conditional _ _ _ _ hschema =>
    rcases schema_conditional hschema with ⟨rfl, -⟩ | ⟨schemas, -, rfl, -⟩
    · exact ⟨_, rfl⟩
    · exact ⟨_, rfl⟩

/-- **A typed tree over data has a result for its value.** -/
theorem isResult [Checker] (h : Typed context tree) (hdata : ∀ entry ∈ data, Value.IsData entry.2) {v : Value}
    (hv : (Eval.node standardRules data tree).once = .ok v) : v.IsResult := by
  induction h generalizing v with
  | literal _ type htype =>
    cases hv
    exact Value.isResult_of_holds htype
  | identifier name =>
    obtain ⟨hfind, -⟩ := Eval.once_identifier_eq_ok.mp hv
    exact .inr (hdata _ (Entries.mem_of_find? hfind))
  | parentheses _ _ ih => exact ih hv
  | binary hop _ _ _ ihl ihr =>
    rw [once_binary hop] at hv
    obtain ⟨a, ha, hv⟩ := bind_eq_ok.mp hv
    obtain ⟨b, hb, hv⟩ := bind_eq_ok.mp hv
    exact Infix.isResult_of_operation hop (ihl ha) (ihr hb) (mapError_eq_ok.mp hv)
  | negation _ _ _ =>
    rw [once_negation] at hv
    obtain ⟨a, -, hv⟩ := bind_eq_ok.mp hv
    cases hv
    exact .inr (.bool _)
  | conditional _ _ _ _ _ _ ihconsequent ihotherwise =>
    rw [once_conditional] at hv
    obtain ⟨c, -, hv⟩ := bind_eq_ok.mp hv
    obtain ⟨a, ha, hv⟩ := bind_eq_ok.mp hv
    obtain ⟨b, hb, hv⟩ := bind_eq_ok.mp hv
    cases hv
    split
    · exact ihconsequent ha
    · exact ihotherwise hb

/-- **A typed tree fails in three ways**, if the descriptors of its context compile. -/
theorem fails [Checker] (h : Typed context tree)
    (hcontext : ∀ descriptor ∈ context.map Prod.snd, Parser.Compiles descriptor) {e : EvalError}
    (herror : (Eval.node standardRules data tree).once = .error e) : Fails e := by
  induction h with
  | literal => cases herror
  | identifier name => exact fails_of_identifier (Terminal.compiles_declaredSchema hcontext name) herror
  | parentheses _ _ ih => exact ih herror
  | binary hop _ _ _ ihl ihr =>
    rw [once_binary hop] at herror
    rcases bind_eq_error.mp herror with herror | ⟨a, -, herror⟩
    · exact ihl herror
    · rcases bind_eq_error.mp herror with herror | ⟨b, -, herror⟩
      · exact ihr herror
      · obtain ⟨e', -, rfl⟩ := mapError_eq_error.mp herror
        exact .operation e'
  | negation _ _ ih =>
    rw [once_negation] at herror
    rcases bind_eq_error.mp herror with herror | ⟨a, -, herror⟩
    · exact ih herror
    · cases herror
  | conditional _ _ _ _ _ ihcondition ihconsequent ihotherwise =>
    rw [once_conditional] at herror
    rcases bind_eq_error.mp herror with herror | ⟨c, -, herror⟩
    · exact ihcondition herror
    · rcases bind_eq_error.mp herror with herror | ⟨a, -, herror⟩
      · exact ihconsequent herror
      · rcases bind_eq_error.mp herror with herror | ⟨b, -, herror⟩
        · exact ihotherwise herror
        · cases herror

end Typed

end Standard

end Mixfix
