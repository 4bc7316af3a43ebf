import Mixfix.Host.Checker
import Mixfix.Proofs.Text.Split
import Mixfix.Proofs.Validator.Verdict

/-!
# Primitive types

The primitive types are the descriptors of one kind of values each. If what checks values takes only such values for
their shapes (`Checker.Sorts`), then what passes the check against one of them is of its kind
(`Primitive.holds_of_verdict`).

`Primitive.IsUnion` says that a schema is a union of primitive types, and `Value.BelongsTo` how it describes
values. The union of such unions is one again, and no value is lost by it.
-/

set_option autoImplicit false

namespace Mixfix

/-- A type of one kind of values. -/
inductive Primitive
  | number
  | string
  | boolean
  | null
  | undefined
  deriving DecidableEq

namespace Primitive

/-- The descriptor of a primitive type. -/
def text : Primitive → Text
  | number => "number"
  | string => "string"
  | boolean => "boolean"
  | null => "null"
  | undefined => "undefined"

/-- Whether a value is of a primitive type. Truth values are no numbers. -/
def holds : Primitive → Value → Bool
  | number, .int _ | number, .float _ | number, .nan _ => true
  | string, .str _ => true
  | boolean, .bool _ => true
  | null, .null => true
  | undefined, .undefined => true
  | _, _ => false

/-- The shape of a primitive type. -/
def shape : Primitive → Shape
  | number => .number false .all
  | string => .text .any none none
  | boolean => .boolean
  | null => .null
  | undefined => .undefined

theorem text_injective {p q : Primitive} (h : p.text = q.text) : p = q := by
  revert h
  cases p <;> cases q <;> decide

theorem text_ne_nil (p : Primitive) : p.text ≠ [] := by
  cases p <;> decide

theorem text_ne_unknown (p : Primitive) : p.text ≠ unknownSchema := by
  cases p <;> decide

/-- No bar stands in the name of a primitive type. -/
theorem not_bar_mem_text (p : Primitive) : CodePoint.ofChar '|' ∉ p.text := by
  cases p <;> decide

theorem read_text (p : Primitive) : Descriptor.read p.text = .ok p.shape := by
  cases p <;> rfl

end Primitive

/-- Only values of a primitive type are accepted for its shape. -/
structure Checker.Sorts [Checker] : Prop where
  holds_of_accepts (p : Primitive) (value : Value) : Checker.accepts p.shape value = true → p.holds value = true

namespace Primitive

/-- What passes the check against a primitive type is of this type. -/
theorem holds_of_verdict [Checker] (hsorts : Checker.Sorts) {p : Primitive} {value : Value} {verdict : Verdict}
    (h : verdict? value (some p.text) = .ok verdict) (hok : verdict.ok = true) : p.holds value = true := by
  have hchecked : alwaysPasses (some p.text) = false := by cases p <;> decide
  rw [verdict?, hchecked, if_neg Bool.false_ne_true] at h
  obtain ⟨shape, hshape, rfl⟩ := map_eq_ok.mp h
  obtain ⟨hread, -⟩ := compileDescriptor_eq_ok.mp hshape
  obtain rfl := Except.ok.inj ((read_text p).symm.trans hread)
  rw [Shape.ok_verdict] at hok
  exact hsorts.holds_of_accepts p value hok

end Primitive

/-- The checker of the program takes exactly the values of a primitive type for its shape. -/
theorem Shape.sorts : Checker.Sorts where
  holds_of_accepts p value h := by
    have hsame : p.shape.accepts value = p.holds value := by cases p <;> cases value <;> rfl
    rwa [← hsame]

/-! ## Unions -/

/-- A union of primitive types. -/
def Primitive.IsUnion (schema : Text) : Prop :=
  ∀ word ∈ schema.members, ∃ type : Primitive, type.text = word

/-- A value is of one of the members of a schema. -/
def Value.BelongsTo (value : Value) (schema : Text) : Prop :=
  ∃ type : Primitive, type.text ∈ schema.members ∧ type.holds value = true

namespace Primitive

theorem members_text (p : Primitive) : p.text.members = [p.text] :=
  Text.members_of_not_mem p.not_bar_mem_text

theorem isUnion_text (p : Primitive) : IsUnion p.text := by
  intro word hword
  rw [members_text, List.mem_singleton] at hword
  exact ⟨p, hword.symm⟩

/-- A value belongs to a primitive type if it is of this type. -/
theorem belongsTo_text {p : Primitive} {value : Value} : value.BelongsTo p.text ↔ p.holds value = true := by
  unfold Value.BelongsTo
  rw [members_text]
  constructor
  · rintro ⟨q, hmem, hholds⟩
    obtain rfl := text_injective (List.mem_singleton.mp hmem)
    exact hholds
  · intro hholds
    exact ⟨p, List.mem_singleton.mpr rfl, hholds⟩

theorem IsUnion.ne_nil {schema : Text} (h : IsUnion schema) : schema ≠ [] := by
  rintro rfl
  obtain ⟨p, hp⟩ := h [] (by decide)
  exact p.text_ne_nil hp

theorem IsUnion.ne_unknown {schema : Text} (h : IsUnion schema) : schema ≠ unknownSchema := by
  rintro rfl
  obtain ⟨p, hp⟩ := h unknownSchema (by decide)
  exact p.text_ne_unknown hp

variable {schemas : List Text}

theorem members_join (hne : schemas ≠ []) (h : ∀ schema ∈ schemas, IsUnion schema) :
    Text.members (Text.join (txt " | ") schemas) = schemas.flatMap Text.members := by
  refine Text.members_join_unions hne fun schema hschema word hword => ?_
  obtain ⟨p, rfl⟩ := h schema hschema word hword
  exact p.not_bar_mem_text

/-- A union of unions of primitive types is one. -/
theorem isUnion_join (hne : schemas ≠ []) (h : ∀ schema ∈ schemas, IsUnion schema) :
    IsUnion (Text.join (txt " | ") schemas) := by
  intro word hword
  rw [members_join hne h] at hword
  obtain ⟨schema, hschema, hword⟩ := List.mem_flatMap.mp hword
  exact h schema hschema word hword

/-- What belongs to one of some unions belongs to the union of them all. -/
theorem belongsTo_join (h : ∀ schema ∈ schemas, IsUnion schema) {schema : Text} (hschema : schema ∈ schemas)
    {value : Value} (hvalue : value.BelongsTo schema) :
    value.BelongsTo (Text.join (txt " | ") schemas) := by
  obtain ⟨p, hmem, hholds⟩ := hvalue
  refine ⟨p, ?_, hholds⟩
  rw [members_join (List.ne_nil_of_mem hschema) h]
  exact List.mem_flatMap.mpr ⟨schema, hschema, hmem⟩

end Primitive

end Mixfix
