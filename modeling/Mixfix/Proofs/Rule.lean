import Mathlib.Data.List.Nodup
import Mixfix.Proofs.Except
import Mixfix.Grammar

/-!
# Rules that a grammar can be made of

`Rule.IsDefined` says that a rule comes out of a rule definition. What the definition checks is read off
in `Rule.Checked`: a name that is free, a pattern with elements, bindings that differ, a union of bound
elements only. `Admissible` collects what is asked of a rule list: defined rules of distinct names, none of
which begins with a subexpression of its own level or of all levels.

A definition takes its elements as they are. That each of them has been checked (`Rule.Built`) is asked for
besides, where it matters. All that it matters for is that no constant is empty (`Rule.Solid`), so that a
rule reads something before it comes back to its own level (`Rule.Consuming`).
-/

set_option autoImplicit false

namespace Mixfix

/-! ## What a definition checks -/

theorem firstRepeated?_go_eq_none {seen names : List Text} :
    firstRepeated?.go seen names = none ↔ names.Nodup ∧ ∀ name ∈ names, name ∉ seen := by
  induction names generalizing seen with
  | nil => simp [firstRepeated?.go]
  | cons name names ih =>
    by_cases h : name ∈ seen
    · simp [firstRepeated?.go, h]
    · simp only [firstRepeated?.go, List.contains_eq_mem, h, decide_false, Bool.false_eq_true,
        if_false, ih, List.nodup_cons, List.mem_cons, not_or, forall_eq_or_imp, not_false_eq_true,
        true_and]
      constructor
      · rintro ⟨hnodup, hseen⟩
        exact ⟨⟨fun hmem => (hseen name hmem).1 rfl, hnodup⟩, fun n hn => (hseen n hn).2⟩
      · rintro ⟨⟨hname, hnodup⟩, hseen⟩
        exact ⟨hnodup, fun n hn => ⟨fun heq => hname (heq ▸ hn), hseen n hn⟩⟩

/-- No text is found to be repeated exactly where all texts differ. -/
theorem firstRepeated?_eq_none {names : List Text} : firstRepeated? names = none ↔ names.Nodup := by
  simp [firstRepeated?, firstRepeated?_go_eq_none]

/-- What every rule has that a definition gives. -/
structure Rule.Checked (rule : Rule) : Prop where
  name_ne_nil : rule.name ≠ []
  name_free : rule.name ∉ reservedNodeNames
  pattern_ne_nil : rule.pattern ≠ []
  nodup_bindings : rule.bindingNames.Nodup
  union_bound : ∀ names, rule.resultType = .union names → ∀ name ∈ names, name ∈ rule.bindingNames

namespace RuleDraft

variable {draft : RuleDraft} {name : Text} {pattern : List Element}

theorem checkedName_eq_ok (h : draft.checkedName = .ok name) :
    name ≠ [] ∧ name ∉ reservedNodeNames := by
  unfold checkedName at h
  split at h
  · cases h
  · cases h
  · rename_i hne hname
    split at h
    · cases h
    · rename_i hfree
      cases h
      exact ⟨hne, by simpa using hfree⟩

theorem checkedPattern_eq_ok (h : draft.checkedPattern name = .ok pattern) :
    pattern ≠ [] ∧ (pattern.filterMap Element.binding).Nodup := by
  obtain ⟨elements, -, h⟩ := bind_eq_ok.mp h
  dsimp only at h
  split at h
  · cases h
  · rename_i hne
    split at h
    · cases h
    · rename_i hnodup
      cases h
      exact ⟨by simpa using hne, firstRepeated?_eq_none.mp hnodup⟩

theorem checkedResult_eq_ok {type : ResultType} (h : draft.checkedResult name pattern = .ok type)
    {names : List Text} (htype : type = .union names) :
    ∀ n ∈ names, n ∈ pattern.filterMap Element.binding := by
  unfold checkedResult at h
  split at h
  · cases h
  · cases h
    cases htype
  · dsimp only at h
    split at h
    · rename_i hnone
      cases h
      cases htype
      intro n hn
      have hfilter := List.filter_eq_nil_iff.mp hnone n hn
      simpa using hfilter
    · cases h

/-- The rule of a draft is a checked one. -/
theorem checked_of_define {rule : Rule} (h : draft.define = .ok rule) : rule.Checked := by
  obtain ⟨name, hname, h⟩ := bind_eq_ok.mp h
  obtain ⟨precedence, -, h⟩ := bind_eq_ok.mp h
  obtain ⟨pattern, hpattern, h⟩ := bind_eq_ok.mp h
  obtain ⟨type, htype, h⟩ := bind_eq_ok.mp h
  cases h
  obtain ⟨hne, hfree⟩ := checkedName_eq_ok hname
  obtain ⟨hpat, hnodup⟩ := checkedPattern_eq_ok hpattern
  exact ⟨hne, hfree, hpat, hnodup, fun names heq => checkedResult_eq_ok htype heq⟩

end RuleDraft

/-- A checked element is not the empty constant. -/
theorem Element.kind_ne_of_define {element : Element}
    (h : Element.define element.kind element.binding = .ok element) :
    element.kind ≠ .terminal (.const []) := by
  intro hkind
  rw [hkind] at h
  cases h

/-- A rule whose elements are checked ones. -/
def Rule.Built (rule : Rule) : Prop :=
  ∀ element ∈ rule.pattern, Element.define element.kind element.binding = .ok element

/-- A rule without an empty constant. -/
def Rule.Solid (rule : Rule) : Prop :=
  ∀ element ∈ rule.pattern, element.kind ≠ .terminal (.const [])

instance (rule : Rule) : Decidable rule.Solid :=
  inferInstanceAs (Decidable (∀ element ∈ rule.pattern, element.kind ≠ .terminal (.const [])))

theorem Rule.Built.solid {rule : Rule} (h : rule.Built) : rule.Solid :=
  fun element helement => Element.kind_ne_of_define (h element helement)

/-! ## Rule lists -/

/-- A rule that a definition gives. -/
def Rule.IsDefined (rule : Rule) : Prop :=
  ∃ draft : RuleDraft, draft.define = .ok rule

theorem Rule.IsDefined.checked {rule : Rule} (h : rule.IsDefined) : rule.Checked := by
  obtain ⟨draft, hdraft⟩ := h
  exact RuleDraft.checked_of_define hdraft

/-- A draft of a rule. -/
def Rule.draft (rule : Rule) : RuleDraft where
  name := some rule.name
  pattern := rule.pattern.map .element
  precedence := .int rule.precedence
  resultType := .result rule.resultType
  configure := rule.configure
  eval := rule.eval

/-- A rule that its own draft defines is defined. -/
theorem Rule.isDefined_of_draft {rule : Rule} (h : rule.draft.define = .ok rule) : rule.IsDefined :=
  ⟨rule.draft, h⟩

/-- Whether a rule begins with a terminal or with a subexpression of tighter levels. Any other rule
begins with itself. -/
def Rule.isGrounded (rule : Rule) : Bool :=
  match rule.pattern with
  | ⟨.subexpression role _, _⟩ :: _ => role == .lhs
  | _ => true

/-- Rules that a grammar can be made of and that do not begin with themselves. -/
structure Admissible (rules : List Rule) : Prop where
  defined : ∀ rule ∈ rules, rule.IsDefined
  distinct : (rules.map Rule.name).Nodup
  grounded : ∀ rule ∈ rules, rule.isGrounded = true

/-- Rules stay admissible without one of them. -/
theorem Admissible.remove {before after : List Rule} {rule : Rule}
    (h : Admissible (before ++ rule :: after)) : Admissible (before ++ after) := by
  have hsublist : (before ++ after).Sublist (before ++ rule :: after) :=
    (List.sublist_cons_self rule after).append_left before
  exact ⟨fun other hother => h.defined other (hsublist.subset hother),
    h.distinct.sublist (hsublist.map Rule.name),
    fun other hother => h.grounded other (hsublist.subset hother)⟩

/-- A rule is the one that is found under its name. -/
theorem Admissible.find?_eq_some {rules : List Rule} (h : Admissible rules) {rule : Rule}
    (hrule : rule ∈ rules) : rules.find? (fun other => other.name == rule.name) = some rule := by
  cases hfind : rules.find? fun other => other.name == rule.name with
  | none => exact absurd (beq_self_eq_true _) (List.find?_eq_none.mp hfind rule hrule)
  | some found =>
    have hname : found.name = rule.name := by simpa using List.find?_some hfind
    have hfound := List.mem_of_find?_eq_some hfind
    rw [List.inj_on_of_nodup_map h.distinct hfound hrule hname]

/-- A rule that begins with a subexpression begins with one of tighter levels. -/
theorem Rule.role_of_head {rule : Rule} (hgrounded : rule.isGrounded = true) {role : Role}
    {constraint : Option Text}
    (hhead : rule.pattern.head?.map Element.kind = some (.subexpression role constraint)) :
    role = .lhs := by
  unfold Rule.isGrounded at hgrounded
  cases hpattern : rule.pattern with
  | nil =>
    rw [hpattern] at hhead
    cases hhead
  | cons element pattern =>
    obtain ⟨kind, binding⟩ := element
    rw [hpattern] at hhead hgrounded
    cases hhead
    exact beq_iff_eq.mp hgrounded

/-- A rule that reads something before it comes back to its own level. -/
structure Rule.Consuming (rule : Rule) : Prop where
  pattern_ne_nil : rule.pattern ≠ []
  solid : rule.Solid
  grounded : rule.isGrounded = true

theorem Admissible.consuming {rules : List Rule} (h : Admissible rules) {rule : Rule}
    (hsolid : rule.Solid) (hrule : rule ∈ rules) : rule.Consuming where
  pattern_ne_nil := (h.defined rule hrule).checked.pattern_ne_nil
  solid := hsolid
  grounded := h.grounded rule hrule

/-- The rules of the atoms read something first. -/
theorem consuming_of_mem_atomRules {rule : Rule} (h : rule ∈ atomRules) : rule.Consuming := by
  simp only [atomRules, List.mem_cons, List.not_mem_nil, or_false] at h
  rcases h with rfl | rfl | rfl | rfl | rfl | rfl | rfl
  all_goals exact ⟨List.cons_ne_nil _ _, by decide, rfl⟩

theorem nodup_of_mem_atomRules {rule : Rule} (h : rule ∈ atomRules) : rule.bindingNames.Nodup := by
  have hall : ∀ rule ∈ atomRules, rule.bindingNames.Nodup := by decide
  exact hall rule h

theorem configure_of_mem_atomRules {rule : Rule} (h : rule ∈ atomRules) : rule.configure = none := by
  have hall : ∀ rule ∈ atomRules, rule.configure.isNone = true := by decide
  exact Option.isNone_iff_eq_none.mp (hall rule h)

end Mixfix
