import Mixfix.Parse
import Mixfix.Proofs.Parse.Terminal

/-!
# One step of a plain parse

What a plain run does with the elements of a rule, the candidates of a parse and the failures among them,
whatever its subexpressions are parsed by. Each lemma turns the result of a step into the results of its parts.
-/

set_option autoImplicit false

namespace Mixfix

open Decimal (TooManyDigits)

/-- **A terminal fails** on numbers of too many digits and on nothing else. -/
theorem Terminal.match?_eq_error {context : Context} {s : Text} {t : Terminal} {e : TooManyDigits} :
    t.match? context s = .error e ↔ t = .number ∧ Scan.number s = .error e := by
  cases t with
  | number =>
    rw [match?]
    cases Scan.number s with
    | error e' =>
      rw [error_bind]
      simp
    | ok found =>
      rw [ok_bind]
      simp [pure, Except.pure]
  | string | identifier | const | null | boolean | undefined => simp [match?]

/-! ## Candidates -/

/-- The rules that a parse tries are those of its level and of the later ones. -/
theorem Engine.mem_candidates {grammar : Grammar} {start index : Nat} {rule : Rule} :
    (index, rule) ∈ candidates grammar start ↔
      start ≤ index ∧ ∃ level, grammar[index]? = some level ∧ rule ∈ level.rules := by
  simp only [candidates, List.mem_flatMap, List.mem_map, Prod.mk.injEq, Prod.exists]
  constructor
  · rintro ⟨level, i, hmem, r, hr, rfl, rfl⟩
    rw [List.mk_mem_zipIdx_iff_le_and_getElem?_sub, List.getElem?_drop] at hmem
    exact ⟨hmem.1, level, by rw [← hmem.2, Nat.add_sub_cancel' hmem.1], hr⟩
  · rintro ⟨hle, level, hlevel, hr⟩
    refine ⟨level, index, ?_, rule, hr, rfl, rfl⟩
    rw [List.mk_mem_zipIdx_iff_le_and_getElem?_sub, List.getElem?_drop, Nat.add_sub_cancel' hle]
    exact ⟨hle, hlevel⟩

/-- A subexpression of a rule of some level is parsed from a level of the grammar, or from just after the
last. -/
theorem Role.start_le_length {grammar : Grammar} {index : Nat} (h : index < grammar.length) (role : Role) :
    role.start index ≤ grammar.length := by
  cases role with
  | lhs => exact h
  | rhs => exact Nat.le_of_lt h
  | expr => exact Nat.zero_le _

namespace Parse

open Engine

variable {grammar : Grammar} {context : Context}

/-! ## Attempts -/

/-- Attempts that give the same one by one have the same first result. -/
theorem firstSome_congr {α β : Type} {f g : α → Except Interruption (Option β)} {candidates : List α}
    (h : ∀ a ∈ candidates, f a = g a) : firstSome f candidates = firstSome g candidates := by
  induction candidates with
  | nil => rfl
  | cons a candidates ih =>
    obtain ⟨ha, hcandidates⟩ := List.forall_mem_cons.mp h
    simp only [firstSome, ha, ih hcandidates]

/-! ## Matches -/

/-- A node meets what is required if it has the schema that is. -/
theorem meets_eq_true_iff {constraint : Option Text} {node : Node} :
    meets constraint node = true ↔ ∀ required, constraint = some required → node.schema = .str required := by
  cases constraint with
  | none => exact ⟨fun _ required h => (by cases h), fun _ => rfl⟩
  | some required =>
    simp only [meets, Option.some.injEq, forall_eq']
    unfold Value.isText
    split
    · rename_i s hschema
      rw [hschema, beq_iff_eq, Value.str.injEq]
    · rename_i hother
      exact ⟨fun h => absurd h Bool.false_ne_true, fun h => absurd h (hother required)⟩

/-- What has the required schema meets it. -/
theorem meets_of_schema {required : Text} {node : Node} (h : node.schema = .str required) :
    meets (some required) node = true :=
  meets_eq_true_iff.mpr fun _ heq => Option.some.inj heq ▸ h

section Inversion

variable {parse : Nat → Text → Except Interruption Found} {level : Nat} {s : Text}

/-- A first result is the result of one of the attempts, and those before it give none. -/
theorem firstSome_eq_some {α β : Type} {f : α → Except Interruption (Option β)} {candidates : List α}
    {b : β} :
    firstSome f candidates = .ok (some b) ↔
      ∃ before a after, candidates = before ++ a :: after ∧ (∀ a ∈ before, f a = .ok none) ∧
        f a = .ok (some b) := by
  induction candidates with
  | nil =>
    constructor
    · intro h
      cases h
    · rintro ⟨before, a, after, hsplit, -⟩
      cases before <;> cases hsplit
  | cons a candidates ih =>
    constructor
    · intro h
      obtain ⟨found, hfound, h⟩ := bind_eq_ok.mp h
      cases found with
      | some result =>
        cases h
        exact ⟨[], a, candidates, rfl, List.forall_mem_nil _, hfound⟩
      | none =>
        obtain ⟨before, a', after, rfl, hbefore, ha'⟩ := ih.mp h
        exact ⟨a :: before, a', after, rfl, List.forall_mem_cons.mpr ⟨hfound, hbefore⟩, ha'⟩
    · rintro ⟨before, a', after, hsplit, hbefore, ha'⟩
      cases before with
      | nil =>
        cases hsplit
        exact bind_eq_ok.mpr ⟨some b, ha', rfl⟩
      | cons first before =>
        cases hsplit
        obtain ⟨hfirst, hbefore⟩ := List.forall_mem_cons.mp hbefore
        exact bind_eq_ok.mpr ⟨none, hfirst, ih.mpr ⟨before, a', after, rfl, hbefore, ha'⟩⟩

theorem exists_of_firstSome {α β : Type} {f : α → Except Interruption (Option β)} {candidates : List α} {b : β}
    (h : firstSome f candidates = .ok (some b)) : ∃ a ∈ candidates, f a = .ok (some b) := by
  obtain ⟨before, a, after, rfl, -, ha⟩ := firstSome_eq_some.mp h
  exact ⟨a, List.mem_append_right before List.mem_cons_self, ha⟩

/-- What the candidates of a parse match, a rule of its level or a later one matches. -/
theorem exists_rule_of_firstSome {start : Nat} {r : Match Node}
    (h : firstSome (fun (index, rule) => matchRule plainHooks parse context index rule s)
      (candidates grammar start) = .ok (some r)) :
    ∃ (index : Nat) (level : Level) (rule : Rule), start ≤ index ∧ grammar[index]? = some level ∧
      rule ∈ level.rules ∧ matchRule plainHooks parse context index rule s = .ok (some r) := by
  obtain ⟨⟨index, rule⟩, hmem, hmatch⟩ := exists_of_firstSome h
  obtain ⟨hstart, level, hlevel, hrule⟩ := mem_candidates.mp hmem
  exact ⟨index, level, rule, hstart, hlevel, hrule, hmatch⟩

theorem matchElement_terminal {t : Terminal} {r : Match Node} :
    matchElement plainHooks parse context level (.terminal t) s = .ok (some r) ↔
      t.match? context s = .ok (some r) := by
  simp only [matchElement]
  cases t.match? context s with
  | error e =>
    cases e
    constructor
    all_goals
      intro h
      cases h
  | ok found =>
    cases found with
    | none =>
      constructor
      all_goals
        intro h
        cases h
    | some result =>
      constructor
      all_goals
        intro h
        cases h
        rfl

theorem matchElement_subexpression {role : Role} {constraint : Option Text} {r : Match Node} :
    matchElement plainHooks parse context level (.subexpression role constraint) s = .ok (some r) ↔
      parse (role.start level) s = .ok (some r) ∧ meets constraint r.value = true := by
  constructor
  · intro h
    obtain ⟨found, hfound, h⟩ := bind_eq_ok.mp h
    obtain ⟨rfl, hmeets⟩ := Option.filter_eq_some_iff.mp (Except.ok.inj h)
    exact ⟨hfound, hmeets⟩
  · rintro ⟨hfound, hmeets⟩
    exact bind_eq_ok.mpr ⟨some r, hfound, congrArg Except.ok (Option.filter_eq_some_iff.mpr ⟨rfl, hmeets⟩)⟩

theorem matchElements_nil {r : Match (List Node)} :
    matchElements plainHooks parse context level [] s = .ok (some r) ↔ r = ⟨[], s⟩ := by
  constructor
  · intro h
    cases h
    rfl
  · rintro rfl
    rfl

theorem matchElements_cons {element : Element} {pattern : List Element} {r : Match (List Node)} :
    matchElements plainHooks parse context level (element :: pattern) s = .ok (some r) ↔
      ∃ (first : Match Node) (others : Match (List Node)),
        matchElement plainHooks parse context level element.kind s = .ok (some first) ∧
        matchElements plainHooks parse context level pattern first.rest = .ok (some others) ∧
        r = ⟨first.value :: others.value, others.rest⟩ := by
  constructor
  · intro h
    obtain ⟨found, hfirst, h⟩ := bind_eq_ok.mp h
    cases found with
    | none => cases h
    | some first =>
      obtain ⟨found, hothers, h⟩ := bind_eq_ok.mp h
      cases found with
      | none => cases h
      | some others =>
        cases h
        exact ⟨first, others, hfirst, hothers, rfl⟩
  · rintro ⟨first, others, hfirst, hothers, rfl⟩
    simp only [matchElements, hfirst, hothers, ok_bind]
    rfl

/-- Elements in a row are matched to nodes with a property that every match of an element has. -/
theorem forall₂_of_matchElements {P : ElementKind → Node → Prop}
    (hmatch : ∀ kind s r, matchElement plainHooks parse context level kind s = .ok (some r) →
      P kind r.value) {pattern : List Element} {matched : Match (List Node)}
    (h : matchElements plainHooks parse context level pattern s = .ok (some matched)) :
    List.Forall₂ (fun element node => P element.kind node) pattern matched.value := by
  induction pattern generalizing s matched with
  | nil =>
    rw [matchElements_nil.mp h]
    exact .nil
  | cons element pattern ih =>
    obtain ⟨first, others, hfirst, hothers, rfl⟩ := matchElements_cons.mp h
    exact .cons (hmatch _ _ _ hfirst) (ih hothers)

theorem matchRule_eq_some {rule : Rule} {r : Match Node} :
    matchRule plainHooks parse context level rule s = .ok (some r) ↔
      ∃ matched : Match (List Node),
        matchElements plainHooks parse context level rule.pattern s = .ok (some matched) ∧
        r = ⟨rule.assemble matched.value context, matched.rest⟩ := by
  constructor
  · intro h
    obtain ⟨found, hfound, h⟩ := bind_eq_ok.mp h
    obtain ⟨matched, rfl, rfl⟩ := Option.map_eq_some_iff.mp (Except.ok.inj h)
    exact ⟨matched, hfound, rfl⟩
  · rintro ⟨matched, hmatched, rfl⟩
    exact bind_eq_ok.mpr ⟨some matched, hmatched, rfl⟩

end Inversion

/-! ## Failures -/

section

variable {parse : Nat → Text → Except Interruption Found} {index : Nat} {s : Text} {e : Interruption}

/-- A failure is that of one of the attempts. -/
theorem firstSome_eq_error {α β : Type} {f : α → Except Interruption (Option β)} {candidates : List α}
    (h : firstSome f candidates = .error e) : ∃ a ∈ candidates, f a = .error e := by
  induction candidates with
  | nil => cases h
  | cons a candidates ih =>
    rcases bind_eq_error.mp h with ha | ⟨found, -, h⟩
    · exact ⟨a, List.mem_cons_self, ha⟩
    · cases found with
      | some result => cases h
      | none =>
        obtain ⟨b, hb, hfb⟩ := ih h
        exact ⟨b, List.mem_cons_of_mem _ hb, hfb⟩

theorem matchElement_terminal_eq_error {t : Terminal} :
    matchElement plainHooks parse context index (.terminal t) s = .error e ↔
      e = .tooManyDigits ∧ t.match? context s = .error .tooManyDigits := by
  simp only [matchElement]
  cases t.match? context s with
  | error reason =>
    cases reason
    simp [plainHooks, eq_comm]
  | ok found =>
    cases found with
    | none => simp [pure, Except.pure]
    | some result => simp [plainHooks, pure, Except.pure]

theorem matchElement_subexpression_eq_error {role : Role} {constraint : Option Text} :
    matchElement plainHooks parse context index (.subexpression role constraint) s = .error e ↔
      parse (role.start index) s = .error e := by
  simp only [matchElement, bind_eq_error]
  simp [pure, Except.pure]

/-- Elements in a row fail at one of them, where those before it have matched. -/
theorem matchElements_eq_error {pattern : List Element} :
    matchElements plainHooks parse context index pattern s = .error e ↔
      ∃ before element after matched, pattern = before ++ element :: after ∧
        matchElements plainHooks parse context index before s = .ok (some matched) ∧
        matchElement plainHooks parse context index element.kind matched.rest = .error e := by
  constructor
  · intro h
    induction pattern generalizing s with
    | nil => cases h
    | cons element pattern ih =>
      rcases bind_eq_error.mp h with helement | ⟨found, hfound, h⟩
      · exact ⟨[], element, pattern, ⟨[], s⟩, rfl, matchElements_nil.mpr rfl, helement⟩
      · cases found with
        | none => cases h
        | some first =>
          rcases bind_eq_error.mp h with hrest | ⟨found, -, h⟩
          · obtain ⟨before, failing, after, matched, rfl, hbefore, hfailing⟩ := ih hrest
            exact ⟨element :: before, failing, after, _, rfl,
              matchElements_cons.mpr ⟨first, matched, hfound, hbefore, rfl⟩, hfailing⟩
          · cases found with
            | none => cases h
            | some others => cases h
  · rintro ⟨before, element, after, matched, rfl, hbefore, helement⟩
    induction before generalizing s matched with
    | nil =>
      rw [matchElements_nil.mp hbefore] at helement
      simp only [List.nil_append, matchElements, helement, error_bind]
    | cons first before ih =>
      obtain ⟨found, others, hfound, hothers, rfl⟩ := matchElements_cons.mp hbefore
      simp only [List.cons_append, matchElements, hfound, ok_bind, ih others hothers helement, error_bind]

theorem matchRule_eq_error {rule : Rule} :
    matchRule plainHooks parse context index rule s = .error e ↔
      matchElements plainHooks parse context index rule.pattern s = .error e := by
  simp only [matchRule, bind_eq_error]
  simp [pure, Except.pure]

end

end Parse

end Mixfix
