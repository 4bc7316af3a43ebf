import Mathlib.Data.Nat.Init
import Mixfix.Proofs.Grammar
import Mixfix.Proofs.Parse.Recursion
import Mixfix.Proofs.Rule.Assembly

/-!
# Running the engine forwards

What a plain parse gives is told level by level (`plain_eq_level`). A level none of whose rules match is
passed over (`plain_eq_next`), and otherwise its first rule that matches decides (`plain_eq_some`). So a
parse is known once it is known of each rule before the one that matches why it does not.
-/

set_option autoImplicit false

namespace Mixfix

namespace Parse

open Engine

/-! ## Attempts in order -/

section

variable {α β : Type} {f : α → Except Interruption (Option β)} {b : β} {before rest : List α}

theorem firstSome_of_none (h : ∀ a ∈ before, f a = .ok none) : firstSome f before = .ok none := by
  induction before with
  | nil => rfl
  | cons a before ih =>
    obtain ⟨ha, hbefore⟩ := List.forall_mem_cons.mp h
    rw [firstSome, ha, ok_bind]
    exact ih hbefore

theorem firstSome_append_of_none (h : ∀ a ∈ before, f a = .ok none) :
    firstSome f (before ++ rest) = firstSome f rest := by
  induction before with
  | nil => rfl
  | cons a before ih =>
    obtain ⟨ha, hbefore⟩ := List.forall_mem_cons.mp h
    rw [List.cons_append, firstSome, ha, ok_bind]
    exact ih hbefore

/-- An attempt that gives none makes no difference among the others. -/
theorem firstSome_insert_of_none {a : α} (h : f a = .ok none) :
    firstSome f (before ++ a :: rest) = firstSome f (before ++ rest) := by
  induction before with
  | nil =>
    rw [List.nil_append, firstSome, h, ok_bind]
    rfl
  | cons b before ih =>
    rw [List.cons_append, List.cons_append, firstSome, firstSome, ih]

/-- The first result of two lists is that of the first list, or of the second if the first gives none. -/
theorem firstSome_append_eq_some (h : firstSome f (before ++ rest) = .ok (some b)) :
    firstSome f before = .ok (some b) ∨
      (∀ a ∈ before, f a = .ok none) ∧ firstSome f rest = .ok (some b) := by
  induction before with
  | nil => exact .inr ⟨List.forall_mem_nil _, h⟩
  | cons a before ih =>
    obtain ⟨found, hfound, h⟩ := bind_eq_ok.mp h
    cases found with
    | some result =>
      cases h
      exact .inl (bind_eq_ok.mpr ⟨some b, hfound, rfl⟩)
    | none =>
      rcases ih h with h | ⟨hbefore, h⟩
      · exact .inl (bind_eq_ok.mpr ⟨none, hfound, h⟩)
      · exact .inr ⟨List.forall_mem_cons.mpr ⟨hfound, hbefore⟩, h⟩

end

/-! ## Levels -/

variable {grammar : Grammar} {context : Context} {start index : Nat} {level : Level} {s : Text}

/-- The candidates of a level are its rules and then the candidates of the next. -/
theorem candidates_eq (h : grammar[start]? = some level) :
    candidates grammar start =
      level.rules.map (fun rule => (start, rule)) ++ candidates grammar (start + 1) := by
  have hdrop : grammar.drop start = level :: grammar.drop (start + 1) := by
    rw [List.drop_eq_getElem?_toList_append, h]
    rfl
  rw [candidates, hdrop, List.zipIdx_cons, List.flatMap_cons]
  rfl

/-- The candidates of the last level are the atoms. -/
theorem candidates_last {last : Nat} (hlast : grammar[last]? = some atomLevel) (hlength : grammar.length = last + 1) :
    candidates grammar last = atomRules.map fun rule => (last, rule) := by
  have hnone : candidates grammar (last + 1) = [] := by
    rw [candidates, ← hlength, List.drop_length]
    rfl
  rw [candidates_eq hlast, hnone, List.append_nil]
  rfl

/-- The candidates of a grammar that is built of rules are some of these rules and then the atoms, unless there are
none at all. -/
theorem candidates_of_build {rules : List Rule} (hbuild : Grammar.build rules = .ok grammar) (start : Nat) :
    candidates grammar start = [] ∨
      ∃ (last : Nat) (front : List (Nat × Rule)), (∀ candidate ∈ front, candidate.2 ∈ rules) ∧
        candidates grammar start = front ++ atomRules.map fun rule => (last, rule) := by
  obtain ⟨last, hlast, hlength, hlevels⟩ := Grammar.exists_last hbuild
  by_cases hstart : start ≤ last
  · right
    refine ⟨last, ?_⟩
    induction hstart using Nat.decreasingInduction with
    | self => exact ⟨[], List.forall_mem_nil _, candidates_last hlast hlength⟩
    | of_succ index hindex ih =>
      obtain ⟨level, hlevel, hmem⟩ := hlevels index hindex
      obtain ⟨front, hfront, hcandidates⟩ := ih
      refine ⟨level.rules.map (fun rule => (index, rule)) ++ front, ?_, ?_⟩
      · rintro candidate hcandidate
        rcases List.mem_append.mp hcandidate with hcandidate | hcandidate
        · obtain ⟨rule, hrule, rfl⟩ := List.mem_map.mp hcandidate
          exact hmem rule hrule
        · exact hfront candidate hcandidate
      · rw [candidates_eq hlevel, hcandidates, List.append_assoc]
  · left
    rw [candidates, List.drop_eq_nil_of_le (by omega)]
    rfl

/-- **A parse level by level**: the first result of the rules of its level, or what the next level gives. -/
theorem plain_eq_level (hlevel : grammar[start]? = some level) :
    plain grammar context start s =
      firstSome (fun rule => attemptRule grammar context start rule s) level.rules >>= fun found =>
        match found with
        | some r => .ok (some r)
        | none => plain grammar context (start + 1) s := by
  rw [plain_eq, plain_eq, candidates_eq hlevel]
  induction level.rules with
  | nil => rfl
  | cons rule rules ih =>
    simp only [List.map_cons, List.cons_append, firstSome, bind_assoc, ih]
    show attemptRule grammar context start rule s >>= _ = attemptRule grammar context start rule s >>= _
    refine bind_congr fun found => ?_
    cases found with
    | some r => rfl
    | none => rfl

/-- A level none of whose rules match is passed over. -/
theorem plain_eq_next (hlevel : grammar[start]? = some level)
    (hnone : ∀ rule ∈ level.rules, attemptRule grammar context start rule s = .ok none) :
    plain grammar context start s = plain grammar context (start + 1) s := by
  rw [plain_eq_level hlevel, firstSome_of_none hnone, ok_bind]

/-- The first rule of a level that matches decides. -/
theorem plain_eq_some (hlevel : grammar[start]? = some level)
    {before after : List Rule} {rule : Rule} {r : Match Node}
    (hrules : level.rules = before ++ rule :: after)
    (hnone : ∀ rule ∈ before, attemptRule grammar context start rule s = .ok none)
    (hrule : attemptRule grammar context start rule s = .ok (some r)) :
    plain grammar context start s = .ok (some r) := by
  have hfirst : firstSome (fun rule => attemptRule grammar context start rule s) level.rules =
      .ok (some r) := by
    rw [hrules]
    exact firstSome_eq_some.mpr ⟨before, rule, after, rfl, hnone, hrule⟩
  rw [plain_eq_level hlevel, hfirst, ok_bind]

/-! ## Elements -/

variable {parse : Nat → Text → Except Interruption Found} {pattern : List Element}

theorem matchElement_terminal_none {t : Terminal} (h : t.match? context s = .ok none) :
    matchElement plainHooks parse context index (.terminal t) s = .ok none := by
  simp only [matchElement, h]
  rfl

/-- A constant is read where it follows. -/
theorem matchElement_const_eq_some {value : Text} {r : Match Node} :
    matchElement plainHooks parse context index (.terminal (.const value)) s = .ok (some r) ↔
      ∃ rest : Text, s.trimStart = value ++ rest ∧ r = ⟨Terminal.constNode value, rest⟩ :=
  matchElement_terminal.trans Terminal.match?_const

theorem matchElement_const_none {value : Text} (h : Scan.const value s = none) :
    matchElement plainHooks parse context index (.terminal (.const value)) s = .ok none := by
  refine matchElement_terminal_none ?_
  rw [Terminal.match?, h]
  rfl

theorem matchElement_subexpression_none {role : Role} {constraint : Option Text} {r : Match Node}
    (h : parse (role.start index) s = .ok (some r)) (hmeets : meets constraint r.value = false) :
    matchElement plainHooks parse context index (.subexpression role constraint) s = .ok none := by
  simp only [matchElement, h, ok_bind, Option.filter, hmeets]
  rfl

theorem matchElements_cons_none {element : Element}
    (h : matchElement plainHooks parse context index element.kind s = .ok none) :
    matchElements plainHooks parse context index (element :: pattern) s = .ok none := by
  simp only [matchElements, h, ok_bind]
  rfl

/-- Elements fail after the first if the others do. -/
theorem matchElements_cons_rest_none {element : Element} {first : Match Node}
    (hfirst : matchElement plainHooks parse context index element.kind s = .ok (some first))
    (h : matchElements plainHooks parse context index pattern first.rest = .ok none) :
    matchElements plainHooks parse context index (element :: pattern) s = .ok none := by
  simp only [matchElements, hfirst, h, ok_bind]
  rfl

theorem matchRule_none {rule : Rule}
    (h : matchElements plainHooks parse context index rule.pattern s = .ok none) :
    matchRule plainHooks parse context index rule s = .ok none := by
  simp only [matchRule, h, ok_bind]
  rfl

/-- A rule of one unbound terminal makes what the terminal makes. -/
theorem matchRule_lone {rule : Rule} {t : Terminal} (hpattern : rule.pattern = [⟨.terminal t, none⟩])
    {found : Found} :
    matchRule plainHooks parse context index rule s = .ok found ↔ t.match? context s = .ok found := by
  cases hmatch : t.match? context s with
  | error e =>
    cases e
    simp only [matchRule, hpattern, matchElements, matchElement, hmatch]
    constructor
    all_goals
      intro h
      cases h
  | ok outcome =>
    have hrun : matchRule plainHooks parse context index rule s = .ok outcome := by
      cases outcome with
      | none => exact matchRule_none (hpattern ▸ matchElements_cons_none (matchElement_terminal_none hmatch))
      | some r =>
        have helement : matchElement plainHooks parse context index (.terminal t) s = .ok (some r) :=
          matchElement_terminal.mpr hmatch
        refine matchRule_eq_some.mpr ⟨⟨[r.value], r.rest⟩, ?_, ?_⟩
        · rw [hpattern]
          exact matchElements_cons.mpr ⟨r, ⟨[], r.rest⟩, helement, matchElements_nil.mpr rfl, rfl⟩
        · rw [Rule.assemble_lone hpattern]
    rw [hrun, Except.ok.injEq, Except.ok.injEq]

end Parse

end Mixfix
