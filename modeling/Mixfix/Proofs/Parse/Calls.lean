import Mathlib.Data.Prod.Lex
import Mixfix.Proofs.Grammar
import Mixfix.Proofs.Parse.Recursion

/-!
# Parses inside parses

A parse runs other parses: those of the subexpressions of its candidates (`Calls`). What breaks a parse off
is a number that it reads or a parse that it calls (`plain_eq_error`).

A grammar is consuming if its rules read something before they come back to their own levels. A match then
leaves an end of the text that something was read before (`plain_leaves`). So a subexpression that comes after
other elements of its rule is parsed further on in the text, and one that comes first is parsed from a later
level. The length of the text and the number of levels left decrease in lexicographic order (`Calls.lt`), no
chain of parses inside parses goes on forever (`calls_wellFounded`), and every parse ends
(`plain_ne_endless`).
-/

set_option autoImplicit false

namespace Mixfix

/-- A grammar of rules that read something before they come back to their levels. -/
def Grammar.Consuming (grammar : Grammar) : Prop :=
  ∀ level ∈ grammar, ∀ rule ∈ level.rules, rule.Consuming

theorem Admissible.grammar_consuming {rules : List Rule} {grammar : Grammar} (h : Admissible rules)
    (hsolid : ∀ rule ∈ rules, rule.Solid) (hbuild : Grammar.build rules = .ok grammar) :
    grammar.Consuming := by
  intro level hlevel rule hrule
  obtain ⟨index, hindex⟩ := List.mem_iff_getElem?.mp hlevel
  rcases Grammar.places_or_atom hbuild hindex hrule with ⟨-, hrule⟩ | hrule
  · exact h.consuming (hsolid rule hrule) hrule
  · exact consuming_of_mem_atomRules hrule

namespace Parse

open Engine

variable {grammar : Grammar} {context : Context}

/-! ## What matches leave -/

/-- A match leaves an end of the text that something was read before. -/
def Leaves {α : Type} (s : Text) (found : Option (Match α)) : Prop :=
  ∀ r, found = some r → s.Advances r.rest

section

variable {parse : Nat → Text → Except Interruption Found} {index : Nat} {s : Text}

/-- An element leaves an end of the text that something was read before, if subexpressions do. -/
theorem matchElement_leaves
    (hparse : ∀ {start : Nat} {s : Text} {found : Found}, parse start s = .ok found → Leaves s found)
    {kind : ElementKind} (hsolid : kind ≠ .terminal (.const [])) {found : Found}
    (h : matchElement plainHooks parse context index kind s = .ok found) : Leaves s found := by
  rintro r rfl
  cases kind with
  | terminal t => exact Terminal.match?_advances (fun ht => hsolid (congrArg _ ht)) (matchElement_terminal.mp h)
  | subexpression role constraint => exact hparse (matchElement_subexpression.mp h).1 r rfl

/-- Elements in a row leave an end of the text, and something was read before if there are any. -/
theorem matchElements_leaves
    (hparse : ∀ {start : Nat} {s : Text} {found : Found}, parse start s = .ok found → Leaves s found)
    {pattern : List Element} (hsolid : ∀ element ∈ pattern, element.kind ≠ .terminal (.const []))
    {matched : Match (List Node)}
    (h : matchElements plainHooks parse context index pattern s = .ok (some matched)) :
    matched.rest <:+ s ∧ (pattern ≠ [] → s.Advances matched.rest) := by
  induction pattern generalizing s matched with
  | nil => exact matchElements_nil.mp h ▸ ⟨List.suffix_rfl, fun hne => absurd rfl hne⟩
  | cons element pattern ih =>
    obtain ⟨first, others, hfirst, hothers, rfl⟩ := matchElements_cons.mp h
    obtain ⟨helement, hpattern⟩ := List.forall_mem_cons.mp hsolid
    have hadvances : s.Advances first.rest := matchElement_leaves hparse helement hfirst first rfl
    have hall := hadvances.to_suffix (ih hpattern hothers).1
    exact ⟨hall.suffix, fun _ => hall⟩

end

/-- A match of a plain parse leaves an end of the text that something was read before. -/
theorem plain_leaves (hgrammar : grammar.Consuming) {start : Nat} {s : Text} {found : Found}
    (h : plain grammar context start s = .ok found) : Leaves s found := by
  rintro r rfl
  refine plain_induction (P := fun _ s r => s.Advances r.rest) ?_ h
  intro parse hparse start s r hfirst
  obtain ⟨index, level, rule, -, hlevel, hrule, hmatch⟩ := exists_rule_of_firstSome hfirst
  have hconsuming := hgrammar level (List.mem_of_getElem? hlevel) rule hrule
  obtain ⟨matched, hmatched, rfl⟩ := matchRule_eq_some.mp hmatch
  have hleaves : ∀ {start : Nat} {s : Text} {found : Found}, parse start s = .ok found → Leaves s found := by
    rintro start s found hfound r rfl
    exact hparse start s r hfound
  exact (matchElements_leaves hleaves hconsuming.solid hmatched).2 hconsuming.pattern_ne_nil

/-! ## Calls -/

/-- A parse of a text from a level, with the level first, runs another one: some elements of a candidate
match, and a subexpression comes after them. -/
inductive Calls (grammar : Grammar) (context : Context) : Nat × Text → Nat × Text → Prop
  | subexpression {start index : Nat} {s : Text} {rule : Rule} {before after : List Element}
      {element : Element} {role : Role} {constraint : Option Text} {matched : Match (List Node)} :
      (index, rule) ∈ candidates grammar start → rule.pattern = before ++ element :: after →
      element.kind = .subexpression role constraint →
      matchElements plainHooks (plain grammar context) context index before s = .ok (some matched) →
      Calls grammar context (role.start index, matched.rest) (start, s)

variable {call caller : Nat × Text}

/-- What a called parse reads is an end of the text of its caller. -/
theorem Calls.suffix (h : Calls grammar context call caller) : call.2 <:+ caller.2 := by
  cases h with
  | subexpression _ _ _ hmatched => exact matchElements_stays hmatched

/-- A rule fails where it reads a number, or where it calls a parse that fails. -/
theorem attemptRule_eq_error {index : Nat} {rule : Rule} {s : Text} {e : Interruption}
    (h : attemptRule grammar context index rule s = .error e) :
    ∃ before element after matched, rule.pattern = before ++ element :: after ∧
      matchElements plainHooks (plain grammar context) context index before s = .ok (some matched) ∧
      (e = .tooManyDigits ∧ Scan.number matched.rest = .error .tooManyDigits ∨
        ∃ role constraint, element.kind = .subexpression role constraint ∧
          plain grammar context (role.start index) matched.rest = .error e) := by
  obtain ⟨before, element, after, matched, hpattern, hbefore, helement⟩ :=
    matchElements_eq_error.mp (matchRule_eq_error.mp h)
  refine ⟨before, element, after, matched, hpattern, hbefore, ?_⟩
  cases hkind : element.kind with
  | terminal t =>
    rw [hkind] at helement
    obtain ⟨he, hmatch⟩ := matchElement_terminal_eq_error.mp helement
    exact .inl ⟨he, (Terminal.match?_eq_error.mp hmatch).2⟩
  | subexpression role constraint =>
    rw [hkind] at helement
    exact .inr ⟨role, constraint, rfl, matchElement_subexpression_eq_error.mp helement⟩

/-- **A parse is broken off** by a number that it reads or by a parse that it calls. -/
theorem plain_eq_error {start : Nat} {s : Text} {e : Interruption}
    (h : plain grammar context start s = .error e) :
    (e = .tooManyDigits ∧ ∃ t, t <:+ s ∧ Scan.number t = .error .tooManyDigits) ∨
      ∃ call, Calls grammar context call (start, s) ∧ plain grammar context call.1 call.2 = .error e := by
  rw [plain_eq] at h
  obtain ⟨⟨index, rule⟩, hmem, hrule⟩ := firstSome_eq_error h
  obtain ⟨before, element, after, matched, hpattern, hbefore, hfailure⟩ := attemptRule_eq_error hrule
  rcases hfailure with ⟨he, hnumber⟩ | ⟨role, constraint, hkind, hcall⟩
  · exact .inl ⟨he, matched.rest, matchElements_stays hbefore, hnumber⟩
  · exact .inr ⟨_, .subexpression hmem hpattern hkind hbefore, hcall⟩

/-! ## Calls become smaller -/

/-- The length of the text of a parse, and how many levels are left from where it starts. -/
def remaining (grammar : Grammar) (parse : Nat × Text) : Nat × Nat :=
  (parse.2.length, grammar.length - parse.1)

/-- A parse is called on the text of its caller with a later level, or on what is left of the text after
something was read. -/
theorem Calls.advances (hgrammar : grammar.Consuming) (h : Calls grammar context call caller) :
    (call.2 = caller.2 ∧ caller.1 < call.1 ∧ caller.1 < grammar.length) ∨
      caller.2.Advances call.2 := by
  cases h with
  | @subexpression start index s rule before after element role constraint matched hmem hpattern hkind
      hmatched =>
    obtain ⟨hstart, level, hlevel, hrule⟩ := mem_candidates.mp hmem
    have hindex : index < grammar.length := (List.getElem?_eq_some_iff.mp hlevel).1
    have hconsuming := hgrammar level (List.mem_of_getElem? hlevel) rule hrule
    by_cases hfirst : before = []
    · -- Nothing is read yet, so the element begins its rule, and only tighter levels are left to it.
      subst hfirst
      rw [matchElements_nil.mp hmatched]
      have hhead : rule.pattern.head?.map Element.kind = some (.subexpression role constraint) := by
        rw [hpattern, List.nil_append, List.head?_cons, Option.map_some, hkind]
      rw [Rule.role_of_head hconsuming.grounded hhead]
      refine .inl ⟨rfl, ?_, ?_⟩
      · show start < index + 1
        omega
      · show start < grammar.length
        omega
    · refine .inr ((matchElements_leaves (plain_leaves hgrammar) (fun e he => hconsuming.solid e ?_) hmatched).2 hfirst)
      rw [hpattern]
      exact List.mem_append_left _ he

/-- **A call is smaller than its caller**: its text is shorter, or it is the same and fewer levels are
left. -/
theorem Calls.lt (hgrammar : grammar.Consuming) (h : Calls grammar context call caller) :
    Prod.Lex (· < ·) (· < ·) (remaining grammar call) (remaining grammar caller) := by
  rw [Prod.lex_def]
  rcases h.advances hgrammar with ⟨htext, hlater, hlevel⟩ | hadvances
  · refine .inr ⟨congrArg List.length htext, ?_⟩
    show grammar.length - call.1 < grammar.length - caller.1
    omega
  · exact .inl hadvances.length_lt

/-- **No chain of calls goes on forever.** -/
theorem calls_wellFounded (hgrammar : grammar.Consuming) (context : Context) :
    WellFounded (Calls grammar context) :=
  Subrelation.wf (fun h => h.lt hgrammar)
    (InvImage.wf (remaining grammar) (WellFounded.prod_lex Nat.lt_wfRel.wf Nat.lt_wfRel.wf))

/-- **A parse ends**: by what it calls no parse is endless. -/
theorem plain_ne_endless (hgrammar : grammar.Consuming) (start : Nat) (s : Text) :
    plain grammar context start s ≠ .error .endlessRecursion := by
  suffices hcalls : ∀ parse : Nat × Text, plain grammar context parse.1 parse.2 ≠ .error .endlessRecursion from
    hcalls (start, s)
  intro parse
  induction parse using (calls_wellFounded hgrammar context).induction with
  | h caller ih =>
    intro hendless
    rcases plain_eq_error hendless with ⟨he, -⟩ | ⟨call, hcall, hbroken⟩
    · cases he
    · exact ih call hcall hbroken

/-! ## Heights -/

/-- A bound for how deep the parses inside of a parse are nested. -/
def height (grammar : Grammar) (start : Nat) (s : Text) : Nat :=
  s.length * (grammar.length + 1) + (grammar.length - start)

/-- On a shorter text every level is lower. -/
theorem height_lt_of_shorter {grammar : Grammar} {start start' : Nat} {s t : Text}
    (h : t.length < s.length) : height grammar start' t < height grammar start s := by
  have hmul : (t.length + 1) * (grammar.length + 1) ≤ s.length * (grammar.length + 1) :=
    Nat.mul_le_mul_right _ h
  rw [Nat.succ_mul] at hmul
  unfold height
  omega

/-- On the same text later levels are lower. -/
theorem height_lt_of_later {grammar : Grammar} {start index : Nat} (s : Text) (h : start ≤ index)
    (hindex : index < grammar.length) : height grammar (index + 1) s < height grammar start s := by
  unfold height
  omega

end Parse

end Mixfix
