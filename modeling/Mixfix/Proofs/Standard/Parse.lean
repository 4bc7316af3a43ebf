import Mixfix.Proofs.Parse.Memory
import Mixfix.Proofs.Standard

/-!
# Trees of the small expression language are parsed back

A tree is parsed from its own level and from every earlier one, if the text after it stops the marks from
there on (`Tree.plain_eq`). At its own level its operands are told by the marks between them. From there
each looser level passes it on (`plain_step`), since none of its marks follows. The induction is on the
tree: an operand is a leaf or in parentheses, so it is parsed from all levels.
-/

set_option autoImplicit false

namespace Mixfix

namespace Standard

open Engine Parse

variable {context : Context} {s t u rest : Text}

theorem grammar_consuming : standardGrammar.Consuming :=
  admissible_standardRules.grammar_consuming solid_of_mem_standardRules build_standardRules

/-! ## Levels -/

theorem level_bounds {op : Infix} (h : op ∈ standardOperators) : 1 ≤ op.level ∧ op.level ≤ 5 := by
  revert op
  decide

theorem mem_operatorsAt {op : Infix} {index : Nat} :
    op ∈ operatorsAt index ↔ op ∈ standardOperators ∧ op.precedence = index := by
  simp [operatorsAt]

theorem mem_operatorsAt_level {op : Infix} (h : op ∈ standardOperators) : op ∈ operatorsAt op.level := by
  have hcast : ∀ op ∈ standardOperators, op.precedence = (op.level : Int) := by decide
  exact mem_operatorsAt.mpr ⟨h, hcast op h⟩

theorem level_of_mem_operatorsAt {op : Infix} {index : Nat} (h : op ∈ operatorsAt index) :
    op.level = index := by
  rw [Infix.level, (mem_operatorsAt.mp h).2, Int.toNat_natCast]

theorem getElem?_operators {index : Nat} (hlow : 1 ≤ index) (hhigh : index ≤ 5) :
    standardGrammar[index]? = some ⟨some index, (operatorsAt index).map Infix.rule⟩ := by
  obtain rfl | rfl | rfl | rfl | rfl : index = 1 ∨ index = 2 ∨ index = 3 ∨ index = 4 ∨ index = 5 := by
    omega
  all_goals rfl

theorem getElem?_conditional : standardGrammar[0]? = some ⟨some 0, [conditionalRule]⟩ := rfl

theorem getElem?_negation : standardGrammar[6]? = some ⟨some 6, [negationRule]⟩ := rfl

theorem getElem?_atoms : standardGrammar[7]? = some atomLevel := rfl

/-- The marks that an operand parsed from a level can go on with. -/
def marksFrom (start : Nat) : List String :=
  (if start = 0 then ["?"] else []) ++ (standardOperators.filter fun op => start ≤ op.level).map Infix.mark

theorem marksFrom_subset {start start' : Nat} (h : start ≤ start') : marksFrom start' ⊆ marksFrom start := by
  intro mark hmark
  rcases List.mem_append.mp hmark with hmark | hmark
  · have hstart : start = 0 := by
      by_contra hne
      have hne' : start' ≠ 0 := by omega
      rw [if_neg hne'] at hmark
      cases hmark
    have hstart' : start' = 0 := by
      by_contra hne'
      rw [if_neg hne'] at hmark
      cases hmark
    rw [hstart'] at hmark
    rw [hstart]
    exact List.mem_append_left _ hmark
  · obtain ⟨op, hop, rfl⟩ := List.mem_map.mp hmark
    obtain ⟨hop, hlevel⟩ := List.mem_filter.mp hop
    have hle : start ≤ op.level := Nat.le_trans h (of_decide_eq_true hlevel)
    exact List.mem_append_right _ (List.mem_map_of_mem (List.mem_filter.mpr ⟨hop, decide_eq_true hle⟩))

theorem mark_mem_marksFrom {op : Infix} (h : op ∈ standardOperators) {start : Nat}
    (hle : start ≤ op.level) :
    op.mark ∈ marksFrom start :=
  List.mem_append_right _ (List.mem_map_of_mem (List.mem_filter.mpr ⟨h, decide_eq_true hle⟩))

/-- The mark of an operator does not begin a later one of its level, with the space after it. -/
theorem pairwise_apart {index : Nat} (hlow : 1 ≤ index) (hhigh : index ≤ 5) :
    (operatorsAt index).Pairwise fun a b => Apart a.mark (txt b.mark ++ txt " ") := by
  obtain rfl | rfl | rfl | rfl | rfl : index = 1 ∨ index = 2 ∨ index = 3 ∨ index = 4 ∨ index = 5 := by
    omega
  all_goals decide

/-- A mark stands at the front behind a space, since it does not begin with one. -/
theorem trimStart_space_mark {mark : Text} (h : mark.begins (fun c => !c.isBlank) = true) (rest : Text) :
    (txt " " ++ (mark ++ rest)).trimStart = mark ++ rest := by
  rw [Text.trimStart_append_of_blank (by decide)]
  exact Text.trimStart_of_begins (fun c hc => by simpa using hc) (Text.begins_append h rest)

theorem begins_mark {op : Infix} (h : op ∈ standardOperators) :
    (txt op.mark).begins (fun c => !c.isBlank) = true := by
  revert op
  decide

/-- The mark of an operator stops the tighter ones. -/
theorem stops_of_mark {op : Infix} (h : op ∈ standardOperators) (rest : Text) :
    Stops (marksFrom (op.level + 1)) (txt " " ++ (txt op.mark ++ (txt " " ++ rest))) := by
  have hfront : (txt " " ++ (txt op.mark ++ (txt " " ++ rest))).trimStart =
      (txt op.mark ++ txt " ") ++ rest := by
    rw [trimStart_space_mark (begins_mark h), List.append_assoc]
  have hspec : ∀ op ∈ standardOperators, txt op.mark ++ txt " " ≠ [] ∧
      (txt op.mark ++ txt " ").Delimited ∧
      ∀ mark ∈ marksFrom (op.level + 1), Apart mark (txt op.mark ++ txt " ") := by decide
  obtain ⟨hne, hdelimited, hapart⟩ := hspec op h
  exact stops_of_front hfront hne hdelimited hapart

theorem stops_of_closing (rest : Text) : Stops (marksFrom 0) (txt " " ++ (txt ")" ++ rest)) :=
  stops_of_front (trimStart_space_mark (by decide) rest) (by decide) (by decide) (by decide)

theorem stops_of_colon (rest : Text) : Stops (marksFrom 0) (txt " " ++ (txt ":" ++ rest)) :=
  stops_of_front (trimStart_space_mark (by decide) rest) (by decide) (by decide) (by decide)

theorem stops_of_question (rest : Text) : Stops (marksFrom 1) (txt " " ++ (txt "?" ++ rest)) :=
  stops_of_front (trimStart_space_mark (by decide) rest) (by decide) (by decide) (by decide)

/-! ## The conditional -/

/-- A conditional is parsed where its condition is a boolean and both marks are there. -/
theorem plain_conditional {condition consequent otherwise : Match Node}
    (hcondition : plain standardGrammar context 1 s = .ok (some condition))
    (hboolean : condition.value.schema = .str (txt "boolean"))
    (hmark : condition.rest.trimStart = txt "?" ++ t)
    (hconsequent : plain standardGrammar context 0 t = .ok (some consequent))
    (hmark' : consequent.rest.trimStart = txt ":" ++ u)
    (hotherwise : plain standardGrammar context 0 u = .ok (some otherwise)) :
    plain standardGrammar context 0 s =
      .ok (some ⟨Tree.conditionalNode condition.value consequent.value otherwise.value,
        otherwise.rest⟩) := by
  have hbranch : matchElements plainHooks (plain standardGrammar context) context 0
      [⟨.terminal (.const (txt ":")), none⟩, ⟨.subexpression .expr none, some (txt "otherwise")⟩]
      consequent.rest =
        .ok (some ⟨[Terminal.constNode (txt ":"), otherwise.value], otherwise.rest⟩) :=
    matchElements_cons.mpr ⟨_, ⟨[otherwise.value], otherwise.rest⟩,
      matchElement_const_eq_some.mpr ⟨u, hmark', rfl⟩,
      matchElements_cons.mpr ⟨otherwise, _, matchElement_subexpression.mpr ⟨hotherwise, rfl⟩,
        matchElements_nil.mpr rfl, rfl⟩, rfl⟩
  have hbranches : matchElements plainHooks (plain standardGrammar context) context 0
      (conditionalRule.pattern.drop 1) condition.rest =
        .ok (some ⟨[Terminal.constNode (txt "?"), consequent.value,
          Terminal.constNode (txt ":"), otherwise.value], otherwise.rest⟩) :=
    matchElements_cons.mpr ⟨_, ⟨[consequent.value, Terminal.constNode (txt ":"), otherwise.value], _⟩,
      matchElement_const_eq_some.mpr ⟨t, hmark, rfl⟩,
      matchElements_cons.mpr ⟨consequent, _, matchElement_subexpression.mpr ⟨hconsequent, rfl⟩,
        hbranch, rfl⟩, rfl⟩
  have hoperand : matchElement plainHooks (plain standardGrammar context) context 0
      (.subexpression .lhs (some (txt "boolean"))) s = .ok (some condition) :=
    matchElement_subexpression.mpr ⟨hcondition, meets_of_schema hboolean⟩
  refine plain_eq_some getElem?_conditional (List.nil_append _).symm
    (List.forall_mem_nil _) ?_
  exact matchRule_eq_some.mpr ⟨_, matchElements_cons.mpr ⟨condition, _, hoperand, hbranches, rfl⟩, rfl⟩

/-- Without its mark there is no conditional. -/
theorem plain_conditional_next {condition : Match Node}
    (hcondition : plain standardGrammar context 1 s = .ok (some condition))
    (hmark : Scan.const (txt "?") condition.rest = none) :
    plain standardGrammar context 0 s = .ok (some condition) := by
  rw [plain_eq_next getElem?_conditional, hcondition]
  refine List.forall_mem_singleton.mpr ?_
  cases hmeets : meets (some (txt "boolean")) condition.value with
  | false =>
    exact matchRule_none (matchElements_cons_none (matchElement_subexpression_none hcondition hmeets))
  | true =>
    have hoperand : matchElement plainHooks (plain standardGrammar context) context 0
        (.subexpression .lhs (some (txt "boolean"))) s = .ok (some condition) :=
      matchElement_subexpression.mpr ⟨hcondition, hmeets⟩
    exact matchRule_none (matchElements_cons_rest_none hoperand
      (matchElements_cons_none (matchElement_const_none hmark)))

/-! ## The negation -/

/-- A negation is parsed where its mark is there and its operand is a boolean. -/
theorem plain_negation {operand : Match Node} (hmark : s.trimStart = txt "!" ++ t)
    (hoperand : plain standardGrammar context 6 t = .ok (some operand))
    (hboolean : operand.value.schema = .str (txt "boolean")) :
    plain standardGrammar context 6 s =
      .ok (some ⟨Tree.negationNode operand.value, operand.rest⟩) := by
  have helement : matchElement plainHooks (plain standardGrammar context) context 6
      (.subexpression .rhs (some (txt "boolean"))) t = .ok (some operand) :=
    matchElement_subexpression.mpr ⟨hoperand, meets_of_schema hboolean⟩
  refine plain_eq_some getElem?_negation (List.nil_append _).symm
    (List.forall_mem_nil _) ?_
  exact matchRule_eq_some.mpr ⟨⟨[Terminal.constNode (txt "!"), operand.value], operand.rest⟩,
    matchElements_cons.mpr ⟨_, ⟨[operand.value], operand.rest⟩,
      matchElement_const_eq_some.mpr ⟨t, hmark, rfl⟩,
      matchElements_cons.mpr ⟨operand, _, helement, matchElements_nil.mpr rfl, rfl⟩, rfl⟩, rfl⟩

/-- Without its mark there is no negation. -/
theorem plain_negation_next (hmark : Scan.const (txt "!") s = none) :
    plain standardGrammar context 6 s = plain standardGrammar context 7 s :=
  plain_eq_next getElem?_negation
    (List.forall_mem_singleton.mpr
      (matchRule_none (matchElements_cons_none (matchElement_const_none hmark))))

/-! ## Looser levels -/

/-- A level passes on what was parsed from the next one, if none of its marks follows. The level of
negation looks at the front of the text instead. -/
theorem plain_step {start : Nat} {r : Match Node} (hstart : start ≤ 6)
    (h : plain standardGrammar context (start + 1) s = .ok (some r))
    (hstops : Stops (marksFrom start) r.rest) (hmark : start = 6 → Scan.const (txt "!") s = none) :
    plain standardGrammar context start s = .ok (some r) := by
  obtain rfl | rfl | ⟨hlow, hhigh⟩ : start = 0 ∨ start = 6 ∨ 1 ≤ start ∧ start ≤ 5 := by omega
  · exact plain_conditional_next h (hstops.quiet "?" List.mem_cons_self)
  · rw [plain_negation_next (hmark rfl), h]
  · refine plain_infix_next (getElem?_operators hlow hhigh) rfl h fun op hop => .inr ?_
    have hlevel := Nat.le_of_eq (level_of_mem_operatorsAt hop).symm
    exact hstops.quiet op.mark (mark_mem_marksFrom (mem_operatorsAt.mp hop).1 hlevel)

/-- What was parsed from a level is parsed from all earlier ones, if none of their marks follows. -/
theorem plain_descend {start index : Nat} {r : Match Node} (hle : start ≤ index) (hindex : index ≤ 7)
    (h : plain standardGrammar context index s = .ok (some r)) (hstops : Stops (marksFrom start) r.rest)
    (hmark : index = 7 → Scan.const (txt "!") s = none) :
    plain standardGrammar context start s = .ok (some r) := by
  induction hle with
  | refl => exact h
  | @step index hle ih =>
    have hstep := plain_step (by omega) h (hstops.mono (marksFrom_subset hle)) fun hsix => hmark (by omega)
    exact ih (by omega) hstep fun hseven => absurd hseven (by omega)

/-! ## Trees -/

/-- The level that a tree is parsed at. -/
def Tree.level : Tree → Nat
  | leaf _ | grouped _ => 7
  | negation _ => 6
  | binary op _ _ => op.level
  | conditional _ _ _ => 0

theorem Tree.level_of_isOperand {tree : Tree} (h : tree.isOperand = true) : tree.level = 7 := by
  cases tree with
  | leaf | grouped => rfl
  | binary | negation | conditional => cases h

/-- **A well-typed tree is parsed** from its level and from all earlier ones, where its text stands and
what follows stops their marks. -/
theorem Tree.plain_eq {tree : Tree} (hwell : tree.WellTyped context) {start : Nat}
    (hstart : start ≤ tree.level) (hs : s.trimStart = tree.text ++ rest) (hstops : Stops (marksFrom start) rest) :
    plain standardGrammar context start s = .ok (some ⟨tree.node context, rest⟩) := by
  induction tree generalizing start s rest with
  | leaf leaf =>
    have hleaf : plain standardGrammar context 7 s = _ :=
      plain_leaf getElem?_atoms leaf hs hstops.delimited
    exact plain_descend hstart (Nat.le_refl 7) hleaf hstops fun _ => Tree.const_mark_eq_none rfl hs
  | grouped inner ih =>
    have hopen : s.trimStart =
        txt "(" ++ (txt " " ++ (inner.text ++ (txt " " ++ (txt ")" ++ rest)))) := by
      rw [hs, Tree.text_grouped]
      simp only [List.append_assoc]
    have hinner := ih hwell (Nat.zero_le _) (inner.trimStart_space_text _) (stops_of_closing rest)
    have hgrouped := plain_parentheses getElem?_atoms hopen hinner
      (trimStart_space_mark (by decide) rest)
    exact plain_descend hstart (Nat.le_refl 7) hgrouped hstops fun _ => Tree.const_mark_eq_none rfl hs
  | negation operand ih =>
    obtain ⟨hoperand, hwell, hschema⟩ := hwell
    have hmark : s.trimStart = txt "!" ++ (txt " " ++ (operand.text ++ rest)) := by
      rw [hs, Tree.text_negation]
      simp only [List.append_assoc]
    have hlevel := Tree.level_of_isOperand hoperand
    have hinner : plain standardGrammar context 6 _ = _ :=
      ih hwell (by omega) (operand.trimStart_space_text rest) (hstops.mono (marksFrom_subset hstart))
    have hnegation := plain_negation hmark hinner hschema
    exact plain_descend hstart (Nat.le_succ 6) hnegation hstops fun h => by cases h
  | binary op left right ihl ihr =>
    obtain ⟨hop, hleft, hright, hwellLeft, hwellRight, hschemas⟩ := hwell
    obtain ⟨hlow, hhigh⟩ := level_bounds hop
    have hfront : s.trimStart =
        left.text ++ (txt " " ++ (txt op.mark ++ (txt " " ++ (right.text ++ rest)))) := by
      rw [hs, Tree.text_binary]
      simp only [List.append_assoc]
    have hlevelLeft := Tree.level_of_isOperand hleft
    have hlevelRight := Tree.level_of_isOperand hright
    have hl : plain standardGrammar context (op.level + 1) s = _ :=
      ihl hwellLeft (by omega) hfront (stops_of_mark hop _)
    have hr : plain standardGrammar context op.level _ = _ :=
      ihr hwellRight (by omega) (right.trimStart_space_text rest) (hstops.mono (marksFrom_subset hstart))
    have hmeets : meets op.required (left.node context) = true :=
      meets_eq_true_iff.mpr fun required hrequired => (hschemas required hrequired).1
    have hmeets' : meets op.required (right.node context) = true :=
      meets_eq_true_iff.mpr fun required hrequired => (hschemas required hrequired).2
    have hbinary := plain_infix (getElem?_operators hlow hhigh) (txt " ") rfl
      (pairwise_apart hlow hhigh) (mem_operatorsAt_level hop) hl hmeets
      (trimStart_space_mark (begins_mark hop) _) hr hmeets'
    have hle : start ≤ op.level := hstart
    have hseven : op.level ≠ 7 := by omega
    exact plain_descend hle (by omega) hbinary hstops fun h => absurd h hseven
  | conditional condition consequent otherwise ihc iht iho =>
    obtain ⟨hoperand, hwell, hschema, hwellConsequent, hwellOtherwise⟩ := hwell
    obtain rfl : start = 0 := Nat.le_zero.mp hstart
    have hfront : s.trimStart = condition.text ++ (txt " " ++ (txt "?" ++ (txt " " ++
        (consequent.text ++ (txt " " ++ (txt ":" ++ (txt " " ++ (otherwise.text ++ rest)))))))) := by
      rw [hs, Tree.text_conditional]
      simp only [List.append_assoc]
    have hlevel := Tree.level_of_isOperand hoperand
    have hcondition : plain standardGrammar context 1 s = _ :=
      ihc hwell (by omega) hfront (stops_of_question _)
    have hconsequent := iht hwellConsequent (Nat.zero_le _) (consequent.trimStart_space_text _)
      (stops_of_colon (txt " " ++ (otherwise.text ++ rest)))
    have hotherwise := iho hwellOtherwise (Nat.zero_le _) (otherwise.trimStart_space_text rest) hstops
    exact plain_conditional hcondition hschema (trimStart_space_mark (by decide) _) hconsequent
      (trimStart_space_mark (by decide) _) hotherwise

/-- A well-typed tree is parsed from its text by a plain parse. -/
theorem Tree.plain_text {tree : Tree} (hwell : tree.WellTyped context) :
    plain standardGrammar context 0 tree.text = .ok (some ⟨tree.node context, []⟩) := by
  have hend : Stops (marksFrom 0) [] := stops_of_isBlank rfl (by decide)
  have hs : tree.text.trimStart = tree.text ++ [] := by
    rw [← tree.trimStart_text [], List.append_nil]
  exact tree.plain_eq hwell (Nat.zero_le _) hs hend

/-- **Every well-typed tree is parsed back** from its text, with nothing left. -/
theorem parse_text {grammar : Grammar} (hbuild : Grammar.build standardRules = .ok grammar)
    (context : Context) {tree : Tree} (hwell : tree.WellTyped context) :
    grammar.parse context tree.text = .ok (some ⟨tree.node context, []⟩) := by
  obtain rfl : standardGrammar = grammar := Except.ok.inj (build_standardRules.symm.trans hbuild)
  have hend : Stops (marksFrom 0) [] := stops_of_isBlank rfl (by decide)
  have hs : tree.text.trimStart = tree.text ++ [] := by
    rw [← tree.trimStart_text [], List.append_nil]
  unfold Grammar.parse
  rw [untracked_eq_plain]
  exact tree.plain_eq hwell (Nat.zero_le _) hs hend

/-- A conditional on a comparison in parentheses, between a string and a product. -/
theorem parse_text_conditional :
    ∃ tree : Tree, tree.WellTyped [(txt "x", txt "number")] ∧
      tree.text = txt "( x < 3 ) ? \"no\" : 3 * x" ∧
      standardGrammar.parse [(txt "x", txt "number")] tree.text =
        .ok (some ⟨tree.node [(txt "x", txt "number")], []⟩) := by
  let x : Leaf := .identifier (txt "x") ⟨by decide, by decide⟩ fun k => by cases k <;> decide
  let three : Leaf := .number ⟨false, txt "3", [], by decide, by decide, rfl⟩ (by decide)
  let no : Leaf := .string '"' (txt "no") (by decide)
    (.plain (by decide) (by decide) (.plain (by decide) (by decide) .nil))
  let lt : Infix := ⟨"lt", "<", 3, some (txt "number"), "boolean", Value.compareWith .lt⟩
  let mul : Infix := ⟨"mul", "*", 5, some (txt "number"), "number", Value.mul⟩
  let tree : Tree := .conditional (.grouped (.binary lt (.leaf x) (.leaf three))) (.leaf no)
    (.binary mul (.leaf three) (.leaf x))
  let context : Context := [(txt "x", txt "number")]
  have hlt : lt ∈ standardOperators := by simp [standardOperators, lt]
  have hmul : mul ∈ standardOperators := by simp [standardOperators, products, mul]
  have hx : (x.node context).schema = .str (txt "number") := rfl
  have hschemas : ∀ required, some (txt "number") = some required →
      (x.node context).schema = .str required ∧ (three.node context).schema = .str required := by
    rintro required ⟨⟩
    exact ⟨hx, rfl⟩
  have hcondition : (parenthesesNode (lt.node (x.node context) (three.node context))).schema =
      .str (txt "boolean") := schema_parenthesesNode (by decide) rfl
  have hwell : tree.WellTyped context :=
    ⟨rfl, ⟨hlt, rfl, rfl, trivial, trivial, hschemas⟩, hcondition, trivial, hmul, rfl, rfl, trivial, trivial,
      fun required hrequired => (hschemas required hrequired).symm⟩
  exact ⟨tree, hwell, by decide, parse_text build_standardRules context hwell⟩

end Standard

end Mixfix
