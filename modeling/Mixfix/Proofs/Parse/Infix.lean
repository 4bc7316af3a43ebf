import Mixfix.Grammar.Builtin
import Mixfix.Proofs.Parse.Atoms

/-!
# Infix operators

An infix rule matches its left operand first, at the next level. Rules of one level share that operand, so
once it is parsed each rule is told to fail by it (`Infix.Refuses`): the operand does not have the schema
that the rule requires, or the mark of the rule does not follow. `plain_infix` and `plain_infix_next` tell
what a parse from a level of infix rules gives, by its left operand alone.

A mark can begin another one, so what follows an operand is told apart from a mark by a front that neither
begins with the mark nor is the beginning of it (`Apart`). `Stops` says of a text that an operand ends
before it: neither its last word nor an operator of certain marks goes on.
-/

set_option autoImplicit false

namespace Mixfix

namespace Infix

/-- The node of an operator. -/
def node (op : Infix) (left right : Node) : Node :=
  .composite (txt op.name) (.str (txt op.schema)) [(txt "left", .node left), (txt "right", .node right)]

theorem assemble_rule (op : Infix) (left middle right : Node) (context : Context) :
    op.rule.assemble [left, middle, right] context = op.node left right := by
  have hschema : op.rule.resultSchema [(txt "left", .node left), (txt "right", .node right)] =
      .str (txt op.schema) := by
    simp [Rule.resultSchema, rule, inheritedSchema?]
  exact congrArg (Node.composite (txt op.name) · _) hschema

/-- A left operand and the text after it do not go with an operator. -/
def Refuses (op : Infix) (left : Match Node) : Prop :=
  meets op.required left.value = false ∨ Scan.const (txt op.mark) left.rest = none

end Infix

/-! ## Fronts -/

/-- Neither of a mark and a front is the beginning of the other. -/
def Apart (mark : String) (front : Text) : Prop :=
  ¬ txt mark <+: front ∧ ¬ front <+: txt mark

instance (mark : String) (front : Text) : Decidable (Apart mark front) :=
  inferInstanceAs (Decidable (_ ∧ _))

/-- A mark is not read where the front of the text is apart from it. -/
theorem Apart.const_eq_none {mark : String} {front s t : Text} (h : Apart mark front)
    (hs : s.trimStart = front ++ t) : Scan.const (txt mark) s = none := by
  refine Scan.const_eq_none.mpr fun rest hrest => ?_
  have hmark : txt mark <+: front ++ t := ⟨rest, by rw [← hrest, hs]⟩
  rcases List.prefix_or_prefix_of_prefix hmark (List.prefix_append front t) with hmark | hfront
  · exact h.1 hmark
  · exact h.2 hfront

/-- A text that an operand ends before: it goes on neither with a word nor with a number, and none of some
marks follows. -/
structure Stops (marks : List String) (rest : Text) : Prop where
  delimited : rest.Delimited
  quiet : ∀ mark ∈ marks, Scan.const (txt mark) rest = none

theorem Stops.mono {marks marks' : List String} {rest : Text} (h : Stops marks rest)
    (hsub : marks' ⊆ marks) : Stops marks' rest :=
  ⟨h.delimited, fun mark hmark => h.quiet mark (hsub hmark)⟩

/-- A delimited front that is apart from all marks stops them. -/
theorem stops_of_front {marks : List String} {front rest t : Text} (hrest : rest.trimStart = front ++ t)
    (hne : front ≠ []) (hdelimited : front.Delimited) (hapart : ∀ mark ∈ marks, Apart mark front) :
    Stops marks rest := by
  refine ⟨.of_trimStart ?_, fun mark hmark => (hapart mark hmark).const_eq_none hrest⟩
  rw [hrest]
  cases front with
  | nil => exact absurd rfl hne
  | cons c front => exact hdelimited

/-- The end of a text stops every mark. -/
theorem stops_of_isBlank {marks : List String} {rest : Text} (h : rest.isBlank = true)
    (hne : ∀ mark ∈ marks, txt mark ≠ []) : Stops marks rest := by
  have hnil := Text.trimStart_eq_nil_iff.mpr h
  refine ⟨.of_trimStart (by rw [hnil]; rfl), fun mark hmark => Scan.const_eq_none.mpr fun t ht => ?_⟩
  rw [hnil] at ht
  exact hne mark hmark (List.append_eq_nil_iff.mp ht.symm).1

namespace Parse

open Engine

variable {context : Context} {parse : Nat → Text → Except Interruption Found} {index : Nat} {s : Text}

/-- An infix rule matches a tighter operand, its mark and an operand that is not looser. -/
theorem matchRule_infix_eq_some {op : Infix} {r : Match Node} :
    matchRule plainHooks parse context index op.rule s = .ok (some r) ↔
      ∃ (left right : Match Node) (t : Text),
        parse (index + 1) s = .ok (some left) ∧ meets op.required left.value = true ∧
        left.rest.trimStart = txt op.mark ++ t ∧
        parse index t = .ok (some right) ∧ meets op.required right.value = true ∧
        r = ⟨op.node left.value right.value, right.rest⟩ := by
  constructor
  · intro h
    obtain ⟨matched, hall, rfl⟩ := matchRule_eq_some.mp h
    obtain ⟨left, others, hleft, hothers, rfl⟩ := matchElements_cons.mp hall
    obtain ⟨middle, others, hmiddle, hrest, rfl⟩ := matchElements_cons.mp hothers
    obtain ⟨right, others, hright, hnil, rfl⟩ := matchElements_cons.mp hrest
    rw [matchElements_nil.mp hnil]
    obtain ⟨hleft, hmeets⟩ := matchElement_subexpression.mp hleft
    obtain ⟨hright, hmeets'⟩ := matchElement_subexpression.mp hright
    obtain ⟨t, ht, rfl⟩ := matchElement_const_eq_some.mp hmiddle
    exact ⟨left, right, t, hleft, hmeets, ht, hright, hmeets', by rw [Infix.assemble_rule]⟩
  · rintro ⟨left, right, t, hleft, hmeets, ht, hright, hmeets', rfl⟩
    have hlast : matchElements plainHooks parse context index
        [⟨.subexpression .rhs op.required, some (txt "right")⟩] t =
          .ok (some ⟨[right.value], right.rest⟩) :=
      matchElements_cons.mpr ⟨right, ⟨[], right.rest⟩,
        matchElement_subexpression.mpr ⟨hright, hmeets'⟩, matchElements_nil.mpr rfl, rfl⟩
    have hmark : matchElements plainHooks parse context index
        [⟨.terminal (.const (txt op.mark)), none⟩, ⟨.subexpression .rhs op.required, some (txt "right")⟩]
        left.rest = .ok (some ⟨[Terminal.constNode (txt op.mark), right.value], right.rest⟩) :=
      matchElements_cons.mpr ⟨_, _, matchElement_const_eq_some.mpr ⟨t, ht, rfl⟩, hlast, rfl⟩
    have hoperand : matchElement plainHooks parse context index (.subexpression .lhs op.required) s =
        .ok (some left) := matchElement_subexpression.mpr ⟨hleft, hmeets⟩
    exact matchRule_eq_some.mpr
      ⟨_, matchElements_cons.mpr ⟨left, _, hoperand, hmark, rfl⟩, by rw [Infix.assemble_rule]⟩

/-- An infix rule does not match where its left operand does not go with the operator. -/
theorem matchRule_infix_none {op : Infix} {left : Match Node}
    (hleft : parse (index + 1) s = .ok (some left)) (h : op.Refuses left) :
    matchRule plainHooks parse context index op.rule s = .ok none := by
  cases hmeets : meets op.required left.value with
  | false => exact matchRule_none (matchElements_cons_none (matchElement_subexpression_none hleft hmeets))
  | true =>
    have hmark : Scan.const (txt op.mark) left.rest = none :=
      h.resolve_left fun hfalse => Bool.false_ne_true (hfalse.symm.trans hmeets)
    have hoperand : matchElement plainHooks parse context index (.subexpression .lhs op.required) s =
        .ok (some left) := matchElement_subexpression.mpr ⟨hleft, hmeets⟩
    exact matchRule_none (matchElements_cons_rest_none hoperand
      (matchElements_cons_none (matchElement_const_none hmark)))

variable {grammar : Grammar} {level : Level} {left : Match Node}

/-- A level of infix rules is passed over where the left operand goes with none of them. -/
theorem plain_infix_next (hlevel : grammar[index]? = some level)
    {ops : List Infix} (hrules : level.rules = ops.map Infix.rule)
    (hleft : plain grammar context (index + 1) s = .ok (some left))
    (hnone : ∀ op ∈ ops, op.Refuses left) : plain grammar context index s = .ok (some left) := by
  rw [plain_eq_next hlevel fun rule hrule => ?_, hleft]
  obtain ⟨op, hop, rfl⟩ := List.mem_map.mp (hrules ▸ hrule)
  exact matchRule_infix_none hleft (hnone op hop)

/-- A level of infix rules parses the operation whose mark follows its left operand. Marks of earlier
operators of the level are apart from this one, with what separates it from its right operand. -/
theorem plain_infix (hlevel : grammar[index]? = some level)
    {ops : List Infix} {op : Infix} {right : Match Node} (separator : Text) {t : Text}
    (hrules : level.rules = ops.map Infix.rule)
    (hapart : ops.Pairwise fun a b => Apart a.mark (txt b.mark ++ separator)) (hop : op ∈ ops)
    (hleft : plain grammar context (index + 1) s = .ok (some left))
    (hmeets : meets op.required left.value = true)
    (hmark : left.rest.trimStart = txt op.mark ++ (separator ++ t))
    (hright : plain grammar context index (separator ++ t) = .ok (some right))
    (hmeets' : meets op.required right.value = true) :
    plain grammar context index s = .ok (some ⟨op.node left.value right.value, right.rest⟩) := by
  obtain ⟨before, after, rfl⟩ := List.append_of_mem hop
  rw [List.map_append, List.map_cons] at hrules
  refine plain_eq_some hlevel hrules (fun rule hrule => ?_)
    (matchRule_infix_eq_some.mpr ⟨left, right, _, hleft, hmeets, hmark, hright, hmeets', rfl⟩)
  obtain ⟨op', hop', rfl⟩ := List.mem_map.mp hrule
  have hop'apart := (List.pairwise_append.mp hapart).2.2 op' hop' op List.mem_cons_self
  have hfront : left.rest.trimStart = (txt op.mark ++ separator) ++ t := by
    rw [hmark, List.append_assoc]
  exact matchRule_infix_none hleft (.inr (hop'apart.const_eq_none hfront))

end Parse

end Mixfix
