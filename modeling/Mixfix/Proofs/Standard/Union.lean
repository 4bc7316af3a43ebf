import Mixfix.Proofs.Standard.Parse
import Mixfix.Proofs.Standard.Typed

/-!
# Unions of nested conditionals

A conditional has the union of the schemas of its two branches, and a branch may be a conditional again. So the
union of a tree of conditionals is made of unions, one level at a time. `Standard.Choice` is such a tree with
the types of its branches, and `Standard.Shows` says that a node is one.

The members of the union are the types of all branches (`Standard.Choice.mem_members`). They ascend without
repetition exactly if, at every conditional, its two branches have the same types or those of one all come
before those of the other (`Standard.union_canonical_iff`). Two branches that share only some of their types
give a union that names these twice (`Standard.not_canonical_of_shared`).
-/

set_option autoImplicit false

namespace Mixfix

namespace Text

/-- A text that comes before another one without being the beginning of it does so whatever follows. -/
theorem append_lt_append {s t : Text} (hlt : s < t) (hbegins : ¬ s <+: t) (u v : Text) : s ++ u < t ++ v := by
  induction s generalizing t with
  | nil => exact absurd (List.nil_prefix) hbegins
  | cons c s ih =>
    cases t with
    | nil => exact absurd hlt (List.not_lt_nil _)
    | cons d t =>
      rw [List.cons_append, List.cons_append, List.cons_lt_cons_iff]
      rcases List.cons_lt_cons_iff.mp hlt with hcd | ⟨rfl, hst⟩
      · exact .inl hcd
      · refine .inr ⟨rfl, ih hst ?_⟩
        intro hst'
        exact hbegins (List.cons_prefix_cons.mpr ⟨rfl, hst'⟩)

/-- A union begins with its first member. -/
theorem exists_members_eq_cons (schema : Text) :
    ∃ first rest tail, schema.members = first :: rest ∧ schema = first ++ tail := by
  obtain ⟨first, rest, hmembers⟩ := List.exists_cons_of_ne_nil (splitFrom_ne_nil 0 schema)
  have hjoin : join (txt " | ") schema.members = schema := join_split (by decide) schema
  rw [members, split, hmembers] at hjoin
  by_cases hrest : rest = []
  · subst hrest
    exact ⟨first, [], [], hmembers, by simp [← hjoin, join]⟩
  · rw [join_cons _ _ hrest] at hjoin
    exact ⟨first, rest, _, hmembers, hjoin.symm⟩

end Text

namespace Primitive

/-- Unions are ordered as their first members are, where these are different primitive types. -/
theorem append_lt_append {p q : Primitive} (h : p.text < q.text) (u v : Text) : p.text ++ u < q.text ++ v := by
  apply Text.append_lt_append h
  revert h
  cases p <;> cases q <;> decide

end Primitive

namespace Standard

/-! ## Trees of conditionals -/

/-- Conditionals in each other's branches, down to the types of the branches that are none. -/
inductive Choice
  | branch (type : Primitive)
  | choose (consequent otherwise : Choice)

namespace Choice

/-- The names of the types of all branches, from left to right. -/
def words : Choice → List Text
  | branch type => [type.text]
  | choose consequent otherwise => consequent.words ++ otherwise.words

/-- The schema of a tree of conditionals: at each of them the union of those of its two branches. -/
def schema : Choice → Text
  | branch type => type.text
  | choose consequent otherwise => joinSchemas [consequent.schema, otherwise.schema]

/-- The types of all branches as one union, in ascending order and each once. -/
def canonical (c : Choice) : Text :=
  Text.join (txt " | ") (Text.sortedSet c.words)

/-- The types of one choice all come before those of another. -/
def Before (c d : Choice) : Prop :=
  ∀ s ∈ c.words, ∀ t ∈ d.words, s < t

/-- At every conditional the two branches have the same types, or those of one all come before those of the
other. -/
def Aligned : Choice → Prop
  | branch _ => True
  | choose consequent otherwise =>
    consequent.Aligned ∧ otherwise.Aligned ∧
      ((∀ word, word ∈ consequent.words ↔ word ∈ otherwise.words) ∨
        consequent.Before otherwise ∨ otherwise.Before consequent)

variable {c d : Choice}

theorem exists_type_of_mem_words {word : Text} (h : word ∈ c.words) : ∃ type : Primitive, type.text = word := by
  induction c with
  | branch type => exact ⟨type, (List.mem_singleton.mp h).symm⟩
  | choose consequent otherwise ihc iho =>
    rcases List.mem_append.mp h with h | h
    · exact ihc h
    · exact iho h

theorem words_ne_nil (c : Choice) : c.words ≠ [] := by
  induction c with
  | branch type => exact List.cons_ne_nil _ _
  | choose consequent otherwise ihc _ => exact List.append_ne_nil_of_left_ne_nil ihc _

/-! ## Schemas of choices -/

theorem isUnion_schema (c : Choice) : Primitive.IsUnion c.schema := by
  induction c with
  | branch type => exact type.isUnion_text
  | choose consequent otherwise ihc iho =>
    have hne : Text.sortedSet [consequent.schema, otherwise.schema] ≠ [] :=
      List.ne_nil_of_mem (Text.mem_sortedSet.mpr List.mem_cons_self)
    apply Primitive.isUnion_join hne
    intro schema hschema
    rcases List.mem_pair.mp (Text.mem_sortedSet.mp hschema) with rfl | rfl
    · exact ihc
    · exact iho

/-- The members of the smaller schema come first, and those of equal ones come once. -/
theorem members_choose (c d : Choice) :
    (choose c d).schema.members =
      if c.schema < d.schema then c.schema.members ++ d.schema.members
      else if c.schema = d.schema then d.schema.members
      else d.schema.members ++ c.schema.members := by
  have hne : Text.sortedSet [c.schema, d.schema] ≠ [] :=
    List.ne_nil_of_mem (Text.mem_sortedSet.mpr List.mem_cons_self)
  have hunion : ∀ schema ∈ Text.sortedSet [c.schema, d.schema], Primitive.IsUnion schema := by
    intro schema hschema
    rcases List.mem_pair.mp (Text.mem_sortedSet.mp hschema) with rfl | rfl
    · exact c.isUnion_schema
    · exact d.isUnion_schema
  have hmembers : (choose c d).schema.members = (Text.sortedSet [c.schema, d.schema]).flatMap Text.members :=
    Primitive.members_join hne hunion
  have hsorted : Text.sortedSet [c.schema, d.schema] =
      if c.schema < d.schema then [c.schema, d.schema]
      else if c.schema = d.schema then [d.schema] else [d.schema, c.schema] := rfl
  rw [hmembers, hsorted]
  split
  · simp
  · split
    · simp
    · simp

/-- **The members of the schema are the types of the branches.** -/
theorem mem_members {word : Text} : word ∈ c.schema.members ↔ word ∈ c.words := by
  induction c with
  | branch type => rw [schema, Primitive.members_text, words]
  | choose consequent otherwise ihc iho =>
    rw [members_choose, words, List.mem_append, ← ihc, ← iho]
    split
    · rw [List.mem_append]
    · split
      · rename_i heq
        rw [heq, or_self]
      · rw [List.mem_append, or_comm]

/-- The schema is in canonical form exactly if its members ascend. -/
theorem schema_eq_canonical_iff : c.schema = c.canonical ↔ c.schema.members.Pairwise (· < ·) := by
  have hcanonical : c.canonical.members = Text.sortedSet c.words := by
    have hne : Text.sortedSet c.words ≠ [] := by
      obtain ⟨s, hs⟩ := List.exists_mem_of_ne_nil _ c.words_ne_nil
      exact List.ne_nil_of_mem (Text.mem_sortedSet.mpr hs)
    apply Text.members_join hne
    intro word hword
    obtain ⟨type, rfl⟩ := exists_type_of_mem_words (Text.mem_sortedSet.mp hword)
    exact type.not_bar_mem_text
  constructor
  · intro h
    rw [h, hcanonical]
    exact Text.pairwise_sortedSet c.words
  · intro h
    have hmembers : c.schema.members = Text.sortedSet c.words := by
      apply Text.eq_of_pairwise h (Text.pairwise_sortedSet c.words)
      intro word
      rw [mem_members, Text.mem_sortedSet]
    calc c.schema = Text.join (txt " | ") c.schema.members := (Text.join_split (by decide) c.schema).symm
      _ = c.canonical := by rw [hmembers, canonical]

/-- A choice whose types all come before those of another has the smaller schema. -/
theorem Before.schema_lt (h : c.Before d) : c.schema < d.schema := by
  obtain ⟨s, _, u, hs, hc⟩ := Text.exists_members_eq_cons c.schema
  obtain ⟨t, _, v, ht, hd⟩ := Text.exists_members_eq_cons d.schema
  have hs' : s ∈ c.words := mem_members.mp (hs ▸ List.mem_cons_self)
  have ht' : t ∈ d.words := mem_members.mp (ht ▸ List.mem_cons_self)
  have hlt := h s hs' t ht'
  obtain ⟨p, rfl⟩ := exists_type_of_mem_words hs'
  obtain ⟨q, rfl⟩ := exists_type_of_mem_words ht'
  rw [hc, hd]
  exact Primitive.append_lt_append hlt u v

/-- Choices of the same types have the same schema, if the members of each ascend. -/
theorem schema_eq_of_words (hc : c.schema.members.Pairwise (· < ·)) (hd : d.schema.members.Pairwise (· < ·))
    (h : ∀ word, word ∈ c.words ↔ word ∈ d.words) : c.schema = d.schema := by
  have hmembers : c.schema.members = d.schema.members := by
    apply Text.eq_of_pairwise hc hd
    intro word
    rw [mem_members, mem_members, h]
  calc c.schema = Text.join (txt " | ") c.schema.members := (Text.join_split (by decide) c.schema).symm
    _ = Text.join (txt " | ") d.schema.members := by rw [hmembers]
    _ = d.schema := Text.join_split (by decide) d.schema

/-- The members of a choice and of one with a greater schema ascend one after the other if each do and the types of
the first come before those of the second. That is all that is left of the three ways to be aligned. -/
theorem pairwise_append_iff (hlt : c.schema < d.schema) :
    (c.schema.members ++ d.schema.members).Pairwise (· < ·) ↔
      c.schema.members.Pairwise (· < ·) ∧ d.schema.members.Pairwise (· < ·) ∧
        ((∀ word, word ∈ c.words ↔ word ∈ d.words) ∨ c.Before d ∨ d.Before c) := by
  have happend : (c.schema.members ++ d.schema.members).Pairwise (· < ·) ↔
      c.schema.members.Pairwise (· < ·) ∧ d.schema.members.Pairwise (· < ·) ∧ c.Before d := by
    rw [List.pairwise_append]
    simp only [mem_members, Before]
  rw [happend]
  refine and_congr_right fun hc => and_congr_right fun hd => ?_
  constructor
  · intro hbefore
    exact .inr (.inl hbefore)
  · rintro (hsame | hbefore | hbefore)
    · exact absurd (schema_eq_of_words hc hd hsame ▸ hlt) (List.lt_irrefl _)
    · exact hbefore
    · exact absurd hbefore.schema_lt (List.lt_asymm hlt)

/-- **The members ascend exactly if the branches are aligned.** -/
theorem pairwise_members_iff : c.schema.members.Pairwise (· < ·) ↔ c.Aligned := by
  induction c with
  | branch type =>
    rw [schema, Primitive.members_text, Aligned]
    exact iff_true_intro (List.pairwise_singleton _ _)
  | choose c d ihc ihd =>
    rw [members_choose, Aligned, ← ihc, ← ihd]
    by_cases hlt : c.schema < d.schema
    · rw [if_pos hlt, pairwise_append_iff hlt]
    · rw [if_neg hlt]
      by_cases heq : c.schema = d.schema
      · rw [if_pos heq]
        constructor
        · intro hd
          refine ⟨heq ▸ hd, hd, .inl fun word => ?_⟩
          rw [← mem_members, ← mem_members, heq]
        · intro h
          exact h.2.1
      · rw [if_neg heq, pairwise_append_iff (Text.lt_of_not_lt_of_ne hlt heq)]
        constructor
        · rintro ⟨hd, hc, hsame | hbefore | hbefore⟩
          · exact ⟨hc, hd, .inl fun word => (hsame word).symm⟩
          · exact ⟨hc, hd, .inr (.inr hbefore)⟩
          · exact ⟨hc, hd, .inr (.inl hbefore)⟩
        · rintro ⟨hc, hd, hsame | hbefore | hbefore⟩
          · exact ⟨hd, hc, .inl fun word => (hsame word).symm⟩
          · exact ⟨hd, hc, .inr (.inr hbefore)⟩
          · exact ⟨hd, hc, .inr (.inl hbefore)⟩

end Choice

/-! ## Nodes of conditionals -/

/-- A node is a tree of conditionals, each of them in parentheses or not, whose other branches have primitive
types. -/
inductive Shows : Node → Choice → Prop
  | branch {node : Node} {type : Primitive} : node.kind ≠ txt "ternary" → node.kind ≠ txt "parentheses" →
      node.schema = .str type.text → Shows node (.branch type)
  | parentheses {inner : Node} {schema : Value} {c : Choice} : Shows inner c →
      Shows (.composite (txt "parentheses") schema [(txt "inner", .node inner)]) c
  | conditional {condition consequent otherwise : Node} {schema : Value} {c d : Choice} : Shows consequent c →
      Shows otherwise d →
      Shows (.composite (txt "ternary") schema (conditionalFields condition consequent otherwise)) (.choose c d)

section

variable {grammar : Grammar} {context : Context} {s rest : Text} {tree node : Node} {c : Choice}

/-- The union of two schemas that say something is prescribed for a conditional of them. -/
theorem schema_of_conditional {condition consequent otherwise : Node} {schema : Value} {first second : Text}
    (h : (ResultType.union ["then", "otherwise"]).Prescribes
      (conditionalFields condition consequent otherwise) schema)
    (hfirst : consequent.schema = .str first) (hsecond : otherwise.schema = .str second)
    (hunion : Primitive.IsUnion first) (hunion' : Primitive.IsUnion second) :
    schema = .str (joinSchemas [first, second]) := by
  have hmem : ∀ s, (s ≠ [] ∧ s ≠ unknownSchema ∧ ∃ name ∈ [txt "then", txt "otherwise"], ∃ child,
      (name, .node child) ∈ conditionalFields condition consequent otherwise ∧ child.schema = .str s) ↔
      s ∈ [first, second] := by
    intro s
    constructor
    · rintro ⟨-, -, name, hname, child, hchild, hschema⟩
      rcases Typed.mem_conditionalFields.mp ⟨name, hname, hchild⟩ with rfl | rfl
      · rw [hfirst] at hschema
        simp [Value.str.inj hschema]
      · rw [hsecond] at hschema
        simp [Value.str.inj hschema]
    · intro hs
      rcases List.mem_pair.mp hs with rfl | rfl
      · obtain ⟨name, hname, hchild⟩ := Typed.mem_conditionalFields.mpr (.inl rfl)
        exact ⟨hunion.ne_nil, hunion.ne_unknown, name, hname, _, hchild, hfirst⟩
      · obtain ⟨name, hname, hchild⟩ := Typed.mem_conditionalFields.mpr (.inr rfl)
        exact ⟨hunion'.ne_nil, hunion'.ne_unknown, name, hname, _, hchild, hsecond⟩
  cases h with
  | unknownUnion hnone =>
    obtain ⟨name, hname, hchild⟩ := Typed.mem_conditionalFields.mpr (.inl rfl)
    rcases hnone name hname _ hchild first hfirst with hempty | hunknown
    · exact absurd hempty hunion.ne_nil
    · exact absurd hunknown hunion.ne_unknown
  | @union _ schemas _ hsorted hschemas =>
    have heq : schemas = Text.sortedSet [first, second] := by
      apply Text.eq_of_pairwise hsorted (Text.pairwise_sortedSet _)
      intro s
      rw [hschemas, Text.mem_sortedSet]
      exact hmem s
    rw [heq]
    rfl

/-- The schema of a tree of conditionals whose composites are explained. -/
theorem Shows.schema_eq (h : Shows node c)
    (hexplained : ∀ name schema fields, Node.Within (.composite name schema fields) node →
      standardGrammar.Explains standardRules name schema fields) :
    node.schema = .str c.schema := by
  induction h with
  | branch _ _ hschema => exact hschema
  | @parentheses inner schema c _ ih =>
    have hinner : inner.schema = .str c.schema := by
      apply ih
      intro name schema' fields hwithin
      exact hexplained name schema' fields (.field List.mem_cons_self hwithin)
    have htruthy : inner.schema.truthy = true := by
      rw [hinner]
      simpa [Value.truthy] using c.isUnion_schema.ne_nil
    rcases hexplained _ _ _ (.root _) with ⟨-, index, hcomposes⟩ | ⟨rule, hrule, hname, -⟩
    · have hschema := hcomposes.schema.eq_of_unknown
      rw [if_pos htruthy, hinner] at hschema
      exact hschema
    · have hne : ∀ rule ∈ standardRules, rule.name ≠ txt "parentheses" := by decide
      exact absurd hname (hne rule hrule)
  | @conditional condition consequent otherwise schema c d _ _ ihc ihd =>
    have hconsequent : consequent.schema = .str c.schema := by
      apply ihc
      intro name schema' fields hwithin
      exact hexplained name schema' fields (hwithin.trans (Typed.consequent_within _ _ _ _))
    have hotherwise : otherwise.schema = .str d.schema := by
      apply ihd
      intro name schema' fields hwithin
      exact hexplained name schema' fields (hwithin.trans (Typed.otherwise_within _ _ _ _))
    rcases hexplained _ _ _ (.root _) with ⟨hname, -⟩ | ⟨rule, -, -, honly, index, -, hcomposes⟩
    · exact absurd hname (by decide)
    · obtain rfl : conditionalRule = rule := honly conditionalRule (mem_standardRules.mpr (.inl rfl)) rfl
      exact schema_of_conditional hcomposes.schema hconsequent hotherwise c.isUnion_schema d.isUnion_schema

/-- **The union of a tree of conditionals names the types of all branches**, wherever the tree stands in a parsed
text. It is in canonical form exactly if the branches are aligned. -/
theorem union_canonical_iff (hbuild : Grammar.build standardRules = .ok grammar)
    (hparse : grammar.parse context s = .ok (some ⟨tree, rest⟩)) (hwithin : node.Within tree)
    (hshows : Shows node c) :
    ∃ schema, node.schema = .str schema ∧ (∀ word, word ∈ schema.members ↔ word ∈ c.words) ∧
      (schema = Text.join (txt " | ") (Text.sortedSet c.words) ↔ c.Aligned) := by
  obtain rfl : standardGrammar = grammar := Except.ok.inj (build_standardRules.symm.trans hbuild)
  rw [Parse.parse_eq_plain] at hparse
  have hschema : node.schema = .str c.schema := by
    apply hshows.schema_eq
    intro name schema fields hcomposite
    exact (proper_of_plain hparse).explained name schema fields (hcomposite.trans hwithin)
  refine ⟨c.schema, hschema, fun word => Choice.mem_members, ?_⟩
  exact Choice.schema_eq_canonical_iff.trans Choice.pairwise_members_iff

end

/-- The keyword of truth as a condition. -/
private def yes : Tree := .leaf (.keyword .true)

/-- A branch whose type is known shows it. -/
private theorem Shows.leaf {leaf : Leaf} {type : Primitive} {context : Context}
    (h : (leaf.node context).schema = .str type.text) (hkind : (leaf.node context).kind = txt "literal") :
    Shows (leaf.node context) (.branch type) := by
  apply Shows.branch _ _ h
  · rw [hkind]
    decide
  · rw [hkind]
    decide

/-- The types in the parentheses come before the one outside. -/
theorem union_canonical_iff_grouped :
    ∃ tree c, standardGrammar.parse [] (txt "true ? ( true ? null : true ) : 1") = .ok (some ⟨tree, []⟩) ∧
      Shows tree c ∧ tree.schema = .str (Text.join (txt " | ") (Text.sortedSet c.words)) := by
  let one : Tree := .leaf (.number ⟨false, txt "1", [], by decide, by decide, rfl⟩ (by decide))
  let choice : Tree := .conditional yes (.grouped (.conditional yes (.leaf (.keyword .null)) yes)) one
  let c : Choice := .choose (.choose (.branch .null) (.branch .boolean)) (.branch .number)
  have hparse : standardGrammar.parse [] (txt "true ? ( true ? null : true ) : 1") =
      .ok (some ⟨choice.node [], []⟩) := by
    have htext : txt "true ? ( true ? null : true ) : 1" = choice.text := by decide
    rw [htext, Parse.parse_eq_plain]
    exact Tree.plain_text ⟨rfl, trivial, rfl, ⟨rfl, trivial, rfl, trivial, trivial⟩, trivial⟩
  have hshows : Shows (choice.node []) c :=
    .conditional (.parentheses (.conditional (.leaf rfl rfl) (.leaf rfl rfl))) (.leaf rfl rfl)
  have haligned : c.Aligned := by
    have hinner : (Choice.branch .boolean).Before (.branch .null) := by
      unfold Choice.Before
      decide
    have houter : (Choice.choose (.branch .null) (.branch .boolean)).Before (.branch .number) := by
      unfold Choice.Before
      decide
    exact ⟨⟨trivial, trivial, .inr (.inr hinner)⟩, trivial, .inr (.inl houter)⟩
  obtain ⟨schema, hschema, -, hcanonical⟩ := union_canonical_iff build_standardRules hparse (.root _) hshows
  refine ⟨choice.node [], c, hparse, hshows, ?_⟩
  rw [hschema, hcanonical.mpr haligned]

/-- A type that both branches of a conditional share is named twice, where one of them has another type, too. -/
theorem not_canonical_of_shared :
    ∃ tree c, standardGrammar.parse [] (txt "true ? 1 : true ? 1 : null") = .ok (some ⟨tree, []⟩) ∧
      Shows tree c ∧ tree.schema = .str (txt "null | number | number") ∧
      tree.schema ≠ .str (Text.join (txt " | ") (Text.sortedSet c.words)) := by
  let one : Tree := .leaf (.number ⟨false, txt "1", [], by decide, by decide, rfl⟩ (by decide))
  let choice : Tree := .conditional yes one (.conditional yes one (.leaf (.keyword .null)))
  let c : Choice := .choose (.branch .number) (.choose (.branch .number) (.branch .null))
  have hparse : standardGrammar.parse [] (txt "true ? 1 : true ? 1 : null") = .ok (some ⟨choice.node [], []⟩) := by
    have htext : txt "true ? 1 : true ? 1 : null" = choice.text := by decide
    rw [htext, Parse.parse_eq_plain]
    exact Tree.plain_text ⟨rfl, trivial, rfl, trivial, rfl, trivial, rfl, trivial, trivial⟩
  have hshows : Shows (choice.node []) c :=
    .conditional (.leaf rfl rfl) (.conditional (.leaf rfl rfl) (.leaf rfl rfl))
  have hschema : (choice.node []).schema = .str (txt "null | number | number") := rfl
  refine ⟨choice.node [], c, hparse, hshows, hschema, ?_⟩
  rw [hschema]
  intro h
  exact absurd (Value.str.inj h) (by decide)

end Standard

end Mixfix
