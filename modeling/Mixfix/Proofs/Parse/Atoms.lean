import Mathlib.Data.List.Infix
import Mixfix.Proofs.Parse.Forward
import Mixfix.Proofs.Token.Front

/-!
# Parsing atoms

The last level of every grammar tries one terminal after the other and parentheses at the end. Where a
leaf stands, the terminals before the one of the leaf refuse the text by its front, so the parse from the
last level gives the leaf (`plain_leaf`). The same holds of parentheses (`plain_parentheses`). Conversely,
every match of the level is one of parentheses, or of a terminal where those before it refuse
(`atoms_eq_some`), and what a terminal matches is one of five kinds of tokens (`Terminal.Matches`).
-/

set_option autoImplicit false

namespace Mixfix

/-! ## Leaves -/

/-- The schema of a keyword's literal. -/
def Keyword.schema : Keyword → Text
  | .null => txt "null"
  | .true | .false => txt "boolean"
  | .undefined => txt "undefined"

/-- What a leaf of a tree is written as: a number whose value can be told, a string between two marks, a
keyword, or a name that is no keyword. -/
inductive Leaf
  | number (n : Numeral) (readable : n.isReadable = true)
  | string (mark : CodePoint) (raw : Text) (quotes : [mark] ∈ stringMarks) (quoted : Scan.Quoted mark raw)
  | keyword (k : Keyword)
  | identifier (name : Text) (isName : Scan.IsName name) (free : ∀ k : Keyword, name ≠ k.text)

namespace Leaf

/-- The text of a leaf. -/
def text : Leaf → Text
  | number n _ => n.text
  | string mark raw _ _ => mark :: (raw ++ [mark])
  | keyword k => k.text
  | identifier name _ _ => name

/-- The node of a leaf. An identifier has the schema that the context declares for it. -/
def node (context : Context) : Leaf → Node
  | number n _ => .literal n.text n.value (.str (txt "number"))
  | string _ raw _ _ => .literal raw (.str raw.decodeEscapes) (.str (txt "string"))
  | keyword k => .literal k.text k.value (.str k.schema)
  | identifier name _ _ => .identifier name (.str (Terminal.declaredSchema context name))

end Leaf

/-- A text that no word and no number goes on with. -/
def Text.Delimited (s : Text) : Prop :=
  s.begins (fun c => c.continuesIdentifier || c == '.') = false

instance (s : Text) : Decidable s.Delimited :=
  inferInstanceAs (Decidable (_ = false))

namespace Text.Delimited

variable {s : Text}

theorem not_continues (h : s.Delimited) : s.begins CodePoint.continuesIdentifier = false := by
  cases s with
  | nil => rfl
  | cons c s => exact (Bool.or_eq_false_iff.mp h).1

theorem not_point (h : s.Delimited) : s.begins (· == '.') = false := by
  cases s with
  | nil => rfl
  | cons c s => exact (Bool.or_eq_false_iff.mp h).2

theorem not_digit (h : s.Delimited) : s.begins CodePoint.isDigit = false := by
  have hcontinues := h.not_continues
  cases s with
  | nil => rfl
  | cons c s => exact (Bool.or_eq_false_iff.mp hcontinues).2

/-- No blank goes on with a word or a number, so blanks before a delimited text change nothing. -/
theorem of_trimStart (h : s.trimStart.Delimited) : s.Delimited := by
  cases s with
  | nil => rfl
  | cons c s =>
    cases hc : c.isBlank with
    | false => rwa [Text.trimStart_cons_of_not_blank hc] at h
    | true =>
      have hpoint : ¬ c = '.' := by
        rintro rfl
        exact absurd hc (by decide)
      show (c.continuesIdentifier || c == '.') = false
      rw [CodePoint.not_continues_of_isBlank hc, Bool.false_or]
      simpa using hpoint

/-- A numeral stops at a delimited text. -/
theorem stopsAt (h : s.Delimited) (n : Numeral) : n.StopsAt s :=
  ⟨h.not_digit, fun _ => Scan.fraction?_eq_none_of_point h.not_point⟩

theorem swallowPoint_eq (h : s.Delimited) : Scan.swallowPoint s = s := by
  rcases Scan.swallowPoint_cases s with ⟨hrest, -⟩ | ⟨hs, -⟩
  · exact hrest
  · have hpoint := h.not_point
    rw [hs] at hpoint
    cases hpoint

end Text.Delimited

/-- The node of parentheses: it has the schema of what is inside, unless that is empty. -/
def parenthesesNode (inner : Node) : Node :=
  .composite (txt "parentheses") (if inner.schema.truthy then inner.schema else .str unknownSchema)
    [(txt "inner", .node inner)]

/-- Parentheses have the schema of what is in them. -/
theorem schema_parenthesesNode {inner : Node} {schema : Text} (hne : schema ≠ [])
    (h : inner.schema = .str schema) : (parenthesesNode inner).schema = .str schema := by
  have htruthy : (Value.str schema).truthy = true := by simpa [Value.truthy] using hne
  rw [← h] at htruthy ⊢
  exact if_pos htruthy

/-- A value that does not count as true is no text but the empty one. -/
theorem Value.isText_of_not_truthy {value : Value} {s : Text} (h : value.truthy = false) (hs : s ≠ []) :
    value.isText s = false := by
  cases value with
  | str t =>
    have ht : t = [] := by simpa [Value.truthy] using h
    simpa [Value.isText, ht] using hs.symm
  | _ => rfl

/-- Parentheses meet what the node inside of them meets. -/
theorem meets_parenthesesNode {required : Text} (hne : required ≠ []) (hknown : required ≠ unknownSchema)
    (inner : Node) : meets (some required) (parenthesesNode inner) = meets (some required) inner := by
  change Value.isText required (if inner.schema.truthy then inner.schema else .str unknownSchema) =
    Value.isText required inner.schema
  cases htruthy : inner.schema.truthy with
  | true => rfl
  | false =>
    rw [Value.isText_of_not_truthy htruthy hne]
    simpa [Value.isText] using hknown.symm

/-! ## Terminals -/

namespace Terminal

variable {context : Context} {s rest : Text}

/-- A number, and the point after it that no digit follows. -/
theorem match?_number {n : Numeral} {tail : Text} (hs : s.trimStart = n.text ++ tail)
    (hstop : n.StopsAt tail) (hreadable : n.isReadable = true) :
    match? context s .number =
      .ok (some ⟨.literal n.text n.value (.str (txt "number")), Scan.swallowPoint tail⟩) := by
  have hvalue := Scan.numberValue_eq_ok.mpr ⟨hreadable, rfl⟩
  rw [match?, Scan.number_eq_ok_some.mpr ⟨n, tail, n.value, hs, hstop, hvalue, rfl⟩]
  rfl

theorem match?_number_none (h : s.trimStart.begins CodePoint.startsNumber = false) :
    match? context s .number = .ok none := by
  rw [match?, Scan.number_of_begins h]
  rfl

theorem match?_string_none {marks : List Text}
    (h : ∀ mark ∈ marks, ∀ rest : Text, s.trimStart ≠ mark ++ rest) :
    match? context s (.string marks) = .ok none := by
  rw [match?, Scan.string_of_begins h]
  rfl

theorem match?_string_none_of_begins
    (h : s.trimStart.begins (fun c => c == '"' || c == '\'') = false) :
    match? context s (.string stringMarks) = .ok none := by
  refine match?_string_none fun mark hmark rest heq => ?_
  simp only [stringMarks, List.mem_cons, List.not_mem_nil, or_false] at hmark
  rw [heq] at h
  rcases hmark with rfl | rfl
  · exact absurd h (by simp [Text.ofString])
  · exact absurd h (by simp [Text.ofString])

/-- A string between two marks of one code point. -/
theorem match?_string {mark : CodePoint} {raw : Text} (hmark : [mark] ∈ stringMarks)
    (hraw : Scan.Quoted mark raw) (hs : s.trimStart = mark :: (raw ++ mark :: rest)) :
    match? context s (.string stringMarks) =
      .ok (some ⟨.literal raw (.str raw.decodeEscapes) (.str (txt "string")), rest⟩) := by
  rw [match?, Scan.string_of_quoted hmark hraw hs]
  rfl

/-- The terminal of a keyword. -/
def ofKeyword : Keyword → Terminal
  | .null => .null
  | .true | .false => .boolean
  | .undefined => .undefined

theorem match?_keyword {k : Keyword} (hs : s.trimStart = k.text ++ rest)
    (hrest : rest.begins CodePoint.continuesIdentifier = false) :
    match? context s (ofKeyword k) =
      .ok (some ⟨.literal k.text k.value (.str k.schema), rest⟩) := by
  have hword := Scan.keyword_eq_some.mpr ⟨rest, hs, hrest, rfl⟩
  cases k with
  | null | undefined | true =>
    simp only [ofKeyword, match?, hword]
    rfl
  | false =>
    have hother : Scan.keyword .true s = none :=
      Scan.keyword_of_name (Scan.isName_keyword .false) hs hrest (by decide)
    simp only [ofKeyword, match?, hother, hword]
    rfl

/-- The terminal of a keyword refuses where none of its keywords stands. -/
theorem match?_ofKeyword_none {k : Keyword}
    (h : ∀ k', ofKeyword k' = ofKeyword k → Scan.keyword k' s = none) :
    match? context s (ofKeyword k) = .ok none := by
  cases k with
  | null =>
    rw [ofKeyword, match?, h .null rfl]
    rfl
  | true | false =>
    rw [ofKeyword, match?, h .true rfl, h .false rfl]
    rfl
  | undefined =>
    rw [ofKeyword, match?, h .undefined rfl]
    rfl

/-- What a terminal makes of the front of a text: a node, and what it leaves. -/
inductive Matches (context : Context) (s : Text) : Terminal → Match Node → Prop
  | number (n : Numeral) {tail : Text} : n.isReadable = true → s.trimStart = n.text ++ tail → n.StopsAt tail →
      Matches context s .number ⟨.literal n.text n.value (.str (txt "number")), Scan.swallowPoint tail⟩
  | string {marks : List Text} {mark body raw rest : Text} : mark ∈ marks → s.trimStart = mark ++ body →
      Scan.splitAtMark? mark body = some (raw, rest) →
      Matches context s (.string marks) ⟨.literal raw (.str raw.decodeEscapes) (.str (txt "string")), rest⟩
  | keyword (k : Keyword) {rest : Text} : s.trimStart = k.text ++ rest →
      rest.begins CodePoint.continuesIdentifier = false →
      Matches context s (ofKeyword k) ⟨.literal k.text k.value (.str k.schema), rest⟩
  | identifier {name rest : Text} : Scan.IsName name → s.trimStart = name ++ rest →
      rest.begins CodePoint.continuesIdentifier = false →
      Matches context s .identifier ⟨.identifier name (.str (declaredSchema context name)), rest⟩
  | const (value : Text) {rest : Text} : s.trimStart = value ++ rest →
      Matches context s (.const value) ⟨constNode value, rest⟩

theorem matches_keyword {k : Keyword} {token : Token} (h : Scan.keyword k s = some token) :
    (ofKeyword k).Matches context s (literal k.schema token) := by
  obtain ⟨rest, hs, hrest, rfl⟩ := Scan.keyword_eq_some.mp h
  exact .keyword k hs hrest

/-- **What terminals match.** -/
theorem matches_of_match? {t : Terminal} {r : Match Node} (h : t.match? context s = .ok (some r)) :
    t.Matches context s r := by
  cases t with
  | number =>
    obtain ⟨found, hnumber, h⟩ := bind_eq_ok.mp h
    obtain ⟨token, rfl, rfl⟩ := Option.map_eq_some_iff.mp (Except.ok.inj h)
    obtain ⟨n, tail, value, hs, hstop, hvalue, rfl⟩ := Scan.number_eq_ok_some.mp hnumber
    obtain ⟨hreadable, rfl⟩ := Scan.numberValue_eq_ok.mp hvalue
    exact .number n hreadable hs hstop
  | string marks =>
    obtain ⟨token, hstring, rfl⟩ := Option.map_eq_some_iff.mp (Except.ok.inj h)
    obtain ⟨⟨mark, body⟩, hopen, hstring⟩ := Option.bind_eq_some_iff.mp hstring
    obtain ⟨⟨raw, rest⟩, hsplit, hstring⟩ := Option.bind_eq_some_iff.mp hstring
    cases hstring
    obtain ⟨hmark, -, hs⟩ := Scan.openingMark?_append hopen
    exact .string hmark hs hsplit
  | identifier =>
    obtain ⟨token, htoken, rfl⟩ := Option.map_eq_some_iff.mp (Except.ok.inj h)
    obtain ⟨name, rest, hname, hs, hrest, rfl⟩ := Scan.identifier_eq_some.mp htoken
    exact .identifier hname hs hrest
  | const value =>
    obtain ⟨rest, hs, rfl⟩ := match?_const.mp h
    exact .const value hs
  | null =>
    obtain ⟨token, htoken, rfl⟩ := Option.map_eq_some_iff.mp (Except.ok.inj h)
    exact matches_keyword htoken
  | boolean =>
    obtain ⟨token, htoken, rfl⟩ := Option.map_eq_some_iff.mp (Except.ok.inj h)
    rcases Option.or_eq_some_iff.mp htoken with htrue | ⟨-, hfalse⟩
    · exact matches_keyword htrue
    · exact matches_keyword hfalse
  | undefined =>
    obtain ⟨token, htoken, rfl⟩ := Option.map_eq_some_iff.mp (Except.ok.inj h)
    exact matches_keyword htoken

/-- Where the terminals of the keywords refuse, no keyword stands. -/
theorem keyword_none_of_match? (hnull : match? context s .null = .ok none)
    (hboolean : match? context s .boolean = .ok none)
    (hundefined : match? context s .undefined = .ok none) (k : Keyword) : Scan.keyword k s = none := by
  obtain ⟨htrue, hfalse⟩ := Option.or_eq_none_iff.mp (Option.map_eq_none_iff.mp (Except.ok.inj hboolean))
  cases k with
  | null => exact Option.map_eq_none_iff.mp (Except.ok.inj hnull)
  | true => exact htrue
  | false => exact hfalse
  | undefined => exact Option.map_eq_none_iff.mp (Except.ok.inj hundefined)

theorem match?_identifier {name : Text} (hname : Scan.IsName name) (hs : s.trimStart = name ++ rest)
    (hrest : rest.begins CodePoint.continuesIdentifier = false) :
    match? context s .identifier =
      .ok (some ⟨.identifier name (.str (declaredSchema context name)), rest⟩) := by
  rw [match?, Scan.identifier_eq_some.mpr ⟨name, rest, hname, hs, hrest, rfl⟩]
  rfl

theorem match?_identifier_none (h : s.trimStart.begins CodePoint.startsIdentifier = false) :
    match? context s .identifier = .ok none := by
  rw [match?, Scan.identifier_of_begins h]
  rfl

/-- Where a name stands there is neither a number nor a string. -/
theorem refuse_of_isName (context : Context) {name : Text} (hname : Scan.IsName name)
    (hs : s.trimStart = name ++ rest) :
    match? context s .number = .ok none ∧ match? context s (.string stringMarks) = .ok none := by
  cases name with
  | nil => exact absurd rfl hname.ne_nil
  | cons c name =>
    obtain ⟨hnumber, hdouble, hsingle⟩ := CodePoint.ne_of_startsIdentifier hname.1
    rw [List.cons_append] at hs
    refine ⟨match?_number_none ?_, match?_string_none_of_begins ?_⟩
    · rw [hs, Text.begins_cons, hnumber]
    · simp [hs, hdouble, hsingle]

end Terminal

namespace Parse

open Engine

variable {grammar : Grammar} {context : Context} {last : Nat} {s : Text}

/-- The terminals of the atoms in order. -/
def atomTerminals : List Terminal :=
  [.number, .string stringMarks, .null, .boolean, .undefined, .identifier]

/-- The rules of the atoms are one for each terminal and the rule of parentheses. -/
theorem atomRules_eq : ∃ lone, atomRules = lone ++ [parenthesesRule] ∧
    lone.map Rule.pattern = atomTerminals.map fun t => [⟨.terminal t, none⟩] :=
  ⟨atomRules.take 6, rfl, rfl⟩

/-- A terminal of the last level that matches decides, if those before it do not. -/
theorem plain_terminal (hlast : grammar[last]? = some atomLevel)
    (before : List Terminal) {t : Terminal} {r : Match Node}
    (hfront : before ++ [t] <+: atomTerminals)
    (hnone : ∀ t ∈ before, t.match? context s = .ok none) (ht : t.match? context s = .ok (some r)) :
    plain grammar context last s = .ok (some r) := by
  obtain ⟨after, hsplit⟩ := hfront
  rw [List.append_assoc, List.singleton_append] at hsplit
  obtain ⟨lone, hrules, hpatterns⟩ := atomRules_eq
  rw [← hsplit, List.map_append, List.map_cons] at hpatterns
  obtain ⟨first, others, rfl, hfirst, hothers⟩ := List.map_eq_append_iff.mp hpatterns
  obtain ⟨rule, others, rfl, hrule, -⟩ := List.map_eq_cons_iff.mp hothers
  rw [List.append_assoc, List.cons_append] at hrules
  refine plain_eq_some hlast hrules (fun r hr => ?_) ((matchRule_lone hrule).mpr ht)
  obtain ⟨t', ht', hpattern⟩ := List.mem_map.mp (hfirst ▸ List.mem_map_of_mem hr)
  exact (matchRule_lone hpattern.symm).mpr (hnone t' ht')

/-- Parentheses are matched where no terminal is. -/
theorem plain_of_terminals_none (hlast : grammar[last]? = some atomLevel)
    {r : Match Node} (hnone : ∀ t ∈ atomTerminals, t.match? context s = .ok none)
    (hrule : attemptRule grammar context last parenthesesRule s = .ok (some r)) :
    plain grammar context last s = .ok (some r) := by
  obtain ⟨lone, hrules, hpatterns⟩ := atomRules_eq
  refine plain_eq_some hlast hrules (fun r hr => ?_) hrule
  obtain ⟨t, ht, hpattern⟩ := List.mem_map.mp (hpatterns ▸ List.mem_map_of_mem hr)
  exact (matchRule_lone hpattern.symm).mpr (hnone t ht)

/-- The terminals of words in order. -/
def wordTerminals : List Terminal :=
  [.null, .boolean, .undefined, .identifier]

/-- A terminal of words decides where a name stands, if those before it refuse. -/
theorem plain_word (hlast : grammar[last]? = some atomLevel)
    {name rest : Text} (hname : Scan.IsName name) (hs : s.trimStart = name ++ rest)
    (before : List Terminal) {t : Terminal} {r : Match Node} (hfront : before ++ [t] <+: wordTerminals)
    (hnone : ∀ t ∈ before, t.match? context s = .ok none) (ht : t.match? context s = .ok (some r)) :
    plain grammar context last s = .ok (some r) := by
  obtain ⟨hnumber, hstring⟩ := Terminal.refuse_of_isName context hname hs
  have hfront' : (.number :: .string stringMarks :: before) ++ [t] <+: atomTerminals :=
    List.cons_prefix_cons.mpr ⟨rfl, List.cons_prefix_cons.mpr ⟨rfl, hfront⟩⟩
  exact plain_terminal hlast _ hfront'
    (List.forall_mem_cons.mpr ⟨hnumber, List.forall_mem_cons.mpr ⟨hstring, hnone⟩⟩) ht

/-- A keyword is parsed where it stands as a word. -/
theorem plain_keyword (hlast : grammar[last]? = some atomLevel) (k : Keyword)
    {rest : Text} (hs : s.trimStart = k.text ++ rest)
    (hrest : rest.begins CodePoint.continuesIdentifier = false) :
    plain grammar context last s = .ok (some ⟨.literal k.text k.value (.str k.schema), rest⟩) := by
  have hname := Scan.isName_keyword k
  have hother : ∀ k', Terminal.ofKeyword k' ≠ .ofKeyword k →
      Terminal.match? context s (.ofKeyword k') = .ok none := by
    intro k' hne
    refine Terminal.match?_ofKeyword_none fun k'' heq => ?_
    refine Scan.keyword_of_name hname hs hrest fun htext => hne ?_
    rw [← heq, Keyword.text_injective htext]
  have hmatch : Terminal.match? context s (.ofKeyword k) = _ := Terminal.match?_keyword hs hrest
  cases k with
  | null => exact plain_word hlast hname hs [] (by decide) (List.forall_mem_nil _) hmatch
  | true | false =>
    exact plain_word hlast hname hs [.null] (by decide)
      (List.forall_mem_singleton.mpr (hother .null (by decide))) hmatch
  | undefined =>
    exact plain_word hlast hname hs [.null, .boolean] (by decide)
      (List.forall_mem_cons.mpr ⟨hother .null (by decide),
        List.forall_mem_singleton.mpr (hother .true (by decide))⟩) hmatch

/-- A leaf is parsed where its text stands and does not go on. -/
theorem plain_leaf (hlast : grammar[last]? = some atomLevel) (leaf : Leaf)
    {rest : Text} (hs : s.trimStart = leaf.text ++ rest) (hrest : rest.Delimited) :
    plain grammar context last s = .ok (some ⟨leaf.node context, rest⟩) := by
  cases leaf with
  | number n readable =>
    have hmatch : Terminal.match? context s .number = _ :=
      Terminal.match?_number hs (hrest.stopsAt n) readable
    rw [hrest.swallowPoint_eq] at hmatch
    exact plain_terminal hlast [] (by decide) (List.forall_mem_nil _) hmatch
  | string mark raw quotes quoted =>
    have hopens : s.trimStart = mark :: (raw ++ mark :: rest) := by simpa [Leaf.text] using hs
    have hnumber : Terminal.match? context s .number = .ok none := by
      refine Terminal.match?_number_none ?_
      rw [hopens]
      rcases Scan.mem_stringMarks.mp quotes with rfl | rfl
      · rfl
      · rfl
    exact plain_terminal hlast [.number] (by decide) (List.forall_mem_singleton.mpr hnumber)
      (Terminal.match?_string quotes quoted hopens)
  | keyword k => exact plain_keyword hlast k hs hrest.not_continues
  | identifier name isName free =>
    have hother : ∀ k, Terminal.match? context s (.ofKeyword k) = .ok none := fun k =>
      Terminal.match?_ofKeyword_none fun k' _ =>
        Scan.keyword_of_name isName hs hrest.not_continues (free k')
    exact plain_word hlast isName hs [.null, .boolean, .undefined] (by decide)
      (List.forall_mem_cons.mpr ⟨hother .null, List.forall_mem_cons.mpr ⟨hother .true,
        List.forall_mem_singleton.mpr (hother .undefined)⟩⟩)
      (Terminal.match?_identifier isName hs hrest.not_continues)

/-! ## Parentheses -/

theorem assemble_parenthesesRule (opening inner closing : Node) (context : Context) :
    parenthesesRule.assemble [opening, inner, closing] context = parenthesesNode inner := by
  have hschema : parenthesesRule.resultSchema [(txt "inner", .node inner)] =
      if inner.schema.truthy then inner.schema else .str unknownSchema := by
    have hinherited : inheritedSchema? [(txt "inner", .node inner)] =
        if inner.schema.truthy then some inner.schema else none := rfl
    rw [Rule.resultSchema, parenthesesRule]
    dsimp only
    rw [if_pos (beq_self_eq_true _), hinherited]
    split
    · rfl
    · rfl
  exact congrArg (Node.composite (txt "parentheses") · _) hschema

/-- The rule of parentheses matches anything between them. -/
theorem matchRule_parentheses_eq_some {parse : Nat → Text → Except Interruption Found} {index : Nat}
    {r : Match Node} :
    matchRule plainHooks parse context index parenthesesRule s = .ok (some r) ↔
      ∃ (t rest : Text) (inner : Match Node), s.trimStart = txt "(" ++ t ∧
        parse 0 t = .ok (some inner) ∧ inner.rest.trimStart = txt ")" ++ rest ∧
        r = ⟨parenthesesNode inner.value, rest⟩ := by
  constructor
  · intro h
    obtain ⟨matched, hall, rfl⟩ := matchRule_eq_some.mp h
    obtain ⟨opening, others, hopening, hothers, rfl⟩ := matchElements_cons.mp hall
    obtain ⟨inner, others, hinner, hrest, rfl⟩ := matchElements_cons.mp hothers
    obtain ⟨closing, others, hclosing, hnil, rfl⟩ := matchElements_cons.mp hrest
    rw [matchElements_nil.mp hnil]
    obtain ⟨t, hs, rfl⟩ := matchElement_const_eq_some.mp hopening
    obtain ⟨rest, hclose, rfl⟩ := matchElement_const_eq_some.mp hclosing
    exact ⟨t, rest, inner, hs, (matchElement_subexpression.mp hinner).1, hclose,
      by rw [assemble_parenthesesRule]⟩
  · rintro ⟨t, rest, inner, hs, hinner, hrest, rfl⟩
    have hclosing : matchElements plainHooks parse context index
        [⟨.terminal (.const (txt ")")), none⟩] inner.rest =
          .ok (some ⟨[Terminal.constNode (txt ")")], rest⟩) :=
      matchElements_cons.mpr ⟨_, ⟨[], rest⟩, matchElement_const_eq_some.mpr ⟨rest, hrest, rfl⟩,
        matchElements_nil.mpr rfl, rfl⟩
    have hinside : matchElements plainHooks parse context index
        [⟨.subexpression .expr none, some (txt "inner")⟩, ⟨.terminal (.const (txt ")")), none⟩] t =
          .ok (some ⟨[inner.value, Terminal.constNode (txt ")")], rest⟩) :=
      matchElements_cons.mpr ⟨inner, _, matchElement_subexpression.mpr ⟨hinner, rfl⟩, hclosing, rfl⟩
    exact matchRule_eq_some.mpr ⟨_, matchElements_cons.mpr ⟨_, _,
      matchElement_const_eq_some.mpr ⟨t, hs, rfl⟩, hinside, rfl⟩, by rw [assemble_parenthesesRule]⟩

/-- No terminal of the atoms reads a parenthesis. -/
theorem atomTerminals_refuse_parenthesis {t : Text} (hs : s.trimStart = txt "(" ++ t) :
    ∀ terminal ∈ atomTerminals, terminal.match? context s = .ok none := by
  have hopening : s.trimStart = CodePoint.ofChar '(' :: t := hs
  have hword : s.trimStart.begins CodePoint.startsIdentifier = false := by
    rw [hopening]
    rfl
  have hother : ∀ k, Terminal.match? context s (.ofKeyword k) = .ok none := fun k =>
    Terminal.match?_ofKeyword_none fun k' _ => Scan.keyword_of_begins k' hword
  intro terminal hterminal
  simp only [atomTerminals, List.mem_cons, List.not_mem_nil, or_false] at hterminal
  rcases hterminal with rfl | rfl | rfl | rfl | rfl | rfl
  · exact Terminal.match?_number_none (by rw [hopening]; rfl)
  · exact Terminal.match?_string_none_of_begins (by rw [hopening]; rfl)
  · exact hother .null
  · exact hother .true
  · exact hother .undefined
  · exact Terminal.match?_identifier_none hword

/-- Parentheses are parsed at the last level, whatever is inside. -/
theorem plain_parentheses (hlast : grammar[last]? = some atomLevel)
    {t rest : Text} {inner : Match Node} (hs : s.trimStart = txt "(" ++ t)
    (hinner : plain grammar context 0 t = .ok (some inner))
    (hrest : inner.rest.trimStart = txt ")" ++ rest) :
    plain grammar context last s = .ok (some ⟨parenthesesNode inner.value, rest⟩) := by
  exact plain_of_terminals_none hlast (atomTerminals_refuse_parenthesis hs)
    (matchRule_parentheses_eq_some.mpr ⟨t, rest, inner, hs, hinner, hrest, rfl⟩)

/-! ## Inversion -/

/-- Every match of the atoms is one of a terminal, where those before it refuse the text, or one of
parentheses. -/
theorem atoms_eq_some {parse : Nat → Text → Except Interruption Found} {r : Match Node}
    (h : firstSome (fun (index, rule) => matchRule plainHooks parse context index rule s)
      (atomRules.map fun rule => (last, rule)) = .ok (some r)) :
    (∃ before t, before ++ [t] <+: atomTerminals ∧ (∀ t ∈ before, t.match? context s = .ok none) ∧
      t.match? context s = .ok (some r)) ∨
    ∃ (t rest : Text) (inner : Match Node), s.trimStart = txt "(" ++ t ∧
      parse 0 t = .ok (some inner) ∧ inner.rest.trimStart = txt ")" ++ rest ∧
      r = ⟨parenthesesNode inner.value, rest⟩ := by
  obtain ⟨lone, hrules, hpatterns⟩ := atomRules_eq
  rw [hrules, List.map_append] at h
  rcases firstSome_append_eq_some h with h | ⟨-, h⟩
  · left
    obtain ⟨before, candidate, after, hsplit, hbefore, hrule⟩ := firstSome_eq_some.mp h
    obtain ⟨first, others, rfl, rfl, hothers⟩ := List.map_eq_append_iff.mp hsplit
    obtain ⟨rule, others, rfl, rfl, -⟩ := List.map_eq_cons_iff.mp hothers
    rw [List.map_append, List.map_cons] at hpatterns
    obtain ⟨terminals, more, hterminals, hfirst, hmore⟩ := List.map_eq_append_iff.mp hpatterns.symm
    obtain ⟨t, after, rfl, hpattern, -⟩ := List.map_eq_cons_iff.mp hmore
    have hfront : terminals ++ [t] <+: atomTerminals := ⟨after, by rw [hterminals, List.append_assoc]; rfl⟩
    refine ⟨terminals, t, hfront, fun t' ht' => ?_, (matchRule_lone hpattern.symm).mp hrule⟩
    obtain ⟨rule', hrule', hpattern'⟩ := List.mem_map.mp (hfirst ▸ List.mem_map_of_mem ht')
    exact (matchRule_lone hpattern').mp (hbefore _ (List.mem_map_of_mem hrule'))
  · right
    obtain ⟨found, hrule, h⟩ := bind_eq_ok.mp h
    cases found with
    | none => cases h
    | some result =>
      cases h
      exact matchRule_parentheses_eq_some.mp hrule

/-- Where the terminal of identifiers is tried among the atoms, no keyword stands. -/
theorem keyword_none_of_atoms {before : List Terminal} (hfront : before ++ [.identifier] <+: atomTerminals)
    (hnone : ∀ t ∈ before, t.match? context s = .ok none) (k : Keyword) : Scan.keyword k s = none := by
  have horder : ∀ front ∈ atomTerminals.inits, front.getLast? = some .identifier →
      Terminal.null ∈ front.dropLast ∧ .boolean ∈ front.dropLast ∧ .undefined ∈ front.dropLast := by
    decide
  obtain ⟨hnull, hboolean, hundefined⟩ :=
    horder _ ((List.mem_inits _ _).mpr hfront) List.getLast?_concat
  rw [List.dropLast_concat] at hnull hboolean hundefined
  exact Terminal.keyword_none_of_match? (hnone _ hnull) (hnone _ hboolean) (hnone _ hundefined) k

end Parse

end Mixfix
