import Mixfix.Proofs.Eval.Parsed
import Mixfix.Proofs.Json.Roundtrip
import Mixfix.Proofs.Token.Front
import Mixfix.Proofs.Tree.Document

/-!
# Parsed trees, there and back

A tree that was parsed comes back from plain data and from JSON (`Tree.parsed_roundtrip`), if no rule binds an
element to a name that is taken.

`Node.Scanned` says what the leaves of a parsed tree are, and `Node.Parsed` what is made of them. Neither has a value
that a JSON text could not tell apart: there are only integers that can be written, and no double is a NaN.
-/

set_option autoImplicit false

namespace Mixfix

open Mixfix.Tree (isReserved)

/-! ## What is parsed -/

/-- A leaf as a terminal makes it. Integers are not too long, doubles are numbers or infinite, and undefined is the
value of its own schema. -/
inductive Node.Scanned : Node → Prop
  | int {raw schema : Text} {n : Int} : Decimal.digitCount (Decimal.ofInt n) ≤ Decimal.digitLimit →
      Scanned (.literal raw (.int n) (.str schema))
  | float {raw schema : Text} {x : Float} : Binary64.form x ≠ .nan → Scanned (.literal raw (.float x) (.str schema))
  | str (raw schema s : Text) : Scanned (.literal raw (.str s) (.str schema))
  | null (raw schema : Text) : Scanned (.literal raw .null (.str schema))
  | bool (raw schema : Text) (b : Bool) : Scanned (.literal raw (.bool b) (.str schema))
  | undefined (raw : Text) : Scanned (.literal raw .undefined (.str (txt "undefined")))
  | identifier (name schema : Text) : Scanned (.identifier name (.str schema))
  | const (schema : Text) : Scanned (.const (.str schema))

/-- A tree as it is parsed without configuration: fields of distinct names, none of which is taken, that hold
nodes. -/
inductive Node.Parsed : Node → Prop
  | leaf {node : Node} : node.Scanned → Parsed node
  | composite {kind schema : Text} {fields : List (Text × Value)} : Tree.isLeafKind kind = false →
      (Entries.names fields).Nodup → (∀ field ∈ fields, isReserved field.1 = false) →
      (∀ field ∈ fields, ∃ child, field.2 = .node child) →
      (∀ name child, (name, Value.node child) ∈ fields → Parsed child) →
      Parsed (.composite kind (.str schema) fields)

/-- The value of a numeral is a double, or an integer that is no longer than the numeral. -/
theorem Numeral.scanned (n : Numeral) (h : n.isReadable = true) (schema : Text) :
    (Node.literal n.text n.value (.str schema)).Scanned := by
  unfold Numeral.value
  cases hfractional : n.isFractional with
  | true => exact .float (Binary64.form_ofDecimal_ne_nan _ _ _)
  | false =>
    have hlength : n.whole.length ≤ Decimal.digitLimit := by
      rw [Numeral.isReadable, hfractional] at h
      exact of_decide_eq_true h
    have hnat : (Decimal.toInt n.text).natAbs = Decimal.toNat n.whole := by
      have hnone : n.fraction = [] := by
        rw [Numeral.isFractional, Bool.not_eq_false', List.isEmpty_iff] at hfractional
        exact hfractional
      rw [Numeral.text, hnone, Numeral.pointed, List.append_nil]
      cases n.negative with
      | true => exact Decimal.natAbs_toInt_minus n.whole
      | false => exact Decimal.natAbs_toInt n.whole_digits
    exact .int (Nat.le_trans (Decimal.digitCount_ofInt_le n.whole_ne_nil n.whole_digits hnat) hlength)

theorem Terminal.scanned_of_match? {t : Terminal} {context : Context} {s : Text} {r : Match Node}
    (h : t.match? context s = .ok (some r)) : r.value.Scanned := by
  cases matches_of_match? h with
  | number n hreadable _ _ => exact n.scanned hreadable _
  | string => exact .str _ _ _
  | keyword k _ _ =>
    cases k with
    | null => exact .null _ _
    | true => exact .bool _ _ true
    | false => exact .bool _ _ false
    | undefined => exact .undefined _
  | identifier => exact .identifier _ _
  | const => exact .const _

/-- A schema that is prescribed is a text, where those of the fields are. -/
theorem ResultType.Prescribes.exists_text {fields : Fields} {type : ResultType} {schema : Value}
    (h : type.Prescribes fields schema)
    (hfields : ∀ name child, (name, Value.node child) ∈ fields → ∃ s, child.schema = .str s) :
    ∃ s, schema = .str s := by
  cases h with
  | inherited hchild _ =>
    rw [hchild] at hfields
    exact hfields _ _ List.mem_cons_self
  | stated | unknown | unknownUnion | union => exact ⟨_, rfl⟩

theorem Node.Scanned.exists_schema {node : Node} (h : node.Scanned) : ∃ s, node.schema = .str s := by
  cases h <;> exact ⟨_, rfl⟩

theorem Node.Parsed.exists_schema {node : Node} (h : node.Parsed) : ∃ s, node.schema = .str s := by
  cases h with
  | leaf h => exact h.exists_schema
  | composite => exact ⟨_, rfl⟩

namespace Parse

variable {grammar : Grammar} {rules : List Rule} {context : Context} {s rest : Text} {tree : Node}

/-- What a rule makes of parsed trees is parsed, if its bindings are free. -/
theorem parsed_of_composes {rule : Rule} {index : Nat} {schema : Value} {fields : Fields}
    (hcomposes : grammar.Composes index rule schema fields) (hkind : Tree.isLeafKind rule.name = false)
    (hnodup : rule.bindingNames.Nodup) (hfree : ∀ name ∈ rule.bindingNames, isReserved name = false)
    (hchildren : ∀ name child, (name, Value.node child) ∈ fields → child.Parsed) :
    (Node.composite rule.name schema fields).Parsed := by
  obtain ⟨text, rfl⟩ := hcomposes.schema.exists_text fun name child hchild =>
    (hchildren name child hchild).exists_schema
  refine .composite hkind (hcomposes.names ▸ hnodup) ?_ hcomposes.nodes hchildren
  intro field hfield
  have hname : field.1 ∈ Entries.names fields := List.mem_map_of_mem hfield
  rw [hcomposes.names] at hname
  exact hfree field.1 hname

/-- A name that a rule can take is no kind of a leaf. -/
theorem isLeafKind_of_checked {rule : Rule} (h : rule.Checked) : Tree.isLeafKind rule.name = false := by
  have hname := h.name_free
  simp only [reservedNodeNames, List.mem_cons, not_or] at hname
  simp [Tree.isLeafKind, hname]

/-- A tree is parsed as a whole, where its leaves are scanned and its composites are explained by rules whose
bindings are free. -/
theorem parsed_of_explained (hrules : Admissible rules)
    (hfree : ∀ rule ∈ rules, ∀ name ∈ rule.bindingNames, isReserved name = false)
    (hleaves : ∀ leaf : Node, leaf.isLeaf = true → leaf.Within tree → leaf.Scanned)
    (hexplained : ∀ name schema fields, Node.Within (.composite name schema fields) tree →
      grammar.Explains rules name schema fields) : tree.Parsed := by
  induction tree using Node.field_induction with
  | literal raw value schema => exact .leaf (hleaves _ rfl (.root _))
  | identifier name schema => exact .leaf (hleaves _ rfl (.root _))
  | const schema => exact .leaf (hleaves _ rfl (.root _))
  | composite kind schema fields ih =>
    have hchildren : ∀ name child, (name, Value.node child) ∈ fields → child.Parsed := by
      intro name child hchild
      apply ih name child hchild
      · intro leaf hleaf hwithin
        exact hleaves leaf hleaf (.field hchild hwithin)
      · intro name' schema' fields' hwithin
        exact hexplained name' schema' fields' (.field hchild hwithin)
    rcases hexplained kind schema fields (.root _) with
      ⟨rfl, index, hcomposes⟩ | ⟨rule, hrule, rfl, -, index, -, hcomposes⟩
    · exact parsed_of_composes hcomposes rfl (by decide) (by decide) hchildren
    · have hchecked := (hrules.defined rule hrule).checked
      exact parsed_of_composes hcomposes (isLeafKind_of_checked hchecked) hchecked.nodup_bindings (hfree rule hrule)
        hchildren

/-- **A parsed tree**, without configuration and where no binding has a name that is taken. -/
theorem parsed (hrules : Admissible rules) (hconfigure : ∀ rule ∈ rules, rule.configure = none)
    (hfree : ∀ rule ∈ rules, ∀ name ∈ rule.bindingNames, isReserved name = false)
    (hbuild : Grammar.build rules = .ok grammar)
    (hparse : grammar.parse context s = .ok (some ⟨tree, rest⟩)) : tree.Parsed := by
  rw [parse_eq_plain] at hparse
  apply parsed_of_explained hrules hfree
  · intro leaf hleaf hwithin
    obtain ⟨t, s', rest', hmatch, -⟩ := leaf_matched hrules hconfigure hbuild hparse hleaf hwithin
    exact Terminal.scanned_of_match? hmatch
  · exact (plain_proper hrules hconfigure hbuild hparse).explained

end Parse

/-! ## There and back -/

/-- A parsed tree can be stored, and it has no maps that could hide a node. -/
theorem Node.Parsed.storable {node : Node} (h : node.Parsed) :
    Value.Storable (.node node) ∧ ¬Value.Hides (.node node) := by
  induction h with
  | leaf hscanned =>
    cases hscanned with
    | undefined raw => exact ⟨.literal fun _ => rfl, nofun⟩
    | identifier | const => exact ⟨by constructor, nofun⟩
    | int | float | str | null | bool => exact ⟨.literal nofun, nofun⟩
  | @composite kind schema fields hkind hnodup hreserved hnodes hparsed ih =>
    have hfields : ∀ field ∈ fields, Value.Storable field.2 ∧ ¬Value.Hides field.2 := by
      rintro ⟨name, v⟩ hfield
      obtain ⟨child, rfl⟩ := hnodes _ hfield
      exact ih name child hfield
    refine ⟨.composite hkind hreserved fun field hfield => (hfields field hfield).1, ?_⟩
    rw [Value.hides_composite]
    rintro ⟨field, hfield, hhides⟩
    exact (hfields field hfield).2 hhides

/-- The names of a heading are not those of other entries. -/
theorem Tree.nodup_heading {kind : Text} {schema : Value} {entries : List (Text × Value)}
    (hnodup : (Entries.names entries).Nodup) (hreserved : ∀ entry ∈ entries, isReserved entry.1 = false) :
    (Entries.names (Tree.heading kind schema ++ entries)).Nodup := by
  have hfree : ∀ key, isReserved key = true → key ∉ Entries.names entries := by
    intro key hkey hmem
    obtain ⟨entry, hentry, rfl⟩ := List.mem_map.mp hmem
    rw [hreserved entry hentry] at hkey
    cases hkey
  change (Tree.kindKey :: Tree.schemaKey :: Entries.names entries).Nodup
  rw [List.nodup_cons, List.nodup_cons, List.mem_cons, not_or]
  exact ⟨⟨by decide, hfree _ rfl⟩, hfree _ rfl, hnodup⟩

/-- A map with a heading is told apart if its other entries are, and do not have the names of the heading. -/
theorem Tree.lossless_heading {kind schema : Text} {entries : List (Text × Value)}
    (hnodup : (Entries.names entries).Nodup) (hreserved : ∀ entry ∈ entries, isReserved entry.1 = false)
    (h : ∀ entry ∈ entries, entry.2.Lossless) :
    Value.Lossless (.map (Tree.heading kind (.str schema) ++ entries)) := by
  apply Value.Lossless.map
  · exact Tree.nodup_heading hnodup hreserved
  · intro entry hentry
    rcases List.mem_append.mp hentry with hheading | hentry
    · rcases List.mem_pair.mp hheading with rfl | rfl <;> exact .str _
    · exact h entry hentry

/-- The source text and the value of a literal are told apart. -/
theorem Tree.lossless_literal {raw schema : Text} {value : Value} (hvalue : value.Lossless) :
    Value.Lossless (.map (Tree.heading (txt "literal") (.str schema) ++
      [(txt "raw", .str raw), (txt "value", value)])) := by
  apply Tree.lossless_heading
  · exact (by decide : [txt "raw", txt "value"].Nodup)
  · intro entry hentry
    rcases List.mem_pair.mp hentry with rfl | rfl <;> rfl
  · intro entry hentry
    rcases List.mem_pair.mp hentry with rfl | rfl
    · exact .str raw
    · exact hvalue

theorem Tree.lossless_single {kind schema key : Text} (hkey : isReserved key = false) (s : Text) :
    Value.Lossless (.map (Tree.heading kind (.str schema) ++ [(key, .str s)])) := by
  apply Tree.lossless_heading
  · exact List.nodup_singleton _
  · intro entry hentry
    rw [List.mem_singleton.mp hentry, hkey]
  · intro entry hentry
    rw [List.mem_singleton.mp hentry]
    exact .str s

theorem Node.Scanned.exists_lossless {node : Node} (h : node.Scanned) :
    ∃ document, Tree.nodeDocument node = .ok document ∧ document.Lossless := by
  cases h with
  | int hshort => exact ⟨_, rfl, Tree.lossless_literal (.int hshort)⟩
  | float hx => exact ⟨_, rfl, Tree.lossless_literal (.float hx)⟩
  | str raw schema s => exact ⟨_, rfl, Tree.lossless_literal (.str s)⟩
  | null => exact ⟨_, rfl, Tree.lossless_literal .null⟩
  | bool raw schema b => exact ⟨_, rfl, Tree.lossless_literal (.bool b)⟩
  | undefined raw => exact ⟨_, rfl, Tree.lossless_single rfl raw⟩
  | identifier name schema => exact ⟨_, rfl, Tree.lossless_single rfl name⟩
  | const schema => exact ⟨_, rfl, Tree.lossless_heading List.nodup_nil nofun nofun⟩

/-- A parsed tree has a form as plain data that a JSON text tells apart. -/
theorem Node.Parsed.exists_lossless {node : Node} (h : node.Parsed) :
    ∃ document, Tree.nodeDocument node = .ok document ∧ document.Lossless := by
  induction h with
  | leaf hscanned => exact hscanned.exists_lossless
  | @composite kind schema fields _ hnodup hreserved hnodes _ ih =>
    have hfields : ∀ field ∈ fields, ∃ d : Text × Value, d.2.Lossless ∧ Tree.EntryDocument field d := by
      rintro ⟨name, v⟩ hfield
      obtain ⟨child, rfl⟩ := hnodes _ hfield
      obtain ⟨d, hd, hlossless⟩ := ih name child hfield
      refine ⟨(name, d), hlossless, rfl, ?_⟩
      rwa [Tree.valueDocument]
    obtain ⟨documents, hdocuments⟩ := exists_forall₂ hfields
    obtain ⟨hlossless, hflipped⟩ := (List.forall₂_and_left _ _).mp hdocuments.flip
    have hentries := hflipped.flip
    refine ⟨.map (Tree.heading kind (.str schema) ++ documents), ?_, ?_⟩
    · rw [Tree.nodeDocument, Tree.fieldDocuments_of_forall₂ hreserved hentries]
      rfl
    · apply Tree.lossless_heading _ (Tree.free_of_forall₂ hentries hreserved) hlossless
      rwa [Tree.names_of_forall₂ hentries]

theorem Tree.toJson_eq_ok {indent : Option Nat} {tree : Value} {text : Text} :
    Tree.toJson indent tree = .ok text ↔
      ∃ document, Tree.toDocument tree = .ok document ∧ Json.write ⟨indent, false⟩ document = .ok text := by
  simp only [Tree.toJson, bind_eq_ok, mapError_eq_ok]

theorem Tree.ofJson_eq_ok {text : Text} {tree : Node} :
    Tree.ofJson text = .ok tree ↔ ∃ document, Json.read text = .ok document ∧ Tree.ofDocument document = .ok tree := by
  simp only [Tree.ofJson, bind_eq_ok, mapError_eq_ok]

/-- **Nothing of a parsed tree is lost** in plain data, nor in JSON, however it is laid out. -/
theorem Tree.parsed_roundtrip {grammar : Grammar} {rules : List Rule} {context : Context} {s rest : Text} {tree : Node}
    (hrules : Admissible rules) (hconfigure : ∀ rule ∈ rules, rule.configure = none)
    (hfree : ∀ rule ∈ rules, ∀ name ∈ rule.bindingNames, isReserved name = false)
    (hbuild : Grammar.build rules = .ok grammar)
    (hparse : grammar.parse context s = .ok (some ⟨tree, rest⟩)) :
    (∃ document, Tree.toDocument (.node tree) = .ok document ∧ Tree.ofDocument document = .ok tree) ∧
      ∀ indent, ∃ text, Tree.toJson indent (.node tree) = .ok text ∧ Tree.ofJson text = .ok tree := by
  have hparsed := Parse.parsed hrules hconfigure hfree hbuild hparse
  obtain ⟨hstorable, hhides⟩ := hparsed.storable
  obtain ⟨document, hfares⟩ := Tree.exists_fares hstorable
  have hdocument := hfares.nodeDocument
  have hback := hfares.ofDocument.mpr hhides
  refine ⟨⟨document, hdocument, hback⟩, ?_⟩
  intro indent
  obtain ⟨d, hd, hlossless⟩ := hparsed.exists_lossless
  obtain rfl := Except.ok.inj (hd.symm.trans hdocument)
  have hascii : (Json.Layout.mk indent false).ascii = false := rfl
  obtain ⟨text, hwrite, hread⟩ := Json.read_write hascii hlossless
  exact ⟨text, Tree.toJson_eq_ok.mpr ⟨d, hdocument, hwrite⟩, Tree.ofJson_eq_ok.mpr ⟨d, hread, hback⟩⟩

/-- A choice between undefined and a number with a fraction. -/
theorem Tree.parsed_roundtrip_choice :
    ∃ tree, standardGrammar.parse [] (txt "true ? undefined : 1.5") = .ok (some ⟨tree, []⟩) ∧
      (∃ document, Tree.toDocument (.node tree) = .ok document ∧ Tree.ofDocument document = .ok tree) ∧
      ∀ indent, ∃ text, Tree.toJson indent (.node tree) = .ok text ∧ Tree.ofJson text = .ok tree := by
  let tree : Node := .composite (txt "ternary") (.str (txt "number | undefined"))
    [(txt "condition", .node (.literal (txt "true") (.bool true) (.str (txt "boolean")))),
      (txt "then", .node (.literal (txt "undefined") .undefined (.str (txt "undefined")))),
      (txt "otherwise", .node (.literal (txt "1.5") (.float (Binary64.readDecimal (txt "1.5"))) (.str (txt "number"))))]
  have hparse : standardGrammar.parse [] (txt "true ? undefined : 1.5") = .ok (some ⟨tree, []⟩) := by
    rw [Parse.parse_eq_plain]
    rfl
  have hfree : ∀ rule ∈ standardRules, ∀ name ∈ rule.bindingNames, isReserved name = false := by decide
  exact ⟨tree, hparse, Tree.parsed_roundtrip admissible_standardRules (fun _ => configure_of_mem_standardRules) hfree
    build_standardRules hparse⟩

end Mixfix
