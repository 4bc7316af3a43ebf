import Mixfix.Proofs.Host.Yaml.Roundtrip
import Mixfix.Proofs.Tree.Parsed
import Mixfix.Proofs.Yaml
import Mixfix.Tree.Formats

/-!
# Parsed trees and YAML

YAML gives a parsed tree back with its texts folded (`Tree.yaml_roundtrip`), so it gives back the tree exactly if none
of its texts is folded. There are trees with such texts (`Tree.not_survivesYaml_nextLine`).
-/

set_option autoImplicit false

namespace Mixfix

open Mixfix.Tree (isReserved)
open Yaml (foldLines HasRoom isFolded isKeyable Fits)

/-! ## The texts of a tree -/

/-- The text that a value is, if it is one. -/
def Value.ownTexts : Value → List Text
  | .str s => [s]
  | _ => []

/-- The texts that a node writes in its own map. -/
def Node.ownTexts : Node → List Text
  | .literal raw value schema => raw :: (value.ownTexts ++ schema.ownTexts)
  | .identifier name schema => name :: schema.ownTexts
  | .const schema => schema.ownTexts
  | .composite rule schema fields => rule :: (schema.ownTexts ++ Entries.names fields)

/-- A tree has a text in a node at a depth, where the root is at depth one. -/
inductive Node.HasText : Node → Nat → Text → Prop
  | own {node : Node} {s : Text} : s ∈ node.ownTexts → HasText node 1 s
  | field {rule name s : Text} {schema : Value} {fields : List (Text × Value)} {child : Node} {depth : Nat} :
      (name, .node child) ∈ fields → HasText child depth s → HasText (.composite rule schema fields) (depth + 1) s

/-- All names of fields in a tree can be read back. -/
def Node.KeysReadable (tree : Node) : Prop :=
  ∀ rule schema fields, Node.Within (.composite rule schema fields) tree →
    ∀ name ∈ Entries.names fields, isKeyable name = true

theorem Node.KeysReadable.child {rule name : Text} {schema : Value} {fields : List (Text × Value)} {child : Node}
    (h : (Node.composite rule schema fields).KeysReadable) (hchild : (name, Value.node child) ∈ fields) :
    child.KeysReadable :=
  fun rule' schema' fields' hwithin => h rule' schema' fields' (.field hchild hwithin)

/-- The names of the fields of a parsed tree can be read back, if the bindings can. -/
theorem Parse.keysReadable {grammar : Grammar} {rules : List Rule} {context : Context} {s rest : Text} {tree : Node}
    (hrules : Admissible rules) (hconfigure : ∀ rule ∈ rules, rule.configure = none)
    (hkeyable : ∀ rule ∈ rules, ∀ name ∈ rule.bindingNames, isKeyable name = true)
    (hbuild : Grammar.build rules = .ok grammar)
    (hparse : grammar.parse context s = .ok (some ⟨tree, rest⟩)) : tree.KeysReadable := by
  rw [parse_eq_plain] at hparse
  intro kind schema fields hwithin
  rcases (plain_proper hrules hconfigure hbuild hparse).explained kind schema fields hwithin with
    ⟨rfl, index, hcomposes⟩ | ⟨rule, hrule, rfl, -, index, -, hcomposes⟩
  · rw [hcomposes.names]
    decide
  · rw [hcomposes.names]
    exact hkeyable rule hrule

/-! ## Folded trees -/

/-- A kind that is not taken is not folded to one that is. -/
theorem Tree.isLeafKind_foldLines {kind : Text} (h : isLeafKind kind = false) :
    isLeafKind (foldLines kind) = false := by
  have hwords : ∀ word ∈ [txt "literal", txt "identifier", txt "const"], word.any Yaml.isLineGap = false := by decide
  rw [← Bool.not_eq_true] at h ⊢
  refine fun hfolded => h ?_
  have hword : foldLines kind ∈ [txt "literal", txt "identifier", txt "const"] := by
    simpa [isLeafKind, or_assoc] using hfolded
  rwa [Yaml.eq_of_foldLines_eq (hwords _ hword) rfl]

theorem Node.Scanned.folded {node : Node} (h : node.Scanned) : node.folded.Scanned := by
  cases h with
  | int hshort => exact .int hshort
  | float hx => exact .float hx
  | str raw schema s => exact .str _ _ _
  | null => exact .null _ _
  | bool raw schema b => exact .bool _ _ b
  | undefined raw => exact .undefined _
  | identifier => exact .identifier _ _
  | const => exact .const _

/-- A parsed tree with its texts folded is made like one. -/
theorem Node.Parsed.folded {node : Node} (h : node.Parsed) : node.folded.Parsed := by
  induction h with
  | leaf hscanned => exact .leaf hscanned.folded
  | @composite kind schema fields hkind hnodup hreserved hnodes _ ih =>
    rw [Node.folded, foldedEntries_eq_map]
    refine .composite (Tree.isLeafKind_foldLines hkind) ?_ ?_ ?_ ?_
    · rwa [← foldedEntries_eq_map, names_foldedEntries]
    · exact List.forall_mem_map.mpr hreserved
    · refine List.forall_mem_map.mpr fun field hfield => ?_
      obtain ⟨child, hchild⟩ := hnodes field hfield
      exact ⟨child.folded, by rw [hchild, Value.folded]⟩
    · intro name child hchild
      obtain ⟨⟨name', v⟩, hfield, heq⟩ := List.mem_map.mp hchild
      obtain ⟨child', rfl⟩ := hnodes _ hfield
      obtain ⟨rfl, hfolded⟩ := Prod.mk.inj heq
      rw [Value.folded, Value.node.injEq] at hfolded
      exact hfolded ▸ ih name' child' hfield

/-- A leaf is folded to itself exactly if its texts are. -/
theorem Node.Scanned.folded_eq_self_iff {node : Node} (h : node.Scanned) :
    node.folded = node ↔ ∀ s ∈ node.ownTexts, foldLines s = s := by
  cases h <;>
    simp [Node.folded, Node.ownTexts, Value.folded, Value.ownTexts, and_comm]

/-- Entries are folded to themselves exactly if their values are. -/
theorem foldedEntries_eq_self_iff {entries : List (Text × Value)} :
    foldedEntries entries = entries ↔ ∀ entry ∈ entries, entry.2.folded = entry.2 := by
  induction entries with
  | nil => exact iff_of_true rfl nofun
  | cons entry entries ih =>
    obtain ⟨name, v⟩ := entry
    rw [foldedEntries, List.cons.injEq, Prod.mk.injEq, ih, List.forall_mem_cons, eq_self_iff_true, true_and]

/-- **A parsed tree is folded to itself exactly if none of its texts is folded.** -/
theorem Node.Parsed.folded_eq_self_iff {node : Node} (h : node.Parsed) (hkeys : node.KeysReadable) :
    node.folded = node ↔ ∀ depth s, node.HasText depth s → foldLines s = s := by
  induction h with
  | @leaf node hscanned =>
    rw [hscanned.folded_eq_self_iff]
    constructor
    · intro hown depth s htext
      cases htext with
      | own hs => exact hown s hs
      | field => cases hscanned
    · exact fun htexts s hs => htexts 1 s (.own hs)
  | @composite kind schema fields _ _ _ hnodes _ ih =>
    rw [Node.folded, Node.composite.injEq, foldedEntries_eq_self_iff, Value.folded, Value.str.injEq]
    constructor
    · rintro ⟨hkind, hschema, hfields⟩ depth s htext
      cases htext with
      | own hs =>
        rcases List.mem_cons.mp hs with rfl | hs
        · exact hkind
        rcases List.mem_cons.mp hs with rfl | hname
        · exact hschema
        · exact Yaml.foldLines_of_isKeyable (hkeys kind (.str schema) fields (.root _) s hname)
      | @field _ name _ _ _ child depth hchild htext =>
        have hsame := hfields _ hchild
        rw [Value.folded, Value.node.injEq] at hsame
        exact (ih name child hchild (hkeys.child hchild)).mp hsame depth s htext
    · intro htexts
      refine ⟨htexts 1 kind (.own List.mem_cons_self), ?_, ?_⟩
      · exact htexts 1 schema (.own (List.mem_cons_of_mem kind List.mem_cons_self))
      · rintro ⟨name, v⟩ hfield
        obtain ⟨child, rfl⟩ := hnodes _ hfield
        rw [Value.folded, (ih name child hfield (hkeys.child hfield)).mpr fun depth s htext =>
          htexts (depth + 1) s (.field hfield htext)]

/-! ## Documents -/

theorem forall_mem_pair {α : Type} {P : α → Prop} {a b : α} : (∀ x ∈ [a, b], P x) ↔ P a ∧ P b := by
  rw [List.forall_mem_cons, List.forall_mem_singleton]

namespace Tree

/-- A value has a form as plain data that fits into a document at a column, and whose texts are folded as those of the
value are. -/
structure FoldsWith (column : Nat) (v d : Value) : Prop where
  document : valueDocument v = .ok d
  fits : Fits column d
  folded : valueDocument v.folded = .ok d.folded

/-- A field and its form as plain data. -/
structure EntryFoldsWith (column : Nat) (entry document : Text × Value) : Prop where
  key : document.1 = entry.1
  value : FoldsWith column entry.2 document.2

theorem EntryFoldsWith.entryDocument {column : Nat} {entry document : Text × Value}
    (h : EntryFoldsWith column entry document) : EntryDocument entry document :=
  ⟨h.key, h.value.document⟩

theorem EntryFoldsWith.foldedDocument {column : Nat} {entry document : Text × Value}
    (h : EntryFoldsWith column entry document) :
    EntryDocument (entry.1, entry.2.folded) (document.1, document.2.folded) :=
  ⟨h.key, h.value.folded⟩

/-- A map with a heading fits if its other entries do. -/
theorem fits_heading {column : Nat} {kind schema : Text} {entries : List (Text × Value)}
    (hnodup : (Entries.names entries).Nodup) (hreserved : ∀ entry ∈ entries, isReserved entry.1 = false)
    (hnames : ∀ name ∈ Entries.names entries, isKeyable name = true ∧ HasRoom (column + 2) name)
    (hkind : HasRoom (column + 2) kind) (hschema : HasRoom (column + 2) schema)
    (h : ∀ entry ∈ entries, Fits (column + 2) entry.2) :
    Fits column (.map (heading kind (.str schema) ++ entries)) := by
  refine .map (List.cons_ne_nil _ _) (nodup_heading hnodup hreserved) ?_ ?_
  · change ∀ name ∈ kindKey :: schemaKey :: Entries.names entries, _
    exact List.forall_mem_cons.mpr ⟨⟨rfl, .inr rfl⟩, List.forall_mem_cons.mpr ⟨⟨rfl, .inr rfl⟩, hnames⟩⟩
  · change ∀ entry ∈ (kindKey, .str kind) :: (schemaKey, .str schema) :: entries, _
    exact List.forall_mem_cons.mpr ⟨.str hkind, List.forall_mem_cons.mpr ⟨.str hschema, h⟩⟩

/-- The source text and the value of a literal fit, if they do on their own. -/
theorem fits_literal {column : Nat} {raw schema : Text} {value : Value} (hraw : HasRoom (column + 2) raw)
    (hschema : HasRoom (column + 2) schema) (hvalue : Fits (column + 2) value) :
    Fits column (.map (heading (txt "literal") (.str schema) ++ [(txt "raw", .str raw), (txt "value", value)])) := by
  have hnames : ∀ name ∈ [txt "raw", txt "value"], isKeyable name = true ∧ HasRoom (column + 2) name :=
    forall_mem_pair.mpr ⟨⟨rfl, .inr rfl⟩, ⟨rfl, .inr rfl⟩⟩
  refine fits_heading (by decide : [txt "raw", txt "value"].Nodup) ?_ hnames (.inr rfl) hschema ?_
  · exact forall_mem_pair.mpr ⟨rfl, rfl⟩
  · exact forall_mem_pair.mpr ⟨.str hraw, hvalue⟩

theorem fits_single {column : Nat} {kind schema key s : Text} (hreserved : isReserved key = false)
    (hkey : isKeyable key = true ∧ HasRoom (column + 2) key) (hkind : HasRoom (column + 2) kind)
    (hschema : HasRoom (column + 2) schema) (hs : HasRoom (column + 2) s) :
    Fits column (.map (heading kind (.str schema) ++ [(key, .str s)])) := by
  refine fits_heading (List.nodup_singleton _) ?_ ?_ hkind hschema ?_
  · exact List.forall_mem_singleton.mpr hreserved
  · exact List.forall_mem_singleton.mpr hkey
  · exact List.forall_mem_singleton.mpr (.str hs)

end Tree

theorem Node.Scanned.exists_foldsWith {node : Node} {column : Nat} (h : node.Scanned)
    (hroom : ∀ s ∈ node.ownTexts, HasRoom (column + 2) s) : ∃ d, Tree.FoldsWith column (.node node) d := by
  cases h with
  | int hshort =>
    obtain ⟨hraw, hschema⟩ := forall_mem_pair.mp hroom
    exact ⟨_, rfl, Tree.fits_literal hraw hschema (.int hshort), rfl⟩
  | float hx =>
    obtain ⟨hraw, hschema⟩ := forall_mem_pair.mp hroom
    exact ⟨_, rfl, Tree.fits_literal hraw hschema (.float hx), rfl⟩
  | str raw schema s =>
    obtain ⟨hraw, hrest⟩ := List.forall_mem_cons.mp hroom
    obtain ⟨hs, hschema⟩ := forall_mem_pair.mp hrest
    exact ⟨_, rfl, Tree.fits_literal hraw hschema (.str hs), rfl⟩
  | null =>
    obtain ⟨hraw, hschema⟩ := forall_mem_pair.mp hroom
    exact ⟨_, rfl, Tree.fits_literal hraw hschema .null, rfl⟩
  | bool raw schema b =>
    obtain ⟨hraw, hschema⟩ := forall_mem_pair.mp hroom
    exact ⟨_, rfl, Tree.fits_literal hraw hschema (.bool b), rfl⟩
  | undefined raw =>
    obtain ⟨hraw, hschema⟩ := forall_mem_pair.mp hroom
    exact ⟨_, rfl, Tree.fits_single rfl ⟨rfl, .inr rfl⟩ (.inr rfl) hschema hraw, rfl⟩
  | identifier name schema =>
    obtain ⟨hname, hschema⟩ := forall_mem_pair.mp hroom
    exact ⟨_, rfl, Tree.fits_single rfl ⟨rfl, .inr rfl⟩ (.inr rfl) hschema hname, rfl⟩
  | const schema =>
    have hschema := List.forall_mem_singleton.mp hroom
    exact ⟨_, rfl, Tree.fits_heading List.nodup_nil nofun nofun (.inr rfl) hschema nofun, rfl⟩

/-- **A parsed tree whose texts have room has a form as plain data that fits**, and is folded as it is. -/
theorem Node.Parsed.exists_foldsWith {node : Node} {column : Nat} (h : node.Parsed) (hkeys : node.KeysReadable)
    (hroom : ∀ depth s, node.HasText depth s → HasRoom (column + 2 * depth) s) :
    ∃ d, Tree.FoldsWith column (.node node) d := by
  induction h generalizing column with
  | leaf hscanned => exact hscanned.exists_foldsWith fun s hs => hroom 1 s (.own hs)
  | @composite kind schema fields hkind hnodup hreserved hnodes _ ih =>
    obtain ⟨documents, hfolds⟩ : ∃ documents, List.Forall₂ (Tree.EntryFoldsWith (column + 2)) fields documents := by
      refine exists_forall₂ ?_
      rintro ⟨name, v⟩ hfield
      obtain ⟨child, rfl⟩ := hnodes _ hfield
      obtain ⟨d, hd⟩ := @ih name child hfield (column + 2) (hkeys.child hfield) fun depth s htext => by
        have hdepth := hroom (depth + 1) s (.field hfield htext)
        rwa [Nat.mul_succ, Nat.add_comm _ 2, ← Nat.add_assoc] at hdepth
      exact ⟨(name, d), rfl, hd⟩
    have hdocuments := hfolds.imp fun _ _ => Tree.EntryFoldsWith.entryDocument
    have hfolded : List.Forall₂ Tree.EntryDocument (foldedEntries fields) (foldedEntries documents) := by
      rw [foldedEntries_eq_map, foldedEntries_eq_map, List.forall₂_map_left_iff, List.forall₂_map_right_iff]
      exact hfolds.imp fun _ _ => Tree.EntryFoldsWith.foldedDocument
    have hown : ∀ s ∈ (Node.composite kind (.str schema) fields).ownTexts, HasRoom (column + 2) s := fun s hs =>
      hroom 1 s (.own hs)
    refine ⟨.map (Tree.heading kind (.str schema) ++ documents), ?_, ?_, ?_⟩
    · rw [Tree.valueDocument, Tree.nodeDocument, Tree.fieldDocuments_of_forall₂ hreserved hdocuments]
      rfl
    · obtain ⟨hkind', hrest⟩ := List.forall_mem_cons.mp hown
      obtain ⟨hschema, hnames⟩ := List.forall_mem_cons.mp hrest
      obtain ⟨hvalues, -⟩ := (List.forall₂_and_left _ _).mp (hfolds.flip.imp fun _ _ h => ⟨h.value.fits, h⟩)
      apply Tree.fits_heading _ (Tree.free_of_forall₂ hdocuments hreserved) _ hkind' hschema hvalues
      · rwa [Tree.names_of_forall₂ hdocuments]
      · rw [Tree.names_of_forall₂ hdocuments]
        exact fun name hname => ⟨hkeys kind (.str schema) fields (.root _) name hname, hnames name hname⟩
    · have hfree : ∀ field ∈ foldedEntries fields, isReserved field.1 = false := by
        rw [foldedEntries_eq_map]
        exact List.forall_mem_map.mpr hreserved
      have hmap : (Value.map (Tree.heading kind (.str schema) ++ documents)).folded =
          .map (Tree.heading (foldLines kind) (.str (foldLines schema)) ++ foldedEntries documents) := rfl
      rw [hmap, Value.folded, Node.folded, Tree.valueDocument, Tree.nodeDocument,
        Tree.fieldDocuments_of_forall₂ hfree hfolded]
      rfl

namespace Tree

variable [Yaml.Codec]

theorem toYaml_eq_ok {tree : Node} {entries : Fields} {text : Text} (hdocument : nodeDocument tree = .ok (.map entries))
    (hdump : Yaml.Codec.dump entries = .ok text) : toYaml (.node tree) = .ok text := by
  unfold toYaml
  rw [toDocument, hdocument]
  change (Yaml.Codec.dump entries).mapError FormatError.writeYaml = _
  rw [hdump]
  rfl

theorem ofYaml_eq_ok {text : Text} {tree : Node} :
    ofYaml text = .ok tree ↔ ∃ document, Yaml.Codec.load text = .ok document ∧ ofDocument document = .ok tree := by
  simp only [ofYaml, bind_eq_ok, mapError_eq_ok]

/-- **A parsed tree comes back from YAML with its texts folded**, where the names of its fields can be read back and
each of its texts has room. So it comes back as it is exactly if none of its texts is folded. -/
theorem yaml_roundtrip (hfolds : Yaml.Codec.Folds) {grammar : Grammar} {rules : List Rule} {context : Context}
    {s rest : Text} {tree : Node} (hrules : Admissible rules) (hconfigure : ∀ rule ∈ rules, rule.configure = none)
    (hfree : ∀ rule ∈ rules, ∀ name ∈ rule.bindingNames, isReserved name = false)
    (hkeyable : ∀ rule ∈ rules, ∀ name ∈ rule.bindingNames, isKeyable name = true)
    (hbuild : Grammar.build rules = .ok grammar)
    (hparse : grammar.parse context s = .ok (some ⟨tree, rest⟩))
    (hroom : ∀ depth t, tree.HasText depth t → HasRoom (2 * depth) t) :
    ∃ text, toYaml (.node tree) = .ok text ∧ ofYaml text = .ok tree.folded ∧
      (tree.folded = tree ↔ ∀ depth t, tree.HasText depth t → isFolded t = false) := by
  have hparsed := Parse.parsed hrules hconfigure hfree hbuild hparse
  have hkeys := Parse.keysReadable hrules hconfigure hkeyable hbuild hparse
  obtain ⟨d, hdocument, hfits, hfolded⟩ : ∃ d, FoldsWith 0 (.node tree) d :=
    hparsed.exists_foldsWith hkeys fun depth t htext => (Nat.zero_add (2 * depth)).symm ▸ hroom depth t htext
  rw [valueDocument] at hdocument
  obtain ⟨kind, schema, entries, rfl⟩ := exists_heading hdocument
  obtain ⟨text, hdump, hload⟩ := hfolds.load_dump hfits
  -- the folded tree comes back from its own document, which is what was read
  obtain ⟨hstorable, hhides⟩ := hparsed.folded.storable
  obtain ⟨d', hfares⟩ := exists_fares hstorable
  obtain rfl := Except.ok.inj (hfolded.symm.trans hfares.document)
  exact ⟨text, toYaml_eq_ok hdocument hdump, ofYaml_eq_ok.mpr ⟨_, hload, hfares.ofDocument.mpr hhides⟩,
    (hparsed.folded_eq_self_iff hkeys).trans (by simp only [Yaml.foldLines_eq_self_iff])⟩

end Tree

/-- The texts of a leaf are its own. -/
theorem Node.HasText.depth_eq {node : Node} {depth : Nat} {s : Text} (h : node.HasText depth s)
    (hleaf : node.isLeaf = true) : depth = 1 := by
  cases h with
  | own => rfl
  | field => cases hleaf

namespace Tree

/-- A choice whose source texts look like a truth value and a number. -/
theorem yaml_roundtrip_choice :
    ∃ tree, standardGrammar.parse [] (txt "true ? undefined : 1.5") = .ok (some ⟨tree, []⟩) ∧
      (∀ depth t, tree.HasText depth t → HasRoom (2 * depth) t) ∧
      ∃ text, toYaml (.node tree) = .ok text ∧ ofYaml text = .ok tree.folded ∧
        (tree.folded = tree ↔ ∀ depth t, tree.HasText depth t → isFolded t = false) := by
  let tree : Node := .composite (txt "ternary") (.str (txt "number | undefined"))
    [(txt "condition", .node (.literal (txt "true") (.bool true) (.str (txt "boolean")))),
      (txt "then", .node (.literal (txt "undefined") .undefined (.str (txt "undefined")))),
      (txt "otherwise", .node (.literal (txt "1.5") (.float (Binary64.readDecimal (txt "1.5"))) (.str (txt "number"))))]
  have hparse : standardGrammar.parse [] (txt "true ? undefined : 1.5") = .ok (some ⟨tree, []⟩) := by
    rw [Parse.parse_eq_plain]
    rfl
  have hfree : ∀ rule ∈ standardRules, ∀ name ∈ rule.bindingNames, isReserved name = false := by decide
  have hkeyable : ∀ rule ∈ standardRules, ∀ name ∈ rule.bindingNames, isKeyable name = true := by decide
  have hroom : ∀ depth t, tree.HasText depth t → HasRoom (2 * depth) t := by
    intro depth t htext
    unfold tree at htext
    cases htext with
    | own => exact .inl (by decide)
    | @field _ name _ _ _ child depth hchild htext =>
      have hleaf : child.isLeaf = true := by
        simp only [List.mem_cons, Prod.mk.injEq, Value.node.injEq, List.not_mem_nil, or_false] at hchild
        rcases hchild with ⟨-, rfl⟩ | ⟨-, rfl⟩ | ⟨-, rfl⟩ <;> rfl
      obtain rfl := htext.depth_eq hleaf
      exact .inl (by decide)
  exact ⟨tree, hparse, hroom, yaml_roundtrip Yaml.folds admissible_standardRules
    (fun _ => configure_of_mem_standardRules) hfree hkeyable build_standardRules hparse hroom⟩

/-- A next line character is written as it is between apostrophes, and is read back as a space. -/
theorem not_survivesYaml_nextLine :
    ∃ tree, standardGrammar.parse [] (txt "'a\u0085b'") = .ok (some ⟨tree, []⟩) ∧
      survivesYaml (.node tree) = .ok false := by
  let tree : Node := .literal (txt "a\u0085b") (.str (txt "a\u0085b")) (.str (txt "string"))
  have hparse : standardGrammar.parse [] (txt "'a\u0085b'") = .ok (some ⟨tree, []⟩) := by
    rw [Parse.parse_eq_plain]
    rfl
  exact ⟨tree, hparse, eq_ok_of_toOption (by decide +kernel)⟩

end Tree

end Mixfix
