import Mixfix.Proofs.Json
import Mixfix.Proofs.Tree.Document

/-!
# Reading plain data twice

Data may say less of a node than a node knows: a schema, a source text or a value may be missing, and a map
without a kind is no node, whatever is in it. What is read is completed once. So the node that is read has a form
as plain data, and this is read as the same node (`Tree.ofDocument_stable`).

`Tree.Stable` says this of a value in a field. The induction is on the data: a map without a kind is its own
form, and the map of a node is read by its heading first.
-/

set_option autoImplicit false

namespace Mixfix

open Mixfix.Tree (isReserved kindKey schemaKey)

namespace Tree

variable {d v : Value} {entries fields : List (Text × Value)} {node : Node}

/-- Data are their own form. -/
theorem valueDocument_of_isData (h : v.IsData) : valueDocument v = .ok v := by
  induction h with
  | null | bool | int | float | nan | str => rfl
  | @list items _ ih =>
    have hitems : itemDocuments items = .ok items := itemDocuments_eq_ok.mpr (List.forall₂_same.mpr ih)
    rw [valueDocument, hitems]
    rfl
  | @map entries _ ih =>
    have hentries : entryDocuments entries = .ok entries := by
      apply entryDocuments_of_forall₂
      exact List.forall₂_same.mpr fun entry hentry => ⟨rfl, ih entry hentry⟩
    rw [valueDocument, hentries]
    rfl

/-- A value in a field that is read again from its form as plain data. -/
def Stable (v : Value) : Prop :=
  ∃ d, valueDocument v = .ok d ∧ fieldValue d = .ok v

/-- A node in a field is stable if it is on its own. -/
theorem Stable.of_node (h : ∃ d, nodeDocument node = .ok d ∧ ofDocument d = .ok node) : Stable (.node node) := by
  obtain ⟨d, hdocument, hback⟩ := h
  obtain ⟨kind, schema, documents, rfl⟩ := exists_heading hdocument
  refine ⟨.map (heading kind schema ++ documents), ?_, ?_⟩
  · rw [valueDocument, hdocument]
  · rw [fieldValue_map_of_kind rfl, hback]
    rfl

/-- A composite of fields that are stable comes back. -/
theorem exists_document_composite {kind : Text} {schema : Value} (hkind : isLeafKind kind = false)
    (hfree : ∀ field ∈ fields, isReserved field.1 = false) (hstable : ∀ field ∈ fields, Stable field.2) :
    ∃ d, nodeDocument (.composite kind schema fields) = .ok d ∧
      ofDocument d = .ok (.composite kind schema fields) := by
  have hexists : ∀ field ∈ fields, ∃ document : Text × Value,
      EntryDocument field document ∧ document.1 = field.1 ∧ fieldValue document.2 = .ok field.2 := by
    intro field hfield
    obtain ⟨d, hdocument, hback⟩ := hstable field hfield
    exact ⟨(field.1, d), ⟨rfl, hdocument⟩, rfl, hback⟩
  obtain ⟨documents, h⟩ := exists_forall₂ hexists
  have hdocuments : List.Forall₂ EntryDocument fields documents := h.imp fun _ _ hboth => hboth.1
  refine ⟨.map (heading kind schema ++ documents), ?_, ?_⟩
  · rw [nodeDocument, fieldDocuments_of_forall₂ hfree hdocuments]
    rfl
  · have hfields : fieldsOf documents = .ok fields := by
      rw [fieldsOf_eq_ok (free_of_forall₂ hdocuments hfree)]
      exact h.flip.imp fun _ _ hboth => hboth.2
    rw [ofDocument_composite hkind, hfields]
    rfl

/-! ## What is read -/

/-- A literal that is read of data has no value only where its schema says so. -/
theorem schema_of_valueOf {schema value : Value} (hdata : ∀ entry ∈ entries, entry.2.IsData)
    (h : valueOf schema entries = .ok value) (hvalue : value = .undefined) : schema = .str (txt "undefined") := by
  subst hvalue
  unfold valueOf at h
  split at h
  · rename_i value hfind
    cases h
    have hundefined : Value.IsData .undefined := hdata _ (Entries.mem_of_find? hfind)
    cases hundefined
  · split at h
    · rename_i htext
      cases schema with
      | str s => exact congrArg Value.str (beq_iff_eq.mp htext)
      | _ => cases htext
    · cases h

/-- So it comes back. -/
theorem exists_document_of_literalOf {schema : Value} (hdata : ∀ entry ∈ entries, entry.2.IsData)
    (h : literalOf schema entries = .ok node) : ∃ d, nodeDocument node = .ok d ∧ ofDocument d = .ok node := by
  obtain ⟨value, hvalue, h⟩ := bind_eq_ok.mp h
  obtain ⟨raw, -, h⟩ := bind_eq_ok.mp h
  cases h
  obtain ⟨documents, hdocument, hback⟩ := ofDocument_literal (schema_of_valueOf hdata hvalue)
  exact ⟨_, hdocument, hback⟩

/-- What the heading of data says: a leaf that comes back, or the kind and the schema of a composite. -/
theorem headingOf_cases (hdata : ∀ entry ∈ entries, entry.2.IsData) {h : Heading}
    (hheading : headingOf entries = .ok h) :
    (∃ leaf, h = .leaf leaf ∧ ∃ d, nodeDocument leaf = .ok d ∧ ofDocument d = .ok leaf) ∨
      ∃ kind schema, h = .composite kind schema ∧ isLeafKind kind = false := by
  unfold headingOf at hheading
  dsimp only at hheading
  split at hheading
  · rename_i kind _
    split at hheading
    · obtain ⟨leaf, hleaf, rfl⟩ := map_eq_ok.mp hheading
      exact .inl ⟨leaf, rfl, exists_document_of_literalOf hdata hleaf⟩
    · rename_i hliteral
      split at hheading
      · split at hheading
        · cases hheading
          exact .inl ⟨_, rfl, _, rfl, rfl⟩
        · cases hheading
      · rename_i hidentifier
        split at hheading
        · cases hheading
          exact .inl ⟨_, rfl, _, rfl, rfl⟩
        · rename_i hconst
          cases hheading
          have hkind : isLeafKind kind = false := by simp [isLeafKind, hliteral, hidentifier, hconst]
          exact .inr ⟨_, _, rfl, hkind⟩
  · cases hheading

/-- The items that are read of data are stable if each is. -/
theorem stable_of_itemsOf {items values : List Value}
    (hread : ∀ item ∈ items, ∀ v, fieldValue item = .ok v → Stable v) (h : itemsOf items = .ok values) :
    ∀ v ∈ values, Stable v := by
  induction items generalizing values with
  | nil =>
    cases h
    exact List.forall_mem_nil _
  | cons item items ih =>
    obtain ⟨hfirst, hrest⟩ := List.forall_mem_cons.mp hread
    rw [itemsOf] at h
    obtain ⟨v, hv, h⟩ := bind_eq_ok.mp h
    obtain ⟨others, hothers, h⟩ := bind_eq_ok.mp h
    cases h
    exact List.forall_mem_cons.mpr ⟨hfirst v hv, ih hrest hothers⟩

/-- The fields that are read of data have free names, and they are stable if each is. -/
theorem stable_of_fieldsOf (hread : ∀ entry ∈ entries, ∀ v, fieldValue entry.2 = .ok v → Stable v)
    (h : fieldsOf entries = .ok fields) : ∀ field ∈ fields, isReserved field.1 = false ∧ Stable field.2 := by
  induction entries generalizing fields with
  | nil =>
    cases h
    exact List.forall_mem_nil _
  | cons entry entries ih =>
    obtain ⟨key, value⟩ := entry
    obtain ⟨hfirst, hrest⟩ := List.forall_mem_cons.mp hread
    rw [fieldsOf] at h
    split at h
    · exact ih hrest h
    · rename_i hfree
      obtain ⟨v, hv, h⟩ := bind_eq_ok.mp h
      obtain ⟨others, hothers, h⟩ := bind_eq_ok.mp h
      cases h
      exact List.forall_mem_cons.mpr ⟨⟨Bool.eq_false_iff.mpr hfree, hfirst v hv⟩, ih hrest hothers⟩

/-- A node that is read of a map of data comes back, if what is read in its fields does. -/
theorem exists_document_of_map (hdata : ∀ entry ∈ entries, entry.2.IsData)
    (hread : ∀ entry ∈ entries, ∀ v, fieldValue entry.2 = .ok v → Stable v)
    (h : ofDocument (.map entries) = .ok node) : ∃ d, nodeDocument node = .ok d ∧ ofDocument d = .ok node := by
  rw [ofDocument] at h
  obtain ⟨heading, hheading, h⟩ := bind_eq_ok.mp h
  rcases headingOf_cases hdata hheading with ⟨leaf, rfl, hleaf⟩ | ⟨kind, schema, rfl, hkind⟩
  · cases h
    exact hleaf
  · obtain ⟨fields, hfields, h⟩ := bind_eq_ok.mp h
    cases h
    have hstable := stable_of_fieldsOf hread hfields
    exact exists_document_composite hkind (fun field hfield => (hstable field hfield).1)
      fun field hfield => (hstable field hfield).2

/-- **What is read in a field of data is stable.** -/
theorem stable_of_fieldValue (hdata : d.IsData) (h : fieldValue d = .ok v) : Stable v := by
  induction hdata generalizing v with
  | null | bool | int | float | nan | str =>
    cases h
    exact ⟨_, rfl, rfl⟩
  | @list items _ ih =>
    rw [fieldValue] at h
    obtain ⟨values, hvalues, h⟩ := bind_eq_ok.mp h
    cases h
    have hstable := stable_of_itemsOf (fun item hitem v => ih item hitem) hvalues
    obtain ⟨documents, hdocuments⟩ := exists_forall₂ hstable
    refine ⟨.list documents, ?_, ?_⟩
    · rw [valueDocument, itemDocuments_eq_ok.mpr (hdocuments.imp fun _ _ hboth => hboth.1)]
      rfl
    · rw [fieldValue, itemsOf_eq_ok.mpr (hdocuments.flip.imp fun _ _ hboth => hboth.2)]
      rfl
  | @map entries hentries ih =>
    by_cases hkind : kindKey ∈ Entries.names entries
    · have hhas : Entries.has kindKey entries = true := by
        rw [Entries.has, Option.isSome_iff_ne_none]
        intro hnone
        exact Entries.find?_eq_none.mp hnone hkind
      rw [fieldValue_map_of_kind hhas] at h
      obtain ⟨node, hnode, rfl⟩ := map_eq_ok.mp h
      exact .of_node (exists_document_of_map hentries (fun entry hentry v => ih entry hentry) hnode)
    · rw [fieldValue_map_of_none hkind] at h
      cases h
      exact ⟨.map entries, valueDocument_of_isData (.map hentries), fieldValue_map_of_none hkind⟩

/-- **Reading is stable.** The node of any data has a form as plain data, and this is read as the same node. -/
theorem ofDocument_stable (hdata : d.IsData) (h : ofDocument d = .ok node) :
    ∃ document, toDocument (.node node) = .ok document ∧ ofDocument document = .ok node := by
  cases hdata with
  | map hentries =>
    exact exists_document_of_map hentries (fun entry hentry v => stable_of_fieldValue (hentries entry hentry)) h
  | _ => cases h

/-- A literal without a schema and a source text, whose value is a list, beside a map that hides the data of a
node. -/
theorem ofDocument_stable_pair :
    ∃ d node, Value.IsData d ∧ ofDocument d = .ok node ∧
      ∃ document, toDocument (.node node) = .ok document ∧ ofDocument document = .ok node := by
  let value : Value := .list [.null, .bool true]
  let literal : Value := .map [(txt "node", .str (txt "literal")), (txt "value", value)]
  let options : Value := .map [(txt "default", .map [(txt "node", .str (txt "const"))])]
  let d : Value := .map [(txt "left", literal), (txt "node", .str (txt "pair")), (txt "right", options)]
  let node : Node := .composite (txt "pair") (.str unknownSchema)
    [(txt "left", .node (.literal (txt "[null, true]") value (.str unknownSchema))), (txt "right", options)]
  have hvalue : value.IsData := .list (List.forall_mem_cons.mpr ⟨.null, List.forall_mem_singleton.mpr (.bool true)⟩)
  have hliteral : literal.IsData :=
    .map (List.forall_mem_cons.mpr ⟨.str _, List.forall_mem_singleton.mpr hvalue⟩)
  have hoptions : options.IsData :=
    .map (List.forall_mem_singleton.mpr (.map (List.forall_mem_singleton.mpr (.str _))))
  have hd : d.IsData :=
    .map (List.forall_mem_cons.mpr
      ⟨hliteral, List.forall_mem_cons.mpr ⟨.str _, List.forall_mem_singleton.mpr hoptions⟩⟩)
  have hread : ofDocument d = .ok node := rfl
  exact ⟨d, node, hd, hread, ofDocument_stable hd hread⟩

end Tree

end Mixfix
