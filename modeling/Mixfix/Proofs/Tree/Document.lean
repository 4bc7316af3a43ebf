import Mixfix.Proofs.Entries
import Mixfix.Proofs.Except
import Mixfix.Tree.Formats

/-!
# Trees and their plain data

A tree goes to plain data and comes back. What its nodes may have in their fields is `Value.Storable`: nodes,
scalars, lists and maps, to any depth.

The way back is shorter than the way there: a node in a list is found again, and one in a map is not. So a tree
comes back exactly if no map hides a node (`Tree.ofDocument_iff_not_hides`).
-/

set_option autoImplicit false

namespace Mixfix

open Mixfix.Tree (isReserved kindKey)

/-- The kinds that are taken for nodes without fields. -/
def Tree.isLeafKind (kind : Text) : Bool :=
  kind == txt "literal" || kind == txt "identifier" || kind == txt "const"

namespace Value

/-- A value that a tree can have in a field. Undefined is only the value of a literal of this schema. -/
inductive Storable : Value → Prop
  | literal {raw : Text} {value schema : Value} :
      (value = .undefined → schema = .str (txt "undefined")) → Storable (.node (.literal raw value schema))
  | identifier (name : Text) (schema : Value) : Storable (.node (.identifier name schema))
  | const (schema : Value) : Storable (.node (.const schema))
  | composite {kind : Text} {schema : Value} {fields : List (Text × Value)} :
      Tree.isLeafKind kind = false → (∀ field ∈ fields, isReserved field.1 = false) →
      (∀ field ∈ fields, Storable field.2) → Storable (.node (.composite kind schema fields))
  | null : Storable .null
  | bool (b : Bool) : Storable (.bool b)
  | int (n : Int) : Storable (.int n)
  | float (x : Float) : Storable (.float x)
  | nan (occurrence : Occurrence) : Storable (.nan occurrence)
  | str (s : Text) : Storable (.str s)
  | list {items : List Value} : (∀ v ∈ items, Storable v) → Storable (.list items)
  | map {entries : List (Text × Value)} : kindKey ∉ Entries.names entries →
      (∀ entry ∈ entries, Storable entry.2) → Storable (.map entries)

/-- A node stands in a value, itself or in its lists and maps. -/
inductive HasNode : Value → Prop
  | node (n : Node) : HasNode (.node n)
  | item {items : List Value} {v : Value} : v ∈ items → HasNode v → HasNode (.list items)
  | entry {entries : List (Text × Value)} {entry : Text × Value} : entry ∈ entries → HasNode entry.2 →
      HasNode (.map entries)

/-- A map with a node in it stands in a value: itself, in its lists or in the fields of its nodes. -/
inductive Hides : Value → Prop
  | map {entries : List (Text × Value)} : HasNode (.map entries) → Hides (.map entries)
  | item {items : List Value} {v : Value} : v ∈ items → Hides v → Hides (.list items)
  | field {kind : Text} {schema : Value} {fields : List (Text × Value)} {field : Text × Value} :
      field ∈ fields → Hides field.2 → Hides (.node (.composite kind schema fields))

variable {items : List Value} {entries fields : List (Text × Value)} {kind : Text} {schema : Value}

@[simp] theorem hasNode_list : HasNode (.list items) ↔ ∃ v ∈ items, HasNode v := by
  constructor
  · rintro (_ | ⟨hv, hnode⟩)
    exact ⟨_, hv, hnode⟩
  · rintro ⟨v, hv, hnode⟩
    exact .item hv hnode

@[simp] theorem hasNode_map : HasNode (.map entries) ↔ ∃ entry ∈ entries, HasNode entry.2 := by
  constructor
  · rintro (_ | _ | ⟨hentry, hnode⟩)
    exact ⟨_, hentry, hnode⟩
  · rintro ⟨entry, hentry, hnode⟩
    exact .entry hentry hnode

@[simp] theorem hides_list : Hides (.list items) ↔ ∃ v ∈ items, Hides v := by
  constructor
  · rintro (_ | ⟨hv, hhides⟩)
    exact ⟨_, hv, hhides⟩
  · rintro ⟨v, hv, hhides⟩
    exact .item hv hhides

@[simp] theorem hides_map : Hides (.map entries) ↔ HasNode (.map entries) := by
  constructor
  · rintro ⟨hnode⟩
    exact hnode
  · exact .map

@[simp] theorem hides_composite :
    Hides (.node (.composite kind schema fields)) ↔ ∃ field ∈ fields, Hides field.2 := by
  constructor
  · rintro (_ | _ | ⟨hfield, hhides⟩)
    exact ⟨_, hfield, hhides⟩
  · rintro ⟨field, hfield, hhides⟩
    exact .field hfield hhides

end Value

/-! ## Lists of documents -/

namespace Tree

variable {items documents : List Value} {entries fields : List (Text × Value)} {kind : Text} {schema : Value}
  {tree : Node}

theorem itemDocuments_eq_ok :
    itemDocuments items = .ok documents ↔ List.Forall₂ (fun v d => valueDocument v = .ok d) items documents := by
  induction items generalizing documents with
  | nil =>
    rw [itemDocuments, List.forall₂_nil_left_iff, Except.ok.injEq]
    exact eq_comm
  | cons v items ih =>
    rw [itemDocuments, List.forall₂_cons_left_iff, bind_eq_ok]
    constructor
    · rintro ⟨d, hd, h⟩
      obtain ⟨ds, hds, h⟩ := bind_eq_ok.mp h
      cases h
      exact ⟨d, ds, hd, ih.mp hds, rfl⟩
    · rintro ⟨d, ds, hd, hds, rfl⟩
      exact ⟨d, hd, bind_eq_ok.mpr ⟨ds, ih.mpr hds, rfl⟩⟩

/-- An entry and its form as plain data. -/
def EntryDocument (entry document : Text × Value) : Prop :=
  document.1 = entry.1 ∧ valueDocument entry.2 = .ok document.2

/-- The entries keep their names. -/
theorem names_of_forall₂ {documents : List (Text × Value)} (h : List.Forall₂ EntryDocument entries documents) :
    Entries.names documents = Entries.names entries := by
  induction h with
  | nil => rfl
  | cons hentry _ ih => exact congrArg₂ List.cons hentry.1 ih

theorem free_of_forall₂ {documents : List (Text × Value)} (h : List.Forall₂ EntryDocument fields documents)
    (hfree : ∀ field ∈ fields, isReserved field.1 = false) : ∀ d ∈ documents, isReserved d.1 = false := by
  intro d hd
  have hkey : d.1 ∈ Entries.names fields := names_of_forall₂ h ▸ List.mem_map_of_mem hd
  obtain ⟨field, hfield, hname⟩ := List.mem_map.mp hkey
  exact hname ▸ hfree field hfield

theorem entryDocuments_of_forall₂ {documents : List (Text × Value)}
    (h : List.Forall₂ EntryDocument entries documents) : entryDocuments entries = .ok documents := by
  induction h with
  | nil => rfl
  | @cons entry document _ _ hentry _ ih =>
    obtain ⟨hkey, hvalue⟩ := hentry
    rw [entryDocuments, hvalue, ok_bind, ih, ok_bind, ← hkey]
    rfl

theorem fieldDocuments_of_forall₂ {documents : List (Text × Value)}
    (hfree : ∀ field ∈ fields, isReserved field.1 = false) (h : List.Forall₂ EntryDocument fields documents) :
    fieldDocuments kind fields = .ok documents := by
  induction h with
  | nil => rfl
  | @cons field document _ _ hfield _ ih =>
    obtain ⟨hkey, hvalue⟩ := hfield
    obtain ⟨hfirst, hrest⟩ := List.forall_mem_cons.mp hfree
    rw [fieldDocuments, hfirst, if_neg Bool.false_ne_true, hvalue, ok_bind, ih hrest, ok_bind, ← hkey]
    rfl

theorem itemsOf_eq_ok :
    itemsOf documents = .ok items ↔ List.Forall₂ (fun d v => fieldValue d = .ok v) documents items := by
  induction documents generalizing items with
  | nil =>
    rw [itemsOf, List.forall₂_nil_left_iff, Except.ok.injEq]
    exact eq_comm
  | cons d documents ih =>
    rw [itemsOf, List.forall₂_cons_left_iff, bind_eq_ok]
    constructor
    · rintro ⟨v, hv, h⟩
      obtain ⟨vs, hvs, h⟩ := bind_eq_ok.mp h
      cases h
      exact ⟨v, vs, hv, ih.mp hvs, rfl⟩
    · rintro ⟨v, vs, hv, hvs, rfl⟩
      exact ⟨v, hv, bind_eq_ok.mpr ⟨vs, ih.mpr hvs, rfl⟩⟩

/-- The fields of a node whose keys are free. -/
theorem fieldsOf_eq_ok {documents : List (Text × Value)} (hfree : ∀ field ∈ documents, isReserved field.1 = false) :
    fieldsOf documents = .ok fields ↔
      List.Forall₂ (fun d f => d.1 = f.1 ∧ fieldValue d.2 = .ok f.2) documents fields := by
  induction documents generalizing fields with
  | nil =>
    rw [fieldsOf, List.forall₂_nil_left_iff, Except.ok.injEq]
    exact eq_comm
  | cons d documents ih =>
    obtain ⟨hfirst, hrest⟩ := List.forall_mem_cons.mp hfree
    rw [fieldsOf, hfirst, if_neg Bool.false_ne_true, List.forall₂_cons_left_iff, bind_eq_ok]
    constructor
    · rintro ⟨v, hv, h⟩
      obtain ⟨vs, hvs, h⟩ := bind_eq_ok.mp h
      cases h
      exact ⟨(d.1, v), vs, ⟨rfl, hv⟩, (ih hrest).mp hvs, rfl⟩
    · rintro ⟨⟨key, v⟩, vs, ⟨rfl, hv⟩, hvs, rfl⟩
      exact ⟨v, hv, bind_eq_ok.mpr ⟨vs, (ih hrest).mpr hvs, rfl⟩⟩

/-! ## Nodes -/

/-- The kind and the schema of a node are no fields. -/
theorem fieldsOf_heading (documents : Fields) : fieldsOf (heading kind schema ++ documents) = fieldsOf documents :=
  rfl

/-- A map with a kind is read as a node wherever it stands. -/
theorem fieldValue_map_of_kind (h : Entries.has kindKey entries = true) :
    fieldValue (.map entries) = (ofDocument (.map entries)).map .node := by
  rw [fieldValue, if_pos h, ofDocument]
  cases headingOf entries with
  | error e => rfl
  | ok heading =>
    cases heading with
    | leaf n => rfl
    | composite rule schema =>
      simp only [ok_bind]
      cases fieldsOf entries with
      | error e => rfl
      | ok fields => rfl

/-- A map without a kind is read as it stands. -/
theorem fieldValue_map_of_none (h : kindKey ∉ Entries.names entries) :
    fieldValue (.map entries) = .ok (.map entries) := by
  have hnone : Entries.has kindKey entries = false := by
    rw [Entries.has, Entries.find?_eq_none.mpr h]
    rfl
  rw [fieldValue, hnone, if_neg Bool.false_ne_true]

theorem find?_kindKey (documents : Fields) :
    Entries.find? kindKey (heading kind schema ++ documents) = some (.str kind) := rfl

theorem find?_schemaKey (documents : Fields) :
    Entries.find? schemaKey (heading kind schema ++ documents) = some schema := rfl

theorem headingOf_composite (hkind : isLeafKind kind = false) (documents : Fields) :
    headingOf (heading kind schema ++ documents) = .ok (.composite kind schema) := by
  obtain ⟨hleaf, hconst⟩ := Bool.or_eq_false_iff.mp hkind
  obtain ⟨hliteral, hidentifier⟩ := Bool.or_eq_false_iff.mp hleaf
  unfold headingOf
  rw [find?_kindKey, find?_schemaKey]
  simp only [hliteral, hidentifier, hconst, Bool.false_eq_true, if_false, Option.getD_some]

/-- A node whose kind is not taken is made of its fields. -/
theorem ofDocument_composite (hkind : isLeafKind kind = false) (documents : Fields) :
    ofDocument (.map (heading kind schema ++ documents)) =
      (fieldsOf documents).map fun fields => .composite kind schema fields := by
  rw [ofDocument, headingOf_composite hkind, ok_bind]
  simp only [fieldsOf_heading]
  cases fieldsOf documents with
  | error e => rfl
  | ok fields => rfl

/-- **A literal comes back.** Only undefined is left out, and the schema tells that it was there. -/
theorem ofDocument_literal {raw : Text} {value : Value} (h : value = .undefined → schema = .str (txt "undefined")) :
    ∃ entries, nodeDocument (.literal raw value schema) = .ok (.map (heading (txt "literal") schema ++ entries)) ∧
      ofDocument (.map (heading (txt "literal") schema ++ entries)) = .ok (.literal raw value schema) := by
  cases value with
  | undefined =>
    obtain rfl := h rfl
    exact ⟨[(txt "raw", .str raw)], rfl, rfl⟩
  | _ => exact ⟨[(txt "raw", .str raw), (txt "value", _)], rfl, rfl⟩

/-- How a value in a field fares: it has a form as plain data, which is the value itself if there is no node in
it, and is read back as the value if no map hides one. -/
structure Fares (v d : Value) : Prop where
  document : valueDocument v = .ok d
  same : d = v ↔ ¬v.HasNode
  back : fieldValue d = .ok v ↔ ¬v.Hides

theorem Fares.of_scalar {v : Value} (hdocument : valueDocument v = .ok v) (hnode : ¬v.HasNode) (hhides : ¬v.Hides)
    (hback : fieldValue v = .ok v) : Fares v v :=
  ⟨hdocument, iff_of_true rfl hnode, iff_of_true hback hhides⟩

/-- A node becomes a map that tells its kind. -/
theorem Fares.of_node {documents : Fields}
    (hdocument : nodeDocument tree = .ok (.map (heading kind schema ++ documents)))
    (hback : ofDocument (.map (heading kind schema ++ documents)) = .ok tree ↔ ¬Value.Hides (.node tree)) :
    Fares (.node tree) (.map (heading kind schema ++ documents)) := by
  refine ⟨?_, iff_of_false nofun (not_not_intro (.node tree)), ?_⟩
  · rwa [valueDocument]
  · rw [fieldValue_map_of_kind rfl, ← hback, map_eq_ok]
    simp

/-- The entries of a map fare as their values do. -/
structure EntryFares (entry document : Text × Value) : Prop where
  key : document.1 = entry.1
  value : Fares entry.2 document.2

theorem EntryFares.entryDocument {entry document : Text × Value} (h : EntryFares entry document) :
    EntryDocument entry document :=
  ⟨h.key, h.value.document⟩

/-- Fields come back if no map in them hides a node. -/
theorem fieldsOf_of_fares {documents : List (Text × Value)} (h : List.Forall₂ EntryFares fields documents)
    (hfree : ∀ field ∈ fields, isReserved field.1 = false) :
    fieldsOf documents = .ok fields ↔ ∀ field ∈ fields, ¬field.2.Hides := by
  rw [fieldsOf_eq_ok (free_of_forall₂ (h.imp fun _ _ => EntryFares.entryDocument) hfree)]
  refine forall₂_iff_forall_mem (h.flip.imp fun d field hfield => ?_)
  rw [and_iff_right hfield.key]
  exact hfield.value.back

/-- Entries are their own form as plain data if there is no node in them. -/
theorem entries_eq_of_fares {documents : List (Text × Value)} (h : List.Forall₂ EntryFares entries documents) :
    documents = entries ↔ ∀ entry ∈ entries, ¬entry.2.HasNode := by
  rw [← List.forall₂_eq_eq_eq]
  refine forall₂_iff_forall_mem (h.flip.imp fun d entry hentry => ?_)
  rw [Prod.ext_iff, and_iff_right hentry.key]
  exact hentry.value.same

/-- **Every value that can be stored has a form as plain data**, and this tells where it comes back. -/
theorem exists_fares {v : Value} (h : v.Storable) : ∃ d, Fares v d := by
  induction h with
  | null | bool | int | float | nan | str => exact ⟨_, .of_scalar rfl nofun nofun rfl⟩
  | @literal raw value schema hundefined =>
    obtain ⟨entries, hdocument, hback⟩ := ofDocument_literal hundefined
    exact ⟨_, .of_node hdocument (iff_of_true hback nofun)⟩
  | identifier name schema =>
    have hdocument : nodeDocument (.identifier name schema) =
      .ok (.map (heading (txt "identifier") schema ++ [(txt "name", .str name)])) := rfl
    exact ⟨_, .of_node hdocument (iff_of_true rfl nofun)⟩
  | const schema =>
    have hdocument : nodeDocument (.const schema) = .ok (.map (heading (txt "const") schema ++ [])) := rfl
    exact ⟨_, .of_node hdocument (iff_of_true rfl nofun)⟩
  | @composite kind schema fields hkind hfree _ ih =>
    obtain ⟨documents, hfares⟩ : ∃ documents, List.Forall₂ EntryFares fields documents :=
      exists_forall₂ fun field hfield =>
        let ⟨d, hd⟩ := ih field hfield
        ⟨(field.1, d), rfl, hd⟩
    have hdocument : nodeDocument (.composite kind schema fields) = .ok (.map (heading kind schema ++ documents)) := by
      rw [nodeDocument, fieldDocuments_of_forall₂ hfree (hfares.imp fun _ _ => EntryFares.entryDocument)]
      rfl
    refine ⟨_, .of_node hdocument ?_⟩
    rw [ofDocument_composite hkind, map_eq_ok, Value.hides_composite]
    simp only [Node.composite.injEq, true_and, exists_eq_right, fieldsOf_of_fares hfares hfree, not_exists, not_and]
  | @list items _ ih =>
    obtain ⟨documents, hfares⟩ := exists_forall₂ ih
    refine ⟨.list documents, ?_, ?_, ?_⟩
    · rw [valueDocument, itemDocuments_eq_ok.mpr (hfares.imp fun _ _ => Fares.document)]
      rfl
    · rw [Value.list.injEq, Value.hasNode_list, ← List.forall₂_eq_eq_eq,
        forall₂_iff_forall_mem (hfares.flip.imp fun _ _ => Fares.same)]
      simp
    · have hitems : itemsOf documents = .ok items ↔ ∀ v ∈ items, ¬v.Hides :=
        itemsOf_eq_ok.trans (forall₂_iff_forall_mem (hfares.flip.imp fun _ _ => Fares.back))
      rw [fieldValue, bind_eq_ok, Value.hides_list]
      simp only [pure, Except.pure, Except.ok.injEq, Value.list.injEq, exists_eq_right, hitems, not_exists, not_and]
  | @map entries hkind _ ih =>
    obtain ⟨documents, hfares⟩ : ∃ documents, List.Forall₂ EntryFares entries documents :=
      exists_forall₂ fun entry hentry =>
        let ⟨d, hd⟩ := ih entry hentry
        ⟨(entry.1, d), rfl, hd⟩
    have hdocuments := hfares.imp fun _ _ => EntryFares.entryDocument
    have hnames : kindKey ∉ Entries.names documents := names_of_forall₂ hdocuments ▸ hkind
    have hsame : Value.map documents = .map entries ↔ ¬Value.HasNode (.map entries) := by
      rw [Value.map.injEq, entries_eq_of_fares hfares, Value.hasNode_map]
      simp
    refine ⟨.map documents, ?_, hsame, ?_⟩
    · rw [valueDocument, entryDocuments_of_forall₂ hdocuments]
      rfl
    · rw [fieldValue_map_of_none hnames, Except.ok.injEq, hsame, Value.hides_map]

/-- The form of a node is a map that begins with its kind and its schema. -/
theorem exists_heading {d : Value} (h : nodeDocument tree = .ok d) :
    ∃ kind schema documents, d = .map (heading kind schema ++ documents) := by
  cases tree with
  | literal raw value schema =>
    cases h
    exact ⟨_, _, _, congrArg Value.map (List.append_assoc _ _ _)⟩
  | identifier name schema =>
    cases h
    exact ⟨_, _, _, rfl⟩
  | const schema =>
    cases h
    exact ⟨_, _, [], rfl⟩
  | composite rule schema fields =>
    obtain ⟨documents, -, h⟩ := bind_eq_ok.mp h
    cases h
    exact ⟨_, _, _, rfl⟩

theorem Fares.nodeDocument {d : Value} (h : Fares (.node tree) d) : nodeDocument tree = .ok d := by
  simpa only [valueDocument] using h.document

/-- A node is read from its form as it is in a field. -/
theorem Fares.ofDocument {d : Value} (h : Fares (.node tree) d) :
    ofDocument d = .ok tree ↔ ¬Value.Hides (.node tree) := by
  obtain ⟨kind, schema, documents, rfl⟩ := exists_heading h.nodeDocument
  rw [← h.back, fieldValue_map_of_kind rfl, map_eq_ok]
  simp

/-- **A tree comes back from plain data exactly if no map in it hides a node.** -/
theorem ofDocument_iff_not_hides (h : Value.Storable (.node tree)) :
    ∃ document, toDocument (.node tree) = .ok document ∧
      (ofDocument document = .ok tree ↔ ¬Value.Hides (.node tree)) := by
  obtain ⟨d, hfares⟩ := exists_fares h
  exact ⟨d, hfares.nodeDocument, hfares.ofDocument⟩

/-- A call with a list of arguments and a map of options. -/
def call (option : Value) : Node :=
  .composite (txt "call") (.str (txt "number"))
    [(txt "arguments", .list [.node (.identifier (txt "x") (.str (txt "number"))), .null]),
      (txt "options", .map [(txt "depth", option)])]

theorem storable_call {option : Value} (h : option.Storable) : Value.Storable (.node (call option)) := by
  have harguments : Value.Storable (.list [.node (.identifier (txt "x") (.str (txt "number"))), .null]) :=
    .list (by simpa using ⟨.identifier _ _, .null⟩)
  have hoptions : Value.Storable (.map [(txt "depth", option)]) :=
    .map (show kindKey ∉ [txt "depth"] by decide) (by simpa using h)
  have hfree : ∀ key ∈ [txt "arguments", txt "options"], isReserved key = false := by decide
  exact .composite (by decide) (by simpa using hfree) (by simpa using ⟨harguments, hoptions⟩)

theorem hides_call {option : Value} : Value.Hides (.node (call option)) ↔ option.HasNode := by
  have harguments : ¬Value.Hides (.list [.node (.identifier (txt "x") (.str (txt "number"))), .null]) := by
    rw [Value.hides_list]
    rintro ⟨v, hv, hhides⟩
    rcases List.mem_pair.mp hv with rfl | rfl <;> cases hhides
  simp [call, harguments]

/-- A list among the options comes back. -/
theorem ofDocument_iff_not_hides_call :
    ∃ document, toDocument (.node (call (.list [.int 2]))) = .ok document ∧
      ofDocument document = .ok (call (.list [.int 2])) := by
  have hstorable : Value.Storable (.node (call (.list [.int 2]))) :=
    storable_call (.list (by simpa using .int 2))
  obtain ⟨document, hdocument, hback⟩ := ofDocument_iff_not_hides hstorable
  have hnone : ¬Value.HasNode (.list [.int 2]) := by
    rw [Value.hasNode_list]
    rintro ⟨v, hv, hnode⟩
    obtain rfl := List.mem_singleton.mp hv
    cases hnode
  exact ⟨document, hdocument, hback.mpr (hides_call.not.mpr hnone)⟩

/-- A node among the options comes back as a map. -/
theorem not_survivesDocument_call :
    Value.Storable (.node (call (.node (.const (.str (txt "\"a\"")))))) ∧
      survivesDocument (.node (call (.node (.const (.str (txt "\"a\"")))))) = .ok false :=
  ⟨storable_call (.const _), eq_ok_of_toOption (by decide +kernel)⟩

end Tree

end Mixfix
