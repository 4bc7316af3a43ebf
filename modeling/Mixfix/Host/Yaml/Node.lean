import Mixfix.Host.Yaml.Lexeme

/-!
# Nodes of YAML

The lexemes of a YAML text as one document: scalars, lists and maps, each with its tag. An alias is the
node that was anchored under its name before it. A node without a tag is a list, a map or a text by what
it is, and a plain scalar is what it looks like.
-/

set_option autoImplicit false

namespace Mixfix.Yaml

/-- A node of a document. -/
inductive Content
  | scalar (tag : Tag) (s : Text)
  | list (tag : Tag) (items : List Content)
  | map (tag : Tag) (entries : List (Content × Content))

namespace Content

/-- The tag of a node. -/
def tag : Content → Tag
  | .scalar tag _ => tag
  | .list tag _ => tag
  | .map tag _ => tag

/-- What a plain scalar is. -/
def plain (s : Text) : Content :=
  .scalar (.scalar (looks s)) s

/-- A node that is missing. -/
def missing : Content :=
  plain []

end Content

/-- Where a node stands. A list that is a key or a value may begin at the column of its map. -/
inductive Position
  | bracket
  | item
  | entry
  deriving DecidableEq

/-- The lexemes that are left, and the nodes that were anchored. -/
structure Rest where
  lexemes : List Lexeme
  anchors : Entries Content

namespace Rest

/-- What is left after some lexemes. -/
def drop (count : Nat) (rest : Rest) : Rest :=
  { rest with lexemes := rest.lexemes.drop count }

/-- The error where no other lexeme is expected. -/
def unexpected {α : Type} (rest : Rest) : Except ReadError α :=
  match rest.lexemes with
  | .broken error :: _ => .error error
  | _ => .error .malformed

/-- Anchors a node, if it has an anchor. -/
def anchor (name : Option Text) (node : Content) (rest : Rest) : Except ReadError Rest :=
  match name with
  | none => .ok rest
  | some name =>
    if Entries.has name rest.anchors then .error .malformed
    else .ok { rest with anchors := rest.anchors.put name node }

end Rest

/-- What is said about a node before it. -/
structure Properties where
  anchor : Option Text
  tag : Option TagName

/-- The anchor and the tag in front, in any order. -/
def properties (rest : Rest) : Properties × Rest :=
  match rest.lexemes with
  | .anchor name :: .tag tag :: _ => (⟨some name, some tag⟩, rest.drop 2)
  | .tag tag :: .anchor name :: _ => (⟨some name, some tag⟩, rest.drop 2)
  | .anchor name :: _ => (⟨some name, none⟩, rest.drop 1)
  | .tag tag :: _ => (⟨none, some tag⟩, rest.drop 1)
  | _ => (⟨none, none⟩, rest)

/-- What the tag of a node says. -/
inductive Claim
  | none
  /-- The node is what it looks like. -/
  | open
  | known (tag : Tag)

/-- What a written tag says, if its handle is known. -/
def claim (handles : Entries Text) : Option TagName → Except ReadError Claim
  | none => .ok .none
  | some name =>
    match name.resolve handles with
    | some full => .ok (if full == openTag then .open else .known (.ofName full))
    | none => .error .malformed

/-- The tag of a list or a map. -/
def Claim.orElse (standard : Tag) : Claim → Tag
  | .known tag => tag
  | _ => standard

/-- The tag of a scalar. -/
def Claim.ofScalar (isPlain : Bool) (s : Text) : Claim → Tag
  | .known tag => tag
  | .open => .scalar (looks s)
  | .none => if isPlain then .scalar (looks s) else .scalar .text

/-- Whether no value follows a key in block layout, or no key a question mark. -/
def endsEntry : Lexeme → Bool
  | .key | .value | .blockEnd => true
  | _ => false

/-- Whether an item of a list in block layout is missing. -/
def endsItem : Position → Lexeme → Bool
  | _, .dash | _, .blockEnd => true
  | .entry, .key | .entry, .value => true
  | _, _ => false

/-- Whether a node between brackets is missing. -/
def endsFlow (closing : Lexeme → Bool) : Lexeme → Bool
  | .comma => true
  | lexeme => closing lexeme

/-- The bracket at the end of a list. -/
def closesList : Lexeme → Bool
  | .closeList => true
  | _ => false

/-- The brace at the end of a map. -/
def closesMap : Lexeme → Bool
  | .closeMap => true
  | _ => false

/-- Whether a lexeme with a property is next. -/
def Rest.meets (p : Lexeme → Bool) (rest : Rest) : Bool :=
  (rest.lexemes.head?.map p).getD false

/-- The colon before a value. -/
def isColon : Lexeme → Bool
  | .value => true
  | _ => false

mutual
/-- A node. -/
def node (handles : Entries Text) (position : Position) : Nat → Rest → Except ReadError (Content × Rest)
  | 0, _ => .error .malformed
  | fuel + 1, rest =>
    match rest.lexemes with
    | .alias name :: _ =>
      match rest.anchors.find? name with
      | some node => .ok (node, rest.drop 1)
      | none => .error .malformed
    | _ => do
      let (said, rest) := properties rest
      let claim ← claim handles said.tag
      let (node, rest) ← bare handles position said claim fuel rest
      return (node, ← rest.anchor said.anchor node)

/-- A node after what is said about it. -/
def bare (handles : Entries Text) (position : Position) (said : Properties) (claim : Claim) :
    Nat → Rest → Except ReadError (Content × Rest)
  | 0, _ => .error .malformed
  | fuel + 1, rest =>
    match position, rest.lexemes with
    | _, .scalar isPlain s :: _ => .ok (.scalar (claim.ofScalar isPlain s) s, rest.drop 1)
    | _, .openList :: _ => do
      let (items, rest) ← flowItems handles fuel (rest.drop 1)
      return (.list (claim.orElse .list) items, rest)
    | _, .openMap :: _ => do
      let (entries, rest) ← flowEntries handles fuel (rest.drop 1)
      return (.map (claim.orElse .map) entries, rest)
    | .entry, .dash :: _ => do
      let (items, rest) ← blockItems handles .entry fuel rest
      return (.list (claim.orElse .list) items, rest)
    | .item, .blockList :: _ | .entry, .blockList :: _ => do
      let (items, rest) ← blockItems handles .item fuel (rest.drop 1)
      return (.list (claim.orElse .list) items, rest)
    | .item, .blockMap :: _ | .entry, .blockMap :: _ => do
      let (entries, rest) ← blockEntries handles fuel (rest.drop 1)
      return (.map (claim.orElse .map) entries, rest)
    | _, _ =>
      if said.anchor.isSome || said.tag.isSome then
        .ok (.scalar (claim.ofScalar true []) [], rest)
      else rest.unexpected

/-- A node unless it is missing. -/
def nodeUnless (handles : Entries Text) (position : Position) (absent : Lexeme → Bool) :
    Nat → Rest → Except ReadError (Content × Rest)
  | 0, _ => .error .malformed
  | fuel + 1, rest =>
    if rest.meets absent then .ok (.missing, rest) else node handles position fuel rest

/-- The value after a colon, if there is one. -/
def valueUnless (handles : Entries Text) (position : Position) (absent : Lexeme → Bool) :
    Nat → Rest → Except ReadError (Content × Rest)
  | 0, _ => .error .malformed
  | fuel + 1, rest =>
    if rest.meets isColon then nodeUnless handles position absent fuel (rest.drop 1)
    else .ok (.missing, rest)

/-- The items of a list in block layout. One at the column of its map has no lexeme at its end. -/
def blockItems (handles : Entries Text) (position : Position) :
    Nat → Rest → Except ReadError (List Content × Rest)
  | 0, _ => .error .malformed
  | fuel + 1, rest =>
    match rest.lexemes with
    | .dash :: _ => do
      let (item, rest) ← nodeUnless handles .item (endsItem position) fuel (rest.drop 1)
      let (items, rest) ← blockItems handles position fuel rest
      return (item :: items, rest)
    | .blockEnd :: _ => .ok ([], if position = .entry then rest else rest.drop 1)
    | _ => if position = .entry then .ok ([], rest) else rest.unexpected

/-- The entries of a map in block layout. -/
def blockEntries (handles : Entries Text) :
    Nat → Rest → Except ReadError (List (Content × Content) × Rest)
  | 0, _ => .error .malformed
  | fuel + 1, rest =>
    match rest.lexemes with
    | .key :: _ => do
      let (key, rest) ← nodeUnless handles .entry endsEntry fuel (rest.drop 1)
      let (value, rest) ← valueUnless handles .entry endsEntry fuel rest
      let (entries, rest) ← blockEntries handles fuel rest
      return ((key, value) :: entries, rest)
    | .blockEnd :: _ => .ok ([], rest.drop 1)
    | _ => rest.unexpected

/-- The items of a list between brackets. An item may be a map of one entry. -/
def flowItems (handles : Entries Text) : Nat → Rest → Except ReadError (List Content × Rest)
  | 0, _ => .error .malformed
  | fuel + 1, rest =>
    match rest.lexemes with
    | .closeList :: _ => .ok ([], rest.drop 1)
    | lexemes => do
      let (item, rest) ←
        match lexemes with
        | .key :: _ => do
          let absent := endsFlow closesList
          let (key, rest) ← nodeUnless handles .bracket (fun l => isColon l || absent l) fuel (rest.drop 1)
          let (value, rest) ← valueUnless handles .bracket absent fuel rest
          pure (Content.map .map [(key, value)], rest)
        | _ => node handles .bracket fuel rest
      match rest.lexemes with
      | .comma :: _ =>
        let (items, rest) ← flowItems handles fuel (rest.drop 1)
        return (item :: items, rest)
      | .closeList :: _ => return ([item], rest.drop 1)
      | _ => rest.unexpected

/-- The entries of a map between braces. A key may have no value. -/
def flowEntries (handles : Entries Text) :
    Nat → Rest → Except ReadError (List (Content × Content) × Rest)
  | 0, _ => .error .malformed
  | fuel + 1, rest =>
    match rest.lexemes with
    | .closeMap :: _ => .ok ([], rest.drop 1)
    | lexemes => do
      let (entry, rest) ←
        match lexemes with
        | .key :: _ => do
          let absent := endsFlow closesMap
          let (key, rest) ← nodeUnless handles .bracket (fun l => isColon l || absent l) fuel (rest.drop 1)
          let (value, rest) ← valueUnless handles .bracket absent fuel rest
          pure ((key, value), rest)
        | _ => do
          let (key, rest) ← node handles .bracket fuel rest
          pure ((key, Content.missing), rest)
      match rest.lexemes with
      | .comma :: _ =>
        let (entries, rest) ← flowEntries handles fuel (rest.drop 1)
        return (entry :: entries, rest)
      | .closeMap :: _ => return ([entry], rest.drop 1)
      | _ => rest.unexpected
end

/-! ## Documents -/

/-- What the directives before a document say. -/
structure Heading where
  versioned : Bool
  handles : Entries Text

/-- What one more directive says. There is one version at most, and it is of the first kind, and a
handle is explained once. -/
def Heading.add (heading : Heading) : Directive → Except ReadError Heading
  | .version major =>
    if heading.versioned || major != 1 then .error .malformed else .ok { heading with versioned := true }
  | .handle handle start =>
    if Entries.has handle heading.handles then .error .malformed
    else .ok { heading with handles := heading.handles.put handle start }
  | .other => .ok heading

/-- The directives in front. -/
def headingOf : List Lexeme → Heading → Except ReadError (Heading × List Lexeme)
  | .directive d :: lexemes, heading => do headingOf lexemes (← heading.add d)
  | lexemes, heading => .ok (heading, lexemes)

/-- The lexemes after the marks of ended documents. -/
def afterEnds (lexemes : List Lexeme) : List Lexeme :=
  lexemes.dropWhile fun
    | .documentEnd => true
    | _ => false

/-- Whether a document has nothing in it. -/
def endsDocument : Lexeme → Bool
  | .directive _ | .documentStart | .documentEnd | .finish => true
  | _ => false

/-- The fuel for a document: a node takes a lexeme, and is found by four steps at most. -/
def nodeFuel (lexemes : List Lexeme) : Nat :=
  4 * lexemes.length + 4

/-- The document of a text, with handles for tags, where nothing but its end may follow. -/
def documentOf (handles : Entries Text) (absent : Lexeme → Bool) (lexemes : List Lexeme) :
    Except ReadError Content := do
  let (node, rest) ← nodeUnless handles .item absent (nodeFuel lexemes) ⟨lexemes, []⟩
  match afterEnds rest.lexemes with
  | [.finish] => return node
  | others => Rest.unexpected ⟨others, []⟩

/-- The one document of some lexemes, if there is any. Directives need a mark after them. -/
def document? (lexemes : List Lexeme) : Except ReadError (Option Content) :=
  match lexemes with
  | [.finish] => .ok none
  | .directive _ :: _ | .documentStart :: _ => do
    let (heading, lexemes) ← headingOf lexemes ⟨false, []⟩
    match lexemes with
    | .documentStart :: lexemes =>
      return some (← documentOf (heading.handles ++ standardHandles) endsDocument lexemes)
    | others => Rest.unexpected ⟨others, []⟩
  | _ => do return some (← documentOf standardHandles (fun _ => false) lexemes)

end Mixfix.Yaml
