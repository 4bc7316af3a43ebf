import Mixfix.Binary64
import Mixfix.Decimal
import Mixfix.Proofs.Text
import Mixfix.Yaml

/-!
# What YAML gives back

What is relied on of what writes and reads YAML is `Yaml.Codec.Folds`: data that fits into a document is given back, but
for its texts with next line characters.

Such a character can be written as it is, and is a line break. Between apostrophes, where nothing is escaped, it is read
as a line break is read there: as a space, if it stands alone, and as nothing, if it begins a run of breaks. So a text
comes back as `Yaml.foldLines` has it, and `Yaml.isFolded` tells the texts that do not come back.
-/

set_option autoImplicit false

namespace Mixfix

theorem CodePoint.eq_ofChar_iff {c : CodePoint} {d : Char} : c = CodePoint.ofChar d ↔ c.val = d.toNat :=
  Fin.ext_iff

namespace Yaml

variable {c : CodePoint} {s : Text}

theorem isBreak_iff : isBreak c = true ↔ c.val = 0x0A ∨ c.val = 0x85 ∨ c.val = 0x2028 ∨ c.val = 0x2029 := by
  simp only [isBreak, Bool.or_eq_true, beq_iff_eq, CodePoint.eq_ofChar_iff, or_assoc]
  rfl

theorem isSpace_iff : isSpace c = true ↔ c.val = 0x20 := by
  rw [isSpace, beq_iff_eq, CodePoint.eq_ofChar_iff]
  rfl

/-! ## Folding -/

/-- A next line character. -/
def isNextLine (c : CodePoint) : Bool :=
  c.val == 0x85

theorem isNextLine_iff : isNextLine c = true ↔ c.val = 0x85 :=
  beq_iff_eq

theorem isBreak_of_isNextLine (h : isNextLine c = true) : isBreak c = true :=
  isBreak_iff.mpr (.inr (.inl (isNextLine_iff.mp h)))

theorem not_isNextLine (h : isBreak c = false) : isNextLine c = false := by
  rw [← Bool.not_eq_true]
  intro hnext
  rw [isBreak_of_isNextLine hnext] at h
  cases h

/-- What is read of a text that is written between apostrophes, inside of a run of breaks or not. A next line character
that begins a run is left out, or becomes a space where it is alone. Any other one becomes a line feed. -/
def foldBreaks : Bool → Text → Text
  | _, [] => []
  | inside, c :: rest =>
    if isNextLine c then
      if inside then '\n' :: foldBreaks true rest
      else if Text.begins isBreak rest then foldBreaks true rest
      else ' ' :: foldBreaks false rest
    else c :: foldBreaks (isBreak c) rest

/-- A text as it is read back. -/
def foldLines (s : Text) : Text :=
  if apostrophesAllowed s then foldBreaks false s else s

/-- Whether a text is not read back as it is: there is a next line character in it that is not escaped. -/
def isFolded (s : Text) : Bool :=
  apostrophesAllowed s && s.any isNextLine

theorem foldBreaks_of_none (h : s.any isNextLine = false) (inside : Bool) : foldBreaks inside s = s := by
  induction s generalizing inside with
  | nil => rfl
  | cons c s ih =>
    rw [List.any_cons, Bool.or_eq_false_iff] at h
    rw [foldBreaks, h.1, if_neg Bool.false_ne_true, ih h.2]

/-- No next line character is read. -/
theorem any_foldBreaks (inside : Bool) (s : Text) : (foldBreaks inside s).any isNextLine = false := by
  have hspace : isNextLine ' ' = false := rfl
  have hfeed : isNextLine '\n' = false := rfl
  fun_induction foldBreaks inside s with
  | case1 => rfl
  | case2 c rest _ ih => rw [List.any_cons, hfeed, ih]; rfl
  | case3 _ _ _ _ _ _ ih => exact ih
  | case4 _ _ _ _ _ _ ih => rw [List.any_cons, hspace, ih]; rfl
  | case5 _ c rest hc ih => rw [List.any_cons, Bool.eq_false_iff.mpr hc, ih]; rfl

/-- A space or a break. -/
def isLineGap (c : CodePoint) : Bool :=
  isSpace c || isBreak c

/-- Something is left of a next line character. -/
theorem any_isLineGap_foldBreaks (h : s.any isNextLine = true) (inside : Bool) :
    (foldBreaks inside s).any isLineGap = true := by
  fun_induction foldBreaks inside s with
  | case1 => cases h
  | case2 => rfl
  | case3 inside c rest hc hinside hbegins ih =>
    -- the break after it is read
    cases rest with
    | nil => cases hbegins
    | cons d rest =>
      have hgap : isLineGap d = true := by rw [isLineGap, show isBreak d = true from hbegins, Bool.or_true]
      rw [foldBreaks]
      split
      · rfl
      · rw [List.any_cons, hgap, Bool.true_or]
  | case4 => rfl
  | case5 inside c rest hc ih =>
    rw [List.any_cons, Bool.eq_false_iff.mpr hc, Bool.false_or] at h
    rw [List.any_cons, ih h, Bool.or_true]

/-- Breaks are read before what comes after them. -/
theorem foldBreaks_append (h : s.begins isBreak = false) (inside : Bool) (run : Text) :
    foldBreaks inside (run ++ s) = foldBreaks inside run ++ foldBreaks false s := by
  induction run generalizing inside with
  | nil =>
    cases s with
    | nil => rfl
    | cons c s =>
      rw [List.nil_append, foldBreaks, foldBreaks, foldBreaks, not_isNextLine h, if_neg Bool.false_ne_true,
        if_neg Bool.false_ne_true, List.nil_append]
  | cons c run ih =>
    have hbegins : Text.begins isBreak (run ++ s) = Text.begins isBreak run := by
      cases run with
      | nil => exact h
      | cons => rfl
    rw [List.cons_append, foldBreaks, foldBreaks, hbegins, ih, ih, ih]
    split_ifs <;> rfl

/-- What has no breaks is read as it is. -/
theorem foldBreaks_append_of_line {run : Text} (h : ∀ c ∈ run, isBreak c = false) (s : Text) :
    foldBreaks false (run ++ s) = run ++ foldBreaks false s := by
  induction run with
  | nil => rfl
  | cons c run ih =>
    obtain ⟨hc, hrun⟩ := List.forall_mem_cons.mp h
    rw [List.cons_append, foldBreaks, not_isNextLine hc, if_neg Bool.false_ne_true, hc, ih hrun, List.cons_append]

theorem foldLines_of_isFolded (h : isFolded s = false) : foldLines s = s := by
  unfold foldLines
  split
  · rename_i hallowed
    rw [isFolded, hallowed, Bool.true_and] at h
    exact foldBreaks_of_none h false
  · rfl

/-- A line comes back as it is. -/
theorem foldLines_of_line (h : s.any isBreak = false) : foldLines s = s := by
  apply foldLines_of_isFolded
  rw [← Bool.not_eq_true, isFolded, Bool.and_eq_true, List.any_eq_true]
  rintro ⟨-, c, hc, hnext⟩
  exact List.any_eq_false.mp h c hc (isBreak_of_isNextLine hnext)

/-- **A text comes back as it is exactly if it is not folded.** -/
theorem foldLines_eq_self_iff : foldLines s = s ↔ isFolded s = false := by
  refine ⟨fun hsame => ?_, foldLines_of_isFolded⟩
  rw [← Bool.not_eq_true, isFolded, Bool.and_eq_true]
  rintro ⟨hallowed, hnext⟩
  rw [foldLines, if_pos hallowed] at hsame
  rw [← hsame, any_foldBreaks] at hnext
  cases hnext

/-- Where there is neither a space nor a break, nothing was folded. -/
theorem eq_of_foldLines_eq {t : Text} (ht : t.any isLineGap = false) (h : foldLines s = t) : s = t := by
  rw [← h, eq_comm, foldLines_eq_self_iff, ← Bool.not_eq_true, isFolded, Bool.and_eq_true]
  rintro ⟨hallowed, hnext⟩
  rw [foldLines, if_pos hallowed] at h
  rw [← h, any_isLineGap_foldBreaks hnext] at ht
  cases ht

end Yaml

mutual
/-- A value with its texts as they are read back. The names of entries stay. -/
def Value.folded : Value → Value
  | .str s => .str (Yaml.foldLines s)
  | .list items => .list (foldedItems items)
  | .map entries => .map (foldedEntries entries)
  | .node n => .node n.folded
  | v => v

/-- A node with its texts as they are read back. The names of fields stay. -/
def Node.folded : Node → Node
  | .literal raw value schema => .literal (Yaml.foldLines raw) value.folded schema.folded
  | .identifier name schema => .identifier (Yaml.foldLines name) schema.folded
  | .const schema => .const schema.folded
  | .composite rule schema fields => .composite (Yaml.foldLines rule) schema.folded (foldedEntries fields)

/-- Each value of a list with its texts as they are read back. -/
def foldedItems : List Value → List Value
  | [] => []
  | value :: rest => value.folded :: foldedItems rest

/-- The value of each entry with its texts as they are read back. -/
def foldedEntries : List (Text × Value) → List (Text × Value)
  | [] => []
  | (name, value) :: rest => (name, value.folded) :: foldedEntries rest
end

theorem foldedEntries_eq_map (entries : List (Text × Value)) :
    foldedEntries entries = entries.map fun entry => (entry.1, entry.2.folded) := by
  induction entries with
  | nil => rfl
  | cons entry entries ih => rw [foldedEntries, ih, List.map_cons]

@[simp] theorem names_foldedEntries (entries : List (Text × Value)) :
    Entries.names (foldedEntries entries) = Entries.names entries := by
  rw [foldedEntries_eq_map, Entries.names, Entries.names, List.map_map]
  rfl

namespace Yaml

/-! ## What a document has room for -/

/-- Whether a text has room at a column. One with escapes has to stand within the width of a line. -/
def HasRoom (column : Nat) (s : Text) : Prop :=
  column < lineWidth ∨ apostrophesAllowed s = true

/-- The longest name with escapes that stands on a line with its value whatever the escapes are. -/
def keyLength : Nat := 100

/-- Whether the name of an entry can be read back. With escapes it must not be long. -/
def isKeyable (name : Text) : Bool :=
  !name.any isNextLine && (apostrophesAllowed name || decide (name.length ≤ keyLength))

theorem foldLines_of_isKeyable {name : Text} (h : isKeyable name = true) : foldLines name = name := by
  rw [isKeyable, Bool.and_eq_true, Bool.not_eq_true'] at h
  apply foldLines_of_isFolded
  rw [isFolded, h.1, Bool.and_false]

/-- Data that fits into a document at a column: no list, no empty map, integers that are not too long, doubles that are
numbers or infinite, maps whose names differ, and texts that have room. -/
inductive Fits : Nat → Value → Prop
  | null {column : Nat} : Fits column .null
  | bool {column : Nat} (b : Bool) : Fits column (.bool b)
  | int {column : Nat} {n : Int} : Decimal.digitCount (Decimal.ofInt n) ≤ Decimal.digitLimit → Fits column (.int n)
  | float {column : Nat} {x : Float} : Binary64.form x ≠ .nan → Fits column (.float x)
  | str {column : Nat} {s : Text} : HasRoom column s → Fits column (.str s)
  | map {column : Nat} {entries : List (Text × Value)} : entries ≠ [] → (Entries.names entries).Nodup →
      (∀ name ∈ Entries.names entries, isKeyable name = true ∧ HasRoom (column + 2) name) →
      (∀ entry ∈ entries, Fits (column + 2) entry.2) → Fits column (.map entries)

/-- What is relied on: data that fits is written, and what was written is read back with its texts folded. -/
structure Codec.Folds [Codec] : Prop where
  load_dump : ∀ {entries : Fields}, Fits 0 (.map entries) →
    ∃ text, Codec.dump entries = .ok text ∧ Codec.load text = .ok (.map (foldedEntries entries))

end Yaml

end Mixfix
