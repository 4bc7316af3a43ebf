import Mixfix.Proofs.Grammar

/-!
# Grammars with one more rule

A rule that is put into a rule list opens a level of its own in the grammar, or goes among the rules of a
level that is there. `Ranks.Gains` follows this through the insertion of the later rules of the list, and
`build_extends` says it of the grammars: the levels that follow are the same, but where the rule opens a
level their indices are not.
-/

set_option autoImplicit false

namespace Mixfix

namespace Grammar

/-! ## Ranks -/

/-- A rule that binds looser than all ranks goes before them. -/
theorem insertRule_of_looser {rule : Rule} {ranks : Ranks}
    (h : ∀ entry ∈ ranks, rule.precedence < entry.1) :
    insertRule rule ranks = (rule.precedence, [rule]) :: ranks := by
  cases ranks with
  | nil => rfl
  | cons entry ranks => exact insertRule_cons_of_lt (h entry List.mem_cons_self)

/-- Ranks, and these ranks with a rule put in: before all ranks of higher precedences, or somewhere among
the rules of its precedence. -/
inductive Ranks.Gains (rule : Rule) : Ranks → Ranks → Prop
  | own {ranks : Ranks} (htighter : ∀ entry ∈ ranks, rule.precedence < entry.1) :
      Gains rule ranks ((rule.precedence, [rule]) :: ranks)
  | among (before after : List Rule) (ranks : Ranks) :
      Gains rule ((rule.precedence, before ++ after) :: ranks)
        ((rule.precedence, before ++ rule :: after) :: ranks)
  | later {entry : Int × List Rule} {ranks more : Ranks} (hlooser : entry.1 < rule.precedence)
      (h : Gains rule ranks more) : Gains rule (entry :: ranks) (entry :: more)

/-- The insertion of a rule puts it into the ranks. -/
theorem Ranks.Ordered.gains {ranks : Ranks} (h : Ranks.Ordered ranks) (rule : Rule) :
    Ranks.Gains rule ranks (Grammar.insertRule rule ranks) := by
  induction ranks with
  | nil => exact .own (List.forall_mem_nil _)
  | cons entry ranks ih =>
    have hfirst := (List.pairwise_cons.mp h.ascending).1
    rcases Int.lt_trichotomy rule.precedence entry.1 with hlt | heq | hgt
    · rw [insertRule_cons_of_lt hlt]
      exact .own (List.forall_mem_cons.mpr
        ⟨hlt, fun later hlater => Int.lt_trans hlt (hfirst later hlater)⟩)
    · rw [insertRule_cons_of_eq heq]
      have hgains : Ranks.Gains rule ((rule.precedence, entry.2 ++ []) :: ranks)
          ((rule.precedence, entry.2 ++ [rule]) :: ranks) := .among entry.2 [] ranks
      rwa [List.append_nil, heq] at hgains
    · rw [insertRule_cons_of_gt hgt]
      exact .later hgt (ih h.tail)

/-- A rule that comes later in the list goes to the rank of its precedence on both sides. Where this is the
rank that was opened for the first rule, it goes behind this one. -/
theorem Ranks.Gains.insertRule {rule : Rule} {ranks more : Ranks} (h : Ranks.Gains rule ranks more)
    (next : Rule) : Ranks.Gains rule (Grammar.insertRule next ranks) (Grammar.insertRule next more) := by
  induction h with
  | @own ranks htighter =>
    rcases Int.lt_trichotomy next.precedence rule.precedence with hlt | heq | hgt
    · rw [insertRule_of_looser fun entry hentry => Int.lt_trans hlt (htighter entry hentry),
        insertRule_cons_of_lt hlt]
      exact .later hlt (.own htighter)
    · -- without the first rule there is no rank of this precedence yet
      rw [insertRule_of_looser (heq ▸ htighter), insertRule_cons_of_eq heq, heq]
      exact .among [] [next] ranks
    · rw [insertRule_cons_of_gt hgt]
      refine .own fun entry hentry => ?_
      rcases fst_of_mem_insertRule hentry with hentry | ⟨old, hold, hentry⟩
      · rw [hentry]
        exact hgt
      · rw [← hentry]
        exact htighter old hold
  | among before after ranks =>
    rcases Int.lt_trichotomy next.precedence rule.precedence with hlt | heq | hgt
    · rw [insertRule_cons_of_lt hlt, insertRule_cons_of_lt hlt]
      exact .later hlt (.among before after ranks)
    · rw [insertRule_cons_of_eq heq, insertRule_cons_of_eq heq, List.append_assoc, List.append_assoc]
      exact .among before (after ++ [next]) ranks
    · rw [insertRule_cons_of_gt hgt, insertRule_cons_of_gt hgt]
      exact .among before after (Grammar.insertRule next ranks)
  | @later entry ranks more hlooser h ih =>
    rcases Int.lt_trichotomy next.precedence entry.1 with hlt | heq | hgt
    · rw [insertRule_cons_of_lt hlt, insertRule_cons_of_lt hlt]
      exact .later (Int.lt_trans hlt hlooser) (.later hlooser h)
    · rw [insertRule_cons_of_eq heq, insertRule_cons_of_eq heq]
      exact .later hlooser h
    · rw [insertRule_cons_of_gt hgt, insertRule_cons_of_gt hgt]
      exact .later hlooser ih

/-- Rules with one more among them have ranks with this rule put in. -/
theorem rank_gains (before after : List Rule) (rule : Rule) :
    Ranks.Gains rule (rank (before ++ after)) (rank (before ++ rule :: after)) := by
  suffices h : ∀ (after : List Rule) {ranks more : Ranks}, Ranks.Gains rule ranks more →
      Ranks.Gains rule (after.foldl (fun ranks rule => insertRule rule ranks) ranks)
        (after.foldl (fun ranks rule => insertRule rule ranks) more) by
    rw [rank, rank, List.foldl_append, List.foldl_append]
    exact h after ((rank_spec before).1.gains rule)
  intro after
  induction after with
  | nil => exact fun h => h
  | cons next after ih => exact fun h => ih (h.insertRule next)

/-! ## Levels -/

/-- Levels, and these levels with a rule put in: as a level of its own, or among the rules of a level. -/
inductive Extends (rule : Rule) : Grammar → Grammar → Prop
  | nil : Extends rule [] []
  | own {level : Level} {levels more : Grammar} (hlevel : level.rules = [rule])
      (h : Extends rule levels more) : Extends rule levels (level :: more)
  | among {level wider : Level} {levels more : Grammar} {before after : List Rule}
      (hlevel : level.rules = before ++ after) (hwider : wider.rules = before ++ rule :: after)
      (h : Extends rule levels more) : Extends rule (level :: levels) (wider :: more)
  | later (level : Level) {levels more : Grammar} (h : Extends rule levels more) :
      Extends rule (level :: levels) (level :: more)

theorem Extends.refl (rule : Rule) (levels : Grammar) : Extends rule levels levels := by
  induction levels with
  | nil => exact .nil
  | cons level levels ih => exact .later level ih

theorem Ranks.Gains.extends {rule : Rule} {ranks more : Ranks} (h : Ranks.Gains rule ranks more) :
    Extends rule (ranks.map rankLevel ++ [atomLevel]) (more.map rankLevel ++ [atomLevel]) := by
  induction h with
  | own => exact .own rfl (.refl rule _)
  | among => exact .among rfl rfl (.refl rule _)
  | later hlooser h ih => exact .later _ ih

/-- **A grammar of one more rule** has the same levels, with the rule put in. -/
theorem build_extends {before after : List Rule} {rule : Rule} {grammar extended : Grammar}
    (h : build (before ++ after) = .ok grammar) (hextended : build (before ++ rule :: after) = .ok extended) :
    Extends rule grammar extended := by
  obtain ⟨-, rfl⟩ := build_eq_ok.mp h
  obtain ⟨-, rfl⟩ := build_eq_ok.mp hextended
  exact (rank_gains before after rule).extends

end Grammar

end Mixfix
