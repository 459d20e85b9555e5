import LiteralAudit.Regex.Machine

/-!
# What expressions match

A match of an expression leads from one place of a text to another, and groups capture what they
match on the way. This says of all matches what they are, without a word on which of them is
preferred, and without machines.
-/

namespace LiteralAudit.Regex

/-- What a group matched: the text from one place to another. -/
structure Captured where
  group : Nat
  start : Nat
  finish : Nat
  deriving DecidableEq, Repr

namespace Captured

/-- The piece of a text that was captured. -/
def piece {symbol : Type} (captured : Captured) (text : List symbol) : List symbol :=
  (text.take captured.finish).drop captured.start

end Captured

namespace Expr

/-- The matches of an expression in a text: where they start and end, and what the groups capture,
in the order in which the groups are closed. -/
inductive Matches (text : List Nat) : Expr → Nat → Nat → List Captured → Prop
  | empty (place : Nat) : Matches text .empty place place []
  | text {symbols : List Nat} {place : Nat} (found : symbols <+: text.drop place) :
      Matches text (.text symbols) place (place + symbols.length) []
  | set {alphabet : Alphabet} {members : CharSet} {place symbol : Nat}
      (found : text[place]? = some symbol) (member : members.contains symbol = true) :
      Matches text (.set alphabet members) place (place + 1) []
  | look {condition : Look} {place : Nat}
      (holds : Machine.holds condition (text.take place).getLast? text[place]? = true) :
      Matches text (.look condition) place place []
  | capture {index start finish : Nat} {body : Expr} {groups : List Captured}
      (inner : Matches text body start finish groups) :
      Matches text (.capture index body) start finish (groups ++ [⟨index, start, finish⟩])
  | done (place : Nat) : Matches text (.concat []) place place []
  | part {start middle finish : Nat} {part : Expr} {further : List Expr}
      {groups others : List Captured} (first : Matches text part start middle groups)
      (rest : Matches text (.concat further) middle finish others) :
      Matches text (.concat (part :: further)) start finish (groups ++ others)
  | branch {start finish : Nat} {branch : Expr} {branches : List Expr} {groups : List Captured}
      (member : branch ∈ branches) (chosen : Matches text branch start finish groups) :
      Matches text (.alternation branches) start finish groups
  | enough {greatest : Option Nat} {greedy : Bool} {body : Expr} (place : Nat) :
      Matches text (.repetition 0 greatest greedy body) place place []
  /-- Once more: as long as the least count is not reached, or the greatest one is not. -/
  | again {least start middle finish : Nat} {greatest : Option Nat} {greedy : Bool} {body : Expr}
      {groups others : List Captured} (allowed : 0 < least ∨ greatest ≠ some 0)
      (first : Matches text body start middle groups)
      (rest : Matches text (.repetition (least - 1) (greatest.map (· - 1)) greedy body) middle
        finish others) :
      Matches text (.repetition least greatest greedy body) start finish (groups ++ others)

/-- An expression matches from one place of a text to another, whatever its groups capture. -/
def MatchesBetween (text : List Nat) (expr : Expr) (start finish : Nat) : Prop :=
  ∃ groups, Matches text expr start finish groups

end Expr

/-- So many steps of a relation lead from one place to another. -/
inductive Repeats (related : Nat → Nat → Prop) : Nat → Nat → Nat → Prop
  | none (place : Nat) : Repeats related 0 place place
  | once {count start middle finish : Nat} (first : related start middle)
      (rest : Repeats related count middle finish) : Repeats related (count + 1) start finish

theorem repeats_zero_iff {related : Nat → Nat → Prop} {start finish : Nat} :
    Repeats related 0 start finish ↔ start = finish := by
  constructor
  · intro repeats
    cases repeats with
    | none _ => rfl
  · rintro rfl
    exact .none start

/-- Repetitions can be split anywhere. -/
theorem repeats_add_iff {related : Nat → Nat → Prop} {count more start finish : Nat} :
    Repeats related (count + more) start finish ↔
      ∃ middle, Repeats related count start middle ∧ Repeats related more middle finish := by
  constructor
  · intro repeats
    induction count generalizing start with
    | zero =>
        rw [Nat.zero_add] at repeats
        exact ⟨start, .none start, repeats⟩
    | succ count inductionHypothesis =>
        rw [Nat.add_right_comm] at repeats
        cases repeats with
        | once first rest =>
            obtain ⟨middle, further, last⟩ := inductionHypothesis rest
            exact ⟨middle, .once first further, last⟩
  · rintro ⟨middle, first, second⟩
    induction first with
    | none place => rwa [Nat.zero_add]
    | once step _ inductionHypothesis =>
        rw [Nat.add_right_comm]
        exact .once step (inductionHypothesis second)

theorem repeats_one_iff {related : Nat → Nat → Prop} {start finish : Nat} :
    Repeats related 1 start finish ↔ related start finish := by
  constructor
  · intro repeats
    cases repeats with
    | once first rest => exact repeats_zero_iff.mp rest ▸ first
  · exact fun step => .once step (.none finish)

theorem repeats_succ_iff {related : Nat → Nat → Prop} {count start finish : Nat} :
    Repeats related (count + 1) start finish ↔
      ∃ middle, Repeats related count start middle ∧ related middle finish := by
  simp only [repeats_add_iff, repeats_one_iff]

namespace Expr

variable {text : List Nat} {start finish : Nat}

theorem matchesBetween_empty_iff : MatchesBetween text .empty start finish ↔ start = finish := by
  constructor
  · rintro ⟨_, matched⟩
    cases matched with
    | empty _ => rfl
  · rintro rfl
    exact ⟨_, .empty start⟩

theorem not_matchesBetween_fail : ¬ MatchesBetween text .fail start finish := by
  rintro ⟨_, ⟨⟩⟩

theorem matchesBetween_text_iff {symbols : List Nat} :
    MatchesBetween text (.text symbols) start finish ↔
      symbols <+: text.drop start ∧ finish = start + symbols.length := by
  constructor
  · rintro ⟨_, found⟩
    cases found with
    | text found => exact ⟨found, rfl⟩
  · rintro ⟨found, rfl⟩
    exact ⟨_, .text found⟩

theorem matchesBetween_set_iff {alphabet : Alphabet} {members : CharSet} :
    MatchesBetween text (.set alphabet members) start finish ↔
      (∃ symbol, text[start]? = some symbol ∧ members.contains symbol = true) ∧
        finish = start + 1 := by
  constructor
  · rintro ⟨_, matched⟩
    cases matched with
    | set found member => exact ⟨⟨_, found, member⟩, rfl⟩
  · rintro ⟨⟨symbol, found, member⟩, rfl⟩
    exact ⟨_, .set found member⟩

theorem matchesBetween_look_iff {condition : Look} :
    MatchesBetween text (.look condition) start finish ↔
      Machine.holds condition (text.take start).getLast? text[start]? = true ∧
        finish = start := by
  constructor
  · rintro ⟨_, matched⟩
    cases matched with
    | look holds => exact ⟨holds, rfl⟩
  · rintro ⟨holds, rfl⟩
    exact ⟨_, .look holds⟩

theorem matchesBetween_capture_iff {index : Nat} {body : Expr} :
    MatchesBetween text (.capture index body) start finish ↔
      MatchesBetween text body start finish := by
  constructor
  · rintro ⟨_, matched⟩
    cases matched with
    | capture inner => exact ⟨_, inner⟩
  · rintro ⟨groups, inner⟩
    exact ⟨_, .capture inner⟩

theorem matches_concat_nil_iff {groups : List Captured} :
    Matches text (.concat []) start finish groups ↔ start = finish ∧ groups = [] := by
  constructor
  · intro matched
    cases matched with
    | done _ => exact ⟨rfl, rfl⟩
  · rintro ⟨rfl, rfl⟩
    exact .done start

theorem matches_concat_cons_iff {part : Expr} {further : List Expr} {groups : List Captured} :
    Matches text (.concat (part :: further)) start finish groups ↔
      ∃ middle first rest, Matches text part start middle first ∧
        Matches text (.concat further) middle finish rest ∧ groups = first ++ rest := by
  constructor
  · intro matched
    cases matched with
    | part first rest => exact ⟨_, _, _, first, rest, rfl⟩
  · rintro ⟨middle, _, _, first, rest, rfl⟩
    exact .part first rest

theorem matchesBetween_concat_nil_iff :
    MatchesBetween text (.concat []) start finish ↔ start = finish := by
  simp only [MatchesBetween, matches_concat_nil_iff, exists_and_left, exists_eq, and_true]

theorem matchesBetween_concat_cons_iff {part : Expr} {further : List Expr} :
    MatchesBetween text (.concat (part :: further)) start finish ↔
      ∃ middle, MatchesBetween text part start middle ∧
        MatchesBetween text (.concat further) middle finish := by
  simp only [MatchesBetween, matches_concat_cons_iff]
  constructor
  · rintro ⟨_, middle, _, _, first, rest, -⟩
    exact ⟨middle, ⟨_, first⟩, _, rest⟩
  · rintro ⟨middle, ⟨_, first⟩, _, rest⟩
    exact ⟨_, middle, _, _, first, rest, rfl⟩

theorem matchesBetween_alternation_iff {branches : List Expr} :
    MatchesBetween text (.alternation branches) start finish ↔
      ∃ branch ∈ branches, MatchesBetween text branch start finish := by
  constructor
  · rintro ⟨_, matched⟩
    cases matched with
    | branch member chosen => exact ⟨_, member, _, chosen⟩
  · rintro ⟨branch, member, _, chosen⟩
    exact ⟨_, .branch member chosen⟩

/-- Where a greatest count is below the least one, the least one counts. -/
theorem matchesBetween_repetition_iff {least : Nat} {greatest : Option Nat} {greedy : Bool}
    {body : Expr} :
    MatchesBetween text (.repetition least greatest greedy body) start finish ↔
      ∃ count, least ≤ count ∧
        (∀ bound, greatest = some bound → count ≤ least + (bound - least)) ∧
        Repeats (MatchesBetween text body) count start finish := by
  constructor
  · rintro ⟨groups, matched⟩
    generalize whole : Expr.repetition least greatest greedy body = expr at matched
    induction matched generalizing least greatest with
    | enough place =>
        cases whole
        exact ⟨0, Nat.le_refl 0, fun _ _ => Nat.zero_le _, .none place⟩
    | again allowed first rest _ restHypothesis =>
        obtain ⟨rfl, rfl, rfl, rfl⟩ := Expr.repetition.inj whole
        obtain ⟨count, enough, most, repeats⟩ := restHypothesis rfl
        refine ⟨count + 1, by omega, ?_, .once ⟨_, first⟩ repeats⟩
        rintro bound rfl
        have mostRest := most (bound - 1) rfl
        have notZero : 0 < least ∨ bound ≠ 0 :=
          allowed.imp_right fun differs same => differs (congrArg some same)
        omega
    | _ => cases whole
  · rintro ⟨count, enough, most, repeats⟩
    induction repeats generalizing least greatest with
    | none place =>
        obtain rfl := Nat.le_zero.mp enough
        exact ⟨_, .enough place⟩
    | @once count _ _ _ first _ inductionHypothesis =>
        obtain ⟨_, first⟩ := first
        have allowed : 0 < least ∨ greatest ≠ some 0 := by
          rcases Nat.eq_zero_or_pos least with rfl | positive
          · right
            rintro rfl
            have atMost := most 0 rfl
            omega
          · exact Or.inl positive
        have mostRest : ∀ bound, greatest.map (· - 1) = some bound →
            count ≤ (least - 1) + (bound - (least - 1)) := by
          intro bound isBound
          obtain ⟨whole, isWhole, rfl⟩ := Option.map_eq_some_iff.mp isBound
          have atMost := most whole isWhole
          omega
        obtain ⟨_, rest⟩ :=
          @inductionHypothesis (least - 1) (greatest.map (· - 1)) (by omega) mostRest
        exact ⟨_, .again allowed first rest⟩

end Expr

end LiteralAudit.Regex
