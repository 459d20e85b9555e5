import LiteralAudit.Proofs.Regex.Passage

/-!
# Machines find what expressions match

The instructions that are added for an expression lead from their first one to the instruction that
they go on with, and between two places of a text they do so just where the expression matches. So
the machine of an expression accepts what the expression matches, and backtracking finds a match
from a place as soon as there is one.
-/

namespace LiteralAudit.Regex

namespace Machine

/-! ## Instructions that are added -/

/-- Instructions are added behind others, which stay as they are. -/
structure Grows (before after : Array Instruction) : Prop where
  size : before.size ≤ after.size
  kept : ∀ index < before.size, after[index]? = before[index]?

/-- A machine has the instructions that were added. -/
def Contains (machine : Machine) (before after : Array Instruction) : Prop :=
  ∀ index, before.size ≤ index → index < after.size →
    machine.instructions[index]? = after[index]?

namespace Grows

variable {before middle after : Array Instruction}

theorem refl (before : Array Instruction) : Grows before before where
  size := Nat.le_refl _
  kept _ _ := rfl

theorem trans (first : Grows before middle) (second : Grows middle after) :
    Grows before after where
  size := first.size.trans second.size
  kept index inside :=
    (second.kept index (Nat.lt_of_lt_of_le inside first.size)).trans (first.kept index inside)

theorem add (before : Array Instruction) (instruction : Instruction) :
    Grows before (add before instruction).2 where
  size := by simp [Machine.add]
  kept index inside := by simp [Machine.add, Array.getElem?_push, Nat.ne_of_lt inside]

end Grows

namespace Contains

variable {machine : Machine} {before middle after : Array Instruction}

theorem left (contains : machine.Contains before after) (later : Grows middle after) :
    machine.Contains before middle := by
  intro index behind inside
  rw [contains index behind (Nat.lt_of_lt_of_le inside later.size), later.kept index inside]

theorem right (contains : machine.Contains before after) (earlier : Grows before middle) :
    machine.Contains middle after :=
  fun index behind inside => contains index (earlier.size.trans behind) inside

theorem added {instruction : Instruction}
    (contains : machine.Contains before (add before instruction).2) :
    machine.instructions[(add before instruction).1]? = some instruction := by
  rw [contains (add before instruction).1 (Nat.le_refl _) (by simp [add])]
  simp [add]

end Contains

/-- A part adds instructions that do what a relation says. -/
structure Compiles (text : List Nat) (part : Nat → Array Instruction → Nat × Array Instruction)
    (related : Nat → Nat → Prop) : Prop where
  grows : ∀ next instructions, Grows instructions (part next instructions).2
  joins : ∀ {machine : Machine} {next : Nat} {instructions : Array Instruction},
    machine.Contains instructions (part next instructions).2 →
      machine.Joins text (part next instructions).1 next related

namespace Compiles

variable {text : List Nat} {part other : Nat → Array Instruction → Nat × Array Instruction}
  {related otherRelated : Nat → Nat → Prop}

theorem of_iff (compiles : Compiles text part related)
    (same : ∀ start finish, related start finish ↔ otherRelated start finish) :
    Compiles text part otherRelated where
  grows := compiles.grows
  joins contains := (compiles.joins contains).of_iff same

theorem nothing (text : List Nat) :
    Compiles text (fun next instructions => (next, instructions)) Eq where
  grows _ instructions := .refl instructions
  joins _ := .refl _ text _

/-- Adds a part in front of another one. -/
theorem before (first : Compiles text part related) (second : Compiles text other otherRelated) :
    Compiles text
      (fun next instructions =>
        part (other next instructions).1 (other next instructions).2)
      fun start finish => ∃ between, related start between ∧ otherRelated between finish where
  grows next instructions := (second.grows next instructions).trans (first.grows _ _)
  joins contains :=
    (first.joins (contains.right (second.grows _ _))).trans
      (second.joins (contains.left (first.grows _ _)))

theorem read (text : List Nat) (members : CharSet) :
    Compiles text (fun next instructions => add instructions (.read members next))
      fun start finish =>
        (∃ symbol, text[start]? = some symbol ∧ members.contains symbol = true) ∧
          finish = start + 1 where
  grows _ instructions := .add instructions _
  joins contains := .read contains.added

theorem test (text : List Nat) (condition : Look) :
    Compiles text (fun next instructions => add instructions (.test condition next))
      fun start finish =>
        holds condition (text.take start).getLast? text[start]? = true ∧ finish = start where
  grows _ instructions := .add instructions _
  joins contains := .test contains.added

/-! ### Repetitions -/

/-- Copies of a part in a row match its repetitions. -/
theorem copies (compiles : Compiles text part related) (count : Nat) :
    Compiles text (addCopies part count) (Repeats related count) := by
  induction count with
  | zero => exact (nothing text).of_iff fun _ _ => repeats_zero_iff.symm
  | succ count inductionHypothesis =>
      exact (inductionHypothesis.before compiles).of_iff fun _ _ => repeats_succ_iff.symm

/-- At most so many steps of a relation lead from one place to another. -/
def UpTo (related : Nat → Nat → Prop) (most start finish : Nat) : Prop :=
  ∃ count ≤ most, Repeats related count start finish

theorem upTo_zero_iff {start finish : Nat} : UpTo related 0 start finish ↔ start = finish := by
  constructor
  · rintro ⟨count, none, repeats⟩
    obtain rfl := Nat.le_zero.mp none
    exact repeats_zero_iff.mp repeats
  · rintro rfl
    exact ⟨0, Nat.le_refl 0, .none start⟩

theorem upTo_succ_iff {most start finish : Nat} :
    UpTo related (most + 1) start finish ↔
      (∃ middle, related start middle ∧ UpTo related most middle finish) ∨ start = finish := by
  constructor
  · rintro ⟨count, atMost, repeats⟩
    cases repeats with
    | none _ => exact Or.inr rfl
    | once first rest => exact Or.inl ⟨_, first, _, Nat.le_of_succ_le_succ atMost, rest⟩
  · rintro (⟨middle, first, count, atMost, rest⟩ | rfl)
    · exact ⟨count + 1, Nat.succ_le_succ atMost, .once first rest⟩
    · exact ⟨0, Nat.zero_le _, .none start⟩

theorem grows_addOptional (compiles : Compiles text part related) (greedy : Bool)
    (exit count next : Nat) (instructions : Array Instruction) :
    Grows instructions (addOptional part greedy exit count next instructions).2 := by
  induction count generalizing next instructions with
  | zero => exact .refl instructions
  | succ count inductionHypothesis =>
      exact (compiles.grows next instructions).trans
        ((Grows.add _ _).trans (inductionHypothesis _ _))

/-- Each optional part goes in front of those that are there, or is left for the exit. -/
theorem joins_addOptional (compiles : Compiles text part related) {machine : Machine}
    {greedy : Bool} {exit count next most : Nat} {instructions : Array Instruction}
    (contains : machine.Contains instructions
      (addOptional part greedy exit count next instructions).2)
    (joins : machine.Joins text next exit (UpTo related most)) :
    machine.Joins text (addOptional part greedy exit count next instructions).1 exit
      (UpTo related (most + count)) := by
  induction count generalizing next most instructions with
  | zero => exact joins
  | succ count inductionHypothesis =>
      have body := compiles.grows next instructions
      have chosen := Grows.add (part next instructions).2
        (choice greedy (part next instructions).1 exit)
      have further := compiles.grows_addOptional greedy exit count
        (add (part next instructions).2 (choice greedy (part next instructions).1 exit)).1
        (add (part next instructions).2 (choice greedy (part next instructions).1 exit)).2
      have once := (compiles.joins (contains.left (chosen.trans further))).trans joins
      have orNone := once.choice ((contains.right body).left further).added (.refl machine text exit)
      have later := inductionHypothesis (contains.right (body.trans chosen))
        (orNone.of_iff fun _ _ => upTo_succ_iff.symm)
      rw [Nat.add_right_comm] at later
      exact later

/-- Parts that may be left out match up to that many repetitions. -/
theorem optional (compiles : Compiles text part related) (greedy : Bool) (count : Nat) :
    Compiles text (fun next instructions => addOptional part greedy next count next instructions)
      (UpTo related count) where
  grows next instructions := compiles.grows_addOptional greedy next count next instructions
  joins contains := by
    have joined := compiles.joins_addOptional contains
      ((Joins.refl _ text _).of_iff fun _ _ => upTo_zero_iff.symm)
    rwa [Nat.zero_add] at joined

theorem grows_addLoop (compiles : Compiles text part related) (greedy : Bool) (next : Nat)
    (instructions : Array Instruction) :
    Grows instructions (addLoop part greedy next instructions).2.2 := by
  have grown := (Grows.add instructions .accept).trans
    (compiles.grows (add instructions .accept).1 (add instructions .accept).2)
  refine ⟨?_, ?_⟩
  · show _ ≤ (Array.setIfInBounds _ _ _).size
    rw [Array.size_setIfInBounds]
    exact grown.size
  · intro index inside
    show (Array.setIfInBounds _ instructions.size _)[index]? = _
    rw [Array.getElem?_setIfInBounds_ne (Nat.ne_of_gt inside)]
    exact grown.kept index inside

/-- The place that was reserved for the choice comes before the instructions of the body, so that
they stay as they were when the choice is put there. -/
theorem joins_addLoop (compiles : Compiles text part related) {machine : Machine} {greedy : Bool}
    {next : Nat} {instructions : Array Instruction}
    (contains : machine.Contains instructions (addLoop part greedy next instructions).2.2) :
    machine.Joins text (addLoop part greedy next instructions).1
        (addLoop part greedy next instructions).2.1 related ∧
      machine.Joins text (addLoop part greedy next instructions).2.1 next
        fun start finish => ∃ count, Repeats related count start finish := by
  have reserved := Grows.add instructions .accept
  have grown := compiles.grows (add instructions .accept).1 (add instructions .accept).2
  have reservedSize : (add instructions .accept).2.size = instructions.size + 1 := by simp [add]
  have size : (addLoop part greedy next instructions).2.2.size =
      (part (add instructions .accept).1 (add instructions .accept).2).2.size :=
    Array.size_setIfInBounds
  have bodyKept : machine.Contains (add instructions .accept).2
      (part (add instructions .accept).1 (add instructions .accept).2).2 := by
    intro index behind inside
    rw [contains index (reserved.size.trans behind) (size ▸ inside)]
    show (Array.setIfInBounds _ instructions.size _)[index]? = _
    rw [Array.getElem?_setIfInBounds_ne (by omega)]
    rfl
  have chosen : machine.instructions[instructions.size]? =
      some (choice greedy (addLoop part greedy next instructions).1 next) := by
    have inside : instructions.size <
        (part (add instructions .accept).1 (add instructions .accept).2).2.size := by
      have enough := grown.size
      omega
    rw [contains instructions.size (Nat.le_refl _) (size ▸ inside)]
    exact Array.getElem?_setIfInBounds_self_of_lt inside
  have body := compiles.joins bodyKept
  exact ⟨body, .loop chosen body⟩

/-- A loop behind the copies that must match adds any number of repetitions. -/
theorem unbounded (compiles : Compiles text part related) (greedy consumes : Bool) (least : Nat) :
    Compiles text
      (fun next instructions => addUnbounded part greedy consumes least next instructions)
      fun start finish => ∃ count, least ≤ count ∧ Repeats related count start finish where
  grows next instructions := by
    have loop := compiles.grows_addLoop greedy next instructions
    cases least with
    | zero =>
        cases consumes with
        | true => exact loop
        | false => exact loop.trans (.add _ _)
    | succ count => exact loop.trans ((compiles.copies count).grows _ _)
  joins := by
    intro machine next instructions contains
    have loop := compiles.grows_addLoop greedy next instructions
    cases least with
    | zero =>
        cases consumes with
        | true =>
            have again := (compiles.joins_addLoop contains).2
            exact again.of_iff fun start finish => by simp
        | false =>
            obtain ⟨body, again⟩ := compiles.joins_addLoop (contains.left (.add _ _))
            have joined := (body.trans again).choice (contains.right loop).added (.refl _ text _)
            refine joined.of_iff fun start finish => ⟨?_, ?_⟩
            · rintro (⟨middle, first, count, rest⟩ | rfl)
              · exact ⟨count + 1, Nat.zero_le _, .once first rest⟩
              · exact ⟨0, Nat.le_refl 0, .none start⟩
            · rintro ⟨count, -, repeats⟩
              cases repeats with
              | none _ => exact Or.inr rfl
              | once first rest => exact Or.inl ⟨_, first, _, rest⟩
    | succ count =>
        have copied := (compiles.copies count).grows
          (addLoop part greedy next instructions).1 (addLoop part greedy next instructions).2.2
        obtain ⟨body, again⟩ := compiles.joins_addLoop (contains.left copied)
        have front := (compiles.copies count).joins (contains.right loop)
        refine (front.trans (body.trans again)).of_iff fun start finish => ⟨?_, ?_⟩
        · rintro ⟨between, first, middle, once, more, rest⟩
          refine ⟨count + (more + 1), by omega, ?_⟩
          exact repeats_add_iff.mpr ⟨between, first, .once once rest⟩
        · rintro ⟨total, enough, repeats⟩
          obtain ⟨more, rfl⟩ := Nat.exists_eq_add_of_le enough
          rw [Nat.add_assoc, Nat.add_comm 1 more] at repeats
          obtain ⟨between, first, rest⟩ := repeats_add_iff.mp repeats
          cases rest with
          | once once rest => exact ⟨between, first, _, once, more, rest⟩

theorem repetition (compiles : Compiles text part related) (least : Nat) (greatest : Option Nat)
    (greedy consumes : Bool) :
    Compiles text
      (fun next instructions =>
        addRepetition part least greatest greedy consumes next instructions)
      fun start finish =>
        ∃ count, least ≤ count ∧
          (∀ bound, greatest = some bound → count ≤ least + (bound - least)) ∧
          Repeats related count start finish := by
  cases greatest with
  | none =>
      exact (compiles.unbounded greedy consumes least).of_iff fun start finish => by simp
  | some bound =>
      have bounded := (compiles.copies least).before (compiles.optional greedy (bound - least))
      refine bounded.of_iff fun start finish => ⟨?_, ?_⟩
      · rintro ⟨between, first, more, most, rest⟩
        refine ⟨least + more, Nat.le_add_right _ _, ?_, repeats_add_iff.mpr ⟨between, first, rest⟩⟩
        rintro _ ⟨⟩
        exact Nat.add_le_add_left most least
      · rintro ⟨count, enough, most, repeats⟩
        obtain ⟨more, rfl⟩ := Nat.exists_eq_add_of_le enough
        obtain ⟨between, first, rest⟩ := repeats_add_iff.mp repeats
        exact ⟨between, first, more, Nat.le_of_add_le_add_left (most bound rfl), rest⟩

/-! ### Texts -/

theorem addText_cons (symbol : Nat) (symbols : List Nat) (next : Nat)
    (instructions : Array Instruction) :
    addText next instructions (symbol :: symbols) =
      add (addText next instructions symbols).2
        (.read (.singleton symbol) (addText next instructions symbols).1) := by
  rw [addText, addText, List.reverse_cons, List.foldl_append]
  rfl

theorem contains_singleton_iff {symbol code : Nat} :
    (CharSet.singleton symbol).contains code = true ↔ code = symbol := by
  simp only [CharSet.singleton, CharSet.contains, List.any_cons, List.any_nil, Bool.or_false,
    CharRange.contains, Bool.and_eq_true, decide_eq_true_eq]
  omega

/-- A text matches where it stands, and takes up its length. -/
theorem symbols (text symbols : List Nat) :
    Compiles text (fun next instructions => addText next instructions symbols)
      fun start finish => symbols <+: text.drop start ∧ finish = start + symbols.length := by
  induction symbols with
  | nil => exact (nothing text).of_iff fun start finish => by simp [eq_comm]
  | cons symbol further inductionHypothesis =>
      have joined := (read text (.singleton symbol)).before inductionHypothesis
      simp only [addText_cons]
      refine joined.of_iff fun start finish => ⟨?_, ?_⟩
      · rintro ⟨_, ⟨⟨code, found, member⟩, rfl⟩, rest, rfl⟩
        obtain rfl := contains_singleton_iff.mp member
        obtain ⟨inside, same⟩ := List.getElem?_eq_some_iff.mp found
        refine ⟨?_, by rw [List.length_cons]; omega⟩
        rw [List.drop_eq_getElem_cons inside, same]
        exact List.cons_prefix_cons.mpr ⟨rfl, rest⟩
      · rintro ⟨begins, rfl⟩
        have found : text[start]? = some symbol := by
          obtain ⟨rest, split⟩ := begins
          rw [← List.head?_drop, ← split]
          rfl
        obtain ⟨inside, same⟩ := List.getElem?_eq_some_iff.mp found
        rw [List.drop_eq_getElem_cons inside, same, List.cons_prefix_cons] at begins
        refine ⟨start + 1, ⟨⟨symbol, found, contains_singleton_iff.mpr rfl⟩, rfl⟩, begins.2, ?_⟩
        rw [List.length_cons]
        omega

end Compiles

/-! ## Expressions -/

/-- The instructions that branches add, with a target for each of them. -/
structure CompilesBranches (text : List Nat) (branches : List Expr) : Prop where
  grows : ∀ next instructions, Grows instructions (addBranches next instructions branches).2
  passes : ∀ {machine : Machine} {next : Nat} {instructions : Array Instruction},
    machine.Contains instructions (addBranches next instructions branches).2 →
      ∀ target ∈ (addBranches next instructions branches).1,
        ∃ branch ∈ branches, machine.Joins text target next (branch.MatchesBetween text)
  covers : ∀ {machine : Machine} {next : Nat} {instructions : Array Instruction},
    machine.Contains instructions (addBranches next instructions branches).2 →
      ∀ branch ∈ branches,
        ∃ target ∈ (addBranches next instructions branches).1,
          machine.Joins text target next (branch.MatchesBetween text)

/-- A choice matches what one of its branches does. -/
theorem CompilesBranches.alternation {text : List Nat} {branches : List Expr}
    (compiles : CompilesBranches text branches) :
    Compiles text (fun next instructions => addExpr next instructions (.alternation branches))
      (Expr.MatchesBetween text (.alternation branches)) where
  grows next instructions := (compiles.grows next instructions).trans (.add _ _)
  joins := by
    intro machine next instructions contains
    have inner := contains.left (.add _ _)
    have chosen := (contains.right (compiles.grows next instructions)).added
    have joined := @Joins.split machine text next _ _
      (branches.map (Expr.MatchesBetween text)) chosen ?passes ?covers
    · refine joined.of_iff fun start finish => ?_
      rw [Expr.matchesBetween_alternation_iff]
      simp only [List.mem_map, exists_exists_and_eq_and]
    case passes =>
      intro target member
      obtain ⟨branch, branchMember, joins⟩ := compiles.passes inner target member
      exact ⟨_, List.mem_map_of_mem branchMember, joins⟩
    case covers =>
      intro related member
      obtain ⟨branch, branchMember, rfl⟩ := List.mem_map.mp member
      exact compiles.covers inner branch branchMember

mutual

/-- The instructions of an expression lead on just where the expression matches. -/
theorem compiles_addExpr (text : List Nat) : ∀ expr : Expr,
    Compiles text (fun next instructions => addExpr next instructions expr)
      (Expr.MatchesBetween text expr)
  | .fail =>
      { grows := fun _ instructions => .add instructions _
        joins := fun contains =>
          (@Joins.split _ text _ _ [] [] contains.added nofun nofun).of_iff fun _ _ => by
            simp [Expr.not_matchesBetween_fail] }
  | .empty => (Compiles.nothing text).of_iff fun _ _ => Expr.matchesBetween_empty_iff.symm
  | .text symbols =>
      (Compiles.symbols text symbols).of_iff fun _ _ => Expr.matchesBetween_text_iff.symm
  | .set _ members =>
      (Compiles.read text members).of_iff fun _ _ => Expr.matchesBetween_set_iff.symm
  | .look condition =>
      (Compiles.test text condition).of_iff fun _ _ => Expr.matchesBetween_look_iff.symm
  | .repetition least greatest greedy body =>
      ((compiles_addExpr text body).repetition least greatest greedy body.consumes).of_iff
        fun _ _ => Expr.matchesBetween_repetition_iff.symm
  | .capture _ body =>
      (compiles_addExpr text body).of_iff fun _ _ => Expr.matchesBetween_capture_iff.symm
  | .concat parts => compiles_addParts text parts
  | .alternation branches => (compiles_addBranches text branches).alternation

theorem compiles_addParts (text : List Nat) : ∀ parts : List Expr,
    Compiles text (fun next instructions => addParts next instructions parts)
      (Expr.MatchesBetween text (.concat parts))
  | [] => (Compiles.nothing text).of_iff fun _ _ => Expr.matchesBetween_concat_nil_iff.symm
  | part :: further =>
      ((compiles_addExpr text part).before (compiles_addParts text further)).of_iff
        fun _ _ => Expr.matchesBetween_concat_cons_iff.symm

theorem compiles_addBranches (text : List Nat) : ∀ branches : List Expr,
    CompilesBranches text branches
  | [] => ⟨fun _ instructions => .refl instructions, nofun, nofun⟩
  | branch :: further => by
      have first := compiles_addExpr text branch
      have rest := compiles_addBranches text further
      refine ⟨fun next instructions => (first.grows next instructions).trans (rest.grows _ _),
        ?_, ?_⟩
      · intro machine next instructions contains target member
        rcases List.mem_cons.mp member with rfl | later
        · exact ⟨branch, List.mem_cons_self, first.joins (contains.left (rest.grows _ _))⟩
        · obtain ⟨other, otherMember, joins⟩ :=
            rest.passes (contains.right (first.grows _ _)) target later
          exact ⟨other, List.mem_cons_of_mem branch otherMember, joins⟩
      · intro machine next instructions contains other member
        rcases List.mem_cons.mp member with rfl | later
        · exact ⟨_, List.mem_cons_self, first.joins (contains.left (rest.grows _ _))⟩
        · obtain ⟨target, targetMember, joins⟩ :=
            rest.covers (contains.right (first.grows _ _)) other later
          exact ⟨target, List.mem_cons_of_mem _ targetMember, joins⟩

end

/-! ## Machines -/

section

variable {expr : Expr} {text : List Nat} {start finish : Nat}

/-- The machine of an expression leads to its end from one place to another just where the
expression matches. -/
theorem ofExpr_acceptsIn_iff :
    (∃ steps, (ofExpr expr).AcceptsIn text finish steps ((ofExpr expr).start, start)) ↔
      expr.MatchesBetween text start finish := by
  have compiled := compiles_addExpr text expr
  have joins : (ofExpr expr).Joins text (ofExpr expr).start 0 (expr.MatchesBetween text) :=
    compiled.joins fun index _ _ => rfl
  have last : (ofExpr expr).instructions[0]? = some .accept :=
    (compiled.grows 0 #[.accept]).kept 0 Nat.one_pos
  constructor
  · rintro ⟨steps, ahead⟩
    obtain ⟨place, fewer, -, matched, rest⟩ := joins.passes ahead
    cases rest with
    | here accepted => exact matched
    | step leads _ =>
        cases symbol : text[place]? with
        | none => simp [next, near, targets?, last, symbol] at leads
        | some code => simp [next, near, targets?, behind?, last, symbol] at leads
  · intro matched
    exact joins.allows matched (.here (by rw [accepts, last]))

/-- What backtracking finds is a match of the expression. -/
theorem matchesBetween_of_matchesFrom
    (found : (ofExpr expr).MatchesFrom text start (some finish)) :
    expr.MatchesBetween text start finish :=
  ofExpr_acceptsIn_iff.mp (acceptsIn_of_matchesFrom found)

/-- From each place of a text, backtracking finds a match if the expression has one. -/
theorem exists_matchesFrom_iff (within : start ≤ text.length) :
    (∃ found, (ofExpr expr).MatchesFrom text start (some found)) ↔
      ∃ found, expr.MatchesBetween text start found := by
  constructor
  · rintro ⟨found, matched⟩
    exact ⟨found, matchesBetween_of_matchesFrom matched⟩
  · rintro ⟨found, matched⟩
    obtain ⟨steps, ahead⟩ := ofExpr_acceptsIn_iff.mpr matched
    exact exists_matchesFrom within ahead

end

end Machine

namespace Expr

/-- The first match of an expression in a text captures a piece of it by a group: it is a match that
ends where backtracking finds the end, and of several pieces of the group the last one counts. -/
def FirstCaptures (expr : Expr) (text : List Char) (group : Nat) (piece : List Char) : Prop :=
  ∃ start finish groups captured,
    (Machine.ofExpr expr).MatchesFirst (text.map Char.toNat) start finish ∧
      expr.Matches (text.map Char.toNat) start finish groups ∧
      groups.reverse.find? (·.group == group) = some captured ∧
      captured.piece text = piece

end Expr

end LiteralAudit.Regex
