import LiteralAudit.Proofs.Regex.Backtracking
import LiteralAudit.Proofs.Regex.Matching

/-!
# Ways through the instructions of a machine

What the instructions between two of them do is told by a relation on the places of a text: from the
first one, every way to an instruction that accepts passes the other one behind a step of the
relation. Such pieces can be put one behind the other, side by side, and into a loop.
-/

namespace LiteralAudit.Regex

namespace Machine

/-! ## Accepting instructions ahead -/

/-- From a node, so many steps lead to an instruction that accepts at a place. -/
inductive AcceptsIn (machine : Machine) (text : List Nat) (finish : Nat) : Nat → Nat × Nat → Prop
  | here {index : Nat} (accepted : machine.accepts index = true) :
      AcceptsIn machine text finish 0 (index, finish)
  | step {steps : Nat} {node target : Nat × Nat} (leads : target ∈ machine.next text node)
      (rest : AcceptsIn machine text finish steps target) :
      AcceptsIn machine text finish (steps + 1) node

section Instructions

variable {machine : Machine} {text : List Nat} {finish steps index place : Nat}

theorem acceptsIn_iff_of_not_accepts {node : Nat × Nat} (refused : machine.accepts node.1 = false) :
    machine.AcceptsIn text finish steps node ↔
      ∃ fewer, steps = fewer + 1 ∧
        ∃ target ∈ machine.next text node, machine.AcceptsIn text finish fewer target := by
  constructor
  · intro found
    cases found with
    | here accepted =>
        rw [accepted] at refused
        cases refused
    | step leads rest => exact ⟨_, rfl, _, leads, rest⟩
  · rintro ⟨fewer, rfl, target, leads, rest⟩
    exact .step leads rest

/-- A symbol of the set leads on to the next place. -/
theorem acceptsIn_read_iff {members : CharSet} {next : Nat}
    (found : machine.instructions[index]? = some (.read members next)) :
    machine.AcceptsIn text finish steps (index, place) ↔
      ∃ fewer, steps = fewer + 1 ∧
        (∃ symbol, text[place]? = some symbol ∧ members.contains symbol = true) ∧
        machine.AcceptsIn text finish fewer (next, place + 1) := by
  have refused : machine.accepts index = false := by rw [accepts, found]
  rw [acceptsIn_iff_of_not_accepts refused]
  have leads : ∀ target, target ∈ machine.next text (index, place) ↔
      (∃ symbol, text[place]? = some symbol ∧ members.contains symbol = true) ∧
        target = (next, place + 1) := by
    intro target
    cases symbol : text[place]? with
    | none => simp [Machine.next, near, behind?, targets?, found, symbol]
    | some code =>
        cases member : members.contains code with
        | true => simp [Machine.next, near, behind?, targets?, found, symbol, member]
        | false => simp [Machine.next, near, behind?, targets?, found, symbol, member]
  simp only [leads, and_assoc, exists_and_left, exists_eq_left]

/-- A condition that holds leads on at the same place. -/
theorem acceptsIn_test_iff {condition : Look} {next : Nat}
    (found : machine.instructions[index]? = some (.test condition next)) :
    machine.AcceptsIn text finish steps (index, place) ↔
      ∃ fewer, steps = fewer + 1 ∧
        holds condition (text.take place).getLast? text[place]? = true ∧
        machine.AcceptsIn text finish fewer (next, place) := by
  have refused : machine.accepts index = false := by rw [accepts, found]
  rw [acceptsIn_iff_of_not_accepts refused]
  have leads : ∀ target, target ∈ machine.next text (index, place) ↔
      holds condition (text.take place).getLast? text[place]? = true ∧
        target = (next, place) := by
    intro target
    cases held : holds condition (text.take place).getLast? text[place]? with
    | true => simp [Machine.next, near, behind?, targets?, found, held]
    | false => simp [Machine.next, near, behind?, targets?, found, held]
  simp only [leads, and_assoc, exists_and_left, exists_eq_left]

/-- A choice leads on to any of its targets. -/
theorem acceptsIn_split_iff {targets : List Nat}
    (found : machine.instructions[index]? = some (.split targets)) :
    machine.AcceptsIn text finish steps (index, place) ↔
      ∃ fewer, steps = fewer + 1 ∧
        ∃ target ∈ targets, machine.AcceptsIn text finish fewer (target, place) := by
  have refused : machine.accepts index = false := by rw [accepts, found]
  rw [acceptsIn_iff_of_not_accepts refused]
  have leads : machine.next text (index, place) = targets.map (·, place) := by
    simp [Machine.next, near, behind?, targets?, found]
  simp only [leads, List.mem_map, exists_exists_and_eq_and]

end Instructions

/-! ## What a search finds -/

section Search

variable {machine : Machine} {text : List Nat} {finish steps : Nat} {pending : List (Nat × Nat)}
  {tried : Set (Nat × Nat)}

/-- What a search finds is accepted from one of its seeds. -/
theorem acceptsIn_of_search {node : Nat × Nat}
    (search : machine.Search text pending tried (some node)) :
    ∃ seed ∈ pending, ∃ steps, machine.AcceptsIn text node.2 steps seed := by
  generalize outcome : some node = found at search
  induction search with
  | nothing tried => cases outcome
  | skip again rest inductionHypothesis =>
      obtain ⟨seed, member, ahead⟩ := inductionHypothesis outcome
      exact ⟨seed, List.mem_cons_of_mem _ member, ahead⟩
  | accept fresh accepted =>
      cases outcome
      exact ⟨node, List.mem_cons_self, 0, .here accepted⟩
  | goOn fresh refused rest inductionHypothesis =>
      obtain ⟨seed, member, steps, ahead⟩ := inductionHypothesis outcome
      rcases List.mem_append.mp member with leads | later
      · exact ⟨_, List.mem_cons_self, steps + 1, .step leads ahead⟩
      · exact ⟨seed, List.mem_cons_of_mem _ later, steps, ahead⟩

/-- A search that finds nothing has tried all that it could reach. What it counts as tried from the
start must not lead anywhere else. -/
theorem not_acceptsIn_of_search (search : machine.Search text pending tried none)
    (closed : ∀ node ∈ tried, machine.accepts node.1 = false ∧
      ∀ target ∈ machine.next text node, target ∈ tried ∨ target ∈ pending)
    {node : Nat × Nat} (known : node ∈ tried ∨ node ∈ pending) :
    ¬ machine.AcceptsIn text finish steps node := by
  generalize outcome : (none : Option (Nat × Nat)) = found at search
  induction search generalizing node steps with
  | nothing tried =>
      have inTried : ∀ other, other ∈ tried ∨ other ∈ [] → other ∈ tried := by
        rintro other (member | member)
        · exact member
        · cases member
      intro ahead
      induction ahead with
      | here accepted =>
          have refused := (closed _ (inTried _ known)).1
          rw [accepted] at refused
          cases refused
      | step leads _ inductionHypothesis =>
          exact inductionHypothesis ((closed _ (inTried _ known)).2 _ leads)
  | @skip first pending tried _ again rest inductionHypothesis =>
      have forget : ∀ other, other ∈ tried ∨ other ∈ first :: pending →
          other ∈ tried ∨ other ∈ pending := by
        rintro other (member | member)
        · exact Or.inl member
        · rcases List.mem_cons.mp member with rfl | later
          · exact Or.inl again
          · exact Or.inr later
      refine inductionHypothesis ?_ (forget node known) outcome
      intro other member
      obtain ⟨refused, leads⟩ := closed other member
      exact ⟨refused, fun target next => forget target (leads target next)⟩
  | accept fresh accepted => cases outcome
  | @goOn first pending tried _ fresh refused rest inductionHypothesis =>
      have grow : ∀ other, other ∈ tried ∨ other ∈ first :: pending →
          other ∈ insert first tried ∨ other ∈ machine.next text first ++ pending := by
        rintro other (member | member)
        · exact Or.inl (Set.mem_insert_of_mem first member)
        · rcases List.mem_cons.mp member with rfl | later
          · exact Or.inl (Set.mem_insert other tried)
          · exact Or.inr (List.mem_append_right _ later)
      refine inductionHypothesis ?_ (grow node known) outcome
      intro other member
      rcases Set.mem_insert_iff.mp member with rfl | old
      · exact ⟨refused, fun target next => Or.inr (List.mem_append_left _ next)⟩
      · obtain ⟨refusedToo, leads⟩ := closed other old
        exact ⟨refusedToo, fun target next => grow target (leads target next)⟩

theorem closed_missingNodes (pending : List (Nat × Nat)) :
    ∀ node ∈ machine.missingNodes, machine.accepts node.1 = false ∧
      ∀ target ∈ machine.next text node, target ∈ machine.missingNodes ∨ target ∈ pending := by
  intro node member
  have missing : machine.instructions[node.1]? = none :=
    Array.getElem?_eq_none_iff.mpr member
  refine ⟨by rw [accepts, missing], ?_⟩
  intro target leads
  cases symbol : text[node.2]? with
  | none => simp [next, near, missing, symbol] at leads
  | some code => simp [next, near, behind?, missing, symbol] at leads

/-- The match that backtracking finds leads to an instruction that accepts. -/
theorem acceptsIn_of_matchesFrom {start : Nat}
    (found : machine.MatchesFrom text start (some finish)) :
    ∃ steps, machine.AcceptsIn text finish steps (machine.start, start) := by
  obtain ⟨outcome, search, isFinish⟩ := found
  obtain ⟨node, rfl, rfl⟩ := Option.map_eq_some_iff.mp isFinish.symm
  obtain ⟨seed, member, ahead⟩ := acceptsIn_of_search search
  rwa [List.mem_singleton.mp member] at ahead

/-- Backtracking finds a match where an instruction that accepts can be reached. -/
theorem exists_matchesFrom {start : Nat} (within : start ≤ text.length)
    (ahead : machine.AcceptsIn text finish steps (machine.start, start)) :
    ∃ found, machine.MatchesFrom text start (some found) := by
  obtain ⟨outcome, found, -⟩ := @existsUnique_matchesFrom machine text start within
  cases outcome with
  | some finish => exact ⟨finish, found⟩
  | none =>
      obtain ⟨node, search, isNone⟩ := found
      rw [Option.map_eq_none_iff.mp isNone.symm] at search
      exact absurd ahead (not_acceptsIn_of_search search (closed_missingNodes _)
        (Or.inr List.mem_cons_self))

end Search

/-! ## What instructions do -/

/-- The instructions between two of them do what a relation says: from the first one, each way to an
instruction that accepts leads through the other one, behind a step of the relation, and each step
of the relation can be taken. -/
structure Joins (machine : Machine) (text : List Nat) (first next : Nat)
    (related : Nat → Nat → Prop) : Prop where
  passes : ∀ {finish steps start : Nat}, machine.AcceptsIn text finish steps (first, start) →
    ∃ middle fewer, fewer ≤ steps ∧ related start middle ∧
      machine.AcceptsIn text finish fewer (next, middle)
  allows : ∀ {finish steps start middle : Nat}, related start middle →
    machine.AcceptsIn text finish steps (next, middle) →
      ∃ more, machine.AcceptsIn text finish more (first, start)

namespace Joins

variable {machine : Machine} {text : List Nat} {first next index : Nat}
  {related other : Nat → Nat → Prop}

theorem of_iff (joins : machine.Joins text first next related)
    (same : ∀ start finish, related start finish ↔ other start finish) :
    machine.Joins text first next other := by
  have sameRelation : related = other :=
    funext fun start => funext fun finish => propext (same start finish)
  rwa [← sameRelation]

theorem refl (machine : Machine) (text : List Nat) (first : Nat) :
    machine.Joins text first first Eq where
  passes found := ⟨_, _, Nat.le_refl _, rfl, found⟩
  allows same found := ⟨_, same ▸ found⟩

/-- Two parts in a row join where the first one ends and the second one starts. -/
theorem trans {middle : Nat} (left : machine.Joins text first middle related)
    (right : machine.Joins text middle next other) :
    machine.Joins text first next fun start finish =>
      ∃ between, related start between ∧ other between finish where
  passes found := by
    obtain ⟨between, fewer, less, leftRelated, rest⟩ := left.passes found
    obtain ⟨finish, fewest, least, rightRelated, last⟩ := right.passes rest
    exact ⟨finish, fewest, least.trans less, ⟨between, leftRelated, rightRelated⟩, last⟩
  allows := by
    rintro _ _ _ _ ⟨between, leftRelated, rightRelated⟩ last
    obtain ⟨more, rest⟩ := right.allows rightRelated last
    exact left.allows leftRelated rest

theorem read {members : CharSet}
    (found : machine.instructions[index]? = some (.read members next)) :
    machine.Joins text index next fun start finish =>
      (∃ symbol, text[start]? = some symbol ∧ members.contains symbol = true) ∧
        finish = start + 1 where
  passes accepted := by
    obtain ⟨fewer, rfl, member, rest⟩ := (acceptsIn_read_iff found).mp accepted
    exact ⟨_, fewer, Nat.le_succ fewer, ⟨member, rfl⟩, rest⟩
  allows := by
    rintro _ steps _ _ ⟨member, rfl⟩ rest
    exact ⟨steps + 1, (acceptsIn_read_iff found).mpr ⟨steps, rfl, member, rest⟩⟩

theorem test {condition : Look}
    (found : machine.instructions[index]? = some (.test condition next)) :
    machine.Joins text index next fun start finish =>
      holds condition (text.take start).getLast? text[start]? = true ∧ finish = start where
  passes accepted := by
    obtain ⟨fewer, rfl, held, rest⟩ := (acceptsIn_test_iff found).mp accepted
    exact ⟨_, fewer, Nat.le_succ fewer, ⟨held, rfl⟩, rest⟩
  allows := by
    rintro _ steps _ _ ⟨held, rfl⟩ rest
    exact ⟨steps + 1, (acceptsIn_test_iff found).mpr ⟨steps, rfl, held, rest⟩⟩

/-- A choice does what one of its branches does. -/
theorem split {targets : List Nat} {branches : List (Nat → Nat → Prop)}
    (found : machine.instructions[index]? = some (.split targets))
    (passes : ∀ target ∈ targets, ∃ branch ∈ branches, machine.Joins text target next branch)
    (covers : ∀ branch ∈ branches, ∃ target ∈ targets, machine.Joins text target next branch) :
    machine.Joins text index next fun start finish =>
      ∃ branch ∈ branches, branch start finish where
  passes accepted := by
    obtain ⟨steps, rfl, target, member, rest⟩ := (acceptsIn_split_iff found).mp accepted
    obtain ⟨branch, branchMember, joins⟩ := passes target member
    obtain ⟨middle, fewer, less, taken, last⟩ := joins.passes rest
    exact ⟨middle, fewer, less.trans (Nat.le_succ steps), ⟨branch, branchMember, taken⟩, last⟩
  allows := by
    rintro _ _ _ _ ⟨branch, branchMember, taken⟩ rest
    obtain ⟨target, member, joins⟩ := covers branch branchMember
    obtain ⟨more, further⟩ := joins.allows taken rest
    exact ⟨more + 1, (acceptsIn_split_iff found).mpr ⟨more, rfl, target, member, further⟩⟩

end Joins

theorem acceptsIn_choice_iff {machine : Machine} {text : List Nat}
    {finish steps index place body next : Nat} {greedy : Bool}
    (found : machine.instructions[index]? = some (choice greedy body next)) :
    machine.AcceptsIn text finish steps (index, place) ↔
      ∃ fewer, steps = fewer + 1 ∧
        (machine.AcceptsIn text finish fewer (body, place) ∨
          machine.AcceptsIn text finish fewer (next, place)) := by
  rw [acceptsIn_split_iff found]
  cases greedy with
  | true => simp
  | false => simp [or_comm]

namespace Joins

variable {machine : Machine} {text : List Nat} {index body next : Nat} {greedy : Bool}
  {related other : Nat → Nat → Prop}

theorem choice {exit : Nat}
    (found : machine.instructions[index]? = some (Machine.choice greedy body exit))
    (left : machine.Joins text body next related) (right : machine.Joins text exit next other) :
    machine.Joins text index next fun start finish =>
      related start finish ∨ other start finish := by
  have targets : ∀ target, target ∈ (if greedy then [body, exit] else [exit, body]) ↔
      target = body ∨ target = exit := by
    intro target
    cases greedy with
    | true => simp
    | false => simp [or_comm]
  have joined := @split machine text next index _ [related, other] found ?passes ?covers
  · exact joined.of_iff fun start finish => by simp
  case passes =>
    intro target member
    rcases (targets target).mp member with rfl | rfl
    · exact ⟨related, List.mem_cons_self, left⟩
    · exact ⟨other, List.mem_cons_of_mem _ List.mem_cons_self, right⟩
  case covers =>
    intro branch member
    rw [List.mem_cons, List.mem_singleton] at member
    rcases member with rfl | rfl
    · exact ⟨body, (targets body).mpr (Or.inl rfl), left⟩
    · exact ⟨exit, (targets exit).mpr (Or.inr rfl), right⟩

/-- A choice that the body leads back to repeats the body any number of times. -/
theorem loop (found : machine.instructions[index]? = some (Machine.choice greedy body next))
    (joins : machine.Joins text body index related) :
    machine.Joins text index next fun start finish =>
      ∃ count, Repeats related count start finish where
  passes := by
    -- Each time the body is passed through, fewer steps are left.
    intro finish steps start accepted
    induction steps using Nat.strong_induction_on generalizing start with
    | _ steps inductionHypothesis =>
        obtain ⟨fewer, rfl, rest⟩ := (acceptsIn_choice_iff found).mp accepted
        rcases rest with rest | rest
        · obtain ⟨middle, least, less, once, again⟩ := joins.passes rest
          obtain ⟨last, fewest, fewestLess, ⟨count, repeats⟩, left⟩ :=
            inductionHypothesis least (Nat.lt_succ_of_le less) again
          exact ⟨last, fewest, by omega, ⟨count + 1, .once once repeats⟩, left⟩
        · exact ⟨start, fewer, Nat.le_succ fewer, ⟨0, .none start⟩, rest⟩
  allows := by
    rintro finish steps _ _ ⟨count, repeats⟩ rest
    induction repeats with
    | none place =>
        exact ⟨steps + 1, (acceptsIn_choice_iff found).mpr ⟨steps, rfl, Or.inr rest⟩⟩
    | once first _ inductionHypothesis =>
        obtain ⟨more, again⟩ := inductionHypothesis rest
        obtain ⟨most, through⟩ := joins.allows first again
        exact ⟨most + 1, (acceptsIn_choice_iff found).mpr ⟨most, rfl, Or.inl through⟩⟩

end Joins

end Machine

end LiteralAudit.Regex
