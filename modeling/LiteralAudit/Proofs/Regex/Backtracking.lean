import LiteralAudit.Proofs.Regex.Reaching
import LiteralAudit.Regex.Pattern
import Mathlib.Data.Set.Basic
import Mathlib.Tactic.Tauto

/-!
# The preferred match by backtracking

A backtracking search follows one alternative to its end before it tries the next one, and stops at
the first match. A machine follows all alternatives at once, from one place to the next, and drops
those to which a match is preferred. Both come to the same answer: between two places, an
alternative only meets those that are followed with it, so that what is deeper can be left for
later.
-/

namespace LiteralAudit.Regex

/-! ## Searches -/

section Searches

variable {alpha : Type} {next : alpha → List alpha} {accepts : alpha → Bool}

/-- A search in depth: from pending nodes, the first one first, up to the first node that is
accepted. What was tried before is not tried again. -/
inductive Finds (next : alpha → List alpha) (accepts : alpha → Bool) :
    List alpha → Set alpha → Option alpha → Prop where
  | nothing (tried : Set alpha) : Finds next accepts [] tried none
  | skip {node : alpha} {pending : List alpha} {tried : Set alpha} {outcome : Option alpha}
      (again : node ∈ tried) (rest : Finds next accepts pending tried outcome) :
      Finds next accepts (node :: pending) tried outcome
  | accept {node : alpha} {pending : List alpha} {tried : Set alpha} (fresh : node ∉ tried)
      (accepted : accepts node = true) :
      Finds next accepts (node :: pending) tried (some node)
  | goOn {node : alpha} {pending : List alpha} {tried : Set alpha} {outcome : Option alpha}
      (fresh : node ∉ tried) (refused : accepts node = false)
      (rest : Finds next accepts (next node ++ pending) (insert node tried) outcome) :
      Finds next accepts (node :: pending) tried outcome

/-- A search has one outcome. -/
theorem Finds.unique {pending : List alpha} {tried : Set alpha} {outcome other : Option alpha}
    (finds : Finds next accepts pending tried outcome)
    (otherFinds : Finds next accepts pending tried other) : outcome = other := by
  induction finds with
  | nothing tried =>
      cases otherFinds
      rfl
  | skip again rest restHypothesis =>
      cases otherFinds with
      | skip _ otherRest => exact restHypothesis otherRest
      | accept fresh _ => exact absurd again fresh
      | goOn fresh _ _ => exact absurd again fresh
  | accept fresh accepted =>
      cases otherFinds with
      | skip again _ => exact absurd again fresh
      | accept _ _ => rfl
      | goOn _ refused _ => simp [accepted] at refused
  | goOn fresh refused rest restHypothesis =>
      cases otherFinds with
      | skip again _ => exact absurd again fresh
      | accept _ accepted => simp [accepted] at refused
      | goOn _ _ otherRest => exact restHypothesis otherRest

/-- Where a search of some nodes gives rise to one of others, it does so as well behind deep nodes:
these lead to deep nodes only, and marks elsewhere do not concern them. -/
theorem Finds.behind_deep {deep known extra : Set alpha} {seeds others front : List alpha}
    {tried : Set alpha} {outcome alternative : Option alpha}
    (closed : ∀ node ∈ deep, ∀ target ∈ next node, target ∈ deep)
    (apart : ∀ node ∈ deep, node ∉ extra)
    (replaced : ∀ (tried : Set alpha) (outcome : Option alpha), tried ⊆ known ∪ deep →
      Finds next accepts seeds tried outcome →
      Finds next accepts others (tried ∪ extra) (outcome.or alternative))
    (within : tried ⊆ known ∪ deep) (inFront : ∀ node ∈ front, node ∈ deep)
    (finds : Finds next accepts (front ++ seeds) tried outcome) :
    Finds next accepts (front ++ others) (tried ∪ extra) (outcome.or alternative) := by
  generalize stack : front ++ seeds = pending at finds
  induction finds generalizing front with
  | nothing tried =>
      obtain ⟨rfl, rfl⟩ := List.append_eq_nil_iff.mp stack
      exact replaced tried none within (.nothing tried)
  | skip again rest restHypothesis =>
      cases front with
      | nil =>
          rw [List.nil_append] at stack
          rw [stack] at replaced
          exact replaced _ _ within (.skip again rest)
      | cons first front =>
          cases stack
          rw [List.forall_mem_cons] at inFront
          exact .skip (Or.inl again) (restHypothesis within inFront.2 rfl)
  | accept fresh accepted =>
      cases front with
      | nil =>
          rw [List.nil_append] at stack
          rw [stack] at replaced
          exact replaced _ _ within (.accept fresh accepted)
      | cons first front =>
          cases stack
          rw [List.forall_mem_cons] at inFront
          exact .accept (not_or.mpr ⟨fresh, apart _ inFront.1⟩) accepted
  | goOn fresh refused rest restHypothesis =>
      cases front with
      | nil =>
          rw [List.nil_append] at stack
          rw [stack] at replaced
          exact replaced _ _ within (.goOn fresh refused rest)
      | cons first front =>
          cases stack
          rw [List.forall_mem_cons] at inFront
          refine .goOn (not_or.mpr ⟨fresh, apart _ inFront.1⟩) refused ?_
          have further := restHypothesis
            (Set.insert_subset (Or.inr inFront.1) within)
            (List.forall_mem_append.mpr ⟨closed _ inFront.1, inFront.2⟩)
            (List.append_assoc _ _ _)
          rwa [List.append_assoc, Set.insert_union] at further

end Searches

namespace Machine

variable {machine : Machine}

/-! ## Instructions at places of a text -/

/-- Where an instruction leads from a place of a text: to others at this place, or behind the symbol
that follows. -/
def next (machine : Machine) (text : List Nat) (node : Nat × Nat) : List (Nat × Nat) :=
  (machine.near (text.take node.2).getLast? text[node.2]? node.1).map (·, node.2) ++
    ((text[node.2]?).bind (machine.behind? · node.1)).toList.map (·, node.2 + 1)

/-- What a search of the instructions at the places of a text finds. -/
def Search (machine : Machine) (text : List Nat) (pending : List (Nat × Nat))
    (tried : Set (Nat × Nat)) (outcome : Option (Nat × Nat)) : Prop :=
  Finds (machine.next text) (fun node => machine.accepts node.1) pending tried outcome

/-- Indices without an instruction, at any place. They count as tried. -/
def missingNodes (machine : Machine) : Set (Nat × Nat) :=
  {node | node.1 ∈ machine.missing}

/-- The match that backtracking finds from a place of a text ends at a place, or there is none. -/
def MatchesFrom (machine : Machine) (text : List Nat) (start : Nat) (finish : Option Nat) : Prop :=
  ∃ outcome, machine.Search text [(machine.start, start)] machine.missingNodes outcome ∧
    finish = outcome.map (·.2)

/-- The leftmost match of a text that backtracking finds leads from one place to another. -/
def MatchesFirst (machine : Machine) (text : List Nat) (start finish : Nat) : Prop :=
  start ≤ text.length ∧ machine.MatchesFrom text start (some finish) ∧
    ∀ earlier < start, machine.MatchesFrom text earlier none

/-- The instructions that visited instructions lead to behind a symbol, as far as no match is
preferred to them. -/
def seeds (machine : Machine) (symbol : Option Nat) (visited : List Nat) : List Nat :=
  ((visited.filter machine.waits).takeWhile (!machine.accepts ·)).filterMap
    fun index => symbol.bind (machine.behind? · index)

/-- The first of some instructions that accepts, at a place. -/
def acceptedAt (machine : Machine) (place : Nat) (visited : List Nat) : Option (Nat × Nat) :=
  (visited.find? machine.accepts).map (·, place)

theorem waits_of_accepts {index : Nat} (accepted : machine.accepts index = true) :
    machine.waits index = true := by
  rw [accepts] at accepted
  rw [waits]
  split at accepted
  · rename_i found
    rw [found]
  · cases accepted

theorem near_eq_nil_of_waits {before after : Option Nat} {index : Nat}
    (stays : machine.waits index = true) : machine.near before after index = [] := by
  rw [waits] at stays
  rw [near]
  split at stays
  · rename_i found
    rw [found]
    rfl
  · rename_i found
    rw [found]
    rfl
  · cases stays

theorem behind?_eq_none {symbol index : Nat} (leaves : machine.waits index = false) :
    machine.behind? symbol index = none := by
  rw [waits] at leaves
  rw [behind?]
  split
  · rename_i found
    rw [found] at leaves
    cases leaves
  · rfl

theorem seeds_of_accepts {symbol : Option Nat} {index : Nat} {visited : List Nat}
    (accepted : machine.accepts index = true) : machine.seeds symbol (index :: visited) = [] := by
  rw [seeds, List.filter_cons_of_pos (waits_of_accepts accepted),
    List.takeWhile_cons_of_neg (by simp [accepted])]
  rfl

theorem seeds_of_waits {symbol : Option Nat} {index : Nat} {visited : List Nat}
    (refused : machine.accepts index = false) (stays : machine.waits index = true) :
    machine.seeds symbol (index :: visited) =
      (symbol.bind (machine.behind? · index)).toList ++ machine.seeds symbol visited := by
  rw [seeds, List.filter_cons_of_pos stays, List.takeWhile_cons_of_pos (by simp [refused]),
    List.filterMap_cons]
  split
  · rename_i nothing
    rw [nothing]
    rfl
  · rename_i target found
    rw [found]
    rfl

theorem seeds_of_leaves {symbol : Option Nat} {index : Nat} {visited : List Nat}
    (leaves : machine.waits index = false) :
    machine.seeds symbol (index :: visited) = machine.seeds symbol visited := by
  rw [seeds, List.filter_cons_of_neg (by simp [leaves]), ← seeds]

/-- A search never goes back in the text. -/
theorem le_of_mem_next {text : List Nat} {node target : Nat × Nat}
    (member : target ∈ machine.next text node) : node.2 ≤ target.2 := by
  rw [next, List.mem_append, List.mem_map, List.mem_map] at member
  rcases member with ⟨_, _, rfl⟩ | ⟨_, _, rfl⟩
  · exact Nat.le_refl _
  · exact Nat.le_succ _

/-- Instructions at a place, as nodes of a search. -/
def nodesAt (indices : Set Nat) (place : Nat) : Set (Nat × Nat) :=
  {node | node.1 ∈ indices ∧ node.2 = place}

theorem insert_nodesAt (known : Set (Nat × Nat)) (indices : Set Nat) (index place : Nat) :
    insert (index, place) (known ∪ nodesAt indices place) =
      known ∪ nodesAt (insert index indices) place := by
  ext ⟨other, otherPlace⟩
  simp only [nodesAt, Set.mem_insert_iff, Set.mem_union, Set.mem_ofPred_eq, Prod.mk.injEq]
  tauto

/-- A search of the instructions at one place finds what the search behind the next symbol finds, or
else the first accepting instruction here. -/
theorem search_of_visits {text : List Nat} {place : Nat} {pending visited : List Nat}
    {tried : Set Nat} (includesMissing : machine.missing ⊆ tried)
    (visits : Visits (machine.near (text.take place).getLast? text[place]?) pending tried visited)
    {deepTried : Set (Nat × Nat)} {outcome : Option (Nat × Nat)}
    (within : deepTried ⊆ machine.missingNodes ∪ {node | place < node.2})
    (deepSearch : machine.Search text
      ((machine.seeds text[place]? visited).map (·, place + 1)) deepTried outcome) :
    machine.Search text (pending.map (·, place)) (deepTried ∪ nodesAt tried place)
      (outcome.or (machine.acceptedAt place visited)) := by
  induction visits generalizing deepTried outcome with
  | done tried =>
      cases deepSearch
      exact .nothing _
  | skip again rest restHypothesis =>
      exact .skip (Or.inr ⟨again, rfl⟩) (restHypothesis includesMissing within deepSearch)
  | @visit index pending visited tried fresh rest restHypothesis =>
      have freshHere : (index, place) ∉ deepTried ∪ nodesAt tried place := by
        rintro (known | ⟨known, -⟩)
        · rcases within known with isMissing | deeper
          · exact fresh (includesMissing isMissing)
          · exact Nat.lt_irrefl place deeper
        · exact fresh known
      have includesMissingStill : machine.missing ⊆ insert index tried :=
        includesMissing.trans (Set.subset_insert index tried)
      cases accepted : machine.accepts index with
      | true =>
          rw [seeds_of_accepts accepted] at deepSearch
          cases deepSearch
          rw [acceptedAt, List.find?_cons_of_pos accepted]
          exact .accept freshHere accepted
      | false =>
          refine .goOn freshHere accepted ?_
          rw [insert_nodesAt, acceptedAt, List.find?_cons_of_neg (by simp [accepted]),
            ← acceptedAt, next]
          cases stays : machine.waits index with
          | true =>
              -- The search goes on behind the next symbol before it comes back to this place.
              rw [near_eq_nil_of_waits stays] at restHypothesis ⊢
              rw [seeds_of_waits accepted stays, List.map_append] at deepSearch
              rw [List.map_nil, List.nil_append]
              refine Finds.behind_deep ?_ ?_ ?_ within ?_ deepSearch
              · exact fun node deeper target member => deeper.trans_le (le_of_mem_next member)
              · rintro node deeper ⟨-, here⟩
                exact deeper.ne' here
              · exact fun others found othersWithin othersSearch =>
                  restHypothesis includesMissingStill othersWithin othersSearch
              · intro node member
                obtain ⟨target, -, rfl⟩ := List.mem_map.mp member
                exact Nat.lt_succ_self place
          | false =>
              have nothingBehind : (text[place]?).bind (machine.behind? · index) = none := by
                cases text[place]? with
                | none => rfl
                | some symbol => exact behind?_eq_none stays
              rw [seeds_of_leaves stays] at deepSearch
              rw [nothingBehind]
              have search := restHypothesis includesMissingStill within deepSearch
              rw [List.map_append] at search
              rw [Option.toList_none, List.map_nil, List.append_nil]
              exact search

/-! ## Both ways of matching -/

theorem any_accepts_iff (visited : List Nat) :
    (visited.filter machine.waits).any machine.accepts = true ↔
      (visited.find? machine.accepts).isSome = true := by
  rw [List.any_eq_true, List.find?_isSome]
  constructor
  · rintro ⟨index, member, accepted⟩
    exact ⟨index, (List.mem_filter.mp member).1, accepted⟩
  · rintro ⟨index, member, accepted⟩
    exact ⟨index, List.mem_filter.mpr ⟨member, waits_of_accepts accepted⟩, accepted⟩

/-- The indices without an instruction are missing at each place. -/
theorem union_nodesAt_missing (place : Nat) :
    machine.missingNodes ∪ nodesAt machine.missing place = machine.missingNodes :=
  Set.union_eq_self_of_subset_right fun _ member => member.1

theorem search_at_place {text : List Nat} (starts : List Nat) (place : Nat)
    {outcome : Option (Nat × Nat)} {visited : List Nat}
    (visits : Visits (machine.near (text.take place).getLast? text[place]?) starts machine.missing
      visited)
    (deepSearch : machine.Search text
      ((machine.seeds text[place]? visited).map (·, place + 1))
      machine.missingNodes outcome) :
    machine.Search text (starts.map (·, place)) machine.missingNodes
      (outcome.or (machine.acceptedAt place visited)) := by
  have search := search_of_visits (Set.Subset.refl _) visits Set.subset_union_left deepSearch
  rwa [union_nodesAt_missing] at search

theorem spans_nil (bound : Nat) (before : Option Nat) (rest : List Nat) :
    machine.spans bound before [] rest = false := by
  have nothingReached (after : Option Nat) : machine.reach bound before after [] = [] := by
    rw [reach]
    cases bound with
    | zero => rfl
    | succ bound => rfl
  cases rest with
  | nil =>
      rw [spans, nothingReached]
      rfl
  | cons symbol further =>
      rw [spans, nothingReached]
      rfl

theorem spans_cons {bound symbol : Nat} {before : Option Nat} {starts further visited : List Nat}
    (reached : machine.reach bound before (some symbol) starts = visited.filter machine.waits) :
    machine.spans bound before starts (symbol :: further) =
      machine.spans bound (some symbol) (machine.seeds (some symbol) visited) further := by
  have sameSeeds : ((visited.filter machine.waits).takeWhile (!machine.accepts ·)).filterMap
      (machine.behind? symbol) = machine.seeds (some symbol) visited := rfl
  rw [spans, reached]
  simp only [sameSeeds]
  cases machine.seeds (some symbol) visited with
  | nil => exact (spans_nil bound (some symbol) further).symm
  | cons first others => rfl

/-- From instructions at a place on, backtracking has an outcome, and it is a match up to the end
just where the preferred match takes up the rest of the text. -/
theorem spans_iff (consumed rest : List Nat) (starts : List Nat) :
    ∃ outcome, machine.Search (consumed ++ rest) (starts.map (·, consumed.length))
        machine.missingNodes outcome ∧
      (machine.spans machine.stepBound consumed.getLast? starts rest = true ↔
        outcome.map (·.2) = some (consumed ++ rest).length) := by
  induction rest generalizing consumed starts with
  | nil =>
      obtain ⟨visited, visits, reached⟩ := machine.reach_visits consumed.getLast? none starts
      have front : ((consumed ++ []).take consumed.length).getLast? = consumed.getLast? := by
        rw [List.take_left]
      have atEnd : (consumed ++ [])[consumed.length]? = none := by
        simp
      have noSeeds : machine.seeds none visited = [] := by
        simp [seeds]
      refine ⟨Option.or none (machine.acceptedAt consumed.length visited), ?_, ?_⟩
      · refine search_at_place starts consumed.length (by rwa [front, atEnd]) ?_
        rw [atEnd, noSeeds]
        exact .nothing _
      · rw [spans, reached, any_accepts_iff, acceptedAt]
        cases visited.find? machine.accepts with
        | none => simp
        | some index => simp
  | cons symbol further inductionHypothesis =>
      obtain ⟨visited, visits, reached⟩ :=
        machine.reach_visits consumed.getLast? (some symbol) starts
      have front : ((consumed ++ symbol :: further).take consumed.length).getLast? =
          consumed.getLast? := by
        rw [List.take_left]
      have atSymbol : (consumed ++ symbol :: further)[consumed.length]? = some symbol := by
        simp
      obtain ⟨outcome, deepSearch, spansDeeper⟩ :=
        inductionHypothesis (consumed ++ [symbol]) (machine.seeds (some symbol) visited)
      refine ⟨outcome.or (machine.acceptedAt consumed.length visited), ?_, ?_⟩
      · refine search_at_place starts consumed.length (by rwa [front, atSymbol]) ?_
        rw [atSymbol]
        simpa using deepSearch
      · rw [List.getLast?_concat] at spansDeeper
        rw [spans_cons reached, spansDeeper, List.append_assoc, List.singleton_append]
        cases outcome with
        | none =>
            cases found : visited.find? machine.accepts with
            | none => simp [acceptedAt, found]
            | some index => simp [acceptedAt, found]
        | some node => simp

/-- The preferred match takes up a text just where the first match that backtracking finds leads
from the start of the text to its end. -/
theorem matchesWhole_iff_matchesFirst (text : List Nat) :
    machine.matchesWhole text = true ↔ machine.MatchesFirst text 0 text.length := by
  obtain ⟨outcome, search, spansText⟩ := @spans_iff machine [] text [machine.start]
  rw [matchesWhole, show none = ([] : List Nat).getLast? from rfl, spansText]
  constructor
  · intro atEnd
    refine ⟨Nat.zero_le _, ⟨outcome, search, atEnd.symm⟩, ?_⟩
    intro earlier before
    exact absurd before (Nat.not_lt_zero earlier)
  · rintro ⟨-, ⟨other, otherSearch, atEnd⟩, -⟩
    rw [Finds.unique search otherSearch]
    exact atEnd.symm

/-- The preferred match from a place is one or none. -/
theorem MatchesFrom.unique {text : List Nat} {start : Nat} {finish other : Option Nat}
    (found : machine.MatchesFrom text start finish)
    (otherFound : machine.MatchesFrom text start other) : finish = other := by
  obtain ⟨outcome, search, rfl⟩ := found
  obtain ⟨otherOutcome, otherSearch, rfl⟩ := otherFound
  rw [Finds.unique search otherSearch]

/-- From each place of a text, backtracking comes to an end, and in one way only. -/
theorem existsUnique_matchesFrom {text : List Nat} {place : Nat} (within : place ≤ text.length) :
    ∃! finish, machine.MatchesFrom text place finish := by
  obtain ⟨outcome, search, -⟩ :=
    @spans_iff machine (text.take place) (text.drop place) [machine.start]
  rw [List.take_append_drop, List.length_take_of_le within] at search
  have found : machine.MatchesFrom text place (outcome.map (·.2)) := ⟨outcome, search, rfl⟩
  exact ⟨_, found, fun other otherFound => otherFound.unique found⟩

/-- There is one leftmost preferred match at most. -/
theorem MatchesFirst.unique {text : List Nat} {start finish otherStart otherFinish : Nat}
    (found : machine.MatchesFirst text start finish)
    (otherFound : machine.MatchesFirst text otherStart otherFinish) :
    start = otherStart ∧ finish = otherFinish := by
  obtain ⟨-, matched, noneBefore⟩ := found
  obtain ⟨-, otherMatched, noneBeforeOther⟩ := otherFound
  have sameStart : start = otherStart := by
    rcases Nat.lt_trichotomy start otherStart with before | same | after
    · cases matched.unique (noneBeforeOther start before)
    · exact same
    · cases otherMatched.unique (noneBefore otherStart after)
  subst sameStart
  exact ⟨rfl, Option.some.inj (matched.unique otherMatched)⟩

end Machine

end LiteralAudit.Regex

namespace LiteralAudit.Pattern

/-- The leftmost match of a pattern in a name that backtracking finds leads from one character to
another. -/
def MatchesFirst (pattern : Pattern) (name : String) (start finish : Nat) : Prop :=
  pattern.machine.MatchesFirst (name.toList.map Char.toNat) start finish

/-- A name matches as a whole if the leftmost preferred match takes it up. -/
theorem matchesWhole_iff (pattern : Pattern) (name : String) :
    pattern.matchesWhole name = true ↔ pattern.MatchesFirst name 0 name.length := by
  rw [matchesWhole, Regex.Machine.matchesWhole_iff_matchesFirst, MatchesFirst, List.length_map,
    String.length_toList]

end LiteralAudit.Pattern
