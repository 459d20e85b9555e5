import LiteralAudit.Regex.Machine
import Mathlib.Data.Set.Insert

/-!
# Instructions that are reached at a place

The instructions that wait at a place are found depth first, each of them once. The bound on the
steps is one that is never met: an instruction that was reached is marked, and only an instruction
that was not marked before adds targets to those that are still to be followed.
-/

namespace LiteralAudit.Regex

/-! ## Visits in depth -/

/-- The nodes that are visited from pending ones, the first one first and what comes behind a node
before the other pending ones. Nodes that were tried before are not visited. -/
inductive Visits {alpha : Type} (next : alpha → List alpha) :
    List alpha → Set alpha → List alpha → Prop where
  | done (tried : Set alpha) : Visits next [] tried []
  | skip {node : alpha} {pending visited : List alpha} {tried : Set alpha} (again : node ∈ tried)
      (rest : Visits next pending tried visited) : Visits next (node :: pending) tried visited
  | visit {node : alpha} {pending visited : List alpha} {tried : Set alpha} (fresh : node ∉ tried)
      (rest : Visits next (next node ++ pending) (insert node tried) visited) :
      Visits next (node :: pending) tried (node :: visited)

namespace Machine

/-- Where an instruction leads at the same place. -/
def near (machine : Machine) (before after : Option Nat) (index : Nat) : List Nat :=
  ((machine.instructions[index]?).bind (targets? · before after)).getD []

/-- Whether an instruction stays at a place, to read or to accept. -/
def waits (machine : Machine) (index : Nat) : Bool :=
  match machine.instructions[index]? with
  | some (.read _ _) => true
  | some .accept => true
  | _ => false

def missing (machine : Machine) : Set Nat :=
  {index | machine.instructions.size ≤ index}

/-! ## The bound on steps -/

/-- The number of targets of instructions without a mark. -/
def unmarkedTargets : List Instruction → List Bool → Nat
  | [], _ => 0
  | _, [] => 0
  | instruction :: further, marked :: marks =>
      (if marked then 0 else stepBound.targetCount instruction) + unmarkedTargets further marks

/-- Marking an instruction uses up its share of the bound. -/
theorem unmarkedTargets_set {instructions : List Instruction} {marks : List Bool} {index : Nat}
    {instruction : Instruction} (found : instructions[index]? = some instruction)
    (unmarked : marks[index]? = some false) :
    unmarkedTargets instructions (marks.set index true) + stepBound.targetCount instruction =
      unmarkedTargets instructions marks := by
  induction instructions generalizing marks index with
  | nil => cases found
  | cons first further inductionHypothesis =>
      cases marks with
      | nil => cases unmarked
      | cons mark marks =>
          cases index with
          | zero =>
              cases found
              cases unmarked
              simp only [List.set_cons_zero, unmarkedTargets, if_true, Bool.false_eq_true, if_false]
              omega
          | succ index =>
              have tail := @inductionHypothesis marks index found unmarked
              simp only [List.set_cons_succ, unmarkedTargets]
              omega

/-- The bound is enough for all instructions. -/
theorem unmarkedTargets_le (instructions : List Instruction) (marks : List Bool) (start : Nat) :
    start + unmarkedTargets instructions marks ≤
      instructions.foldl
        (fun sum instruction => sum + 1 + stepBound.targetCount instruction) start := by
  induction instructions generalizing marks start with
  | nil => simp [unmarkedTargets]
  | cons instruction further inductionHypothesis =>
      cases marks with
      | nil =>
          have tail := inductionHypothesis [] (start + 1 + stepBound.targetCount instruction)
          simp only [unmarkedTargets, List.foldl_cons]
          omega
      | cons mark marks =>
          have tail := inductionHypothesis marks (start + 1 + stepBound.targetCount instruction)
          simp only [unmarkedTargets, List.foldl_cons]
          split
          · omega
          · omega

theorem targets?_length {instruction : Instruction} {before after : Option Nat}
    {targets : List Nat} (found : targets? instruction before after = some targets) :
    targets.length ≤ stepBound.targetCount instruction := by
  cases instruction with
  | read members next => cases found
  | test condition next =>
      cases found
      show (if holds condition before after then [next] else []).length ≤ 1
      split
      · rfl
      · exact Nat.zero_le 1
  | split others =>
      cases found
      rfl
  | accept => cases found

/-! ## What is reached -/

section Reach

variable {machine : Machine} {before after : Option Nat}

theorem near_of_targets? {index : Nat} {instruction : Instruction} {targets : List Nat}
    (found : machine.instructions[index]? = some instruction)
    (leads : targets? instruction before after = some targets) :
    machine.near before after index = targets ∧ machine.waits index = false := by
  rw [near, waits, found]
  cases instruction with
  | read members next => cases leads
  | test condition next => exact ⟨by rw [Option.bind_some, leads]; rfl, rfl⟩
  | split others => exact ⟨by rw [Option.bind_some, leads]; rfl, rfl⟩
  | accept => cases leads

theorem near_of_waiting {index : Nat} {instruction : Instruction}
    (found : machine.instructions[index]? = some instruction)
    (stays : targets? instruction before after = none) :
    machine.near before after index = [] ∧ machine.waits index = true := by
  rw [near, waits, found]
  cases instruction with
  | read members next => exact ⟨rfl, rfl⟩
  | test condition next => cases stays
  | split others => cases stays
  | accept => exact ⟨rfl, rfl⟩

/-- The indices with a mark, and those without an instruction. -/
def markedIndices (marks : Array Bool) : Set Nat :=
  {index | marks.getD index true = true}

theorem markedIndices_set {marks : Array Bool} {index : Nat} (within : index < marks.size) :
    markedIndices (marks.setIfInBounds index true) = insert index (markedIndices marks) := by
  ext other
  rw [Set.mem_insert_iff, markedIndices, markedIndices, Set.mem_ofPred_eq, Set.mem_ofPred_eq]
  by_cases same : other = index
  · simp [same, within]
  · simp [same, Ne.symm same]

theorem markedIndices_replicate (size : Nat) :
    markedIndices (Array.replicate size false) = {index | size ≤ index} := by
  ext index
  rw [markedIndices, Set.mem_ofPred_eq, Set.mem_ofPred_eq]
  by_cases within : index < size
  · simp [within]
  · simp [within]
    omega

theorem getElem?_of_unmarked {marks : Array Bool} {index : Nat}
    (unmarked : ¬ marks.getD index true = true) :
    ∃ _ : index < marks.size, marks[index]? = some false := by
  by_cases within : index < marks.size
  · exact ⟨within, by simpa [within] using unmarked⟩
  · simp [within] at unmarked

/-- Following instructions visits what can be reached, if the bound leaves room for the targets of
all instructions that have no mark yet. -/
theorem follow_visits {bound : Nat} {pending : List Nat} {reached : Reached}
    (sizes : reached.marks.size = machine.instructions.size)
    (enough : pending.length + unmarkedTargets machine.instructions.toList reached.marks.toList ≤
      bound) :
    ∃ visited, Visits (machine.near before after) pending (markedIndices reached.marks) visited ∧
      (machine.follow before after bound pending reached).waiting =
        (visited.filter machine.waits).reverse ++ reached.waiting := by
  induction bound generalizing pending reached with
  | zero =>
      have noneLeft : pending = [] := by
        rw [← List.length_eq_zero_iff]
        omega
      subst noneLeft
      exact ⟨[], .done _, rfl⟩
  | succ bound inductionHypothesis =>
      cases pending with
      | nil => exact ⟨[], .done _, rfl⟩
      | cons index pending =>
          rw [List.length_cons] at enough
          rw [follow]
          by_cases marked : reached.marks.getD index true = true
          · rw [if_pos marked]
            obtain ⟨visited, visits, waiting⟩ :=
              @inductionHypothesis pending reached sizes (by omega)
            exact ⟨visited, .skip marked visits, waiting⟩
          · rw [if_neg marked]
            obtain ⟨within, unmarked⟩ := getElem?_of_unmarked marked
            obtain ⟨instruction, found⟩ : ∃ instruction,
                machine.instructions[index]? = some instruction :=
              ⟨_, Array.getElem?_eq_getElem (sizes ▸ within)⟩
            have lighter := @unmarkedTargets_set machine.instructions.toList
              reached.marks.toList index instruction (by simpa using found)
              (by simpa using unmarked)
            have newSizes : (reached.marks.setIfInBounds index true).size =
                machine.instructions.size := by
              rw [Array.size_setIfInBounds, sizes]
            rw [← Array.toList_setIfInBounds] at lighter
            simp only [found]
            cases leads : targets? instruction before after with
            | none =>
                obtain ⟨noTargets, stays⟩ := near_of_waiting found leads
                obtain ⟨visited, visits, waiting⟩ := @inductionHypothesis pending
                  ⟨reached.marks.setIfInBounds index true, index :: reached.waiting⟩ newSizes
                  (by simp only; omega)
                refine ⟨index :: visited, .visit marked ?_, ?_⟩
                · rw [noTargets, List.nil_append, ← markedIndices_set within]
                  exact visits
                · rw [waiting, List.filter_cons_of_pos stays, List.reverse_cons, List.append_assoc]
                  rfl
            | some targets =>
                obtain ⟨allTargets, leaves⟩ := near_of_targets? found leads
                have fewTargets := targets?_length leads
                obtain ⟨visited, visits, waiting⟩ := @inductionHypothesis (targets ++ pending)
                  ⟨reached.marks.setIfInBounds index true, reached.waiting⟩ newSizes
                  (by rw [List.length_append]; simp only; omega)
                refine ⟨index :: visited, .visit marked ?_, ?_⟩
                · rw [allTargets, ← markedIndices_set within]
                  exact visits
                · rw [waiting, List.filter_cons_of_neg (by simp [leaves])]

/-- The instructions that wait at a place are those that are visited and wait. -/
theorem reach_visits (machine : Machine) (before after : Option Nat) (starts : List Nat) :
    ∃ visited, Visits (machine.near before after) starts machine.missing visited ∧
      machine.reach machine.stepBound before after starts = visited.filter machine.waits := by
  have bounded := unmarkedTargets_le machine.instructions.toList
    (Array.replicate machine.instructions.size false).toList 1
  rw [Array.foldl_toList] at bounded
  obtain ⟨visited, visits, waiting⟩ := @follow_visits machine before after
    (machine.stepBound + starts.length) starts
    ⟨Array.replicate machine.instructions.size false, []⟩ Array.size_replicate
    (by rw [stepBound]; simp only; omega)
  refine ⟨visited, ?_, ?_⟩
  · rw [missing, ← markedIndices_replicate]
    exact visits
  · rw [reach, waiting, List.append_nil, List.reverse_reverse]

end Reach

end Machine

end LiteralAudit.Regex
