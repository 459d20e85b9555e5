import LiteralAudit.Files.Path
import Mathlib.Data.List.Lex
import Mathlib.Data.String.Basic

/-!
# Paths below a folder

The name of an entry is one component of its path, so that the path of an entry has the components
of the folder and one more. Paths below one folder are therefore ordered as the lists of names that
lead to them.
-/

namespace LiteralAudit

namespace Path

/-! ## Pieces -/

theorem pieces_ne_nil (path : List Char) : pieces path ≠ [] := by
  cases path with
  | nil => simp [pieces]
  | cons character rest =>
      rw [pieces]
      split
      · simp
      · split
        · simp
        · simp

theorem exists_pieces (path : List Char) : ∃ first rest, pieces path = first :: rest :=
  List.exists_cons_of_ne_nil (pieces_ne_nil path)

theorem pieces_append_slash (front back : List Char) :
    pieces (front ++ '/' :: back) = pieces front ++ pieces back := by
  induction front with
  | nil => simp [pieces]
  | cons character rest inductionHypothesis =>
      rw [List.cons_append, pieces, pieces, inductionHypothesis]
      obtain ⟨first, further, order⟩ := exists_pieces rest
      rw [order]
      split
      · rfl
      · rfl

theorem pieces_of_slash_notMem {name : List Char} (single : '/' ∉ name) :
    pieces name = [name] := by
  induction name with
  | nil => rfl
  | cons character rest inductionHypothesis =>
      rw [List.mem_cons, not_or] at single
      rw [pieces, if_neg (Ne.symm single.1), inductionHypothesis single.2]

theorem inner_append (front back : List (List Char)) :
    inner (front ++ back) = inner front ++ inner back := by
  rw [inner, List.filter_append, List.map_append]
  rfl

/-! ## Components -/

def startComponents (path first : List Char) : List Component :=
  if path.head? = some '/' then [.root]
  else if first = ['.'] then [.current]
  else inner [first]

theorem splitStart_of_pieces {path first : List Char} {rest : List (List Char)}
    (order : pieces path = first :: rest) :
    splitStart path =
      if path.head? = some '/' then (some .root, rest)
      else if first = ['.'] then (some .current, rest)
      else (none, first :: rest) := by
  unfold splitStart
  rw [order]
  by_cases rooted : path.head? = some '/'
  · obtain ⟨tail, rfl⟩ := List.head?_eq_some_iff.mp rooted
    rw [if_pos rooted]
    rfl
  · have notRooted : ∀ tail, path ≠ '/' :: tail := by
      rintro tail rfl
      exact rooted rfl
    rw [if_neg rooted]
    by_cases dotted : first = ['.']
    · simp [dotted]
    · simp [dotted, notRooted]

theorem components_of_pieces {path first : List Char} {rest : List (List Char)}
    (order : pieces path = first :: rest) :
    components path = startComponents path first ++ inner rest := by
  rw [components, splitStart_of_pieces order, startComponents]
  by_cases rooted : path.head? = some '/'
  · simp only [if_pos rooted]
    rfl
  · simp only [if_neg rooted]
    by_cases dotted : first = ['.']
    · simp only [if_pos dotted]
      rfl
    · simp only [if_neg dotted]
      exact inner_append [first] rest

/-- A slash separates components, whatever stands around it. -/
theorem components_append_slash (base path : List Char) :
    components (base ++ '/' :: path) = components (base ++ ['/']) ++ inner (pieces path) := by
  obtain ⟨first, rest, order⟩ := exists_pieces base
  have orderBelow : pieces (base ++ '/' :: path) = first :: (rest ++ pieces path) := by
    rw [pieces_append_slash, order]
    rfl
  have orderAlone : pieces (base ++ ['/']) = first :: (rest ++ [[]]) := by
    rw [pieces_append_slash, order]
    rfl
  have sameHead : (base ++ '/' :: path).head? = (base ++ ['/']).head? := by
    cases base with
    | nil => rfl
    | cons character further => rfl
  rw [components_of_pieces orderBelow, components_of_pieces orderAlone, startComponents,
    startComponents, sameHead, inner_append, inner_append, List.append_assoc, List.append_assoc]
  rfl

/-- A slash at the end of a path does not count, except for the root. -/
theorem components_slash {base : List Char} (nonempty : base ≠ []) :
    components (base ++ ['/']) = components base := by
  obtain ⟨first, rest, order⟩ := exists_pieces base
  have orderWithSlash : pieces (base ++ ['/']) = first :: (rest ++ [[]]) := by
    rw [pieces_append_slash, order]
    rfl
  have sameHead : (base ++ ['/']).head? = base.head? := by
    cases base with
    | nil => exact absurd rfl nonempty
    | cons character further => rfl
  rw [components_of_pieces orderWithSlash, components_of_pieces order, startComponents,
    startComponents, sameHead, inner_append]
  exact congrArg _ (List.append_nil (inner rest))

/-! ## Names -/

/-- What the name of an entry can be. -/
def IsName (name : String) : Prop :=
  name ≠ "" ∧ name ≠ "." ∧ name ≠ ".." ∧ '/' ∉ name.toList

instance (name : String) : Decidable (IsName name) :=
  inferInstanceAs (Decidable (_ ∧ _))

theorem IsName.isAbsolute_eq_false {name : String} (proper : IsName name) :
    isAbsolute name = false := by
  obtain ⟨-, -, -, single⟩ := proper
  rw [isAbsolute, beq_eq_false_iff_ne]
  intro head
  exact single (List.mem_of_head? head)

/-- The name of an entry is one component. -/
theorem IsName.inner_pieces {name : String} (proper : IsName name) :
    inner (pieces name.toList) = [.normal name.toList] := by
  obtain ⟨nonempty, notCurrent, notParent, single⟩ := proper
  have notNil : name.toList ≠ [] := fun same => nonempty (String.toList_inj.mp same)
  have notDot : name.toList ≠ ['.'] := fun same => notCurrent (String.toList_inj.mp same)
  have notDots : name.toList ≠ ['.', '.'] := fun same => notParent (String.toList_inj.mp same)
  have counts : isTrivial name.toList = false := by
    simp [isTrivial, notDot, nonempty]
  have isNormal : componentOf name.toList = .normal name.toList := if_neg notDots
  rw [pieces_of_slash_notMem single, inner, List.filter_cons, counts]
  simp [isNormal]

/-- An entry of a folder has the components of the folder, and its name. -/
theorem components_join {base name : String} (nonempty : base ≠ "") (proper : IsName name) :
    components (join base name).toList = components base.toList ++ [.normal name.toList] := by
  have nonemptyList : base.toList ≠ [] := fun same => nonempty (String.toList_inj.mp same)
  have goesOn : (isAbsolute name || base.isEmpty) = false := by
    simpa [proper.isAbsolute_eq_false] using nonempty
  rw [join, goesOn]
  by_cases slash : base.toList.getLast? = some '/'
  · obtain ⟨front, split⟩ := List.getLast?_eq_some_iff.mp slash
    rw [if_neg Bool.false_ne_true, if_pos (beq_iff_eq.mpr slash), String.toList_append, split,
      List.append_assoc, List.singleton_append, components_append_slash, proper.inner_pieces]
  · rw [if_neg Bool.false_ne_true, if_neg (by simpa using slash), String.toList_append,
      String.toList_append, List.append_assoc]
    show components (base.toList ++ '/' :: name.toList) = _
    rw [components_append_slash, components_slash nonemptyList, proper.inner_pieces]

/-! ## Paths below a folder -/

def below (folder : String) (names : List String) : String :=
  names.foldl join folder

theorem join_ne_empty {base name : String} (nonempty : base ≠ "") (proper : IsName name) :
    join base name ≠ "" := by
  intro isEmpty
  have lengths := congrArg List.length (components_join nonempty proper)
  rw [isEmpty] at lengths
  simp [components, splitStart, pieces, inner, isTrivial] at lengths

theorem components_below {folder : String} {names : List String} (nonempty : folder ≠ "")
    (proper : ∀ name ∈ names, IsName name) :
    components (below folder names).toList =
      components folder.toList ++ names.map (fun name => .normal name.toList) := by
  induction names generalizing folder with
  | nil => exact (List.append_nil _).symm
  | cons name further inductionHypothesis =>
      rw [List.forall_mem_cons] at proper
      show components (below (join folder name) further).toList = _
      rw [inductionHypothesis (join_ne_empty nonempty proper.1) proper.2,
        components_join nonempty proper.1, List.append_assoc]
      rfl

/-- Common components at the start do not count. -/
theorem componentsLe_append (front left right : List Component) :
    componentsLe (front ++ left) (front ++ right) = componentsLe left right := by
  induction front with
  | nil => rfl
  | cons component further inductionHypothesis =>
      rw [List.cons_append, List.cons_append, componentsLe, if_pos rfl, inductionHypothesis]

theorem nameLe_iff (left right : List Char) :
    Component.nameLe left right = true ↔ ¬ right < left := by
  induction left generalizing right with
  | nil => simp [Component.nameLe]
  | cons leftFirst leftRest inductionHypothesis =>
      cases right with
      | nil => simp [Component.nameLe]
      | cons rightFirst rightRest =>
          rw [Component.nameLe, List.cons_lt_cons_iff]
          by_cases same : leftFirst = rightFirst
          · simp [same, inductionHypothesis]
          · simp [same, Ne.symm same, le_iff_lt_or_eq]

theorem componentsLe_names (left right : List String) :
    componentsLe (left.map fun name => .normal name.toList)
        (right.map fun name => .normal name.toList) = true ↔
      ¬ right < left := by
  induction left generalizing right with
  | nil => simp [componentsLe]
  | cons leftFirst leftRest inductionHypothesis =>
      cases right with
      | nil => simp [componentsLe]
      | cons rightFirst rightRest =>
          rw [List.map_cons, List.map_cons, componentsLe, List.cons_lt_cons_iff]
          by_cases same : leftFirst = rightFirst
          · simp [same, inductionHypothesis]
          · have different : Component.normal leftFirst.toList ≠ .normal rightFirst.toList := by
              simpa [String.toList_inj] using same
            rw [if_neg different, Component.le, nameLe_iff, ← String.lt_iff_toList_lt, not_or,
              and_iff_left]
            exact fun both => same both.1.symm

/-- Paths below one folder are in the order of the names that lead to them. -/
theorem le_below_iff {folder : String} {left right : List String} (nonempty : folder ≠ "")
    (leftProper : ∀ name ∈ left, IsName name) (rightProper : ∀ name ∈ right, IsName name) :
    le (below folder left) (below folder right) = true ↔ ¬ right < left := by
  rw [le, components_below nonempty leftProper, components_below nonempty rightProper,
    componentsLe_append, componentsLe_names]

/-- The names that lead from a folder to a path below it can be told from the path. -/
theorem below_inj {folder : String} {left right : List String} (nonempty : folder ≠ "")
    (leftProper : ∀ name ∈ left, IsName name) (rightProper : ∀ name ∈ right, IsName name)
    (samePath : below folder left = below folder right) : left = right := by
  have sameComponents := congrArg (fun path => components path.toList) samePath
  simp only [components_below nonempty leftProper, components_below nonempty rightProper,
    List.append_cancel_left_eq] at sameComponents
  exact List.map_injective_iff.mpr
    (fun left right same => String.toList_inj.mp (Component.normal.inj same)) sameComponents

end Path

end LiteralAudit
