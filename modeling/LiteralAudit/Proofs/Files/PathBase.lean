import LiteralAudit.Proofs.Files.PathOrder
import Mathlib.Data.List.DropRight

/-!
# Paths from a base

A path below a base is named from the base by the components that follow those of the base. Whether
it stands there is a matter of components: in both texts slashes may be repeated or stand at the
end, and single dots may stand between them, and a base that only begins the text of a path is no
base of it.
-/

namespace LiteralAudit

namespace Path

/-! ## Pieces of a text -/

/-- The pieces of a text are made of its characters, the slashes apart. -/
theorem mem_of_mem_pieces {path piece : List Char} {character : Char}
    (member : piece ∈ pieces path) (inside : character ∈ piece) :
    character ∈ path ∧ character ≠ '/' := by
  induction path generalizing piece with
  | nil =>
      rw [pieces, List.mem_singleton] at member
      rw [member] at inside
      cases inside
  | cons head rest inductionHypothesis =>
      have later {other : List Char} (behind : other ∈ pieces rest) (within : character ∈ other) :
          character ∈ head :: rest ∧ character ≠ '/' := by
        obtain ⟨inRest, notSlash⟩ := inductionHypothesis behind within
        exact ⟨List.mem_cons_of_mem head inRest, notSlash⟩
      rw [pieces] at member
      by_cases slash : head = '/'
      · rw [if_pos slash] at member
        rcases List.mem_cons.mp member with rfl | behind
        · cases inside
        · exact later behind inside
      · obtain ⟨first, further, order⟩ := exists_pieces rest
        rw [if_neg slash, order] at member
        rw [order] at later
        rcases List.mem_cons.mp member with rfl | behind
        · rcases List.mem_cons.mp inside with rfl | inFirst
          · exact ⟨List.mem_cons_self, slash⟩
          · exact later List.mem_cons_self inFirst
        · exact later (List.mem_cons_of_mem first behind) inside

theorem slash_notMem_of_mem_pieces {path piece : List Char} (member : piece ∈ pieces path) :
    '/' ∉ piece :=
  fun inside => (mem_of_mem_pieces member inside).2 rfl

/-- Only a path that starts with a slash, or is empty, has an empty piece first. -/
theorem head?_ne_slash_of_pieces {path first : List Char} {further : List (List Char)}
    (order : pieces path = first :: further) (filled : first ≠ []) : path.head? ≠ some '/' := by
  intro rooted
  obtain ⟨rest, rfl⟩ := List.head?_eq_some_iff.mp rooted
  rw [pieces, if_pos rfl] at order
  exact filled (List.cons.inj order).1.symm

theorem first_ne_nil_of_pieces {path first : List Char} {further : List (List Char)}
    (order : pieces path = first :: further) (nonempty : path ≠ [])
    (notRooted : path.head? ≠ some '/') : first ≠ [] := by
  obtain ⟨head, rest, rfl⟩ := List.exists_cons_of_ne_nil nonempty
  have notSlash : head ≠ '/' := by
    rintro rfl
    exact notRooted rfl
  obtain ⟨firstBehind, others, orderBehind⟩ := exists_pieces rest
  rw [pieces, if_neg notSlash, orderBehind] at order
  rw [← (List.cons.inj order).1]
  exact List.cons_ne_nil head firstBehind

theorem ofPieces_cons_cons (first second : List Char) (further : List (List Char)) :
    ofPieces (first :: second :: further) = first ++ '/' :: ofPieces (second :: further) := by
  rw [ofPieces, List.intercalate_cons_cons, List.append_assoc]
  rfl

/-- Pieces that are joined are the pieces of the text. -/
theorem pieces_ofPieces {found : List (List Char)} (nonempty : found ≠ [])
    (single : ∀ piece ∈ found, '/' ∉ piece) : pieces (ofPieces found) = found := by
  induction found with
  | nil => exact absurd rfl nonempty
  | cons first further inductionHypothesis =>
      rw [List.forall_mem_cons] at single
      cases further with
      | nil =>
          rw [ofPieces, List.intercalate_singleton, pieces_of_slash_notMem single.1]
      | cons second others =>
          rw [ofPieces_cons_cons, pieces_append_slash, pieces_of_slash_notMem single.1,
            inductionHypothesis (List.cons_ne_nil second others) single.2]
          rfl

theorem mem_ofPieces {found : List (List Char)} {character : Char}
    (member : character ∈ ofPieces found) :
    character = '/' ∨ ∃ piece ∈ found, character ∈ piece := by
  induction found with
  | nil => cases member
  | cons first further inductionHypothesis =>
      cases further with
      | nil =>
          rw [ofPieces, List.intercalate_singleton] at member
          exact .inr ⟨first, List.mem_cons_self, member⟩
      | cons second others =>
          rw [ofPieces_cons_cons, List.mem_append, List.mem_cons] at member
          rcases member with inFirst | slash | behind
          · exact .inr ⟨first, List.mem_cons_self, inFirst⟩
          · exact .inl slash
          · rcases inductionHypothesis behind with slash | ⟨piece, inFurther, inPiece⟩
            · exact .inl slash
            · exact .inr ⟨piece, List.mem_cons_of_mem first inFurther, inPiece⟩

/-! ## Pieces that do not count -/

theorem inner_cons (piece : List Char) (further : List (List Char)) :
    inner (piece :: further) =
      if isTrivial piece then inner further else componentOf piece :: inner further := by
  by_cases trivially : isTrivial piece = true
  · simp [inner, trivially]
  · simp [inner, trivially]

theorem inner_dropWhile (found : List (List Char)) :
    inner (found.dropWhile isTrivial) = inner found := by
  induction found with
  | nil => rfl
  | cons piece further inductionHypothesis =>
      by_cases trivially : isTrivial piece = true
      · rw [List.dropWhile_cons_of_pos trivially, inductionHypothesis, inner_cons,
          if_pos trivially]
      · rw [List.dropWhile_cons_of_neg trivially]

theorem inner_reverse (found : List (List Char)) : inner found.reverse = (inner found).reverse := by
  rw [inner, inner, List.filter_reverse, List.map_reverse]

/-- Pieces that do not count make no component. -/
theorem inner_trimPieces (found : List (List Char)) : inner (trimPieces found) = inner found := by
  rw [trimPieces, inner_reverse, inner_dropWhile, inner_reverse, List.reverse_reverse,
    inner_dropWhile]

theorem trimPieces_isPrefix (found : List (List Char)) :
    trimPieces found <+: found.dropWhile isTrivial :=
  List.rdropWhile_prefix isTrivial (found.dropWhile isTrivial)

theorem mem_of_mem_trimPieces {found : List (List Char)} {piece : List Char}
    (member : piece ∈ trimPieces found) : piece ∈ found :=
  (List.dropWhile_suffix isTrivial).subset ((trimPieces_isPrefix found).subset member)

theorem isTrivial_of_trimPieces {found further : List (List Char)} {first : List Char}
    (order : trimPieces found = first :: further) : isTrivial first = false := by
  obtain ⟨rest, split⟩ := trimPieces_isPrefix found
  have counts := List.head?_dropWhile_not isTrivial found
  rw [← split, order] at counts
  exact counts

theorem ne_of_isTrivial_eq_false {piece : List Char} (counts : isTrivial piece = false) :
    piece ≠ [] ∧ piece ≠ ['.'] := by
  simpa [isTrivial] using counts

/-- Trimmed pieces make a path that has their components. -/
theorem components_ofPieces_trimPieces {found : List (List Char)}
    (single : ∀ piece ∈ found, '/' ∉ piece) :
    components (ofPieces (trimPieces found)) = inner found := by
  have singleTrimmed : ∀ piece ∈ trimPieces found, '/' ∉ piece :=
    fun piece member => single piece (mem_of_mem_trimPieces member)
  rw [← inner_trimPieces found]
  cases order : trimPieces found with
  | nil => rfl
  | cons first further =>
      rw [order] at singleTrimmed
      obtain ⟨filled, notDot⟩ := ne_of_isTrivial_eq_false (isTrivial_of_trimPieces order)
      have orderJoined := pieces_ofPieces (List.cons_ne_nil first further) singleTrimmed
      have notRooted := head?_ne_slash_of_pieces orderJoined filled
      rw [components_of_pieces orderJoined, startComponents, if_neg notRooted, if_neg notDot,
        ← inner_append, List.singleton_append]

/-! ## Starts -/

theorem splitStart_snd_subset {path piece : List Char} (member : piece ∈ (splitStart path).2) :
    piece ∈ pieces path := by
  obtain ⟨first, rest, order⟩ := exists_pieces path
  rw [splitStart_of_pieces order] at member
  rw [order]
  split at member
  · exact List.mem_cons_of_mem first member
  split at member
  · exact List.mem_cons_of_mem first member
  · exact member

/-- No piece behind the start of a path makes the component that starts another one. -/
theorem notMem_inner_of_splitStart {path : List Char} {start : Component}
    (started : (splitStart path).1 = some start) (found : List (List Char)) :
    start ∉ inner found := by
  obtain ⟨first, rest, order⟩ := exists_pieces path
  have special : start = .root ∨ start = .current := by
    rw [splitStart_of_pieces order] at started
    split at started
    · exact .inl (Option.some.inj started).symm
    split at started
    · exact .inr (Option.some.inj started).symm
    · cases started
  intro member
  obtain ⟨piece, -, rfl⟩ := List.mem_map.mp member
  rw [componentOf] at special
  split at special
  · simp at special
  · simp at special

/-- A path that starts with none of these has a piece that counts. -/
theorem inner_ne_nil_of_splitStart {path : List Char} (nonempty : path ≠ [])
    (started : (splitStart path).1 = none) : inner (splitStart path).2 ≠ [] := by
  obtain ⟨first, rest, order⟩ := exists_pieces path
  rw [splitStart_of_pieces order] at started ⊢
  split at started
  · cases started
  next notRooted =>
    split at started
    · cases started
    next notDot =>
      have filled : first ≠ [] := first_ne_nil_of_pieces order nonempty notRooted
      simp [notRooted, notDot, inner, isTrivial, filled]

/-! ## Bases -/

/-- What is left are the last pieces, and their components follow those that were taken off. -/
theorem inner_of_dropInner {wanted : List Component} {found left : List (List Char)}
    (dropped : dropInner wanted found = some left) :
    inner found = wanted ++ inner left ∧ left <:+ found := by
  fun_induction dropInner wanted found with
  | case1 found =>
      obtain rfl := Option.some.inj dropped
      exact ⟨rfl, List.suffix_refl found⟩
  | case2 => cases dropped
  | case3 component further piece rest trivially inductionHypothesis =>
      obtain ⟨components, suffix⟩ := inductionHypothesis dropped
      rw [inner_cons, if_pos trivially]
      exact ⟨components, suffix.trans (List.suffix_cons piece rest)⟩
  | case4 further piece rest counts inductionHypothesis =>
      obtain ⟨components, suffix⟩ := inductionHypothesis dropped
      rw [inner_cons, if_neg counts, components]
      exact ⟨rfl, suffix.trans (List.suffix_cons piece rest)⟩
  | case5 => cases dropped

/-- Where components cannot be taken off pieces, these do not begin with them. -/
theorem not_prefix_of_dropInner {wanted : List Component} {found : List (List Char)}
    (dropped : dropInner wanted found = none) : ¬ wanted <+: inner found := by
  fun_induction dropInner wanted found with
  | case1 => cases dropped
  | case2 component further => exact fun first => List.cons_ne_nil _ _ (List.prefix_nil.mp first)
  | case3 component further piece rest trivially inductionHypothesis =>
      rw [inner_cons, if_pos trivially]
      exact inductionHypothesis dropped
  | case4 further piece rest counts inductionHypothesis =>
      rw [inner_cons, if_neg counts, List.prefix_cons_inj]
      exact inductionHypothesis dropped
  | case5 component further piece rest counts other =>
      rw [inner_cons, if_neg counts, List.cons_prefix_cons]
      exact fun first => other first.1.symm

def piecesBehind? (base path : List Char) : Option (List (List Char)) :=
  if (splitStart base).1 = (splitStart path).1 then
    dropInner (inner (splitStart base).2) (splitStart path).2
  else none

theorem stripPrefix?_eq (base path : List Char) :
    stripPrefix? base path =
      (piecesBehind? base path).map fun found => ofPieces (trimPieces found) := by
  unfold stripPrefix? piecesBehind?
  dsimp only
  cases (splitStart base).1 with
  | none =>
      cases (splitStart path).1 with
      | none => rfl
      | some found => rfl
  | some expected =>
      cases (splitStart path).1 with
      | none => rfl
      | some found => simp

/-- The start of a path makes a component of its own, or none. -/
theorem components_eq (path : List Char) :
    components path = (splitStart path).1.toList ++ inner (splitStart path).2 := rfl

/-- A path is named from a base by the components that follow those of the base. -/
theorem components_of_stripPrefix? {base path below : List Char}
    (found : stripPrefix? base path = some below) :
    components path = components base ++ components below := by
  rw [stripPrefix?_eq] at found
  obtain ⟨left, foundPieces, rfl⟩ := Option.map_eq_some_iff.mp found
  rw [piecesBehind?] at foundPieces
  split at foundPieces
  · next sameStart =>
      obtain ⟨behind, suffix⟩ := inner_of_dropInner foundPieces
      have single : ∀ piece ∈ left, '/' ∉ piece := fun piece member =>
        slash_notMem_of_mem_pieces (splitStart_snd_subset (suffix.subset member))
      rw [components_ofPieces_trimPieces single, components_eq, components_eq base, ← sameStart,
        behind, List.append_assoc]
  · cases foundPieces

/-- A path below a base starts as the base does. -/
theorem splitStart_fst_eq {base path : List Char} (nonempty : base ≠ [])
    (below : components base <+: components path) : (splitStart base).1 = (splitStart path).1 := by
  rw [components_eq, components_eq path] at below
  cases started : (splitStart base).1 with
  | none =>
      cases startedBelow : (splitStart path).1 with
      | none => rfl
      | some found =>
          have filled := inner_ne_nil_of_splitStart nonempty started
          obtain ⟨component, further, order⟩ := List.exists_cons_of_ne_nil filled
          rw [started, startedBelow, order] at below
          have same : component = found := (List.cons_prefix_cons.mp below).1
          exfalso
          apply notMem_inner_of_splitStart startedBelow (splitStart base).2
          rw [order, same]
          exact List.mem_cons_self
  | some expected =>
      cases startedBelow : (splitStart path).1 with
      | none =>
          rw [started, startedBelow] at below
          exfalso
          apply notMem_inner_of_splitStart started (splitStart path).2
          exact below.subset List.mem_cons_self
      | some found =>
          rw [started, startedBelow] at below
          exact congrArg some (List.cons_prefix_cons.mp below).1

/-- A path that is not named from a base does not stand below it. -/
theorem not_prefix_of_stripPrefix? {base path : List Char} (nonempty : base ≠ [])
    (missing : stripPrefix? base path = none) : ¬ components base <+: components path := by
  intro below
  have sameStart := splitStart_fst_eq nonempty below
  rw [stripPrefix?_eq, Option.map_eq_none_iff, piecesBehind?, if_pos sameStart] at missing
  rw [components_eq, components_eq path, sameStart, List.prefix_append_right_inj] at below
  exact not_prefix_of_dropInner missing below

/-- The name of a path from a base is made of the characters of the path, and slashes. -/
theorem mem_of_stripPrefix? {base path below : List Char} {character : Char}
    (found : stripPrefix? base path = some below) (inside : character ∈ below) :
    character = '/' ∨ character ∈ path := by
  rw [stripPrefix?_eq] at found
  obtain ⟨left, foundPieces, rfl⟩ := Option.map_eq_some_iff.mp found
  rw [piecesBehind?] at foundPieces
  split at foundPieces
  · obtain ⟨-, suffix⟩ := inner_of_dropInner foundPieces
    rcases mem_ofPieces inside with slash | ⟨piece, member, inPiece⟩
    · exact .inl slash
    · have inLeft := suffix.subset (mem_of_mem_trimPieces member)
      exact .inr (mem_of_mem_pieces (splitStart_snd_subset inLeft) inPiece).1
  · cases foundPieces

/-- A path has a name from a base exactly when the components of the base come first in it. -/
theorem stripPrefix?_eq_none_iff {base path : List Char} (nonempty : base ≠ []) :
    stripPrefix? base path = none ↔ ¬ components base <+: components path := by
  constructor
  · exact not_prefix_of_stripPrefix? nonempty
  · intro notBelow
    cases found : stripPrefix? base path with
    | none => rfl
    | some below =>
        exact absurd ⟨components below, (components_of_stripPrefix? found).symm⟩ notBelow

end Path

end LiteralAudit
