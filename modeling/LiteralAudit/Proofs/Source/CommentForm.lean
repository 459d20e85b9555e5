import LiteralAudit.Proofs.Source.Directive
import LiteralAudit.Proofs.Source.Extent
import LiteralAudit.Proofs.Text.LossyDecoding

/-!
# The two forms of comments

A comment of a source is a line comment, which a line end or the end of the source follows, or a
block comment, which ends with its closing mark or reaches to the end of the source. This holds of
every source, whether or not the lexical grammar derives it. Directives are line comments.
-/

namespace LiteralAudit

namespace Segment

/-! ## Segments one after the other -/

theorem listWithin_eq_list {source : List UInt8} {bound : Nat} (fits : source.length ≤ bound) :
    listWithin bound source = list source := by
  suffices same : ∀ other, source.length ≤ other →
      listWithin bound source = listWithin other source from same _ (Nat.le_refl _)
  intro other otherFits
  induction bound generalizing source other with
  | zero =>
      obtain rfl := List.eq_nil_of_length_eq_zero (Nat.le_zero.mp fits)
      cases other <;> rfl
  | succ bound inductionHypothesis =>
      cases source with
      | nil => cases other <;> rfl
      | cons first rest =>
          cases other with
          | zero => cases otherFits
          | succ other =>
              have shorter := next_length_le first rest
              rw [List.length_cons] at fits otherFits
              rw [listWithin, listWithin]
              dsimp only
              rw [inductionHypothesis (by omega) other (by omega)]

theorem list_cons (first : UInt8) (rest : List UInt8) :
    list (first :: rest) = (next first rest).1 :: list (next first rest).2 := by
  rw [← listWithin_eq_list (next_length_le first rest)]
  rfl

/-- A segment of a source is the next one behind the segments before it. -/
theorem list_eq_append {source : List UInt8} {before after : List Segment} {segment : Segment}
    (split : list source = before ++ segment :: after) :
    ∃ first rest, source = before.flatMap bytes ++ first :: rest ∧
      (next first rest).1 = segment ∧ list (next first rest).2 = after := by
  induction before generalizing source with
  | nil =>
      cases source with
      | nil => cases split
      | cons first rest =>
          rw [list_cons, List.nil_append] at split
          obtain ⟨same, later⟩ := List.cons.inj split
          exact ⟨first, rest, rfl, same, later⟩
  | cons head further inductionHypothesis =>
      cases source with
      | nil => cases split
      | cons first rest =>
          rw [list_cons, List.cons_append] at split
          obtain ⟨same, later⟩ := List.cons.inj split
          obtain ⟨first', rest', found, isNext, others⟩ := inductionHypothesis later
          refine ⟨first', rest', ?_, isNext, others⟩
          rw [List.flatMap_cons, List.append_assoc, ← found, ← same, next_join]

/-! ## Line comments and block comments -/

/-- The bytes of a comment, with those behind it. -/
inductive CommentForm : List UInt8 → List UInt8 → Prop
  | line {content rest : List UInt8} :
      lineFeed ∉ content → (rest = [] ∨ rest.head? = some lineFeed) →
      CommentForm (slash :: slash :: content) rest
  | block {content rest : List UInt8} :
      (rest = [] ∨ ∃ inner, content = inner ++ [slash]) →
      CommentForm (slash :: star :: content) rest

theorem lineFeed_notMem_splitLine (source : List UInt8) : lineFeed ∉ (splitLine source).1 := by
  intro member
  have accepted := List.all_eq_true.mp List.all_takeWhile lineFeed member
  simp at accepted

theorem head?_splitLine (source : List UInt8) :
    (splitLine source).2 = [] ∨ (splitLine source).2.head? = some lineFeed := by
  induction source with
  | nil => exact Or.inl rfl
  | cons byte rest inductionHypothesis =>
      by_cases ended : byte = lineFeed
      · right
        simp [splitLine, ended]
      · simpa [splitLine, ended] using inductionHypothesis

theorem splitBlock_ended (source : List UInt8) :
    (splitBlock source).2 = [] ∨ ∃ inner, (splitBlock source).1 = inner ++ [slash] := by
  induction source using splitBlock.induct with
  | case1 => exact Or.inl rfl
  | case2 byte => exact Or.inl rfl
  | case3 first second rest closed =>
      right
      rw [splitBlock, if_pos closed]
      exact ⟨[first], by rw [closed.2]; rfl⟩
  | case4 first second rest unclosed _ _ _ inductionHypothesis =>
      rw [splitBlock, if_neg unclosed]
      refine inductionHypothesis.imp id ?_
      rintro ⟨inner, ended⟩
      exact ⟨first :: inner, congrArg (first :: ·) ended⟩

/-- A comment that is lexed has one of the forms, with what follows it. -/
theorem commentForm_of_next {first : UInt8} {rest bytes after : List UInt8}
    (found : next first rest = (comment bytes, after)) :
    CommentForm bytes after := by
  unfold next at found
  split at found
  · next isSlash =>
      cases rest with
      | nil => cases found
      | cons second further =>
          dsimp only at found
          split at found
          · next isLine =>
              cases found
              rw [isSlash, isLine]
              exact .line (lineFeed_notMem_splitLine further) (head?_splitLine further)
          · split at found
            · next isBlock =>
                cases found
                rw [isSlash, isBlock]
                exact .block (splitBlock_ended further)
            · cases found
  · split at found
    · cases found
    · split at found
      · cases found
      · cases found

end Segment

namespace Extent

theorem segments_of_mem_ofSegments {offset : Nat} {segments : List Segment} {place : Extent}
    (member : place ∈ ofSegments offset segments) :
    ∃ before bytes after, segments = before ++ .comment bytes :: after ∧
      place.start = offset + (before.flatMap Segment.bytes).length ∧
      place.stop = place.start + bytes.length := by
  induction segments generalizing offset with
  | nil => cases member
  | cons segment rest inductionHypothesis =>
      have behind : place ∈ ofSegments (offset + segment.bytes.length) rest →
          ∃ before bytes after, segment :: rest = before ++ .comment bytes :: after ∧
            place.start = offset + (before.flatMap Segment.bytes).length ∧
            place.stop = place.start + bytes.length := by
        intro later
        obtain ⟨before, bytes, after, split, start, stop⟩ := inductionHypothesis later
        refine ⟨segment :: before, bytes, after, by rw [split]; rfl, ?_, stop⟩
        rw [start, List.flatMap_cons, List.length_append, Nat.add_assoc]
      cases segment with
      | code content => exact behind member
      | comment content =>
          rcases List.mem_cons.mp member with rfl | later
          · exact ⟨[], content, rest, rfl, rfl, rfl⟩
          · exact behind later

/-- The bytes at the place of a comment have the form of one. -/
theorem commentForm_of_mem {source : List UInt8} {place : Extent}
    (member : place ∈ ofSource source) :
    place.stop ≤ source.length ∧
      Segment.CommentForm (bytesBetween source place.start place.stop)
        (source.drop place.stop) := by
  obtain ⟨before, bytes, after, split, start, stop⟩ := segments_of_mem_ofSegments member
  obtain ⟨first, rest, whole, isNext, -⟩ := Segment.list_eq_append split
  have joined := Segment.next_join first rest
  rw [isNext] at joined
  rw [Nat.zero_add] at start
  have parts : source = (before.flatMap Segment.bytes ++ bytes) ++ (Segment.next first rest).2 := by
    rw [whole, ← joined, List.append_assoc]
    rfl
  have stop_eq : place.stop = (before.flatMap Segment.bytes ++ bytes).length := by
    rw [stop, start, List.length_append]
  have taken : bytesBetween source place.start place.stop = bytes := by
    rw [bytesBetween, stop_eq, parts, List.take_left, start, List.drop_left]
  have left : source.drop place.stop = (Segment.next first rest).2 := by
    rw [stop_eq, parts, List.drop_left]
  refine ⟨?_, ?_⟩
  · have total := congrArg List.length parts
    rw [List.length_append] at total
    omega
  · rw [taken, left]
    exact Segment.commentForm_of_next (Prod.ext isNext rfl)

/-- A comment starts with a byte that is no blank. -/
theorem getElem?_start {source : List UInt8} {place : Extent} (member : place ∈ ofSource source) :
    source[place.start]? = some Segment.slash := by
  have form := (commentForm_of_mem member).2
  have starts : ∃ content,
      bytesBetween source place.start place.stop = [] ++ Segment.slash :: content := by
    generalize bytesBetween source place.start place.stop = bytes at form
    cases form with
    | line _ _ => exact ⟨_, rfl⟩
    | block _ => exact ⟨_, rfl⟩
  obtain ⟨content, written⟩ := starts
  exact (getElem?_of_bytesBetween_eq written).2

/-- The line ends behind a comment, or the source does, or else the comment ends with its closing
mark. -/
theorem getElem?_stop {source : List UInt8} {place : Extent} (member : place ∈ ofSource source) :
    place.stop = source.length ∨ source[place.stop]? = some Segment.lineFeed ∨
      source[place.stop - 1]? = some Segment.slash := by
  obtain ⟨inside, form⟩ := commentForm_of_mem member
  generalize written : bytesBetween source place.start place.stop = bytes at form
  generalize further : source.drop place.stop = rest at form
  have noRest : rest = [] → place.stop = source.length := by
    intro none
    exact Nat.le_antisymm inside (List.drop_eq_nil_iff.mp (further.trans none))
  cases form with
  | line _ ended =>
      rcases ended with none | ended
      · exact Or.inl (noRest none)
      · right
        left
        rwa [← further, List.head?_drop] at ended
  | block ended =>
      rcases ended with none | ⟨inner, ended⟩
      · exact Or.inl (noRest none)
      · right
        right
        have split : bytesBetween source place.start place.stop =
            (Segment.slash :: Segment.star :: inner) ++ Segment.slash :: [] := by
          rw [written, ended]
          rfl
        have total := congrArg List.length split
        rw [bytesBetween, List.length_drop, List.length_take, Nat.min_eq_left inside,
          List.length_append, List.length_singleton] at total
        have last : place.stop - 1 =
            place.start + (Segment.slash :: Segment.star :: inner).length := by
          omega
        rw [last]
        exact (getElem?_of_bytesBetween_eq split).2

end Extent

/-! ## Directives -/

namespace Text

theorem trimEnd_cons {character : Char} (visible : isBlank character = false) (text : List Char) :
    trimEnd (character :: text) = character :: trimEnd text := by
  rw [trimEnd, trimEnd, List.reverse_cons, List.dropWhile_append]
  by_cases none : (text.reverse.dropWhile isBlank).isEmpty = true
  · rw [if_pos none, List.isEmpty_iff.mp none]
    simp [visible]
  · rw [if_neg none, List.reverse_append]
    rfl

end Text

/-- A block comment gives no directive. -/
theorem PlacedComment.directive?_commentOf_block (start : Position) (content : List UInt8) :
    (commentOf start (Segment.slash :: Segment.star :: content)).directive? = none := by
  have text : (commentOf start (Segment.slash :: Segment.star :: content)).text =
      String.ofList ('/' :: '*' :: Text.trimEnd (Utf8.decodeLossy content)) := by
    rw [commentOf, Utf8.decodeLossy_cons (by decide), Utf8.decodeLossy_cons (by decide),
      Text.trimEnd_cons (by decide), Text.trimEnd_cons (by decide)]
    rfl
  rw [Comment.directive?, text, Directive.parse?_block]

namespace Extent

variable {source : List UInt8} {place : Extent}

/-- Block comments give no directive. -/
theorem directive?_block {content : List UInt8}
    (block : bytesBetween source place.start place.stop =
      Segment.slash :: Segment.star :: content) :
    (place.comment source).directive? = none := by
  rw [← PlacedComment.directive?_commentOf_block (.ofOffset source place.start) content, ← block]
  rfl

/-- A directive is a line comment: no line ends in it, and the line or the source ends behind it. -/
theorem line_of_directive? {directive : Directive} (member : place ∈ ofSource source)
    (given : (place.comment source).directive? = some directive) :
    Segment.lineFeed ∉ bytesBetween source place.start place.stop ∧
      (place.stop = source.length ∨ source[place.stop]? = some Segment.lineFeed) := by
  obtain ⟨inside, form⟩ := commentForm_of_mem member
  generalize written : bytesBetween source place.start place.stop = bytes at form
  generalize further : source.drop place.stop = rest at form
  cases form with
  | line unbroken ended =>
      constructor
      · have slashStays : Segment.lineFeed ≠ Segment.slash := by decide
        rw [List.mem_cons, List.mem_cons, not_or, not_or]
        exact ⟨slashStays, slashStays, unbroken⟩
      · rcases ended with none | ended
        · left
          exact Nat.le_antisymm inside (List.drop_eq_nil_iff.mp (further.trans none))
        · right
          rwa [← further, List.head?_drop] at ended
  | block ended =>
      rw [directive?_block written] at given
      cases given

end Extent

end LiteralAudit
