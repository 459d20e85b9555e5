import LiteralAudit.Proofs.Source.CommentForm

/-!
# Blanks at the ends of lines

Two sources differ by blanks at the ends of their lines, as they do when one of them ends its lines
with a carriage return and a line feed. They are cut into the same segments, but for these blanks and
for segments of code that hold nothing else.
-/

namespace LiteralAudit.Segment

/-- A blank that does not end a line. -/
def isLineBlank (byte : UInt8) : Bool :=
  Text.isBlankByte byte && byte != lineFeed

/-- The line ends here, or the source does. -/
def AtLineEnd (source : List UInt8) : Prop :=
  source = [] ∨ source.head? = some lineFeed

/-- Some bytes of a source, and the same bytes with blanks before line ends. What stands behind them
in the source tells whether a line ends with them. -/
inductive Padded (behind : List UInt8) : List UInt8 → List UInt8 → Prop
  | nil : Padded behind [] []
  | same (byte : UInt8) {source other : List UInt8} (further : Padded behind source other) :
      Padded behind (byte :: source) (byte :: other)
  | blank {byte : UInt8} {source other : List UInt8} (isBlank : isLineBlank byte = true)
      (ended : AtLineEnd (source ++ behind)) (further : Padded behind source other) :
      Padded behind source (byte :: other)

theorem ne_of_isLineBlank {byte visible : UInt8} (isBlank : isLineBlank byte = true)
    (isVisible : isLineBlank visible = false) : byte ≠ visible := by
  rintro rfl
  rw [isVisible] at isBlank
  cases isBlank

theorem atLineEnd_cons_iff {byte : UInt8} {source : List UInt8} :
    AtLineEnd (byte :: source) ↔ byte = lineFeed := by
  simp [AtLineEnd]

namespace Padded

variable {behind source other : List UInt8} {byte : UInt8}

/-- Nothing is put before a byte that does not end its line. -/
theorem exists_of_cons (padded : Padded behind (byte :: source) other)
    (inLine : byte ≠ lineFeed) :
    ∃ further, other = byte :: further ∧ Padded behind source further := by
  cases padded with
  | same byte further => exact ⟨_, rfl, further⟩
  | blank isBlank ended further => exact absurd (atLineEnd_cons_iff.mp ended) inLine

/-- What is put in is blank. -/
theorem exists_of_visible (padded : Padded behind source (byte :: other))
    (isVisible : isLineBlank byte = false) :
    ∃ further, source = byte :: further ∧ Padded behind further other := by
  cases padded with
  | same byte further => exact ⟨_, rfl, further⟩
  | blank isBlank ended further => exact absurd rfl (ne_of_isLineBlank isBlank isVisible)

theorem head?_eq_some_iff (padded : Padded behind source other)
    (isVisible : isLineBlank byte = false) (inLine : byte ≠ lineFeed) :
    other.head? = some byte ↔ source.head? = some byte := by
  simp only [List.head?_eq_some_iff]
  constructor
  · rintro ⟨others, rfl⟩
    obtain ⟨further, rfl, -⟩ := padded.exists_of_visible isVisible
    exact ⟨further, rfl⟩
  · rintro ⟨rest, rfl⟩
    obtain ⟨further, rfl, -⟩ := padded.exists_of_cons inLine
    exact ⟨further, rfl⟩

/-- Bytes of one line get blanks at their end only. -/
theorem exists_blanks (padded : Padded behind source other) (oneLine : lineFeed ∉ source) :
    ∃ blanks, other = source ++ blanks ∧ ∀ blank ∈ blanks, isLineBlank blank = true := by
  induction padded with
  | nil => exact ⟨[], rfl, nofun⟩
  | same byte _ inductionHypothesis =>
      rw [List.mem_cons, not_or] at oneLine
      obtain ⟨blanks, rfl, allBlank⟩ := inductionHypothesis oneLine.2
      exact ⟨blanks, rfl, allBlank⟩
  | @blank byte source other isBlank ended _ inductionHypothesis =>
      obtain ⟨blanks, rfl, allBlank⟩ := inductionHypothesis oneLine
      cases source with
      | nil => exact ⟨byte :: blanks, rfl, List.forall_mem_cons.mpr ⟨isBlank, allBlank⟩⟩
      | cons first rest =>
          have isFeed : first = lineFeed := atLineEnd_cons_iff.mp ended
          exact absurd (isFeed ▸ List.mem_cons_self) oneLine

end Padded

/-! ## Cutting bytes with blanks at line ends -/

/-- Bytes cut in two, and the same bytes with blanks before line ends, cut at the same place. -/
structure PaddedSplit (parts others : List UInt8 × List UInt8) : Prop where
  content : Padded parts.2 parts.1 others.1
  rest : Padded [] parts.2 others.2

namespace PaddedSplit

variable {parts others : List UInt8 × List UInt8} {byte : UInt8}

theorem same (split : PaddedSplit parts others) (byte : UInt8) :
    PaddedSplit (byte :: parts.1, parts.2) (byte :: others.1, others.2) where
  content := .same byte split.content
  rest := split.rest

theorem blank (split : PaddedSplit parts others) (isBlank : isLineBlank byte = true)
    (ended : AtLineEnd (parts.1 ++ parts.2)) :
    PaddedSplit parts (byte :: others.1, others.2) where
  content := .blank isBlank ended split.content
  rest := split.rest

end PaddedSplit

section

variable {source other : List UInt8}

/-- Blanks at the end of a line go to the part before the end. -/
theorem splitLine_padded (padded : Padded [] source other) :
    PaddedSplit (splitLine source) (splitLine other) := by
  induction padded with
  | nil => exact ⟨.nil, .nil⟩
  | same byte further inductionHypothesis =>
      by_cases ended : byte = lineFeed
      · simp only [splitLine, ended, bne_self_eq_false, List.takeWhile_cons, List.dropWhile_cons]
        exact ⟨.nil, .same lineFeed further⟩
      · simpa [splitLine, ended] using inductionHypothesis.same byte
  | @blank byte source other isBlank ended further inductionHypothesis =>
      have inLine : byte ≠ lineFeed := ne_of_isLineBlank isBlank rfl
      rw [List.append_nil, ← splitLine_join source] at ended
      simpa [splitLine, inLine] using inductionHypothesis.blank isBlank ended

theorem splitRaw_padded (padded : Padded [] source other) :
    PaddedSplit (splitRaw source) (splitRaw other) := by
  induction padded with
  | nil => exact ⟨.nil, .nil⟩
  | same byte further inductionHypothesis =>
      rw [splitRaw, splitRaw]
      by_cases closed : byte = backQuote
      · rw [if_pos closed, if_pos closed]
        exact ⟨.same byte .nil, further⟩
      · rw [if_neg closed, if_neg closed]
        exact inductionHypothesis.same byte
  | @blank byte source other isBlank ended further inductionHypothesis =>
      rw [List.append_nil, ← splitRaw_join source] at ended
      rw [splitRaw, if_neg (ne_of_isLineBlank isBlank rfl)]
      exact inductionHypothesis.blank isBlank ended

theorem splitBlock_cons {first : UInt8} {rest : List UInt8}
    (unclosed : ¬ (first = star ∧ rest.head? = some slash)) :
    splitBlock (first :: rest) = (first :: (splitBlock rest).1, (splitBlock rest).2) := by
  cases rest with
  | nil => rfl
  | cons second further =>
      rw [List.head?_cons, Option.some.injEq] at unclosed
      rw [splitBlock, if_neg unclosed]

theorem splitBlock_padded (padded : Padded [] source other) :
    PaddedSplit (splitBlock source) (splitBlock other) := by
  induction padded with
  | nil => exact ⟨.nil, .nil⟩
  | @same byte source other further inductionHypothesis =>
      by_cases closed : byte = star ∧ source.head? = some slash
      · obtain ⟨rfl, isSlash⟩ := closed
        obtain ⟨rest, rfl⟩ := List.head?_eq_some_iff.mp isSlash
        obtain ⟨others, rfl, restPadded⟩ := further.exists_of_cons (by decide)
        exact ⟨.same star (.same slash .nil), restPadded⟩
      · have otherUnclosed : ¬ (byte = star ∧ other.head? = some slash) := by
          rwa [further.head?_eq_some_iff rfl (by decide)]
        rw [splitBlock_cons closed, splitBlock_cons otherUnclosed]
        exact inductionHypothesis.same byte
  | @blank byte source other isBlank ended further inductionHypothesis =>
      rw [List.append_nil, ← splitBlock_join source] at ended
      rw [splitBlock_cons fun closed => ne_of_isLineBlank isBlank rfl closed.1]
      exact inductionHypothesis.blank isBlank ended

end

/-! ### Constants -/

section

variable {quote : UInt8} (mark : quote = doubleQuote ∨ quote = singleQuote)

include mark

theorem splitQuoted_quote (rest : List UInt8) :
    splitQuoted quote (quote :: rest) = ([quote], rest) := by
  have notEnd : quote ≠ lineFeed := by rcases mark with rfl | rfl <;> decide
  cases rest with
  | nil => rw [splitQuoted, if_neg notEnd]
  | cons second further => rw [splitQuoted, if_pos rfl]

theorem splitQuoted_atLineEnd {source : List UInt8} (ended : AtLineEnd source) :
    splitQuoted quote source = ([], source) := by
  have notQuote : lineFeed ≠ quote := by rcases mark with rfl | rfl <;> decide
  rcases ended with rfl | ended
  · rfl
  · obtain ⟨rest, rfl⟩ := List.head?_eq_some_iff.mp ended
    cases rest with
    | nil => rw [splitQuoted, if_pos rfl]
    | cons second further => rw [splitQuoted, if_neg notQuote, if_pos rfl]

/-- A backslash takes the byte behind it along, whatever it is. -/
theorem splitQuoted_escape {second : UInt8} (inLine : second ≠ lineFeed) (rest : List UInt8) :
    splitQuoted quote (backslash :: second :: rest) =
      (backslash :: second :: (splitQuoted quote rest).1, (splitQuoted quote rest).2) := by
  have notQuote : backslash ≠ quote := by rcases mark with rfl | rfl <;> decide
  rw [splitQuoted, if_neg notQuote, if_neg (by decide), if_pos ⟨rfl, inLine⟩]

omit mark in
theorem splitQuoted_cons {first : UInt8} {rest : List UInt8} (notQuote : first ≠ quote)
    (inLine : first ≠ lineFeed) (stays : first = backslash → AtLineEnd rest) :
    splitQuoted quote (first :: rest) =
      (first :: (splitQuoted quote rest).1, (splitQuoted quote rest).2) := by
  cases rest with
  | nil => simp [splitQuoted, inLine]
  | cons second further =>
      have noEscape : ¬ (first = backslash ∧ second ≠ lineFeed) :=
        fun escapes => escapes.2 (atLineEnd_cons_iff.mp (stays escapes.1))
      rw [splitQuoted, if_neg notQuote, if_neg inLine, if_neg noEscape]

/-- A backslash at the end of a line takes the first of the blanks along. The line ends no later for
that. -/
theorem splitQuoted_backslash {source other : List UInt8} (padded : Padded [] source other)
    (behind : ∀ rest others, Padded [] rest others → others.length ≤ other.length →
      PaddedSplit (splitQuoted quote rest) (splitQuoted quote others)) :
    PaddedSplit (splitQuoted quote (backslash :: source))
      (splitQuoted quote (backslash :: other)) := by
  have notQuote : backslash ≠ quote := by rcases mark with rfl | rfl <;> decide
  have inLine : backslash ≠ lineFeed := by decide
  have whole := (behind source other padded (Nat.le_refl _)).same backslash
  cases padded with
  | nil => exact whole
  | @same second source other further =>
      by_cases ended : second = lineFeed
      · have stays : ∀ rest, backslash = backslash → AtLineEnd (second :: rest) :=
          fun _ _ => atLineEnd_cons_iff.mpr ended
        rwa [splitQuoted_cons notQuote inLine (stays _), splitQuoted_cons notQuote inLine (stays _)]
      · rw [splitQuoted_escape mark ended, splitQuoted_escape mark ended]
        exact ((behind source other further (Nat.le_succ _)).same second).same backslash
  | @blank second source other isBlank ended further =>
      rw [List.append_nil] at ended
      rw [splitQuoted_cons notQuote inLine fun _ => ended,
        splitQuoted_escape mark (ne_of_isLineBlank isBlank rfl)]
      rw [← splitQuoted_join quote source] at ended
      exact ((behind source other further (Nat.le_succ _)).blank isBlank ended).same backslash

/-- A constant ends at the same place in a padded source, also where the end of a line breaks it
off. -/
theorem splitQuoted_padded {source other : List UInt8} (padded : Padded [] source other) :
    PaddedSplit (splitQuoted quote source) (splitQuoted quote other) := by
  induction size : other.length using Nat.strongRecOn generalizing source other with
  | ind size inductionHypothesis =>
      subst size
      cases padded with
      | nil => exact ⟨.nil, .nil⟩
      | @same byte source other further =>
          have behind : ∀ rest others, Padded [] rest others → others.length ≤ other.length →
              PaddedSplit (splitQuoted quote rest) (splitQuoted quote others) :=
            fun _ others rest fits =>
              inductionHypothesis others.length (Nat.lt_succ_of_le fits) rest rfl
          by_cases closed : byte = quote
          · rw [closed, splitQuoted_quote mark, splitQuoted_quote mark]
            exact ⟨.same quote .nil, further⟩
          by_cases ended : byte = lineFeed
          · have atLineEnd : ∀ rest, AtLineEnd (byte :: rest) :=
              fun _ => atLineEnd_cons_iff.mpr ended
            rw [splitQuoted_atLineEnd mark (atLineEnd _), splitQuoted_atLineEnd mark (atLineEnd _)]
            exact ⟨.nil, .same byte further⟩
          by_cases escapes : byte = backslash
          · rw [escapes]
            exact splitQuoted_backslash mark further behind
          · rw [splitQuoted_cons closed ended fun same => absurd same escapes,
              splitQuoted_cons closed ended fun same => absurd same escapes]
            exact (behind source other further (Nat.le_refl _)).same byte
      | @blank byte source other isBlank ended further =>
          have notQuote : byte ≠ quote := by
            rcases mark with rfl | rfl
            · exact ne_of_isLineBlank isBlank rfl
            · exact ne_of_isLineBlank isBlank rfl
          have notEscape : byte ≠ backslash := ne_of_isLineBlank isBlank rfl
          have behind := inductionHypothesis other.length (Nat.lt_succ_self _) further rfl
          rw [List.append_nil, ← splitQuoted_join quote source] at ended
          rw [splitQuoted_cons notQuote (ne_of_isLineBlank isBlank rfl)
            fun escapes => absurd escapes notEscape]
          exact behind.blank isBlank ended

end

/-! ## Segments with blanks at line ends -/

/-- A segment with the bytes behind it, and the same kind of segment with blanks before line ends. -/
inductive PaddedNext : Segment × List UInt8 → Segment × List UInt8 → Prop
  | code {parts others : List UInt8 × List UInt8} (split : PaddedSplit parts others) :
      PaddedNext (code parts.1, parts.2) (code others.1, others.2)
  | comment {parts others : List UInt8 × List UInt8} (split : PaddedSplit parts others) :
      PaddedNext (comment parts.1, parts.2) (comment others.1, others.2)

theorem next_padded {source other : List UInt8} (padded : Padded [] source other) (first : UInt8) :
    PaddedNext (next first source) (next first other) := by
  by_cases opens : first = slash ∧ (source.head? = some slash ∨ source.head? = some star)
  · obtain ⟨rfl, isLine | isBlock⟩ := opens
    · obtain ⟨rest, rfl⟩ := List.head?_eq_some_iff.mp isLine
      obtain ⟨others, rfl, further⟩ := padded.exists_of_cons (by decide)
      have split := ((splitLine_padded further).same slash).same slash
      exact .comment split
    · obtain ⟨rest, rfl⟩ := List.head?_eq_some_iff.mp isBlock
      obtain ⟨others, rfl, further⟩ := padded.exists_of_cons (by decide)
      have split := ((splitBlock_padded further).same star).same slash
      exact .comment split
  by_cases quotes : first = doubleQuote ∨ first = singleQuote
  · have notSlash : first ≠ slash := by rcases quotes with rfl | rfl <;> decide
    have constant : ∀ rest, next first rest =
        (code (first :: (splitQuoted first rest).1), (splitQuoted first rest).2) := by
      intro rest
      unfold next
      rw [if_neg notSlash, if_pos quotes]
    rw [constant, constant]
    exact .code ((splitQuoted_padded quotes padded).same first)
  by_cases raw : first = backQuote
  · subst raw
    exact .code ((splitRaw_padded padded).same backQuote)
  rw [not_or] at quotes
  have plain : ∀ rest, (first = slash → rest.head? ≠ some slash ∧ rest.head? ≠ some star) →
      next first rest = (code [first], rest) :=
    fun rest noComment => Lexes.next_plain quotes.1 quotes.2 raw noComment
  have noComment : first = slash → source.head? ≠ some slash ∧ source.head? ≠ some star :=
    fun isSlash => not_or.mp fun found => opens ⟨isSlash, found⟩
  rw [plain source noComment, plain other]
  · have split : PaddedSplit ([first], source) ([first], other) := ⟨.same first .nil, padded⟩
    exact .code split
  · intro isSlash
    rw [Ne, Ne, padded.head?_eq_some_iff rfl (by decide), padded.head?_eq_some_iff rfl (by decide)]
    exact noComment isSlash

/-- The segments of a source, and those of the same source with blanks before line ends. A blank
outside comments and constants is a segment of its own. -/
inductive PaddedSegments : List Segment → List Segment → Prop
  | nil : PaddedSegments [] []
  | code {content other : List UInt8} {rest others : List Segment}
      (padded : Padded (rest.flatMap bytes) content other) (further : PaddedSegments rest others) :
      PaddedSegments (code content :: rest) (code other :: others)
  | comment {content other : List UInt8} {rest others : List Segment}
      (form : CommentForm content (rest.flatMap bytes))
      (padded : Padded (rest.flatMap bytes) content other) (further : PaddedSegments rest others) :
      PaddedSegments (comment content :: rest) (comment other :: others)
  | blank {byte : UInt8} {rest others : List Segment} (isBlank : isLineBlank byte = true)
      (ended : AtLineEnd (rest.flatMap bytes)) (further : PaddedSegments rest others) :
      PaddedSegments rest (Segment.code [byte] :: others)

/-- A padded source has the same segments, each one padded. -/
theorem list_padded {source other : List UInt8} (padded : Padded [] source other) :
    PaddedSegments (list source) (list other) := by
  induction size : other.length using Nat.strongRecOn generalizing source other with
  | ind size inductionHypothesis =>
      subst size
      cases padded with
      | nil => exact .nil
      | @same byte source other further =>
          have shorter := Nat.lt_succ_of_le (next_length_le byte other)
          rw [list_cons, list_cons]
          have isNext := next_padded further byte
          generalize found : next byte source = parts at isNext
          generalize next byte other = others at isNext shorter
          cases isNext with
          | @code parts others split =>
              refine .code ?_ (inductionHypothesis others.2.length shorter split.rest rfl)
              rw [flatMap_bytes_list]
              exact split.content
          | @comment parts others split =>
              refine .comment ?_ ?_ (inductionHypothesis others.2.length shorter split.rest rfl)
              · rw [flatMap_bytes_list]
                exact commentForm_of_next found
              · rw [flatMap_bytes_list]
                exact split.content
      | @blank byte source other isBlank ended further =>
          have visible : ∀ mark, isLineBlank mark = false → byte ≠ mark :=
            fun mark => ne_of_isLineBlank isBlank
          rw [list_cons, Lexes.next_plain (visible doubleQuote rfl) (visible singleQuote rfl)
            (visible backQuote rfl) fun isSlash => absurd isSlash (visible slash rfl)]
          refine .blank isBlank ?_
            (inductionHypothesis other.length (Nat.lt_succ_self _) further rfl)
          rwa [flatMap_bytes_list, ← source.append_nil]

end LiteralAudit.Segment
