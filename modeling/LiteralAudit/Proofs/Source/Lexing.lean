import LiteralAudit.Source.Segment

/-!
# The lexical grammar of comments

Which bytes of a source are comments is said here by a grammar, apart from the functions that cut a
source into segments: line comments reach to the end of their line, block comments to the first
closing mark, and neither starts inside a string or a character constant. A source that the grammar
derives is cut into exactly the segments of its derivation.
-/

namespace LiteralAudit.Segment

/-- What stands between the quotes of a constant: no quote and no line end, but a backslash takes
any byte but a line end along. -/
inductive QuotedContent (quote : UInt8) : List UInt8 → Prop
  | empty : QuotedContent quote []
  | plain {byte : UInt8} {content : List UInt8} :
      byte ≠ quote → byte ≠ lineFeed → byte ≠ backslash →
      QuotedContent quote content → QuotedContent quote (byte :: content)
  | escaped {byte : UInt8} {content : List UInt8} :
      byte ≠ lineFeed →
      QuotedContent quote content → QuotedContent quote (backslash :: byte :: content)

/-- The segments of a source. Code is taken apart into constants and single bytes. -/
inductive Lexes : List UInt8 → List Segment → Prop
  | finish : Lexes [] []
  | lineComment {content rest : List UInt8} {segments : List Segment} :
      lineFeed ∉ content → (rest = [] ∨ rest.head? = some lineFeed) →
      Lexes rest segments →
      Lexes (slash :: slash :: (content ++ rest)) (comment (slash :: slash :: content) :: segments)
  | blockComment {content rest : List UInt8} {segments : List Segment} :
      ¬ [star, slash] <:+: content →
      Lexes rest segments →
      Lexes (slash :: star :: (content ++ star :: slash :: rest))
        (comment (slash :: star :: (content ++ [star, slash])) :: segments)
  | constant {quote : UInt8} {content rest : List UInt8} {segments : List Segment} :
      quote = doubleQuote ∨ quote = singleQuote → QuotedContent quote content →
      Lexes rest segments →
      Lexes (quote :: (content ++ quote :: rest)) (code (quote :: (content ++ [quote])) :: segments)
  | rawString {content rest : List UInt8} {segments : List Segment} :
      backQuote ∉ content →
      Lexes rest segments →
      Lexes (backQuote :: (content ++ backQuote :: rest))
        (code (backQuote :: (content ++ [backQuote])) :: segments)
  | plain {byte : UInt8} {rest : List UInt8} {segments : List Segment} :
      byte ≠ doubleQuote → byte ≠ singleQuote → byte ≠ backQuote →
      (byte = slash → rest.head? ≠ some slash ∧ rest.head? ≠ some star) →
      Lexes rest segments →
      Lexes (byte :: rest) (code [byte] :: segments)

/-! ## What is cut gives the source back -/

theorem splitLine_join (source : List UInt8) :
    (splitLine source).1 ++ (splitLine source).2 = source :=
  List.takeWhile_append_dropWhile

theorem splitBlock_join (source : List UInt8) :
    (splitBlock source).1 ++ (splitBlock source).2 = source := by
  induction source using splitBlock.induct with
  | case1 => rfl
  | case2 byte => rfl
  | case3 first second rest closed =>
      rw [splitBlock, if_pos closed]
      rfl
  | case4 first second rest unclosed _ _ _ inductionHypothesis =>
      rw [splitBlock, if_neg unclosed]
      exact congrArg (first :: ·) inductionHypothesis

theorem splitRaw_join (source : List UInt8) :
    (splitRaw source).1 ++ (splitRaw source).2 = source := by
  induction source with
  | nil => rfl
  | cons byte rest inductionHypothesis =>
      rw [splitRaw]
      by_cases closed : byte = backQuote
      · rw [if_pos closed]
        rfl
      · rw [if_neg closed]
        exact congrArg (byte :: ·) inductionHypothesis

theorem splitQuoted_join (quote : UInt8) (source : List UInt8) :
    (splitQuoted quote source).1 ++ (splitQuoted quote source).2 = source := by
  induction source using splitQuoted.induct quote with
  | case1 => rfl
  | case2 => rfl
  | case3 byte notEnd => simp [splitQuoted, notEnd]
  | case4 second rest => simp [splitQuoted]
  | case5 second rest notQuote => simp [splitQuoted, notQuote]
  | case6 first second rest notQuote notEnd escapes _ _ _ inductionHypothesis =>
      rw [splitQuoted, if_neg notQuote, if_neg notEnd, if_pos escapes]
      exact congrArg (first :: second :: ·) inductionHypothesis
  | case7 first second rest notQuote notEnd stays _ _ _ inductionHypothesis =>
      rw [splitQuoted, if_neg notQuote, if_neg notEnd, if_neg stays]
      exact congrArg (first :: ·) inductionHypothesis

/-- No byte is lost between a segment and the rest. -/
theorem next_join (first : UInt8) (rest : List UInt8) :
    (next first rest).1.bytes ++ (next first rest).2 = first :: rest := by
  unfold next
  by_cases isSlash : first = slash
  · rw [if_pos isSlash]
    cases rest with
    | nil => rfl
    | cons second further =>
        dsimp only
        split
        · exact congrArg (first :: second :: ·) (splitLine_join further)
        · split
          · exact congrArg (first :: second :: ·) (splitBlock_join further)
          · rfl
  · rw [if_neg isSlash]
    split
    · exact congrArg (first :: ·) (splitQuoted_join first rest)
    · split
      · exact congrArg (first :: ·) (splitRaw_join rest)
      · rfl

theorem next_bytes_ne_nil (first : UInt8) (rest : List UInt8) :
    (next first rest).1.bytes ≠ [] := by
  unfold next
  split
  · cases rest with
    | nil => exact List.cons_ne_nil _ _
    | cons second further =>
        dsimp only
        split
        · exact List.cons_ne_nil _ _
        · split <;> exact List.cons_ne_nil _ _
  · split
    · exact List.cons_ne_nil _ _
    · split <;> exact List.cons_ne_nil _ _

theorem next_length_le (first : UInt8) (rest : List UInt8) :
    (next first rest).2.length ≤ rest.length := by
  have joined := congrArg List.length (next_join first rest)
  have positive := List.length_pos_iff.mpr (next_bytes_ne_nil first rest)
  rw [List.length_append, List.length_cons] at joined
  omega

/-- The segments give the source back. -/
theorem flatMap_bytes_listWithin {source : List UInt8} {bound : Nat}
    (fits : source.length ≤ bound) :
    (listWithin bound source).flatMap bytes = source := by
  induction bound generalizing source with
  | zero =>
      obtain rfl := List.eq_nil_of_length_eq_zero (Nat.le_zero.mp fits)
      rfl
  | succ bound inductionHypothesis =>
      cases source with
      | nil => rfl
      | cons first rest =>
          have restFits : (next first rest).2.length ≤ bound :=
            Nat.le_trans (next_length_le first rest) (Nat.le_of_succ_le_succ fits)
          rw [listWithin, List.flatMap_cons, inductionHypothesis restFits, next_join]

/-- The segments of a source give it back, whatever it holds. -/
theorem flatMap_bytes_list (source : List UInt8) :
    (list source).flatMap bytes = source :=
  flatMap_bytes_listWithin (Nat.le_refl source.length)

theorem bytes_ne_nil_of_mem_listWithin {source : List UInt8} {bound : Nat} {segment : Segment}
    (member : segment ∈ listWithin bound source) :
    segment.bytes ≠ [] := by
  induction bound generalizing source with
  | zero => cases source <;> cases member
  | succ bound inductionHypothesis =>
      cases source with
      | nil => cases member
      | cons first rest =>
          rw [listWithin, List.mem_cons] at member
          rcases member with rfl | later
          · exact next_bytes_ne_nil first rest
          · exact inductionHypothesis later

theorem bytes_ne_nil_of_mem_list {source : List UInt8} {segment : Segment}
    (member : segment ∈ list source) :
    segment.bytes ≠ [] :=
  bytes_ne_nil_of_mem_listWithin member

/-! ## The ends of comments and constants -/

theorem splitLine_append {content rest : List UInt8}
    (oneLine : lineFeed ∉ content) (ended : rest = [] ∨ rest.head? = some lineFeed) :
    splitLine (content ++ rest) = (content, rest) := by
  have inside : ∀ byte ∈ content, (byte != lineFeed) = true := by
    intro byte member
    exact bne_iff_ne.mpr fun same => oneLine (same ▸ member)
  have taken : rest.takeWhile (· != lineFeed) = [] ∧ rest.dropWhile (· != lineFeed) = rest := by
    cases rest with
    | nil => exact ⟨rfl, rfl⟩
    | cons first further =>
        have first_eq : first = lineFeed := by simpa using ended
        simp [first_eq]
  rw [splitLine, List.takeWhile_append_of_pos inside, List.dropWhile_append_of_pos inside,
    taken.1, taken.2, List.append_nil]

/-- A block comment ends at its first closing mark. -/
theorem splitBlock_append {content : List UInt8} (unclosed : ¬ [star, slash] <:+: content)
    (rest : List UInt8) :
    splitBlock (content ++ star :: slash :: rest) = (content ++ [star, slash], rest) := by
  induction content with
  | nil => simp [splitBlock]
  | cons first further inductionHypothesis =>
      have furtherOpen : ¬ [star, slash] <:+: further := fun inside =>
        unclosed (List.infix_cons inside)
      have recursion := inductionHypothesis furtherOpen
      cases further with
      | nil =>
          have differ : star ≠ slash := by decide
          simp [splitBlock, differ]
      | cons second others =>
          have notClosed : ¬ (first = star ∧ second = slash) := by
            rintro ⟨rfl, rfl⟩
            exact unclosed ⟨[], others, rfl⟩
          simp only [List.cons_append] at recursion ⊢
          rw [splitBlock, if_neg notClosed, recursion]

theorem splitRaw_append {content : List UInt8} (unclosed : backQuote ∉ content)
    (rest : List UInt8) :
    splitRaw (content ++ backQuote :: rest) = (content ++ [backQuote], rest) := by
  induction content with
  | nil => simp [splitRaw]
  | cons first further inductionHypothesis =>
      rw [List.mem_cons, not_or] at unclosed
      rw [List.cons_append, splitRaw, if_neg (Ne.symm unclosed.1), inductionHypothesis unclosed.2]
      rfl

theorem splitQuoted_cons_of_ne_nil (quote first : UInt8) {rest : List UInt8}
    (more : rest ≠ []) (notQuote : first ≠ quote) (notEnd : first ≠ lineFeed)
    (notEscape : first ≠ backslash) :
    splitQuoted quote (first :: rest) =
      (first :: (splitQuoted quote rest).1, (splitQuoted quote rest).2) := by
  cases rest with
  | nil => exact absurd rfl more
  | cons second further => simp [splitQuoted, notQuote, notEnd, notEscape]

/-- A constant ends at the first quote without a backslash. -/
theorem splitQuoted_append {quote : UInt8} {content : List UInt8}
    (mark : quote = doubleQuote ∨ quote = singleQuote) (quoted : QuotedContent quote content)
    (rest : List UInt8) :
    splitQuoted quote (content ++ quote :: rest) = (content ++ [quote], rest) := by
  induction quoted with
  | empty =>
      have notEnd : quote ≠ lineFeed := by rcases mark with rfl | rfl <;> decide
      cases rest with
      | nil => simp [splitQuoted, notEnd]
      | cons second further => simp [splitQuoted]
  | plain notQuote notEnd notEscape _ inductionHypothesis =>
      rw [List.cons_append, splitQuoted_cons_of_ne_nil quote _ (by simp) notQuote notEnd notEscape,
        inductionHypothesis]
      rfl
  | escaped notEnd _ inductionHypothesis =>
      have notQuote : backslash ≠ quote := by rcases mark with rfl | rfl <;> decide
      have notFeed : backslash ≠ lineFeed := by decide
      simp [splitQuoted, notQuote, notFeed, notEnd, inductionHypothesis]

/-! ## The segments of a derivation -/

namespace Lexes

theorem next_lineComment {content rest : List UInt8}
    (oneLine : lineFeed ∉ content) (ended : rest = [] ∨ rest.head? = some lineFeed) :
    next slash (slash :: (content ++ rest)) = (comment (slash :: slash :: content), rest) := by
  simp [next, splitLine_append oneLine ended]

theorem next_blockComment {content : List UInt8} (unclosed : ¬ [star, slash] <:+: content)
    (rest : List UInt8) :
    next slash (star :: (content ++ star :: slash :: rest)) =
      (comment (slash :: star :: (content ++ [star, slash])), rest) := by
  have differ : star ≠ slash := by decide
  simp [next, differ, splitBlock_append unclosed]

theorem next_constant {quote : UInt8} {content : List UInt8}
    (mark : quote = doubleQuote ∨ quote = singleQuote) (quoted : QuotedContent quote content)
    (rest : List UInt8) :
    next quote (content ++ quote :: rest) = (code (quote :: (content ++ [quote])), rest) := by
  have notSlash : quote ≠ slash := by rcases mark with rfl | rfl <;> decide
  simp [next, notSlash, mark, splitQuoted_append mark quoted]

theorem next_rawString {content : List UInt8} (unclosed : backQuote ∉ content)
    (rest : List UInt8) :
    next backQuote (content ++ backQuote :: rest) =
      (code (backQuote :: (content ++ [backQuote])), rest) := by
  have notSlash : backQuote ≠ slash := by decide
  have notDouble : backQuote ≠ doubleQuote := by decide
  have notSingle : backQuote ≠ singleQuote := by decide
  simp [next, notSlash, notDouble, notSingle, splitRaw_append unclosed]

theorem next_plain {byte : UInt8} {rest : List UInt8}
    (notDouble : byte ≠ doubleQuote) (notSingle : byte ≠ singleQuote)
    (notBack : byte ≠ backQuote)
    (noComment : byte = slash → rest.head? ≠ some slash ∧ rest.head? ≠ some star) :
    next byte rest = (code [byte], rest) := by
  by_cases isSlash : byte = slash
  · obtain ⟨notLine, notBlock⟩ := noComment isSlash
    cases rest with
    | nil => simp [next, isSlash]
    | cons second further =>
        have second_ne_slash : second ≠ slash := by simpa using notLine
        have second_ne_star : second ≠ star := by simpa using notBlock
        simp [next, isSlash, second_ne_slash, second_ne_star]
  · simp [next, isSlash, notDouble, notSingle, notBack]

/-- The first segment of a derivation is the next one of the source. -/
theorem next_eq {first : UInt8} {rest : List UInt8} {segments : List Segment}
    (lexed : Lexes (first :: rest) segments) :
    ∃ later, segments = (next first rest).1 :: later ∧ Lexes (next first rest).2 later := by
  cases lexed with
  | lineComment oneLine ended further =>
      exact ⟨_, by rw [next_lineComment oneLine ended], by rwa [next_lineComment oneLine ended]⟩
  | blockComment unclosed further =>
      exact ⟨_, by rw [next_blockComment unclosed], by rwa [next_blockComment unclosed]⟩
  | constant mark quoted further =>
      exact ⟨_, by rw [next_constant mark quoted], by rwa [next_constant mark quoted]⟩
  | rawString unclosed further =>
      exact ⟨_, by rw [next_rawString unclosed], by rwa [next_rawString unclosed]⟩
  | plain notDouble notSingle notBack noComment further =>
      exact ⟨_, by rw [next_plain notDouble notSingle notBack noComment],
        by rwa [next_plain notDouble notSingle notBack noComment]⟩

/-- A source has one lexical derivation. -/
theorem listWithin_eq {source : List UInt8} {segments : List Segment}
    (lexed : Lexes source segments) {bound : Nat} (fits : source.length ≤ bound) :
    listWithin bound source = segments := by
  induction bound generalizing source segments with
  | zero =>
      obtain rfl := List.eq_nil_of_length_eq_zero (Nat.le_zero.mp fits)
      cases lexed
      rfl
  | succ bound inductionHypothesis =>
      cases source with
      | nil =>
          cases lexed
          rfl
      | cons first rest =>
          obtain ⟨later, rfl, further⟩ := lexed.next_eq
          have restFits : (next first rest).2.length ≤ bound :=
            Nat.le_trans (next_length_le first rest) (Nat.le_of_succ_le_succ fits)
          rw [listWithin]
          dsimp only
          rw [inductionHypothesis further restFits]

/-- A source has no segments but those of its derivation. -/
theorem list_eq {source : List UInt8} {segments : List Segment}
    (lexed : Lexes source segments) :
    list source = segments :=
  lexed.listWithin_eq (Nat.le_refl source.length)

end Lexes

-- Marks in a constant start no comment: "//" //c
example :
    Lexes [0x22, 0x2F, 0x2F, 0x22, 0x20, 0x2F, 0x2F, 0x63]
      [code [0x22, 0x2F, 0x2F, 0x22], code [0x20], comment [0x2F, 0x2F, 0x63]] :=
  have quoted : QuotedContent doubleQuote [slash, slash] :=
    .plain (by decide) (by decide) (by decide)
      (.plain (by decide) (by decide) (by decide) .empty)
  have ending : Lexes [0x2F, 0x2F, 0x63] [comment [0x2F, 0x2F, 0x63]] :=
    @Lexes.lineComment [0x63] [] [] (by decide) (Or.inl rfl) .finish
  .constant (Or.inl rfl) quoted (.plain (by decide) (by decide) (by decide) (by decide) ending)

end LiteralAudit.Segment
