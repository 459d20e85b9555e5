import LiteralAudit.Json.Reading
import LiteralAudit.Proofs.Json.NumberReading
import LiteralAudit.Proofs.Json.TextReading

/-!
# Written documents are read back

A spelling of a document is cut into the tokens of the document, wherever blanks stand between them,
and the tree of these tokens is that of the document, without any flaw in it.
-/

namespace LiteralAudit.Json

/-! ## Tokens -/

mutual

def tokenList : Json → List Token
  | .null => [.null]
  | .bool value => [.bool value]
  | .number value => [.number (.ok (writeNumber value))]
  | .text value => [.text (.ok value)]
  | .list [] => [.mark .openList, .mark .closeList]
  | .list (first :: further) => .mark .openList :: (tokenList first ++ itemTokens further)
  | .object [] => [.mark .openObject, .mark .closeObject]
  | .object ((name, value) :: further) =>
      .mark .openObject :: .text (.ok name) :: .mark .colon ::
        (tokenList value ++ memberTokens further)

/-- The tokens from behind the first item on. -/
def itemTokens : List Json → List Token
  | [] => [.mark .closeList]
  | item :: further => .mark .comma :: (tokenList item ++ itemTokens further)

/-- The tokens from behind the first member on. -/
def memberTokens : List (String × Json) → List Token
  | [] => [.mark .closeObject]
  | (name, value) :: further =>
      .mark .comma :: .text (.ok name) :: .mark .colon ::
        (tokenList value ++ memberTokens further)

end

/-- A text is cut into some tokens and a rest, under every bound that is great enough for it. -/
def Reads (source : List Char) (found : List Token) (rest : List Char) : Prop :=
  ∀ bound, source.length ≤ bound →
    ∃ left, rest.length ≤ left ∧ tokensWithin bound source = found ++ tokensWithin left rest

namespace Reads

variable {source middle rest : List Char}

theorem refl (source : List Char) : Reads source [] source :=
  fun bound fits => ⟨bound, fits, rfl⟩

theorem append {found further : List Token} (first : Reads source found middle)
    (second : Reads middle further rest) :
    Reads source (found ++ further) rest := by
  intro bound fits
  obtain ⟨left, leftFits, cut⟩ := first bound fits
  obtain ⟨leftover, leftoverFits, cutFurther⟩ := second left leftFits
  refine ⟨leftover, leftoverFits, ?_⟩
  rw [cut, cutFurther, List.append_assoc]

theorem cons {token : Token} {further : List Token} (first : Reads source [token] middle)
    (second : Reads middle further rest) :
    Reads source (token :: further) rest :=
  first.append second

theorem of_nextToken {first : Char} {token : Token} (noBlank : isBlank first = false)
    (next : nextToken first middle = ([token], rest)) (shorter : rest.length ≤ middle.length) :
    Reads (first :: middle) [token] rest := by
  intro bound fits
  rw [List.length_cons] at fits
  cases bound with
  | zero => omega
  | succ left =>
      refine ⟨left, by omega, ?_⟩
      rw [tokensWithin, List.dropWhile_cons, noBlank]
      dsimp only
      rw [if_neg Bool.false_ne_true]
      dsimp only
      rw [next]

theorem of_mark {first : Char} {mark : Mark} (noBlank : isBlank first = false)
    (known : Mark.ofChar? first = some mark) :
    Reads (first :: rest) [.mark mark] rest := by
  refine of_nextToken noBlank ?_ (Nat.le_refl _)
  unfold nextToken
  rw [known]

/-- Blanks before the first token are passed over. -/
theorem of_gap {gap : List Char} (blank : IsGap gap) {found : List Token}
    (reads : Reads source found rest) :
    Reads (gap ++ source) found rest := by
  intro bound fits
  rw [List.length_append] at fits
  obtain ⟨left, leftFits, cut⟩ := reads bound (by omega)
  refine ⟨left, leftFits, ?_⟩
  rw [← cut]
  cases bound with
  | zero => rfl
  | succ further => rw [tokensWithin, tokensWithin, List.dropWhile_append_of_pos blank]

/-- A mark, some blanks, and what stands behind them. -/
theorem marked {first : Char} {mark : Mark} {gap : List Char} {found : List Token}
    (noBlank : isBlank first = false) (known : Mark.ofChar? first = some mark)
    (blank : IsGap gap) (reads : Reads source found rest) :
    Reads (first :: (gap ++ source)) (.mark mark :: found) rest :=
  (of_mark noBlank known).cons (of_gap blank reads)

/-- Where a text is read to its end, its tokens are those that were read. -/
theorem tokens_eq {found : List Token} (reads : Reads source found []) :
    tokens source = found := by
  obtain ⟨left, -, cut⟩ := reads source.length (Nat.le_refl _)
  have empty : tokensWithin left [] = [] := by
    cases left with
    | zero => rfl
    | succ _ => rfl
  rw [tokens, cut, empty, List.append_nil]

end Reads

theorem reads_nullWord (rest : List Char) : Reads (nullWord ++ rest) [.null] rest := by
  refine Reads.of_nextToken (by decide) rfl ?_
  exact (List.suffix_append ['u', 'l', 'l'] rest).length_le

theorem reads_writeBool (value : Bool) (rest : List Char) :
    Reads (writeBool value ++ rest) [.bool value] rest := by
  cases value with
  | false =>
      refine Reads.of_nextToken (by decide) rfl ?_
      exact (List.suffix_append ['a', 'l', 's', 'e'] rest).length_le
  | true =>
      refine Reads.of_nextToken (by decide) rfl ?_
      exact (List.suffix_append ['r', 'u', 'e'] rest).length_le

/-- Whatever escapes a text is spelled with, it is one token. -/
theorem SpellsText.reads {value : String} {text : List Char} (spells : SpellsText value text)
    (rest : List Char) :
    Reads (text ++ rest) [.text (.ok value)] rest := by
  cases spells with
  | @quoted content characters =>
      obtain ⟨ending, found⟩ := characters.pieces_eq rest
      have next : nextToken '"' (content ++ '"' :: rest) = ([.text (.ok value)], rest) := by
        simp [nextToken, Mark.ofChar?, ending, found, Except.map]
      have written : '"' :: (content ++ ['"']) ++ rest = '"' :: (content ++ '"' :: rest) := by
        simp
      rw [written]
      refine Reads.of_nextToken (by decide) next ?_
      simp only [List.length_append, List.length_cons]
      omega

theorem nextToken_of_isDecimal {first : Char} (decimal : Digits.isDecimal first = true)
    {rest found after : List Char} (number : numberText (first :: rest) = .ok (found, after)) :
    nextToken first rest = ([.number (.ok found)], after) := by
  unfold nextToken
  have noMark : Mark.ofChar? first = none := by
    unfold Mark.ofChar?
    split
    any_goals cases decimal
    rfl
  rw [noMark]
  dsimp only
  split
  any_goals cases decimal
  rw [if_pos (Or.inr decimal), number]

/-- A number ends where no digit, point or power of ten goes on with it. -/
theorem reads_writeNumber (number : Nat) {rest : List Char} (ends : EndsNumber rest) :
    Reads (writeNumber number ++ rest) [.number (.ok (writeNumber number))] rest := by
  have found := numberText_writeNumber number ends
  obtain ⟨first, further, digits⟩ := List.exists_cons_of_ne_nil (writeNumber_ne_nil number)
  have decimal : Digits.isDecimal first = true :=
    isDecimal_of_mem_writeNumber (by rw [digits]; exact List.mem_cons_self)
  have noBlank : isBlank first = false := by
    rw [isDecimal_eq_isDigit] at decimal
    rw [Bool.eq_false_iff]
    intro blank
    simp only [isBlank, Bool.or_eq_true, beq_iff_eq] at blank
    rcases blank with ((rfl | rfl) | rfl) | rfl
    all_goals contradiction
  rw [digits, List.cons_append] at found ⊢
  refine Reads.of_nextToken noBlank (nextToken_of_isDecimal decimal found) ?_
  simp

/-! ## Documents -/

theorem endsNumber_mark {first : Char} {mark : Mark} (known : Mark.ofChar? first = some mark)
    (rest : List Char) : EndsNumber (first :: rest) := by
  rintro next ⟨⟩
  unfold Mark.ofChar? at known
  split at known
  any_goals decide
  cases known

theorem IsGap.endsNumber {gap rest : List Char} (blank : IsGap gap) (ends : EndsNumber rest) :
    EndsNumber (gap ++ rest) := by
  cases gap with
  | nil => exact ends
  | cons first further =>
      have blankFirst := blank first List.mem_cons_self
      simp only [isBlank, Bool.or_eq_true, beq_iff_eq] at blankFirst
      rintro next ⟨⟩
      rcases blankFirst with ((rfl | rfl) | rfl) | rfl
      all_goals decide

theorem SpellsItems.endsNumber {items : List Json} {text : List Char}
    (spells : SpellsItems items text) (rest : List Char) : EndsNumber (text ++ rest) := by
  cases spells with
  | nil blank =>
      rw [List.append_assoc]
      exact blank.endsNumber (endsNumber_mark rfl rest)
  | cons blankBefore _ _ _ =>
      rw [List.append_assoc]
      exact blankBefore.endsNumber (endsNumber_mark rfl _)

theorem SpellsMembers.endsNumber {members : List (String × Json)} {text : List Char}
    (spells : SpellsMembers members text) (rest : List Char) : EndsNumber (text ++ rest) := by
  cases spells with
  | nil blank =>
      rw [List.append_assoc]
      exact blank.endsNumber (endsNumber_mark rfl rest)
  | cons blankBefore _ _ _ =>
      rw [List.append_assoc]
      exact blankBefore.endsNumber (endsNumber_mark rfl _)

mutual

-- Only a number could go on in the characters behind it, so that the rest must not let it.
/-- However a document is spelled, it is read as the same tokens. The induction is on the spelling.
-/
theorem Spells.reads : ∀ {document : Json} {text : List Char}, Spells document text →
    ∀ rest, EndsNumber rest → Reads (text ++ rest) (tokenList document) rest
  | _, _, .null, rest, _ => reads_nullWord rest
  | _, _, .bool value, rest, _ => reads_writeBool value rest
  | _, _, .number value, _, ends => reads_writeNumber value ends
  | _, _, .text spells, rest, _ => spells.reads rest
  | _, _, .emptyList blank, rest, _ => by
      rw [tokenList, List.cons_append, List.append_assoc]
      exact Reads.marked (by decide) rfl blank (Reads.of_mark (by decide) rfl)
  | _, _, .list blank head tail, rest, _ => by
      have first := head.reads _ (tail.endsNumber rest)
      rw [tokenList, List.cons_append, List.append_assoc, List.append_assoc]
      exact Reads.marked (by decide) rfl blank (first.append (tail.reads rest))
  | _, _, .emptyObject blank, rest, _ => by
      rw [tokenList, List.cons_append, List.append_assoc]
      exact Reads.marked (by decide) rfl blank (Reads.of_mark (by decide) rfl)
  | _, _, @Spells.object (name, value) _ _ _ _ blank head tail, rest, _ => by
      have first := head.reads _ (tail.endsNumber rest)
      rw [tokenList, List.cons_append, List.append_assoc, List.append_assoc]
      exact Reads.marked (by decide) rfl blank (first.append (tail.reads rest))

theorem SpellsItems.reads : ∀ {items : List Json} {text : List Char}, SpellsItems items text →
    ∀ rest, Reads (text ++ rest) (itemTokens items) rest
  | _, _, .nil blank, rest => by
      rw [itemTokens, List.append_assoc]
      exact Reads.of_gap blank (Reads.of_mark (by decide) rfl)
  | _, _, .cons blankBefore blankAfter head tail, rest => by
      have first := head.reads _ (tail.endsNumber rest)
      rw [itemTokens, List.append_assoc, List.cons_append, List.append_assoc, List.append_assoc]
      exact Reads.of_gap blankBefore
        (Reads.marked (by decide) rfl blankAfter (first.append (tail.reads rest)))

theorem SpellsMember.reads : ∀ {name : String} {value : Json} {text : List Char},
    SpellsMember (name, value) text → ∀ rest, EndsNumber rest →
      Reads (text ++ rest) (.text (.ok name) :: .mark .colon :: tokenList value) rest
  | _, _, _, .named spellsName blankBefore blankAfter spellsValue, rest, ends => by
      have content := spellsValue.reads rest ends
      simp only [List.append_assoc, List.cons_append]
      exact (spellsName.reads _).cons
        (Reads.of_gap blankBefore (Reads.marked (by decide) rfl blankAfter content))

theorem SpellsMembers.reads : ∀ {members : List (String × Json)} {text : List Char},
    SpellsMembers members text → ∀ rest, Reads (text ++ rest) (memberTokens members) rest
  | _, _, .nil blank, rest => by
      rw [memberTokens, List.append_assoc]
      exact Reads.of_gap blank (Reads.of_mark (by decide) rfl)
  | _, _, @SpellsMembers.cons (name, value) _ _ _ _ _ blankBefore blankAfter head tail, rest => by
      have first := head.reads _ (tail.endsNumber rest)
      rw [memberTokens, List.append_assoc, List.cons_append, List.append_assoc, List.append_assoc]
      exact Reads.of_gap blankBefore
        (Reads.marked (by decide) rfl blankAfter (first.append (tail.reads rest)))

end

/-- A spelling with blanks around it is cut into the tokens of its document. -/
theorem Spells.tokens_eq {document : Json} {before text after : List Char}
    (spells : Spells document text) (blankBefore : IsGap before) (blankAfter : IsGap after) :
    tokens (before ++ (text ++ after)) = tokenList document := by
  have ends : EndsNumber after := by
    rw [← List.append_nil after]
    exact blankAfter.endsNumber (fun _ none => nomatch none)
  have nothing : Reads after [] [] := by
    rw [← List.append_nil after]
    exact Reads.of_gap blankAfter (Reads.refl [])
  have found := (Reads.of_gap blankBefore (spells.reads after ends)).append nothing
  rw [List.append_nil] at found
  exact found.tokens_eq

/-! ## Trees -/

mutual

/-- The tree of a document, in which nothing is missing. -/
def reading : Json → Reading
  | .null => .null
  | .bool value => .bool value
  | .number value => .number (.ok (writeNumber value))
  | .text value => .text (.ok value)
  | .list items => .list (itemReadings items) none
  | .object members => .object (memberReadings members) none

def itemReadings : List Json → List Reading
  | [] => []
  | item :: further => reading item :: itemReadings further

def memberReadings : List (String × Json) → List Member
  | [] => []
  | (name, value) :: further => (.ok name, reading value) :: memberReadings further

end

theorem itemReadings_map {α : Type} (toJson : α → Json) (values : List α) :
    itemReadings (values.map toJson) = values.map fun value => reading (toJson value) := by
  induction values with
  | nil => rfl
  | cons value further inductionHypothesis =>
      rw [List.map_cons, itemReadings, inductionHypothesis, List.map_cons]

theorem memberReadings_eq_map (members : List (String × Json)) :
    memberReadings members = members.map fun member => (.ok member.1, reading member.2) := by
  induction members with
  | nil => rfl
  | cons member further inductionHypothesis =>
      rw [memberReadings, inductionHypothesis, List.map_cons]

mutual

/-- The tree of a document has no flaw. -/
theorem skippedFlaw?_reading : ∀ document : Json, (reading document).skippedFlaw? = none
  | .null => rfl
  | .bool _ => rfl
  | .number _ => rfl
  | .text _ => rfl
  | .list items => by
      rw [reading, Reading.skippedFlaw?, itemsSkippedFlaw?_itemReadings items]
      rfl
  | .object members => by
      rw [reading, Reading.skippedFlaw?, membersSkippedFlaw?_memberReadings members]
      rfl

theorem itemsSkippedFlaw?_itemReadings : ∀ items : List Json,
    Reading.itemsSkippedFlaw? (itemReadings items) = none
  | [] => rfl
  | item :: further => by
      rw [itemReadings, Reading.itemsSkippedFlaw?, skippedFlaw?_reading item,
        itemsSkippedFlaw?_itemReadings further]
      rfl

theorem membersSkippedFlaw?_memberReadings : ∀ members : List (String × Json),
    Reading.membersSkippedFlaw? (memberReadings members) = none
  | [] => rfl
  | (_, value) :: further => by
      rw [memberReadings, Reading.membersSkippedFlaw?, skippedFlaw?_reading value,
        membersSkippedFlaw?_memberReadings further]
      rfl

end

/-- The first token of a document is no end of a list, so that it is taken as an item like anywhere
else. -/
theorem step_item_tokenList (document : Json) (more : List Token) (frames : List Frame) :
    (tokenList document ++ more).foldl Progress.step (.within frames .item) =
      (tokenList document ++ more).foldl Progress.step (.within frames .value) := by
  cases document with
  | null => rfl
  | bool value => rfl
  | number value => rfl
  | text value => rfl
  | list items =>
      cases items with
      | nil => rfl
      | cons first further => rfl
  | object members =>
      cases members with
      | nil => rfl
      | cons first further => rfl

mutual

/-- The tokens of a document deliver its tree to the lists and objects around it. -/
theorem foldl_tokenList : ∀ (document : Json) (frames : List Frame),
    (tokenList document).foldl Progress.step (.within frames .value) =
      Progress.deliver frames (reading document)
  | .null, _ => rfl
  | .bool _, _ => rfl
  | .number _, _ => rfl
  | .text _, _ => rfl
  | .list [], _ => rfl
  | .list (first :: further), frames => by
      rw [tokenList, List.foldl_cons]
      change (tokenList first ++ itemTokens further).foldl Progress.step
        (.within (.list [] :: frames) .item) = _
      rw [step_item_tokenList, List.foldl_append, foldl_tokenList first]
      exact foldl_itemTokens further [reading first] frames
  | .object [], _ => rfl
  | .object ((name, value) :: further), frames => by
      rw [tokenList, List.foldl_cons, List.foldl_cons, List.foldl_cons, List.foldl_append]
      change (memberTokens further).foldl Progress.step
        ((tokenList value).foldl Progress.step
          (.within (.named [] (.ok name) :: frames) .value)) = _
      rw [foldl_tokenList value]
      exact foldl_memberTokens further [(.ok name, reading value)] frames

theorem foldl_itemTokens : ∀ (items : List Json) (before : List Reading) (outer : List Frame),
    (itemTokens items).foldl Progress.step (.within (.list before :: outer) .separator) =
      Progress.deliver outer (.list (before.reverse ++ itemReadings items) none)
  | [], before, outer => by
      rw [itemReadings, List.append_nil]
      rfl
  | item :: further, before, outer => by
      rw [itemTokens, List.foldl_cons, List.foldl_append]
      change (itemTokens further).foldl Progress.step
        ((tokenList item).foldl Progress.step (.within (.list before :: outer) .value)) = _
      rw [foldl_tokenList item]
      have tail := foldl_itemTokens further (reading item :: before) outer
      rw [List.reverse_cons, List.append_assoc, List.singleton_append] at tail
      exact tail

theorem foldl_memberTokens : ∀ (members : List (String × Json)) (before : List Member)
    (outer : List Frame),
    (memberTokens members).foldl Progress.step (.within (.object before :: outer) .separator) =
      Progress.deliver outer (.object (before.reverse ++ memberReadings members) none)
  | [], before, outer => by
      rw [memberReadings, List.append_nil]
      rfl
  | (name, value) :: further, before, outer => by
      rw [memberTokens, List.foldl_cons, List.foldl_cons, List.foldl_cons, List.foldl_append]
      change (memberTokens further).foldl Progress.step
        ((tokenList value).foldl Progress.step
          (.within (.named before (.ok name) :: outer) .value)) = _
      rw [foldl_tokenList value]
      have tail := foldl_memberTokens further ((.ok name, reading value) :: before) outer
      rw [List.reverse_cons, List.append_assoc, List.singleton_append] at tail
      exact tail

end

/-- The tree of a spelling is that of its document, and nothing follows it. -/
theorem Spells.ofText_eq {document : Json} {before text after : List Char}
    (spells : Spells document text) (blankBefore : IsGap before) (blankAfter : IsGap after) :
    Reading.ofText (before ++ (text ++ after)) = (reading document, false) := by
  rw [Reading.ofText, spells.tokens_eq blankBefore blankAfter, foldl_tokenList]
  rfl

/-- A document is read back as its tree, with nothing behind it. -/
theorem ofText_write (document : Json) :
    Reading.ofText (write document) = (reading document, false) := by
  have read := (spells_write document).ofText_eq isGap_nil isGap_nil
  rwa [List.nil_append, List.append_nil] at read

end LiteralAudit.Json
