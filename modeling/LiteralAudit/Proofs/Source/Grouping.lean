import LiteralAudit.Proofs.Source.Extent
import Mathlib.Data.List.Basic
import Mathlib.Data.List.Chain

/-!
# Groups of comments

The groups that are collected from a source are told by the places of its comments: a comment joins
the open group when nothing but blanks stand before it and it starts near enough to the end of the
group, which is the same line when code stands before the group on its first line, and otherwise the
same or the next line.

While comments are collected, what is known of code is the gap before the newest comment only. A
comment that opens a group cannot be misjudged by this: if the line on which it starts begins before
the gap, then it was not joined because of code in the gap, on this very line.
-/

namespace LiteralAudit

namespace Extent

/-! ## What joins comments -/

/-- Code stands before an offset on its line: a byte that is no blank and in no comment. -/
def CodeBefore (source : List UInt8) (comments : List Extent) (offset : Nat) : Prop :=
  ∃ place, place < offset ∧
    (Position.ofOffset source place).line = (Position.ofOffset source offset).line ∧
    source[place]?.map Text.isBlankByte = some false ∧
    ∀ extent ∈ comments, ¬ (extent.start ≤ place ∧ place < extent.stop)

instance (source : List UInt8) (comments : List Extent) (offset : Nat) :
    Decidable (CodeBefore source comments offset) :=
  inferInstanceAs (Decidable (∃ place, place < offset ∧ _))

/-- How many lines below the end of a group a comment may start to join it. -/
def reach (source : List UInt8) (comments : List Extent) (first : Extent) : Nat :=
  if CodeBefore source comments first.start then 0 else 1

/-- Whether a comment joins the group that another one opened, behind the comment before it. -/
structure Joins (source : List UInt8) (comments : List Extent)
    (first previous next : Extent) : Prop where
  blanks : ∀ byte ∈ bytesBetween source previous.stop next.start, Text.isBlankByte byte = true
  near :
    (Position.ofOffset source next.start).line ≤
      (Position.ofOffset source previous.stop).line + reach source comments first

/-! ## Code before a comment -/

theorem isBlankByte_lineFeed : Text.isBlankByte Segment.lineFeed = true := by
  decide

theorem followsCode_lineFeed (comment : Comment) (gap : List UInt8) :
    PlacedComment.followsCode ⟨comment, Segment.lineFeed :: gap⟩ = false := by
  simp [PlacedComment.followsCode]

theorem followsCode_cons (comment : Comment) {byte : UInt8} (goesOn : byte ≠ Segment.lineFeed)
    (gap : List UInt8) :
    PlacedComment.followsCode ⟨comment, byte :: gap⟩ =
      (!Text.isBlankByte byte || PlacedComment.followsCode ⟨comment, gap⟩) := by
  simp [PlacedComment.followsCode, goesOn]

/-- A gap has code on the line behind it when some byte that is no blank comes before the first line
end, read backward. -/
theorem followsCode_eq_true_iff (comment : Comment) (gap : List UInt8) :
    PlacedComment.followsCode ⟨comment, gap⟩ = true ↔
      ∃ near byte far, gap = near ++ byte :: far ∧
        Text.isBlankByte byte = false ∧ Segment.lineFeed ∉ near := by
  constructor
  · intro follows
    induction gap with
    | nil => simp [PlacedComment.followsCode] at follows
    | cons head rest inductionHypothesis =>
        have goesOn : head ≠ Segment.lineFeed := by
          rintro rfl
          rw [followsCode_lineFeed] at follows
          cases follows
        rw [followsCode_cons comment goesOn, Bool.or_eq_true, Bool.not_eq_true'] at follows
        rcases follows with code | further
        · exact ⟨[], head, rest, rfl, code, List.not_mem_nil⟩
        · obtain ⟨near, byte, far, rfl, code, sameLine⟩ := inductionHypothesis further
          exact ⟨head :: near, byte, far, rfl, code, by simp [goesOn.symm, sameLine]⟩
  · rintro ⟨near, byte, far, rfl, code, sameLine⟩
    induction near with
    | nil =>
        have goesOn : byte ≠ Segment.lineFeed := by
          rintro rfl
          rw [isBlankByte_lineFeed] at code
          cases code
        rw [List.nil_append, followsCode_cons comment goesOn, code]
        rfl
    | cons head further inductionHypothesis =>
        rw [List.mem_cons, not_or] at sameLine
        obtain ⟨goesOn, sameLine⟩ := sameLine
        rw [List.cons_append, followsCode_cons comment (Ne.symm goesOn),
          inductionHypothesis sameLine, Bool.or_true]

/-- What the gap before a comment tells of code is right when no comment reaches into the gap and
the line of the comment starts in the gap or has code in it. -/
theorem followsCode_eq_true_iff_codeBefore
    {source : List UInt8} {comments : List Extent} {floor start : Nat}
    (order : floor ≤ start) (inside : start ≤ source.length)
    (apart : ∀ extent ∈ comments, extent.stop ≤ floor ∨ start ≤ extent.start)
    (seen : floor = 0 ∨ Segment.lineFeed ∈ bytesBetween source floor start ∨
      ∃ byte ∈ bytesBetween source floor start, Text.isBlankByte byte = false)
    (comment : Comment) :
    PlacedComment.followsCode ⟨comment, (bytesBetween source floor start).reverse⟩ = true ↔
      CodeBefore source comments start := by
  rw [followsCode_eq_true_iff]
  constructor
  · rintro ⟨near, byte, far, split, code, sameLine⟩
    have gap : bytesBetween source floor start = far.reverse ++ byte :: near.reverse := by
      rw [← List.reverse_reverse (bytesBetween source floor start), split]
      simp
    obtain ⟨before, found⟩ := getElem?_of_bytesBetween_eq gap
    have behind : bytesBetween source (floor + far.reverse.length) start =
        byte :: near.reverse := by
      rw [bytesBetween_add, gap, List.drop_left]
    refine ⟨floor + far.reverse.length, before, ?_, by rw [found, Option.map_some, code], ?_⟩
    · rw [Position.line_ofOffset_eq_iff (Nat.le_of_lt before) inside, behind, List.mem_cons,
        List.mem_reverse]
      rintro (rfl | member)
      · rw [isBlankByte_lineFeed] at code
        cases code
      · exact sameLine member
    · intro extent member
      have outside := apart extent member
      omega
  · rintro ⟨place, before, line, found, -⟩
    obtain ⟨byte, present, code⟩ := Option.map_eq_some_iff.mp found
    have sameLine := (Position.line_ofOffset_eq_iff (Nat.le_of_lt before) inside).mp line
    rcases Nat.lt_or_ge place floor with early | late
    · -- The line starts before the gap: no line ends in the gap, so code was seen in it.
      have parts := bytesBetween_append (Nat.le_of_lt early) order inside
      have unbroken : Segment.lineFeed ∉ bytesBetween source floor start := by
        intro member
        rw [← parts] at sameLine
        exact sameLine (List.mem_append_right _ member)
      have shown : ∃ byte ∈ bytesBetween source floor start,
          Text.isBlankByte byte = false := by
        rcases seen with atStart | ended | shown
        · omega
        · exact absurd ended unbroken
        · exact shown
      obtain ⟨other, member, otherCode⟩ := shown
      obtain ⟨far, near, split⟩ := List.append_of_mem member
      refine ⟨near.reverse, other, far.reverse, by simp [split], otherCode, ?_⟩
      intro ended
      rw [split] at unbroken
      exact unbroken (by simp [List.mem_reverse.mp ended])
    · have behind := bytesBetween_eq_cons present before
      have parts := bytesBetween_append late (Nat.le_of_lt before) inside
      rw [behind] at parts sameLine
      refine ⟨(bytesBetween source (place + 1) start).reverse, byte,
        (bytesBetween source floor place).reverse, by simp [← parts], code, ?_⟩
      intro ended
      exact sameLine (List.mem_cons_of_mem byte (List.mem_reverse.mp ended))

/-- The gap before a comment decides whether code stands before it. -/
theorem followsCode_eq_decide {source : List UInt8} {comments before rest : List Extent}
    {floor : Nat} {next : Extent} (order : comments = before ++ next :: rest)
    (passed : ∀ extent ∈ before, extent.stop ≤ floor)
    (within : Within source.length floor (next :: rest))
    (seen : floor = 0 ∨ Segment.lineFeed ∈ bytesBetween source floor next.start ∨
      ∃ byte ∈ bytesBetween source floor next.start, Text.isBlankByte byte = false) :
    PlacedComment.followsCode
        ⟨next.comment source, (bytesBetween source floor next.start).reverse⟩ =
      decide (CodeBefore source comments next.start) := by
  obtain ⟨start, positive, inside, later⟩ := within.of_cons
  have apart : ∀ extent ∈ comments, extent.stop ≤ floor ∨ next.start ≤ extent.start := by
    intro extent member
    rw [order] at member
    rcases List.mem_append.mp member with earlier | further
    · exact Or.inl (passed extent earlier)
    · rcases List.mem_cons.mp further with rfl | behind
      · exact Or.inr (Nat.le_refl _)
      · have bound := later.floor_le_start extent behind
        exact Or.inr (Nat.le_trans (Nat.le_of_lt positive) bound)
  rw [Bool.eq_iff_iff, decide_eq_true_iff]
  exact followsCode_eq_true_iff_codeBefore start inside apart seen (next.comment source)

/-! ## Groups -/

/-- Lists of places that go on exactly as long as places join. -/
inductive Grouped (joins : Extent → Extent → Extent → Prop) : List (List Extent) → Prop
  | nil : Grouped joins []
  | cons {first : Extent} {tail : List Extent} {rest : List (List Extent)} :
      (first :: tail).IsChain (joins first) →
      (∀ last next, (first :: tail).getLast? = some last → rest.flatten.head? = some next →
        ¬ joins first last next) →
      Grouped joins rest → Grouped joins ((first :: tail) :: rest)

namespace Grouped

variable {joins : Extent → Extent → Extent → Prop} {groups : List (List Extent)}

theorem ne_nil (grouped : Grouped joins groups) : ∀ group ∈ groups, group ≠ [] := by
  induction grouped with
  | nil => simp
  | cons _ _ _ inductionHypothesis =>
      intro group member
      rcases List.mem_cons.mp member with rfl | later
      · exact List.cons_ne_nil _ _
      · exact inductionHypothesis group later

/-- Inside a group, each comment joins the one before it. -/
theorem chain_of_mem (grouped : Grouped joins groups) {first : Extent} {tail : List Extent}
    (member : first :: tail ∈ groups) :
    (first :: tail).IsChain (joins first) := by
  induction grouped with
  | nil => cases member
  | cons chain _ _ inductionHypothesis =>
      rcases List.mem_cons.mp member with same | later
      · obtain ⟨rfl, rfl⟩ := List.cons.inj same
        exact chain
      · exact inductionHypothesis later

theorem split_unique {front back before after : List Extent} {current : Extent}
    (nodup : (front ++ current :: back).Nodup)
    (same : front ++ current :: back = before ++ current :: after) :
    front = before ∧ back = after := by
  have absent : current ∉ front ++ back := (List.nodup_cons.mp (List.nodup_middle.mp nodup)).1
  rw [List.mem_append, not_or] at absent
  obtain ⟨sameFront, -, sameBack⟩ :=
    (List.append_cons_inj_of_notMem absent.1 absent.2).mp same
  exact ⟨sameFront, sameBack⟩

/-- The place behind another one is in the group of this one exactly when it joins. -/
theorem mem_iff_joins (grouped : Grouped joins groups) (nodup : groups.flatten.Nodup)
    {first : Extent} {tail : List Extent} (member : first :: tail ∈ groups)
    {current next : Extent} (inside : current ∈ first :: tail)
    {before after : List Extent} (order : groups.flatten = before ++ current :: next :: after) :
    next ∈ first :: tail ↔ joins first current next := by
  induction grouped generalizing before with
  | nil => cases member
  | @cons head others rest chain boundary _ inductionHypothesis =>
      rw [List.flatten_cons] at nodup order
      obtain ⟨headNodup, restNodup, apart⟩ := List.nodup_append.mp nodup
      rcases List.mem_cons.mp member with same | later
      · rw [same] at inside ⊢
        obtain rfl : first = head := (List.cons.inj same).1
        obtain ⟨front, back, split⟩ := List.append_of_mem inside
        rw [split, List.append_assoc, List.cons_append] at order nodup
        obtain ⟨rfl, behind⟩ := split_unique nodup order
        cases back with
        | nil =>
            -- The group ends here, and the next place opens another one.
            rw [List.nil_append] at behind
            have further : next ∈ rest.flatten := by
              rw [behind]
              exact List.mem_cons_self
            refine iff_of_false (fun early => apart next early next further rfl) ?_
            refine boundary current next (by simp [split]) ?_
            rw [behind]
            rfl
        | cons other back =>
            obtain ⟨rfl, -⟩ := List.cons.inj behind
            rw [split] at chain ⊢
            exact iff_of_true (by simp) (List.isChain_append_cons_cons.mp chain).2.1
      · have further : current ∈ rest.flatten := List.mem_flatten.mpr ⟨_, later, inside⟩
        obtain ⟨front, back, split⟩ := List.append_of_mem further
        rw [split, ← List.append_assoc] at order nodup
        obtain ⟨-, rfl⟩ := split_unique nodup order
        exact inductionHypothesis restNodup later split

end Grouped

end Extent

namespace CommentGroup

/-- The group of the comments at some places. -/
def ofExtents (source : List UInt8) (extents : List Extent) : CommentGroup :=
  ⟨extents.map (Extent.comment source)⟩

end CommentGroup

namespace Extent

/-- Blanks between two comments and the lines that they are apart decide whether they join. -/
theorem joins_eq_true_iff {source : List UInt8} {comments : List Extent}
    (first previous next : Extent) :
    PlacedComment.joins
        ⟨next.comment source, (bytesBetween source previous.stop next.start).reverse⟩
        (decide (CodeBefore source comments first.start))
        (previous.comment source).span.finish.line = true ↔
      Joins source comments first previous next := by
  have blanks :
      (bytesBetween source previous.stop next.start).reverse.all Text.isBlankByte = true ↔
        ∀ byte ∈ bytesBetween source previous.stop next.start,
          Text.isBlankByte byte = true := by
    simp
  have greatest : ∀ line,
      (if decide (CodeBefore source comments first.start) then line else line + 1) =
        line + reach source comments first := by
    intro line
    by_cases code : CodeBefore source comments first.start
    · simp [reach, code]
    · simp [reach, code]
  unfold PlacedComment.joins PlacedComment.followsBlanks
  dsimp only
  rw [Bool.and_eq_true, blanks, decide_eq_true_iff, greatest]
  constructor
  · rintro ⟨near, onlyBlanks⟩
    exact ⟨onlyBlanks, near⟩
  · rintro ⟨onlyBlanks, near⟩
    exact ⟨near, onlyBlanks⟩

/-- When a comment does not join, code or a line end stands between it and the comment before. -/
theorem seen_of_not_joins {source : List UInt8} {comments : List Extent}
    {first previous next : Extent} (order : previous.stop ≤ next.start)
    (inside : next.start ≤ source.length) (apart : ¬ Joins source comments first previous next) :
    Segment.lineFeed ∈ bytesBetween source previous.stop next.start ∨
      ∃ byte ∈ bytesBetween source previous.stop next.start,
        Text.isBlankByte byte = false := by
  by_contra unseen
  rw [not_or, not_exists] at unseen
  obtain ⟨sameLine, onlyBlanks⟩ := unseen
  apply apart
  constructor
  · intro byte member
    by_contra code
    exact onlyBlanks byte ⟨member, Bool.eq_false_iff.mpr code⟩
  · rw [← (Position.line_ofOffset_eq_iff order inside).mpr sameLine]
    exact Nat.le_add_right _ _

theorem ofExtents_opened (source : List UInt8) {first newest : Extent} {older tail : List Extent}
    (opened : (newest :: older).reverse = first :: tail) :
    CommentGroup.mk (newest.comment source :: older.map (comment source)).reverse =
      .ofExtents source (first :: tail) := by
  rw [CommentGroup.ofExtents, ← opened, List.map_reverse]
  rfl

theorem Grouped.opened {source : List UInt8} {comments : List Extent}
    {first newest : Extent} {older tail : List Extent} {groups : List (List Extent)}
    (opened : (newest :: older).reverse = first :: tail)
    (joined : (newest :: older).IsChain fun later earlier =>
      Joins source comments first earlier later)
    (ended : ∀ next, groups.flatten.head? = some next →
      ¬ Joins source comments first newest next)
    (grouped : Grouped (Joins source comments) groups) :
    Grouped (Joins source comments) ((first :: tail) :: groups) := by
  have chain : (first :: tail).IsChain (Joins source comments first) := by
    rw [← opened]
    exact List.isChain_reverse.mpr joined
  have newestLast : (first :: tail).getLast? = some newest := by
    rw [← opened, List.getLast?_reverse]
    rfl
  refine Grouped.cons chain ?_ grouped
  intro last next isLast isNext
  rw [newestLast] at isLast
  obtain rfl : newest = last := Option.some.inj isLast
  exact ended next isNext

/-- What is collected behind an open group, whose places stand in `older` and `newest`, last one
first. The places before `rest` end where the newest one ends or earlier. -/
theorem collect_grouped
    {source : List UInt8} {comments before rest older tail : List Extent}
    {first newest : Extent}
    (order : comments = before ++ rest)
    (passed : ∀ extent ∈ before, extent.stop ≤ newest.stop)
    (within : Within source.length newest.stop rest)
    (opened : (newest :: older).reverse = first :: tail)
    (joined : (newest :: older).IsChain fun later earlier =>
      Joins source comments first earlier later) :
    ∃ groups,
      CommentGroup.collect (decide (CodeBefore source comments first.start))
          (newest.comment source) (older.map (comment source))
          (placed source newest.stop rest) =
        groups.map (CommentGroup.ofExtents source) ∧
      groups.flatten = (newest :: older).reverse ++ rest ∧
      Grouped (Joins source comments) groups := by
  induction rest generalizing before older tail first newest with
  | nil =>
      refine ⟨[first :: tail], ?_, by simp [opened], ?_⟩
      · rw [placed, CommentGroup.collect, ofExtents_opened source opened]
        rfl
      · exact Grouped.opened opened joined (fun _ none => by cases none) Grouped.nil
  | cons next rest inductionHypothesis =>
      obtain ⟨start, positive, inside, later⟩ := within.of_cons
      have further : comments = (before ++ [next]) ++ rest := by
        rw [order, List.append_cons]
      have furtherPassed : ∀ extent ∈ before ++ [next], extent.stop ≤ next.stop := by
        intro extent member
        rcases List.mem_append.mp member with earlier | same
        · have bound := passed extent earlier
          omega
        · rw [List.mem_singleton.mp same]
      rw [placed, CommentGroup.collect]
      by_cases joins : Joins source comments first newest next
      · -- The open group goes on with the next comment.
        rw [if_pos ((joins_eq_true_iff first newest next).mpr joins)]
        have longer : (next :: newest :: older).reverse = first :: (tail ++ [next]) := by
          rw [List.reverse_cons, opened]
          rfl
        obtain ⟨groups, collected, flat, grouped⟩ :=
          inductionHypothesis further furtherPassed later longer
            (List.isChain_cons_cons.mpr ⟨joins, joined⟩)
        refine ⟨groups, collected, ?_, grouped⟩
        rw [flat, List.reverse_cons, List.append_assoc]
        rfl
      · -- The open group ends, and the gap tells whether the next one starts behind code.
        rw [if_neg (mt (joins_eq_true_iff first newest next).mp joins)]
        have code := followsCode_eq_decide order passed within
          (Or.inr (seen_of_not_joins start inside joins))
        have opens : (next :: []).reverse = next :: [] := rfl
        obtain ⟨groups, collected, flat, grouped⟩ :=
          inductionHypothesis further furtherPassed later opens (List.isChain_singleton _)
        refine ⟨(first :: tail) :: groups, ?_, ?_, ?_⟩
        · rw [code, ofExtents_opened source opened]
          exact congrArg (CommentGroup.ofExtents source (first :: tail) :: ·) collected
        · rw [List.flatten_cons, flat, ← opened]
          rfl
        · refine Grouped.opened opened joined ?_ grouped
          intro other isNext
          rw [flat] at isNext
          obtain rfl : next = other := Option.some.inj isNext
          exact joins

end Extent

theorem CommentGroup.ofSource_eq_ofPlaced (source : List UInt8) :
    ofSource source = ofPlaced (Extent.placed source 0 (Extent.ofSource source)) := by
  have found := Extent.placed_ofSegments (Segment.list source) [] 0 (Nat.le_refl 0)
  rw [List.nil_append, Segment.flatMap_bytes_list source] at found
  exact congrArg ofPlaced found

namespace Extent

/-- The comments of a source are collected in groups that go on as long as comments join. -/
theorem ofSource_grouped (source : List UInt8) :
    ∃ groups,
      CommentGroup.ofSource source = groups.map (CommentGroup.ofExtents source) ∧
      groups.flatten = ofSource source ∧
      Grouped (Joins source (ofSource source)) groups := by
  have within := ofSource_within source
  rw [CommentGroup.ofSource_eq_ofPlaced]
  cases order : ofSource source with
  | nil => exact ⟨[], rfl, rfl, Grouped.nil⟩
  | cons first rest =>
      rw [order] at within
      have later := within.of_cons.2.2.2
      have code := followsCode_eq_decide (List.nil_append _).symm
        (fun extent none => by cases none) within (Or.inl rfl)
      have opens : (first :: []).reverse = first :: [] := rfl
      have nothingElse : ∀ extent ∈ [first], extent.stop ≤ first.stop := by
        intro extent member
        rw [List.mem_singleton.mp member]
      obtain ⟨groups, collected, flat, grouped⟩ :=
        collect_grouped List.singleton_append.symm nothingElse later opens
          (List.isChain_singleton _)
      refine ⟨groups, ?_, flat, grouped⟩
      rw [placed, CommentGroup.ofPlaced, code]
      exact collected

end Extent

namespace CommentGroup

/-- The comment groups of a source are not empty and hold every comment once and in order, and a
comment is in the group of the one before it exactly when it joins. The comments are those of the
lexical grammar, whenever it derives the source. -/
theorem ofSource_groups (source : List UInt8) :
    (∀ segments, Segment.Lexes source segments →
        Extent.ofSource source = Extent.ofSegments 0 segments) ∧
      (∀ group ∈ ofSource source, group.comments ≠ []) ∧
      (ofSource source).flatMap (·.comments) =
        (Extent.ofSource source).map (Extent.comment source) ∧
      ∃ groups : List (List Extent),
        ofSource source = groups.map (ofExtents source) ∧
        groups.flatten = Extent.ofSource source ∧
        ∀ first tail, first :: tail ∈ groups → ∀ current ∈ first :: tail,
          ∀ before next after,
            Extent.ofSource source = before ++ current :: next :: after →
              (next ∈ first :: tail ↔
                Extent.Joins source (Extent.ofSource source) first current next) := by
  obtain ⟨groups, collected, flat, grouped⟩ := Extent.ofSource_grouped source
  refine ⟨?_, ?_, ?_, groups, collected, flat, ?_⟩
  · intro segments lexed
    rw [Extent.ofSource, lexed.list_eq]
  · intro group member
    rw [collected] at member
    obtain ⟨places, present, rfl⟩ := List.mem_map.mp member
    exact fun none => grouped.ne_nil places present (List.map_eq_nil_iff.mp none)
  · calc
      (ofSource source).flatMap (·.comments)
      _ = groups.flatMap (·.map (Extent.comment source)) := by
        rw [collected, List.flatMap_map]
        rfl
      _ = (Extent.ofSource source).map (Extent.comment source) := by
        rw [List.flatMap, ← List.map_flatten, flat]
  · intro first tail present current inside before next after order
    have nodup : groups.flatten.Nodup := by
      rw [flat]
      exact (Extent.ofSource_within source).nodup
    exact grouped.mem_iff_joins nodup present inside (flat.trans order)

example :
    (ofSource (Utf8.encode "x /* a */ // b\n// c\n")).map (·.comments.map (·.text)) =
      [["/* a */", "// b"], ["// c"]] := by
  decide +kernel

end CommentGroup

end LiteralAudit
