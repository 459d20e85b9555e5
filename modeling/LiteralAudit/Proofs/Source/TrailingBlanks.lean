import LiteralAudit.Audit.Session
import LiteralAudit.Proofs.Source.DirectiveForm
import LiteralAudit.Proofs.Source.Grouping
import LiteralAudit.Proofs.Source.Index
import LiteralAudit.Proofs.Source.Padding

/-!
# Directives in comments with trailing blanks

Comments come with a program, or they are read from a source, whose lines may end with blanks or with
a carriage return. What an index reads of comments is where they start, the lines where they end and
their directives. None of it depends on blanks at the ends of lines or at the ends of texts.
-/

namespace LiteralAudit

open Segment (AtLineEnd Padded PaddedSegments CommentForm isLineBlank lineFeed ne_of_isLineBlank
  atLineEnd_cons_iff)

/-! ## What an index reads of comments -/

namespace Comment

/-- What an index reads of a comment. -/
structure Gist where
  start : Position
  lastLine : Nat
  directive? : Option Directive

def gist (comment : Comment) : Gist where
  start := comment.span.start
  lastLine := comment.span.finish.line
  directive? := comment.directive?

/-- Where a comment starts, the line where it ends and its directive are all that matters. -/
theorem gist_eq_iff {comment other : Comment} :
    comment.gist = other.gist ↔ comment.span.start = other.span.start ∧
      comment.span.finish.line = other.span.finish.line ∧
      comment.directive? = other.directive? := by
  rw [gist, gist, Gist.mk.injEq]

namespace Gist

def firstStart (gists : List Gist) : Position :=
  (gists.head?.map (·.start)).getD .nowhere

def lastLineOf (gists : List Gist) : Nat :=
  (gists.getLast?.map (·.lastLine)).getD Position.nowhere.line

def isRelated (gists : List Gist) (span : Span) : Bool :=
  (decide (1 < span.start.line) && lastLineOf gists == span.start.line - 1) ||
    ((firstStart gists).line == span.finish.line &&
      decide (span.finish.column < (firstStart gists).column))

end Gist

end Comment

namespace CommentGroup

open Comment (Gist)

def gist (group : CommentGroup) : List Gist :=
  group.comments.map Comment.gist

theorem start_eq_firstStart (group : CommentGroup) : group.start = Gist.firstStart group.gist := by
  rw [start, Gist.firstStart, gist, List.head?_map, Option.map_map]
  rfl

theorem finish_line_eq_lastLineOf (group : CommentGroup) :
    group.finish.line = Gist.lastLineOf group.gist := by
  rw [finish, Gist.lastLineOf, gist, List.getLast?_map, Option.map_map]
  cases group.comments.getLast? with
  | none => rfl
  | some last => rfl

theorem isRelated_eq_gist (group : CommentGroup) (span : Span) :
    CommentIndex.isRelated group span = Gist.isRelated group.gist span := by
  rw [CommentIndex.isRelated, CommentIndex.isAbove, CommentIndex.isBehind, start_eq_firstStart,
    finish_line_eq_lastLineOf]
  rfl

theorem lastDirective_eq_gist (groups : List CommentGroup) :
    lastDirective groups =
      (((groups.map gist).flatten.filterMap (·.directive?)).getLast?).getD .unspecified := by
  have gists : (groups.map gist).flatten = (groups.flatMap (·.comments)).map Comment.gist := by
    rw [List.map_flatMap, List.flatMap_def]
    rfl
  rw [lastDirective, gists, List.filterMap_map]
  rfl

/-- An index needs no more of comments than their gists. -/
theorem map_gist_related (groups : List CommentGroup) (span : Span) :
    ((CommentIndex.ofGroups groups).related span).map gist =
      ((groups.map gist).filter (Gist.isRelated · span)).mergeSort
        fun left right => (Gist.firstStart left).le (Gist.firstStart right) := by
  rw [CommentIndex.related_ofGroups]
  simp only [isRelated_eq_gist, start_eq_firstStart]
  rw [List.filter_map]
  exact List.map_mergeSort fun _ _ _ _ => rfl

/-- What an index says of a span depends on nothing but the starts, the last lines and the
directives of the comments. -/
theorem directiveFor_eq_of_gist {groups others : List CommentGroup}
    (same : groups.map gist = others.map gist) (span : Span) :
    (CommentIndex.ofGroups groups).directiveFor span =
      (CommentIndex.ofGroups others).directiveFor span := by
  rw [CommentIndex.directiveFor, CommentIndex.directiveFor, lastDirective_eq_gist,
    lastDirective_eq_gist, map_gist_related, map_gist_related, same]

end CommentGroup

/-! ## Comments placed in a source -/

/-- What grouping reads of a comment with the bytes before it, and what an index reads of it. -/
structure PlacedComment.Gist where
  comment : Comment.Gist
  followsCode : Bool
  followsBlanks : Bool

def PlacedComment.gist (placed : PlacedComment) : Gist where
  comment := placed.comment.gist
  followsCode := placed.followsCode
  followsBlanks := placed.followsBlanks

theorem PlacedComment.gist_eq_iff {placed other : PlacedComment} :
    placed.gist = other.gist ↔ placed.comment.gist = other.comment.gist ∧
      placed.followsCode = other.followsCode ∧ placed.followsBlanks = other.followsBlanks := by
  rw [gist, gist, Gist.mk.injEq]

namespace CommentGroup

theorem gist_reverse {comments others : List Comment}
    (same : comments.map Comment.gist = others.map Comment.gist) :
    gist ⟨comments.reverse⟩ = gist ⟨others.reverse⟩ := by
  rw [gist, gist, List.map_reverse, List.map_reverse, same]

theorem collect_gist {newest newestOther : Comment} {older olderOthers : List Comment}
    (same : (newest :: older).map Comment.gist = (newestOther :: olderOthers).map Comment.gist)
    {placed others : List PlacedComment}
    (samePlaced : placed.map PlacedComment.gist = others.map PlacedComment.gist)
    (behindCode : Bool) :
    (collect behindCode newest older placed).map gist =
      (collect behindCode newestOther olderOthers others).map gist := by
  induction placed generalizing newest newestOther older olderOthers others behindCode with
  | nil =>
      obtain rfl := List.map_eq_nil_iff.mp samePlaced.symm
      exact congrArg ([·]) (gist_reverse same)
  | cons first rest inductionHypothesis =>
      cases others with
      | nil => cases samePlaced
      | cons other further =>
          obtain ⟨sameFirst, sameRest⟩ := List.cons.inj samePlaced
          obtain ⟨sameComment, sameCode, sameBlanks⟩ := PlacedComment.gist_eq_iff.mp sameFirst
          have sameStart := (Comment.gist_eq_iff.mp sameComment).1
          have sameLastLine := (Comment.gist_eq_iff.mp (List.cons.inj same).1).2.1
          have joins : first.joins behindCode newest.span.finish.line =
              other.joins behindCode newestOther.span.finish.line := by
            rw [PlacedComment.joins, PlacedComment.joins, sameStart, sameLastLine, sameBlanks]
          rw [collect, collect, joins]
          split
          · exact inductionHypothesis (congrArg₂ List.cons sameComment same) sameRest behindCode
          · rw [List.map_cons, List.map_cons, gist_reverse same, sameCode]
            have alone : [first.comment].map Comment.gist = [other.comment].map Comment.gist :=
              congrArg ([·]) sameComment
            exact congrArg _ (inductionHypothesis alone sameRest other.followsCode)

/-- Grouping needs no more, either. -/
theorem ofPlaced_gist {placed others : List PlacedComment}
    (same : placed.map PlacedComment.gist = others.map PlacedComment.gist) :
    (ofPlaced placed).map gist = (ofPlaced others).map gist := by
  cases placed with
  | nil =>
      obtain rfl := List.map_eq_nil_iff.mp same.symm
      rfl
  | cons first rest =>
      cases others with
      | nil => cases same
      | cons other further =>
          obtain ⟨sameFirst, sameRest⟩ := List.cons.inj same
          obtain ⟨sameComment, sameCode, -⟩ := PlacedComment.gist_eq_iff.mp sameFirst
          have alone : [first.comment].map Comment.gist = [other.comment].map Comment.gist :=
            congrArg ([·]) sameComment
          rw [ofPlaced, ofPlaced, sameCode]
          exact collect_gist alone sameRest other.followsCode

end CommentGroup

/-! ## Positions behind padded bytes -/

/-- Two positions before the same bytes. They are on the same line, and only at its end they can be
in different columns. -/
structure Position.Aligned (behind : List UInt8) (here there : Position) : Prop where
  line : here.line = there.line
  column : AtLineEnd behind ∨ here.column = there.column

namespace Position.Aligned

variable {behind content other : List UInt8} {byte : UInt8} {here there : Position}

theorem same (aligned : Aligned (byte :: behind) here there) :
    Aligned behind (here.advance byte) (there.advance byte) := by
  by_cases ended : byte = lineFeed
  · rw [advance, advance, if_pos ended, if_pos ended, aligned.line]
    exact ⟨rfl, Or.inr rfl⟩
  · rw [advance, advance, if_neg ended, if_neg ended]
    have sameColumn : here.column = there.column :=
      aligned.column.resolve_left fun atEnd => ended (atLineEnd_cons_iff.mp atEnd)
    exact ⟨aligned.line, Or.inr (congrArg (· + 1) sameColumn)⟩

theorem blank (aligned : Aligned behind here there) (isBlank : isLineBlank byte = true)
    (ended : AtLineEnd behind) : Aligned behind here (there.advance byte) := by
  rw [advance, if_neg (ne_of_isLineBlank isBlank rfl)]
  exact ⟨aligned.line, Or.inl ended⟩

theorem padded (padded : Padded behind content other)
    (aligned : Aligned (content ++ behind) here there) :
    Aligned behind (here.advanceOver content) (there.advanceOver other) := by
  induction padded generalizing here there with
  | nil => exact aligned
  | same byte _ inductionHypothesis => exact inductionHypothesis aligned.same
  | blank isBlank ended _ inductionHypothesis =>
      exact inductionHypothesis (aligned.blank isBlank ended)

theorem eq_of_inLine (aligned : Aligned (byte :: behind) here there) (inLine : byte ≠ lineFeed) :
    here = there :=
  have sameColumn : here.column = there.column :=
    aligned.column.resolve_left fun atEnd => inLine (atLineEnd_cons_iff.mp atEnd)
  congrArg₂ Position.mk aligned.line sameColumn

end Position.Aligned

/-! ## Bytes between comments -/

/-- Bytes without the blanks that do not end lines. -/
def withoutBlanks (bytes : List UInt8) : List UInt8 :=
  bytes.filter (!isLineBlank ·)

section

variable {byte : UInt8} {behind content other gap otherGap : List UInt8}

theorem withoutBlanks_cons_of_blank (isBlank : isLineBlank byte = true) (rest : List UInt8) :
    withoutBlanks (byte :: rest) = withoutBlanks rest :=
  List.filter_cons_of_neg (by simp [isBlank])

theorem withoutBlanks_cons_of_visible (isVisible : isLineBlank byte = false) (rest : List UInt8) :
    withoutBlanks (byte :: rest) = byte :: withoutBlanks rest :=
  List.filter_cons_of_pos (by simp [isVisible])

/-- Padding is gone when blanks are left out. -/
theorem withoutBlanks_padded (padded : Padded behind content other) :
    withoutBlanks content = withoutBlanks other := by
  induction padded with
  | nil => rfl
  | same byte _ inductionHypothesis =>
      cases isBlank : isLineBlank byte with
      | true => rwa [withoutBlanks_cons_of_blank isBlank, withoutBlanks_cons_of_blank isBlank]
      | false =>
          rw [withoutBlanks_cons_of_visible isBlank, withoutBlanks_cons_of_visible isBlank,
            inductionHypothesis]
  | blank isBlank _ _ inductionHypothesis =>
      rw [withoutBlanks_cons_of_blank isBlank, inductionHypothesis]

theorem withoutBlanks_reverse_append (same : withoutBlanks content = withoutBlanks other)
    (sameGap : withoutBlanks gap = withoutBlanks otherGap) :
    withoutBlanks (content.reverse ++ gap) = withoutBlanks (other.reverse ++ otherGap) := by
  unfold withoutBlanks at *
  rw [List.filter_append, List.filter_append, List.filter_reverse, List.filter_reverse, same,
    sameGap]

theorem isBlankByte_of_isLineBlank (isBlank : isLineBlank byte = true) :
    Text.isBlankByte byte = true := by
  rw [isLineBlank, Bool.and_eq_true] at isBlank
  exact isBlank.1

theorem followsCode_withoutBlanks (comment : Comment) (gap : List UInt8) :
    PlacedComment.followsCode ⟨comment, withoutBlanks gap⟩ =
      PlacedComment.followsCode ⟨comment, gap⟩ := by
  induction gap with
  | nil => rfl
  | cons byte gap inductionHypothesis =>
      cases isBlank : isLineBlank byte with
      | true =>
          rw [withoutBlanks_cons_of_blank isBlank, inductionHypothesis,
            Extent.followsCode_cons comment (ne_of_isLineBlank isBlank rfl),
            isBlankByte_of_isLineBlank isBlank, Bool.not_true, Bool.false_or]
      | false =>
          rw [withoutBlanks_cons_of_visible isBlank]
          by_cases ended : byte = lineFeed
          · rw [ended, Extent.followsCode_lineFeed, Extent.followsCode_lineFeed]
          · rw [Extent.followsCode_cons comment ended, Extent.followsCode_cons comment ended,
              inductionHypothesis]

theorem followsBlanks_withoutBlanks (comment : Comment) (gap : List UInt8) :
    PlacedComment.followsBlanks ⟨comment, withoutBlanks gap⟩ =
      PlacedComment.followsBlanks ⟨comment, gap⟩ := by
  induction gap with
  | nil => rfl
  | cons byte gap inductionHypothesis =>
      unfold PlacedComment.followsBlanks at *
      cases isBlank : isLineBlank byte with
      | true =>
          rw [withoutBlanks_cons_of_blank isBlank, List.all_cons,
            isBlankByte_of_isLineBlank isBlank, Bool.true_and, inductionHypothesis]
      | false =>
          rw [withoutBlanks_cons_of_visible isBlank, List.all_cons, List.all_cons,
            inductionHypothesis]

end

/-! ## Comments of padded sources -/

/-- Blanks of any kind at the end of a comment are no part of its text. -/
theorem text_commentOf_append {blanks : List Char}
    (allBlank : ∀ blank ∈ blanks, Text.isBlank blank = true) (start otherStart : Position)
    (content : List UInt8) :
    (PlacedComment.commentOf start (content ++ Utf8.bytes blanks)).text =
      (PlacedComment.commentOf otherStart content).text := by
  rw [PlacedComment.commentOf, Utf8.decodeLossy_append_bytes, Text.trimEnd_append_blanks allBlank]
  rfl

theorem bytes_of_isLineBlank {byte : UInt8} (isBlank : isLineBlank byte = true) :
    [byte] = String.utf8EncodeChar (Char.ofNat byte.toNat) ∧
      Text.isBlank (Char.ofNat byte.toNat) = true := by
  have isOne := isBlankByte_of_isLineBlank isBlank
  simp only [Text.isBlankByte, Bool.or_eq_true, beq_iff_eq] at isOne
  rcases isOne with (((rfl | rfl) | rfl) | rfl) | rfl <;> decide

theorem exists_blanks_of_forall {blanks : List UInt8}
    (allBlank : ∀ blank ∈ blanks, isLineBlank blank = true) :
    ∃ text, blanks = Utf8.bytes text ∧ ∀ blank ∈ text, Text.isBlank blank = true := by
  induction blanks with
  | nil => exact ⟨[], rfl, nofun⟩
  | cons byte rest inductionHypothesis =>
      rw [List.forall_mem_cons] at allBlank
      obtain ⟨text, rfl, textBlank⟩ := inductionHypothesis allBlank.2
      obtain ⟨encoded, isBlank⟩ := bytes_of_isLineBlank allBlank.1
      refine ⟨Char.ofNat byte.toNat :: text, ?_, List.forall_mem_cons.mpr ⟨isBlank, textBlank⟩⟩
      rw [Utf8.bytes_cons, ← encoded]
      rfl

/-- Padding inside a comment stands at the end of its lines, where a directive is not touched. -/
theorem directive?_commentOf_padded {behind content other : List UInt8}
    (form : CommentForm content behind) (padded : Padded behind content other)
    (start otherStart : Position) :
    (PlacedComment.commentOf start content).directive? =
      (PlacedComment.commentOf otherStart other).directive? := by
  cases form with
  | @line content behind oneLine ended =>
      have unbroken : lineFeed ∉ Segment.slash :: Segment.slash :: content := by
        rw [List.mem_cons, List.mem_cons, not_or, not_or]
        exact ⟨by decide, by decide, oneLine⟩
      obtain ⟨blanks, rfl, allBlank⟩ := padded.exists_blanks unbroken
      obtain ⟨text, rfl, textBlank⟩ := exists_blanks_of_forall allBlank
      rw [Comment.directive?, Comment.directive?, text_commentOf_append textBlank]
  | @block content behind ended =>
      obtain ⟨further, rfl, restPadded⟩ := padded.exists_of_cons (by decide)
      obtain ⟨others, rfl, -⟩ := restPadded.exists_of_cons (by decide)
      rw [PlacedComment.directive?_commentOf_block, PlacedComment.directive?_commentOf_block]

theorem gist_commentOf_padded {behind content other : List UInt8}
    (form : CommentForm content behind) (padded : Padded behind content other)
    {here there : Position} (aligned : Position.Aligned (content ++ behind) here there) :
    (PlacedComment.commentOf here content).gist = (PlacedComment.commentOf there other).gist := by
  obtain rfl : here = there := by
    cases form with
    | line _ _ => exact aligned.eq_of_inLine (by decide)
    | block _ => exact aligned.eq_of_inLine (by decide)
  exact Comment.gist_eq_iff.mpr
    ⟨rfl, (aligned.padded padded).line, directive?_commentOf_padded form padded here here⟩

theorem gist_placed {comment other : Comment} {gap otherGap : List UInt8}
    (same : comment.gist = other.gist) (sameGap : withoutBlanks gap = withoutBlanks otherGap) :
    PlacedComment.gist ⟨comment, gap⟩ = PlacedComment.gist ⟨other, otherGap⟩ := by
  refine PlacedComment.gist_eq_iff.mpr ⟨same, ?code, ?blanks⟩
  case code =>
    rw [← followsCode_withoutBlanks comment gap, sameGap, followsCode_withoutBlanks]
    rfl
  case blanks =>
    rw [← followsBlanks_withoutBlanks comment gap, sameGap, followsBlanks_withoutBlanks]
    rfl

theorem ofSegments_gist {segments others : List Segment} (padded : PaddedSegments segments others)
    {here there : Position}
    (aligned : Position.Aligned (segments.flatMap Segment.bytes) here there)
    {gap otherGap : List UInt8} (sameGap : withoutBlanks gap = withoutBlanks otherGap) :
    (PlacedComment.ofSegments here gap segments).map PlacedComment.gist =
      (PlacedComment.ofSegments there otherGap others).map PlacedComment.gist := by
  induction padded generalizing here there gap otherGap with
  | nil => rfl
  | code padded _ inductionHypothesis =>
      exact inductionHypothesis (aligned.padded padded)
        (withoutBlanks_reverse_append (withoutBlanks_padded padded) sameGap)
  | comment form padded _ inductionHypothesis =>
      rw [List.flatMap_cons] at aligned
      have sameFirst := gist_placed (gist_commentOf_padded form padded aligned) sameGap
      exact congrArg₂ List.cons sameFirst (inductionHypothesis (aligned.padded padded) rfl)
  | blank isBlank ended _ inductionHypothesis =>
      refine inductionHypothesis (aligned.blank isBlank ended) ?_
      rw [sameGap]
      exact (withoutBlanks_cons_of_blank isBlank _).symm

namespace CommentGroup

/-- Blanks at the ends of lines make no difference to what an index reads of a source. -/
theorem ofSource_gist {source other : List UInt8} (padded : Padded [] source other) :
    (ofSource source).map gist = (ofSource other).map gist :=
  ofPlaced_gist (ofSegments_gist (Segment.list_padded padded) ⟨rfl, Or.inr rfl⟩ rfl)

end CommentGroup

/-! ## Line ends with a carriage return -/

/-- A source with a carriage return put before every line feed. -/
def withCarriageReturns (source : List UInt8) : List UInt8 :=
  source.flatMap fun byte => if byte = lineFeed then [0x0D, lineFeed] else [byte]

/-- A carriage return before a line feed is padding. -/
theorem withCarriageReturns_padded (source : List UInt8) :
    Padded [] source (withCarriageReturns source) := by
  induction source with
  | nil => exact .nil
  | cons byte rest inductionHypothesis =>
      rw [withCarriageReturns, List.flatMap_cons]
      by_cases ended : byte = lineFeed
      · rw [if_pos ended, ended]
        exact .blank rfl (Or.inr rfl) (.same lineFeed inductionHypothesis)
      · rw [if_neg ended]
        exact .same byte inductionHypothesis

/-! ## Comments that come with a program -/

theorem map_eq_of_forall₂ {alpha beta : Type} {related : alpha → alpha → Prop}
    {items others : List alpha} (pairs : List.Forall₂ related items others) {read : alpha → beta}
    (same : ∀ item other, related item other → read item = read other) :
    items.map read = others.map read := by
  rw [← List.forall₂_eq_eq_eq, List.forall₂_map_left_iff, List.forall₂_map_right_iff]
  exact pairs.imp same

namespace Comment

/-- Two comments that differ by blanks at the ends of their texts and by the columns where they
end. -/
structure SameText (comment other : Comment) : Prop where
  start : comment.span.start = other.span.start
  lastLine : comment.span.finish.line = other.span.finish.line
  text : Text.trimEnd comment.text.toList = Text.trimEnd other.text.toList

theorem SameText.gist_eq {comment other : Comment} (same : comment.SameText other) :
    comment.gist = other.gist := by
  refine gist_eq_iff.mpr ⟨same.start, same.lastLine, ?_⟩
  rw [directive?, directive?, ← Directive.parse?_trimEnd, same.text, Directive.parse?_trimEnd]

end Comment

namespace CommentGroup

def SameTexts (group other : CommentGroup) : Prop :=
  List.Forall₂ Comment.SameText group.comments other.comments

theorem SameTexts.gist_eq {group other : CommentGroup} (same : group.SameTexts other) :
    group.gist = other.gist :=
  map_eq_of_forall₂ same fun _ _ => Comment.SameText.gist_eq

end CommentGroup

/-- Comments that come with a program and those read from a padded source are judged alike. -/
theorem SourceFile.directiveFor_readComments {groups : List CommentGroup}
    {source padded : List UInt8}
    (same : List.Forall₂ CommentGroup.SameTexts groups (CommentGroup.ofSource source))
    (isPadded : Padded [] source padded) {file : SourceFile} (unread : file.comments = none)
    {settings : Settings} (used : settings.useDirectives = true) {tree : FileTree}
    {root : Option String} (read : tree.read (locate file.path root) = .ok padded) (span : Span) :
    ({ file with comments := some groups }.readComments settings tree root).1.directiveFor span =
      (file.readComments settings tree root).1.directiveFor span := by
  have sameGists : groups.map CommentGroup.gist =
      (CommentGroup.ofSource padded).map CommentGroup.gist :=
    (map_eq_of_forall₂ same fun _ _ => CommentGroup.SameTexts.gist_eq).trans
      (CommentGroup.ofSource_gist isPadded)
  have fromSource : (file.readComments settings tree root).1 =
      .ofGroups (CommentGroup.ofSource padded) := by
    simp only [readComments, unread, used, read, if_true]
  rw [fromSource]
  exact CommentGroup.directiveFor_eq_of_gist sameGists span

/-- A comment of a source gives the directive that its untrimmed text gives, with any blanks behind
it. -/
theorem directive?_commentOf_append {blanks : List Char}
    (allBlank : ∀ blank ∈ blanks, Text.isBlank blank = true) (start : Position)
    (content : List UInt8) :
    (PlacedComment.commentOf start (content ++ Utf8.bytes blanks)).directive? =
      Directive.parse? (String.ofList (Utf8.decodeLossy content)) := by
  have trimmed := Directive.parse?_trimEnd (String.ofList (Utf8.decodeLossy content))
  rw [String.toList_ofList] at trimmed
  rw [Comment.directive?, text_commentOf_append allBlank start start]
  exact trimmed

/-- A directive is read from just the texts of one form, and these are the texts where the first
match of the pattern captures its name. Blanks at the end of a text make no difference, nor do blanks
at the ends of lines, so it is all the same whether comments come with a program or are read from a
source. -/
theorem directives_by_form_whatever_trailingBlanks :
    (∀ (text : String) (directive : Directive),
      (Directive.parse? text = some directive ↔
        (directive = .ignore ∨ directive = .enforce) ∧
          ∃ rest, text.toList = "//exhaustruct:".toList ++ directive.text.toList ++ rest ∧
            (rest = [] ∨
              ∃ blank further, rest = blank :: further ∧ Text.isBlank blank = true)) ∧
      (Directive.parse? text = some directive ↔
        ∃ expr, Regex.Expr.ofPattern? Directive.pattern = some expr ∧
          expr.FirstCaptures text.toList 1 directive.text.toList)) ∧
    (∀ text : String,
      Directive.parse? (String.ofList (Text.trimEnd text.toList)) = Directive.parse? text) ∧
    (∀ (start : Position) (content : List UInt8) (blanks : List Char),
      (∀ blank ∈ blanks, Text.isBlank blank = true) →
      (PlacedComment.commentOf start (content ++ Utf8.bytes blanks)).directive? =
        Directive.parse? (String.ofList (Utf8.decodeLossy content))) ∧
    (∀ source, Padded [] source (withCarriageReturns source)) ∧
    ∀ (source padded : List UInt8), Padded [] source padded →
      ∀ groups, List.Forall₂ CommentGroup.SameTexts groups (CommentGroup.ofSource source) →
      ∀ (file : SourceFile) (settings : Settings) (tree : FileTree) (root : Option String),
        file.comments = none → settings.useDirectives = true →
        tree.read (SourceFile.locate file.path root) = .ok padded →
        ∀ span,
          ({ file with comments := some groups }.readComments settings tree root).1.directiveFor
              span =
            (file.readComments settings tree root).1.directiveFor span :=
  ⟨fun _ _ => ⟨Directive.parse?_eq_some_iff_isForm, Directive.parse?_eq_some_iff_firstCaptures⟩,
    Directive.parse?_trimEnd,
    fun start content _ allBlank => directive?_commentOf_append allBlank start content,
    withCarriageReturns_padded,
    fun _ _ isPadded _ same _ _ _ _ unread used read =>
      SourceFile.directiveFor_readComments same isPadded unread used read⟩

/-- A directive on a line of its own above a literal. -/
def ignoredLiteral : List UInt8 :=
  Utf8.encode "package p\n//exhaustruct:ignore\nvar x = T{}\n"

/-- Its comment, with what stands behind it in a source whose lines end with a carriage return. -/
def untrimmedGroup : CommentGroup :=
  ⟨[⟨"//exhaustruct:ignore \r", .onLine 2 1 23⟩]⟩

def ignoredFile : SourceFile := ⟨"p.go", none, []⟩

def ignoredTree : FileTree := ⟨.folder [("p.go", .file (withCarriageReturns ignoredLiteral))], []⟩

/-- A source with carriage returns, its comments as they came with a program, and a comment behind
which a separator of lines stands. -/
theorem directiveFor_ignoredLiteral :
    List.Forall₂ CommentGroup.SameTexts [untrimmedGroup] (CommentGroup.ofSource ignoredLiteral) ∧
      ignoredTree.read (SourceFile.locate ignoredFile.path none) =
        .ok (withCarriageReturns ignoredLiteral) ∧
      ({ ignoredFile with comments := some [untrimmedGroup] }.readComments .standard ignoredTree
          none).1.directiveFor (.onLine 3 9 12) = .ignore ∧
      (ignoredFile.readComments .standard ignoredTree none).1.directiveFor (.onLine 3 9 12) =
        .ignore ∧
      (PlacedComment.commentOf ⟨2, 1⟩
        (Utf8.encode "//exhaustruct:ignore" ++ Utf8.bytes ['\u2028'])).directive? =
          some .ignore := by
  obtain ⟨-, -, trailed, padded, alike⟩ := directives_by_form_whatever_trailingBlanks
  have same : List.Forall₂ CommentGroup.SameTexts [untrimmedGroup]
      (CommentGroup.ofSource ignoredLiteral) := by
    have found : CommentGroup.ofSource ignoredLiteral =
        [⟨[⟨"//exhaustruct:ignore", .onLine 2 1 21⟩]⟩] := by
      decide +kernel
    rw [found]
    exact .cons (.cons ⟨rfl, rfl, by decide +kernel⟩ .nil) .nil
  have read : ignoredTree.read (SourceFile.locate ignoredFile.path none) =
      .ok (withCarriageReturns ignoredLiteral) := by
    rfl
  have judged := alike ignoredLiteral _ (padded ignoredLiteral) _ same ignoredFile .standard
    ignoredTree none rfl rfl read (.onLine 3 9 12)
  have embedded : ({ ignoredFile with comments := some [untrimmedGroup] }.readComments .standard
      ignoredTree none).1.directiveFor (.onLine 3 9 12) = .ignore := by
    decide +kernel
  have separated := trailed ⟨2, 1⟩ (Utf8.encode "//exhaustruct:ignore") ['\u2028']
    (List.forall_mem_singleton.mpr rfl)
  refine ⟨same, read, embedded, judged ▸ embedded, ?_⟩
  rw [separated]
  decide +kernel

end LiteralAudit
