import LiteralAudit.Proofs.Regex.Compilation
import LiteralAudit.Proofs.Source.CommentForm
import LiteralAudit.Regex.Lowering

/-!
# The form of directives

A directive is read from exactly the texts of one form: the marker, the name, and then the end of the
text or a blank and anything. This is what a pattern with one group captures in its first match. A
blank ends the name as the end of the text does, so blanks at the end of a comment make no
difference.
-/

namespace LiteralAudit

/-! ## Blanks at the end of a text -/

namespace Text

/-- A text is what is left without the blanks at its end, and these blanks. -/
theorem exists_eq_trimEnd_append (text : List Char) :
    ∃ blanks, text = trimEnd text ++ blanks ∧ ∀ blank ∈ blanks, isBlank blank = true := by
  refine ⟨(text.reverse.takeWhile isBlank).reverse, ?_, ?_⟩
  · rw [trimEnd, ← List.reverse_append, List.takeWhile_append_dropWhile, List.reverse_reverse]
  · intro blank member
    exact List.all_eq_true.mp List.all_takeWhile blank (List.mem_reverse.mp member)

theorem trimEnd_append_blanks {blanks : List Char} (allBlank : ∀ blank ∈ blanks, isBlank blank = true)
    (text : List Char) : trimEnd (text ++ blanks) = trimEnd text := by
  have reversed : ∀ blank ∈ blanks.reverse, isBlank blank = true :=
    fun blank member => allBlank blank (List.mem_reverse.mp member)
  rw [trimEnd, List.reverse_append, List.dropWhile_append_of_pos reversed, ← trimEnd]

/-- What starts with characters that are no blanks keeps them. -/
theorem trimEnd_append {visible : List Char}
    (noBlank : ∀ character ∈ visible, isBlank character = false) (text : List Char) :
    trimEnd (visible ++ text) = visible ++ trimEnd text := by
  induction visible with
  | nil => rfl
  | cons character further inductionHypothesis =>
      rw [List.forall_mem_cons] at noBlank
      rw [List.cons_append, trimEnd_cons noBlank.1, inductionHypothesis noBlank.2,
        List.cons_append]

/-- The class of blanks that patterns know holds the same characters. -/
theorem contains_whiteSpace (character : Char) :
    CharProperty.whiteSpace.contains character.toNat = isBlank character := by
  have ranges : CharProperty.whiteSpace.ranges = [⟨0x09, 0x0D⟩, ⟨0x20, 0x20⟩, ⟨0x85, 0x85⟩,
      ⟨0xA0, 0xA0⟩, ⟨0x1680, 0x1680⟩, ⟨0x2000, 0x200A⟩, ⟨0x2028, 0x2029⟩, ⟨0x202F, 0x202F⟩,
      ⟨0x205F, 0x205F⟩, ⟨0x3000, 0x3000⟩] := by
    decide +kernel
  rw [Bool.eq_iff_iff, CharSet.contains, ranges, isBlank]
  simp [CharRange.contains]
  omega

end Text
namespace Directive

/-! ## The form of a directive -/

/-- A name has come to its end: nothing stands behind it, or a blank and anything. -/
def NameEnded (rest : List Char) : Prop :=
  rest = [] ∨ ∃ blank further, rest = blank :: further ∧ Text.isBlank blank = true

/-- What stands before the end of a name. -/
def opening (directive : Directive) : List Char :=
  marker ++ directive.text.toList

/-- A text has the form of a directive that can be written. -/
def IsForm (directive : Directive) (text : List Char) : Prop :=
  (directive = ignore ∨ directive = enforce) ∧
    ∃ rest, text = directive.opening ++ rest ∧ NameEnded rest

/-- No name starts another one: what is behind the name is known from the text. -/
theorem eq_of_text_append_eq {first second : Directive}
    (isFirst : first = ignore ∨ first = enforce) (isSecond : second = ignore ∨ second = enforce)
    {rest others : List Char}
    (same : first.text.toList ++ rest = second.text.toList ++ others) :
    first = second ∧ rest = others := by
  have sameStart := congrArg List.head? same
  have sameDirective : first = second := by
    rcases isFirst with rfl | rfl
    · rcases isSecond with rfl | rfl
      · rfl
      · cases sameStart
    · rcases isSecond with rfl | rfl
      · cases sameStart
      · rfl
  subst sameDirective
  exact ⟨rfl, List.append_cancel_left same⟩

theorem text_injective : Function.Injective text := by
  intro first second same
  cases first <;> cases second <;> first | rfl | exact absurd same (by decide)

theorem endsName_iff {rest : List Char} : endsName rest = true ↔ NameEnded rest := by
  cases rest with
  | nil => simp [endsName, NameEnded]
  | cons next further => simp [endsName, NameEnded]

/-- When no two directives that can be written pass a test, the first one that does is the only
one. -/
theorem find?_written_eq_some_iff {test : Directive → Bool} {directive : Directive}
    (apart : test ignore = true → test enforce = false) :
    written.find? test = some directive ↔
      (directive = ignore ∨ directive = enforce) ∧ test directive = true := by
  cases ignored : test ignore with
  | true =>
      rw [written, List.find?_cons_of_pos ignored]
      constructor
      · rintro ⟨⟩
        exact ⟨Or.inl rfl, ignored⟩
      · rintro ⟨rfl | rfl, passed⟩
        · rfl
        · rw [apart ignored] at passed
          cases passed
  | false =>
      rw [written, List.find?_cons_of_neg (by simp [ignored]), List.find?_singleton]
      cases directive with
      | unspecified => simp
      | ignore => simp [ignored]
      | enforce => simp

theorem named?_eq_find? (rest : List Char) :
    named? rest =
      written.find? fun directive => (directive.text.toList.isPrefixOf? rest).any endsName := by
  refine congrArg (List.find? · written) (funext fun directive => ?_)
  cases directive.text.toList.isPrefixOf? rest with
  | none => rfl
  | some after => rfl

/-- A name counts where a blank or the end of the text follows it. -/
theorem named?_eq_some_iff {directive : Directive} {rest : List Char} :
    named? rest = some directive ↔
      (directive = ignore ∨ directive = enforce) ∧
        ∃ after, rest = directive.text.toList ++ after ∧ NameEnded after := by
  have named : ∀ other : Directive, (other.text.toList.isPrefixOf? rest).any endsName = true ↔
      ∃ after, rest = other.text.toList ++ after ∧ NameEnded after := by
    intro other
    simp only [Option.any_eq_true, List.isPrefixOf?_eq_some_iff_append_eq, endsName_iff,
      eq_comm (a := rest)]
  rw [named?_eq_find?, find?_written_eq_some_iff]
  · exact and_congr_right fun _ => named directive
  · intro isIgnore
    rw [Bool.eq_false_iff]
    intro isEnforce
    obtain ⟨after, found, -⟩ := (named ignore).mp isIgnore
    obtain ⟨others, same, -⟩ := (named enforce).mp isEnforce
    cases (eq_of_text_append_eq (Or.inl rfl) (Or.inr rfl) (found.symm.trans same)).1

/-- A directive is read from exactly the texts that have its form. -/
theorem parse?_eq_some_iff_isForm {text : String} {directive : Directive} :
    parse? text = some directive ↔ directive.IsForm text.toList := by
  rw [parse?, Option.bind_eq_some_iff]
  simp only [List.isPrefixOf?_eq_some_iff_append_eq, named?_eq_some_iff]
  constructor
  · rintro ⟨_, whole, isWritten, rest, rfl, ended⟩
    exact ⟨isWritten, rest, by rw [← whole, opening, List.append_assoc], ended⟩
  · rintro ⟨isWritten, rest, whole, ended⟩
    refine ⟨directive.text.toList ++ rest, ?_, isWritten, rest, rfl, ended⟩
    rw [whole, opening, List.append_assoc]

/-! ## Blanks behind a directive -/

theorem nameEnded_trimEnd_iff {rest : List Char} : NameEnded (Text.trimEnd rest) ↔ NameEnded rest := by
  obtain ⟨blanks, whole, allBlank⟩ := Text.exists_eq_trimEnd_append rest
  constructor
  · rintro (none | ⟨blank, further, same, isBlank⟩)
    · rw [whole, none, List.nil_append]
      cases blanks with
      | nil => exact Or.inl rfl
      | cons blank further => exact Or.inr ⟨blank, further, rfl, allBlank blank List.mem_cons_self⟩
    · rw [whole, same]
      exact Or.inr ⟨blank, further ++ blanks, rfl, isBlank⟩
  · rintro (rfl | ⟨blank, further, rfl, isBlank⟩)
    · exact Or.inl rfl
    · -- The first character is kept, or all of them are blanks.
      cases left : Text.trimEnd (blank :: further) with
      | nil => exact Or.inl rfl
      | cons first others =>
          rw [left] at whole
          obtain ⟨rfl, -⟩ := List.cons.inj whole
          exact Or.inr ⟨blank, others, rfl, isBlank⟩

theorem trimEnd_opening_append {directive : Directive}
    (isWritten : directive = ignore ∨ directive = enforce) (rest : List Char) :
    Text.trimEnd (directive.opening ++ rest) = directive.opening ++ Text.trimEnd rest := by
  have visible : directive.opening.all (!Text.isBlank ·) = true := by
    rcases isWritten with rfl | rfl
    · decide
    · decide
  refine Text.trimEnd_append (fun character member => ?_) rest
  simpa using List.all_eq_true.mp visible character member

/-- Blanks at the end do not touch the form. -/
theorem isForm_trimEnd_iff {directive : Directive} {text : List Char} :
    directive.IsForm (Text.trimEnd text) ↔ directive.IsForm text := by
  obtain ⟨blanks, whole, allBlank⟩ := Text.exists_eq_trimEnd_append text
  constructor
  · rintro ⟨isWritten, rest, same, ended⟩
    refine ⟨isWritten, rest ++ blanks, by rw [whole, same, List.append_assoc], ?_⟩
    rw [← nameEnded_trimEnd_iff, Text.trimEnd_append_blanks allBlank, nameEnded_trimEnd_iff]
    exact ended
  · rintro ⟨isWritten, rest, rfl, ended⟩
    exact ⟨isWritten, Text.trimEnd rest, trimEnd_opening_append isWritten rest,
      nameEnded_trimEnd_iff.mpr ended⟩

/-- Blanks at the end of a text make no difference to the directive in it. -/
theorem parse?_trimEnd (text : String) :
    parse? (String.ofList (Text.trimEnd text.toList)) = parse? text := by
  apply Option.ext
  intro directive
  rw [parse?_eq_some_iff_isForm, parse?_eq_some_iff_isForm, String.toList_ofList,
    isForm_trimEnd_iff]

/-! ## The pattern of a directive -/

/-- Finds a directive in the text of a comment. The group is the name. -/
def pattern : String := "^//exhaustruct:(ignore|enforce)(?:\\s|$)"

def codes (text : List Char) : List Nat := text.map Char.toNat

open Regex in
def patternExpr : Expr :=
  .concat [.look .textStart, .text (codes marker),
    .capture 1 (.alternation [.text (codes ignore.text.toList), .text (codes enforce.text.toList)]),
    .alternation [.set .characters CharProperty.whiteSpace, .look .textEnd]]

/-- The pattern is valid, and this is what it means. -/
theorem ofPattern?_pattern : Regex.Expr.ofPattern? pattern = some patternExpr := by
  -- The parts of the pattern first, since their meaning needs the table of blanks.
  have parts : Regex.Syntax.ofPattern? pattern = some (.concat
      (.primitive (.anchor .lineStart) ::
        (marker.map fun character => .primitive (.literal ⟨character.toNat, false⟩)) ++
        [.capture 1 (.alternation
          [.concat (ignore.text.toList.map fun character =>
              .primitive (.literal ⟨character.toNat, false⟩)),
            .concat (enforce.text.toList.map fun character =>
              .primitive (.literal ⟨character.toNat, false⟩))]),
        .group [] (.alternation
          [.primitive (.letterClass .space false), .primitive (.anchor .lineEnd)])])) := rfl
  rw [Regex.Expr.ofPattern?, parts]
  rfl

section

open Regex

variable {text : List Char} {start finish : Nat} {groups : List Captured}

theorem codes_length (symbols : List Char) : (codes symbols).length = symbols.length :=
  List.length_map _

theorem codes_prefix_iff {symbols : List Char} :
    codes symbols <+: (codes text).drop start ↔ ∃ further, text.drop start = symbols ++ further := by
  have injective : Function.Injective Char.toNat := fun _ _ same => Char.toNat_inj.mp same
  rw [codes, codes, ← List.map_drop, List.prefix_map_iff_of_injective injective]
  exact ⟨fun ⟨further, same⟩ => ⟨further, same.symm⟩, fun ⟨further, same⟩ => ⟨further, same.symm⟩⟩

theorem matches_name_iff :
    (Expr.capture 1 (.alternation
        [.text (codes ignore.text.toList), .text (codes enforce.text.toList)])).Matches
        (codes text) start finish groups ↔
      ∃ directive further, (directive = ignore ∨ directive = enforce) ∧
        text.drop start = directive.text.toList ++ further ∧
        finish = start + directive.text.toList.length ∧ groups = [⟨1, start, finish⟩] := by
  constructor
  · intro matched
    cases matched with
    | capture inner =>
        cases inner with
        | branch member chosen =>
            rw [List.mem_cons, List.mem_singleton] at member
            rcases member with rfl | rfl
            · cases chosen with
              | text found =>
                  obtain ⟨further, same⟩ := codes_prefix_iff.mp found
                  exact ⟨ignore, further, Or.inl rfl, same, rfl, rfl⟩
            · cases chosen with
              | text found =>
                  obtain ⟨further, same⟩ := codes_prefix_iff.mp found
                  exact ⟨enforce, further, Or.inr rfl, same, rfl, rfl⟩
  · rintro ⟨directive, further, isWritten, same, rfl, rfl⟩
    have chosen := Expr.Matches.text (codes_prefix_iff.mpr ⟨further, same⟩)
    rw [codes_length] at chosen
    have member : Expr.text (codes directive.text.toList) ∈
        [.text (codes ignore.text.toList), .text (codes enforce.text.toList)] := by
      rcases isWritten with rfl | rfl
      · exact List.mem_cons_self
      · exact List.mem_cons_of_mem _ List.mem_cons_self
    exact .capture (.branch member chosen)

/-- The end of a name takes up one blank, or nothing at the end of the text. -/
theorem matches_nameEnd_iff :
    (Expr.alternation [.set .characters CharProperty.whiteSpace, .look .textEnd]).Matches
        (codes text) start finish groups ↔
      NameEnded (text.drop start) ∧ finish = start + ((text.drop start).take 1).length ∧
        groups = [] := by
  have head : (codes text)[start]? = (text.drop start).head?.map Char.toNat := by
    rw [codes, List.getElem?_map, List.head?_drop]
  constructor
  · intro matched
    cases matched with
    | branch member chosen =>
        rw [List.mem_cons, List.mem_singleton] at member
        rcases member with rfl | rfl
        · cases chosen with
          | set found isBlank =>
              rw [head] at found
              cases rest : text.drop start with
              | nil => simp [rest] at found
              | cons blank further =>
                  rw [rest] at found
                  cases found
                  rw [Text.contains_whiteSpace] at isBlank
                  exact ⟨Or.inr ⟨blank, further, rfl, isBlank⟩, rfl, rfl⟩
        · cases chosen with
          | look ended =>
              rw [head] at ended
              cases rest : text.drop start with
              | nil => exact ⟨Or.inl rfl, rfl, rfl⟩
              | cons next further => simp [rest, Machine.holds] at ended
  · rintro ⟨none | ⟨blank, further, same, isBlank⟩, rfl, rfl⟩
    · rw [none] at head ⊢
      exact .branch (List.mem_cons_of_mem _ List.mem_cons_self) (.look (by rw [head]; rfl))
    · rw [same] at head ⊢
      refine .branch List.mem_cons_self (.set head ?_)
      rw [Text.contains_whiteSpace, isBlank]

theorem matches_lineStart_iff :
    (Expr.look .textStart).Matches (codes text) start finish groups ↔
      (codes text).take start = [] ∧ finish = start ∧ groups = [] := by
  have isStart : Machine.holds .textStart ((codes text).take start).getLast? (codes text)[start]? =
      true ↔ (codes text).take start = [] := by
    rw [← List.getLast?_eq_none_iff, ← Option.isNone_iff_eq_none]
    rfl
  constructor
  · intro matched
    cases matched with
    | look holds => exact ⟨isStart.mp holds, rfl, rfl⟩
  · rintro ⟨atStart, rfl, rfl⟩
    exact .look (isStart.mpr atStart)

theorem matches_marker_iff :
    (Expr.text (codes marker)).Matches (codes text) start finish groups ↔
      (∃ further, text.drop start = marker ++ further) ∧ finish = start + marker.length ∧
        groups = [] := by
  constructor
  · intro matched
    cases matched with
    | text found => exact ⟨codes_prefix_iff.mp found, by rw [codes_length], rfl⟩
  · rintro ⟨found, rfl, rfl⟩
    rw [← codes_length]
    exact .text (codes_prefix_iff.mpr found)

/-- A match of the pattern starts where the text does, and its group is the name. -/
theorem matches_patternExpr_iff :
    patternExpr.Matches (codes text) start finish groups ↔
      start = 0 ∧ ∃ directive rest, (directive = ignore ∨ directive = enforce) ∧
        text = directive.opening ++ rest ∧ NameEnded rest ∧
        finish = directive.opening.length + (rest.take 1).length ∧
        groups = [⟨1, marker.length, directive.opening.length⟩] := by
  constructor
  · rw [patternExpr]
    simp only [Expr.matches_concat_cons_iff, Expr.matches_concat_nil_iff, matches_lineStart_iff,
      matches_marker_iff, matches_name_iff, matches_nameEnd_iff]
    rintro ⟨place, _, _, ⟨atStart, rfl, rfl⟩, ⟨_, _, _, ⟨⟨behind, same⟩, rfl, rfl⟩, rest⟩, rfl⟩
    obtain ⟨⟨_, _, _, ⟨directive, rest, isWritten, named, rfl, rfl⟩, last⟩, rfl⟩ := rest
    obtain ⟨⟨_, _, _, ⟨ended, rfl, rfl⟩, ⟨rfl, rfl⟩, rfl⟩, rfl⟩ := last
    -- The marker stands at the start, so the text is not empty there.
    have isFirst : place = 0 := by
      rcases List.take_eq_nil_iff.mp atStart with rfl | none
      · rfl
      · rw [List.map_eq_nil_iff.mp none, List.drop_nil] at same
        cases same
    subst isFirst
    rw [List.drop_zero] at same
    rw [Nat.zero_add] at named ended ⊢
    rw [same, List.drop_left] at named
    subst named same
    rw [← List.append_assoc, ← List.length_append, ← opening, List.drop_left] at ended ⊢
    exact ⟨rfl, directive, rest, isWritten, rfl, ended, rfl, rfl⟩
  · rintro ⟨rfl, directive, rest, isWritten, rfl, ended, rfl, rfl⟩
    have behindMarker : (directive.opening ++ rest).drop marker.length =
        directive.text.toList ++ rest := by
      rw [opening, List.append_assoc, List.drop_left]
    have behindName : (directive.opening ++ rest).drop directive.opening.length = rest :=
      List.drop_left
    have lineStart := matches_lineStart_iff.mpr
      ⟨(codes (directive.opening ++ rest)).take_zero, rfl, rfl⟩
    have found := matches_marker_iff.mpr
      ⟨⟨directive.text.toList ++ rest, List.append_assoc marker _ rest⟩, (Nat.zero_add _).symm, rfl⟩
    have named := matches_name_iff.mpr
      ⟨directive, rest, isWritten, behindMarker, List.length_append, rfl⟩
    have nameEnd := matches_nameEnd_iff.mpr ⟨by rwa [behindName], rfl, rfl⟩
    rw [behindName] at nameEnd
    exact .part lineStart (.part found (.part named (.part nameEnd (.done _))))

theorem piece_name (directive : Directive) (rest : List Char) :
    (Captured.mk 1 marker.length directive.opening.length).piece (directive.opening ++ rest) =
      directive.text.toList := by
  rw [Captured.piece, List.take_left, opening, List.drop_left]

/-- A directive is read from just the texts where the first match of the pattern captures its
name. -/
theorem parse?_eq_some_iff_firstCaptures {text : String} {directive : Directive} :
    parse? text = some directive ↔ ∃ expr, Expr.ofPattern? pattern = some expr ∧
      expr.FirstCaptures text.toList 1 directive.text.toList := by
  simp only [ofPattern?_pattern, Option.some.injEq, exists_eq_left']
  rw [parse?_eq_some_iff_isForm]
  constructor
  · rintro ⟨isWritten, rest, whole, ended⟩
    have matched := matches_patternExpr_iff.mpr
      ⟨rfl, directive, rest, isWritten, whole, ended, rfl, rfl⟩
    obtain ⟨finish, found⟩ :=
      (Machine.exists_matchesFrom_iff (Nat.zero_le _)).mpr ⟨_, _, matched⟩
    -- What backtracking finds is a match too, and it can capture no other name.
    obtain ⟨groups, first⟩ := Machine.matchesBetween_of_matchesFrom found
    obtain ⟨-, other, others, otherWritten, same, -, -, rfl⟩ := matches_patternExpr_iff.mp first
    rw [whole, opening, opening, List.append_assoc, List.append_assoc] at same
    obtain ⟨rfl, rfl⟩ :=
      eq_of_text_append_eq isWritten otherWritten (List.append_cancel_left same)
    refine ⟨0, finish, _, _, ⟨Nat.zero_le _, found, nofun⟩, first, rfl, ?_⟩
    rw [whole, piece_name]
  · rintro ⟨start, finish, groups, captured, -, matched, last, piece⟩
    obtain ⟨rfl, other, rest, isWritten, whole, ended, -, rfl⟩ := matches_patternExpr_iff.mp matched
    cases last
    rw [whole, piece_name, String.toList_inj] at piece
    obtain rfl := text_injective piece
    exact ⟨isWritten, rest, whole, ended⟩

end

end Directive

end LiteralAudit
