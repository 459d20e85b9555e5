import LiteralAudit.Record.Tag
import Mathlib.Data.List.TakeWhile

/-!
# Tags are written and read

A tag is written from named values: before each pair and at the end stand any number of blanks, and
in a value every quote and every backslash has a backslash before it. The names are found by their
characters, the end of a value by its backslashes, and the value itself by another pass over what
stands there. All three agree for every value, so that a written tag gives back its pairs, of which
the first one of a name counts.
-/

namespace LiteralAudit.Tag

/-! ## Pair after pair -/

/-- A character that is neither the last one nor takes the next one along is no backslash. -/
theorem noEscape_of_alone {character : Char} {rest : List Char}
    (notLast : character = '\\' → rest = [] → False)
    (notPaired : ∀ escaped further, character = '\\' → rest = escaped :: further → False) :
    character ≠ '\\' := by
  intro isEscape
  cases rest with
  | nil => exact notLast isEscape rfl
  | cons escaped further => exact notPaired escaped further isEscape rfl

theorem splitValue?_join {text value after : List Char}
    (split : splitValue? text = some (value, after)) :
    text = value ++ '"' :: after := by
  fun_induction splitValue? text generalizing value with
  | case1 => cases split
  | case2 => cases split
  | case3 rest =>
      obtain ⟨rfl, rfl⟩ := Prod.mk.inj (Option.some.inj split)
      rfl
  | case4 escaped rest inductionHypothesis =>
      obtain ⟨⟨inner, behind⟩, found, same⟩ := Option.map_eq_some_iff.mp split
      obtain ⟨rfl, rfl⟩ := Prod.mk.inj same
      rw [inductionHypothesis found]
      rfl
  | case5 character rest _ _ _ inductionHypothesis =>
      obtain ⟨⟨inner, behind⟩, found, same⟩ := Option.map_eq_some_iff.mp split
      obtain ⟨rfl, rfl⟩ := Prod.mk.inj same
      rw [inductionHypothesis found]
      rfl

theorem endsName_eq_false_iff {character : Char} :
    endsName character = false ↔
      ' ' < character ∧ character ≠ ':' ∧ character ≠ '"' ∧ character ≠ '\x7f' := by
  simp [endsName, and_assoc]

theorem exists_eq_replicate_append (tag : List Char) :
    ∃ gap, tag = List.replicate gap ' ' ++ tag.dropWhile (· == ' ') := by
  refine ⟨(tag.takeWhile (· == ' ')).length, ?_⟩
  have blanks : ∀ character ∈ tag.takeWhile (· == ' '), character = ' ' := by
    intro character member
    have passed := List.mem_takeWhile_imp (p := (· == ' ')) member
    simpa using passed
  rw [← List.eq_replicate_of_mem blanks, List.takeWhile_append_dropWhile]

/-- A tag starts with a pair when, behind any blanks, stand a name, a colon, a quote and a value
that ends. -/
theorem nextPair?_eq_some_iff {tag rest : List Char} {pair : TagPair} :
    nextPair? tag = some (pair, rest) ↔
      ∃ gap value, tag = List.replicate gap ' ' ++ (pair.name ++ ':' :: '"' :: value) ∧
        pair.name ≠ [] ∧ (∀ character ∈ pair.name, endsName character = false) ∧
        splitValue? value = some (pair.written, rest) := by
  constructor
  · intro found
    obtain ⟨gap, trimmed⟩ := exists_eq_replicate_append tag
    have named := List.takeWhile_append_dropWhile (p := (!endsName ·))
      (l := tag.dropWhile (· == ' '))
    have name : ∀ character ∈ (tag.dropWhile (· == ' ')).takeWhile (!endsName ·),
        endsName character = false := by
      intro character member
      have passed := List.mem_takeWhile_imp (p := (!endsName ·)) member
      simpa using passed
    unfold nextPair? at found
    dsimp only at found
    split at found
    · next first further value nameFound behindName =>
        obtain ⟨⟨written, after⟩, split, same⟩ := Option.map_eq_some_iff.mp found
        obtain ⟨rfl, rfl⟩ := Prod.mk.inj same
        rw [behindName] at named
        refine ⟨gap, value, ?_, ?_, name, split⟩
        · rw [named]
          exact trimmed
        · rw [nameFound]
          exact List.cons_ne_nil first further
    · cases found
  · rintro ⟨gap, value, rfl, filled, name, split⟩
    have blanks : ∀ character ∈ List.replicate gap ' ', (character == ' ') = true := by
      intro character member
      exact beq_iff_eq.mpr (List.eq_of_mem_replicate member)
    have inName : ∀ character ∈ pair.name, (!endsName character) = true := by
      intro character member
      rw [name character member, Bool.not_false]
    have trimmed : (pair.name ++ ':' :: '"' :: value).dropWhile (· == ' ') =
        pair.name ++ ':' :: '"' :: value := by
      obtain ⟨first, further, split⟩ := List.exists_cons_of_ne_nil filled
      have visible := (endsName_eq_false_iff.mp (name first (by simp [split]))).1
      have notBlank : first ≠ ' ' := by
        rintro rfl
        exact absurd visible (by decide)
      rw [split, List.cons_append, List.dropWhile_cons_of_neg (by simpa using notBlank)]
    have colon : endsName ':' = true := rfl
    obtain ⟨found, written⟩ := pair
    obtain ⟨first, further, rfl⟩ := List.exists_cons_of_ne_nil filled
    unfold nextPair?
    rw [List.dropWhile_append_of_pos blanks, trimmed]
    dsimp only
    rw [List.takeWhile_append_of_pos inName, List.dropWhile_append_of_pos inName]
    simp [colon, split]

/-- Each pair shortens the rest, so the bound on pairs is no limit. -/
theorem length_of_nextPair? {tag rest : List Char} {pair : TagPair}
    (found : nextPair? tag = some (pair, rest)) :
    rest.length < tag.length := by
  obtain ⟨gap, value, rfl, -, -, split⟩ := nextPair?_eq_some_iff.mp found
  rw [splitValue?_join split]
  simp only [List.length_append, List.length_cons]
  omega

/-- A greater bound finds no more pairs. -/
theorem pairsWithin_eq {tag : List Char} {bound other : Nat} (fits : tag.length ≤ bound)
    (otherFits : tag.length ≤ other) :
    pairsWithin bound tag = pairsWithin other tag := by
  induction bound generalizing tag other with
  | zero =>
      obtain rfl := List.eq_nil_of_length_eq_zero (Nat.le_zero.mp fits)
      cases other <;> rfl
  | succ bound inductionHypothesis =>
      cases other with
      | zero =>
          obtain rfl := List.eq_nil_of_length_eq_zero (Nat.le_zero.mp otherFits)
          rfl
      | succ other =>
          rw [pairsWithin, pairsWithin]
          cases found : nextPair? tag with
          | none => rfl
          | some next =>
              have shorter := length_of_nextPair? found
              have restFits : next.2.length ≤ bound := by omega
              have restOtherFits : next.2.length ≤ other := by omega
              dsimp only
              rw [inductionHypothesis restFits restOtherFits]

theorem pairs_eq_nil {tag : List Char} (found : nextPair? tag = none) : pairs tag = [] := by
  cases tag with
  | nil => rfl
  | cons first further => rw [pairs, List.length_cons, pairsWithin, found]

theorem pairs_eq_cons {tag rest : List Char} {pair : TagPair}
    (found : nextPair? tag = some (pair, rest)) :
    pairs tag = pair :: pairs rest := by
  have shorter := length_of_nextPair? found
  obtain ⟨bound, length⟩ := Nat.exists_eq_succ_of_ne_zero (Nat.ne_zero_of_lt shorter)
  rw [pairs, length, pairsWithin, found]
  dsimp only
  rw [pairsWithin_eq (by omega) (Nat.le_refl _), ← pairs]

/-! ## Written values -/

/-- A character of a value as it is written between quotes. -/
def escape (character : Char) : List Char :=
  if character = '\\' ∨ character = '"' then ['\\', character] else [character]

def write (value : String) : List Char :=
  value.toList.flatMap escape

theorem splitValue?_escape_append (character : Char) (rest : List Char) :
    splitValue? (escape character ++ rest) =
      (splitValue? rest).map fun (value, after) => (escape character ++ value, after) := by
  by_cases special : character = '\\' ∨ character = '"'
  · rw [escape, if_pos special]
    rfl
  · rw [escape, if_neg special]
    obtain ⟨noEscape, noQuote⟩ := not_or.mp special
    simp [splitValue?, noEscape]

theorem splitValue?_write_append (value : String) (rest : List Char) :
    splitValue? (write value ++ '"' :: rest) = some (write value, rest) := by
  rw [write]
  induction value.toList with
  | nil => rfl
  | cons character further inductionHypothesis =>
      rw [List.flatMap_cons, List.append_assoc, splitValue?_escape_append, inductionHypothesis]
      rfl

theorem unescape_escape_append (character : Char) (rest : List Char) :
    unescape (escape character ++ rest) = character :: unescape rest := by
  by_cases special : character = '\\' ∨ character = '"'
  · rw [escape, if_pos special]
    rcases special with rfl | rfl
    · rfl
    · rfl
  · rw [escape, if_neg special]
    obtain ⟨noEscape, noQuote⟩ := not_or.mp special
    simp [unescape, noEscape]

/-- Escapes are undone by reading. -/
theorem unescape_write (value : String) : unescape (write value) = value.toList := by
  rw [write]
  induction value.toList with
  | nil => rfl
  | cons character further inductionHypothesis =>
      rw [List.flatMap_cons, unescape_escape_append, inductionHypothesis]

/-! ## Written tags -/

/-- A name has some characters, none of them a control, a blank, a colon or a quote. -/
structure IsName (name : String) : Prop where
  filled : name ≠ ""
  characters : ∀ character ∈ name.toList,
    ' ' < character ∧ character ≠ ':' ∧ character ≠ '"' ∧ character ≠ '\x7f'

/-- A tag spells some named values, with any number of blanks before each of them and at the end. -/
inductive Spells : List (String × String) → List Char → Prop
  | nil (gap : Nat) : Spells [] (List.replicate gap ' ')
  | cons (gap : Nat) {name value : String} {further : List (String × String)} {rest : List Char}
      (isName : IsName name) (spells : Spells further rest) :
      Spells ((name, value) :: further)
        (List.replicate gap ' ' ++ (name.toList ++ ':' :: '"' :: (write value ++ '"' :: rest)))

theorem nextPair?_replicate (gap : Nat) : nextPair? (List.replicate gap ' ') = none := by
  have trimmed : (List.replicate gap ' ').dropWhile (· == ' ') = [] := by
    simp
  simp [nextPair?, trimmed]

namespace Spells

variable {named : List (String × String)} {tag : List Char}

/-- A tag is read as the pairs that it spells. -/
theorem pairs_eq (spells : Spells named tag) :
    pairs tag = named.map fun (name, value) => ⟨name.toList, write value⟩ := by
  induction spells with
  | nil gap => exact pairs_eq_nil (nextPair?_replicate gap)
  | @cons gap name value further rest isName spells inductionHypothesis =>
      have found : nextPair?
          (List.replicate gap ' ' ++ (name.toList ++ ':' :: '"' :: (write value ++ '"' :: rest))) =
            some (⟨name.toList, write value⟩, rest) := by
        refine nextPair?_eq_some_iff.mpr ⟨gap, _, rfl, ?_, ?_, splitValue?_write_append value rest⟩
        · simpa using isName.filled
        · exact fun character member =>
            endsName_eq_false_iff.mpr (isName.characters character member)
      rw [pairs_eq_cons found, inductionHypothesis, List.map_cons]

/-- The first value of a name is found, as it was before it was written. -/
theorem find?_pairs (named : List (String × String)) (name : String) :
    ((named.map fun (name, value) => TagPair.mk name.toList (write value)).find? fun pair =>
        pair.name == name.toList).map (fun pair => String.ofList (unescape pair.written)) =
      named.lookup name := by
  induction named with
  | nil => rfl
  | cons first further inductionHypothesis =>
      obtain ⟨firstName, value⟩ := first
      by_cases same : firstName = name
      · subst same
        simp [unescape_write]
      · have different : (firstName.toList == name.toList) = false := by
          rw [beq_eq_false_iff_ne, ne_eq, String.toList_inj]
          exact same
        have otherName : (name == firstName) = false := beq_eq_false_iff_ne.mpr (Ne.symm same)
        rw [List.map_cons, List.find?_cons_of_neg (by simp [different]), inductionHypothesis,
          List.lookup_cons, otherName]

end Spells

/-- A tag that spells named values gives, for every name, the first value that is named so, and none
if there is no such value. So it makes a field optional exactly when the first value under the name
of the checker says so. -/
theorem lookup?_of_spells {named : List (String × String)} {tag : String}
    (spells : Spells named tag.toList) :
    (∀ name, lookup? tag name = named.lookup name) ∧
      (isOptional tag = true ↔ named.lookup "exhaustruct" = some "optional") := by
  have found : ∀ name, lookup? tag name = named.lookup name := by
    intro name
    rw [lookup?, spells.pairs_eq, Spells.find?_pairs]
  refine ⟨found, ?_⟩
  rw [isOptional, found, beq_iff_eq]
  rfl

/-- Values with backslashes, quotes and a character of several bytes, two of them of one name. -/
def namedValues : List (String × String) :=
  [("json", "é\\"), ("exhaustruct", "optional"), ("json", "a:\"b\" ")]

/-- A tag of these values, with blanks before and between some of them. -/
def namedValuesTag : String :=
  " json:\"é\\\\\"exhaustruct:\"optional\"   json:\"a:\\\"b\\\" \""

/-- The first of two values for one name counts. -/
theorem lookup?_namedValuesTag :
    Spells namedValues namedValuesTag.toList ∧
      lookup? namedValuesTag "json" = some "é\\" ∧ lookup? namedValuesTag "yaml" = none ∧
      isOptional namedValuesTag = true := by
  have json : IsName "json" := ⟨by decide, by simp⟩
  have checker : IsName "exhaustruct" := ⟨by decide, by simp⟩
  have spells : Spells namedValues namedValuesTag.toList :=
    .cons 1 json (.cons 0 checker (.cons 3 json (.nil 0)))
  obtain ⟨found, optional⟩ := lookup?_of_spells spells
  exact ⟨spells, found "json", found "yaml", optional.mpr rfl⟩

end LiteralAudit.Tag
