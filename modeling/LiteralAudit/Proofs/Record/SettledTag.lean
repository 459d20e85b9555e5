import LiteralAudit.Proofs.Record.Tag

/-!
# What settles the value of a name

A tag is read from the left, pair after pair. The value of a name is settled by the quote that
closes it: whatever follows that quote has no say, even if it breaks the form of tags. Where no
further pair begins, reading is over, and the pairs that stand farther on are not found.
-/

namespace LiteralAudit

namespace Tag

/-! ## Values between quotes -/

/-- What can stand between the quotes of a value: each backslash takes a character along, and no
quote stands without a backslash. -/
inductive IsQuoted : List Char → Prop
  | nil : IsQuoted []
  | plain {character : Char} {rest : List Char} (noQuote : character ≠ '"')
      (noEscape : character ≠ '\\') (quoted : IsQuoted rest) : IsQuoted (character :: rest)
  | escaped (character : Char) {rest : List Char} (quoted : IsQuoted rest) :
      IsQuoted ('\\' :: character :: rest)

theorem IsQuoted.splitValue?_append {value : List Char} (quoted : IsQuoted value)
    (after : List Char) :
    splitValue? (value ++ '"' :: after) = some (value, after) := by
  induction quoted with
  | nil => rfl
  | plain noQuote noEscape quoted inductionHypothesis =>
      simp [splitValue?, noEscape, inductionHypothesis]
  | escaped character quoted inductionHypothesis =>
      simp [splitValue?, inductionHypothesis]

theorem isQuoted_of_splitValue? {text value after : List Char}
    (split : splitValue? text = some (value, after)) : IsQuoted value := by
  fun_induction splitValue? text generalizing value with
  | case1 => cases split
  | case2 => cases split
  | case3 rest =>
      obtain ⟨rfl, -⟩ := Prod.mk.inj (Option.some.inj split)
      exact .nil
  | case4 escaped rest inductionHypothesis =>
      obtain ⟨⟨inner, behind⟩, found, same⟩ := Option.map_eq_some_iff.mp split
      obtain ⟨rfl, rfl⟩ := Prod.mk.inj same
      exact .escaped escaped (inductionHypothesis found)
  | case5 character rest notLast notQuote notEscape inductionHypothesis =>
      obtain ⟨⟨inner, behind⟩, found, same⟩ := Option.map_eq_some_iff.mp split
      obtain ⟨rfl, rfl⟩ := Prod.mk.inj same
      exact .plain notQuote (noEscape_of_alone notLast notEscape) (inductionHypothesis found)

/-- The closing quote is the first one without a backslash of its own. -/
theorem splitValue?_eq_some_iff {text value after : List Char} :
    splitValue? text = some (value, after) ↔ text = value ++ '"' :: after ∧ IsQuoted value := by
  constructor
  · intro split
    exact ⟨splitValue?_join split, isQuoted_of_splitValue? split⟩
  · rintro ⟨rfl, quoted⟩
    exact quoted.splitValue?_append after

end Tag

/-! ## Pairs in their form -/

namespace TagPair

def text (pair : TagPair) : List Char :=
  pair.name ++ ':' :: '"' :: (pair.written ++ ['"'])

/-- A pair has a name, and a value whose quotes and backslashes leave its closing quote alone. -/
structure IsProper (pair : TagPair) : Prop where
  isName : Tag.IsName (String.ofList pair.name)
  isQuoted : Tag.IsQuoted pair.written

theorem text_append (pair : TagPair) (rest : List Char) :
    pair.text ++ rest = pair.name ++ ':' :: '"' :: (pair.written ++ '"' :: rest) := by
  simp [text]

end TagPair

namespace Tag

/-- Behind any blanks, a text begins with a pair. -/
def BeginsWith (text : List Char) (pair : TagPair) (rest : List Char) : Prop :=
  pair.IsProper ∧ ∃ gap, text = List.replicate gap ' ' ++ (pair.text ++ rest)

/-- A text is made of pairs, with any number of blanks before each of them. -/
inductive Lists : List TagPair → List Char → Prop
  | nil : Lists [] []
  | cons (gap : Nat) {pair : TagPair} {further : List TagPair} {rest : List Char}
      (proper : pair.IsProper) (lists : Lists further rest) :
      Lists (pair :: further) (List.replicate gap ' ' ++ (pair.text ++ rest))

theorem isName_ofList_iff {name : List Char} :
    IsName (String.ofList name) ↔
      name ≠ [] ∧ ∀ character ∈ name, endsName character = false := by
  constructor
  · intro isName
    refine ⟨?_, ?_⟩
    · rintro rfl
      exact isName.filled rfl
    · intro character member
      apply endsName_eq_false_iff.mpr
      apply isName.characters character
      rw [String.toList_ofList]
      exact member
  · rintro ⟨filled, characters⟩
    refine ⟨?_, ?_⟩
    · intro isEmpty
      exact filled (String.ofList_eq_empty_iff.mp isEmpty)
    · intro character member
      rw [String.toList_ofList] at member
      exact endsName_eq_false_iff.mp (characters character member)

/-- A pair is read exactly where one begins. -/
theorem nextPair?_eq_some_iff_beginsWith {text rest : List Char} {pair : TagPair} :
    nextPair? text = some (pair, rest) ↔ BeginsWith text pair rest := by
  rw [nextPair?_eq_some_iff]
  constructor
  · rintro ⟨gap, value, rfl, filled, characters, split⟩
    obtain ⟨rfl, quoted⟩ := splitValue?_eq_some_iff.mp split
    refine ⟨⟨isName_ofList_iff.mpr ⟨filled, characters⟩, quoted⟩, gap, ?_⟩
    rw [TagPair.text_append]
  · rintro ⟨⟨isName, quoted⟩, gap, rfl⟩
    obtain ⟨filled, characters⟩ := isName_ofList_iff.mp isName
    have split := quoted.splitValue?_append rest
    refine ⟨gap, pair.written ++ '"' :: rest, ?_, filled, characters, split⟩
    rw [TagPair.text_append]

theorem nextPair?_eq_none_iff {text : List Char} :
    nextPair? text = none ↔ ∀ pair rest, ¬ BeginsWith text pair rest := by
  rw [Option.eq_none_iff_forall_ne_some, Prod.forall]
  simp only [ne_eq, nextPair?_eq_some_iff_beginsWith]

namespace Lists

variable {found : List TagPair} {front : List Char}

/-- Pairs that are listed at the front come before those of the rest, whatever it is. -/
theorem pairs_append (lists : Lists found front) (rest : List Char) :
    pairs (front ++ rest) = found ++ pairs rest := by
  induction lists with
  | nil => rfl
  | @cons gap pair further text proper lists inductionHypothesis =>
      have begins : BeginsWith (List.replicate gap ' ' ++ (pair.text ++ text) ++ rest) pair
          (text ++ rest) := by
        refine ⟨proper, gap, ?_⟩
        rw [List.append_assoc, List.append_assoc]
      rw [pairs_eq_cons (nextPair?_eq_some_iff_beginsWith.mpr begins), inductionHypothesis,
        List.cons_append]

end Lists

/-- The first pairs of a tag take up its front, and the others are the pairs of what follows. -/
theorem exists_lists_of_pairs_eq_append {tag : List Char} {first others : List TagPair}
    (split : pairs tag = first ++ others) :
    ∃ front rest, tag = front ++ rest ∧ Lists first front ∧ pairs rest = others := by
  induction first generalizing tag with
  | nil => exact ⟨[], tag, rfl, .nil, split⟩
  | cons pair further inductionHypothesis =>
      cases found : nextPair? tag with
      | none =>
          rw [pairs_eq_nil found] at split
          cases split
      | some next =>
          obtain ⟨firstPair, behind⟩ := next
          rw [pairs_eq_cons found, List.cons_append] at split
          obtain ⟨rfl, splitBehind⟩ := List.cons.inj split
          obtain ⟨front, rest, rfl, lists, same⟩ := inductionHypothesis splitBehind
          obtain ⟨proper, gap, rfl⟩ := nextPair?_eq_some_iff_beginsWith.mp found
          refine ⟨List.replicate gap ' ' ++ (firstPair.text ++ front), rest, ?_,
            .cons gap proper lists, same⟩
          rw [List.append_assoc, List.append_assoc]

/-! ## Values that are found -/

/-- The front of a tag that ends with the first pair of a name. -/
def Settles (front name written : List Char) : Prop :=
  ∃ earlier, Lists (earlier ++ [⟨name, written⟩]) front ∧ ∀ pair ∈ earlier, pair.name ≠ name

theorem Settles.lookup?_eq {front : List Char} {name : String} {written : List Char}
    (settles : Settles front name.toList written) (more : List Char) :
    lookup? (String.ofList (front ++ more)) name = some (String.ofList (unescape written)) := by
  obtain ⟨earlier, lists, others⟩ := settles
  have notEarlier : earlier.find? (fun pair => pair.name == name.toList) = none := by
    apply List.find?_eq_none.mpr
    intro pair member
    simpa using others pair member
  rw [lookup?, String.toList_ofList, lists.pairs_append, List.append_assoc, List.find?_append,
    notEarlier]
  simp

/-- A value that is found is settled by the front of the tag up to its closing quote. -/
theorem exists_settles {tag name value : String} (found : lookup? tag name = some value) :
    ∃ front rest written, tag.toList = front ++ rest ∧ Settles front name.toList written ∧
      value = String.ofList (unescape written) := by
  obtain ⟨⟨pairName, written⟩, first, same⟩ := Option.map_eq_some_iff.mp found
  obtain ⟨isNamed, earlier, later, split, others⟩ := List.find?_eq_some_iff_append.mp first
  have nameEq : pairName = name.toList := by simpa using isNamed
  subst nameEq
  rw [← List.singleton_append, ← List.append_assoc] at split
  obtain ⟨front, rest, tagEq, lists, -⟩ := exists_lists_of_pairs_eq_append split
  refine ⟨front, rest, written, tagEq, ⟨earlier, lists, ?_⟩, same.symm⟩
  intro pair member
  simpa using others pair member

theorem lookup?_eq_none_of_lists {found : List TagPair} {front rest : List Char} {name : String}
    (lists : Lists found front) (others : ∀ pair ∈ found, pair.name ≠ name.toList)
    (ends : ∀ pair behind, ¬ BeginsWith rest pair behind) :
    lookup? (String.ofList (front ++ rest)) name = none := by
  have ended : pairs rest = [] := pairs_eq_nil (nextPair?_eq_none_iff.mpr ends)
  rw [lookup?, String.toList_ofList, lists.pairs_append, ended, List.append_nil,
    Option.map_eq_none_iff]
  apply List.find?_eq_none.mpr
  intro pair member
  simpa using others pair member

/-- A value that is found is settled by the front of the tag that ends with its closing quote: it is
found whatever follows there, so also when anything is added to the tag. A name that no pair has
before the first place where none begins is not found, whatever stands behind that place. -/
theorem lookup?_settled (tag name : String) :
    (∀ value, lookup? tag name = some value →
      (∃ front rest written, tag.toList = front ++ rest ∧ Settles front name.toList written ∧
        value = String.ofList (unescape written) ∧
        ∀ more, lookup? (String.ofList (front ++ more)) name = some value) ∧
      ∀ more, lookup? (tag ++ more) name = some value) ∧
    ∀ found front rest, tag.toList = front ++ rest → Lists found front →
      (∀ pair ∈ found, pair.name ≠ name.toList) →
      (∀ pair behind, ¬ BeginsWith rest pair behind) → lookup? tag name = none := by
  refine ⟨?_, ?_⟩
  · intro value found
    obtain ⟨front, rest, written, tagEq, settles, rfl⟩ := exists_settles found
    have settled := settles.lookup?_eq
    refine ⟨⟨front, rest, written, tagEq, settles, rfl, settled⟩, ?_⟩
    intro more
    have longer : tag ++ more = String.ofList (front ++ (rest ++ more.toList)) := by
      rw [← List.append_assoc, ← tagEq, ← String.toList_append, String.ofList_toList]
    rw [longer]
    exact settled (rest ++ more.toList)
  · intro found front rest tagEq lists others ends
    rw [← String.ofList_toList (s := tag), tagEq]
    exact lookup?_eq_none_of_lists lists others ends

/-- A tag with a word between its pairs that is none of them. -/
def brokenTag : String :=
  " json:\"é\\\"\"exhaustruct:\"optional\" omitempty xml:\"x\""

/-- The part of this tag before that word. -/
def brokenTagFront : List Char :=
  " json:\"é\\\"\"exhaustruct:\"optional\"".toList

def jsonPair : TagPair := ⟨"json".toList, "é\\\"".toList⟩

def optionalPair : TagPair := ⟨"exhaustruct".toList, "optional".toList⟩

theorem lists_brokenTagFront : Lists [jsonPair, optionalPair] brokenTagFront := by
  have json : splitValue? (jsonPair.written ++ ['"']) = some (jsonPair.written, []) := rfl
  have optional :
      splitValue? (optionalPair.written ++ ['"']) = some (optionalPair.written, []) := rfl
  have jsonName : IsName (String.ofList jsonPair.name) := by
    show IsName (String.ofList "json".toList)
    rw [String.ofList_toList]
    exact ⟨by decide, by simp⟩
  have optionalName : IsName (String.ofList optionalPair.name) := by
    show IsName (String.ofList "exhaustruct".toList)
    rw [String.ofList_toList]
    exact ⟨by decide, by simp⟩
  have front : brokenTagFront =
      List.replicate 1 ' ' ++ (jsonPair.text ++
        (List.replicate 0 ' ' ++ (optionalPair.text ++ []))) := by
    decide
  rw [front]
  exact .cons 1 ⟨jsonName, isQuoted_of_splitValue? json⟩
    (.cons 0 ⟨optionalName, isQuoted_of_splitValue? optional⟩ .nil)

/-- A tag that breaks off behind two pairs, with a third one that is never read. -/
theorem lookup?_brokenTag :
    lookup? brokenTag "json" = some "é\"" ∧
      lookup? (brokenTag ++ "json:\"\\") "json" = some "é\"" ∧
      Lists [jsonPair, optionalPair] brokenTagFront ∧
      nextPair? " omitempty xml:\"x\"".toList = none ∧
      nextPair? " xml:\"x\"".toList = some (⟨"xml".toList, "x".toList⟩, []) ∧
      lookup? brokenTag "xml" = none := by
  have found : lookup? brokenTag "json" = some "é\"" := by decide
  have ended : nextPair? " omitempty xml:\"x\"".toList = none := by decide
  have farther : nextPair? " xml:\"x\"".toList = some (⟨"xml".toList, "x".toList⟩, []) := by
    decide
  have split : brokenTag.toList = brokenTagFront ++ " omitempty xml:\"x\"".toList := by decide
  obtain ⟨-, more⟩ := (lookup?_settled brokenTag "json").1 _ found
  have absent := (lookup?_settled brokenTag "xml").2 _ _ _ split lists_brokenTagFront (by decide)
    (nextPair?_eq_none_iff.mp ended)
  exact ⟨found, more "json:\"\\", lists_brokenTagFront, ended, farther, absent⟩

end Tag

end LiteralAudit
