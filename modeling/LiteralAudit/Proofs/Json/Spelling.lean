import LiteralAudit.Json.Token

/-!
# Spellings of documents

A document has many spellings: blanks may stand between its tokens, and a character of a text may
stand for itself or be escaped. Both forms in which documents are written, on one line and laid out
over lines, are spellings.
-/

namespace LiteralAudit.Json

/-- Nothing but blanks. -/
def IsGap (text : List Char) : Prop :=
  ∀ character ∈ text, isBlank character = true

/-- A character between quotes stands for itself, or it is escaped by a letter or by the four digits
of its code. -/
inductive SpellsCharacter : Char → List Char → Prop
  | plain {character : Char} (noQuote : character ≠ '"') (noEscape : character ≠ '\\')
      (noControl : ¬ character.toNat < 32) :
      SpellsCharacter character [character]
  | short {letter character : Char} (known : shortEscape? letter = some character) :
      SpellsCharacter character ['\\', letter]
  | code {character first second third fourth : Char}
      (hexadecimal : [first, second, third, fourth].all Digits.isHex = true)
      (names : Digits.hexNumber [first, second, third, fourth] = character.toNat) :
      SpellsCharacter character ['\\', 'u', first, second, third, fourth]

inductive SpellsCharacters : List Char → List Char → Prop
  | nil : SpellsCharacters [] []
  | cons {character : Char} {further text rest : List Char}
      (head : SpellsCharacter character text) (tail : SpellsCharacters further rest) :
      SpellsCharacters (character :: further) (text ++ rest)

/-- A text stands between quotes. -/
inductive SpellsText : String → List Char → Prop
  | quoted {value : String} {content : List Char}
      (characters : SpellsCharacters value.toList content) :
      SpellsText value ('"' :: (content ++ ['"']))

mutual

/-- A text spells a document. It starts and ends with the document, without blanks around it. -/
inductive Spells : Json → List Char → Prop
  | null : Spells .null nullWord
  | bool (value : Bool) : Spells (.bool value) (writeBool value)
  | number (value : Nat) : Spells (.number value) (writeNumber value)
  | text {value : String} {text : List Char} (spells : SpellsText value text) :
      Spells (.text value) text
  | emptyList {gap : List Char} (blank : IsGap gap) : Spells (.list []) ('[' :: (gap ++ [']']))
  | list {first : Json} {further : List Json} {gap text rest : List Char} (blank : IsGap gap)
      (head : Spells first text) (tail : SpellsItems further rest) :
      Spells (.list (first :: further)) ('[' :: (gap ++ (text ++ rest)))
  | emptyObject {gap : List Char} (blank : IsGap gap) :
      Spells (.object []) ('\x7b' :: (gap ++ ['\x7d']))
  | object {first : String × Json} {further : List (String × Json)} {gap text rest : List Char}
      (blank : IsGap gap) (head : SpellsMember first text) (tail : SpellsMembers further rest) :
      Spells (.object (first :: further)) ('\x7b' :: (gap ++ (text ++ rest)))

/-- The items behind the first one, and the end of the list. -/
inductive SpellsItems : List Json → List Char → Prop
  | nil {gap : List Char} (blank : IsGap gap) : SpellsItems [] (gap ++ [']'])
  | cons {item : Json} {further : List Json} {before after text rest : List Char}
      (blankBefore : IsGap before) (blankAfter : IsGap after) (head : Spells item text)
      (tail : SpellsItems further rest) :
      SpellsItems (item :: further) (before ++ ',' :: (after ++ (text ++ rest)))

inductive SpellsMember : String × Json → List Char → Prop
  | named {name : String} {value : Json} {nameText before after text : List Char}
      (spellsName : SpellsText name nameText) (blankBefore : IsGap before)
      (blankAfter : IsGap after) (spellsValue : Spells value text) :
      SpellsMember (name, value) (nameText ++ (before ++ ':' :: (after ++ text)))

/-- The members behind the first one, and the end of the object. -/
inductive SpellsMembers : List (String × Json) → List Char → Prop
  | nil {gap : List Char} (blank : IsGap gap) : SpellsMembers [] (gap ++ ['\x7d'])
  | cons {member : String × Json} {further : List (String × Json)}
      {before after text rest : List Char} (blankBefore : IsGap before)
      (blankAfter : IsGap after) (head : SpellsMember member text)
      (tail : SpellsMembers further rest) :
      SpellsMembers (member :: further) (before ++ ',' :: (after ++ (text ++ rest)))

end

theorem isGap_nil : IsGap [] := by
  intro character member
  cases member

theorem isGap_blank : IsGap [' '] := by
  intro character member
  rw [List.mem_singleton.mp member]
  rfl

theorem isGap_newLine (level : Nat) : IsGap (newLine level) := by
  intro character member
  rcases List.mem_cons.mp member with rfl | indent
  · rfl
  · rw [List.eq_of_mem_replicate indent]
    rfl

/-! ## Texts -/

theorem hexValue?_hexDigit :
    ∀ value < 16, Digits.hexValue? (Digits.hexDigit value) = some value := by
  decide

/-- Control characters without a short escape are spelled by their codes. -/
theorem spellsCharacter_control {character : Char} (control : character.toNat < 32) :
    SpellsCharacter character
      ['\\', 'u', '0', '0', Digits.hexDigit (character.toNat / 16),
        Digits.hexDigit (character.toNat % 16)] := by
  have high := hexValue?_hexDigit (character.toNat / 16) (by omega)
  have low := hexValue?_hexDigit (character.toNat % 16) (by omega)
  have zero : Digits.hexValue? '0' = some 0 := by decide
  refine .code ?_ ?_
  · simp [Digits.isHex, high, low, zero]
  · simp only [Digits.hexNumber, List.foldl_cons, List.foldl_nil, high, low, zero,
      Option.getD_some]
    omega

theorem spellsCharacter_escape (character : Char) :
    SpellsCharacter character (escape character) := by
  unfold escape
  split
  · next same => exact .short (by rw [same]; rfl)
  split
  · next same => exact .short (by rw [same]; rfl)
  split
  · next same => exact .short (by rw [same]; rfl)
  split
  · next same => exact .short (by rw [same]; rfl)
  split
  · next same => exact .short (by rw [same]; rfl)
  split
  · next same => exact .short (by rw [← Char.ofNat_toNat character, same]; rfl)
  split
  · next same => exact .short (by rw [← Char.ofNat_toNat character, same]; rfl)
  split
  · next control => exact spellsCharacter_control control
  · next noQuote noEscape _ _ _ _ _ noControl => exact .plain noQuote noEscape noControl

theorem spellsCharacters_flatMap_escape (characters : List Char) :
    SpellsCharacters characters (characters.flatMap escape) := by
  induction characters with
  | nil => exact .nil
  | cons character further inductionHypothesis =>
      exact .cons (spellsCharacter_escape character) inductionHypothesis

theorem spellsText_writeText (value : String) : SpellsText value (writeText value) :=
  .quoted (spellsCharacters_flatMap_escape value.toList)

/-! ## Documents -/

mutual

/-- The text of a document on one line spells it. -/
theorem spells_write : ∀ document : Json, Spells document (write document)
  | .null => .null
  | .bool value => .bool value
  | .number value => .number value
  | .text value => .text (spellsText_writeText value)
  | .list [] => .emptyList isGap_nil
  | .list (first :: further) => by
      have spells := Spells.list isGap_nil (spells_write first) (spellsItems_writeItems further)
      simpa [write] using spells
  | .object [] => .emptyObject isGap_nil
  | .object ((name, value) :: further) => by
      have head := SpellsMember.named (spellsText_writeText name) isGap_nil isGap_nil
        (spells_write value)
      have spells := Spells.object isGap_nil head (spellsMembers_writeMembers further)
      simpa [write] using spells

theorem spellsItems_writeItems : ∀ items : List Json, SpellsItems items (writeItems items)
  | [] => .nil isGap_nil
  | item :: further => by
      have spells := SpellsItems.cons isGap_nil isGap_nil (spells_write item)
        (spellsItems_writeItems further)
      simpa [writeItems] using spells

theorem spellsMembers_writeMembers : ∀ members : List (String × Json),
    SpellsMembers members (writeMembers members)
  | [] => .nil isGap_nil
  | (name, value) :: further => by
      have head := SpellsMember.named (spellsText_writeText name) isGap_nil isGap_nil
        (spells_write value)
      have spells := SpellsMembers.cons isGap_nil isGap_nil head
        (spellsMembers_writeMembers further)
      simpa [writeMembers] using spells

end

mutual

/-- Lines and levels are gaps, so the text laid out over lines spells the document, too. -/
theorem spells_layOut : ∀ (level : Nat) (document : Json),
    Spells document (layOut level document)
  | _, .null => .null
  | _, .bool value => .bool value
  | _, .number value => .number value
  | _, .text value => .text (spellsText_writeText value)
  | _, .list [] => .emptyList isGap_nil
  | level, .list (first :: further) => by
      have spells := Spells.list (isGap_newLine (level + 1)) (spells_layOut (level + 1) first)
        (spellsItems_layOutItems level further)
      simpa [layOut] using spells
  | _, .object [] => .emptyObject isGap_nil
  | level, .object ((name, value) :: further) => by
      have head := SpellsMember.named (spellsText_writeText name) isGap_nil isGap_blank
        (spells_layOut (level + 1) value)
      have spells := Spells.object (isGap_newLine (level + 1)) head
        (spellsMembers_layOutMembers level further)
      simpa [layOut] using spells

theorem spellsItems_layOutItems : ∀ (level : Nat) (items : List Json),
    SpellsItems items (layOutItems level items)
  | level, [] => .nil (isGap_newLine level)
  | level, item :: further => by
      have spells := SpellsItems.cons isGap_nil (isGap_newLine (level + 1))
        (spells_layOut (level + 1) item) (spellsItems_layOutItems level further)
      simpa [layOutItems] using spells

theorem spellsMembers_layOutMembers : ∀ (level : Nat) (members : List (String × Json)),
    SpellsMembers members (layOutMembers level members)
  | level, [] => .nil (isGap_newLine level)
  | level, (name, value) :: further => by
      have head := SpellsMember.named (spellsText_writeText name) isGap_nil isGap_blank
        (spells_layOut (level + 1) value)
      have spells := SpellsMembers.cons isGap_nil (isGap_newLine (level + 1)) head
        (spellsMembers_layOutMembers level further)
      simpa [layOutMembers] using spells

end

end LiteralAudit.Json
