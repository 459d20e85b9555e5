import LiteralAudit.Proofs.Json.Spelling
import Mathlib.Data.List.Basic

/-!
# Texts between quotes are read back

Every character of a spelled text is one piece between the quotes, and each of these pieces stands
for the character that it was written for. So the content of a spelled text is the text, and the
reading goes on behind the closing quote.
-/

namespace LiteralAudit.Json

/-- A piece is read as a character, whatever follows it. -/
def Piece.StandsFor (piece : Piece) (character : Char) : Prop :=
  ∀ ending further, characters ending (piece :: further) =
    (characters ending further).map (character :: ·)

theorem Piece.standsFor_character (character : Char) :
    (Piece.character character).StandsFor character := by
  intro ending further
  rw [characters]

/-- The code of a character is no half of a pair. -/
theorem Piece.standsFor_unit (character : Char) :
    (Piece.unit character.toNat).StandsFor character := by
  have valid : character.toNat < 0xD800 ∨ 0xDFFF < character.toNat :=
    character.valid.imp id fun above => above.1
  have notLeading : isLeading character.toNat = false := by
    rw [isLeading, Bool.and_eq_false_iff, decide_eq_false_iff_not, decide_eq_false_iff_not]
    omega
  have notTrailing : isTrailing character.toNat = false := by
    rw [isTrailing, Bool.and_eq_false_iff, decide_eq_false_iff_not, decide_eq_false_iff_not]
    omega
  intro ending further
  cases further with
  | nil => simp [characters, notLeading, notTrailing]
  | cons piece rest =>
      cases piece with
      | character next => simp [characters, notLeading, notTrailing]
      | unit trailing =>
          rw [characters, notLeading, notTrailing, Char.ofNat_toNat]
          rfl

/-! ## Spelled characters -/

theorem pieces_shortEscape {letter character : Char}
    (known : shortEscape? letter = some character) (rest : List Char) :
    pieces ('\\' :: letter :: rest) =
      (.character character :: (pieces rest).1, (pieces rest).2) := by
  have notUnit : letter ≠ 'u' := by
    rintro rfl
    cases known
  rw [pieces, known]
  · intro first second third fourth further same
    exact absurd same notUnit
  · exact notUnit

theorem pieces_cons {character : Char} (noQuote : character ≠ '"') (noEscape : character ≠ '\\')
    (noControl : ¬ character.toNat < 32) (rest : List Char) :
    pieces (character :: rest) =
      (.character character :: (pieces rest).1, (pieces rest).2) := by
  rw [pieces, if_neg noControl]
  · exact noQuote
  · exact fun _ _ _ _ _ same => absurd same noEscape
  · exact fun _ same => absurd same noEscape
  · exact fun same => absurd same noEscape
  · exact fun _ _ same => absurd same noEscape

/-- A spelled character is one piece, and it stands for the character. -/
theorem SpellsCharacter.pieces_eq {character : Char} {text : List Char}
    (spells : SpellsCharacter character text) (rest : List Char) :
    ∃ piece : Piece, piece.StandsFor character ∧
      pieces (text ++ rest) = (piece :: (pieces rest).1, (pieces rest).2) := by
  cases spells with
  | plain noQuote noEscape noControl =>
      exact ⟨_, Piece.standsFor_character character,
        pieces_cons noQuote noEscape noControl rest⟩
  | short known =>
      exact ⟨_, Piece.standsFor_character character, pieces_shortEscape known rest⟩
  | code hexadecimal names =>
      refine ⟨.unit character.toNat, Piece.standsFor_unit character, ?_⟩
      simp only [List.cons_append, List.nil_append]
      rw [pieces, if_pos hexadecimal, names]

/-- The content of a spelled text is the text. -/
theorem SpellsCharacters.pieces_eq {value content : List Char}
    (spells : SpellsCharacters value content) (rest : List Char) :
    (pieces (content ++ '"' :: rest)).2 = .ok rest ∧
      characters (.ok rest) (pieces (content ++ '"' :: rest)).1 = .ok value := by
  induction spells with
  | nil =>
      rw [List.nil_append, pieces]
      exact ⟨rfl, rfl⟩
  | @cons character further text others head tail inductionHypothesis =>
      obtain ⟨ending, content⟩ := inductionHypothesis
      obtain ⟨piece, stands, found⟩ := head.pieces_eq (others ++ '"' :: rest)
      rw [List.append_assoc, found]
      refine ⟨ending, ?_⟩
      rw [stands, content]
      rfl

end LiteralAudit.Json
