import LiteralAudit.Text.Utf8
import Mathlib.Data.List.Lex
import Mathlib.Data.String.Basic

/-!
# Text in the order of its bytes

Texts are compared character by character. The order of their bytes is the same: of two characters
the greater one has the greater sequence, as more bytes start with a greater first byte, and
sequences of one length carry the bits of their character from the highest to the lowest.
-/

namespace LiteralAudit.Utf8

section

variable {code other : Nat} {rest further : List UInt8}

theorem lex_ofNat_of_lt (less : code < other) (isByte : other < 256) :
    List.Lex (· < ·) (UInt8.ofNat code :: rest) (UInt8.ofNat other :: further) :=
  .rel ((UInt8.ofNat_lt_iff_lt (less.trans isByte) isByte).mpr less)

/-- A byte decides, or if it is the same, what stands behind it. -/
theorem lex_ofNat {p : Prop} (isByte : other < 256) (order : code < other ∨ (code = other ∧ p))
    (later : p → List.Lex (· < ·) rest further) :
    List.Lex (· < ·) (UInt8.ofNat code :: rest) (UInt8.ofNat other :: further) := by
  rcases order with less | ⟨rfl, holds⟩
  · exact lex_ofNat_of_lt less isByte
  · exact .cons (later holds)

/-- The last byte carries the lowest six bits of a character. -/
theorem lex_lastTail (less : code % 64 < other % 64) :
    List.Lex (· < ·) (UInt8.ofNat (code % 64 + 128) :: rest)
      (UInt8.ofNat (other % 64 + 128) :: further) :=
  lex_ofNat_of_lt (by omega) (by omega)

/-- The last two bytes carry the lowest twelve bits. -/
theorem lex_lastTails (less : code % 4096 < other % 4096) :
    List.Lex (· < ·)
      (UInt8.ofNat (code / 64 % 64 + 128) :: UInt8.ofNat (code % 64 + 128) :: rest)
      (UInt8.ofNat (other / 64 % 64 + 128) :: UInt8.ofNat (other % 64 + 128) :: further) :=
  lex_ofNat (p := code % 64 < other % 64) (by omega) (by omega) lex_lastTail

end

/-- Whatever stands behind them, the sequences of two characters are in the order of these. -/
theorem utf8EncodeChar_append_lex {character other : Char} (less : character < other)
    (rest further : List UInt8) :
    List.Lex (· < ·) (String.utf8EncodeChar character ++ rest)
      (String.utf8EncodeChar other ++ further) := by
  have codes : character.val.toNat < other.val.toNat := less
  have most : other.val.toNat < 0x110000 := by
    rcases other.valid with low | high
    · exact low.trans (by decide)
    · exact high.2
  rw [String.utf8EncodeChar, String.utf8EncodeChar]
  generalize character.val.toNat = code at codes ⊢
  generalize other.val.toNat = greater at codes most ⊢
  -- The greater character has at least as many bytes. If it has more, the first byte decides.
  by_cases one : code ≤ 0x7F
  · rw [if_pos one]
    split
    · exact lex_ofNat_of_lt codes (by omega)
    split
    · exact lex_ofNat_of_lt (by omega) (by omega)
    split
    · exact lex_ofNat_of_lt (by omega) (by omega)
    · exact lex_ofNat_of_lt (by omega) (by omega)
  rw [if_neg one, if_neg (show ¬ greater ≤ 0x7F by omega)]
  by_cases two : code ≤ 0x7FF
  · rw [if_pos two]
    split
    · exact lex_ofNat (p := code % 64 < greater % 64) (by omega) (by omega) lex_lastTail
    split
    · exact lex_ofNat_of_lt (by omega) (by omega)
    · exact lex_ofNat_of_lt (by omega) (by omega)
  rw [if_neg two, if_neg (show ¬ greater ≤ 0x7FF by omega)]
  by_cases three : code ≤ 0xFFFF
  · rw [if_pos three]
    split
    · exact lex_ofNat (p := code % 4096 < greater % 4096) (by omega) (by omega) lex_lastTails
    · exact lex_ofNat_of_lt (by omega) (by omega)
  rw [if_neg three, if_neg (show ¬ greater ≤ 0xFFFF by omega)]
  refine lex_ofNat (p := code % 262144 < greater % 262144) (by omega) (by omega) fun lower => ?_
  exact lex_ofNat (p := code % 4096 < greater % 4096) (by omega) (by omega) lex_lastTails

theorem utf8EncodeChar_ne_nil (character : Char) : String.utf8EncodeChar character ≠ [] := by
  rw [← List.length_pos_iff, String.length_utf8EncodeChar]
  exact character.utf8Size_pos

theorem flatMap_utf8EncodeChar_lex {characters others : List Char}
    (less : List.Lex (· < ·) characters others) :
    List.Lex (· < ·) (characters.flatMap String.utf8EncodeChar)
      (others.flatMap String.utf8EncodeChar) := by
  induction less with
  | @nil other further =>
      refine (List.lex_nil_or_eq_nil _).resolve_right fun none => ?_
      rw [List.flatMap_cons, List.append_eq_nil_iff] at none
      exact utf8EncodeChar_ne_nil other none.1
  | rel less => exact utf8EncodeChar_append_lex less _ _
  | @cons character _ _ _ inductionHypothesis =>
      exact inductionHypothesis.append_left _ (String.utf8EncodeChar character)

/-- Texts and their encodings are in the same order. -/
theorem encode_lt_encode {left right : String} (less : left < right) :
    encode left < encode right :=
  flatMap_utf8EncodeChar_lex less

/-- One text stands before another exactly when its bytes do. -/
theorem encode_lt_encode_iff {left right : String} :
    encode left < encode right ↔ left < right := by
  refine ⟨fun less => ?_, encode_lt_encode⟩
  rcases lt_trichotomy left right with before | rfl | behind
  · exact before
  · exact absurd less (List.lt_irrefl _)
  · exact absurd less (List.lt_asymm (encode_lt_encode behind))

theorem encode_injective : Function.Injective encode := by
  intro left right same
  rcases lt_trichotomy left right with before | equal | behind
  · exact absurd (same ▸ encode_lt_encode before) (List.lt_irrefl _)
  · exact equal
  · exact absurd (same ▸ encode_lt_encode behind) (List.lt_irrefl _)

end LiteralAudit.Utf8
