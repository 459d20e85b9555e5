import LiteralAudit.Json.Basic
import LiteralAudit.Json.Numeral
import LiteralAudit.Json.Token
import Mathlib.Data.List.TakeWhile

/-!
# Natural numbers are read back

A natural number is written by its decimal digits, without a leading zero. The scanner takes
exactly these digits, as long as nothing follows that could continue a number, and up to the
greatest integer of 64 bits they stand for the number that was written.
-/

namespace LiteralAudit.Json

theorem isDecimal_eq_isDigit (character : Char) :
    Digits.isDecimal character = character.isDigit := by
  rw [Digits.isDecimal, Digits.decimalValue?]
  by_cases digit : '0' ≤ character ∧ character ≤ '9'
  · have bounds : 48 ≤ character.val ∧ character.val ≤ 57 := digit
    rw [if_pos digit]
    simp [Char.isDigit, bounds.1, bounds.2]
  · have outside : ¬ (48 ≤ character.val ∧ character.val ≤ 57) := digit
    rw [if_neg digit]
    simpa [Char.isDigit] using outside

theorem decimalValue?_eq {character : Char} (digit : Digits.isDecimal character = true) :
    Digits.decimalValue? character = some (character.toNat - '0'.toNat) := by
  unfold Digits.isDecimal Digits.decimalValue? at *
  split
  · rfl
  · next outside =>
      rw [if_neg outside] at digit
      cases digit

/-! ## Digits of a number -/

theorem isDecimal_of_mem_writeNumber {number : Nat} {character : Char}
    (member : character ∈ writeNumber number) :
    Digits.isDecimal character = true := by
  rw [isDecimal_eq_isDigit]
  exact Nat.isDigit_of_mem_toDigits (by decide) (by decide) member

theorem writeNumber_ne_nil (number : Nat) : writeNumber number ≠ [] :=
  Nat.toDigits_ne_nil

/-- Digits are read as the number that they were written for. -/
theorem decimalNumber_writeNumber (number : Nat) :
    Digits.decimalNumber (writeNumber number) = number := by
  have same : ∀ (digits : List Char) (start : Nat),
      (∀ digit ∈ digits, Digits.isDecimal digit = true) →
        digits.foldl (fun number digit =>
          number * 10 + (Digits.decimalValue? digit).getD 0) start =
            Nat.ofDigitChars 10 digits start := by
    intro digits
    induction digits with
    | nil =>
        intro start _
        rfl
    | cons digit further inductionHypothesis =>
        intro start decimal
        rw [List.foldl_cons, decimalValue?_eq (decimal digit List.mem_cons_self),
          inductionHypothesis _ fun other member => decimal other (List.mem_cons_of_mem _ member),
          Nat.mul_comm]
        rfl
  rw [Digits.decimalNumber, same _ _ fun _ member => isDecimal_of_mem_writeNumber member]
  exact Nat.ofDigitChars_toDigits (by decide) (by decide)

/-- Only zero is written with a zero in front. -/
theorem head?_writeNumber {number : Nat} (positive : 0 < number) :
    (writeNumber number).head? ≠ some '0' := by
  induction number using Nat.strong_induction_on with
  | _ number inductionHypothesis =>
      rw [writeNumber, Nat.toDigits_eq_if (by decide)]
      split
      · next single =>
          have digits : ∀ digit < 10, 0 < digit → [Nat.digitChar digit].head? ≠ some '0' := by
            decide
          exact digits number single positive
      · next several =>
          have smaller := inductionHypothesis (number / 10) (by omega) (by omega)
          obtain ⟨first, further, digits⟩ :=
            List.exists_cons_of_ne_nil (writeNumber_ne_nil (number / 10))
          rw [digits] at smaller
          rw [writeNumber] at digits
          rwa [digits]

/-! ## Scanning -/

/-- What follows does not continue a number. -/
def EndsNumber (rest : List Char) : Prop :=
  ∀ next ∈ rest.head?,
    Digits.isDecimal next = false ∧ next ≠ '.' ∧ next ≠ 'e' ∧ next ≠ 'E'

theorem span_append {digits rest : List Char}
    (decimal : ∀ digit ∈ digits, Digits.isDecimal digit = true) (ends : EndsNumber rest) :
    (digits ++ rest).takeWhile Digits.isDecimal = digits ∧
      (digits ++ rest).dropWhile Digits.isDecimal = rest := by
  rw [List.takeWhile_append_of_pos decimal, List.dropWhile_append_of_pos decimal]
  cases rest with
  | nil => exact ⟨List.append_nil digits, rfl⟩
  | cons next further =>
      have stops := (ends next rfl).1
      rw [List.takeWhile_cons, List.dropWhile_cons, stops]
      exact ⟨List.append_nil digits, rfl⟩

/-- Numbers are written without zeros in front, as the grammar asks. -/
theorem wholePart_writeNumber (number : Nat) {rest : List Char} (ends : EndsNumber rest) :
    wholePart (writeNumber number ++ rest) = .ok (writeNumber number, rest) := by
  rcases Nat.eq_zero_or_pos number with rfl | positive
  · have zero : writeNumber 0 = ['0'] := rfl
    rw [zero, List.singleton_append]
    cases rest with
    | nil => rfl
    | cons next further =>
        exact if_neg (Bool.eq_false_iff.mp (ends next rfl).1)
  · obtain ⟨first, further, digits⟩ := List.exists_cons_of_ne_nil (writeNumber_ne_nil number)
    have noZero : first ≠ '0' := by
      rintro rfl
      exact head?_writeNumber positive (by rw [digits]; rfl)
    have decimal : ∀ digit ∈ writeNumber number, Digits.isDecimal digit = true :=
      fun _ member => isDecimal_of_mem_writeNumber member
    obtain ⟨taken, left⟩ := span_append decimal ends
    rw [digits] at taken left ⊢
    unfold wholePart
    split
    · next same => exact absurd (List.cons.inj same).1 noZero
    · rw [Json.digits, taken, left]

/-- The scanner takes the digits of a written number, and no more. -/
theorem numberText_writeNumber (number : Nat) {rest : List Char} (ends : EndsNumber rest) :
    numberText (writeNumber number ++ rest) = .ok (writeNumber number, rest) := by
  obtain ⟨first, further, digits⟩ := List.exists_cons_of_ne_nil (writeNumber_ne_nil number)
  have decimal : Digits.isDecimal first = true :=
    isDecimal_of_mem_writeNumber (by rw [digits]; exact List.mem_cons_self)
  have noSign : first ≠ '-' := by
    rintro rfl
    cases decimal
  have fraction : fractionPart rest = .ok ([], rest) := by
    cases rest with
    | nil => rfl
    | cons next after =>
        rw [fractionPart]
        exact fun _ same => absurd (List.cons.inj same).1 (ends next rfl).2.1
  have power : powerPart rest = .ok ([], rest) := by
    cases rest with
    | nil => rfl
    | cons next after =>
        have noMark : ¬ (next = 'e' ∨ next = 'E') :=
          fun mark => mark.elim (ends next rfl).2.2.1 (ends next rfl).2.2.2
        exact if_neg noMark
  have unsigned : unsignedNumber (writeNumber number ++ rest) =
      .ok (writeNumber number, rest) := by
    rw [unsignedNumber, wholePart_writeNumber number ends]
    simp [bind, Except.bind, pure, Except.pure, fraction, power]
  rw [← unsigned, digits, List.cons_append, numberText]
  exact fun _ same => absurd (List.cons.inj same).1 noSign

/-! ## Values -/

theorem le_foldl_digits (digits : List Char) (start : Nat) :
    start ≤ digits.foldl
      (fun number digit => number * 10 + (Digits.decimalValue? digit).getD 0) start := by
  induction digits generalizing start with
  | nil => exact Nat.le_refl start
  | cons digit further inductionHypothesis =>
      rw [List.foldl_cons]
      have later := inductionHypothesis (start * 10 + (Digits.decimalValue? digit).getD 0)
      omega

/-- Digits whose number fits are all taken. -/
theorem takeDigits_eq {digits : List Char} {start number : Nat}
    (value : digits.foldl
      (fun number digit => number * 10 + (Digits.decimalValue? digit).getD 0) start = number)
    (fits : number ≤ Numeral.greatestNatural) :
    Numeral.takeDigits start digits = (number, 0) := by
  induction digits generalizing start with
  | nil =>
      rw [Numeral.takeDigits, ← value]
      rfl
  | cons digit further inductionHypothesis =>
      rw [List.foldl_cons] at value
      have partBelow :=
        le_foldl_digits further (start * 10 + (Digits.decimalValue? digit).getD 0)
      rw [Numeral.takeDigits, if_pos (by omega)]
      exact inductionHypothesis value

/-- A number of 64 bits stands for itself. -/
theorem ofText?_writeNumber {number : Nat} (fits : number ≤ Numeral.greatestNatural) :
    Numeral.ofText? (writeNumber number) = some (.natural number) := by
  have decimal : ∀ digit ∈ writeNumber number, Digits.isDecimal digit = true :=
    fun _ member => isDecimal_of_mem_writeNumber member
  have noSign : (writeNumber number).head? ≠ some '-' := by
    intro sign
    cases decimal '-' (List.mem_of_mem_head? sign)
  obtain ⟨taken, left⟩ := span_append decimal (fun _ none => nomatch none : EndsNumber [])
  rw [List.append_nil] at taken left
  have parts : Numeral.Parts.ofText (writeNumber number) =
      ⟨false, writeNumber number, none, none⟩ := by
    have unsigned : ((writeNumber number).head? == some '-') = false := by simpa using noSign
    simp [Numeral.Parts.ofText, unsigned, taken, left]
  have digits := takeDigits_eq (decimalNumber_writeNumber number) fits
  simp [Numeral.ofText?, parts, digits]

end LiteralAudit.Json
