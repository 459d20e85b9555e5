import LiteralAudit.Proofs.Text.Cut

/-!
# Lossy decoding piece by piece

Bytes that start with no further byte of a sequence are read by themselves, whatever stands before
them. So text behind other bytes is read as this text, even if these bytes break off.
-/

namespace LiteralAudit.Utf8

theorem decodeLossy_cons {byte : UInt8} (ascii : byte < 0x80) (rest : List UInt8) :
    decodeLossy (byte :: rest) = Char.ofNat byte.toNat :: decodeLossy rest := by
  rw [decodeLossy]
  simp [step, ascii]

theorem isTail_of_secondBounds? {first second least greatest : UInt8}
    (bounds : secondBounds? first = some (least, greatest))
    (within : least ≤ second ∧ second ≤ greatest) : isTail second = true := by
  have inside : 0x80 ≤ least ∧ greatest ≤ 0xBF := by
    unfold secondBounds? at bounds
    split_ifs at bounds <;> cases bounds <;> decide
  rw [isTail, Bool.and_eq_true, decide_eq_true_eq, decide_eq_true_eq]
  exact ⟨UInt8.le_trans inside.1 within.1, UInt8.le_trans within.2 inside.2⟩

/-- These bytes go on with no sequence before them. -/
def StartsAnew (bytes : List UInt8) : Prop :=
  ∀ byte ∈ bytes.head?, isTail byte = false

/-- The bytes of a text start with the first byte of a character. -/
theorem startsAnew_bytes (text : List Char) : StartsAnew (bytes text) := by
  cases text with
  | nil => nofun
  | cons character further =>
      obtain ⟨first, tail, encoded, isLead, -⟩ := exists_lead character
      rw [bytes_cons, encoded, List.cons_append]
      rintro byte ⟨⟩
      exact isLead

section

variable {back : List UInt8} (anew : StartsAnew back)

include anew

theorem takeWhile_isTail_take (count : Nat) : (back.take count).takeWhile isTail = [] := by
  cases back with
  | nil => rw [List.take_nil, List.takeWhile_nil]
  | cons first later =>
      cases count with
      | zero => rfl
      | succ count => rw [List.take_succ_cons, List.takeWhile_cons_of_neg (by simp [anew first rfl])]

theorem takeWhile_isTail_append (front : List UInt8) (count : Nat) :
    ((front ++ back).take count).takeWhile isTail = (front.take count).takeWhile isTail := by
  rw [List.take_append, List.takeWhile_append, takeWhile_isTail_take anew,
    List.append_nil]
  split
  · next whole => exact ((List.takeWhile_prefix _).eq_of_length whole).symm
  · rfl

/-- A character or a broken piece takes none of the bytes that start anew. -/
theorem sequenceTail_append (first : UInt8) (rest : List UInt8) :
    sequenceTail first (rest ++ back) = sequenceTail first rest := by
  cases bounds : secondBounds? first with
  | none => simp only [sequenceTail, bounds]
  | some pair =>
      obtain ⟨least, greatest⟩ := pair
      cases rest with
      | cons second later =>
          simp only [sequenceTail, bounds, List.cons_append, takeWhile_isTail_append anew]
      | nil =>
          cases back with
          | nil => rfl
          | cons second later =>
              have outside : ¬ (least ≤ second ∧ second ≤ greatest) := by
                intro within
                have isTailByte := isTail_of_secondBounds? bounds within
                rw [anew second rfl] at isTailByte
                cases isTailByte
              simpa [sequenceTail, bounds] using outside

theorem step_append (first : UInt8) (rest : List UInt8) :
    step first (rest ++ back) = step first rest := by
  rw [step, step, sequenceTail_append anew]

omit anew in
theorem step_length_le (first : UInt8) (rest : List UInt8) : (step first rest).2 ≤ rest.length := by
  have tail : (sequenceTail first rest).length ≤ rest.length := by
    unfold sequenceTail
    split
    · next second later _ =>
        split
        · rw [List.length_cons, List.length_cons]
          exact Nat.succ_le_succ
            (Nat.le_trans (List.takeWhile_prefix _).length_le (List.length_take_le' _ _))
        · exact Nat.zero_le _
    · exact Nat.zero_le _
  unfold step
  split
  · exact Nat.zero_le _
  · dsimp only
    split
    · exact tail
    · exact tail

/-- Broken pieces stay apart where a sequence starts anew. -/
theorem decodeLossy_append (front : List UInt8) :
    decodeLossy (front ++ back) = decodeLossy front ++ decodeLossy back := by
  induction front using decodeLossy.induct with
  | case1 => rw [List.nil_append, decodeLossy, List.nil_append]
  | case2 first rest character taken read inductionHypothesis =>
      have within := step_length_le first rest
      rw [read] at within
      rw [List.cons_append, decodeLossy, decodeLossy, step_append anew, read]
      dsimp only
      rw [List.drop_append_of_le_length within, inductionHypothesis, List.cons_append]

end

/-- Text behind other bytes is read as this text. -/
theorem decodeLossy_append_bytes (front : List UInt8) (text : List Char) :
    decodeLossy (front ++ bytes text) = decodeLossy front ++ text := by
  rw [decodeLossy_append (startsAnew_bytes text), decodeLossy_bytes]

end LiteralAudit.Utf8
