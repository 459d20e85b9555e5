import LiteralAudit.Text.Utf8
import Mathlib.Data.List.TakeWhile

/-!
# Encoded text is decoded

The bytes of a text are decoded to its characters: each character is encoded as one first byte and
the further bytes that this byte asks for.
-/

namespace LiteralAudit.Utf8

theorem sequenceTail_of_secondBounds? {first second least greatest : UInt8} {tail : List UInt8}
    (bounds : secondBounds? first = some (least, greatest))
    (within : least ≤ second ∧ second ≤ greatest)
    (tails : ∀ byte ∈ tail, isTail byte = true)
    (count : tailCount first = tail.length + 1) (rest : List UInt8) :
    sequenceTail first (second :: tail ++ rest) = second :: tail := by
  have taken : ((tail ++ rest).take (tailCount first - 1)).takeWhile isTail = tail := by
    rw [count, Nat.add_sub_cancel, List.take_left]
    exact List.takeWhile_eq_self_iff.mpr tails
  simp only [sequenceTail, bounds, List.cons_append, taken]
  simp [within]

/-- A sequence that keeps to the bounds of its first byte is decoded in one step. -/
theorem step_of_secondBounds? {first second least greatest : UInt8} {tail : List UInt8}
    (bounds : secondBounds? first = some (least, greatest))
    (within : least ≤ second ∧ second ≤ greatest)
    (tails : ∀ byte ∈ tail, isTail byte = true)
    (count : tailCount first = tail.length + 1) (rest : List UInt8) :
    step first (second :: tail ++ rest) =
      (some (Char.ofNat ((second :: tail).foldl
        (fun bits byte => bits * 64 + (byte.toNat - 0x80)) (leadBits first))),
        (second :: tail).length) := by
  have long : ¬ first < 0x80 := by
    intro short
    rw [tailCount, if_pos short] at count
    omega
  rw [step, if_neg long, sequenceTail_of_secondBounds? bounds within tails count]
  simp [count]

/-! ## Bytes of a character -/

theorem ofNat_within (least code most : Nat) (isByte : most < 256)
    (within : least ≤ code ∧ code ≤ most) :
    UInt8.ofNat least ≤ UInt8.ofNat code ∧ UInt8.ofNat code ≤ UInt8.ofNat most := by
  have codeIsByte : code < 256 := within.2.trans_lt isByte
  exact ⟨(UInt8.ofNat_le_iff_le (within.1.trans_lt codeIsByte) codeIsByte).mpr within.1,
    (UInt8.ofNat_le_iff_le codeIsByte isByte).mpr within.2⟩

theorem isTail_ofNat (code : Nat) : isTail (UInt8.ofNat (code % 64 + 128)) = true := by
  rw [isTail, Bool.and_eq_true, decide_eq_true_eq, decide_eq_true_eq]
  exact ofNat_within 0x80 (code % 64 + 128) 0xBF (by decide) (by omega)

theorem toNat_tail (code : Nat) : (UInt8.ofNat (code % 64 + 128)).toNat - 0x80 = code % 64 := by
  have isByte : code % 64 + 128 < 256 := by omega
  rw [UInt8.toNat_ofNat_of_lt' isByte, Nat.add_sub_cancel]

/-! The first bytes of two, three and four, and the bounds that they set to the byte that follows:
no sequence encodes what a shorter one does, a surrogate, or more than the last character. -/

theorem leads_two : ∀ lead : Fin 32, 2 ≤ lead.val →
    secondBounds? (UInt8.ofNat (lead + 192)) = some (0x80, 0xBF) ∧
      tailCount (UInt8.ofNat (lead + 192)) = 1 ∧ leadBits (UInt8.ofNat (lead + 192)) = lead := by
  decide

theorem leads_three : ∀ lead : Fin 16,
    secondBounds? (UInt8.ofNat (lead + 224)) =
        some (UInt8.ofNat (if lead.val = 0 then 0xA0 else 0x80),
          UInt8.ofNat (if lead.val = 13 then 0x9F else 0xBF)) ∧
      tailCount (UInt8.ofNat (lead + 224)) = 2 ∧ leadBits (UInt8.ofNat (lead + 224)) = lead := by
  decide

theorem leads_four : ∀ lead : Fin 5,
    secondBounds? (UInt8.ofNat (lead + 240)) =
        some (UInt8.ofNat (if lead.val = 0 then 0x90 else 0x80),
          UInt8.ofNat (if lead.val = 4 then 0x8F else 0xBF)) ∧
      tailCount (UInt8.ofNat (lead + 240)) = 3 ∧ leadBits (UInt8.ofNat (lead + 240)) = lead := by
  decide

variable {code : Nat}

theorem step_one (most : code ≤ 0x7F) (rest : List UInt8) :
    step (UInt8.ofNat code) rest = (some (Char.ofNat code), 0) := by
  have isByte : code < 256 := by omega
  have short : UInt8.ofNat code < 0x80 := by
    rw [UInt8.lt_iff_toNat_lt, UInt8.toNat_ofNat_of_lt' isByte]
    exact Nat.lt_succ_of_le most
  rw [step, if_pos short, UInt8.toNat_ofNat_of_lt' isByte]

theorem step_two (least : 0x80 ≤ code) (most : code ≤ 0x7FF) (rest : List UInt8) :
    step (UInt8.ofNat (code / 64 % 32 + 192)) (UInt8.ofNat (code % 64 + 128) :: rest) =
      (some (Char.ofNat code), 1) := by
  obtain ⟨bounds, count, bits⟩ :=
    leads_two ⟨code / 64 % 32, by omega⟩ (by show 2 ≤ code / 64 % 32; omega)
  have within := ofNat_within 0x80 (code % 64 + 128) 0xBF (by decide) (by omega)
  have read := step_of_secondBounds? bounds within (List.forall_mem_nil _) count rest
  simp only [List.nil_append, List.cons_append, List.foldl_cons, List.foldl_nil, bits,
    toNat_tail] at read
  have sum : code / 64 % 32 * 64 + code % 64 = code := by omega
  rw [read, sum]
  rfl

/-- Surrogates have no sequence; all other characters of this length have one. -/
theorem step_three (least : 0x800 ≤ code) (most : code ≤ 0xFFFF)
    (isCharacter : code < 0xD800 ∨ 0xDFFF < code) (rest : List UInt8) :
    step (UInt8.ofNat (code / 4096 % 16 + 224))
        (UInt8.ofNat (code / 64 % 64 + 128) :: UInt8.ofNat (code % 64 + 128) :: rest) =
      (some (Char.ofNat code), 2) := by
  obtain ⟨bounds, count, bits⟩ := leads_three ⟨code / 4096 % 16, by omega⟩
  have within := ofNat_within (if code / 4096 % 16 = 0 then 0xA0 else 0x80)
    (code / 64 % 64 + 128) (if code / 4096 % 16 = 13 then 0x9F else 0xBF)
    (by split <;> decide) (by split <;> split <;> omega)
  have tails : ∀ byte ∈ [UInt8.ofNat (code % 64 + 128)], isTail byte = true :=
    List.forall_mem_singleton.mpr (isTail_ofNat code)
  have read := step_of_secondBounds? bounds within tails count rest
  simp only [List.nil_append, List.cons_append, List.foldl_cons, List.foldl_nil, bits,
    toNat_tail] at read
  have sum : (code / 4096 % 16 * 64 + code / 64 % 64) * 64 + code % 64 = code := by omega
  rw [read, sum]
  rfl

theorem step_four (least : 0x10000 ≤ code) (most : code ≤ 0x10FFFF) (rest : List UInt8) :
    step (UInt8.ofNat (code / 262144 % 8 + 240))
        (UInt8.ofNat (code / 4096 % 64 + 128) :: UInt8.ofNat (code / 64 % 64 + 128) ::
          UInt8.ofNat (code % 64 + 128) :: rest) =
      (some (Char.ofNat code), 3) := by
  obtain ⟨bounds, count, bits⟩ := leads_four ⟨code / 262144 % 8, by omega⟩
  have within := ofNat_within (if code / 262144 % 8 = 0 then 0x90 else 0x80)
    (code / 4096 % 64 + 128) (if code / 262144 % 8 = 4 then 0x8F else 0xBF)
    (by split <;> decide) (by split <;> split <;> omega)
  have tails : ∀ byte ∈ [UInt8.ofNat (code / 64 % 64 + 128), UInt8.ofNat (code % 64 + 128)],
      isTail byte = true :=
    List.forall_mem_cons.mpr
      ⟨isTail_ofNat _, List.forall_mem_singleton.mpr (isTail_ofNat code)⟩
  have read := step_of_secondBounds? bounds within tails count rest
  simp only [List.nil_append, List.cons_append, List.foldl_cons, List.foldl_nil, bits,
    toNat_tail] at read
  have sum :
      ((code / 262144 % 8 * 64 + code / 4096 % 64) * 64 + code / 64 % 64) * 64 + code % 64 =
        code := by
    omega
  rw [read, sum]
  rfl

/-- A character is encoded as a sequence that is read as this character. -/
theorem step_utf8EncodeChar (character : Char) :
    ∃ first tail, String.utf8EncodeChar character = first :: tail ∧
      ∀ rest, step first (tail ++ rest) = (some character, tail.length) := by
  have valid : character.val.toNat < 0xD800 ∨
      0xDFFF < character.val.toNat ∧ character.val.toNat < 0x110000 :=
    character.valid
  have same : Char.ofNat character.val.toNat = character := character.ofNat_toNat
  rw [String.utf8EncodeChar]
  -- One case for each number of bytes; a surrogate, of three bytes, is no character.
  generalize character.val.toNat = code at valid same ⊢
  subst same
  split
  case isTrue one => exact ⟨_, _, rfl, step_one one⟩
  split
  case isTrue two => exact ⟨_, _, rfl, step_two (by omega) two⟩
  split
  case isTrue three => exact ⟨_, _, rfl, step_three (by omega) three (by omega)⟩
  case isFalse four => exact ⟨_, _, rfl, step_four (by omega) (by omega)⟩

theorem decode?_utf8EncodeChar_append (character : Char) (rest : List UInt8) :
    decode? (String.utf8EncodeChar character ++ rest) = (decode? rest).map (character :: ·) := by
  obtain ⟨first, tail, encoded, read⟩ := step_utf8EncodeChar character
  rw [encoded, List.cons_append, decode?, read]
  simp only [List.drop_left]

/-- Decoding undoes encoding. -/
theorem decode?_encode (text : String) : decode? (encode text) = some text.toList := by
  rw [encode]
  induction text.toList with
  | nil => rw [List.flatMap_nil, decode?]
  | cons character further inductionHypothesis =>
      rw [List.flatMap_cons, decode?_utf8EncodeChar_append, inductionHypothesis]
      rfl

end LiteralAudit.Utf8
