import LiteralAudit.Proofs.Text.Encoding

/-!
# Encoded text is cut where characters meet

A part of encoded text lies between two places, which are counted in bytes. A cut has a fault if one
of them is behind the end of the text or between the bytes of a character, and only then.
-/

namespace LiteralAudit.Utf8

/-- A cut between places where a text cannot be cut. -/
structure CutFault where
  length : Nat
  start : Nat
  stop : Nat
  deriving DecidableEq, Repr

/-- Whether characters meet at a place: the start, the end, or a byte that continues none. -/
def isBoundary (text : List UInt8) (place : Nat) : Bool :=
  place == 0 || place == text.length || text[place]?.any (!isTail ·)

def cut (text : List UInt8) (start stop : Nat) : Except CutFault (List UInt8) :=
  if start ≤ stop ∧ isBoundary text start ∧ isBoundary text stop then
    .ok ((text.take stop).drop start)
  else .error ⟨text.length, start, stop⟩

def cutFrom (text : List UInt8) (start : Nat) : Except CutFault (List UInt8) :=
  cut text start text.length

theorem isBoundary_iff {text : List UInt8} {place : Nat} :
    isBoundary text place = true ↔
      place = 0 ∨ place = text.length ∨ ∃ byte, text[place]? = some byte ∧ isTail byte = false := by
  simp [isBoundary, or_assoc, Option.any_eq_true]

/-- A cut succeeds between two boundaries in their order. -/
theorem cut_eq_ok_iff {text part : List UInt8} {start stop : Nat} :
    cut text start stop = .ok part ↔
      (start ≤ stop ∧ isBoundary text start = true ∧ isBoundary text stop = true) ∧
        (text.take stop).drop start = part := by
  rw [cut]
  split
  · next holds => simp [holds]
  · next fails => simp [fails]

/-- A part has as many bytes as lie between its places. -/
theorem length_of_cut {text part : List UInt8} {start stop : Nat}
    (found : cut text start stop = .ok part) :
    start ≤ stop ∧ stop ≤ text.length ∧ part.length = stop - start := by
  obtain ⟨⟨order, -, boundary⟩, rfl⟩ := cut_eq_ok_iff.mp found
  have within : stop ≤ text.length := by
    rcases isBoundary_iff.mp boundary with first | last | ⟨byte, inside, -⟩
    · omega
    · omega
    · exact Nat.le_of_lt (List.getElem?_eq_some_iff.mp inside).1
  refine ⟨order, within, ?_⟩
  rw [List.length_drop, List.length_take, Nat.min_eq_left within]

/-! ## Bytes of characters -/

def bytes (text : List Char) : List UInt8 :=
  text.flatMap String.utf8EncodeChar

theorem bytes_cons (character : Char) (text : List Char) :
    bytes (character :: text) = String.utf8EncodeChar character ++ bytes text :=
  List.flatMap_cons

theorem bytes_append (front back : List Char) : bytes (front ++ back) = bytes front ++ bytes back :=
  List.flatMap_append

theorem length_bytes (text : List Char) : (bytes text).length = byteCount text := rfl

theorem byteCount_cons (character : Char) (text : List Char) :
    byteCount (character :: text) =
      (String.utf8EncodeChar character).length + byteCount text := by
  rw [← length_bytes, bytes_cons, List.length_append, length_bytes]

theorem byteCount_append (front back : List Char) :
    byteCount (front ++ back) = byteCount front + byteCount back := by
  rw [← length_bytes, bytes_append, List.length_append, length_bytes, length_bytes]

theorem decodeLossy_bytes (text : List Char) : decodeLossy (bytes text) = text := by
  induction text with
  | nil => rw [bytes, List.flatMap_nil, decodeLossy]
  | cons character further inductionHypothesis =>
      obtain ⟨first, tail, encoded, read⟩ := step_utf8EncodeChar character
      rw [bytes_cons, encoded, List.cons_append, decodeLossy, read]
      simp only [List.drop_left, inductionHypothesis, Option.getD_some]

/-- Different texts have different encodings. -/
theorem bytes_injective {left right : List Char} (same : bytes left = bytes right) :
    left = right := by
  rw [← decodeLossy_bytes left, same, decodeLossy_bytes]

theorem isTail_ofNat_iff {code : Nat} (isByte : code < 256) :
    isTail (UInt8.ofNat code) = true ↔ 0x80 ≤ code ∧ code ≤ 0xBF := by
  rw [isTail, Bool.and_eq_true, decide_eq_true_eq, decide_eq_true_eq]
  exact and_congr (UInt8.ofNat_le_iff_le (by decide) isByte)
    (UInt8.ofNat_le_iff_le isByte (by decide))

theorem isTail_lead {code : Nat} (isByte : code < 256) (isLead : code < 0x80 ∨ 0xBF < code) :
    isTail (UInt8.ofNat code) = false := by
  apply Bool.eq_false_iff.mpr
  intro tail
  have within := (isTail_ofNat_iff isByte).mp tail
  omega

/-- A character has one byte that starts it, and the others continue it. -/
theorem exists_lead (character : Char) :
    ∃ first tail, String.utf8EncodeChar character = first :: tail ∧ isTail first = false ∧
      ∀ byte ∈ tail, isTail byte = true := by
  rw [String.utf8EncodeChar]
  generalize character.val.toNat = code
  split
  · exact ⟨_, _, rfl, isTail_lead (by omega) (by omega), List.forall_mem_nil _⟩
  split
  · refine ⟨_, _, rfl, isTail_lead (by omega) (by omega), ?_⟩
    exact List.forall_mem_singleton.mpr (isTail_ofNat code)
  split
  · refine ⟨_, _, rfl, isTail_lead (by omega) (by omega), ?_⟩
    exact List.forall_mem_cons.mpr
      ⟨isTail_ofNat (code / 64), List.forall_mem_singleton.mpr (isTail_ofNat code)⟩
  · refine ⟨_, _, rfl, isTail_lead (by omega) (by omega), ?_⟩
    exact List.forall_mem_cons.mpr ⟨isTail_ofNat (code / 4096), List.forall_mem_cons.mpr
      ⟨isTail_ofNat (code / 64), List.forall_mem_singleton.mpr (isTail_ofNat code)⟩⟩

/-- A byte of seven bits is a character by itself. -/
theorem utf8EncodeChar_of_mem {character : Char} {byte : UInt8}
    (member : byte ∈ String.utf8EncodeChar character) (ascii : byte < 0x80) :
    character = Char.ofNat byte.toNat := by
  obtain ⟨first, tail, encoded, read⟩ := step_utf8EncodeChar character
  obtain ⟨lead, tails, sameEncoding, -, areTails⟩ := exists_lead character
  obtain ⟨rfl, rfl⟩ := List.cons.inj (sameEncoding.symm.trans encoded)
  rw [encoded] at member
  rcases List.mem_cons.mp member with rfl | inTail
  · have readByte := read []
    rw [step, if_pos ascii] at readByte
    exact (Option.some.inj (Prod.mk.inj readByte).1).symm
  · have tail := areTails byte inTail
    rw [isTail, Bool.and_eq_true, decide_eq_true_eq] at tail
    exact absurd ascii (UInt8.not_lt.mpr tail.1)

/-- A text that starts with such a byte starts with its character. -/
theorem exists_cons_of_bytes {text : List Char} {byte : UInt8} {rest : List UInt8}
    (order : bytes text = byte :: rest) (ascii : byte < 0x80) :
    ∃ further, text = Char.ofNat byte.toNat :: further := by
  cases text with
  | nil => cases order
  | cons character further =>
      obtain ⟨first, tail, encoded, -⟩ := exists_lead character
      rw [bytes_cons, encoded] at order
      obtain ⟨rfl, -⟩ := List.cons.inj order
      have member : first ∈ String.utf8EncodeChar character := by
        rw [encoded]
        exact List.mem_cons_self
      exact ⟨further, congrArg (· :: further) (utf8EncodeChar_of_mem member ascii)⟩

/-! ## Cuts between characters -/

/-- A boundary behind a front is one of what follows the front. -/
theorem isBoundary_of_append {front back : List UInt8} {place : Nat}
    (boundary : isBoundary (front ++ back) (front.length + place) = true) :
    isBoundary back place = true := by
  apply isBoundary_iff.mpr
  rcases isBoundary_iff.mp boundary with first | last | ⟨byte, found, lead⟩
  · exact .inl (by omega)
  · rw [List.length_append] at last
    exact .inr (.inl (by omega))
  · rw [List.getElem?_append_right (Nat.le_add_right _ _), Nat.add_sub_cancel_left] at found
    exact .inr (.inr ⟨byte, found, lead⟩)

/-- Between the bytes of a character no others meet. -/
theorem not_isBoundary_inside {character : Char} {place : Nat} (rest : List UInt8)
    (behindStart : 0 < place) (inside : place < (String.utf8EncodeChar character).length) :
    ¬ isBoundary (String.utf8EncodeChar character ++ rest) place = true := by
  intro boundary
  obtain ⟨first, tail, encoded, -, tails⟩ := exists_lead character
  rw [encoded] at boundary inside
  rw [List.length_cons] at inside
  rcases isBoundary_iff.mp boundary with start | stop | ⟨byte, found, lead⟩
  · omega
  · simp only [List.length_append, List.length_cons] at stop
    omega
  · obtain ⟨index, rfl⟩ := Nat.exists_eq_succ_of_ne_zero (Nat.ne_of_gt behindStart)
    have indexInside : index < tail.length := by omega
    rw [List.cons_append, List.getElem?_cons_succ, List.getElem?_append_left indexInside] at found
    have tailByte := tails byte (List.mem_of_getElem? found)
    rw [lead] at tailByte
    cases tailByte

/-- Characters meet at a place exactly when the bytes before it are those of the first ones. -/
theorem isBoundary_bytes_iff {text : List Char} {place : Nat} :
    isBoundary (bytes text) place = true ↔
      ∃ front back, text = front ++ back ∧ place = byteCount front := by
  constructor
  · intro boundary
    induction text generalizing place with
    | nil =>
        rcases isBoundary_iff.mp boundary with first | last | ⟨byte, found, -⟩
        · exact ⟨[], [], rfl, first⟩
        · exact ⟨[], [], rfl, last⟩
        · cases found
    | cons character further inductionHypothesis =>
        rw [bytes_cons] at boundary
        by_cases start : place = 0
        · exact ⟨[], character :: further, rfl, start⟩
        by_cases inside : place < (String.utf8EncodeChar character).length
        · exact absurd boundary (not_isBoundary_inside _ (Nat.pos_of_ne_zero start) inside)
        · obtain ⟨offset, rfl⟩ := Nat.exists_eq_add_of_le (Nat.le_of_not_lt inside)
          obtain ⟨front, back, rfl, rfl⟩ := inductionHypothesis (isBoundary_of_append boundary)
          refine ⟨character :: front, back, rfl, ?_⟩
          rw [byteCount_cons]
  · rintro ⟨front, back, rfl, rfl⟩
    apply isBoundary_iff.mpr
    rw [bytes_append]
    cases back with
    | nil => exact .inr (.inl (by simp [bytes, byteCount]))
    | cons character further =>
        obtain ⟨first, tail, encoded, lead, -⟩ := exists_lead character
        refine .inr (.inr ⟨first, ?_, lead⟩)
        rw [bytes_cons, encoded, ← length_bytes, List.getElem?_append_right (Nat.le_refl _),
          Nat.sub_self]
        rfl

theorem byteCount_eq_zero_iff {text : List Char} : byteCount text = 0 ↔ text = [] := by
  constructor
  · intro none
    have noBytes : bytes text = bytes [] := List.eq_nil_of_length_eq_zero none
    exact bytes_injective noBytes
  · rintro rfl
    rfl

theorem drop_take_bytes (front middle back : List Char) :
    ((bytes (front ++ middle ++ back)).take (byteCount (front ++ middle))).drop (byteCount front) =
      bytes middle := by
  rw [bytes_append, ← length_bytes, ← length_bytes, List.take_left, bytes_append, List.drop_left]

/-- A cut has no fault exactly when it takes the bytes of some characters that follow each other. -/
theorem cut_bytes_eq_ok_iff {text : List Char} {start stop : Nat} {part : List UInt8} :
    cut (bytes text) start stop = .ok part ↔
      ∃ front middle back, text = front ++ middle ++ back ∧ start = byteCount front ∧
        stop = byteCount (front ++ middle) ∧ part = bytes middle := by
  rw [cut_eq_ok_iff, isBoundary_bytes_iff, isBoundary_bytes_iff]
  constructor
  · rintro ⟨⟨order, ⟨front, behindStart, split, rfl⟩, ⟨untilStop, back, rfl, rfl⟩⟩, rfl⟩
    rcases List.append_eq_append_iff.mp split with
      ⟨overlap, sameFront, -⟩ | ⟨middle, rfl, -⟩
    · -- The places are in order, so that the characters before the first one come first.
      rw [sameFront, byteCount_append] at order
      obtain rfl := byteCount_eq_zero_iff.mp (show byteCount overlap = 0 by omega)
      rw [List.append_nil] at sameFront
      subst sameFront
      refine ⟨front, [], back, by rw [List.append_nil], rfl, by rw [List.append_nil], ?_⟩
      have part := drop_take_bytes front [] back
      rwa [List.append_nil] at part
    · exact ⟨front, middle, back, rfl, rfl, rfl, drop_take_bytes front middle back⟩
  · rintro ⟨front, middle, back, rfl, rfl, rfl, rfl⟩
    have order : byteCount front ≤ byteCount (front ++ middle) := by
      rw [byteCount_append]
      exact Nat.le_add_right _ _
    exact ⟨⟨order, ⟨front, middle ++ back, List.append_assoc .., rfl⟩,
      front ++ middle, back, rfl, rfl⟩, drop_take_bytes front middle back⟩

section

variable {text : List Char} {start stop : Nat}

/-- Cutting at the lengths of encodings gives an encoding. -/
theorem cut_bytes (front middle back : List Char) (split : text = front ++ middle ++ back)
    (behindFront : start = byteCount front) (behindMiddle : stop = byteCount (front ++ middle)) :
    cut (bytes text) start stop = .ok (bytes middle) :=
  cut_bytes_eq_ok_iff.mpr ⟨front, middle, back, split, behindFront, behindMiddle, rfl⟩

theorem cutFrom_bytes (front back : List Char) (split : text = front ++ back)
    (behindFront : start = byteCount front) :
    cutFrom (bytes text) start = .ok (bytes back) := by
  apply cut_bytes front back [] _ behindFront
  · rw [← split]
    rfl
  · rw [List.append_nil, split]

end

/-- The last byte of a character is no part of a text. -/
example : cut (bytes ['é']) 1 2 = .error ⟨2, 1, 2⟩ := rfl

end LiteralAudit.Utf8
