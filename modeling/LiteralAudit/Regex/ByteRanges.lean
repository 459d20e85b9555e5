import LiteralAudit.Unicode.CharSet

/-!
# Ranges of characters as ranges of bytes

The UTF-8 encodings of the characters of a range are those of a few sequences of byte ranges. All
encodings of a sequence are equally long, and each choice of bytes from its ranges is one of them.
The sequences of a range come in the order of its characters.
-/

namespace LiteralAudit.ByteRanges

/-- Ranges for the bytes of a character, the first byte first. -/
abbrev Sequence : Type := List CharRange

/-- All bytes that may follow the first byte of a character. -/
def anyTail : CharRange := ⟨0x80, 0xBF⟩

/-- The sequences of the codes from `first` to `last` in digits to the base of 64, where `tail`
digits follow the first one, which counts from `base` on. -/
def ofDigits : (tail base first last : Nat) → List Sequence
  | 0, base, first, last => [[⟨base + first, base + last⟩]]
  | tail + 1, base, first, last =>
      let block := Nat.pow 64 (tail + 1)
      let low := first % block
      let high := last % block
      let head := first / block
      let foot := last / block
      let behind (digit low high : Nat) : List Sequence :=
        (ofDigits tail 0x80 low high).map (⟨base + digit, base + digit⟩ :: ·)
      if head = foot then behind head low high
      else
        let firstFull := if low = 0 then head else head + 1
        let beyondFull := if high = block - 1 then foot + 1 else foot
        (if low = 0 then [] else behind head low (block - 1)) ++
          (if firstFull < beyondFull then
            [⟨base + firstFull, base + (beyondFull - 1)⟩ :: List.replicate (tail + 1) anyTail]
          else []) ++
          (if high = block - 1 then [] else behind foot 0 high)

/-- The sequences of the characters of a range whose encodings have `tail` bytes after the first
one: those from `first` to `last`. -/
def ofPart (range : CharRange) (first last tail base : Nat) : List Sequence :=
  match range.inter? ⟨first, last⟩ with
  | some part => ofDigits tail base part.first part.last
  | none => []

/-- The sequences of a range. The codes of surrogates have none. -/
def ofRange (range : CharRange) : List Sequence :=
  ofPart range 0 0x7F 0 0 ++ ofPart range 0x80 0x7FF 1 0xC0 ++
    ofPart range 0x800 Alphabet.beforeSurrogates 2 0xE0 ++
    ofPart range Alphabet.afterSurrogates 0xFFFF 2 0xE0 ++
    ofPart range 0x10000 Alphabet.characters.greatest 3 0xF0

def ofSet (members : CharSet) : List Sequence :=
  members.ranges.flatMap ofRange

end LiteralAudit.ByteRanges
