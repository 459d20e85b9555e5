import LiteralAudit.Proofs.Record.Tag
import LiteralAudit.Proofs.Success
import LiteralAudit.Proofs.Text.Cut

/-!
# Tags are read in their encoding

A tag can be read where it stands, by places in its bytes: the name is found by its characters, the
closing quote of the value byte by byte, and both are cut out of the text. A backslash then takes
one byte along, which may be the first one of several that make a character. The others are passed
over, as no byte of a longer character is a quote or a backslash. So reading finds the same pairs,
cuts only where characters meet, and leaves less of the tag with each pair.
-/

namespace LiteralAudit

/-- One named value of a tag, as it is encoded. -/
structure EncodedPair where
  name : List UInt8
  written : List UInt8
  deriving DecidableEq, Repr

def TagPair.encoded (pair : TagPair) : EncodedPair :=
  ⟨Utf8.bytes pair.name, Utf8.bytes pair.written⟩

namespace Tag

open Utf8

/-! ## Reading by places -/

def blankByte : UInt8 := 0x20

def colonByte : UInt8 := 0x3A

def quoteByte : UInt8 := 0x22

def escapeByte : UInt8 := 0x5C

/-- The place of the first character that ends a name, or the end of the text. -/
def nameEnd (text : List UInt8) : Nat :=
  byteCount ((decodeLossy text).takeWhile (!endsName ·))

/-- The place of the closing quote of a value, looked for from a place on. A backslash takes the
byte after it along. -/
def closingPlace? (text : List UInt8) (place : Nat) : Option Nat :=
  if inside : place < text.length then
    if text[place] = quoteByte then some place
    else if text[place] = escapeByte then closingPlace? text (place + 2)
    else closingPlace? text (place + 1)
  else none
termination_by text.length - place

/-- The value that an opening quote starts, and the rest behind its closing quote. -/
def cutValue? (text : List UInt8) : Except CutFault (Option (List UInt8 × List UInt8)) :=
  match closingPlace? text 1 with
  | none => .ok none
  | some place => do
      let written ← cut text 1 place
      let rest ← cutFrom text (place + 1)
      return some (written, rest)

/-- The pair that a tag starts with, and the rest behind it. -/
def cutPair? (tag : List UInt8) : Except CutFault (Option (EncodedPair × List UInt8)) :=
  let trimmed := tag.dropWhile (· == blankByte)
  let place := nameEnd trimmed
  if place = 0 then .ok none
  else do
    let behindName ← cutFrom trimmed place
    if [colonByte, quoteByte].isPrefixOf behindName then
      let name ← cut trimmed 0 place
      let value ← cutFrom trimmed (place + 1)
      let found ← cutValue? value
      return found.map fun (written, rest) => (⟨name, written⟩, rest)
    else return none

theorem length_of_cutValue? {text written rest : List UInt8}
    (found : cutValue? text = .ok (some (written, rest))) : rest.length < text.length := by
  unfold cutValue? at found
  split at found
  · cases found
  · obtain ⟨behindQuote, -, found⟩ := bind_eq_ok found
    obtain ⟨behind, cutRest, found⟩ := bind_eq_ok found
    obtain ⟨-, rfl⟩ := Prod.mk.inj (Option.some.inj (Except.ok.inj found))
    have length := length_of_cut cutRest
    omega

/-- Each pair leaves less of a tag, whatever bytes it is made of. -/
theorem length_of_cutPair? {tag rest : List UInt8} {pair : EncodedPair}
    (found : cutPair? tag = .ok (some (pair, rest))) : rest.length < tag.length := by
  unfold cutPair? at found
  dsimp only at found
  split at found
  · cases found
  obtain ⟨behindName, -, found⟩ := bind_eq_ok found
  split at found
  · obtain ⟨name, -, found⟩ := bind_eq_ok found
    obtain ⟨value, cutValue, found⟩ := bind_eq_ok found
    obtain ⟨next, readNext, found⟩ := bind_eq_ok found
    obtain ⟨⟨written, behind⟩, rfl, same⟩ := Option.map_eq_some_iff.mp (Except.ok.inj found)
    obtain ⟨-, rfl⟩ := Prod.mk.inj same
    have trimmed := List.length_dropWhile_le (· == blankByte) tag
    have length := length_of_cut cutValue
    calc
      behind.length < value.length := length_of_cutValue? readNext
      _ ≤ tag.length := by omega
  · cases found

/-- The value of the first pair of a name. -/
def lookupEncoded? (tag name : List UInt8) : Except CutFault (Option String) :=
  match _found : cutPair? tag with
  | .error fault => .error fault
  | .ok none => .ok none
  | .ok (some (pair, rest)) =>
      if pair.name = name then .ok (some (String.ofList (unescape (decodeLossy pair.written))))
      else lookupEncoded? rest name
termination_by tag.length
decreasing_by exact length_of_cutPair? _found

/-! ## The closing quote -/

theorem closingPlace?_of_quote (before after : List UInt8) :
    closingPlace? (before ++ quoteByte :: after) before.length = some before.length := by
  rw [closingPlace?]
  simp

/-- A backslash takes the byte behind it along. -/
theorem closingPlace?_of_escape (before after : List UInt8) :
    closingPlace? (before ++ escapeByte :: after) before.length =
      closingPlace? (before ++ escapeByte :: after) (before.length + 2) := by
  rw [closingPlace?]
  simp [escapeByte, quoteByte]

theorem closingPlace?_of_le {text : List UInt8} {place : Nat} (behind : text.length ≤ place) :
    closingPlace? text place = none := by
  rw [closingPlace?, dif_neg (Nat.not_lt.mpr behind)]

/-- Bytes that are neither quotes nor backslashes are passed over. -/
theorem closingPlace?_skip (before after : List UInt8) {skipped : List UInt8}
    (plain : ∀ byte ∈ skipped, byte ≠ quoteByte ∧ byte ≠ escapeByte) :
    closingPlace? (before ++ skipped ++ after) before.length =
      closingPlace? (before ++ skipped ++ after) (before ++ skipped).length := by
  induction skipped generalizing before with
  | nil => rw [List.append_nil]
  | cons byte further inductionHypothesis =>
      rw [List.forall_mem_cons] at plain
      have passed : closingPlace? (before ++ byte :: further ++ after) before.length =
          closingPlace? (before ++ byte :: further ++ after) (before.length + 1) := by
        rw [closingPlace?]
        simp [plain.1]
      have next := inductionHypothesis (before ++ [byte]) plain.2
      rw [List.append_assoc before, List.singleton_append, List.length_append,
        List.length_singleton] at next
      rw [passed, next]

/-- Bytes behind the first one of a character are no marks. -/
theorem plain_of_isTail {byte : UInt8} (tail : isTail byte = true) :
    byte ≠ quoteByte ∧ byte ≠ escapeByte := by
  constructor
  · rintro rfl
    cases tail
  · rintro rfl
    cases tail

/-- No byte of another character is taken for a quote or a backslash. -/
theorem plain_of_mem {character : Char} (noQuote : character ≠ '"') (noEscape : character ≠ '\\') :
    ∀ byte ∈ String.utf8EncodeChar character, byte ≠ quoteByte ∧ byte ≠ escapeByte := by
  intro byte member
  constructor
  · rintro rfl
    exact noQuote (utf8EncodeChar_of_mem member (by decide))
  · rintro rfl
    exact noEscape (utf8EncodeChar_of_mem member (by decide))

/-- A backslash takes along the first byte of a character, and the others are passed over. -/
theorem closingPlace?_escaped (before after : List UInt8) (character : Char) :
    closingPlace? (before ++ escapeByte :: String.utf8EncodeChar character ++ after) before.length =
      closingPlace? (before ++ escapeByte :: String.utf8EncodeChar character ++ after)
        (before ++ escapeByte :: String.utf8EncodeChar character).length := by
  obtain ⟨first, tail, encoded, -, tails⟩ := exists_lead character
  have plain : ∀ byte ∈ tail, byte ≠ quoteByte ∧ byte ≠ escapeByte :=
    fun byte member => plain_of_isTail (tails byte member)
  have taken := closingPlace?_of_escape before (first :: tail ++ after)
  have skipped := closingPlace?_skip (before ++ [escapeByte, first]) after plain
  simp only [List.append_assoc, List.cons_append, List.nil_append, List.length_append,
    List.length_cons, List.length_nil] at taken skipped
  simp only [encoded, List.append_assoc, List.cons_append, List.length_append, List.length_cons]
  rw [taken, skipped, Nat.add_assoc]

/-- The closing quote that is found byte by byte is the one that is found by characters. -/
theorem closingPlace?_bytes (before : List UInt8) (text : List Char) :
    closingPlace? (before ++ bytes text) before.length =
      (splitValue? text).map fun split => before.length + byteCount split.1 := by
  fun_induction splitValue? text generalizing before with
  | case1 =>
      apply closingPlace?_of_le
      simp [bytes]
  | case2 =>
      have encoded : bytes ['\\'] = [escapeByte] := rfl
      rw [encoded, closingPlace?_of_escape]
      apply closingPlace?_of_le
      simp
  | case3 rest =>
      have encoded : bytes ('"' :: rest) = quoteByte :: bytes rest := rfl
      rw [encoded, closingPlace?_of_quote]
      rfl
  | case4 escaped rest inductionHypothesis =>
      have encoded : bytes ('\\' :: escaped :: rest) =
          escapeByte :: (String.utf8EncodeChar escaped ++ bytes rest) := rfl
      rw [encoded, ← List.cons_append, ← List.append_assoc, closingPlace?_escaped,
        inductionHypothesis, Option.map_map]
      apply Option.map_congr
      rintro ⟨value, after⟩ -
      have count : byteCount ('\\' :: escaped :: value) =
          (escapeByte :: String.utf8EncodeChar escaped).length + byteCount value := by
        have width : (String.utf8EncodeChar '\\').length = 1 := rfl
        rw [byteCount_cons, byteCount_cons, width, List.length_cons]
        omega
      show _ = before.length + byteCount ('\\' :: escaped :: value)
      rw [count, List.length_append, Nat.add_assoc]
  | case5 character rest notLast notQuote notEscape inductionHypothesis =>
      have noEscape := noEscape_of_alone notLast notEscape
      rw [bytes_cons, ← List.append_assoc, closingPlace?_skip _ _ (plain_of_mem notQuote noEscape),
        inductionHypothesis, Option.map_map]
      apply Option.map_congr
      rintro ⟨value, after⟩ -
      show _ = before.length + byteCount (character :: value)
      rw [byteCount_cons, List.length_append, Nat.add_assoc]

/-! ## Cuts without faults -/

/-- The cuts around a value fall between characters. -/
theorem cutValue?_bytes (text : List Char) :
    cutValue? (bytes ('"' :: text)) =
      .ok ((splitValue? text).map fun (value, after) => (bytes value, bytes after)) := by
  have place : closingPlace? (bytes ('"' :: text)) 1 =
      (splitValue? text).map fun split => 1 + byteCount split.1 :=
    closingPlace?_bytes [quoteByte] text
  unfold cutValue?
  rw [place]
  cases split : splitValue? text with
  | none => rfl
  | some parts =>
      obtain ⟨value, after⟩ := parts
      obtain rfl := splitValue?_join split
      have behindValue : 1 + byteCount value = byteCount (['"'] ++ value) :=
        (byteCount_append ['"'] value).symm
      have behindClosing : 1 + byteCount value + 1 = byteCount (['"'] ++ value ++ ['"']) := by
        rw [byteCount_append, ← behindValue]
        rfl
      have written : cut (bytes ('"' :: (value ++ '"' :: after))) 1 (1 + byteCount value) =
          .ok (bytes value) :=
        cut_bytes ['"'] value ('"' :: after) rfl rfl behindValue
      have rest : cutFrom (bytes ('"' :: (value ++ '"' :: after))) (1 + byteCount value + 1) =
          .ok (bytes after) :=
        cutFrom_bytes (['"'] ++ value ++ ['"']) after (by simp) behindClosing
      simp only [Option.map_some, written, rest]
      rfl

theorem dropWhile_bytes (text : List Char) :
    (bytes text).dropWhile (· == blankByte) = bytes (text.dropWhile (· == ' ')) := by
  induction text with
  | nil => rfl
  | cons character further inductionHypothesis =>
      by_cases isBlank : character = ' '
      · subst isBlank
        have encoded : bytes (' ' :: further) = blankByte :: bytes further := rfl
        rw [encoded, List.dropWhile_cons_of_pos (by simp), List.dropWhile_cons_of_pos (by simp),
          inductionHypothesis]
      · obtain ⟨first, tail, encoded, -⟩ := exists_lead character
        have notBlank : first ≠ blankByte := by
          rintro rfl
          apply isBlank
          exact utf8EncodeChar_of_mem (by rw [encoded]; exact List.mem_cons_self) (by decide)
        rw [List.dropWhile_cons_of_neg (by simpa using isBlank), bytes_cons, encoded,
          List.cons_append, List.dropWhile_cons_of_neg (by simpa using notBlank)]

/-- A name ends at the same place whether bytes or characters are looked at. -/
theorem nameEnd_bytes (text : List Char) :
    nameEnd (bytes text) = byteCount (text.takeWhile (!endsName ·)) := by
  rw [nameEnd, decodeLossy_bytes]

theorem isPrefixOf_bytes_iff {text : List Char} :
    [colonByte, quoteByte].isPrefixOf (bytes text) = true ↔
      ∃ value, text = ':' :: '"' :: value := by
  rw [List.isPrefixOf_iff_prefix]
  constructor
  · rintro ⟨rest, order⟩
    obtain ⟨further, rfl⟩ := exists_cons_of_bytes order.symm (by decide)
    have encoded : bytes (Char.ofNat colonByte.toNat :: further) = colonByte :: bytes further := rfl
    rw [encoded] at order
    obtain ⟨value, rfl⟩ := exists_cons_of_bytes (List.cons.inj order).2.symm (by decide)
    exact ⟨value, rfl⟩
  · rintro ⟨value, rfl⟩
    exact ⟨bytes value, rfl⟩

/-- Reading a pair by places has no fault, and finds the pair that is there. -/
theorem cutPair?_bytes (text : List Char) :
    cutPair? (bytes text) =
      .ok ((nextPair? text).map fun found => (found.1.encoded, bytes found.2)) := by
  have named := List.takeWhile_append_dropWhile (p := (!endsName ·))
    (l := text.dropWhile (· == ' '))
  unfold cutPair? nextPair?
  rw [dropWhile_bytes]
  dsimp only
  rw [nameEnd_bytes]
  generalize (text.dropWhile (· == ' ')).takeWhile (!endsName ·) = name at named
  generalize (text.dropWhile (· == ' ')).dropWhile (!endsName ·) = behind at named
  rw [← named]
  cases name with
  | nil => rfl
  | cons first further =>
      have filled : byteCount (first :: further) ≠ 0 :=
        fun none => List.cons_ne_nil first further (byteCount_eq_zero_iff.mp none)
      rw [if_neg filled, cutFrom_bytes _ _ rfl rfl]
      show (if [colonByte, quoteByte].isPrefixOf (bytes behind) = true then _ else _) = _
      by_cases opens : ∃ value, behind = ':' :: '"' :: value
      · rw [if_pos (isPrefixOf_bytes_iff.mpr opens)]
        obtain ⟨value, rfl⟩ := opens
        have behindColon : byteCount (first :: further) + 1 =
            byteCount (first :: further ++ [':']) :=
          (byteCount_append (first :: further) [':']).symm
        have cutName : cut (bytes (first :: further ++ ':' :: '"' :: value)) 0
            (byteCount (first :: further)) = .ok (bytes (first :: further)) :=
          cut_bytes [] (first :: further) (':' :: '"' :: value) rfl rfl rfl
        have cutBehind : cutFrom (bytes (first :: further ++ ':' :: '"' :: value))
            (byteCount (first :: further) + 1) = .ok (bytes ('"' :: value)) :=
          cutFrom_bytes (first :: further ++ [':']) ('"' :: value) (by simp) behindColon
        rw [cutName, cutBehind]
        show (cutValue? (bytes ('"' :: value)) >>= fun found => pure (found.map _)) = _
        rw [cutValue?_bytes]
        show Except.ok (((splitValue? value).map _).map _) = .ok (((splitValue? value).map _).map _)
        rw [Option.map_map, Option.map_map]
        rfl
      · rw [if_neg (mt isPrefixOf_bytes_iff.mp opens)]
        split
        · next value _ => exact absurd ⟨value, rfl⟩ opens
        · rfl

theorem lookupEncoded?_of_none {tag : List UInt8} (found : cutPair? tag = .ok none)
    (name : List UInt8) : lookupEncoded? tag name = .ok none := by
  unfold lookupEncoded?
  split
  · simp_all
  · rfl
  · simp_all

theorem lookupEncoded?_of_some {tag rest : List UInt8} {pair : EncodedPair}
    (found : cutPair? tag = .ok (some (pair, rest))) (name : List UInt8) :
    lookupEncoded? tag name =
      if pair.name = name then .ok (some (String.ofList (unescape (decodeLossy pair.written))))
      else lookupEncoded? rest name := by
  rw [lookupEncoded?]
  split
  · simp_all
  · simp_all
  · next found' =>
      rw [found] at found'
      obtain ⟨rfl, rfl⟩ := Prod.mk.inj (Option.some.inj (Except.ok.inj found'))
      rfl

/-- The scanner by bytes finds what the one by characters does. -/
theorem lookupEncoded?_bytes (tag : List Char) (name : String) :
    lookupEncoded? (bytes tag) (encode name) = .ok (lookup? (String.ofList tag) name) := by
  rw [lookup?, String.toList_ofList]
  generalize order : pairs tag = found
  induction found generalizing tag with
  | nil =>
      have ended : nextPair? tag = none := by
        cases next : nextPair? tag with
        | none => rfl
        | some first =>
            rw [pairs_eq_cons next] at order
            cases order
      have cutNone := cutPair?_bytes tag
      rw [ended] at cutNone
      exact lookupEncoded?_of_none cutNone _
  | cons pair others inductionHypothesis =>
      cases next : nextPair? tag with
      | none =>
          rw [pairs_eq_nil next] at order
          cases order
      | some first =>
          obtain ⟨firstPair, rest⟩ := first
          rw [pairs_eq_cons next] at order
          obtain ⟨rfl, orderBehind⟩ := List.cons.inj order
          have cutFirst := cutPair?_bytes tag
          rw [next] at cutFirst
          rw [lookupEncoded?_of_some cutFirst, inductionHypothesis rest orderBehind]
          by_cases named : firstPair.name = name.toList
          · have sameBytes : firstPair.encoded.name = encode name := congrArg bytes named
            have written : decodeLossy firstPair.encoded.written = firstPair.written :=
              decodeLossy_bytes firstPair.written
            rw [if_pos sameBytes, List.find?_cons_of_pos (by simpa using named), written]
            rfl
          · have otherBytes : firstPair.encoded.name ≠ encode name :=
              fun same => named (bytes_injective same)
            rw [if_neg otherBytes, List.find?_cons_of_neg (by simpa using named)]

/-- Reading a tag in its encoding has no fault and gives the same answer. Each pair is read without
a fault and leaves less of the tag, the closing quote that is found byte by byte is the one that is
found by characters, and a cut without a fault is one between characters of the text. -/
theorem lookupEncoded?_without_faults (tag name : String) :
    lookupEncoded? (encode tag) (encode name) = .ok (lookup? tag name) ∧
      (∀ rest, cutPair? (bytes rest) =
        .ok ((nextPair? rest).map fun found => (found.1.encoded, bytes found.2))) ∧
      (∀ rest pair behind, cutPair? rest = .ok (some (pair, behind)) →
        behind.length < rest.length) ∧
      (∀ value, closingPlace? (bytes ('"' :: value)) 1 =
        (splitValue? value).map fun split => 1 + byteCount split.1) ∧
      ∀ text start stop, (∃ part, cut (bytes text) start stop = .ok part) ↔
        ∃ front middle back, text = front ++ middle ++ back ∧ start = byteCount front ∧
          stop = byteCount (front ++ middle) := by
  refine ⟨?_, cutPair?_bytes, fun _ _ _ => length_of_cutPair?, ?_, ?_⟩
  · have found := lookupEncoded?_bytes tag.toList name
    rw [String.ofList_toList] at found
    exact found
  · exact closingPlace?_bytes [quoteByte]
  · intro text start stop
    simp only [cut_bytes_eq_ok_iff]
    constructor
    · rintro ⟨part, front, middle, back, split, behindFront, behindMiddle, -⟩
      exact ⟨front, middle, back, split, behindFront, behindMiddle⟩
    · rintro ⟨front, middle, back, split, behindFront, behindMiddle⟩
      exact ⟨bytes middle, front, middle, back, split, behindFront, behindMiddle, rfl⟩

end Tag

end LiteralAudit
