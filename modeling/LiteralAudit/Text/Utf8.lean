/-!
# UTF-8

The encoding of text as bytes, strict decoding, and lossy decoding, in which each maximal piece that
cannot be continued to a character becomes one replacement character.
-/

namespace LiteralAudit.Utf8

def encode (text : String) : List UInt8 :=
  text.toList.flatMap String.utf8EncodeChar

def isTail (byte : UInt8) : Bool :=
  0x80 ≤ byte && byte ≤ 0xBF

/-- The least and the greatest second byte after a first byte, or nothing when the byte starts no
sequence of several bytes. -/
def secondBounds? (first : UInt8) : Option (UInt8 × UInt8) :=
  if 0xC2 ≤ first && first ≤ 0xDF then some (0x80, 0xBF)
  else if first == 0xE0 then some (0xA0, 0xBF)
  else if first == 0xED then some (0x80, 0x9F)
  else if 0xE1 ≤ first && first ≤ 0xEF then some (0x80, 0xBF)
  else if first == 0xF0 then some (0x90, 0xBF)
  else if 0xF1 ≤ first && first ≤ 0xF3 then some (0x80, 0xBF)
  else if first == 0xF4 then some (0x80, 0x8F)
  else none

/-- How many bytes follow a first byte. -/
def tailCount (first : UInt8) : Nat :=
  if first < 0x80 then 0 else if first < 0xE0 then 1 else if first < 0xF0 then 2 else 3

def leadBits (first : UInt8) : Nat :=
  if first < 0x80 then first.toNat
  else if first < 0xE0 then first.toNat - 0xC0
  else if first < 0xF0 then first.toNat - 0xE0
  else first.toNat - 0xF0

/-- The bytes after a first byte that belong to its sequence: all it asks for, or as many as fit. -/
def sequenceTail (first : UInt8) (rest : List UInt8) : List UInt8 :=
  match secondBounds? first, rest with
  | some (least, greatest), second :: later =>
      if least ≤ second && second ≤ greatest then
        second :: (later.take (tailCount first - 1)).takeWhile isTail
      else []
  | _, _ => []

/-- The character that starts at a first byte, if its sequence is complete, and the number of
further bytes that it, or the broken piece of it, takes up. -/
def step (first : UInt8) (rest : List UInt8) : Option Char × Nat :=
  if first < 0x80 then (some (Char.ofNat first.toNat), 0)
  else
    let tail := sequenceTail first rest
    if tail.length = tailCount first then
      let code := tail.foldl (fun bits byte => bits * 64 + (byte.toNat - 0x80)) (leadBits first)
      (some (Char.ofNat code), tail.length)
    else (none, tail.length)

/-- Decodes bytes, with a replacement character for each broken piece. -/
def decodeLossy : List UInt8 → List Char
  | [] => []
  | first :: rest =>
      let (character, taken) := step first rest
      character.getD '\uFFFD' :: decodeLossy (rest.drop taken)
termination_by bytes => bytes.length
decreasing_by simp only [List.length_drop, List.length_cons]; omega

/-- Decodes bytes that hold no broken piece. -/
def decode? : List UInt8 → Option (List Char)
  | [] => some []
  | first :: rest =>
      match step first rest with
      | (none, _) => none
      | (some character, taken) => (decode? (rest.drop taken)).map (character :: ·)
termination_by bytes => bytes.length
decreasing_by simp only [List.length_drop, List.length_cons]; omega

def byteCount (text : List Char) : Nat :=
  (text.flatMap String.utf8EncodeChar).length

end LiteralAudit.Utf8
