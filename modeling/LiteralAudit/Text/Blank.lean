/-!
# Blanks

White space comes in two sets here: the Unicode property, for text, and the five ASCII characters
that separate tokens, for bytes.
-/

namespace LiteralAudit.Text

/-- Characters with the Unicode property White_Space. -/
def isBlank (character : Char) : Bool :=
  let code := character.toNat
  (0x09 ≤ code && code ≤ 0x0D) || code == 0x20 || code == 0x85 || code == 0xA0 || code == 0x1680 ||
    (0x2000 ≤ code && code ≤ 0x200A) || code == 0x2028 || code == 0x2029 || code == 0x202F ||
    code == 0x205F || code == 0x3000

/-- ASCII blanks: space, tab, line feed, form feed and carriage return. -/
def isBlankByte (byte : UInt8) : Bool :=
  byte == 0x20 || byte == 0x09 || byte == 0x0A || byte == 0x0C || byte == 0x0D

def trimEnd (text : List Char) : List Char :=
  (text.reverse.dropWhile isBlank).reverse

def isAllBlank (text : List Char) : Bool :=
  text.all isBlank

end LiteralAudit.Text
