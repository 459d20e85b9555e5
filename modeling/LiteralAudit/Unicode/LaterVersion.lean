import LiteralAudit.Unicode.CharProperty

/-!
# The later version

Characters that version 17 of the Unicode character database adds to those of version 16. The
names of types, fields and groups and quoted text follow version 17; the classes that a pattern
names are those of version 16.
-/

namespace LiteralAudit.LaterVersion

open CharSet (unionOf)

/-- Code points that version 17 assigns. -/
def newCharacter : CharSet := .ofTable
  ("88f 3cc 7f df2+e 2+b 5d5 ad4 7c37+1 2 1 1c 53d1+f 1bd+1 36+6 b71+19 56b+2 8+8 21+1 c64+7 " ++
   "248+2b 4+9 50b6+18 2+18 11e+4 1801+7 509+15 61+72 3f07+2 1bd+16 f+10 17cf+1e 1+15 8+1 " ++
   "fd8 9e+3 155+8 17b+3 32 3 39 4 1c 4 10a bb3f+5 1762+b 5502+10c9")

/-- Letters and other characters of words among them. -/
def newAlphabetic : CharSet := .ofTable
  ("88f 3cc 7f 9af1+1 2 1 1c 614e+19 56b+2 32+1 c64+7 248+2b 50c4+18 2+18 11e+4 1801+7 " ++
   "509+15 61+72 58cd+1e 1+15 8+1 d03a+5 1762+b 5502+10c9")

/-- Digits and numbers among them. -/
def newNumber : CharSet := .ofTable
  "11de0+9 520a+2"

def newUppercase : CharSet := .ofTable
  "a7ce 3 1 c6cb+18"

/-- Characters among them that belong to the grapheme of the one before. -/
def newGraphemeExtend : CharSet := .ofTable
  "1acf+e 2+b f40e+1 c64 1+2 1 cb7c 2 7+1 5"

def alphabetic : CharSet := unionOf [CharProperty.alphabetic, newAlphabetic]

/-- Letters and numbers of every kind. -/
def alphanumeric : CharSet := unionOf [alphabetic, Category.number, newNumber]

def uppercase : CharSet := unionOf [CharProperty.uppercase, newUppercase]

/-- The two halfwidth sound marks extend a grapheme, but have a shape of their own. -/
def soundMarks : CharSet := .between 0xFF9E 0xFF9F

/-- Characters that have no shape of their own on the page, the plain space aside: controls, blanks,
code points without a character, characters that are invisible by default, and marks. -/
def hidden : CharSet :=
  let withoutShape :=
    unionOf [Category.other, Category.separator, CharProperty.defaultIgnorable,
      CharProperty.graphemeExtend]
  unionOf
    [withoutShape.diff .characters (unionOf [.singleton 0x20, soundMarks, newCharacter]),
      newGraphemeExtend]

end LiteralAudit.LaterVersion
