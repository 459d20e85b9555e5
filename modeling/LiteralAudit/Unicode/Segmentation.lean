import LiteralAudit.Unicode.CharProperty
import LiteralAudit.Unicode.Script

/-!
# Segmentation properties

What the Unicode text segmentation algorithm, version 16, sorts characters by where it looks for
the limits of graphemes, words and sentences, and the names under which these values are known.
Most values follow from categories and properties, with short tables of what they add and leave
out.
-/

namespace LiteralAudit.Segmentation

open Category CharProperty
open CharSet (unionOf)

/-- The members of one set that are in none of some others. -/
private def except (members : CharSet) (others : List CharSet) : CharSet :=
  members.diff .characters (unionOf others)

private def scriptMembers (name : String) : CharSet :=
  match Script.find? name with
  | some script => script.members
  | none => .empty

def lineFeed : CharSet := .singleton 0x0A

def carriageReturn : CharSet := .singleton 0x0D

def zeroWidthJoiner : CharSet := .singleton 0x200D

def joiners : CharSet := .between 0x200C 0x200D

/-! ## Graphemes -/

/-- Spacing marks that do not belong to the grapheme before them. -/
def spacingApart : CharSet := .ofTable
  "102b+1 b 29+2 2+6 15 3+5 2 a+2 9c4 1+1 9016 1 6ca2+1"

def graphemeExtends : CharSet := unionOf [graphemeExtend, emojiModifier]

/-- Spacing marks, and two vowels that are stored behind their consonant. -/
def graphemeSpacing : CharSet :=
  except (unionOf [spacingMark, .ofCodes [0x0E33, 0x0EB3]]) [graphemeExtend, spacingApart]

/-- Letters and signs that belong to the grapheme after them. -/
def prependedLetter : CharSet := .ofTable
  "d4e 10473+1 20d 56d 1 f8 49+5 2bc 1bb"

def graphemePrepend : CharSet := unionOf [prependedConcatenationMark, prependedLetter]

/-- Controls, and code points that are reserved for more of them. -/
def graphemeControl : CharSet :=
  except
    (unionOf [control, format, lineSeparator, paragraphSeparator,
      unassigned.inter defaultIgnorable])
    [lineFeed, carriageReturn, joiners, prependedConcatenationMark, graphemeExtend]

def hangulLeading : CharSet := .ofRanges [⟨0x1100, 0x115F⟩, ⟨0xA960, 0xA97C⟩]

/-- Vowels of Hangul, and those of Kirat Rai that join alike. -/
def hangulVowel : CharSet :=
  .ofRanges [⟨0x1160, 0x11A7⟩, ⟨0xD7B0, 0xD7C6⟩, ⟨0x16D63, 0x16D63⟩, ⟨0x16D67, 0x16D6A⟩]

def hangulTrailing : CharSet := .ofRanges [⟨0x11A8, 0x11FF⟩, ⟨0xD7CB, 0xD7FB⟩]

/-- Syllables of Hangul without a trailing consonant: every twenty-eighth one. -/
def hangulOpen : CharSet :=
  .ofCodes ((List.range 399).map fun index => 0xAC00 + 28 * index)

/-- Syllables of Hangul with a trailing consonant. -/
def hangulClosed : CharSet := except (.between 0xAC00 0xD7A3) [hangulOpen]

/-- Values of the limits of graphemes under each of their names. -/
def graphemeBreaks : List (List String × CharSet) :=
  [(["control", "cn"], graphemeControl),
    (["cr"], carriageReturn),
    (["extend", "ex"], graphemeExtends),
    (["l"], hangulLeading),
    (["lf"], lineFeed),
    (["lv"], hangulOpen),
    (["lvt"], hangulClosed),
    (["prepend", "pp"], graphemePrepend),
    (["regionalindicator", "ri"], regionalIndicator),
    (["spacingmark", "sm"], graphemeSpacing),
    (["t"], hangulTrailing),
    (["v"], hangulVowel),
    (["zwj"], zeroWidthJoiner)]

/-! ## Words -/

def wordExtends : CharSet := unionOf [graphemeExtend, spacingMark, emojiModifier]

/-- Format characters that are looked past. -/
def wordFormat : CharSet :=
  except format [prependedConcatenationMark, .between 0x200B 0x200D, graphemeExtend]

def hebrewLetter : CharSet := (scriptMembers "hebrew").inter otherLetter

/-- Characters of the script and its signs of sound. -/
def katakana : CharSet :=
  unionOf [scriptMembers "katakana", .between 0x3031 0x3035,
    .between 0x309B 0x309C, .ofCodes [0x30A0, 0x30FC, 0xFF70]]

def hiragana : CharSet := scriptMembers "hiragana"

/-- Letters of scripts that are written without blanks between words. -/
def undividedLetter : CharSet := .ofTable
  ("e01+2f 1+1 c+6 3a+1 1 1+4 1+17 1 1+9 1+1 9 2+4 1 15+3 120+2a 14 10+5 4+3 3 3+1 7+2 4+c c " ++
   "6f1+33 23 4 173+1d 2+4 b+2b 4+19 56+34 52 8f38+4 1+9 a+4 61+16 3 3+31 1 3+1 2+4 2 1 18+2 " ++
   "6c22+1a 25+6")

/-- Signs that words are written with beside letters. -/
def wordSign : CharSet := .ofTable
  "b8 209+3 c+5 6+1 5+6 1 1+10 25a+2 1 2b 68 11b 9ff8+e 9+1 67+1 3d0"

def wordLetter : CharSet :=
  unionOf
    [except alphabetic
      [ideographic, wordExtends, hebrewLetter, katakana, hiragana, undividedLetter], wordSign]

def numericSign : CharSet := .ofTable
  "600+5 65+1 70 1b2+1 50 10f7 f6e2 f"

def sentenceNumeric : CharSet := unionOf [decimalNumber, numericSign]

def wordNumeric : CharSet := except sentenceNumeric [.singleton 0x066C]

/-- Punctuation that connects words, and the narrow blank that does not break. -/
def wordConnector : CharSet := unionOf [connectorPunctuation, .singleton 0x202F]

/-- Blanks at which words end. -/
def wordSpace : CharSet := .ofTable
  "20 165f 97f+6 1+2 54 fa0"

def midNumber : CharSet := .ofTable
  "2c e 342 20a 82+1 5e 18b 184b ddcb 3 3b 3 b7 e"

def midNumberLetter : CharSet := .ofTable
  "2e 1fe9+1 a de2d b4 6"

def midLetter : CharSet := .ofTable
  "3a 7c 2cf 1d7 94 1a32 ddeb 41 c4"

def newline : CharSet := .ofRanges [⟨0x0B, 0x0C⟩, ⟨0x85, 0x85⟩, ⟨0x2028, 0x2029⟩]

/-- Values of the limits of words under each of their names. -/
def wordBreaks : List (List String × CharSet) :=
  [(["aletter", "le"], wordLetter),
    (["cr"], carriageReturn),
    (["doublequote", "dq"], .singleton 0x22),
    (["extend"], wordExtends),
    (["extendnumlet", "ex"], wordConnector),
    (["format", "fo"], wordFormat),
    (["hebrewletter", "hl"], hebrewLetter),
    (["katakana", "ka"], katakana),
    (["lf"], lineFeed),
    (["midletter", "ml"], midLetter),
    (["midnum", "mn"], midNumber),
    (["midnumlet", "mb"], midNumberLetter),
    (["newline", "nl"], newline),
    (["numeric", "nu"], wordNumeric),
    (["regionalindicator", "ri"], regionalIndicator),
    (["singlequote", "sq"], .singleton 0x27),
    (["wsegspace"], wordSpace),
    (["zwj"], zeroWidthJoiner)]

/-! ## Sentences -/

def sentenceExtends : CharSet := unionOf [graphemeExtend, spacingMark, zeroWidthJoiner]

def sentenceFormat : CharSet :=
  except format [sentenceNumeric, joiners, graphemeExtend]

/-- Georgian letters, whose case does not tell where a sentence starts. -/
def georgianLetter : CharSet :=
  .ofRanges [⟨0x10D0, 0x10FA⟩, ⟨0x10FD, 0x10FF⟩, ⟨0x1C90, 0x1CBA⟩, ⟨0x1CBD, 0x1CBF⟩]

def sentenceLower : CharSet := except lowercase [graphemeExtend, georgianLetter]

def sentenceUpper : CharSet := except (unionOf [uppercase, titlecaseLetter]) [georgianLetter]

/-- Letters without case. -/
def sentenceLetter : CharSet :=
  except (unionOf [alphabetic, .singleton 0x05F3])
    [sentenceLower, sentenceUpper, sentenceExtends]

/-- Full stops, which end abbreviations too. -/
def ambiguousStop : CharSet := .ofCodes [0x2E, 0x2024, 0xFE52, 0xFF0E]

def sentenceStop : CharSet := except sentenceTerminal [ambiguousStop]

/-- Marks that close beside those of some categories. -/
def closingSign : CharSet := .ofTable
  "22 4 2733+5 69f+1 4+2 2 1c86a+2"

/-- Opening, closing and quotation marks. -/
def sentenceClose : CharSet :=
  unionOf [openPunctuation, closePunctuation, initialPunctuation, finalPunctuation, closingSign]

def paragraphEnd : CharSet := .ofCodes [0x85, 0x2028, 0x2029]

def sentenceSpace : CharSet := except whiteSpace [lineFeed, carriageReturn, paragraphEnd]

/-- Marks after which a sentence goes on. -/
def sentenceContinue : CharSet := .ofTable
  "2c+1 c+1 342 1de ae+1 1ea 1009 5 80a+1 fec ce0e+1 1+1 1c+1 1d+1 2+1 2 a a8+1 c+1 48"

/-- Values of the limits of sentences under each of their names. -/
def sentenceBreaks : List (List String × CharSet) :=
  [(["aterm", "at"], ambiguousStop),
    (["close", "cl"], sentenceClose),
    (["cr"], carriageReturn),
    (["extend", "ex"], sentenceExtends),
    (["format", "fo"], sentenceFormat),
    (["lf"], lineFeed),
    (["lower", "lo"], sentenceLower),
    (["numeric", "nu"], sentenceNumeric),
    (["oletter", "le"], sentenceLetter),
    (["scontinue", "sc"], sentenceContinue),
    (["sep", "se"], paragraphEnd),
    (["sp"], sentenceSpace),
    (["sterm", "st"], sentenceStop),
    (["upper", "up"], sentenceUpper)]

def find? (values : List (List String × CharSet)) (name : String) : Option CharSet :=
  (values.find? fun entry => entry.1.contains name).map (·.2)

end LiteralAudit.Segmentation
