import LiteralAudit.Unicode.LaterVersion

/-!
# Quoted text

A text shown between double quotes on one line. Quotes and backslashes are escaped by a backslash,
tabs, line ends and the null character have short escapes, and every other character without a shape
of its own, combining marks included, is written by its code.
-/

namespace LiteralAudit.Quoted

/-- A character that is not shown as itself, written by its code in braces. -/
def codeEscape (character : Char) : List Char :=
  ['\\', 'u', '\x7b'] ++ Digits.hexText character.toNat ++ ['\x7d']

/-- Writes one character, escaping those in `special` by a backslash. -/
def escape (special : List Char) (character : Char) : List Char :=
  if character = '\x00' then ['\\', '0']
  else if character = '\t' then ['\\', 't']
  else if character = '\r' then ['\\', 'r']
  else if character = '\n' then ['\\', 'n']
  else if special.contains character then ['\\', character]
  else if LaterVersion.hidden.contains character.toNat then codeEscape character
  else [character]

private def between (special : List Char) (text : String) : String :=
  String.ofList ('"' :: text.toList.flatMap (escape special) ++ ['"'])

def text (content : String) : String :=
  between ['"', '\\'] content

/-- The path of a file in double quotes, where apostrophes are escaped too. -/
def path (content : String) : String :=
  between ['"', '\\', '\''] content

end LiteralAudit.Quoted
