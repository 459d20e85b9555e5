import LiteralAudit.Text.Blank

/-!
# Field tags

A tag annotates a field with named values, by convention written as names, each followed by a colon
and a value between quotes, with blanks between the pairs. A tag is read up to the first place that
breaks this form.
-/

namespace LiteralAudit

/-- One named value of a tag; backslashes still stand in the value as it is written. -/
structure TagPair where
  name : List Char
  written : List Char
  deriving DecidableEq, Repr

namespace Tag

/-- Characters that end a name: controls, the blank, the colon and the quote. -/
def endsName (character : Char) : Bool :=
  decide (character ≤ ' ') || character == ':' || character == '"' || character == '\x7f'

/-- The characters before the closing quote, and the rest after it. A backslash takes the character
after it along. -/
def splitValue? : List Char → Option (List Char × List Char)
  | [] => none
  | ['\\'] => none
  | '"' :: rest => some ([], rest)
  | '\\' :: escaped :: rest =>
      (splitValue? rest).map fun (value, after) => ('\\' :: escaped :: value, after)
  | character :: rest =>
      (splitValue? rest).map fun (value, after) => (character :: value, after)

/-- The value that is written between quotes. -/
def unescape : List Char → List Char
  | [] => []
  | ['\\'] => []
  | '\\' :: 'n' :: rest => '\n' :: unescape rest
  | '\\' :: 't' :: rest => '\t' :: unescape rest
  | '\\' :: escaped :: rest => escaped :: unescape rest
  | character :: rest => character :: unescape rest

def nextPair? (tag : List Char) : Option (TagPair × List Char) :=
  let trimmed := tag.dropWhile (· == ' ')
  let name := trimmed.takeWhile (!endsName ·)
  match name, trimmed.dropWhile (!endsName ·) with
  | _ :: _, ':' :: '"' :: rest =>
      (splitValue? rest).map fun (written, after) => (⟨name, written⟩, after)
  | _, _ => none

/-- The pairs of a tag that has no more characters than the bound. -/
def pairsWithin : Nat → List Char → List TagPair
  | 0, _ => []
  | bound + 1, tag =>
      match nextPair? tag with
      | none => []
      | some (pair, rest) => pair :: pairsWithin bound rest

/-- The pairs of a tag, up to the first place that breaks their form. -/
def pairs (tag : List Char) : List TagPair :=
  pairsWithin tag.length tag

/-- The value of the first pair of a name. -/
def lookup? (tag name : String) : Option String :=
  ((pairs tag.toList).find? fun pair => pair.name == name.toList).map fun pair =>
    String.ofList (unescape pair.written)

/-- The name under which tags speak to this checker. -/
def checkerName : String := "exhaustruct"

def optionalValue : String := "optional"

def isOptional (tag : String) : Bool :=
  lookup? tag checkerName == some optionalValue

end Tag

end LiteralAudit
