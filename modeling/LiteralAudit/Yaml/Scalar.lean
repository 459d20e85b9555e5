import LiteralAudit.Yaml.Cursor

/-!
# Scalars of YAML texts

A scalar is written plain, between quotes, or as an indented block. Ends of lines inside a scalar
are folded: one of them becomes a blank, of more of them the first one is dropped.
-/

namespace LiteralAudit.Yaml

inductive ScalarStyle where
  | plain
  | quoted
  /-- A block that keeps its lines. -/
  | literal
  /-- A block whose lines are folded. -/
  | folded
  deriving DecidableEq, Repr

/-- What stands between two words of a scalar: blanks, or the first end of a line and those after
it. -/
inductive Separation where
  | blanks (text : List Char)
  | breaks (first further : List Char)
  deriving Repr

namespace Separation

def fold : Separation → List Char
  | blanks text => text
  | breaks first further =>
      if first == ['\n'] then (if further.isEmpty then [' '] else further) else first ++ further

def hasBreak : Separation → Bool
  | blanks _ => false
  | breaks _ _ => true

/-- Adds an end of a line. Blanks before the first one are dropped. -/
def addBreak (separation : Separation) (text : List Char) : Separation :=
  match separation with
  | blanks _ => breaks text []
  | breaks first further => breaks first (further ++ text)

/-- Adds a blank. Blanks at the start of a line are dropped. -/
def addBlank (separation : Separation) (character : Char) : Separation :=
  match separation with
  | blanks text => blanks (text ++ [character])
  | breaks first further => breaks first further

end Separation

/-- Reads blanks and ends of lines. At the start of a line tabs may not stand before the given
column. -/
def separationWithin (tabColumn : Nat) : Nat → Separation → Cursor → Option (Separation × Cursor)
  | 0, _, _ => none
  | bound + 1, separation, cursor =>
      match cursor.rest with
      | [] => some (separation, cursor)
      | character :: _ =>
          if isBlank character then
            if separation.hasBreak && decide (cursor.column < tabColumn) && character == '\t' then
              none
            else separationWithin tabColumn bound (separation.addBlank character) cursor.skip
          else if isBreak character then
            separationWithin tabColumn bound (separation.addBreak cursor.breakText)
              cursor.skipBreak
          else some (separation, cursor)

/-! ## Quoted scalars -/

def shortEscape? (letter : Char) : Option Char :=
  match letter with
  | '0' => some '\x00'
  | 'a' => some '\x07'
  | 'b' => some '\x08'
  | 't' => some '\t'
  | '\t' => some '\t'
  | 'n' => some '\n'
  | 'v' => some '\x0b'
  | 'f' => some '\x0c'
  | 'r' => some '\r'
  | 'e' => some '\x1b'
  | ' ' => some ' '
  | '"' => some '"'
  | '/' => some '/'
  | '\\' => some '\\'
  | 'N' => some '\u0085'
  | '_' => some '\u00A0'
  | 'L' => some '\u2028'
  | 'P' => some '\u2029'
  | _ => none

/-- How many digits follow an escape by code. -/
def codeLength? (letter : Char) : Option Nat :=
  match letter with
  | 'x' => some 2
  | 'u' => some 4
  | 'U' => some 8
  | _ => none

/-- The character of an escape, and the number of characters it takes up after its backslash. -/
def escape? : List Char → Option (Char × Nat)
  | [] => none
  | letter :: rest =>
      match codeLength? letter with
      | none => (shortEscape? letter).map (·, 1)
      | some length =>
          let digits := rest.take length
          let code := Digits.hexNumber digits
          if digits.length = length ∧ digits.all Digits.isHex ∧ code.isValidChar then
            some (Char.ofNat code, length + 1)
          else none

/-- Reads a quoted scalar after a part of it, newest character first. A pair of single quotes
between single quotes stands for one. -/
def quotedWithin (single : Bool) : Nat → List Char → Cursor → Option (List Char × Cursor)
  | 0, _, _ => none
  | bound + 1, content, cursor =>
      let separate (start : Separation) (place : Cursor) : Option (List Char × Cursor) :=
        match separationWithin 0 (place.rest.length + 1) start place with
        | none => none
        | some (separation, next) =>
            if next.atDocumentMark then none
            else quotedWithin single bound (separation.fold.reverse ++ content) next
      match cursor.rest with
      | [] => none
      | character :: rest =>
          if isBlank character || isBreak character then separate (.blanks []) cursor
          else if single then
            if character = '\'' then
              match rest with
              | '\'' :: _ => quotedWithin single bound ('\'' :: content) (cursor.skipMany 2)
              | _ => some (content.reverse, cursor.skip)
            else quotedWithin single bound (character :: content) cursor.skip
          else if character = '"' then some (content.reverse, cursor.skip)
          else if character = '\\' then
            if !rest.isEmpty && startsBreak rest then
              -- an escaped end of a line is dropped with the blanks around it
              separate (.breaks [] []) cursor.skip.skipBreak
            else
              match escape? rest with
              | none => none
              | some (escaped, length) =>
                  quotedWithin single bound (escaped :: content) (cursor.skipMany (length + 1))
          else quotedWithin single bound (character :: content) cursor.skip

def quotedScalar (single : Bool) (cursor : Cursor) : Option (String × Cursor) :=
  let start := cursor.skip
  if start.atDocumentMark then none
  else
    (quotedWithin single (cursor.rest.length + 1) [] start).map fun (content, next) =>
      (String.ofList content, next)

/-! ## Plain scalars -/

def isFlowMark (character : Char) : Bool :=
  character == ',' || character == '[' || character == ']' || character == '\x7b' ||
    character == '\x7d'

/-- Reads a word of a plain scalar, newest character first. Inside flow collections a colon may not
stand before one of their marks. -/
def plainWord (inFlow : Bool) : List Char → List Char → Option (List Char × List Char)
  | word, [] => some (word, [])
  | word, character :: rest =>
      if isBlank character || isBreak character then some (word, character :: rest)
      else if character = ':' ∧ startsBlank rest then some (word, character :: rest)
      else if inFlow && isFlowMark character then some (word, character :: rest)
      else if inFlow && character == ':' && rest.head?.any (fun next =>
          isFlowMark next || next == '?') then none
      else plainWord inFlow (character :: word) rest

/-- Reads a plain scalar after a part of it, newest character first. `separation` stands before the
next word; a scalar that runs on behind an end of a line says so. -/
def plainWithin (inFlow : Bool) (indent : Nat) :
    Nat → List Char → Separation → Cursor → Option (List Char × Bool × Cursor)
  | 0, _, _, _ => none
  | bound + 1, content, separation, cursor =>
      if cursor.atDocumentMark || cursor.rest.head? == some '#' then
        some (content, separation.hasBreak, cursor)
      else
        match plainWord inFlow [] cursor.rest with
        | none => none
        | some ([], _) => some (content, separation.hasBreak, cursor)
        | some (word, _) =>
            let grown := word ++ separation.fold.reverse ++ content
            let next := cursor.skipMany word.length
            if next.rest.isEmpty || !startsBlank next.rest then some (grown, false, next)
            else
              match separationWithin indent (next.rest.length + 1) (.blanks []) next with
              | none => none
              | some (gap, after) =>
                  if !inFlow && decide (after.column < indent) then
                    some (grown, gap.hasBreak, after)
                  else plainWithin inFlow indent bound grown gap after

/-- Reads a plain scalar whose lines are indented to a column, and whether it ends behind an end of
a line. -/
def plainScalar (inFlow : Bool) (indent : Nat) (cursor : Cursor) :
    Option (String × Bool × Cursor) :=
  (plainWithin inFlow indent (cursor.rest.length + 1) [] (.blanks []) cursor).map
    fun (content, endsLine, next) => (String.ofList content.reverse, endsLine, next)

/-! ## Block scalars -/

/-- What happens to the ends of lines at the end of a block. -/
inductive Chomping where
  | strip
  | clip
  | keep
  deriving DecidableEq, Repr

def chomping? : List Char → Option Chomping
  | '+' :: _ => some .keep
  | '-' :: _ => some .strip
  | _ => none

def indentation (cursor : Cursor) : Option (Option Nat × Cursor) :=
  match cursor.rest with
  | digit :: _ =>
      match Digits.decimalValue? digit with
      | none => some (none, cursor)
      | some 0 => none
      | some value => some (some value, cursor.skip)
  | [] => some (none, cursor)

/-- Reads the marks after the sign of a block, in either order. -/
def blockMarks (cursor : Cursor) : Option (Chomping × Option Nat × Cursor) :=
  match chomping? cursor.rest with
  | some chomping =>
      (indentation cursor.skip).map fun (found, next) => (chomping, found, next)
  | none =>
      (indentation cursor).map fun (found, next) =>
        match found, chomping? next.rest with
        | some _, some chomping => (chomping, found, next.skip)
        | _, _ => (.clip, found, next)

/-- Skips blanks before a column; without a column, all blanks. -/
def skipIndent (column : Option Nat) (cursor : Cursor) : Cursor :=
  let spaces := (cursor.rest.takeWhile (· == ' ')).length
  match column with
  | none => cursor.skipMany spaces
  | some limit => cursor.skipMany (min spaces (limit - cursor.column))

def isBefore (column : Option Nat) (cursor : Cursor) : Bool :=
  match column with
  | none => true
  | some limit => decide (cursor.column < limit)

/-- Reads the empty lines of a block and the indentation of the next line: the ends of lines, the
greatest column reached, and the place behind. -/
def blockBreaks (column : Option Nat) :
    Nat → List Char → Nat → Cursor → Option (List Char × Nat × Cursor)
  | 0, _, _, _ => none
  | bound + 1, breaks, greatest, cursor =>
      let next := skipIndent column cursor
      let reached := max greatest next.column
      match next.rest with
      | [] => some (breaks, reached, next)
      | character :: _ =>
          if isBefore column next && character == '\t' then none
          else if isBreak character then
            blockBreaks column bound (breaks ++ next.breakText) reached next.skipBreak
          else some (breaks, reached, next)

/-- The lines of a block read so far: their text, newest character first, the end of the last line,
the empty lines after it, and whether the last line starts with a blank. -/
structure BlockLines where
  content : List Char
  lineEnd : List Char
  emptyLines : List Char
  afterBlank : Bool

/-- The text before a new line. Between two lines that do not start with a blank, ends of lines are
folded where the block asks for it. -/
def BlockLines.join (lines : BlockLines) (literal startsWithBlank : Bool) : List Char :=
  let folds := !literal && lines.lineEnd == ['\n'] && !lines.afterBlank && !startsWithBlank
  if folds then (if lines.emptyLines.isEmpty then [' '] else lines.emptyLines)
  else lines.lineEnd ++ lines.emptyLines

def blockLines (literal : Bool) (column : Nat) :
    Nat → BlockLines → Cursor → Option (BlockLines × Cursor)
  | 0, _, _ => none
  | bound + 1, lines, cursor =>
      match cursor.rest with
      | [] => some (lines, cursor)
      | character :: _ =>
          if cursor.column ≠ column then some (lines, cursor)
          else
            let startsWithBlank := isBlank character
            let before := lines.join literal startsWithBlank
            let (line, atEnd) := cursor.takeWhile (!isBreak ·)
            let lineEnd := atEnd.breakText
            match blockBreaks (some column) (cursor.rest.length + 1) [] 0 atEnd.skipBreak with
            | none => none
            | some (emptyLines, _, next) =>
                blockLines literal column bound
                  { content := line.reverse ++ before.reverse ++ lines.content, lineEnd,
                    emptyLines, afterBlank := startsWithBlank } next

def BlockLines.chomp (lines : BlockLines) (chomping : Chomping) : List Char :=
  let ending :=
    match chomping with
    | .strip => []
    | .clip => lines.lineEnd
    | .keep => lines.lineEnd ++ lines.emptyLines
  lines.content.reverse ++ ending

/-- Reads a block from its sign on. The indentation around it is one more than the column of the
innermost block collection; without one it is zero. -/
def blockScalar (literal : Bool) (indent : Nat) (cursor : Cursor) : Option (String × Cursor) := do
  let (chomping, written, afterMarks) ← blockMarks cursor.skip
  let start ← afterMarks.skipLineEnd?
  let column := written.map (· + (indent - 1))
  let (emptyLines, reached, first) ← blockBreaks column (cursor.rest.length + 1) [] 0 start
  let settled := column.getD (max (max reached indent) 1)
  let blank : BlockLines := { content := [], lineEnd := [], emptyLines, afterBlank := false }
  let (lines, next) ← blockLines literal settled (cursor.rest.length + 1) blank first
  return (String.ofList (lines.chomp chomping), next)

end LiteralAudit.Yaml
