import LiteralAudit.Glob.Token
import LiteralAudit.Regex.Lowering

/-!
# Globs as regular expressions

A glob becomes a regular expression over bytes that matches whole paths. Stars match separators
too, and braces that hold nothing but empty branches stand for nothing at all.
-/

namespace LiteralAudit.Glob

open Regex (ClassSet Expr LiteralChar Syntax)

def bytesOf (character : Char) : List Nat :=
  (String.utf8EncodeChar character).map UInt8.toNat

/-- A byte of a character that stands for itself. -/
def literalOf (byte : Nat) : LiteralChar :=
  ⟨byte, decide (0x7F < byte)⟩

def byteSyntax (byte : Nat) : Syntax :=
  .primitive (.literal (literalOf byte))

def separatorSyntax : Syntax :=
  byteSyntax ReadState.separator.toNat

def anyByteSyntax : Syntax :=
  .primitive .dot

def anyBytesSyntax : Syntax :=
  .repetition 0 none true anyByteSyntax

/-- The items of a range between two characters: where characters take up several bytes, the range
is between the last byte of the first one and the first byte of the last one. -/
def rangeItems (range : Char × Char) : List ClassSet :=
  let single (byte : Nat) : ClassSet := .literal (literalOf byte)
  if range.1 = range.2 then (bytesOf range.1).map single
  else
    match (bytesOf range.1).reverse, bytesOf range.2 with
    | low :: before, high :: after =>
        before.reverse.map single ++ .range (literalOf low) (literalOf high) :: after.map single
    | _, _ => []

def choiceSyntax (branches : List Syntax) : Syntax :=
  .group [] (.ofBranches branches.reverse)

mutual

/-- The parts that a token stands for: none when it stands for nothing at all. -/
def tokenParts : Token → List Syntax
  | .literal character => (bytesOf character).map byteSyntax
  | .anyByte => [anyByteSyntax]
  | .anyBytes => [anyBytesSyntax]
  | .foldersBefore =>
      [choiceSyntax
        [.repetition 0 (some 1) true separatorSyntax, .concat [anyBytesSyntax, separatorSyntax]]]
  | .contentBelow => [separatorSyntax, anyBytesSyntax]
  | .foldersBetween =>
      [choiceSyntax [separatorSyntax, .concat [separatorSyntax, anyBytesSyntax, separatorSyntax]]]
  | .oneOf negated ranges =>
      [.bracketed negated (.ofItems (ranges.flatMap rangeItems).reverse)]
  | .alternatives branches =>
      match branchSyntaxes branches with
      | [] => []
      | found => [choiceSyntax found]

def tokensParts : List Token → List Syntax
  | [] => []
  | token :: further => tokenParts token ++ tokensParts further

/-- The branches that stand for something. -/
def branchSyntaxes : List (List Token) → List Syntax
  | [] => []
  | branch :: further =>
      match tokensParts branch with
      | [] => branchSyntaxes further
      | found => .ofParts found.reverse :: branchSyntaxes further

end

/-- The regular expression of whole paths. Two stars alone match every path. -/
def wholeSyntax (tokens : List Token) : Syntax :=
  let parts :=
    match tokens with
    | [.foldersBefore] => [anyBytesSyntax]
    | _ => tokensParts tokens
  .concat (.primitive (.anchor .textStart) :: parts ++ [.primitive (.anchor .textEnd)])

/-- The expression of whole paths, or nothing when alternatives stand too deep inside each other. -/
def expr? (tokens : List Token) : Option Expr :=
  let found := wholeSyntax tokens
  if found.depth ≤ Syntax.greatestDepth then (Regex.lower .forBytes found).map (·.1) else none

end LiteralAudit.Glob
