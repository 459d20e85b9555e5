import LiteralAudit.Unicode.CharSet

/-!
# Syntax of regular expressions

The parts that a pattern is written with. What they mean depends on the flags in force at their
place, and flags are themselves parts of the syntax.
-/

namespace LiteralAudit.Regex

inductive Flag where
  | caseInsensitive
  | multiLine
  | dotMatchesNewLine
  | swapGreed
  | unicode
  | carriageReturn
  /-- Blanks and comments in the pattern are skipped. -/
  | verbose
  deriving DecidableEq, Repr

structure FlagItem where
  flag : Flag
  isOn : Bool
  deriving DecidableEq, Repr

/-- A character of a pattern; `isByte` when it is written by two hexadecimal digits. -/
structure LiteralChar where
  code : Nat
  isByte : Bool
  deriving DecidableEq, Repr

/-- Classes with a letter of their own. -/
inductive LetterClass where
  | digit
  | space
  | word
  deriving DecidableEq, Repr

/-- The name of a Unicode class: a property, or a property with a value. -/
inductive PropertyQuery where
  | named (name : List Char)
  | valued (property value : List Char)
  deriving DecidableEq, Repr

/-- Conditions on the place of a match. -/
inductive Anchor where
  | lineStart
  | lineEnd
  | textStart
  | textEnd
  | wordBoundary
  | notWordBoundary
  | wordStart
  | wordEnd
  | wordStartHalf
  | wordEndHalf
  deriving DecidableEq, Repr

/-- Parts without parts of their own. -/
inductive Primitive where
  | literal (character : LiteralChar)
  | dot
  | anchor (condition : Anchor)
  | letterClass (kind : LetterClass) (negated : Bool)
  | property (query : PropertyQuery) (negated : Bool)
  deriving DecidableEq, Repr

inductive SetOperation where
  | intersection
  | difference
  | symmetricDifference
  deriving DecidableEq, Repr

inductive ClassSet where
  | empty
  | literal (character : LiteralChar)
  | range (first last : LiteralChar)
  | ascii (members : CharSet) (negated : Bool)
  | letterClass (kind : LetterClass) (negated : Bool)
  | property (query : PropertyQuery) (negated : Bool)
  | bracketed (negated : Bool) (inner : ClassSet)
  | union (items : List ClassSet)
  | operation (kind : SetOperation) (left right : ClassSet)
  deriving Repr

inductive Syntax where
  | empty
  | flags (items : List FlagItem)
  | primitive (part : Primitive)
  | bracketed (negated : Bool) (inner : ClassSet)
  | repetition (least : Nat) (greatest : Option Nat) (greedy : Bool) (body : Syntax)
  | capture (index : Nat) (body : Syntax)
  | group (items : List FlagItem) (body : Syntax)
  | alternation (branches : List Syntax)
  | concat (parts : List Syntax)
  deriving Repr

namespace ClassSet

/-- The set that items between brackets stand for, newest first. -/
def ofItems : List ClassSet → ClassSet
  | [] => empty
  | [item] => item
  | items => union items.reverse

mutual

def depth : ClassSet → Nat
  | bracketed _ inner => inner.depth + 1
  | union items => depthOf items + 1
  | operation _ left right => max left.depth right.depth + 1
  | _ => 0

def depthOf : List ClassSet → Nat
  | [] => 0
  | item :: further => max item.depth (depthOf further)

end

end ClassSet

namespace Syntax

/-- The parts of a concatenation, newest first. -/
def ofParts : List Syntax → Syntax
  | [] => empty
  | [part] => part
  | parts => concat parts.reverse

/-- The branches of an alternation, newest first. -/
def ofBranches : List Syntax → Syntax
  | [] => empty
  | [branch] => branch
  | branches => alternation branches.reverse

def isRepeatable : Syntax → Bool
  | empty | flags _ => false
  | _ => true

mutual

def depth : Syntax → Nat
  | bracketed _ inner => inner.depth + 1
  | repetition _ _ _ body => body.depth + 1
  | capture _ body => body.depth + 1
  | group _ body => body.depth + 1
  | alternation branches => depthOf branches + 1
  | concat parts => depthOf parts + 1
  | _ => 0

def depthOf : List Syntax → Nat
  | [] => 0
  | part :: further => max part.depth (depthOf further)

end

def greatestDepth : Nat := 250

end Syntax

end LiteralAudit.Regex
