import LiteralAudit.Regex.Expr
import LiteralAudit.Regex.Reader
import LiteralAudit.Unicode.Age
import LiteralAudit.Unicode.CaseFolding
import LiteralAudit.Unicode.Segmentation

/-!
# The meaning of patterns

A pattern becomes an expression under the flags in force at each of its parts. With the Unicode mode
its classes hold characters, without it bytes. A pattern that is matched with characters is not
valid where it could match a part of one.
-/

namespace LiteralAudit.Regex

/-- The flags in force, and what a pattern is matched with. -/
structure Flags where
  target : Alphabet
  caseInsensitive : Bool
  multiLine : Bool
  dotMatchesNewLine : Bool
  swapGreed : Bool
  unicode : Bool
  carriageReturn : Bool
  deriving DecidableEq, Repr

namespace Flags

/-- The flags at the start of a pattern that is matched with characters. -/
def start : Flags :=
  { target := .characters, caseInsensitive := false, multiLine := false, dotMatchesNewLine := false,
    swapGreed := false, unicode := true, carriageReturn := false }

/-- The flags at the start of a pattern that is matched with bytes, all of which a dot matches. -/
def forBytes : Flags :=
  { start with target := .bytes, dotMatchesNewLine := true, unicode := false }

/-- What classes hold. -/
def alphabet (flags : Flags) : Alphabet :=
  if flags.unicode then .characters else .bytes

def switch (flags : Flags) (item : FlagItem) : Flags :=
  match item.flag with
  | .caseInsensitive => { flags with caseInsensitive := item.isOn }
  | .multiLine => { flags with multiLine := item.isOn }
  | .dotMatchesNewLine => { flags with dotMatchesNewLine := item.isOn }
  | .swapGreed => { flags with swapGreed := item.isOn }
  | .unicode => { flags with unicode := item.isOn }
  | .carriageReturn => { flags with carriageReturn := item.isOn }
  | .verbose => flags

def switchAll (flags : Flags) (items : List FlagItem) : Flags :=
  items.foldl switch flags

end Flags

/-! ## Sets of characters and of bytes -/

/-- The letters of ASCII whose other case is in the set, and the set itself. -/
def foldAscii (members : CharSet) : CharSet :=
  let codes := (List.range 26).flatMap fun letter =>
    let upper := 0x41 + letter
    let lower := 0x61 + letter
    if members.contains upper || members.contains lower then [upper, lower] else []
  members.union (.ofCodes codes)

/-- Adds the characters that differ in case alone. -/
def fold (flags : Flags) (members : CharSet) : CharSet :=
  if flags.unicode then CaseFolding.closure members else foldAscii members

def foldIfAsked (flags : Flags) (members : CharSet) : CharSet :=
  if flags.caseInsensitive then fold flags members else members

/-- Whether the members of a set may stand in a pattern: a byte beyond ASCII is a part of a
character. -/
def isWhole (flags : Flags) (members : CharSet) : Bool :=
  flags.unicode || flags.target == .bytes || members.isAscii

def negateIf? (flags : Flags) (negated : Bool) (members : CharSet) : Option CharSet :=
  let result := if negated then members.complement flags.alphabet else members
  if isWhole flags result then some result else none

def foldAndNegate? (flags : Flags) (negated : Bool) (members : CharSet) : Option CharSet :=
  negateIf? flags negated (foldIfAsked flags members)

def letterMembers (flags : Flags) : LetterClass → CharSet
  | .digit => if flags.unicode then Category.decimalNumber else .between 0x30 0x39
  | .space =>
      if flags.unicode then CharProperty.whiteSpace else .ofRanges [⟨0x09, 0x0D⟩, ⟨0x20, 0x20⟩]
  | .word =>
      if flags.unicode then CharProperty.word
      else .ofRanges [⟨0x30, 0x39⟩, ⟨0x41, 0x5A⟩, ⟨0x5F, 0x5F⟩, ⟨0x61, 0x7A⟩]

def startsWithIs (name : List Char) : Bool :=
  match name with
  | first :: second :: _ => first.toLower == 'i' && second.toLower == 's'
  | _ => false

/-- A name as names are compared: in lower case, without blanks, underscores and hyphens, and
without the word "is" at its start. What only that word tells from a shorter name keeps it. -/
def normalName (name : List Char) : String :=
  let kept := (name.filter fun character =>
    !(character == ' ' || character == '_' || character == '-') &&
      decide (character.toNat < 128)).map (·.toLower)
  let shortened := if startsWithIs name then kept.drop 2 else kept
  String.ofList (if shortened = ['c'] then kept else shortened)

def isCategoryName (name : String) : Bool :=
  name == "cf" || name == "sc" || name == "lc"

def propertyMembers? : PropertyQuery → Option CharSet
  | .named name =>
      let normal := normalName name
      let property := if isCategoryName normal then none else CharProperty.find? normal
      (property.or (Category.find? normal)).or ((Script.find? normal).map (·.members))
  | .valued property value =>
      let normal := normalName value
      match normalName property with
      | "generalcategory" | "gc" => Category.find? normal
      | "script" | "sc" => (Script.find? normal).map (·.members)
      | "scriptextensions" | "scx" => (Script.find? normal).map (·.extended)
      | "age" => Age.find? normal
      | "graphemeclusterbreak" | "gcb" => Segmentation.find? Segmentation.graphemeBreaks normal
      | "wordbreak" | "wb" => Segmentation.find? Segmentation.wordBreaks normal
      | "sentencebreak" | "sb" => Segmentation.find? Segmentation.sentenceBreaks normal
      | _ => none

/-- The members of a Unicode class under its flags. -/
def property? (flags : Flags) (query : PropertyQuery) (negated : Bool) : Option CharSet :=
  if flags.unicode then (propertyMembers? query).bind (foldAndNegate? flags negated) else none

def isAllowed (flags : Flags) (character : LiteralChar) : Bool :=
  flags.unicode || decide (character.code ≤ 0x7F) ||
    (flags.target == .bytes && character.isByte)

def operate (flags : Flags) (kind : SetOperation) (left right : CharSet) : CharSet :=
  match kind with
  | .intersection => left.inter right
  | .difference => left.diff flags.alphabet right
  | .symmetricDifference => left.symmDiff flags.alphabet right

mutual

/-- The members of a class, joined with what was collected before it. -/
def collect? (flags : Flags) (collected : CharSet) : ClassSet → Option CharSet
  | .empty => some collected
  | .literal character =>
      if isAllowed flags character then some (collected.union (.singleton character.code)) else none
  | .range first last =>
      if isAllowed flags first && isAllowed flags last then
        some (collected.union (.between first.code last.code))
      else none
  | .ascii members negated => (foldAndNegate? flags negated members).map collected.union
  | .letterClass kind negated =>
      (negateIf? flags negated (letterMembers flags kind)).map collected.union
  | .property query negated => (property? flags query negated).map collected.union
  | .bracketed negated inner =>
      ((collect? flags .empty inner).bind (foldAndNegate? flags negated)).map collected.union
  | .union items => collectAll? flags collected items
  | .operation kind left right => do
      let leftMembers ← collect? flags .empty left
      let rightMembers ← collect? flags .empty right
      return collected.union
        (operate flags kind (foldIfAsked flags leftMembers) (foldIfAsked flags rightMembers))

def collectAll? (flags : Flags) (collected : CharSet) : List ClassSet → Option CharSet
  | [] => some collected
  | item :: further => (collect? flags collected item).bind (collectAll? flags · further)

end

def members? (flags : Flags) (negated : Bool) (inner : ClassSet) : Option CharSet :=
  (collect? flags .empty inner).bind (foldAndNegate? flags negated)

/-! ## Parts -/

/-- A character, or its cases where case does not matter. -/
def lowerLiteral (flags : Flags) (character : LiteralChar) : Option Expr :=
  let members : CharSet := .singleton character.code
  if character.isByte && !isWhole flags members then none
  else
    let cases := foldIfAsked flags members
    some (if cases = members then .text [character.code] else .ofSet flags.alphabet cases)

/-- All characters or bytes but those that end a line. -/
def lowerDot (flags : Flags) : Option Expr :=
  let lineEnds : CharSet :=
    if flags.dotMatchesNewLine then .empty
    else if flags.carriageReturn then .ofCodes [0x0A, 0x0D]
    else .singleton 0x0A
  let members := lineEnds.complement flags.alphabet
  if isWhole flags members then some (.ofSet flags.alphabet members) else none

def lowerAnchor (flags : Flags) (anchor : Anchor) : Look :=
  match anchor with
  | .lineStart => if flags.multiLine then .lineStart flags.carriageReturn else .textStart
  | .lineEnd => if flags.multiLine then .lineEnd flags.carriageReturn else .textEnd
  | .textStart => .textStart
  | .textEnd => .textEnd
  | .wordBoundary => .word .boundary flags.unicode
  | .notWordBoundary => .word .notBoundary flags.unicode
  | .wordStart => .word .start flags.unicode
  | .wordEnd => .word .finish flags.unicode
  | .wordStartHalf => .word .startHalf flags.unicode
  | .wordEndHalf => .word .finishHalf flags.unicode

def lowerPrimitive (flags : Flags) : Primitive → Option Expr
  | .literal character => lowerLiteral flags character
  | .dot => lowerDot flags
  | .anchor condition => some (.look (lowerAnchor flags condition))
  | .letterClass kind negated =>
      (negateIf? flags negated (letterMembers flags kind)).map (.ofSet flags.alphabet)
  | .property query negated =>
      (property? flags query negated).map (.ofSet flags.alphabet)

mutual

/-- The expression of a part under the flags in force, and the flags in force after it. -/
def lower (flags : Flags) : Syntax → Option (Expr × Flags)
  | .empty => some (.empty, flags)
  | .flags items => some (.empty, flags.switchAll items)
  | .primitive part => (lowerPrimitive flags part).map (·, flags)
  | .bracketed negated inner =>
      (members? flags negated inner).map fun members => (.ofSet flags.alphabet members, flags)
  | .repetition least greatest greedy body => do
      let (expr, after) ← lower flags body
      return (.ofRepetition least greatest (greedy != after.swapGreed) expr, after)
  | .capture index body => do
      let (expr, _) ← lower flags body
      return (.capture index expr, flags)
  | .group items body => do
      let (expr, _) ← lower (flags.switchAll items) body
      return (expr, flags)
  | .alternation branches => do
      let (exprs, after) ← lowerAll flags branches
      return (.ofAlternation flags.target exprs, after)
  | .concat parts => do
      let (exprs, after) ← lowerAll flags parts
      return (.ofConcat exprs, after)

def lowerAll (flags : Flags) : List Syntax → Option (List Expr × Flags)
  | [] => some ([], flags)
  | part :: further => do
      let (expr, next) ← lower flags part
      let (exprs, after) ← lowerAll next further
      return (expr :: exprs, after)

end

def Expr.ofPattern? (pattern : String) : Option Expr :=
  (Syntax.ofPattern? pattern).bind fun found => (lower .start found).map (·.1)

end LiteralAudit.Regex
