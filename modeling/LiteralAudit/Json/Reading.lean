import LiteralAudit.Json.Numeral
import LiteralAudit.Json.Token

/-!
# Readings of JSON texts

A reading is the tree of a text up to its first flaw. The flaw stays in the tree at its place, so
that a decoder that walks the tree meets it in document order, after the faults that stand before
it. The tree is built by folding the tokens over a stack of open lists and objects.
-/

namespace LiteralAudit.Json

/-- The tree of a text. After a flaw that a list or object holds as `tail` nothing follows in it. -/
inductive Reading where
  | null
  | bool (value : Bool)
  | number (text : Except Flaw (List Char))
  | text (content : Except Flaw String)
  | list (items : List Reading) (tail : Option Flaw)
  | object (members : List (Except Flaw String × Reading)) (tail : Option Flaw)
  /-- A place where a value is missing. -/
  | cut (flaw : Flaw)

abbrev Member := Except Flaw String × Reading

/-- A list or object that is still open, with what it holds so far, newest first. -/
inductive Frame where
  | list (items : List Reading)
  | object (members : List Member)
  /-- An object whose newest member has its name but not yet its value. -/
  | named (members : List Member) (name : Except Flaw String)

inductive Expectation where
  | value
  /-- The first item of a list, or its end. -/
  | item
  /-- The first name of an object, or its end. -/
  | firstName
  | name
  | colon
  /-- A comma or the end of the innermost list or object. -/
  | separator
  deriving DecidableEq, Repr

/-- The state of the reading: in progress, or complete, with whether tokens follow the value. -/
inductive Progress where
  | within (frames : List Frame) (expectation : Expectation)
  | complete (reading : Reading) (followed : Bool)

namespace Progress

/-- Hands a finished value to the innermost open list or object. -/
def deliver (frames : List Frame) (reading : Reading) : Progress :=
  match frames with
  | [] => .complete reading false
  | .list items :: outer => .within (.list (reading :: items) :: outer) .separator
  | .object members :: outer => .within (.object members :: outer) .separator
  | .named members name :: outer =>
      .within (.object ((name, reading) :: members) :: outer) .separator

/-- Closes all open lists and objects around a value that holds the first flaw. -/
def collapse (frames : List Frame) (reading : Reading) : Reading :=
  frames.foldl enclose reading
where
  enclose (inner : Reading) : Frame → Reading
    | .list items => .list (inner :: items).reverse none
    | .object members => .object members.reverse none
    | .named members name => .object ((name, inner) :: members).reverse none

/-- Ends the reading at a place where a value is missing. -/
def cutValue (frames : List Frame) (flaw : Flaw) : Progress :=
  .complete (collapse frames (.cut flaw)) false

/-- Ends the reading at a place where a name or a separator is missing. -/
def cutTail (frames : List Frame) (flaw : Flaw) : Progress :=
  match frames with
  | [] => .complete (.cut flaw) false
  | .list items :: outer => .complete (collapse outer (.list items.reverse (some flaw))) false
  | .object members :: outer =>
      .complete (collapse outer (.object members.reverse (some flaw))) false
  | .named members name :: outer =>
      .complete (collapse outer (.object ((name, .cut flaw) :: members).reverse none)) false

def takeValue (frames : List Frame) (token : Token) : Progress :=
  match token with
  | .null => deliver frames .null
  | .bool value => deliver frames (.bool value)
  | .number lexeme => deliver frames (.number lexeme)
  | .text content => deliver frames (.text content)
  | .mark .openList => .within (.list [] :: frames) .item
  | .mark .openObject => .within (.object [] :: frames) .firstName
  | .mark _ => cutValue frames .malformed
  | .broken flaw => cutValue frames flaw

def takeName (frames : List Frame) (token : Token) : Progress :=
  match frames, token with
  | .object members :: outer, .text content => .within (.named members content :: outer) .colon
  | _, _ => cutTail frames .malformed

def close (frames : List Frame) : Progress :=
  match frames with
  | .list items :: outer => deliver outer (.list items.reverse none)
  | .object members :: outer => deliver outer (.object members.reverse none)
  | _ => cutTail frames .malformed

def takeSeparator (frames : List Frame) (token : Token) : Progress :=
  match frames, token with
  | .list items :: outer, .mark .comma => .within (.list items :: outer) .value
  | .object members :: outer, .mark .comma => .within (.object members :: outer) .name
  | .list items :: outer, .mark .closeList => close (.list items :: outer)
  | .object members :: outer, .mark .closeObject => close (.object members :: outer)
  | _, _ => cutTail frames .malformed

def step (progress : Progress) (token : Token) : Progress :=
  match progress with
  | .complete reading _ => .complete reading true
  | .within frames .value => takeValue frames token
  | .within frames .item =>
      match token with
      | .mark .closeList => close frames
      | _ => takeValue frames token
  | .within frames .firstName =>
      match token with
      | .mark .closeObject => close frames
      | _ => takeName frames token
  | .within frames .name => takeName frames token
  | .within frames .colon =>
      match token with
      | .mark .colon => .within frames .value
      | _ => cutTail frames .malformed
  | .within frames .separator => takeSeparator frames token

def finish : Progress → Reading × Bool
  | .complete reading followed => (reading, followed)
  | .within frames .value => (collapse frames (.cut .truncated), false)
  | .within frames _ =>
      match cutTail frames .truncated with
      | .complete reading _ => (reading, false)
      | .within _ _ => (.cut .truncated, false)

end Progress

namespace Reading

/-- The tree of a text, and whether anything follows its value. -/
def ofText (source : List Char) : Reading × Bool :=
  ((tokens source).foldl Progress.step (.within [] .value)).finish

mutual

/-- The first flaw of a value that is skipped. Texts need not be made of whole characters, and
numbers may be of any size. -/
def skippedFlaw? : Reading → Option Flaw
  | .number (.error _) => some .malformed
  | .list items tail => (itemsSkippedFlaw? items).or tail
  | .object members tail => (membersSkippedFlaw? members).or tail
  | .cut flaw => some flaw
  | _ => none

def itemsSkippedFlaw? : List Reading → Option Flaw
  | [] => none
  | item :: further => (skippedFlaw? item).or (itemsSkippedFlaw? further)

def membersSkippedFlaw? : List (Except Flaw String × Reading) → Option Flaw
  | [] => none
  | (_, value) :: further => (skippedFlaw? value).or (membersSkippedFlaw? further)

end

/-- The levels of lists and objects that may stand inside each other. -/
def greatestDepth : Nat := 127

/-- The flaw of a value that would hold lists or objects below the last level. -/
def depthFlaw? (room : Nat) : Option Flaw :=
  if room = 0 then some .malformed else none

def textFlaw? : Except Flaw String → Option Flaw
  | .ok _ => none
  | .error flaw => some flaw

def numberFlaw? : Except Flaw (List Char) → Option Flaw
  | .ok lexeme => if (Numeral.ofText? lexeme).isNone then some .malformed else none
  | .error flaw => some flaw

mutual

/-- The first flaw of a value that is kept, where `room` levels of lists and objects are left. -/
def keptFlaw? (room : Nat) : Reading → Option Flaw
  | .null => none
  | .bool _ => none
  | .number lexeme => numberFlaw? lexeme
  | .text content => textFlaw? content
  | .list items tail => ((depthFlaw? room).or (itemsKeptFlaw? (room - 1) items)).or tail
  | .object members tail => ((depthFlaw? room).or (membersKeptFlaw? (room - 1) members)).or tail
  | .cut flaw => some flaw

def itemsKeptFlaw? (room : Nat) : List Reading → Option Flaw
  | [] => none
  | item :: further => (keptFlaw? room item).or (itemsKeptFlaw? room further)

def membersKeptFlaw? (room : Nat) : List (Except Flaw String × Reading) → Option Flaw
  | [] => none
  | (name, value) :: further =>
      ((textFlaw? name).or (keptFlaw? room value)).or (membersKeptFlaw? room further)

end

end Reading

end LiteralAudit.Json
