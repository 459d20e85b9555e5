import LiteralAudit.Yaml.Scalar
import LiteralAudit.Yaml.Tag

/-!
# Tokens of YAML texts

Indentation starts and ends block collections. Where a key may start, its place is remembered until
a colon shows that a key it was, and the tokens that open the mapping and the key are put in there.
-/

namespace LiteralAudit.Yaml

inductive Token where
  | directive (value : DocumentDirective)
  | documentStart
  | documentEnd
  | blockSequenceStart
  | blockMappingStart
  | blockEnd
  | flowSequenceStart
  | flowSequenceEnd
  | flowMappingStart
  | flowMappingEnd
  | blockEntry
  | flowEntry
  | key
  | value
  | reference (name : String)
  | anchor (name : String)
  | tag (value : WrittenTag)
  | scalar (style : ScalarStyle) (content : String)
  deriving Repr

/-- A place where a key may have started: its token number, line and column, and whether it has to
be one. -/
structure KeyPlace where
  number : Nat
  index : Nat
  line : Nat
  column : Nat
  required : Bool
  deriving Repr

/-- The state of the reading. `indent` is one more than the column of the innermost block
collection, zero outside of all; tokens stand newest first, and `places` has one entry for the block
context and one for each open flow collection. -/
structure TokenState where
  cursor : Cursor
  tokens : List Token
  count : Nat
  indent : Nat
  outer : List Nat
  keyAllowed : Bool
  places : List (Option KeyPlace)
  deriving Repr

namespace TokenState

def start (text : List Char) : TokenState :=
  { cursor := .start text, tokens := [], count := 0, indent := 0, outer := [], keyAllowed := true,
    places := [none] }

/-- How many flow collections are open. -/
def flowLevel (state : TokenState) : Nat :=
  state.places.length - 1

def inFlow (state : TokenState) : Bool :=
  decide (0 < state.flowLevel)

def add (state : TokenState) (token : Token) : TokenState :=
  { state with tokens := token :: state.tokens, count := state.count + 1 }

def insert (state : TokenState) (number : Nat) (token : Token) : TokenState :=
  let later := state.count - number
  { state with
    tokens := state.tokens.take later ++ token :: state.tokens.drop later,
    count := state.count + 1 }

def place? (state : TokenState) : Option KeyPlace :=
  state.places.head?.join

def setPlace (state : TokenState) (place : Option KeyPlace) : TokenState :=
  { state with places := place :: state.places.drop 1 }

/-- Gives up the place where a key may have started. -/
def dropPlace (state : TokenState) : Option TokenState :=
  match state.place? with
  | some place => if place.required then none else some (state.setPlace none)
  | none => some state

/-- Remembers that a key may start here. -/
def savePlace (state : TokenState) : Option TokenState :=
  if state.keyAllowed then do
    let next ← state.dropPlace
    let required := !state.inFlow && state.indent == state.cursor.column + 1
    return next.setPlace (some {
      number := state.count, index := state.cursor.index, line := state.cursor.line,
      column := state.cursor.column, required })
  else some state

def longestKey : Nat := 1024

/-- Whether what started at a place can no longer be a key: keys stand on one line. -/
def isStale (state : TokenState) (place : KeyPlace) : Bool :=
  decide (place.line < state.cursor.line) ||
    decide (place.index + longestKey < state.cursor.index)

/-- Gives up places where no key can have started. -/
def dropStale (state : TokenState) : Option TokenState :=
  if state.places.any fun place => place.any fun found => found.required && state.isStale found then
    none
  else
    some { state with places := state.places.map fun place => place.filter (!state.isStale ·) }

/-- Opens a block collection at a column, if it is deeper than the innermost one. -/
def rollTo (state : TokenState) (column : Nat) (opens : TokenState → TokenState) : TokenState :=
  if !state.inFlow && decide (state.indent < column + 1) then
    opens { state with outer := state.indent :: state.outer, indent := column + 1 }
  else state

/-- Closes block collections that are deeper than an indentation. -/
def unrollTo (indent : Nat) : List Nat → TokenState → TokenState
  | [], state => state
  | before :: further, state =>
      if indent < state.indent then
        unrollTo indent further
          { state.add .blockEnd with indent := before, outer := further }
      else state

def unroll (state : TokenState) (indent : Nat) : TokenState :=
  if state.inFlow then state else unrollTo indent state.outer state

def moveTo (state : TokenState) (cursor : Cursor) : TokenState :=
  { state with cursor }

def allowKey (state : TokenState) (keyAllowed : Bool) : TokenState :=
  { state with keyAllowed }

/-! ## Between tokens -/

/-- Skips blanks, comments and ends of lines. Tabs are blanks only where no key can start, and a
byte order mark is skipped only at the start of a line, of which it takes up a column. -/
def skipGap : Nat → TokenState → TokenState
  | 0, state => state
  | bound + 1, state =>
      let tabs := state.inFlow || !state.keyAllowed
      let cursor := state.cursor
      let unmarked :=
        if cursor.column = 0 ∧ cursor.rest.head? = some byteOrderMark then cursor.skip else cursor
      let next :=
        (unmarked.takeWhile fun character =>
          character == ' ' || (tabs && character == '\t')).2.skipComment
      match next.rest with
      | [] => state.moveTo next
      | character :: _ =>
          if isBreak character then
            skipGap bound
              ((state.moveTo next.skipBreak).allowKey (state.keyAllowed || !state.inFlow))
          else state.moveTo next

/-! ## Single tokens -/

/-- Takes a mark of so many characters that belongs to the document, not to its content. -/
def takeDocumentMark (state : TokenState) (token : Token) : Option TokenState := do
  let next ← (state.unroll 0).dropPlace
  return ((next.allowKey false).moveTo (state.cursor.skipMany 3)).add token

def takeDirective (state : TokenState) : Option TokenState := do
  let next ← (state.unroll 0).dropPlace
  let (found, cursor) ← documentDirective state.cursor
  return ((next.allowKey false).moveTo cursor).add (.directive found)

def takeFlowStart (state : TokenState) (token : Token) : Option TokenState := do
  let next ← state.savePlace
  return ({ next with places := none :: next.places, keyAllowed := true }.moveTo
    state.cursor.skip).add token

def takeFlowEnd (state : TokenState) (token : Token) : Option TokenState := do
  let next ← state.dropPlace
  let places := if next.inFlow then next.places.drop 1 else next.places
  return ({ next with places, keyAllowed := false }.moveTo state.cursor.skip).add token

def takeFlowEntry (state : TokenState) : Option TokenState := do
  let next ← state.dropPlace
  return ((next.allowKey true).moveTo state.cursor.skip).add .flowEntry

def openBlock (state : TokenState) (token : Token) : Option TokenState :=
  if state.inFlow then some state
  else if state.keyAllowed then some (state.rollTo state.cursor.column (·.add token))
  else none

def takeBlockEntry (state : TokenState) : Option TokenState := do
  let opened ← state.openBlock .blockSequenceStart
  let next ← opened.dropPlace
  return ((next.allowKey true).moveTo state.cursor.skip).add .blockEntry

def takeKey (state : TokenState) : Option TokenState := do
  let opened ← state.openBlock .blockMappingStart
  let next ← opened.dropPlace
  return ((next.allowKey (!state.inFlow)).moveTo state.cursor.skip).add .key

def takeValue (state : TokenState) : Option TokenState := do
  let next ←
    match state.place? with
    | some place =>
        let keyed := state.insert place.number .key
        let rolled := keyed.rollTo place.column (·.insert place.number .blockMappingStart)
        some ((rolled.setPlace none).allowKey false)
    | none => (state.openBlock .blockMappingStart).map (·.allowKey (!state.inFlow))
  return (next.moveTo state.cursor.skip).add .value

def takeNode (state : TokenState) (found : Option (Token × Cursor)) : Option TokenState := do
  let next ← state.savePlace
  let (token, cursor) ← found
  return ((next.allowKey false).moveTo cursor).add token

def takeBlockScalar (state : TokenState) (literal : Bool) : Option TokenState := do
  let next ← state.dropPlace
  let (content, cursor) ← blockScalar literal state.indent state.cursor
  let style := if literal then ScalarStyle.literal else .folded
  return ((next.allowKey true).moveTo cursor).add (.scalar style content)

def takePlain (state : TokenState) : Option TokenState := do
  let next ← state.savePlace
  let (content, endsLine, cursor) ← plainScalar state.inFlow state.indent state.cursor
  return ((next.allowKey endsLine).moveTo cursor).add (.scalar .plain content)

/-- Characters that a plain scalar does not start with. -/
def isIndicator (character : Char) : Bool :=
  isFlowMark character ||
    ['-', '?', ':', '#', '&', '*', '!', '|', '>', '\'', '"', '%', '@', '`'].contains character

/-- Whether a plain scalar may start with a character before a text. -/
def startsPlain (inFlow : Bool) (first : Char) (rest : List Char) : Bool :=
  if first = '-' then !rest.head?.any isBlank
  else if first = '?' ∨ first = ':' then !inFlow && !startsBlank rest
  else !isIndicator first && !isBlank first && !isBreak first

def takeToken (state : TokenState) (first : Char) (rest : List Char) : Option TokenState :=
  let cursor := state.cursor
  if cursor.column = 0 ∧ first = '%' then state.takeDirective
  else if cursor.atDocumentMark then
    state.takeDocumentMark (if first = '-' then .documentStart else .documentEnd)
  else if first = '[' then state.takeFlowStart .flowSequenceStart
  else if first = '\x7b' then state.takeFlowStart .flowMappingStart
  else if first = ']' then state.takeFlowEnd .flowSequenceEnd
  else if first = '\x7d' then state.takeFlowEnd .flowMappingEnd
  else if first = ',' then state.takeFlowEntry
  else if first = '-' ∧ startsBlank rest then state.takeBlockEntry
  else if first = '?' ∧ (state.inFlow ∨ startsBlank rest) then state.takeKey
  else if first = ':' ∧ (state.inFlow ∨ startsBlank rest) then state.takeValue
  else if first = '*' then
    state.takeNode ((anchorName cursor).map fun (name, next) => (.reference name, next))
  else if first = '&' then
    state.takeNode ((anchorName cursor).map fun (name, next) => (.anchor name, next))
  else if first = '!' then
    state.takeNode ((writtenTag state.inFlow cursor).map fun (found, next) => (.tag found, next))
  else if first = '|' ∧ !state.inFlow then state.takeBlockScalar true
  else if first = '>' ∧ !state.inFlow then state.takeBlockScalar false
  else if first = '\'' ∨ first = '"' then
    state.takeNode ((quotedScalar (first == '\'') cursor).map fun (content, next) =>
      (.scalar .quoted content, next))
  else if startsPlain state.inFlow first rest then state.takePlain
  else none

def readWithin : Nat → TokenState → Option (List Token)
  | 0, _ => none
  | bound + 1, state => do
      let fresh ← (skipGap (state.cursor.rest.length + 1) state).dropStale
      let next := fresh.unroll (fresh.cursor.column + 1)
      match next.cursor.rest with
      | [] => do
          let final ← (next.unroll 0).dropPlace
          return final.tokens.reverse
      | first :: rest => do
          let after ← next.takeToken first rest
          readWithin bound after

end TokenState

def tokens? (text : List Char) : Option (List Token) :=
  if text.all isAllowed then TokenState.readWithin (text.length + 2) (.start text) else none

end LiteralAudit.Yaml
