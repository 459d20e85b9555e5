import LiteralAudit.Text.Utf8
import LiteralAudit.Yaml.Token

/-!
# Nodes of YAML documents

A document is a tree of scalars, sequences and mappings. Nodes with an anchor are numbered, and an
alias refers to a number. Where a name is introduced again the count of names does not grow, so that
two nodes can have one number; the later one is what the number stands for, also in aliases before
it. A text may hold one document at most.
-/

namespace LiteralAudit.Yaml

inductive Node where
  | scalar (style : ScalarStyle) (tag : Option (List UInt8)) (content : String)
  | sequence (items : List Node)
  | mapping (entries : List (Node × Node))
  /-- A node that aliases may refer to. -/
  | anchored (number : Nat) (node : Node)
  | reference (number : Nat)
  deriving Repr

namespace Node

/-- A node that is not written. -/
def missing : Node := .scalar .plain none ""

mutual

/-- The anchored nodes with their numbers, in the order in which they start. -/
def anchors : Node → List (Nat × Node)
  | scalar _ _ _ => []
  | sequence items => anchorsOf items
  | mapping entries => anchorsOfEntries entries
  | anchored number node => (number, node) :: node.anchors
  | reference _ => []

def anchorsOf : List Node → List (Nat × Node)
  | [] => []
  | node :: further => node.anchors ++ anchorsOf further

def anchorsOfEntries : List (Node × Node) → List (Nat × Node)
  | [] => []
  | (key, value) :: further => key.anchors ++ (value.anchors ++ anchorsOfEntries further)

end

end Node

/-- The numbers of the names of anchors, newest first. -/
abbrev AnchorNumbers := List (String × Nat)

/-- What tag handles stand for. -/
abbrev Handles := List (String × List UInt8)

/-- The tokens that are left, and the names so far. -/
structure NodeState where
  tokens : List Token
  numbers : AnchorNumbers
  deriving Repr

namespace NodeState

def peek? (state : NodeState) : Option Token :=
  state.tokens.head?

def skip (state : NodeState) : NodeState :=
  { state with tokens := state.tokens.drop 1 }

/-- Introduces a name, if there is one. Its number is the count of the names before it, among which
it may stand itself. -/
def openAnchor (state : NodeState) (name : Option String) : NodeState :=
  match name with
  | none => state
  | some found =>
      let others := state.numbers.filter (·.1 != found)
      { state with numbers := (found, state.numbers.length) :: others }

/-- Gives a node the number of its name, if it has a name. -/
def mark (state : NodeState) (name : Option String) (node : Node) : Node :=
  match name with
  | none => node
  | some _ => .anchored state.numbers.length node

end NodeState

def resolveTag (handles : Handles) (tag : WrittenTag) : Option (List UInt8) :=
  if tag.handle.isEmpty then some tag.suffix
  else (handles.find? (·.1 == tag.handle)).map fun entry => entry.2 ++ tag.suffix

/-- What stands before the content of a node. -/
structure Properties where
  anchor : Option String
  tag : Option (List UInt8)
  deriving Repr

namespace Properties

def isEmpty (properties : Properties) : Bool :=
  properties.anchor.isNone && properties.tag.isNone

/-- Reads an anchor and a tag, in either order. -/
def read (handles : Handles) (state : NodeState) : Option (Properties × NodeState) :=
  match state.tokens with
  | .anchor name :: .tag tag :: rest =>
      (resolveTag handles tag).map fun meaning =>
        (⟨some name, some meaning⟩, { state with tokens := rest })
  | .tag tag :: .anchor name :: rest =>
      (resolveTag handles tag).map fun meaning =>
        (⟨some name, some meaning⟩, { state with tokens := rest })
  | .anchor name :: rest => some (⟨some name, none⟩, { state with tokens := rest })
  | .tag tag :: rest =>
      (resolveTag handles tag).map fun meaning =>
        (⟨none, some meaning⟩, { state with tokens := rest })
  | _ => some (⟨none, none⟩, state)

end Properties

/-- Tokens after which a node of a block mapping is missing. -/
def endsBlockNode : Option Token → Bool
  | some .key | some .value | some .blockEnd => true
  | _ => false

def endsBlockEntry : Option Token → Bool
  | some .blockEntry | some .blockEnd => true
  | _ => false

/-- Tokens after which an entry of a sequence without indentation is missing. -/
def endsIndentlessEntry (token : Option Token) : Bool :=
  endsBlockEntry token || endsBlockNode token

def endsFlowItem : Option Token → Bool
  | some .flowEntry | some .flowSequenceEnd => true
  | _ => false

def endsFlowMember : Option Token → Bool
  | some .flowEntry | some .flowMappingEnd => true
  | _ => false

def isValue : Option Token → Bool
  | some .value => true
  | _ => false

mutual

/-- Reads a node. Where `indentless` is set, a sequence need not be indented. -/
def readNode (handles : Handles) (bound : Nat) (block indentless : Bool) (state : NodeState) :
    Option (Node × NodeState) :=
  match bound with
  | 0 => none
  | bound + 1 =>
    match state.peek? with
    | some (.reference name) =>
        (state.numbers.find? (·.1 == name)).map fun entry => (.reference entry.2, state.skip)
    | _ => do
      let (properties, start) ← Properties.read handles state
      let opened := start.openAnchor properties.anchor
      let (node, next) ←
        match start.peek? with
        | some .blockEntry =>
            if indentless then readIndentless handles bound [] opened
            else if properties.isEmpty then none
            else some (.scalar .plain properties.tag "", opened)
        | some (.scalar style content) => some (.scalar style properties.tag content, opened.skip)
        | some .flowSequenceStart => readFlowItems handles bound true [] opened.skip
        | some .flowMappingStart => readFlowMembers handles bound true [] opened.skip
        | some .blockSequenceStart =>
            if block then readEntries handles bound [] opened.skip
            else if properties.isEmpty then none
            else some (.scalar .plain properties.tag "", opened)
        | some .blockMappingStart =>
            if block then readMembers handles bound [] opened.skip
            else if properties.isEmpty then none
            else some (.scalar .plain properties.tag "", opened)
        | _ =>
            if properties.isEmpty then none
            else some (.scalar .plain properties.tag "", opened)
      return (start.mark properties.anchor node, next)

def readEntries (handles : Handles) (bound : Nat) (items : List Node) (state : NodeState) :
    Option (Node × NodeState) :=
  match bound with
  | 0 => none
  | bound + 1 =>
    match state.peek? with
    | some .blockEntry => do
        let next := state.skip
        let (item, after) ←
          if endsBlockEntry next.peek? then some (Node.missing, next)
          else readNode handles bound true false next
        readEntries handles bound (item :: items) after
    | some .blockEnd => some (.sequence items.reverse, state.skip)
    | _ => none

def readIndentless (handles : Handles) (bound : Nat) (items : List Node) (state : NodeState) :
    Option (Node × NodeState) :=
  match bound with
  | 0 => none
  | bound + 1 =>
    match state.peek? with
    | some .blockEntry => do
        let next := state.skip
        let (item, after) ←
          if endsIndentlessEntry next.peek? then some (Node.missing, next)
          else readNode handles bound true false next
        readIndentless handles bound (item :: items) after
    | _ => some (.sequence items.reverse, state)

def readMembers (handles : Handles) (bound : Nat) (entries : List (Node × Node))
    (state : NodeState) : Option (Node × NodeState) :=
  match bound with
  | 0 => none
  | bound + 1 =>
    match state.peek? with
    | some .key => do
        let next := state.skip
        let (key, afterKey) ←
          if endsBlockNode next.peek? then some (Node.missing, next)
          else readNode handles bound true true next
        let (value, after) ← readMemberValue handles bound afterKey
        readMembers handles bound ((key, value) :: entries) after
    | some .blockEnd => some (.mapping entries.reverse, state.skip)
    | _ => none

def readMemberValue (handles : Handles) (bound : Nat) (state : NodeState) :
    Option (Node × NodeState) :=
  match bound with
  | 0 => none
  | bound + 1 =>
    match state.peek? with
    | some .value =>
        let next := state.skip
        if endsBlockNode next.peek? then some (Node.missing, next)
        else readNode handles bound true true next
    | _ => some (Node.missing, state)

def readFlowItems (handles : Handles) (bound : Nat) (isFirst : Bool) (items : List Node)
    (state : NodeState) : Option (Node × NodeState) :=
  match bound with
  | 0 => none
  | bound + 1 =>
    match state.peek? with
    | some .flowSequenceEnd => some (.sequence items.reverse, state.skip)
    | token =>
      let separated :=
        if isFirst then some state
        else
          match token with
          | some .flowEntry => some state.skip
          | _ => none
      match separated with
      | none => none
      | some next =>
        match next.peek? with
        | some .flowSequenceEnd => some (.sequence items.reverse, next.skip)
        | some .key => do
            let (entry, after) ← readFlowPair handles bound next.skip
            readFlowItems handles bound false (.mapping [entry] :: items) after
        | _ => do
            let (item, after) ← readNode handles bound false false next
            readFlowItems handles bound false (item :: items) after

/-- Reads the key and the value of a mapping of one member inside a flow sequence. -/
def readFlowPair (handles : Handles) (bound : Nat) (state : NodeState) :
    Option ((Node × Node) × NodeState) :=
  match bound with
  | 0 => none
  | bound + 1 => do
    let (key, afterKey) ←
      if isValue state.peek? || endsFlowItem state.peek? then some (Node.missing, state.skip)
      else readNode handles bound false false state
    let (value, after) ←
      match afterKey.peek? with
      | some .value =>
          if endsFlowItem afterKey.skip.peek? then some (Node.missing, afterKey.skip)
          else readNode handles bound false false afterKey.skip
      | _ => some (Node.missing, afterKey)
    return ((key, value), after)

def readFlowMembers (handles : Handles) (bound : Nat) (isFirst : Bool)
    (entries : List (Node × Node)) (state : NodeState) : Option (Node × NodeState) :=
  match bound with
  | 0 => none
  | bound + 1 =>
    match state.peek? with
    | some .flowMappingEnd => some (.mapping entries.reverse, state.skip)
    | token =>
      let separated :=
        if isFirst then some state
        else
          match token with
          | some .flowEntry => some state.skip
          | _ => none
      match separated with
      | none => none
      | some next =>
        match next.peek? with
        | some .flowMappingEnd => some (.mapping entries.reverse, next.skip)
        | some .key => do
            let (key, afterKey) ←
              if isValue next.skip.peek? || endsFlowMember next.skip.peek? then
                some (Node.missing, next.skip)
              else readNode handles bound false false next.skip
            let (value, after) ←
              match afterKey.peek? with
              | some .value =>
                  if endsFlowMember afterKey.skip.peek? then some (Node.missing, afterKey.skip)
                  else readNode handles bound false false afterKey.skip
              | _ => some (Node.missing, afterKey)
            readFlowMembers handles bound false ((key, value) :: entries) after
        | _ => do
            let (key, after) ← readNode handles bound false false next
            readFlowMembers handles bound false ((key, Node.missing) :: entries) after

end

/-! ## Documents -/

/-- The meaning of handles where no directive gives another one. -/
def standardHandles : Handles :=
  [("!", Utf8.encode "!"), ("!!", Utf8.encode "tag:yaml.org,2002:")]

/-- Reads the directives before a document: each handle is given a meaning once, and there is one
version of the language at most. -/
def readDirectives (hasVersion : Bool) (handles : Handles) :
    List Token → Option (Bool × Handles × List Token)
  | .directive (.version major minor) :: rest =>
      if hasVersion || major != 1 || (minor != 1 && minor != 2) then none
      else readDirectives true handles rest
  | .directive (.tag handle leading) :: rest =>
      if handles.any (·.1 == handle) then none
      else readDirectives hasVersion ((handle, leading) :: handles) rest
  | rest => some (hasVersion, handles, rest)

def isDocumentEnd : Token → Bool
  | .documentEnd => true
  | _ => false

/-- Tokens before which the content of a document is missing. -/
def endsDocument : List Token → Bool
  | [] => true
  | .directive _ :: _ => true
  | .documentStart :: _ => true
  | .documentEnd :: _ => true
  | _ => false

/-- A document, where `bound` is greater than the number of its tokens. -/
def readContent (handles : Handles) (bound : Nat) (tokens : List Token) :
    Option (Node × List Token) :=
  (readNode handles bound true false ⟨tokens, []⟩).map fun (node, next) => (node, next.tokens)

def document? (tokens : List Token) : Option Node := do
  let bound := 4 * tokens.length + 4
  let (hasVersion, written, rest) ← readDirectives false [] tokens
  let handles := written ++ standardHandles
  let (node, after) ←
    match rest with
    | .documentStart :: content =>
        if endsDocument content then some (Node.missing, content)
        else readContent handles bound content
    | [] => if hasVersion || !written.isEmpty then none else some (Node.missing, [])
    | _ => if hasVersion || !written.isEmpty then none else readContent handles bound rest
  if (after.dropWhile isDocumentEnd).isEmpty then return node else none

def Node.ofText? (text : String) : Option Node :=
  (tokens? text.toList).bind document?

namespace Node

/-- The node itself, or what an alias stands for, given the anchored nodes of its document. -/
def resolve (anchors : List (Nat × Node)) : Node → Node
  | anchored _ node => node
  | reference number =>
      match anchors.reverse.find? (·.1 == number) with
      | some (_, node) => node
      | none => missing
  | node => node

end Node

end LiteralAudit.Yaml
