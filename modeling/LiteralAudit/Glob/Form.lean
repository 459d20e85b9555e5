import LiteralAudit.Glob.Token

/-!
# Forms of globs

A glob of a simple form is matched by its form: by the last component of a path, by its extension,
or by the text that the path starts or ends with. A path that is empty or ends with the parent
folder has neither last component nor extension.
-/

namespace LiteralAudit

namespace Glob

/-! ## Simple forms -/

/-- The text of tokens that all stand for themselves. -/
def literals? (tokens : List Token) : Option (List Char) :=
  tokens.mapM fun token =>
    match token with
    | .literal character => some character
    | _ => none

def nonEmpty? (text : List Char) : Option (List Char) :=
  if text.isEmpty then none else some text

/-- A component that may stand in any folder. -/
def componentText? : List Token → Option (List Char)
  | .foldersBefore :: rest =>
      ((literals? rest).bind nonEmpty?).filter (!·.contains ReadState.separator)
  | _ => none

/-- The extension that a glob asks for and nothing else, with its dot. -/
def extensionText? (tokens : List Token) : Option (List Char) :=
  let start :=
    match tokens with
    | .foldersBefore :: rest => rest
    | _ => tokens
  match start with
  | .anyBytes :: .literal '.' :: rest =>
      (((literals? rest).filter (!·.contains '.')).filter
        (!·.contains ReadState.separator)).map ('.' :: ·)
  | _ => none

/-- The text that paths start with, where nothing else is asked for. -/
def prefixText? (tokens : List Token) : Option (List Char) :=
  let text :=
    match tokens.reverse with
    | .anyBytes :: before => literals? before.reverse
    | .contentBelow :: before => (literals? before.reverse).map (· ++ [ReadState.separator])
    | _ => none
  text.bind nonEmpty?

/-- The text that paths end with, where nothing else is asked for, and whether it is a sequence of
whole components. -/
def suffixText? (tokens : List Token) : Option (List Char × Bool) :=
  let (lead, start, isComponents) : List Char × List Token × Bool :=
    match tokens with
    | .foldersBefore :: .literal character :: rest =>
        ([ReadState.separator], .literal character :: rest, true)
    | .foldersBefore :: rest => ([], rest, false)
    | _ => ([], tokens, false)
  let ending :=
    match start with
    | [] => none
    | .anyBytes :: rest => literals? rest
    | _ => literals? start
  match ending with
  | none => none
  | some text =>
      let whole := lead ++ text
      if whole.isEmpty || whole == [ReadState.separator] then none else some (whole, isComponents)

inductive Form where
  | component (text : List UInt8)
  | whole (text : List UInt8)
  | extension (text : List UInt8)
  | startsWith (text : List UInt8)
  | endsWith (text : List UInt8) (isComponents : Bool)
  deriving DecidableEq, Repr

def encode (text : List Char) : List UInt8 :=
  text.flatMap String.utf8EncodeChar

/-- The first form that fits, if one does. -/
def Form.ofTokens? (tokens : List Token) : Option Form :=
  (((((componentText? tokens).map fun text => component (encode text)).or
    (((literals? tokens).bind nonEmpty?).map fun text => whole (encode text))).or
    ((extensionText? tokens).map fun text => extension (encode text))).or
    ((prefixText? tokens).map fun text => startsWith (encode text))).or
    ((suffixText? tokens).map fun found => endsWith (encode found.1) found.2)

/-- The extension that every match has, with its dot. -/
def requiredExtension? (tokens : List Token) : Option (List UInt8) :=
  let ending := tokens.reverse.takeWhile fun token =>
    match token with
    | .literal character => character != '.'
    | _ => false
  match tokens.reverse.drop ending.length with
  | .literal '.' :: _ =>
      let text? := (literals? ending).map List.reverse
      (text?.filter (!·.contains ReadState.separator)).map fun text => encode ('.' :: text)
  | _ => none

/-! ## Paths -/

def slashByte : UInt8 := 0x2F

def dotByte : UInt8 := 0x2E

/-- The last component of a path; nothing for a path that ends with the parent folder. -/
def lastComponent (path : List UInt8) : List UInt8 :=
  let component := (path.reverse.takeWhile (· != slashByte)).reverse
  if component == [dotByte, dotByte] then [] else component

/-- The extension of the last component with its dot, if it has one. -/
def extension (path : List UInt8) : List UInt8 :=
  let component := lastComponent path
  if component.contains dotByte then
    dotByte :: (component.reverse.takeWhile (· != dotByte)).reverse
  else []

def Form.isMatch (form : Form) (path : List UInt8) : Bool :=
  match form with
  | component text => !(lastComponent path).isEmpty && lastComponent path == text
  | whole text => path == text
  | extension text => !(Glob.extension path).isEmpty && Glob.extension path == text
  | startsWith text => text.isPrefixOf path
  | endsWith text isComponents => text.isSuffixOf path || (isComponents && path == text.drop 1)

end Glob

end LiteralAudit
