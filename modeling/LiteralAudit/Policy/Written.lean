import LiteralAudit.Policy.Configuration
import LiteralAudit.Text.Blank
import LiteralAudit.Yaml.Node

/-!
# Configurations in YAML texts

A configuration is written as a mapping. Members that are not known are skipped, members that are
left out keep their standard value, and no known member may stand twice.
-/

namespace LiteralAudit.Configuration

def truthTag : List UInt8 := Utf8.encode "tag:yaml.org,2002:bool"

def truth? (word : String) : Option Bool :=
  if word == "true" || word == "True" || word == "TRUE" then some true
  else if word == "false" || word == "False" || word == "FALSE" then some false
  else none

/-- A truth value is written plain, or as a block that is tagged as one. -/
def readTruth? : Yaml.Node → Option Bool
  | .scalar .plain _ content => truth? content
  | .scalar .literal (some tag) content => if tag = truthTag then truth? content else none
  | _ => none

/-- The text of a scalar, however it is written. -/
def readText? : Yaml.Node → Option String
  | .scalar _ _ content => some content
  | _ => none

def isMissing : Yaml.Node → Bool
  | .scalar .plain _ content => content.isEmpty
  | _ => false

/-- The texts of a sequence, given what aliases stand for. Nothing written is the empty sequence. -/
def readTexts? (resolve : Yaml.Node → Yaml.Node) : Yaml.Node → Option (List String)
  | .sequence items => items.mapM fun item => readText? (resolve item)
  | node => if isMissing node then some [] else none

/-- How one member is read into a configuration. -/
def readMember (resolve : Yaml.Node → Yaml.Node) (name : String) (written : Yaml.Node)
    (result : Configuration) : Option (Option Configuration) :=
  let truth := readTruth? (resolve written)
  let texts := readTexts? resolve (resolve written)
  match name with
  | "include" => some (texts.map fun includes => { result with includes })
  | "exclude" => some (texts.map fun excludes => { result with excludes })
  | "allow_empty" => some (truth.map fun allowEmpty => { result with allowEmpty })
  | "allow_empty_include" =>
      some (texts.map fun allowEmptyIncludes => { result with allowEmptyIncludes })
  | "allow_empty_returns" =>
      some (truth.map fun allowEmptyReturns => { result with allowEmptyReturns })
  | "allow_empty_declarations" =>
      some (truth.map fun allowEmptyDeclarations => { result with allowEmptyDeclarations })
  | "directives" => some (truth.map fun directives => { result with directives })
  | "excluded_files" => some (texts.map fun excludedFiles => { result with excludedFiles })
  | _ => none

/-- Reads members into a configuration, where `seen` are the known names before them. -/
def readEntries (resolve : Yaml.Node → Yaml.Node) (seen : List String) (result : Configuration) :
    List (Yaml.Node × Yaml.Node) → Option Configuration
  | [] => some result
  | (key, value) :: further => do
      let name ← readText? (resolve key)
      match readMember resolve name value result with
      | none => readEntries resolve seen result further
      | some read =>
          if seen.contains name then none
          else do
            let next ← read
            readEntries resolve (name :: seen) next further

def ofNode? (document : Yaml.Node) : Option Configuration :=
  let resolve := Yaml.Node.resolve document.anchors
  match resolve document with
  | .mapping entries => readEntries resolve [] standard entries
  | node => if isMissing node then some standard else none

/-- The configuration of a text, or nothing when the text does not hold one. A text of blanks holds
the standard one. -/
def ofText? (text : String) : Option Configuration :=
  if Text.isAllBlank text.toList then some standard else (Yaml.Node.ofText? text).bind ofNode?

end LiteralAudit.Configuration
