import LiteralAudit.Command.Arguments

/-!
# Reading command lines

Words are read from left to right. An option is written with two hyphens and its name, or with one
hyphen and its letter; its value is the next word, or stands in the same word. Two hyphens alone end
the options. A value that was read is settled when the next option is found, when the path is found,
or at the end; only then it can be refused.
-/

namespace LiteralAudit

/-- Why a command line is not run as a command. -/
inductive UsageError where
  | missingRequiredArgument
  | unknownArgument
  | invalidSubcommand
  /-- An option without its value, or an empty path. -/
  | invalidValue
  /-- An option that is given twice. -/
  | argumentConflict
  /-- A value for an option that takes none. -/
  | tooManyValues
  | displayHelp
  | displayVersion
  /-- Help is shown because nothing is asked for. -/
  | missingSubcommand
  deriving DecidableEq, Repr

namespace UsageError

/-- Help and version that are asked for are no failure. -/
def exitCode : UsageError → Nat
  | displayHelp | displayVersion => 0
  | _ => 2

end UsageError

inductive OptionUse where
  | flag
  | path
  | text
  /-- A text that may be given more than once. -/
  | texts
  | help
  deriving DecidableEq, Repr

namespace OptionUse

def takesValue : OptionUse → Bool
  | path | text | texts => true
  | flag | help => false

def accepts (use : OptionUse) (value : String) : Bool :=
  !(use == path && value.isEmpty)

end OptionUse

structure OptionForm where
  name : String
  letter : Option Char
  use : OptionUse
  deriving DecidableEq, Repr

structure CommandForm where
  options : List OptionForm
  /-- The word that is no option. -/
  operand : Option OptionForm
  deriving DecidableEq, Repr

/-- What was read of a command line: the settled values by name, first one first. -/
structure WordsRead where
  given : List (String × String)
  /-- An option or operand that is not settled, with its value if that was read. -/
  pending : Option (OptionForm × Option String)
  operandSeen : Bool
  optionsEnded : Bool
  deriving DecidableEq, Repr

namespace WordsRead

def start : WordsRead := ⟨[], none, false, false⟩

def has (words : WordsRead) (name : String) : Bool :=
  words.given.any (·.1 == name)

def add (words : WordsRead) (form : OptionForm) (value : String) : Except UsageError WordsRead :=
  if form.use != .texts && words.has form.name then .error .argumentConflict
  else if !form.use.accepts value then .error .invalidValue
  else .ok { words with given := words.given ++ [(form.name, value)] }

/-- Takes an option with the value that was read for it. -/
def accept (words : WordsRead) (form : OptionForm) (value : Option String) :
    Except UsageError WordsRead :=
  match form.use, value with
  | .help, _ => .error .displayHelp
  | .flag, _ => words.add form ""
  | _, none => .error .invalidValue
  | _, some content => words.add form content

/-- Takes what is pending. -/
def settle (words : WordsRead) : Except UsageError WordsRead :=
  match words.pending with
  | none => .ok words
  | some (form, value) => { words with pending := none }.accept form value

/-- Takes an option of which nothing can follow. -/
def take (words : WordsRead) (form : OptionForm) (value : Option String) :
    Except UsageError WordsRead :=
  words.settle.bind (·.accept form value)

/-- Leaves an option open for a value in the next word. -/
def hold (words : WordsRead) (form : OptionForm) (value : Option String) :
    Except UsageError WordsRead :=
  words.settle.map ({ · with pending := some (form, value) })

/-- Reads an option by its name, with the value that stands in the same word. -/
def readNamed (form : CommandForm) (words : WordsRead) (name : List Char)
    (attached : Option String) : Except UsageError WordsRead :=
  match form.options.find? (·.name.toList == name), attached with
  | none, _ => .error .unknownArgument
  | some found, none =>
      if found.use.takesValue then words.hold found none else words.take found none
  | some found, some value =>
      if found.use.takesValue then words.take found (some value) else .error .tooManyValues

/-- Reads options by their letters; what follows the letter of an option with a value is its
value. -/
def readLetters (form : CommandForm) (words : WordsRead) :
    List Char → Except UsageError WordsRead
  | [] => .ok words
  | letter :: rest =>
      match form.options.find? (·.letter == some letter) with
      | none => .error .unknownArgument
      | some found =>
          if found.use.takesValue then
            match rest with
            | [] => words.hold found none
            | '=' :: value => words.take found (some (String.ofList value))
            | value => words.take found (some (String.ofList value))
          else
            match words.take found none with
            | .ok next => readLetters form next rest
            | .error error => .error error

def readOperand (form : CommandForm) (words : WordsRead) (word : String) :
    Except UsageError WordsRead :=
  match form.operand, words.operandSeen with
  | some operand, false =>
      { words with operandSeen := true }.hold operand (some word)
  | _, _ => .error .unknownArgument

/-- Reads a word that is no option, or the value of the option before it. -/
def readPlain (form : CommandForm) (words : WordsRead) (word : String) :
    Except UsageError WordsRead :=
  match words.pending with
  | some (waiting, none) => .ok { words with pending := some (waiting, some word) }
  | _ => words.readOperand form word

def splitAttached (word : List Char) : List Char × Option String :=
  match word.dropWhile (· != '=') with
  | [] => (word, none)
  | _ :: value => (word.takeWhile (· != '='), some (String.ofList value))

/-- Reads a word where options may still follow. -/
def readOption (form : CommandForm) (words : WordsRead) (word : String) :
    Except UsageError WordsRead :=
  match word.toList with
  | ['-', '-'] => .ok { words with optionsEnded := true }
  | '-' :: '-' :: rest =>
      let (name, attached) := splitAttached rest
      words.readNamed form name attached
  | '-' :: letter :: rest => words.readLetters form (letter :: rest)
  | _ => words.readPlain form word

def read (form : CommandForm) (words : WordsRead) (word : String) : Except UsageError WordsRead :=
  if words.optionsEnded then words.readOperand form word else words.readOption form word

def ofWords (form : CommandForm) (words : List String) : Except UsageError WordsRead :=
  (words.foldlM (read form) start).bind settle

/-- The value of an option that is given at most once. -/
def value? (words : WordsRead) (name : String) : Option String :=
  words.given.lookup name

def values (words : WordsRead) (name : String) : List String :=
  (words.given.filter (·.1 == name)).map (·.2)

end WordsRead

/-! ## The commands -/

namespace CheckArguments

def form : CommandForm where
  options := [
    ⟨"config", some 'c', .path⟩,
    ⟨"include", some 'i', .texts⟩,
    ⟨"exclude", some 'e', .texts⟩,
    ⟨"allow-empty", none, .flag⟩,
    ⟨"allow-empty-include", none, .texts⟩,
    ⟨"allow-empty-returns", none, .flag⟩,
    ⟨"allow-empty-declarations", none, .flag⟩,
    ⟨"no-directives", none, .flag⟩,
    ⟨"source-root", none, .path⟩,
    ⟨"format", some 'f', .text⟩,
    ⟨"help", some 'h', .help⟩]
  operand := some ⟨"path", none, .path⟩

/-- The format that is used when none is asked for. -/
def standardFormat : String := "pretty"

/-- The arguments that some words give. The path has to be among them. -/
def ofWords (words : List String) : Except UsageError CheckArguments := do
  let read ← WordsRead.ofWords form words
  match read.value? "path" with
  | none => .error .missingRequiredArgument
  | some path => return {
      path,
      configPath := read.value? "config",
      includes := read.values "include",
      excludes := read.values "exclude",
      allowEmpty := read.has "allow-empty",
      allowEmptyIncludes := read.values "allow-empty-include",
      allowEmptyReturns := read.has "allow-empty-returns",
      allowEmptyDeclarations := read.has "allow-empty-declarations",
      noDirectives := read.has "no-directives",
      sourceRoot := read.value? "source-root",
      format := (read.value? "format").getD standardFormat }

end CheckArguments

namespace InitArguments

def form : CommandForm where
  options := [⟨"output", some 'o', .path⟩, ⟨"help", some 'h', .help⟩]
  operand := none

/-- Where a configuration is written to when no place is asked for. -/
def standardOutput : String := "exhaustruct.yaml"

def ofWords (words : List String) : Except UsageError InitArguments := do
  let read ← WordsRead.ofWords form words
  return { output := (read.value? "output").getD standardOutput }

end InitArguments

namespace Command

def names : List String := ["check", "init", "help"]

/-- The help for a command asks for no more than its name. -/
def readHelp : List String → UsageError
  | [] => .displayHelp
  | [name] => if names.contains name then .displayHelp else .invalidSubcommand
  | _ :: _ :: _ => .invalidSubcommand

/-- The fault of words behind two hyphens that no command stands before. -/
def readDetached : List String → UsageError
  | [] => .missingSubcommand
  | word :: _ => if names.contains word then .unknownArgument else .invalidSubcommand

/-- The options that stand before any command. -/
def readGlobal (word : List Char) : UsageError :=
  match word with
  | '-' :: '-' :: rest =>
      let (name, attached) := WordsRead.splitAttached rest
      if name = "help".toList ∨ name = "version".toList then
        if attached.isSome then .tooManyValues
        else if name = "help".toList then .displayHelp
        else .displayVersion
      else .unknownArgument
  | '-' :: 'h' :: _ => .displayHelp
  | '-' :: 'V' :: _ => .displayVersion
  | '-' :: _ :: _ => .unknownArgument
  | _ => .invalidSubcommand

/-- The command that words ask for, without the name of the program before them. -/
def ofWords : List String → Except UsageError Command
  | [] => .error .missingSubcommand
  | first :: rest =>
      if first = "check" then (CheckArguments.ofWords rest).map check
      else if first = "init" then (InitArguments.ofWords rest).map init
      else if first = "help" then .error (readHelp rest)
      else if first = "--" then .error (readDetached rest)
      else .error (readGlobal first.toList)

end Command

end LiteralAudit
