import AnnotatedMake.CommandLine.Item
import AnnotatedMake.Number.Literal
import AnnotatedMake.Path
import AnnotatedMake.Shell.Script

namespace AnnotatedMake.CommandLine

/-- What a command line tells of an option: nothing, that its value is left blank, or its value. -/
inductive Given (α : Type) where
  | absent
  | blank
  | value (content : α)
deriving DecidableEq, Repr

/-- An option that is there, with its value or none. -/
def Given.ofOption {α : Type} : Option α → Given α
  | some content => value content
  | none => blank

inductive Command where
  /-- Prints the candidates for a line, or for words with the cursor on one of them. -/
  | complete (file : Given Path) (line : Given String) (cursor : Given Int)
    (words : List String)
  /-- Prints or installs the script for a shell. -/
  | script (shell : Shell) (destination : Option String)
  /-- Prints the definitions in a Makefile. -/
  | dump (file : Option Path) (structured : Bool)
  /-- Prints the rule names of a Makefile. -/
  | targets (file : Option Path)
  /-- Removes the cache files. -/
  | clearCache
deriving DecidableEq, Repr

def Command.name : Command → String
  | complete .. => "complete"
  | script .. => "compgen"
  | dump .. => "dump"
  | targets _ => "targets"
  | clearCache => "clear-cache"

/-- A command with the options for all commands; the names of both files may be empty. -/
structure Invocation where
  debugFile : String := ""
  settingsFile : String := ""
  command : Command
deriving DecidableEq, Repr

/-- What is read so far, and whether anything was read that has no place. -/
structure Partly (α : Type) where
  read : α
  misplaced : Bool := false

namespace Partly

variable {α : Type}

/-- What was read, if everything had a place. -/
def whole (part : Partly α) : Except Stop α :=
  if part.misplaced then .error .wrongUsage else .ok part.read

/-- Notes something that has no place. -/
def skip (part : Partly α) : Partly α := { part with misplaced := true }

/-- Reads one item: an option or a run of words changes what is read. -/
def step (onOption : α → String → Option String → Except Stop α)
    (onWords : α → List String → Except Stop (Option α)) (part : Partly α) :
    Item → Except Stop (Partly α)
  | .faulty => .error .wrongUsage
  | .unknownOption => .ok part.skip
  | .option name value =>
    if helpForms.any fun form => form.name = name then .error .help
    else (onOption part.read name value).map fun read => { part with read }
  | .words run =>
    (onWords part.read run).map fun
      | some read => { part with read }
      | none => part.skip

/-- Reads all items in turn. -/
def items (onOption : α → String → Option String → Except Stop α)
    (onWords : α → List String → Except Stop (Option α)) (start : α) (all : List Item) :
    Except Stop α := do
  (← all.foldlM (step onOption onWords) { read := start }).whole

end Partly

/-- The arguments of a command from its items, given what it starts from and its options. -/
def readArguments {α : Type} (forms : List OptionForm) (start : α)
    (onOption : α → String → Option String → Except Stop α)
    (onWords : α → List String → Except Stop (Option α)) (words : List String) :
    Except Stop α := do
  Partly.items onOption onWords start (itemsOf (← tokensOf (helpForms ++ forms) words))

/-- A command that takes no words. -/
def noWords {α : Type} (_ : α) (_ : List String) : Except Stop (Option α) := .ok none

def fileForm : OptionForm := ⟨"--file", true⟩

structure CompleteArguments where
  file : Given Path := .absent
  line : Given String := .absent
  cursor : Given Int := .absent
  words : Option (List String) := none

namespace CompleteArguments

def forms : List OptionForm := [fileForm, ⟨"--line", true⟩, ⟨"--cword", true⟩]

/-- The cursor that a value gives. -/
def cursorOf : Option String → Except Stop (Given Int)
  | none => .ok .blank
  | some text =>
    match Literal.integer? text with
    | some cursor => .ok (.value cursor)
    | none => .error .wrongUsage

def onOption (arguments : CompleteArguments) (name : String) (value : Option String) :
    Except Stop CompleteArguments :=
  if name = "--file" then .ok { arguments with file := .ofOption (value.map Path.ofString) }
  else if name = "--line" then .ok { arguments with line := .ofOption value }
  else (cursorOf value).map fun cursor => { arguments with cursor }

/-- The words stand together; the separator among them is left out. -/
def onWords (arguments : CompleteArguments) (run : List String) :
    Except Stop (Option CompleteArguments) :=
  match arguments.words with
  | none => .ok (some { arguments with words := some (run.erase separatorWord) })
  | some _ => .ok none

def command (arguments : CompleteArguments) : Command :=
  .complete arguments.file arguments.line arguments.cursor (arguments.words.getD [])

end CompleteArguments

/-- The shell of a name that a command line gives. -/
def shellNamed (name : String) : Except Stop Shell :=
  match Shell.ofName? name with
  | some shell => .ok shell
  | none => .error .wrongUsage

/-- A shell and a destination stand together. A separator counts as no destination, and an empty
text as none. -/
def onScriptWords (arguments : Option Command) (run : List String) :
    Except Stop (Option (Option Command)) :=
  match arguments, run.erase separatorWord with
  | none, name :: rest => do
    let shell ← shellNamed name
    match rest with
    | [] => return some (some (.script shell none))
    | [destination] =>
      let isNone := destination = separatorWord || destination = ""
      return some (some (.script shell (if isNone then none else some destination)))
    | _ => return none
  | _, _ => return none

def dumpOption : Option Path × Bool → String → Option String → Except Stop (Option Path × Bool)
  | (file, structured), name, value =>
    if name = "--file" then .ok (value.map Path.ofString, structured) else .ok (file, true)

def fileOption (_ : Option Path) (_ : String) (value : Option String) :
    Except Stop (Option Path) :=
  .ok (value.map Path.ofString)

/-- A command without options of its own. -/
def noOption {α : Type} (arguments : α) (_ : String) (_ : Option String) : Except Stop α :=
  .ok arguments

def readScript (words : List String) : Except Stop Command := do
  match ← readArguments [] none noOption onScriptWords words with
  | some command => return command
  | none => throw .wrongUsage

/-- The command of a name, with the words behind the name as its arguments. -/
def readCommand (name : String) (words : List String) : Except Stop Command :=
  match name with
  | "complete" =>
    (readArguments CompleteArguments.forms {} CompleteArguments.onOption
      CompleteArguments.onWords words).map CompleteArguments.command
  | "compgen" => readScript words
  | "dump" =>
    (readArguments [fileForm, ⟨"--json", false⟩] (none, false) dumpOption noWords words).map
      fun (file, structured) => .dump file structured
  | "targets" => (readArguments [fileForm] none fileOption noWords words).map .targets
  | "clear-cache" => (readArguments [] () noOption noWords words).map fun _ => .clearCache
  | _ => .error .wrongUsage

/-- The options for all commands; they cannot be abbreviated. -/
def globalForms : List OptionForm := helpForms ++ [⟨"--debug", true⟩, ⟨"--config", true⟩]

/-- The values of the options for all commands. -/
structure Globals where
  debugFile : String := ""
  settingsFile : String := ""

/-- Sets the value of an option; without one its text is empty. -/
def Globals.set (globals : Globals) (name : String) (value : Option String) : Globals :=
  if name = "--debug" then { globals with debugFile := value.getD "" }
  else { globals with settingsFile := value.getD "" }

/-- The value of an option, from its own word or the word behind it. -/
def valueOf (attached : Option String) (words : List String) :
    Except Stop (Option String × List String) :=
  match attached, words with
  | some text, rest => .ok (attachedValue text, rest)
  | none, [] => .error .wrongUsage
  | none, word :: rest =>
    match tokenOf false globalForms word with
    | .ok (.value text) => .ok (some text, rest)
    | _ => .error .wrongUsage

/-- Reads the options for all commands, then the command; each round takes at least one word. -/
def readInvocation : Nat → Partly Globals → List String → Except Stop Invocation
  | 0, _, _ => .error .wrongUsage
  | _ + 1, _, [] => .error .wrongUsage
  | fuel + 1, part, word :: rest => do
    match ← tokenOf false globalForms word with
    | .separator => throw .wrongUsage
    | .unknownOption => readInvocation fuel part.skip rest
    | .option form attached =>
      if form.takesValue then
        let (value, rest) ← valueOf attached rest
        readInvocation fuel { part with read := part.read.set form.name value } rest
      else if attached.isNone then throw .help
      else throw .wrongUsage
    | .value name =>
      let command ← readCommand name rest
      let globals ← part.whole
      return { debugFile := globals.debugFile, settingsFile := globals.settingsFile, command }

/-- What the arguments of the program ask for. -/
def Invocation.ofArguments (words : List String) : Except Stop Invocation :=
  readInvocation (words.length + 1) { read := {} } words

end AnnotatedMake.CommandLine
