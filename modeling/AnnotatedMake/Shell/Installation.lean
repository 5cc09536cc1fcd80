import AnnotatedMake.Setting.Reading
import AnnotatedMake.Shell.ScriptFile

namespace AnnotatedMake

/-- A shell, and where its script goes; without a destination it is printed. -/
structure ScriptRequest where
  shell : Shell
  destination : Option String
deriving DecidableEq, Repr

namespace ScriptRequest

/-- Why arguments are no request. -/
inductive Error where
  | wrongCount
  | unsupported (name : String)
  | relative (destination : String)
deriving DecidableEq, Repr

def Error.message : Error → String
  | wrongCount =>
    "Usage: makecomp compgen <" ++ "|".intercalate (Shell.all.map Shell.name) ++ "> [default|path]"
  | unsupported name =>
    "Unsupported shell: " ++ name ++ ". Supported: " ++
      ", ".intercalate (Shell.all.map Shell.name)
  | relative destination =>
    "Relative path " ++ quotedText destination ++
      ": use an absolute path, ~/path, or 'default'."

/-- The destination that stands for the files that the shell looks for. -/
def usualDestination : String := "default"

/-- A destination begins at the root or in a home directory, unless it is the usual one. -/
def isDestination (text : String) : Bool :=
  text = usualDestination || startsText "/" text || startsText "~" text

/-- The request for a shell by name. -/
def ofNamed (name : String) (destination : Option String) : Except Error ScriptRequest :=
  match Shell.ofName? name, destination with
  | none, _ => .error (.unsupported name)
  | some shell, none => .ok ⟨shell, none⟩
  | some shell, some text =>
    if isDestination text then .ok ⟨shell, some text⟩ else .error (.relative text)

/-- The request that arguments make: a shell, and a destination or none. -/
def ofArguments : List String → Except Error ScriptRequest
  | [name] => ofNamed name none
  | [name, destination] => ofNamed name (some destination)
  | _ => .error .wrongCount

/-- What to do in a new shell once the usual files are written. -/
def hint (shell : Shell) (command : String) : String :=
  match shell with
  | .bash => "bash-completion picks it up in new shells, the first time " ++ command ++
      " is completed."
  | .zsh => "Ensure ~/.zsh/completions is in your fpath. Add to ~/.zshrc, before compinit:\n" ++
      "  fpath=(~/.zsh/completions $fpath)\n" ++ "Then run: rm -f ~/.zcompdump && exec zsh"
  | .fish => "fish picks it up the next time " ++ command ++ " is completed."

variable [Platform]

/-- The files that a destination stands for. -/
def filesAt (environment : Environment) (shell : Shell) (commands : List String)
    (destination : String) : Except Fault (List Path) :=
  if destination = usualDestination then shell.defaultPaths environment commands
  else (environment.expandHome (Path.ofString destination)).map fun path => [path]

/-- Writes a script to a file and makes the directories above it. -/
def writeScript (shell : Shell) (script : String) (file : Path) : Program Unit := do
  Program.debug ("Writing " ++ shell.name ++ " completions to: " ++ file.text)
  Program.makeDirectories file.parent
  Program.write file (bytesOf script)

/-- Writes a script to several files. A system fault ends the writing and is told in words. -/
def writeScripts (shell : Shell) (script : String) (files : List Path) :
    Program (Except String Unit) :=
  ((Program.forEach (writeScript shell script) files).bind fun _ => .done (.ok ())).recover
    fun fault =>
      if fault.isSystem then
        .done (.error ("Failed to write completion file: " ++ fault.message))
      else .fail fault

/-- A path with a tilde for the first occurrence of the home directory. -/
def shown (home file : Path) : String :=
  String.ofList (Text.replaceFirst home.text.toList ['~'] file.text.toList)

/-- What is told once the files are written. -/
def success (shell : Shell) (command destination : String) (home : Path) (files : List Path) :
    String :=
  let places := ", ".intercalate (files.map (shown home))
  if destination = usualDestination then
    "Completions installed to " ++ places ++ "\n" ++ hint shell command
  else "Completions written to " ++ places

/-- Installs the script for commands, of which there is at least one. -/
def install (shell : Shell) (first : String) (rest : List String) (destination : String) :
    Program (Except String String) := do
  let environment ← Program.environment ["HOME"]
  let files ← Program.ofReply (filesAt environment shell (first :: rest) destination)
  let script := shell.script Shell.programName (first :: rest)
  match ← writeScripts shell script files with
  | .error failure => return .error failure
  | .ok () =>
    let home ← Program.ofReply environment.home
    return .ok (success shell first destination home files)

/-- Meets a request: gives the script, or installs it and tells where it went. -/
def fulfil (request : ScriptRequest) (settings : Settings) : Program (Except String String) := do
  match ← settings.readTexts "commands" Schema.defaultCommands with
  | [] => return .error "No command to complete, check the 'commands' option"
  | first :: rest =>
    match request.destination with
    | none => return .ok (request.shell.script Shell.programName (first :: rest))
    | some destination => install request.shell first rest destination

/-- Meets the request that arguments make, or tells why they make none. -/
def answer (arguments : List String) (settings : Settings) : Program (Except String String) :=
  match ofArguments arguments with
  | .ok request => request.fulfil settings
  | .error error => .done (.error error.message)

end ScriptRequest

end AnnotatedMake
