import AnnotatedMake.CommandLine.Invocation
import AnnotatedMake.CommandLine.Streams
import AnnotatedMake.Completion.Session
import AnnotatedMake.Json
import AnnotatedMake.Setting.Loading
import AnnotatedMake.Shell.Installation

namespace AnnotatedMake.CommandLine

inductive ExitCode where
  | success
  | usageError
  | environmentError
  | commandError
deriving DecidableEq, Repr

def ExitCode.number : ExitCode → Nat
  | success => 0
  | usageError => 1
  | environmentError => 2
  | commandError => 4

/-- The texts that a command prints in turn, and those that it complains in. -/
structure Answer where
  code : ExitCode := .success
  texts : List String := []
  complaint : List String := []
deriving DecidableEq, Repr

def Answer.output (answer : Answer) : String := String.join answer.texts

/-- The exit code with all that is printed. -/
structure Outcome where
  code : Nat
  output : String := ""
  diagnostics : String := ""
deriving DecidableEq, Repr

/-- What the program knows when it starts. -/
structure Setup extends Streams where
  locations : Locations
  debug : Bool := false

def lineOf (text : String) : String := text ++ "\n"

/-- Texts with a line feed behind each. -/
def printed (lines : List String) : String := String.join (lines.map lineOf)

/-- Without a cursor the last word is completed. -/
def lastCursor (words : List String) : Int := (words.length - 1 : Nat)

/-- What is completed: a line, or words with the cursor on one of them. -/
def queryOf (line : Given String) (cursor : Given Int) (words : List String) : Program Query :=
  match line, cursor with
  | .value line, _ => .done (.ofLine line)
  | .absent, .value cursor => .done ⟨words, cursor⟩
  | .absent, .absent => .done ⟨words, lastCursor words⟩
  | _, _ => .fail .blankValue

variable [Platform]

/-- The candidates for a query; a Makefile left blank is missed where it has to be read. -/
def candidatesFor (session : Session) (query : Query) : Given Path → Program (List String)
  | .value file => session.complete query (some file)
  | .absent => session.complete query none
  | .blank => if query.isOnArgument then .fail .blankValue else .done []

def complete (settings : Settings) (file : Given Path) (line : Given String)
    (cursor : Given Int) (words : List String) : Program Answer := do
  let session ← Session.ofSettings settings
  let query ← queryOf line cursor words
  return { texts := (← candidatesFor session query file).map lineOf }

/-- The Makefile to read; it is an error when there is none. -/
def requireSource (session : Session) (file : Option Path) : Program Path := do
  let found ← match file with
    | some path => pure (some path)
    | none => session.findSource none
  let isThere ← match found with
    | some path => Program.isFile path
    | none => pure false
  match found, isThere with
  | some path, true => return path
  | _, _ =>
    let place := match file with
      | some path => "at " ++ path.text
      | none => "in the current directory"
    Program.report .error ("No Makefile found " ++ place)
    throw .reported

/-- The text of an index for other programs, or as it is cached. -/
def dumpText (structured : Bool) (index : ScopeIndex) : String :=
  if structured then (Json.list (index.definitions.map Definition.json)).render 0 ++ "\n"
  else CacheRecord.encodeIndex index

def dump (settings : Settings) (file : Option Path) (structured : Bool) : Program Answer := do
  let session ← Session.ofSettings settings
  let source ← requireSource session file
  let index ← session.cache.parse (← readLines source)
  return { texts := [dumpText structured index] }

def targets (settings : Settings) (file : Option Path) : Program Answer := do
  let session ← Session.ofSettings settings
  let source ← requireSource session file
  return { texts := (RuleName.ofLines (← readLines source)).map lineOf }

def clearCache (settings : Settings) : Program Answer := do
  let session ← Session.ofSettings settings
  let removed ← session.cache.clear
  return { texts := [lineOf ("Removed " ++ toString removed ++ " cache file" ++
    (if removed = 1 then "" else "s") ++ " from " ++ session.cache.directory.text)] }

def script (settings : Settings) (shell : Shell) (destination : Option String) :
    Program Answer := do
  match ← ScriptRequest.answer (shell.name :: destination.toList) settings with
  | .ok text => return { texts := [lineOf text] }
  | .error complaint => return { code := .commandError, complaint := [lineOf complaint] }

/-- The logger that a command reports to. -/
def Command.logger : Command → String
  | .clearCache => "cache"
  | command => command.name

/-- Reports that a logger below the main one is ready, or the main one itself. -/
def reportReady (logger : Option String) : Program Unit :=
  let name := String.intercalate "." (mainLogger :: logger.toList)
  Program.debug ("Logger \"" ++ name ++ "\" initialized")

/-- Does what a command says under given settings. -/
def Command.perform (command : Command) (settings : Settings) : Program Answer :=
  match command with
  | .complete file line cursor words => CommandLine.complete settings file line cursor words
  | .script shell destination => CommandLine.script settings shell destination
  | .dump file structured => CommandLine.dump settings file structured
  | .targets file => CommandLine.targets settings file
  | .clearCache => CommandLine.clearCache settings

def Command.answer (command : Command) (settings : Settings) : Program Answer := do
  reportReady (some command.logger)
  command.perform settings

def Command.isCompletion : Command → Bool
  | .complete .. => true
  | _ => false

/-- The settings for a command. For a completion the defaults stand in for settings whose faults
were reported. -/
def Invocation.settings (invocation : Invocation) (locations : Locations) :
    Program Settings := do
  reportReady (some "config")
  (Settings.load locations invocation.settingsFile).recover fun fault =>
    if fault = .reported && invocation.command.isCompletion then
      .done (Settings.standard locations)
    else .fail fault

/-- The exit code of a command that was refused for reasons that were reported. -/
def Command.refusal : Command → ExitCode
  | .dump .. | .targets _ => .environmentError
  | _ => .usageError

/-- The exit code of a command that a fault ended. -/
def Command.failure (command : Command) : ExitCode :=
  if command.isCompletion then .success else .commandError

/-- The answer of a command that a fault ended, which is reported unless it was before. -/
def Command.afterFault (command : Command) (fault : Fault) : Program Answer :=
  if fault = .reported then .done { code := command.refusal }
  else do
    if fault.isSystem then Program.reportFault .error (command.name ++ " failed") fault
    else Program.reportFault .critical "Unhandled exception:" fault
    return { code := command.failure }

/-- Loads the settings and answers the command. -/
def Invocation.answer (invocation : Invocation) (locations : Locations) : Program Answer := do
  reportReady none
  ((invocation.settings locations).bind invocation.command.answer).recover
    invocation.command.afterFault

/-- Complaints are printed while standard error is closed. -/
def Answer.directed (answer : Answer) (streams : Streams) : Answer :=
  if streams.hasErrors then answer
  else { answer with texts := answer.texts ++ answer.complaint, complaint := [] }

/-- Prints what a command answers, up to a text that cannot be encoded. -/
def Command.deliver (command : Command) (streams : Streams) (answer : Answer) :
    Program Answer := do
  let texts := (answer.directed streams).texts
  if texts.all streams.accepts then
    return { answer.directed streams with texts := streams.taken texts }
  else
    return { ← command.afterFault .notEncoded with texts := streams.taken texts }

/-- Answers the command and prints the answer. -/
def Invocation.delivery (invocation : Invocation) (setup : Setup) : Program Answer := do
  invocation.command.deliver setup.toStreams (← invocation.answer setup.locations)

/-- An entry of the log as a diagnostic. -/
def recordOf (entry : Entry) : Record :=
  { level := entry.level.number, logger := mainLogger, text := entry.text, cause := entry.cause }

/-- The entries as they are shown on the screen, those of a low level only while debugging. -/
def shown (debug : Bool) (layout : Layout) (entries : List Entry) : String :=
  let least := if debug then Level.debug.number else Level.warning.number
  printed ((entries.filter fun entry => least ≤ entry.level.number).map fun entry =>
    layout.render (recordOf entry))

def Answer.outcome (answer : Answer) (diagnostics : String) : Outcome :=
  { code := answer.code.number, output := answer.output
    diagnostics := diagnostics ++ String.join answer.complaint }

/-- Carries out a command line. Its log is shown on the screen, or kept in a file on demand. -/
def Invocation.outcome (invocation : Invocation) (setup : Setup) : Program Outcome := do
  if invocation.debugFile = "" then
    let environment ← Program.environment ["NO_COLOR", "FORCE_COLOR"]
    let layout ← Program.ofReply (setup.layout environment)
    let (answer, entries) ← Program.collecting [] (invocation.delivery setup)
    return (← Program.ofReply answer).outcome
      (if setup.hasErrors then shown setup.debug layout entries else "")
  else
    Program.openLog (Path.ofString invocation.debugFile)
    return (← invocation.delivery setup).outcome ""

/-- How the program is used, in short. -/
def usage : String := printed [
  "usage: makecomp [-h] [--debug FILE] [--config FILE] COMMAND ...",
  "commands: complete [--file FILE] [--line LINE] [--cword N] [--] [WORD ...]",
  "          compgen bash|zsh|fish [default|PATH]",
  "          dump [--file FILE] [--json]",
  "          targets [--file FILE]",
  "          clear-cache"]

/-- The outcome of a command line that is not carried out. -/
def Stop.outcome : Stop → Outcome
  | help => { code := 0, output := usage }
  | wrongUsage => { code := 2, diagnostics := usage }

/-- The outcome of the arguments of the program. -/
def outcomeOf (setup : Setup) (arguments : List String) : Program Outcome :=
  match Invocation.ofArguments arguments with
  | .ok invocation => invocation.outcome setup
  | .error stop => .done stop.outcome

/-- The program as it is started: the locations of a user are found out before anything else. -/
def program (streams : Streams) (arguments : List String) : Program Outcome := do
  let environment ← Program.environment
    ["HOME", "XDG_CONFIG_HOME", "XDG_CACHE_HOME", "MAKECOMP_DEBUG"]
  let locations ← Program.ofReply (Locations.ofEnvironment environment)
  outcomeOf { streams with locations, debug := environment.getD "MAKECOMP_DEBUG" "" ≠ "" } arguments

end AnnotatedMake.CommandLine
