/-
This file meets the calls of programs on a real machine.
It is not told when a file changed, so every file counts as changed just now.
-/

import AnnotatedMake.CommandLine.Outcome
import AnnotatedMake.Host.FileSystem

namespace AnnotatedMake.Machine

/-- The number for calls that the system does not offer. -/
def notOffered : Nat := 38

/-- The number for errors without one of their own. -/
def inputOutput : Nat := 5

def faultOf : IO.Error → Fault
  | .alreadyExists _ code _ | .otherError code _ | .resourceBusy code _
  | .resourceVanished code _ | .unsupportedOperation code _ | .hardwareFault code _
  | .unsatisfiedConstraints code _ | .illegalOperation code _ | .protocolError code _
  | .timeExpired code _ | .interrupted _ code _ | .noFileOrDirectory _ code _
  | .invalidArgument _ code _ | .permissionDenied _ code _ | .resourceExhausted _ code _
  | .inappropriateType _ code _ | .noSuchThing _ code _ => .system code.toNat
  | .unexpectedEof | .userError _ => .system inputOutput

/-- Does something at a path, unless no file can have it. -/
def attempt {α : Type} (path : Path) (action : String → IO α) : IO (Except Fault α) :=
  if path.parts.any (holds (Char.ofNat 0)) then return .error .nullByte
  else
    try return .ok (← action path.text)
    catch error => return .error (faultOf error)

/-- The status of what a path leads to: a directory can be opened and not read. -/
def inspect (path : Path) : IO (Except Fault Status) := do
  let time ← IO.monoNanosNow
  match ← attempt path fun text => do (← IO.FS.Handle.mk text .read).read 1 with
  | .ok _ => return .ok ⟨.file, time⟩
  | .error fault =>
    if fault = .system Fault.isDirectory then return .ok ⟨.directory, time⟩ else return .error fault

/-- Makes an empty file under the first temporary name that is vacant. -/
def createTemporary (directory : Path) (ending : String) : Nat → Nat → IO (Except Fault Path)
  | 0, _ => return .error (.system Fault.alreadyThere)
  | left + 1, count => do
    let path := directory.child (FileSystem.temporaryName ending count)
    match ← attempt path fun text => IO.FS.Handle.mk text .writeNew with
    | .ok _ => return .ok path
    | .error fault =>
      if fault = .system Fault.alreadyThere then createTemporary directory ending left (count + 1)
      else return .error fault

def currentDirectory : IO (Except Fault Path) :=
  attempt .here fun _ => do return Path.ofString (toString (← IO.currentDir))

/-- The path of what a path leads to; a path that leads nowhere is taken as it is. -/
def resolve (path : Path) : IO (Except Fault Path) := do
  match ← attempt path fun text => do return Path.ofString (toString (← IO.FS.realPath text)) with
  | .ok found => return .ok found
  | .error .nullByte => return .error .nullByte
  | .error _ => return (← currentDirectory).map fun directory => (directory.join path).collapsed

/-- The variables of the given names that are set. -/
def setVariables (names : List String) : IO Environment := do
  let found ← names.filterMapM fun name => do
    return (← IO.getEnv name).map fun value => (name, value)
  return .ofList found

def bytesAsArray (content : Bytes) : ByteArray := ⟨content.toArray⟩

/-- The reply of the system to a call, and the file that the log is kept in. -/
def perform (log : Option IO.FS.Handle) :
    (request : Call) → IO (request.Reply × Option IO.FS.Handle)
  | .read path =>
    return (← attempt path fun text => do return (← IO.FS.readBinFile text).data.toList, log)
  | .inspect path => return (← inspect path, log)
  | .list _ => return (.error (.system notOffered), log)
  | .makeDirectory path => return (← attempt path fun text => IO.FS.createDir text, log)
  | .createTemporary directory ending =>
    return (← createTemporary directory ending FileSystem.temporaryLimit 0, log)
  | .append path content =>
    return (← attempt path fun text => do
      (← IO.FS.Handle.mk text .append).write (bytesAsArray content), log)
  | .write path content =>
    return (← attempt path fun text => IO.FS.writeBinFile text (bytesAsArray content), log)
  | .rename source goal =>
    return (← attempt goal fun text => IO.FS.rename source.text text, log)
  | .remove path => return (← attempt path fun text => IO.FS.removeFile text, log)
  | .resolve path => return (← resolve path, log)
  | .currentDirectory => return (← currentDirectory, log)
  | .environment names => return (← setVariables names, log)
  | .openLog path => do
    match ← attempt path.beforeNull fun text => IO.FS.Handle.mk text .append with
    | .ok file => return (.ok (), some file)
    | .error fault => return (.error fault, log)
  | .report entry => do
    if let some file := log then
      file.putStr entry.fileText
    return ((), log)

/-- Runs a program on this machine. -/
def execute {α : Type} (log : Option IO.FS.Handle) : Program α → IO (Except Fault α)
  | .done result => return .ok result
  | .fail fault => return .error fault
  | .call request next => do
    let (reply, log) ← perform log request
    execute log (next reply)

/-- The lines of a file of the system; there are none when it cannot be read. -/
def linesOfFile (file : String) : IO (List String) := do
  try return (← IO.FS.lines file).toList
  catch _ => return []

/-- The users that the system tells of: their names, their numbers and their home directories. -/
def users : IO (List (String × String × String)) := do
  return (← linesOfFile "/etc/passwd").filterMap fun line =>
    match piecesOf ':' line with
    | [name, _, number, _, _, home, _] => some (name, number, home)
    | _ => none

/-- The number of the user for whom this program runs. -/
def ownNumber : IO String := do
  let lines ← linesOfFile "/proc/self/status"
  return (lines.findSome? fun line =>
    match piecesOf '\t' line with
    | "Uid:" :: number :: _ => some number
    | _ => none).getD ""

/-- The platform with the users of this machine. -/
def platform : IO Platform := do
  let known ← users
  let own ← ownNumber
  return { Platform.plain with
    homeOf? := fun user => known.findSome? fun (name, _, home) =>
      if name = user then some home else none
    ownHome? := known.findSome? fun (_, number, home) => if number = own then some home else none }

/-- Carries out the arguments of the program; a fault before the command starts ends it. -/
def outcome (arguments : List String) : IO (Except Fault CommandLine.Outcome) := do
  let isTerminal ← (← IO.getStderr).isTty
  execute none (@CommandLine.program (← platform) { isTerminal } arguments)

end AnnotatedMake.Machine

def main (arguments : List String) : IO UInt32 := do
  match ← AnnotatedMake.Machine.outcome arguments with
  | .ok outcome =>
    IO.print outcome.output
    IO.eprint outcome.diagnostics
    return outcome.code.toUInt32
  | .error fault =>
    IO.eprintln fault.message
    return 1
