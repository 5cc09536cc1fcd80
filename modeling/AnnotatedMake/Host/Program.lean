/-
This file models programs as data: a result, a fault, or a call with what follows each reply.
So a program can be run on a model of a host, beside other programs, or on a real machine.
-/

import AnnotatedMake.Diagnostics.Entry
import AnnotatedMake.Expansion
import AnnotatedMake.Text.Utf8

namespace AnnotatedMake

/-- What can stand at a path, links followed. -/
inductive Standing where
  | directory
  | file
  | device
deriving DecidableEq, Repr

/-- What stands at a path, and when it last changed. -/
structure Status where
  standing : Standing
  changed : Int
deriving DecidableEq, Repr

/-- A request to the host. -/
inductive Call where
  /-- The content of a file. -/
  | read (path : Path)
  /-- The status of what a path leads to. -/
  | inspect (path : Path)
  /-- The names in a directory. -/
  | list (path : Path)
  /-- Makes a directory in an existing one. -/
  | makeDirectory (path : Path)
  /-- Makes an empty file under a new name, given by its ending, in a directory. -/
  | createTemporary (directory : Path) (ending : String)
  /-- Adds to a file while it is there; to a file that is gone nothing is added. -/
  | append (path : Path) (content : Bytes)
  /-- Gives a file its content, making the file if it is missing. -/
  | write (path : Path) (content : Bytes)
  /-- Moves a file onto a path in one step. -/
  | rename (source goal : Path)
  /-- Removes a file. -/
  | remove (path : Path)
  /-- The absolute path of what a path leads to, without links and dots. -/
  | resolve (path : Path)
  /-- The path of the current directory. -/
  | currentDirectory
  /-- The environment, with the named variables among its own. -/
  | environment (names : List String)
  /-- Sends the entries reported from here on to a file, which is made if it is missing. Its path
  ends at the first null character. -/
  | openLog (path : Path)
  /-- Reports an entry to the log. -/
  | report (entry : Entry)
deriving DecidableEq

/-- What a host replies to a call. -/
abbrev Call.Reply : Call → Type
  | read _ => Except Fault Bytes
  | inspect _ => Except Fault Status
  | list _ => Except Fault (List String)
  | makeDirectory _ => Except Fault Unit
  | createTemporary .. => Except Fault Path
  | append .. => Except Fault Unit
  | write .. => Except Fault Unit
  | rename .. => Except Fault Unit
  | remove _ => Except Fault Unit
  | resolve _ => Except Fault Path
  | currentDirectory => Except Fault Path
  | environment _ => Environment
  | openLog _ => Except Fault Unit
  | report _ => Unit

/-- A result, a fault, or a call and what follows its reply. -/
inductive Program (α : Type) : Type where
  | done (result : α)
  | fail (fault : Fault)
  | call (request : Call) (next : request.Reply → Program α)

namespace Program

variable {α β γ : Type}

def bind : Program α → (α → Program β) → Program β
  | done result, next => next result
  | fail fault, _ => fail fault
  | call request continue', next => call request fun reply => (continue' reply).bind next

/-- Goes on with another program when a fault ends this one. -/
def recover : Program α → (Fault → Program α) → Program α
  | done result, _ => done result
  | fail fault, handle => handle fault
  | call request continue', handle => call request fun reply => (continue' reply).recover handle

instance : Monad Program where
  pure := done
  bind := bind

instance : MonadExcept Fault Program where
  throw := fail
  tryCatch := recover

theorem bind_assoc (program : Program α) (second : α → Program β) (third : β → Program γ) :
    (program.bind second).bind third = program.bind fun result => (second result).bind third := by
  induction program with
  | done result => rfl
  | fail fault => rfl
  | call request continue' ih => simp only [bind, ih]

@[simp] theorem pure_eq_done (result : α) : (pure result : Program α) = done result := rfl

@[simp] theorem bind_eq_bind (program : Program α) (next : α → Program β) :
    program >>= next = program.bind next := rfl

@[simp] theorem throw_eq_fail (fault : Fault) : (throw fault : Program α) = fail fault := rfl

@[simp] theorem tryCatch_eq_recover (program : Program α) (handle : Fault → Program α) :
    tryCatch program handle = program.recover handle := rfl

/-- The result of a reply, or the fault in it. -/
def ofReply : Except Fault α → Program α
  | .ok result => done result
  | .error fault => fail fault

def contentOf (path : Path) : Program Bytes := call (.read path) ofReply

def inspect (path : Path) : Program Status := call (.inspect path) ofReply

def list (path : Path) : Program (List String) := call (.list path) ofReply

def makeDirectory (path : Path) : Program Unit := call (.makeDirectory path) ofReply

def createTemporary (directory : Path) (ending : String) : Program Path :=
  call (.createTemporary directory ending) ofReply

def append (path : Path) (content : Bytes) : Program Unit := call (.append path content) ofReply

def write (path : Path) (content : Bytes) : Program Unit := call (.write path content) ofReply

def rename (source goal : Path) : Program Unit := call (.rename source goal) ofReply

def remove (path : Path) : Program Unit := call (.remove path) ofReply

def resolve (path : Path) : Program Path := call (.resolve path) ofReply

def currentDirectory : Program Path := call .currentDirectory ofReply

def environment (names : List String) : Program Environment := call (.environment names) done

def openLog (path : Path) : Program Unit := call (.openLog path) ofReply

def report (level : Level) (text : String) : Program Unit := call (.report { level, text }) done

/-- Reports a message and the fault that led to it. -/
def reportFault (level : Level) (text : String) (fault : Fault) : Program Unit :=
  call (.report { level, text, cause := some fault }) done

def debug (text : String) : Program Unit := report .debug text

/-- Runs a program with its reports collected instead of sent to the log. -/
def collecting (entries : List Entry) : Program α → Program (Except Fault α × List Entry)
  | done result => done (.ok result, entries)
  | fail fault => done (.error fault, entries)
  | call (.report entry) next => collecting (entries ++ [entry]) (next ())
  | call request next => call request fun reply => collecting entries (next reply)

/-- Does what an action says for each element in turn. -/
def forEach (action : α → Program Unit) : List α → Program Unit
  | [] => done ()
  | element :: rest => (action element).bind fun _ => forEach action rest

/-- The faults that stand for a file that is not there. -/
def isAbsence : Fault → Bool
  | .system number =>
    number = Fault.notFound || number = Fault.notDirectory || number = Fault.badHandle ||
      number = Fault.tooManyLinks
  | .nullByte => true
  | _ => false

/-- The status of a path, none when nothing is there. -/
def statusOf? (path : Path) : Program (Option Status) :=
  ((inspect path).bind fun status => done (some status)).recover fun fault =>
    if isAbsence fault then done none else fail fault

def isFile (path : Path) : Program Bool := do
  return (← statusOf? path).any fun status => status.standing = .file

def isDirectory (path : Path) : Program Bool := do
  return (← statusOf? path).any fun status => status.standing = .directory

def isThere (path : Path) : Program Bool := do
  return (← statusOf? path).isSome

/-- A directory that is made already is as good as one made now. -/
def makeUnlessThere (path : Path) : Program Unit :=
  (makeDirectory path).recover fun fault => do
    if fault.isSystem then
      if ← isDirectory path then return () else throw fault
    else throw fault

/-- Makes a directory and the missing ones above it, trying the lowest first. -/
def makeDirectoriesUp : Nat → Path → Program Unit
  | 0, _ => fail .tooManyLevels
  | levels + 1, path =>
    (makeDirectory path).recover fun fault => do
      if fault = .system Fault.notFound then
        if path.parent = path then throw fault
        else
          makeDirectoriesUp levels path.parent
          makeUnlessThere path
      else if fault.isSystem then
        if ← isDirectory path then return () else throw fault
      else throw fault

variable [Platform]

/-- How many levels of directories can be missing. -/
def levelLimit : Nat := Platform.levels

/-- Makes a directory, and the directories above it that are missing. -/
def makeDirectories (path : Path) : Program Unit := makeDirectoriesUp levelLimit path

/-- The path that a text names once its variables and its home directory are filled in. -/
def pathOf (text : String) : Program Path := do
  let known ← environment ("HOME" :: Environment.namesIn text.toList)
  ofReply (known.pathOf text)

end Program

end AnnotatedMake
