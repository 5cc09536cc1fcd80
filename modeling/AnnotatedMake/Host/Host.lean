import AnnotatedMake.Diagnostics.Layout
import AnnotatedMake.Host.FileSystem
import AnnotatedMake.Host.Program
import AnnotatedMake.Host.Resolution

namespace AnnotatedMake

/-- The current directory, with as many of its last names as are removed. -/
structure CurrentDirectory where
  place : Location := []
  gone : Nat := 0
deriving DecidableEq, Repr

/-- The files and the clock, which shows the time of the next change. -/
structure Host where
  files : FileSystem := .empty
  clock : Int := 0
  directory : CurrentDirectory := {}
  environment : Environment := .empty
  log : List Entry := []
  logFile : Option Location := none

variable [Platform]

namespace Host

/-- The bytes that the text of a path may have, and one more. -/
def pathLimit : Nat := 4096

/-- Where a path starts and the names to go, or that it ends in a directory that was removed. -/
inductive Route where
  | along (start : Location) (names : List String)
  | removed
deriving DecidableEq, Repr

/-- The route from a place whose last names are gone: only the way up leads out. -/
def routeFrom (place : Location) : Nat → List String → Except Fault Route
  | 0, names => .ok (.along place names)
  | _ + 1, [] => .ok .removed
  | gone + 1, name :: rest =>
    if name = ".." then routeFrom place.dropLast gone rest else .error (.system Fault.notFound)

/-- The route of a path; a path with a null character or too many bytes has none. -/
def route (host : Host) (path : Path) : Except Fault Route :=
  if path.parts.any (holds (Char.ofNat 0)) then .error .nullByte
  else if pathLimit ≤ Utf8.size path.text.toList then .error (.system Fault.nameTooLong)
  else match path.anchor with
    | .relative => routeFrom host.directory.place host.directory.gone path.parts
    | _ => .ok (.along [] path.parts)

/-- What an operation on the files finds out, with its reply for a directory that was removed. -/
def query {α : Type} (host : Host) (path : Path) (removed : Except Nat α)
    (operation : Location → List String → Except Nat α) : Except Fault α :=
  match host.route path with
  | .error fault => .error fault
  | .ok way =>
    let reply := match way with
      | .along start names => operation start names
      | .removed => removed
    match reply with
    | .ok result => .ok result
    | .error number => .error (.system number)

/-- The host after an operation that changes its files and takes a tick of the clock. -/
def change (host : Host) (path : Path) (removed : Nat)
    (operation : Location → List String → Except Nat FileSystem) : Except Fault Unit × Host :=
  match host.query path (.error removed) operation with
  | .error fault => (.error fault, host)
  | .ok files => (.ok (), { host with files, clock := host.clock + 1 })

def rename (host : Host) (source goal : Path) : Except Fault Unit × Host :=
  match host.route source, host.route goal with
  | .error fault, _ => (.error fault, host)
  | _, .error fault => (.error fault, host)
  | .ok (.along start names), .ok (.along goalStart goalNames) =>
    match host.files.rename start names goalStart goalNames host.clock with
    | .error number => (.error (.system number), host)
    | .ok files => (.ok (), { host with files, clock := host.clock + 1 })
  | .ok _, .ok _ => (.error (.system Fault.isBusy), host)

/-- A location as a path. -/
def pathTo (place : Location) : Path := ⟨.root, place⟩

/-- The path of the current directory while it is there. -/
def currentDirectory (host : Host) : Except Fault Path :=
  if host.directory.gone = 0 then .ok (pathTo host.directory.place)
  else .error (.system Fault.notFound)

/-- An absolute path without dots, as far as its text tells. -/
def absolute (host : Host) (path : Path) : Except Fault Path :=
  match path.anchor with
  | .relative => host.currentDirectory.map fun directory => (directory.join path).collapsed
  | _ => .ok path.collapsed

/-- Makes an empty file under the first free one of the temporary names. -/
def createTemporary (host : Host) (directory : Path) (ending : String) :
    Except Fault Path × Host :=
  match host.absolute directory with
  | .error fault => (.error fault, host)
  | .ok plain =>
    let likely := plain.child (FileSystem.temporaryName ending 0)
    match host.query likely (.error Fault.notFound) fun start names =>
      host.files.createTemporary start names.dropLast ending host.clock with
    | .error fault => (.error fault, host)
    | .ok (name, files) => (.ok (plain.child name), { host with files, clock := host.clock + 1 })

/-- Adds to a file if it is there. -/
def append (host : Host) (path : Path) (content : Bytes) : Except Fault Unit × Host :=
  match host.query path (.error Fault.isDirectory) host.files.read with
  | .error _ => (.ok (), host)
  | .ok _ => host.change path Fault.isDirectory fun start names =>
      host.files.write start names (fun old => old ++ content) host.clock

/-- The target of the link at a path, none if there is no link. -/
def linkAt (host : Host) (path : Path) : Option String :=
  match host.query path (.error Fault.notFound) (host.files.lookUp .itself) with
  | .ok (.found _ (.link target)) => some target
  | _ => none

/-- Whether links in a circle keep a path from leading anywhere. -/
def circles (host : Host) (path : Path) : Bool :=
  match host.query path (.error Fault.notFound) host.files.nodeAt with
  | .error fault => fault = .system Fault.tooManyLinks
  | .ok _ => false

/-- A path all of whose names are texts. -/
def encoded (path : Path) : Except Fault Path :=
  if path.parts.any fun part => part.toList.any Platform.isEscape then .error .notEncoded
  else .ok path

/-- The absolute path of what a path leads to; names that lead nowhere are taken as they are. -/
def resolve (host : Host) (path : Path) : Except Fault Path := do
  if path.parts.any (holds (Char.ofNat 0)) then throw .nullByte
  let plain ← host.absolute (← Resolution.target host.linkAt path)
  if host.circles plain then throw (.linkLoop plain.text) else encoded plain

def statusOf : Node → Status
  | .directory changed => ⟨.directory, changed⟩
  | .file _ changed => ⟨.file, changed⟩
  | .link _ => ⟨.file, 0⟩
  | .sink => ⟨.device, 0⟩

/-- The place of what stands at a path. -/
def placeOf? (host : Host) (purpose : Purpose) (path : Path) : Option Location :=
  match host.query path (.error Fault.notFound) (host.files.lookUp purpose) with
  | .ok (.found place _) => some place
  | _ => none

/-- The outcome of a change that took a file away; a log kept in it is kept nowhere. -/
def withoutLogAt (host : Host) (path : Path) :
    Except Fault Unit × Host → Except Fault Unit × Host
  | (.ok (), after) =>
    if host.placeOf? .itself path = host.logFile then (.ok (), { after with logFile := none })
    else (.ok (), after)
  | failed => failed

/-- Keeps the log in a file. Its path ends at a null character: earlier releases cut it there. -/
def openLog (host : Host) (path : Path) : Except Fault Unit × Host :=
  match host.absolute path with
  | .error fault => (.error fault, host)
  | .ok plain =>
    let file := plain.beforeNull
    match host.change file Fault.isDirectory fun start names =>
      host.files.write start names (fun old => old) host.clock with
    | (.ok (), after) => (.ok (), { after with logFile := after.placeOf? .target file })
    | failed => failed

/-- Adds an entry to the log, and to the file that keeps it. -/
def report (host : Host) (entry : Entry) : Host :=
  let noted := { host with log := host.log ++ [entry] }
  match host.logFile with
  | none => noted
  | some place =>
    { noted with
      files := host.files.extend place (bytesOf entry.fileText) host.clock
      clock := host.clock + 1 }

/-- The host's reply to a call, and the host afterwards. -/
def perform (host : Host) : (request : Call) → request.Reply × Host
  | .read path => (host.query path (.error Fault.isDirectory) host.files.read, host)
  | .inspect path =>
    ((host.query path (.ok (.directory 0)) host.files.nodeAt).map statusOf, host)
  | .list path => (host.query path (.ok []) host.files.list, host)
  | .makeDirectory path => host.change path Fault.alreadyThere fun start names =>
      host.files.makeDirectory start names host.clock
  | .createTemporary directory ending => host.createTemporary directory ending
  | .append path content => host.append path content
  | .write path content => host.change path Fault.isDirectory fun start names =>
      host.files.write start names (fun _ => content) host.clock
  | .rename source goal => host.withoutLogAt goal (host.rename source goal)
  | .remove path => host.withoutLogAt path (host.change path Fault.isDirectory fun start names =>
      host.files.remove start names host.clock)
  | .resolve path => (host.resolve path, host)
  | .currentDirectory => (host.currentDirectory, host)
  | .environment _ => (host.environment, host)
  | .openLog path => host.openLog path
  | .report entry => ((), host.report entry)

end Host

namespace Program

variable {α β : Type}

/-- The outcome of a program that has the host for itself, and the host afterwards. -/
def run : Program α → Host → Except Fault α × Host
  | done result, host => (.ok result, host)
  | fail fault, host => (.error fault, host)
  | call request next, host =>
    let (reply, after) := host.perform request
    (next reply).run after

@[simp] theorem run_done (result : α) (host : Host) : (done result).run host = (.ok result, host) :=
  rfl

@[simp] theorem run_fail (fault : Fault) (host : Host) :
    (fail fault : Program α).run host = (.error fault, host) := rfl

@[simp] theorem run_call (request : Call) (next : request.Reply → Program α) (host : Host) :
    (call request next).run host =
      (next (host.perform request).1).run (host.perform request).2 := rfl

theorem run_bind (program : Program α) (next : α → Program β) (host : Host) :
    (program.bind next).run host =
      match program.run host with
      | (.ok result, after) => (next result).run after
      | (.error fault, after) => (.error fault, after) := by
  induction program generalizing host with
  | done result => rfl
  | fail fault => rfl
  | call request continue' ih => simp only [bind, run_call, ih]

theorem run_recover (program : Program α) (handle : Fault → Program α) (host : Host) :
    (program.recover handle).run host =
      match program.run host with
      | (.ok result, after) => (.ok result, after)
      | (.error fault, after) => (handle fault).run after := by
  induction program generalizing host with
  | done result => rfl
  | fail fault => rfl
  | call request continue' ih => simp only [recover, run_call, ih]

theorem run_ofReply (reply : Except Fault α) (host : Host) :
    (ofReply reply).run host = (reply, host) := by
  cases reply <;> rfl

end Program

end AnnotatedMake
