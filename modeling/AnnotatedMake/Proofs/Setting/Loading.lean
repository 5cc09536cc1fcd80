import AnnotatedMake.Proofs.Host.Looking
import AnnotatedMake.Proofs.Host.Temporary
import AnnotatedMake.Setting.Loading

namespace AnnotatedMake

namespace Settings

open Program (CallsOnly IsLook)

variable {locations : Locations} {name : String} {host : Host} {path : Path}

/-- A refusal only looks. -/
theorem looks_refuse {α : Type} (reason : String) : (refuse reason : Program α).CallsOnly IsLook :=
  CallsOnly.bind (Program.looks_report ..) fun _ => trivial

variable [Platform]

/-- Reading a document only looks. -/
theorem looks_readDocument (path : Path) : (readDocument path).CallsOnly IsLook := by
  refine CallsOnly.bind (Program.looks_contentOf path) fun content => ?_
  split
  · exact Program.callsOnly_ofReply _
  · trivial

/-- Opening a document only looks. -/
theorem looks_openDocument (path : Path) : (openDocument path).CallsOnly IsLook := by
  refine CallsOnly.recover (looks_readDocument path) fun fault => ?_
  split
  · exact looks_refuse _
  · split
    · exact looks_refuse _
    · trivial

omit [Platform] in
/-- Finding the section only looks. -/
theorem looks_sectionIn (path : Path) (document : Toml.Members) :
    (sectionIn path document).CallsOnly IsLook := by
  rw [sectionIn]
  split
  · trivial
  · trivial
  · exact looks_refuse _

omit [Platform] in
/-- Making settings only looks. -/
theorem looks_ofSection (locations : Locations) (entries : OrderedMap String Value) :
    (ofSection locations entries).CallsOnly IsLook :=
  (Program.callsOnly_forEach (Program.looks_report _) _).bind fun _ =>
    (Program.callsOnly_forEach (Program.looks_report _) _).bind fun _ => trivial

/-- Resolving a name only looks. -/
theorem looks_fileNamed (locations : Locations) (name : String) :
    (fileNamed locations name).CallsOnly IsLook := by
  rw [fileNamed]
  split
  · trivial
  · exact Program.looks_pathOf name

/-- Loading settings only looks. -/
theorem looks_load (locations : Locations) (name : String) :
    (load locations name).CallsOnly IsLook := by
  refine CallsOnly.bind (looks_fileNamed locations name) fun path => ?_
  refine CallsOnly.bind (Program.looks_isThere path) fun there => ?_
  split
  · refine CallsOnly.bind (Program.looks_report ..) fun _ => ?_
    exact CallsOnly.bind (looks_openDocument path) fun document =>
      CallsOnly.bind (looks_sectionIn path document) (looks_ofSection locations)
  · split
    · exact CallsOnly.bind (Program.looks_report ..) fun _ => trivial
    · trivial

/-- The fault that is left when a document cannot be opened. -/
def openFault (fault : Fault) : Fault :=
  if fault.isSystem || fault = .notToml then .reported else fault

/-- The document in the bytes of a file: they are a text, and it is TOML. -/
def documentIn (content : Bytes) : Except Fault Toml.Members :=
  match Utf8.decode? content with
  | none => .error .notText
  | some text => Toml.read text

/-- The entries a document has under the section's name. -/
def entriesOf (document : Toml.Members) : Except Fault (OrderedMap String Value) :=
  match Toml.member? document sectionName with
  | none => .ok .empty
  | some (.table members) => .ok (.ofList members)
  | some _ => .error .reported

/-- The settings of a section. -/
def ofEntries (locations : Locations) (entries : OrderedMap String Value) : Settings :=
  { standard locations with entries := (standard locations).schema.accepted entries }

/-- The settings that reading a file leads to, or the fault that keeps it from being used. -/
def settingsIn (locations : Locations) (read : Except Fault Bytes) : Except Fault Settings :=
  match read.bind documentIn with
  | .error fault => .error (openFault fault)
  | .ok document => (entriesOf document).map (ofEntries locations)

/-- The settings in the file at a path. -/
def held (locations : Locations) (host : Host) (path : Path) : Except Fault Settings :=
  settingsIn locations (host.query path (.error Fault.isDirectory) host.files.read)

/-- What a path leads to is there. -/
theorem run_isThere {node : Node}
    (found : host.query path (.ok (.directory 0)) host.files.nodeAt = .ok node) :
    (Program.isThere path).run host = (.ok true, host) := by
  rw [Program.isThere, Program.bind_eq_bind, Program.run_bind, Program.run_statusOf?_of_ok found]
  rfl

/-- A path with a status is found there. -/
theorem finds_isThere {node : Node}
    (found : host.query path (.ok (.directory 0)) host.files.nodeAt = .ok node) :
    (Program.isThere path).Finds host (.ok true) := by
  intro entries
  refine ⟨[], ?_⟩
  have told : (host.logging entries).query path (.ok (.directory 0))
      (host.logging entries).files.nodeAt = .ok node := found
  rw [List.append_nil, run_isThere told]

omit [Platform] in
/-- A path to a file in the root directory leads to that file. -/
theorem nodeAt_of_root {name : String} {content : Bytes} {time changed : Int}
    (root : host.files.node? [] = some (.directory time)) (plain : IsPlainName name)
    (short : FileSystem.isLongName name = false)
    (file : host.files.node? [name] = some (.file content changed)) :
    host.query ⟨.root, [name]⟩ (.ok (.directory 0)) host.files.nodeAt =
      .ok (.file content changed) :=
  (Host.ends_of_root root plain short).query fun _ _ found => by
    rw [FileSystem.nodeAt, found .target _ file (by simp)]

/-- A file in the root directory is there. -/
theorem finds_isThere_of_root {name : String} {content : Bytes} {time changed : Int}
    (root : host.files.node? [] = some (.directory time)) (plain : IsPlainName name)
    (short : FileSystem.isLongName name = false)
    (file : host.files.node? [name] = some (.file content changed)) :
    (Program.isThere ⟨.root, [name]⟩).Finds host (.ok true) :=
  finds_isThere (nodeAt_of_root root plain short file)

/-- A path whose lookup ends in an absence is found missing. -/
theorem finds_isThere_of_absent {number : Nat}
    (lost : host.query path (.ok (.directory 0)) host.files.nodeAt = .error (.system number))
    (absence : Program.isAbsence (.system number) = true) :
    (Program.isThere path).Finds host (.ok false) := by
  intro entries
  refine ⟨[], ?_⟩
  have told : (host.logging entries).query path (.ok (.directory 0))
      (host.logging entries).files.nodeAt = .error (.system number) := lost
  rw [List.append_nil, Program.isThere, Program.bind_eq_bind, Program.run_bind,
    Program.run_statusOf?_of_error told, if_pos absence]
  rfl

/-- A refusal finds its report. -/
theorem finds_refuse {α : Type} (reason : String) (host : Host) :
    (refuse reason : Program α).Finds host (.error .reported) :=
  (Program.finds_report .critical reason host).bind (Program.finds_fail .reported host)

/-- Reading a document parses the bytes of the file. -/
theorem run_readDocument (path : Path) (host : Host) :
    (readDocument path).run host =
      ((host.query path (.error Fault.isDirectory) host.files.read).bind documentIn, host) := by
  rw [readDocument, Program.bind_eq_bind, Program.run_bind, Program.run_contentOf]
  cases host.query path (.error Fault.isDirectory) host.files.read with
  | error fault => rfl
  | ok content =>
      rw [Except.bind, documentIn]
      dsimp only
      cases Utf8.decode? content with
      | none => rfl
      | some text => exact Program.run_ofReply (Toml.read text) host

/-- Reading a document leaves the host as it is. -/
theorem finds_readDocument (path : Path) (host : Host) :
    (readDocument path).Finds host
      ((host.query path (.error Fault.isDirectory) host.files.read).bind documentIn) := by
  intro entries
  refine ⟨[], ?_⟩
  rw [List.append_nil, run_readDocument]
  rfl

/-- A document that cannot be read is explained. -/
theorem finds_openDocument_of_fault {fault : Fault}
    (failed : (readDocument path).Finds host (.error fault)) :
    (openDocument path).Finds host (.error (openFault fault)) := by
  refine failed.recover_error ?_
  rw [openFault]
  cases system : fault.isSystem with
  | true => exact finds_refuse _ host
  | false =>
      by_cases wrong : fault = .notToml
      · rw [if_neg Bool.false_ne_true, if_pos wrong, if_pos (by simp [wrong])]
        exact finds_refuse _ host
      · rw [if_neg Bool.false_ne_true, if_neg wrong, if_neg (by simp [wrong])]
        exact Program.finds_fail fault host

/-- Settings are found in their section. -/
theorem finds_ofSection (locations : Locations) (entries : OrderedMap String Value) (host : Host) :
    (ofSection locations entries).Finds host (.ok (ofEntries locations entries)) := by
  have reports (level : Level) (texts : List String) :
      (Program.forEach (Program.report level) texts).Finds host (.ok ()) :=
    Program.finds_forEach (fun text => Program.finds_report level text host) texts
  exact (reports .warning _).bind ((reports .error _).bind (Program.finds_done _ host))

/-- A section is found in its document. -/
theorem finds_sectionIn (path : Path) (document : Toml.Members) (host : Host) :
    (sectionIn path document).Finds host (entriesOf document) := by
  rw [sectionIn, entriesOf]
  cases Toml.member? document sectionName with
  | none => exact Program.finds_done _ host
  | some value =>
      cases value with
      | table members => exact Program.finds_done _ host
      | _ => exact finds_refuse _ host

/-- A settings file that is there decides what is loaded. -/
theorem finds_load (named : (fileNamed locations name).Finds host (.ok path))
    (there : (Program.isThere path).Finds host (.ok true)) :
    (load locations name).Finds host (held locations host path) := by
  refine named.bind (there.bind ((Program.finds_report _ _ host).bind ?_))
  have read := finds_readDocument path host
  rw [held, settingsIn]
  cases opened : (host.query path (.error Fault.isDirectory) host.files.read).bind documentIn with
  | error fault =>
      rw [opened] at read
      exact (finds_openDocument_of_fault read).bind_error
  | ok document =>
      rw [opened] at read
      refine Program.Finds.bind (Program.Finds.recover read) ?_
      have taken := finds_sectionIn path document host
      dsimp only
      cases entered : entriesOf document with
      | error fault =>
          rw [entered] at taken
          exact taken.bind_error
      | ok entries =>
          rw [entered] at taken
          exact taken.bind (finds_ofSection locations entries host)

/-- A settings file that is absent leaves the standard settings. -/
theorem finds_load_of_absent (named : (fileNamed locations name).Finds host (.ok path))
    (absent : (Program.isThere path).Finds host (.ok false)) :
    (load locations name).Finds host (.ok (standard locations)) := by
  refine named.bind (absent.bind ?_)
  simp only [Bool.false_eq_true, if_false]
  split
  · exact (Program.finds_report _ _ host).bind (Program.finds_done _ host)
  · exact Program.finds_done _ host

end Settings

end AnnotatedMake
