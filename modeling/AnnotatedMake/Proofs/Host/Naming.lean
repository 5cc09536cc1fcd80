import AnnotatedMake.Proofs.Host.Making
import AnnotatedMake.Proofs.Host.Reading
import AnnotatedMake.Proofs.Host.Report
import AnnotatedMake.Proofs.Host.Temporary

namespace AnnotatedMake

namespace FileSystem

/-- Makes an empty file under a name of a directory, if the name is vacant. -/
def createNamed (files : FileSystem) (start : Location) (names : List String) (name : String)
    (time : Int) : Except Nat FileSystem :=
  match files.enter start names with
  | .error number => .error number
  | .ok directory =>
    match files.node? (directory ++ [name]) with
    | some _ => .error Fault.alreadyThere
    | none => .ok (files.add directory name (.file [] time) time)

variable {files later : FileSystem} {start place : Location} {names : List String} {name : String}
  {time : Int}

theorem createNamed_eq_ok (made : files.createNamed start names name time = .ok later) :
    ∃ directory, files.enter start names = .ok directory ∧
      files.node? (directory ++ [name]) = none ∧
      later = files.add directory name (.file [] time) time := by
  rw [createNamed] at made
  split at made
  · cases made
  · rename_i directory entered
    split at made
    · cases made
    · rename_i vacant
      exact ⟨directory, entered, vacant, (Except.ok.inj made).symm⟩

/-- A temporary file is made under one of the temporary names. -/
theorem createTemporary_eq_createNamed {ending : String}
    (made : files.createTemporary start names ending time = .ok (name, later)) :
    (∃ number < temporaryLimit, name = temporaryName ending number) ∧
      files.createNamed start names name time = .ok later := by
  obtain ⟨directory, entered, vacant, number, rfl⟩ := createTemporary_eq_ok made
  refine ⟨number, ?_⟩
  rw [createNamed, entered]
  dsimp only
  rw [vacant]

/-- When no temporary file can be made, none can be made under the first of the names. -/
theorem createNamed_eq_error {ending : String} {number : Nat}
    (failed : files.createTemporary start names ending time = .error number) :
    files.createNamed start names (temporaryName ending 0) time = .error number := by
  rw [createTemporary] at failed
  rw [createNamed]
  cases entered : files.enter start names with
  | error other =>
      rw [entered] at failed
      obtain rfl := Except.error.inj failed
      rfl
  | ok directory =>
      have more : temporaryLimit = 9999 + 1 := rfl
      rw [entered] at failed
      dsimp only at failed ⊢
      rw [more, vacantName?] at failed
      cases node : files.node? (directory ++ [temporaryName ending 0]) with
      | none =>
          rw [node] at failed
          cases failed
      | some held =>
          dsimp only
          rw [node] at failed
          split at failed
          · cases failed
          · exact congrArg _ (Except.error.inj failed)

/-- A vacant name is looked up as such in the directory that is entered. -/
theorem lookUp_concat_vacant {purpose : Purpose} (entry : IsEntryName name)
    (short : isLongName name = false) {directory : Location}
    (entered : files.enter place names = .ok directory)
    (vacant : files.node? (directory ++ [name]) = none) :
    files.lookUp purpose place (names ++ [name]) = .ok (.vacant directory name) := by
  obtain ⟨⟨left, passed⟩, time, isDirectory⟩ := enter_eq_ok_iff.1 entered
  rw [lookUp, walk_concat entry, passed]
  dsimp only
  rw [walk_last entry isDirectory, short, vacant]
  rfl

end FileSystem

namespace Host

variable {host middle after : Host} {home : Location} {path : Path} {name : String}

/-- Where the temporary files of a directory are made, if it is there: its absolute path can lead
elsewhere. -/
def workplace? (host : Host) (directory : Path) : Option Location :=
  match host.absolute directory with
  | .error _ => none
  | .ok plain => host.leads? plain

/-- Makes an empty file under a name in a directory, if the name is vacant. -/
def createNamed (host : Host) (directory : Path) (name : String) : Except Fault Path × Host :=
  match host.absolute directory with
  | .error fault => (.error fault, host)
  | .ok plain =>
    match host.query (plain.child name) (.error Fault.notFound) fun start names =>
      host.files.createNamed start names.dropLast name host.clock with
    | .error fault => (.error fault, host)
    | .ok files => (.ok (plain.child name), { host with files, clock := host.clock + 1 })

/-- The temporary file that a host makes has one of the temporary names. -/
theorem createTemporary_eq_createNamed {directory : Path}
    (made : host.createTemporary directory cacheEnding = (.ok path, after)) :
    ∃ number < FileSystem.temporaryLimit,
      host.createNamed directory (FileSystem.temporaryName cacheEnding number) =
        (.ok path, after) := by
  rw [createTemporary] at made
  split at made
  · cases made
  · rename_i plain isAbsolute
    dsimp only at made
    split at made
    · cases made
    · rename_i name files found
      have first := isPlainName_temporary 0
      rcases query_eq_ok found with ⟨start, names, along, created⟩ | ⟨_, gone⟩
      · obtain ⟨_, others, _, same⟩ := route_child first.toIsOneName along
        obtain ⟨rfl, rfl⟩ := Route.along.inj same
        rw [List.dropLast_concat] at created
        obtain ⟨⟨number, below, rfl⟩, named⟩ :=
          FileSystem.createTemporary_eq_createNamed created
        have equal : Utf8.size (FileSystem.temporaryName cacheEnding 0).toList =
            Utf8.size (FileSystem.temporaryName cacheEnding number).toList := by
          rw [size_temporaryName cacheEnding (by decide), size_temporaryName cacheEnding below]
        have route := route_child_of_size first (isPlainName_temporary number) equal along
        refine ⟨number, below, ?_⟩
        rw [createNamed, isAbsolute]
        dsimp only
        rw [query, route]
        dsimp only
        rw [List.dropLast_concat, named]
        exact made
      · cases gone

/-- Where one operation fails, another that fails as it does fails as well. -/
theorem query_error_mono {α β : Type} {number : Nat} {fault : Fault}
    {first : Location → List String → Except Nat α} {second : Location → List String → Except Nat β}
    (failed : host.query path (.error number) first = .error fault)
    (further : ∀ start names other, first start names = .error other →
      second start names = .error other) :
    host.query path (.error number) second = .error fault := by
  rcases query_eq_error failed with
    lost | ⟨other, rfl, ⟨start, names, along, told⟩ | ⟨gone, same⟩⟩
  · rw [query, lost]
  · rw [query, along]
    dsimp only
    rw [further start names other told]
  · obtain rfl := Except.error.inj same
    rw [query, gone]

/-- What a host does about a temporary file it does under one of the temporary names. -/
theorem exists_createNamed (host : Host) (directory : Path) :
    ∃ number < FileSystem.temporaryLimit,
      host.createNamed directory (FileSystem.temporaryName cacheEnding number) =
        host.createTemporary directory cacheEnding := by
  cases made : host.createTemporary directory cacheEnding with
  | mk reply after =>
      cases reply with
      | ok path => exact createTemporary_eq_createNamed made
      | error fault =>
          refine ⟨0, by decide, ?_⟩
          rw [createTemporary] at made
          rw [createNamed]
          cases isAbsolute : host.absolute directory with
          | error other =>
              rw [isAbsolute] at made
              exact made
          | ok plain =>
              rw [isAbsolute] at made
              dsimp only at made ⊢
              split at made
              · rename_i refused
                obtain ⟨told, same⟩ := Prod.mk.inj made
                obtain rfl := Except.error.inj told
                rw [query_error_mono refused fun _ _ _ => FileSystem.createNamed_eq_error]
                exact congrArg _ same
              · cases made

theorem createNamed_of_error {directory : Path} {fault : Fault}
    (failed : host.createNamed directory name = (.error fault, after)) : after = host := by
  rw [createNamed] at failed
  split at failed
  · exact (Prod.mk.inj failed).2.symm
  · split at failed
    · exact (Prod.mk.inj failed).2.symm
    · cases failed

theorem absolute_congr (same : after.directory = host.directory) (path : Path) :
    after.absolute path = host.absolute path := by
  rw [absolute, absolute, currentDirectory, currentDirectory, same]

/-- A file that is made under a name stands there, and its path leads to it. -/
theorem createNamed_eq_ok {directory : Path} (plain : IsPlainName name)
    (short : FileSystem.isLongName name = false)
    (made : host.createNamed directory name = (.ok path, after)) :
    ∃ home, host.workplace? directory = some home ∧ after.Ends path home name ∧
      host.files.node? (home ++ [name]) = none ∧
      host.Replaces after (home ++ [name]) (some (.file [] host.clock)) := by
  rw [createNamed] at made
  split at made
  · cases made
  · rename_i base isAbsolute
    split at made
    · cases made
    · rename_i files found
      obtain ⟨told, rfl⟩ := Prod.mk.inj made
      obtain rfl := Except.ok.inj told
      rcases query_eq_ok found with ⟨start, names, along, created⟩ | ⟨_, gone⟩
      · obtain ⟨_, others, way, same⟩ := route_child plain.toIsOneName along
        obtain ⟨rfl, rfl⟩ := Route.along.inj same
        rw [List.dropLast_concat] at created
        obtain ⟨home, entered, vacant, rfl⟩ := FileSystem.createNamed_eq_ok created
        have leads : host.leads? base = some home := by
          rw [leads?, way]
          exact FileSystem.leads?_of_enter entered
        have ends : host.Ends (base.child name) home name :=
          ⟨plain.toIsEntryName, short, _, _, along, entered⟩
        refine ⟨home, ?_, ends.of_ways rfl (FileSystem.keeps_add vacant).ways, vacant, rfl,
          .inl rfl,
          FileSystem.sameBut_add _ _ _ _ _, FileSystem.node?_add_self ..⟩
        rw [workplace?, isAbsolute]
        exact leads
      · cases gone

variable [Platform]

section Vacant

variable (ends : host.Ends path home name) (vacant : host.files.node? (home ++ [name]) = none)
include ends vacant

omit [Platform] in
theorem Ends.query_vacant {α : Type} {removed : Except Nat α}
    {operation : Location → List String → Except Nat α}
    (missed : ∀ start names, (∀ purpose, host.files.lookUp purpose start names =
      .ok (.vacant home name)) → operation start names = .error Fault.notFound) :
    host.query path removed operation = .error (.system Fault.notFound) := by
  obtain ⟨start, names, along, entered⟩ := ends.along
  have same := missed start (names ++ [name]) fun purpose =>
    FileSystem.lookUp_concat_vacant ends.entry ends.short entered vacant
  rw [Host.query, along]
  dsimp only
  rw [same]

omit [Platform] in
/-- To a file that is gone nothing is added. -/
theorem Ends.append_vacant (content : Bytes) : host.append path content = (.ok (), host) := by
  have missed : host.query path (.error Fault.isDirectory) host.files.read =
      .error (.system Fault.notFound) := by
    refine ends.query_vacant vacant fun start names looked => ?_
    rw [FileSystem.read, looked]
  rw [Host.append, missed]

theorem Ends.remove_vacant :
    (Program.remove path).run host = (.error (.system Fault.notFound), host) := by
  have missed : host.query path (.error Fault.isDirectory) (fun start names =>
      host.files.remove start names host.clock) = .error (.system Fault.notFound) := by
    refine ends.query_vacant vacant fun start names looked => ?_
    rw [FileSystem.remove, looked]
  rw [Program.run_remove, change, missed]
  rfl

theorem Ends.rename_vacant (goal : Path) :
    ∃ fault, (Program.rename path goal).run host = (.error fault, host) := by
  obtain ⟨start, names, along, entered⟩ := ends.along
  rw [Program.run_rename, Host.rename, along]
  cases host.route goal with
  | error fault => exact ⟨fault, rfl⟩
  | ok way =>
      cases way with
      | removed => exact ⟨_, rfl⟩
      | along goalStart goalNames =>
          have missed : ∃ number, host.files.rename start (names ++ [name]) goalStart goalNames
              host.clock = .error number := by
            rw [FileSystem.rename, List.dropLast_concat, entered,
              FileSystem.lastName?_concat ends.entry.notUp]
            cases host.files.enter goalStart goalNames.dropLast with
            | error number => exact ⟨number, rfl⟩
            | ok into =>
                cases FileSystem.lastName? goalNames with
                | none => exact ⟨_, rfl⟩
                | some last =>
                    dsimp only
                    rw [vacant]
                    exact ⟨_, rfl⟩
          obtain ⟨number, missed⟩ := missed
          dsimp only
          rw [missed]
          exact ⟨_, rfl⟩

end Vacant

end Host

end AnnotatedMake
