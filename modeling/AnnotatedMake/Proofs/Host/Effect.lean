import AnnotatedMake.Proofs.Host.Change
import AnnotatedMake.Proofs.Host.Route

namespace AnnotatedMake

/-- Only the given places, the log and directories are changed. -/
structure Host.Spares (host after : Host) (changed : Location → Prop) : Prop where
  directory : after.directory = host.directory
  logFile : after.logFile = host.logFile ∨ after.logFile = none
  nodes : ∀ place, ¬ changed place → host.logFile ≠ some place →
    Alike (host.files.node? place) (after.files.node? place)
  links : ∀ place target, host.files.node? place = some (.link target) ↔
    after.files.node? place = some (.link target)
  names : ∀ place name, ¬ changed (place ++ [name]) → host.files.node? (place ++ [name]) = none →
    after.files.node? (place ++ [name]) ≠ none → '/' ∉ name.toList

variable [Platform]

namespace Host

variable {host middle after : Host} {changed : Location → Prop} {path : Path}

omit [Platform] in
/-- A host with the same files is spared. -/
theorem Spares.of_files (files : after.files = host.files)
    (directory : after.directory = host.directory)
    (logFile : after.logFile = host.logFile ∨ after.logFile = none) :
    host.Spares after changed where
  directory := directory
  logFile := logFile
  nodes _ _ _ := by
    rw [files]
    exact .same _
  links _ _ := by rw [files]
  names _ _ _ vacant present := absurd vacant (files ▸ present)

omit [Platform] in
/-- A host is spared by what does nothing. -/
theorem Spares.refl (host : Host) (changed : Location → Prop) : host.Spares host changed :=
  .of_files rfl rfl (.inl rfl)

omit [Platform] in
/-- The log is not moved to a file that did not keep it. -/
theorem Spares.logFile_ne {place : Location} (spares : host.Spares after changed)
    (notLog : host.logFile ≠ some place) : after.logFile ≠ some place := by
  rcases spares.logFile with same | none
  · rwa [same]
  · rw [none]
    exact (Option.some_ne_none place).symm

omit [Platform] in
/-- What is spared twice in turn is spared in all. -/
theorem Spares.trans (first : host.Spares middle changed) (second : middle.Spares after changed) :
    host.Spares after changed where
  directory := second.directory.trans first.directory
  logFile := by
    rcases second.logFile with same | none
    · rw [same]
      exact first.logFile
    · exact .inr none
  nodes place spared notLog :=
    (first.nodes place spared notLog).trans
      (second.nodes place spared (first.logFile_ne notLog))
  links place target := (first.links place target).trans (second.links place target)
  names place name spared vacant present := by
    by_cases still : middle.files.node? (place ++ [name]) = none
    · exact second.names place name spared still present
    · exact first.names place name spared vacant still

omit [Platform] in
/-- More places may be named than are changed. -/
theorem Spares.mono {more : Location → Prop} (spares : host.Spares after changed)
    (within : ∀ place, changed place → more place) : host.Spares after more :=
  { spares with
    nodes := fun place spared => spares.nodes place fun inside => spared (within place inside)
    names := fun place name spared => spares.names place name fun inside =>
      spared (within _ inside) }

omit [Platform] in
/-- A host that is spared altogether is spared but for some places. -/
theorem Spares.weaken (spares : host.Spares after fun _ => False) : host.Spares after changed :=
  spares.mono fun _ => False.elim

omit [Platform] in
/-- Where paths lead stays the same, for no link is changed. -/
theorem Spares.leads? (spares : host.Spares after changed) (path : Path) :
    after.leads? path = host.leads? path :=
  leads?_congr spares.directory spares.links path

omit [Platform] in
/-- A report spares everything but the file of the log. -/
theorem spares_report (host : Host) (entry : Entry) (changed : Location → Prop) :
    host.Spares (host.report entry) changed := by
  rw [report]
  split
  · exact .of_files rfl rfl (.inl rfl)
  · rename_i log isLog
    have extended := host.files.node?_extend log (bytesOf entry.fileText) host.clock
    refine ⟨rfl, .inl rfl, ?_, ?_, ?_⟩
    · intro place _ notLog
      rcases extended place with same | ⟨same, _⟩
      · dsimp only
        rw [same]
        exact .same _
      · exact absurd (same ▸ isLog) notLog
    · intro place target
      rcases extended place with same | ⟨_, _, _, before, after⟩
      · dsimp only
        rw [same]
      · dsimp only
        rw [before, after]
        simp
    · intro place name _ vacant present
      rcases extended (place ++ [name]) with same | ⟨_, _, _, before, _⟩
      · exact absurd (same.trans vacant) present
      · rw [vacant] at before
        cases before

omit [Platform] in
/-- The host after a directory was made at a vacant place. -/
theorem spares_add_directory {directory : Location} {name : String} {time clock : Int}
    (noSlash : '/' ∉ name.toList) (vacant : host.files.node? (directory ++ [name]) = none) :
    host.Spares
      { host with files := host.files.add directory name (.directory time) time, clock }
      changed := by
  have alike (place : Location) : Alike (host.files.node? place)
      ((host.files.add directory name (.directory time) time).node? place) := by
    by_cases same : place = directory ++ [name]
    · rw [same, vacant, FileSystem.node?_add_self]
      exact .made time
    · exact FileSystem.node?_add_of_ne same
  refine ⟨rfl, .inl rfl, fun place _ _ => alike place, fun place _ => (alike place).link_iff, ?_⟩
  intro place other _ absent present
  by_cases same : place ++ [other] = directory ++ [name]
  · obtain rfl := last_eq_of_concat_eq same
    exact noSlash
  · exact absurd ((FileSystem.node?_add_eq_none_iff same).2 absent) present

/-- Only what stands at one place is replaced. -/
structure Replaces (host after : Host) (place : Location) (node : Option Node) : Prop where
  directory : after.directory = host.directory
  logFile : after.logFile = host.logFile ∨ after.logFile = none
  others : host.files.SameBut after.files fun other => other = place
  here : after.files.node? place = node

omit [Platform] in
/-- What is replaced twice has what it was given last. -/
theorem Replaces.trans {place : Location} {first second : Option Node}
    (before : host.Replaces middle place first) (later : middle.Replaces after place second) :
    host.Replaces after place second where
  directory := later.directory.trans before.directory
  logFile := by
    rcases later.logFile with same | none
    · rw [same]
      exact before.logFile
    · exact .inr none
  others := FileSystem.SameBut.trans before.others later.others
  here := later.here

omit [Platform] in
/-- A place that is vacant in the end as it was before is not changed either. -/
theorem Replaces.sameBut_of_vacant {place : Location} (replaces : host.Replaces after place none)
    (vacant : host.files.node? place = none) :
    host.files.SameBut after.files fun _ => False := by
  intro other _
  by_cases same : other = place
  · rw [same, vacant, replaces.here]
    exact ⟨.same none, Iff.rfl⟩
  · exact replaces.others other same

omit [Platform] in
/-- Filling a vacant place loses nothing. -/
theorem Replaces.keeps_of_vacant {place : Location} {node : Option Node}
    (replaces : host.Replaces after place node) (vacant : host.files.node? place = none) :
    host.files.Keeps after.files := by
  intro other kept present
  have differs : other ≠ place := by
    rintro rfl
    rw [vacant] at present
    cases present
  exact (present ▸ (replaces.others other differs).1).kin

omit [Platform] in
/-- A place that is vacant before and after is spared. -/
theorem Replaces.spares_of_vacant {place : Location} (replaces : host.Replaces after place none)
    (vacant : host.files.node? place = none) : host.Spares after changed := by
  have same := replaces.sameBut_of_vacant vacant
  refine ⟨replaces.directory, replaces.logFile, fun other _ _ => (same other not_false).1,
    fun other _ => (same other not_false).1.link_iff, ?_⟩
  intro other name _ absent present
  exact absurd ((same _ not_false).2.2 absent) present

omit [Platform] in
/-- Where no link was or is, the rest of the host is spared. -/
theorem Replaces.spares {place : Location} {node : Option Node}
    (replaces : host.Replaces after place node)
    (before : ∀ target, host.files.node? place ≠ some (.link target))
    (now : ∀ target, node ≠ some (.link target)) :
    host.Spares after fun other => other = place := by
  refine ⟨replaces.directory, replaces.logFile, fun other differs _ =>
    (replaces.others other differs).1, ?_, ?_⟩
  · intro other target
    by_cases same : other = place
    · rw [same, replaces.here]
      exact iff_of_false (before target) (now target)
    · exact (replaces.others other same).1.link_iff
  · intro other name differs absent present
    exact absurd ((replaces.others _ differs).2.2 absent) present

/-- A run that changes some places at most and ends with a result or one of some faults. -/
structure Confines {α : Type} (host : Host) (run : Except Fault α × Host)
    (changed : Location → Prop) (faults : Fault → Prop) : Prop where
  spares : host.Spares run.2 changed
  within : ∀ fault, run.1 = .error fault → faults fault

variable {α β : Type} {faults : Fault → Prop}

omit [Platform] in
/-- A result confines a run to what it spares. -/
theorem Confines.of_ok {result : α} (spares : host.Spares after changed) :
    host.Confines ((.ok result, after) : Except Fault α × Host) changed faults := by
  refine ⟨spares, ?_⟩
  intro fault failed
  cases failed

/-- A program and what follows it are confined in turn. -/
theorem Confines.bind {program : Program α} {next : α → Program β}
    (first : host.Confines (program.run host) changed faults)
    (second : ∀ result after, program.run host = (.ok result, after) →
      after.Confines ((next result).run after) changed faults) :
    host.Confines ((program.bind next).run host) changed faults := by
  rw [Program.run_bind]
  split
  · rename_i result after ran
    rw [ran] at first
    have further := second result after ran
    exact ⟨first.spares.trans further.spares, further.within⟩
  · rename_i fault after ran
    rw [ran] at first
    refine ⟨first.spares, ?_⟩
    intro other same
    obtain rfl := Except.error.inj same
    exact first.within fault rfl

/-- A handler is confined after every fault that may come before it. -/
theorem Confines.recover {program : Program α} {handle : Fault → Program α}
    {earlier : Fault → Prop} (first : host.Confines (program.run host) changed earlier)
    (second : ∀ fault (after : Host), earlier fault →
      after.Confines ((handle fault).run after) changed faults) :
    host.Confines ((program.recover handle).run host) changed faults := by
  rw [Program.run_recover]
  split
  · rename_i result after ran
    rw [ran] at first
    exact .of_ok first.spares
  · rename_i fault after ran
    rw [ran] at first
    have further := second fault after (first.within fault rfl)
    exact ⟨first.spares.trans further.spares, further.within⟩

omit [Platform] in
/-- Fewer faults come than are allowed. -/
theorem Confines.widen {run : Except Fault α × Host} {more : Fault → Prop}
    (confines : host.Confines run changed faults) (weaker : ∀ fault, faults fault → more fault) :
    host.Confines run changed more :=
  ⟨confines.spares, fun fault failed => weaker fault (confines.within fault failed)⟩

theorem confines_done (host : Host) (result : α) :
    host.Confines ((Program.done result).run host) changed faults :=
  .of_ok (.refl _ _)

theorem confines_fail (host : Host) {fault : Fault} (allowed : faults fault) :
    host.Confines ((Program.fail fault : Program α).run host) changed faults := by
  refine ⟨.refl _ _, ?_⟩
  rintro _ ⟨⟩
  exact allowed

end Host

namespace Program

/-- Reading a file leaves the host as it is. -/
theorem run_contentOf (path : Path) (host : Host) :
    (contentOf path).run host =
      (host.query path (.error Fault.isDirectory) host.files.read, host) := by
  rw [contentOf, run_call, run_ofReply]
  rfl

/-- Asking for a status leaves the host as it is. -/
theorem run_inspect (path : Path) (host : Host) :
    (inspect path).run host =
      ((host.query path (.ok (.directory 0)) host.files.nodeAt).map Host.statusOf, host) := by
  rw [inspect, run_call, run_ofReply]
  rfl

/-- Listing a directory leaves the host as it is. -/
theorem run_list (path : Path) (host : Host) :
    (list path).run host = (host.query path (.ok []) host.files.list, host) := by
  rw [list, run_call, run_ofReply]
  rfl

/-- Making a directory is one change of the files. -/
theorem run_makeDirectory (path : Path) (host : Host) :
    (makeDirectory path).run host = host.change path Fault.alreadyThere fun start names =>
      host.files.makeDirectory start names host.clock := by
  rw [makeDirectory, run_call, run_ofReply]
  rfl

theorem run_createTemporary (directory : Path) (ending : String) (host : Host) :
    (createTemporary directory ending).run host = host.createTemporary directory ending := by
  rw [createTemporary, run_call, run_ofReply]
  rfl

theorem run_append (path : Path) (content : Bytes) (host : Host) :
    (append path content).run host = host.append path content := by
  rw [append, run_call, run_ofReply]
  rfl

/-- Writing a file replaces what it held. -/
theorem run_write (path : Path) (content : Bytes) (host : Host) :
    (write path content).run host = host.change path Fault.isDirectory fun start names =>
      host.files.write start names (fun _ => content) host.clock := by
  rw [write, run_call, run_ofReply]
  rfl

/-- A log that a file is moved onto is kept nowhere. -/
theorem run_rename (source goal : Path) (host : Host) :
    (rename source goal).run host = host.withoutLogAt goal (host.rename source goal) := by
  rw [rename, run_call, run_ofReply]
  rfl

/-- A log whose file is removed is kept nowhere. -/
theorem run_remove (path : Path) (host : Host) :
    (remove path).run host = host.withoutLogAt path
      (host.change path Fault.isDirectory fun start names =>
        host.files.remove start names host.clock) := by
  rw [remove, run_call, run_ofReply]
  rfl

/-- Resolving a path leaves the host as it is. -/
theorem run_resolve (path : Path) (host : Host) :
    (resolve path).run host = (host.resolve path, host) := by
  rw [resolve, run_call, run_ofReply]
  rfl

theorem run_report (level : Level) (text : String) (host : Host) :
    (report level text).run host = (.ok (), host.report { level, text }) := rfl

/-- What a path leads to has a status. -/
theorem run_statusOf?_of_ok {path : Path} {host : Host} {node : Node}
    (told : host.query path (.ok (.directory 0)) host.files.nodeAt = .ok node) :
    (statusOf? path).run host = (.ok (some (Host.statusOf node)), host) := by
  rw [statusOf?, run_recover, run_bind, run_inspect, told]
  rfl

/-- A fault is told of a path unless it says that nothing is there. -/
theorem run_statusOf?_of_error {path : Path} {host : Host} {fault : Fault}
    (failed : host.query path (.ok (.directory 0)) host.files.nodeAt = .error fault) :
    (statusOf? path).run host = (if isAbsence fault then .ok none else .error fault, host) := by
  rw [statusOf?, run_recover, run_bind, run_inspect, failed]
  dsimp only [Except.map]
  cases isAbsence fault <;> rfl

/-- Asking whether a path has a status changes nothing. -/
theorem run_statusOf? (path : Path) (host : Host) :
    ∃ outcome, (statusOf? path).run host = (outcome, host) := by
  cases told : host.query path (.ok (.directory 0)) host.files.nodeAt with
  | ok node => exact ⟨_, run_statusOf?_of_ok told⟩
  | error fault => exact ⟨_, run_statusOf?_of_error told⟩

/-- What stands at a path is told, unless the system keeps it from being told. -/
theorem isSystem_of_statusOf? {path : Path} {host : Host} {fault : Fault}
    (failed : ((statusOf? path).run host).1 = .error fault) : fault.isSystem = true := by
  cases told : host.query path (.ok (.directory 0)) host.files.nodeAt with
  | ok node =>
      rw [run_statusOf?_of_ok told] at failed
      cases failed
  | error other =>
      rw [run_statusOf?_of_error told] at failed
      cases absence : isAbsence other with
      | true =>
          rw [absence] at failed
          cases failed
      | false =>
          rw [absence] at failed
          obtain rfl := Except.error.inj failed
          rcases Host.fault_of_query told with system | rfl
          · exact system
          · cases absence

/-- Asking for a file changes nothing. -/
theorem run_isFile (path : Path) (host : Host) :
    ∃ outcome, (isFile path).run host = (outcome, host) := by
  obtain ⟨outcome, told⟩ := run_statusOf? path host
  rw [isFile, bind_eq_bind, run_bind, told]
  cases outcome with
  | ok status => exact ⟨_, rfl⟩
  | error fault => exact ⟨_, rfl⟩

/-- Asking for a directory changes nothing. -/
theorem run_isDirectory (path : Path) (host : Host) :
    ∃ outcome, (isDirectory path).run host = (outcome, host) := by
  obtain ⟨outcome, told⟩ := run_statusOf? path host
  rw [isDirectory, bind_eq_bind, run_bind, told]
  cases outcome with
  | ok status => exact ⟨_, rfl⟩
  | error fault => exact ⟨_, rfl⟩

section Directories

variable {path : Path} {host : Host} {changed : Location → Prop}

/-- Making a directory fails as the system fails. -/
theorem confines_makeDirectory (plain : path.IsPlain) (host : Host) :
    host.Confines ((makeDirectory path).run host) changed fun fault => fault.isSystem = true := by
  rw [run_makeDirectory, Host.change]
  split
  · rename_i fault failed
    refine ⟨.refl _ _, ?_⟩
    intro other same
    obtain rfl := Except.error.inj same
    exact Host.isSystem_of_query plain.noNull failed
  · rename_i files made
    apply Host.Confines.of_ok
    rcases Host.query_eq_ok made with ⟨start, names, along, made⟩ | ⟨_, gone⟩
    · obtain ⟨_, directory, name, rfl, _, _, _, vacant, rfl⟩ := FileSystem.makeDirectory_eq_ok made
      have noSlash := plain.noSlash name (Host.subset_of_route along (by simp))
      exact Host.spares_add_directory noSlash vacant
    · cases gone

/-- Asking for a directory fails as the system fails. -/
theorem confines_isDirectory (plain : path.IsPlain) (host : Host) :
    host.Confines ((isDirectory path).run host) changed fun fault => fault.isSystem = true := by
  have asked : host.Confines ((inspect path).run host) changed fun fault =>
      fault.isSystem = true := by
    rw [run_inspect]
    refine ⟨.refl _ _, ?_⟩
    intro fault failed
    cases found : host.query path (.ok (.directory 0)) host.files.nodeAt with
    | ok node => simp [found, Except.map] at failed
    | error other =>
        rw [found] at failed
        obtain rfl := Except.error.inj failed
        exact Host.isSystem_of_query plain.noNull found
  have told : host.Confines ((statusOf? path).run host) changed fun fault =>
      fault.isSystem = true := by
    apply (asked.bind fun status after _ => Host.confines_done after (some status)).recover
    intro fault after system
    split
    · exact Host.confines_done _ _
    · exact Host.confines_fail _ system
  exact told.bind fun status after _ => Host.confines_done after _

/-- A directory that has to be there is missed with the fault given. -/
theorem confines_directoryOrFail (plain : path.IsPlain) {fault : Fault}
    (system : fault.isSystem = true) (host : Host) :
    host.Confines (((isDirectory path).bind fun there =>
      if there then done () else fail fault).run host) changed fun fault =>
        fault.isSystem = true := by
  apply (confines_isDirectory plain host).bind
  intro there after _
  split
  · exact Host.confines_done _ _
  · exact Host.confines_fail _ system

/-- A directory that may be there is made or refused by the system. -/
theorem confines_makeUnlessThere (plain : path.IsPlain) (host : Host) :
    host.Confines ((makeUnlessThere path).run host) changed fun fault =>
      fault.isSystem = true := by
  apply (confines_makeDirectory plain host).recover
  intro fault after system
  rw [if_pos system]
  exact confines_directoryOrFail plain system after

/-- There are too many directories only for a path as long as the levels allowed. -/
theorem confines_makeDirectoriesUp (levels : Nat) (plain : path.IsPlain) (host : Host) :
    host.Confines ((makeDirectoriesUp levels path).run host) changed fun fault =>
      fault.isSystem = true ∨ fault = .tooManyLevels ∧ levels ≤ path.parts.length := by
  induction levels generalizing path host with
  | zero => exact Host.confines_fail _ (.inr ⟨rfl, Nat.zero_le _⟩)
  | succ levels ih =>
      rw [makeDirectoriesUp]
      apply (confines_makeDirectory plain host).recover
      intro fault after system
      split
      · split
        · exact Host.confines_fail _ (.inl system)
        · rename_i further
          have some' : path.parts ≠ [] := by
            intro none
            exact further (by rw [Path.parent, none]; cases path; simp_all)
          have shorter : path.parent.parts.length + 1 = path.parts.length := by
            have positive := List.length_pos_iff.2 some'
            rw [Path.parent, List.length_dropLast]
            omega
          have above : after.Confines ((makeDirectoriesUp levels path.parent).run after) changed
              fun fault => fault.isSystem = true ∨
                fault = .tooManyLevels ∧ levels + 1 ≤ path.parts.length := by
            apply (ih plain.parent after).widen
            rintro _ (system | ⟨rfl, deep⟩)
            · exact .inl system
            · exact .inr ⟨rfl, by omega⟩
          apply above.bind
          intro _ later _
          exact (confines_makeUnlessThere plain later).widen fun _ => .inl
      · exact (confines_directoryOrFail plain system after).widen fun _ => .inl

end Directories

end Program

end AnnotatedMake
