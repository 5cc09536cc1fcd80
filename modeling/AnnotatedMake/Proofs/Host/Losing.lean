import AnnotatedMake.Proofs.Host.Unlinked

namespace AnnotatedMake

namespace FileSystem

variable {files : FileSystem} {place home : Location} {names : List String} {name : String}
  {node : Node}

/-- Whether a regular file stands at a place. -/
def isFileAt (files : FileSystem) (place : Location) : Bool :=
  match files.node? place with
  | some (.file _ _) => true
  | _ => false

/-- A file has content and a time. -/
theorem isFileAt_iff : files.isFileAt place = true ↔
    ∃ content time, files.node? place = some (.file content time) := by
  rw [isFileAt]
  split
  · rename_i content time present
    exact iff_of_true rfl ⟨content, time, present⟩
  · rename_i other
    exact iff_of_false (by simp) fun ⟨content, time, present⟩ => other content time present

/-- The status of what is no link tells whether it is a regular file. -/
theorem isFileAt_eq_standing (present : files.node? place = some node)
    (notLink : ∀ target, node ≠ .link target) :
    files.isFileAt place = decide ((Host.statusOf node).standing = .file) := by
  rw [isFileAt, present]
  cases node with
  | link target => exact absurd rfl (notLink target)
  | directory | file | sink => rfl

/-- The places of the regular files under some names of a directory. -/
def filesUnder (files : FileSystem) (home : Location) (names : List String) : List Location :=
  (names.map fun name => home ++ [name]).filter files.isFileAt

/-- The files under a directory are the named ones that are files. -/
theorem mem_filesUnder_iff : place ∈ files.filesUnder home names ↔
    ∃ name ∈ names, place = home ++ [name] ∧ files.isFileAt place = true := by
  simp only [filesUnder, List.mem_filter, List.mem_map]
  constructor
  · rintro ⟨⟨name, member, rfl⟩, file⟩
    exact ⟨name, member, rfl, file⟩
  · rintro ⟨name, member, rfl, file⟩
    exact ⟨⟨name, member, rfl⟩, file⟩

/-- The files under a directory are found name by name. -/
theorem filesUnder_cons (files : FileSystem) (home : Location) (name : String)
    (rest : List String) : files.filesUnder home (name :: rest) =
      if files.isFileAt (home ++ [name]) then (home ++ [name]) :: files.filesUnder home rest
      else files.filesUnder home rest := by
  rw [filesUnder, List.map_cons, List.filter_cons]
  rfl

/-- Distinct names give distinct files. -/
theorem nodup_filesUnder (once : names.Nodup) :
    (files.filesUnder home names).Nodup :=
  List.Pairwise.filter _ (List.Pairwise.map _
    (fun _ _ differs same => differs (last_eq_of_concat_eq same)) once)

end FileSystem

namespace Host

variable {host middle after : Host} {path : Path} {place home : Location} {name : String}
  {removed more : List Location}

/-- The files at some places are gone, and only the times of their directories are changed. -/
structure Loses (host after : Host) (removed : List Location) : Prop where
  directory : after.directory = host.directory
  environment : after.environment = host.environment
  log : after.log = host.log
  logFile : after.logFile = host.logFile ∨
    after.logFile = none ∧ ∃ place ∈ removed, host.logFile = some place
  files : ∀ place ∈ removed, host.files.isFileAt place = true
  gone : ∀ place ∈ removed, after.files.node? place = none
  spared : ∀ place, place ∉ removed → after.files.node? place = host.files.node? place ∨
    (∃ name, place ++ [name] ∈ removed) ∧ ∃ before later,
      host.files.node? place = some (.directory before) ∧
      after.files.node? place = some (.directory later)
  still : removed = [] → after = host

/-- A host loses nothing to itself. -/
theorem Loses.refl (host : Host) : host.Loses host [] where
  directory := rfl
  environment := rfl
  log := rfl
  logFile := .inl rfl
  files _ member := absurd member List.not_mem_nil
  gone _ member := absurd member List.not_mem_nil
  spared _ _ := .inl rfl
  still _ := rfl

/-- What is not removed is a file as before. -/
theorem Loses.isFileAt_eq (loses : host.Loses after removed) (kept : place ∉ removed) :
    after.files.isFileAt place = host.files.isFileAt place := by
  rcases loses.spared place kept with same | ⟨_, _, _, before, later⟩
  · rw [FileSystem.isFileAt, FileSystem.isFileAt, same]
  · rw [FileSystem.isFileAt, FileSystem.isFileAt, before, later]

/-- What is removed is no file. -/
theorem Loses.not_isFileAt (loses : host.Loses after removed) (member : place ∈ removed) :
    after.files.isFileAt place = false := by
  rw [FileSystem.isFileAt, loses.gone place member]

/-- What is left stood there before, as it is now unless it is a directory. -/
theorem Loses.stood (loses : host.Loses after removed) {node : Node}
    (present : after.files.node? place = some node) :
    host.files.node? place = some node ∨ ∃ before later,
      host.files.node? place = some (.directory before) ∧ node = .directory later := by
  have kept : place ∉ removed := by
    intro member
    rw [loses.gone place member] at present
    cases present
  rcases loses.spared place kept with same | ⟨_, before, later, was, now⟩
  · exact .inl (same ▸ present)
  · exact .inr ⟨before, later, was, Option.some.inj (present.symm.trans now)⟩

/-- All that is left stood there before. -/
theorem Loses.keeps (loses : host.Loses after removed) : after.files.Keeps host.files := by
  intro place node present
  rcases loses.stood present with same | ⟨_, _, was, rfl⟩
  · exact ⟨node, same, .refl node⟩
  · exact ⟨_, was, .directory ..⟩

/-- The directories and links are kept. -/
theorem Loses.ways (loses : host.Loses after removed) :
    host.files.KeepsWays after.files := by
  intro place node present way
  have kept : place ∉ removed := by
    intro member
    obtain ⟨_, _, file⟩ := FileSystem.isFileAt_iff.1 (loses.files place member)
    rw [present] at file
    obtain rfl := Option.some.inj file
    exact way
  rcases loses.spared place kept with same | ⟨_, _, _, before, later⟩
  · exact ⟨node, same.trans present, .refl node⟩
  · rw [present] at before
    obtain rfl := Option.some.inj before
    exact ⟨_, later, .directory ..⟩

/-- What is lost in turn is lost in all. -/
theorem Loses.append (first : host.Loses middle removed) (second : middle.Loses after more) :
    host.Loses after (removed ++ more) where
  directory := second.directory.trans first.directory
  environment := second.environment.trans first.environment
  log := second.log.trans first.log
  logFile := by
    rcases second.logFile with same | ⟨unkept, place, member, was⟩
    · rw [same]
      exact first.logFile.imp_right fun ⟨unkept, place, member, was⟩ =>
        ⟨unkept, place, List.mem_append_left _ member, was⟩
    · rcases first.logFile with same | ⟨earlier, _⟩
      · exact .inr ⟨unkept, place, List.mem_append_right _ member, same ▸ was⟩
      · rw [earlier] at was
        cases was
  files place member := by
    by_cases early : place ∈ removed
    · exact first.files place early
    · rw [← first.isFileAt_eq early]
      exact second.files place ((List.mem_append.1 member).resolve_left early)
  gone place member := by
    by_cases late : place ∈ more
    · exact second.gone place late
    · have early := (List.mem_append.1 member).resolve_right late
      rcases second.spared place late with same | ⟨_, _, _, before, _⟩
      · rw [same, first.gone place early]
      · rw [first.gone place early] at before
        cases before
  spared place kept := by
    obtain ⟨notEarly, notLate⟩ := not_or.1 (mt List.mem_append.2 kept)
    rcases second.spared place notLate with same | ⟨⟨name, inMore⟩, between, later, was, now⟩
    · rw [same]
      exact (first.spared place notEarly).imp_right fun ⟨⟨name, member⟩, changed⟩ =>
        ⟨⟨name, List.mem_append_left _ member⟩, changed⟩
    · right
      refine ⟨⟨name, List.mem_append_right _ inMore⟩, ?_⟩
      rcases first.spared place notEarly with same | ⟨_, before, _, earlier, _⟩
      · exact ⟨between, later, same ▸ was, now⟩
      · exact ⟨before, later, earlier, now⟩
  still none := by
    obtain ⟨rfl, rfl⟩ := List.append_eq_nil_iff.1 none
    rw [second.still rfl, first.still rfl]

variable [Platform]

/-- A file that is removed is lost, and nothing else is. -/
theorem Ends.loses (ends : host.Ends path home name)
    (file : host.files.isFileAt (home ++ [name]) = true) :
    ∃ after, (Program.remove path).run host = (.ok (), after) ∧
      host.Loses after [home ++ [name]] := by
  obtain ⟨content, time, present⟩ := FileSystem.isFileAt_iff.1 file
  refine ⟨_, ends.run_remove present, rfl, rfl, rfl, ?_, ?_, ?_, ?_, nofun⟩
  · dsimp only
    split
    · exact .inr ⟨rfl, _, List.mem_singleton_self _, ‹_›⟩
    · exact .inl rfl
  · intro place member
    rwa [List.mem_singleton.1 member]
  · intro place member
    rw [List.mem_singleton.1 member]
    exact FileSystem.node?_takeOut_self ..
  · intro place kept
    have differs : place ≠ home ++ [name] := mt List.mem_singleton.2 kept
    have dropped : (host.files.drop (home ++ [name])).node? place = host.files.node? place := by
      rw [FileSystem.node?_drop, if_neg differs]
    dsimp only
    rw [FileSystem.takeOut, List.dropLast_concat]
    by_cases above : place = home
    · subst above
      rw [FileSystem.touch, dropped]
      split
      · rename_i before isDirectory
        rw [FileSystem.node?_put_self]
        exact .inr ⟨⟨name, List.mem_singleton_self _⟩, before, _, isDirectory, rfl⟩
      · exact .inl dropped
    · rw [FileSystem.node?_touch_of_ne _ above, dropped]
      exact .inl rfl

end Host

end AnnotatedMake
