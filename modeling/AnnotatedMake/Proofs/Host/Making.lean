import AnnotatedMake.Proofs.Host.Effect

namespace AnnotatedMake

/-- The way of a path up to some count of its names. -/
def Path.upTo (path : Path) (count : Nat) : Path := ⟨path.anchor, path.parts.take count⟩

/-- All parts of a path make the path. -/
theorem Path.upTo_length (path : Path) : path.upTo path.parts.length = path := by
  rw [upTo, List.take_length]

/-- The parent has the same front without the last part. -/
theorem Path.upTo_parent (path : Path) (count : Nat) :
    path.parent.upTo count = path.upTo (min count (path.parts.length - 1)) := by
  rw [upTo, upTo, parent, List.dropLast_eq_take, List.take_take]

variable [Platform]

namespace Host

variable {host middle after : Host} {path : Path}

/-- The way of a path breaks off at a vacant name of a directory. -/
def Lacks (host : Host) (path : Path) : Prop :=
  ∃ start front name more home, host.wayOf? path = some (start, front ++ name :: more) ∧
    host.files.enter start front = .ok home ∧ IsEntryName name ∧
    host.files.node? (home ++ [name]) = none

/-- Directories are made on the way of a path, and else only some places are changed. -/
structure Builds (host after : Host) (path : Path) (changed : Location → Prop) : Prop where
  directory : after.directory = host.directory
  logFile : after.logFile = host.logFile ∨ after.logFile = none
  alike : ∀ place, ¬ changed place → Alike (host.files.node? place) (after.files.node? place)
  made : path.IsProper → ∀ place, ¬ changed place → host.files.node? place = none →
    after.files.node? place ≠ none →
      (∃ count, host.leads? (path.upTo count) = some place) ∧ host.Lacks path

omit [Platform] in
/-- Nothing is built on the host itself. -/
theorem Builds.refl (host : Host) (path : Path) (changed : Location → Prop) :
    host.Builds host path changed where
  directory := rfl
  logFile := .inl rfl
  alike _ _ := .same _
  made _ _ _ vacant present := absurd vacant present

omit [Platform] in
/-- A place that is not the log does not become it. -/
theorem Builds.logFile_ne {changed : Location → Prop} {place : Location}
    (builds : host.Builds after path changed) (notLog : host.logFile ≠ some place) :
    after.logFile ≠ some place := by
  rcases builds.logFile with same | none
  · rwa [same]
  · rw [none]
    exact (Option.some_ne_none place).symm

omit [Platform] in
/-- What is changed later is changed on top of the directories that were made. -/
theorem Builds.of_sameBut {changed : Location → Prop}
    (builds : host.Builds middle path fun _ => False)
    (directory : after.directory = middle.directory)
    (logFile : after.logFile = middle.logFile ∨ after.logFile = none)
    (same : middle.files.SameBut after.files changed) : host.Builds after path changed where
  directory := directory.trans builds.directory
  logFile := by
    rcases logFile with kept | none
    · rw [kept]
      exact builds.logFile
    · exact .inr none
  alike place spared := (builds.alike place not_false).trans (same place spared).1
  made proper place spared vacant present :=
    builds.made proper place not_false vacant fun still => present ((same place spared).2.2 still)

section Alone

variable (builds : host.Builds after path fun _ => False)
include builds

omit [Platform] in
/-- The links are the same before and after. -/
theorem Builds.links (place : Location) (target : String) :
    host.files.node? place = some (.link target) ↔ after.files.node? place = some (.link target) :=
  (builds.alike place not_false).link_iff

omit [Platform] in
/-- Every path leads where it led. -/
theorem Builds.leads? (other : Path) :
    after.leads? other = host.leads? other :=
  leads?_congr builds.directory builds.links other

omit [Platform] in
/-- The directories and files are kept. -/
theorem Builds.keeps : host.files.Keeps after.files :=
  fun place _ present => (present ▸ builds.alike place not_false).kin

omit [Platform] in
/-- When nothing is made, every node was there before. -/
theorem Builds.kept
    (none : ∀ place, host.files.node? place = none → after.files.node? place = none) :
    after.files.Keeps host.files := by
  intro place node present
  have alike := builds.alike place not_false
  rw [present] at alike
  cases before : host.files.node? place with
  | none =>
      rw [none place before] at present
      cases present
  | some held =>
      rw [before] at alike
      cases alike with
      | same => exact ⟨node, rfl, .refl node⟩
      | changed => exact ⟨_, rfl, .directory ..⟩

end Alone

omit [Platform] in
/-- What a way lacks above its last name, the whole way lacks. -/
theorem Lacks.of_parent (lacks : host.Lacks path.parent) : host.Lacks path := by
  obtain ⟨start, front, name, more, home, way, entered, entry, vacant⟩ := lacks
  rcases List.eq_nil_or_concat path.parts with none | ⟨above, last, ends⟩
  · have same : path.parent = path := by rw [Path.parent, none]; cases path; simp_all
    exact ⟨start, front, name, more, home, same ▸ way, entered, entry, vacant⟩
  · rw [List.concat_eq_append] at ends
    have further := wayOf?_append way [last]
    rw [ends, List.dropLast_concat, ← ends, List.append_assoc, List.cons_append] at further
    exact ⟨start, front, name, more ++ [last], home, further, entered, entry, vacant⟩

omit [Platform] in
/-- What builds the parent builds the path. -/
theorem Builds.of_parent {changed : Location → Prop}
    (builds : host.Builds after path.parent changed) : host.Builds after path changed where
  directory := builds.directory
  logFile := builds.logFile
  alike := builds.alike
  made proper place spared vacant present := by
    obtain ⟨⟨count, leads⟩, lacks⟩ := builds.made proper.parent place spared vacant present
    rw [Path.upTo_parent] at leads
    exact ⟨⟨_, leads⟩, lacks.of_parent⟩

/-- A directory that is made stands where its path leads, at a vacant name. -/
theorem makeDirectory_eq_ok
    (made : (Program.makeDirectory path).run host = (.ok (), after)) :
    ∃ start front home name, host.wayOf? path = some (start, front ++ [name]) ∧
      host.files.enter start front = .ok home ∧ host.files.node? (home ++ [name]) = none ∧
      (path.IsProper → IsOneName name ∧ host.leads? path = some (home ++ [name])) ∧
      FileSystem.isLongName name = false ∧
      after = { host with
        files := host.files.add home name (.directory host.clock) host.clock
        clock := host.clock + 1 } := by
  rw [Program.run_makeDirectory, change] at made
  split at made
  · cases made
  · rename_i files found
    obtain ⟨_, rfl⟩ := Prod.mk.inj made
    rcases query_eq_ok found with ⟨start, names, along, added⟩ | ⟨_, gone⟩
    · obtain ⟨front, home, name, rfl, notUp, short, entered, vacant, rfl⟩ :=
        FileSystem.makeDirectory_eq_ok added
      have way := wayOf?_of_route along
      refine ⟨start, front, home, name, way, entered, vacant, ?_, short, rfl⟩
      intro proper
      have member : name ∈ path.parts := subset_of_route along (by simp)
      have entry : IsEntryName name := ⟨proper.notHere name member, notUp⟩
      refine ⟨⟨entry, proper.noSlash name member⟩, ?_⟩
      obtain ⟨⟨left, passed⟩, _⟩ := FileSystem.enter_eq_ok_iff.1 entered
      rw [Host.leads?, way, Option.bind_some,
        (FileSystem.passes_of_pass passed).leads?_append, FileSystem.leads?,
        if_neg (Bool.eq_false_iff.1 entry.notHere), if_neg entry.notUp, vacant, FileSystem.leads?]
    · cases gone

/-- Directories stand wherever the way of a path leads. -/
def IsPaved (host : Host) (path : Path) : Prop :=
  ∀ count place, host.leads? (path.upTo count) = some place →
    ∃ time, host.files.node? place = some (.directory time)

omit [Platform] in
/-- The way to a directory that is looked up is paved. -/
theorem isPaved_of_lookUp {start home : Location} {names : List String} {time : Int}
    (way : host.wayOf? path = some (start, names))
    (looked : host.files.lookUp .target start names = .ok (.found home (.directory time))) :
    host.IsPaved path := by
  intro count place leads
  obtain ⟨⟨_, front⟩, along, led⟩ := Option.bind_eq_some_iff.1 leads
  have whole := wayOf?_append along (path.parts.drop count)
  rw [List.take_append_drop] at whole
  obtain ⟨rfl, rfl⟩ := Prod.mk.inj (Option.some.inj (way.symm.trans whole))
  obtain ⟨⟨left, passed⟩, isDirectory⟩ := FileSystem.walk_target_eq_found_iff.1 looked
  obtain ⟨_, _, first, second⟩ := (FileSystem.passes_of_pass passed).of_append
  obtain rfl := Option.some.inj (first.leads?_eq.symm.trans led)
  exact second.directory ⟨time, isDirectory⟩

/-- The way to a directory that was made is paved. -/
theorem isPaved_of_makeDirectory (proper : path.IsProper)
    (made : (Program.makeDirectory path).run host = (.ok (), after)) : after.IsPaved path := by
  obtain ⟨start, front, home, name, way, entered, vacant, further, short, rfl⟩ :=
    makeDirectory_eq_ok made
  have still : (host.files.add home name (.directory host.clock) host.clock).enter start front =
      .ok home := FileSystem.enter_of_ways (FileSystem.keeps_add vacant).ways entered
  have looked : (host.files.add home name (.directory host.clock) host.clock).lookUp .target start
      (front ++ [name]) = .ok (.found (home ++ [name]) (.directory host.clock)) :=
    FileSystem.lookUp_concat_of_enter (further proper).1.toIsEntryName short still
      (FileSystem.node?_add_self ..) fun _ same => by cases same
  exact isPaved_of_lookUp way looked

omit [Platform] in
/-- The way to what is seen to be a directory is paved. -/
theorem isPaved_of_nodeAt {time : Int}
    (found : host.query path (.ok (.directory 0)) host.files.nodeAt = .ok (.directory time)) :
    host.IsPaved path := by
  rcases query_eq_ok found with ⟨start, names, along, seen⟩ | ⟨gone, _⟩
  · rw [FileSystem.nodeAt] at seen
    cases looked : host.files.lookUp .target start names with
    | error number =>
        rw [looked] at seen
        cases seen
    | ok destination =>
        rw [looked] at seen
        cases destination with
        | vacant => cases seen
        | found home node =>
            obtain rfl := Except.ok.inj seen
            exact isPaved_of_lookUp (wayOf?_of_route along) looked
  · intro count place leads
    obtain ⟨_, along, _⟩ := Option.bind_eq_some_iff.1 leads
    have whole := wayOf?_append along (path.parts.drop count)
    rw [List.take_append_drop] at whole
    exact absurd whole (by rw [wayOf?_of_removed gone]; simp)

/-- After the directories above a path, the one at the path is made. -/
theorem Builds.makeDirectory (builds : host.Builds middle path.parent fun _ => False)
    (made : (Program.makeDirectory path).run middle = (.ok (), after)) :
    host.Builds after path fun _ => False := by
  obtain ⟨start, front, home, name, way, entered, vacant, further, _, rfl⟩ :=
    makeDirectory_eq_ok made
  have step (place : Location) : Alike (middle.files.node? place)
      ((middle.files.add home name (.directory middle.clock) middle.clock).node? place) := by
    by_cases same : place = home ++ [name]
    · rw [same, vacant, FileSystem.node?_add_self]
      exact .made _
    · exact FileSystem.node?_add_of_ne same
  refine ⟨builds.directory, builds.logFile,
    fun place _ => (builds.alike place not_false).trans (step place), ?_⟩
  intro proper place _ before present
  obtain ⟨entry, leads⟩ := further proper
  by_cases here : middle.files.node? place = none
  · obtain rfl : place = home ++ [name] := Classical.byContradiction fun differs =>
      present ((FileSystem.node?_add_eq_none_iff differs).2 here)
    rw [builds.leads?] at leads
    refine ⟨⟨path.parts.length, by rw [Path.upTo_length]; exact leads⟩, ?_⟩
    -- The way breaks off where it broke off first, at the latest at its last name.
    by_cases anything : ∃ other, host.files.node? other = none ∧ middle.files.node? other ≠ none
    · obtain ⟨other, was, is⟩ := anything
      exact (builds.made proper.parent other not_false was is).2.of_parent
    · have kept := builds.kept fun other was =>
        Classical.byContradiction fun is => anything ⟨other, was, is⟩
      rw [wayOf?_congr builds.directory] at way
      exact ⟨start, front, name, [], home, way, FileSystem.enter_of_ways kept.ways entered,
        entry.toIsEntryName, before⟩
  · exact builds.of_parent.made proper place not_false before here

end Host

namespace Program

variable {host : Host} {path : Path}

/-- A directory that is not made changes nothing. -/
theorem run_makeDirectory_of_error {fault : Fault} {after : Host}
    (failed : (makeDirectory path).run host = (.error fault, after)) : after = host := by
  rw [run_makeDirectory, Host.change] at failed
  split at failed
  · exact (Prod.mk.inj failed).2.symm
  · cases failed

/-- Asking for a directory that has to be there changes nothing. -/
theorem run_directoryOrFail (path : Path) (fault : Fault) (host : Host) :
    (((isDirectory path).bind fun there =>
      if there then done () else fail fault).run host).2 = host := by
  obtain ⟨outcome, told⟩ := run_isDirectory path host
  rw [run_bind, told]
  cases outcome with
  | error _ => rfl
  | ok there => cases there <;> rfl

/-- Directories are made along the way of a path. -/
theorem builds_makeDirectoriesUp (levels : Nat) (path : Path) (host : Host) :
    host.Builds ((makeDirectoriesUp levels path).run host).2 path fun _ => False := by
  induction levels generalizing path host with
  | zero => exact .refl ..
  | succ levels ih =>
      rw [makeDirectoriesUp, run_recover]
      cases ran : (makeDirectory path).run host with
      | mk outcome after =>
          cases outcome with
          | ok _ => exact Host.Builds.makeDirectory (.refl ..) ran
          | error fault =>
              obtain rfl := run_makeDirectory_of_error ran
              dsimp only
              split
              · split
                · exact .refl ..
                · have above := ih path.parent after
                  simp only [bind_eq_bind]
                  rw [run_bind]
                  generalize (makeDirectoriesUp levels path.parent).run after = run at above ⊢
                  obtain ⟨outcome, middle⟩ := run
                  cases outcome with
                  | error _ => exact above.of_parent
                  | ok _ =>
                      dsimp only
                      rw [makeUnlessThere, run_recover]
                      cases last : (makeDirectory path).run middle with
                      | mk outcome later =>
                          cases outcome with
                          | ok _ => exact above.makeDirectory last
                          | error fault =>
                              obtain rfl := run_makeDirectory_of_error last
                              dsimp only
                              split
                              · simp only [bind_eq_bind, pure_eq_done, throw_eq_fail]
                                rw [run_directoryOrFail]
                                exact above.of_parent
                              · exact above.of_parent
              · split
                · simp only [bind_eq_bind, pure_eq_done, throw_eq_fail]
                  rw [run_directoryOrFail]
                  exact .refl ..
                · exact .refl ..

section Entered

variable {base : Path} {home start : Location} {names : List String}

/-- A place that can be entered is a directory. -/
theorem run_isDirectory_of_enter (along : host.route base = .ok (.along start names))
    (entered : host.files.enter start names = .ok home) :
    (isDirectory base).run host = (.ok true, host) := by
  obtain ⟨⟨left, passed⟩, time, stands⟩ := FileSystem.enter_eq_ok_iff.1 entered
  have found : host.files.lookUp .target start names = .ok (.found home (.directory time)) :=
    FileSystem.walk_target_eq_found_iff.2 ⟨⟨left, passed⟩, stands⟩
  have told : host.query base (.ok (.directory 0)) host.files.nodeAt = .ok (.directory time) := by
    simp only [Host.query, along, FileSystem.nodeAt, found]
  rw [isDirectory, bind_eq_bind, run_bind, run_statusOf?_of_ok told]
  rfl

/-- One level of directories can be missing at least. -/
theorem exists_levelLimit : ∃ levels, levelLimit = levels + 1 :=
  Nat.exists_eq_succ_of_ne_zero (Nat.ne_of_gt Platform.levels_pos)

/-- A directory that can be entered is not made again. -/
theorem run_makeDirectory_of_enter (proper : base.IsProper)
    (along : host.route base = .ok (.along start names))
    (entered : host.files.enter start names = .ok home) :
    (makeDirectory base).run host = (.error (.system Fault.alreadyThere), host) := by
  have notHere : ∀ name ∈ names, FileSystem.isHere name = false :=
    fun name member => proper.notHere name (Host.subset_of_route along member)
  rw [run_makeDirectory, Host.change, Host.query, along]
  dsimp only
  rw [FileSystem.makeDirectory_of_enter notHere entered]

/-- A directory that can be entered is as good as one that is made. -/
theorem run_makeUnlessThere_of_enter (proper : base.IsProper)
    (along : host.route base = .ok (.along start names))
    (entered : host.files.enter start names = .ok home) :
    (makeUnlessThere base).run host = (.ok (), host) := by
  have system : (Fault.system Fault.alreadyThere).isSystem = true := rfl
  rw [makeUnlessThere, run_recover, run_makeDirectory_of_enter proper along entered]
  dsimp only
  rw [if_pos system]
  simp only [bind_eq_bind, pure_eq_done]
  rw [run_bind, run_isDirectory_of_enter along entered]
  rfl

/-- No directory is made above a file in a directory that can be entered. -/
theorem run_makeDirectories_of_enter (proper : base.IsProper)
    (along : host.route base = .ok (.along start names))
    (entered : host.files.enter start names = .ok home) :
    (makeDirectories base).run host = (.ok (), host) := by
  obtain ⟨_, levels⟩ := exists_levelLimit
  rw [makeDirectories, levels, makeDirectoriesUp, run_recover,
    run_makeDirectory_of_enter proper along entered]
  dsimp only
  have system : (Fault.system Fault.alreadyThere).isSystem = true := rfl
  rw [if_neg (by decide), if_pos system]
  simp only [bind_eq_bind, pure_eq_done]
  rw [run_bind, run_isDirectory_of_enter along entered]
  rfl

/-- Where a directory is missing, the one above it is made first. -/
theorem run_makeDirectoriesUp_of_missing {levels : Nat} {middle after : Host}
    (above : path.parent ≠ path)
    (missing : (makeDirectory path).run host = (.error (.system Fault.notFound), host))
    (made : (makeDirectoriesUp levels path.parent).run host = (.ok (), middle))
    (last : (makeUnlessThere path).run middle = (.ok (), after)) :
    (makeDirectoriesUp (levels + 1) path).run host = (.ok (), after) := by
  rw [makeDirectoriesUp, run_recover, missing]
  dsimp only
  rw [if_pos rfl, if_neg above]
  simp only [bind_eq_bind]
  rw [run_bind, made]
  exact last

end Entered

/-- No directory is made at a path with a null character. -/
theorem run_makeDirectories_of_null (null : path.parts.any (holds (Char.ofNat 0)) = true)
    (host : Host) : (makeDirectories path).run host = (.error .nullByte, host) := by
  obtain ⟨_, levels⟩ := exists_levelLimit
  rw [makeDirectories, levels, makeDirectoriesUp, run_recover, run_makeDirectory, Host.change,
    Host.query_of_null null]
  rfl

end Program

end AnnotatedMake
