import AnnotatedMake.Proofs.Host.Naming
import Mathlib.Logic.Function.Basic

namespace AnnotatedMake

namespace Host

variable [Platform] {host after : Host} {name : String} {content : Bytes}
  {time changed : Int}

omit [Platform] in
/-- The root stays a directory when a name in it is replaced. -/
theorem Replaces.root {node : Option Node} (replaces : host.Replaces after [name] node)
    (root : host.files.node? [] = some (.directory time)) :
    ∃ time, after.files.node? [] = some (.directory time) :=
  (root ▸ (replaces.others [] (List.cons_ne_nil _ _).symm).1).directory

omit [Platform] in
/-- A file at another place stays. -/
theorem Replaces.file_of_ne {place other : Location} {node : Option Node}
    (replaces : host.Replaces after place node) (apart : other ≠ place)
    (file : host.files.node? other = some (.file content time)) :
    after.files.node? other = some (.file content time) :=
  (replaces.others other apart).1.file_iff.1 file

omit [Platform] in
/-- A log that is kept in no file stays there. -/
theorem Replaces.noLog {place : Location} {node : Option Node}
    (replaces : host.Replaces after place node) (noLog : host.logFile = none) :
    after.logFile = none := by
  rcases replaces.logFile with same | none
  · exact same.trans noLog
  · exact none

/-- The root is listed by its names. -/
theorem list_root {names : List String} (listed : host.files.list [] [] = .ok names) :
    host.perform (.list ⟨.root, []⟩) = (.ok names, host) := by
  have along : host.route ⟨.root, []⟩ = .ok (.along [] []) := rfl
  rw [perform, query, along]
  dsimp only
  rw [listed]

section Root

variable (root : host.files.node? [] = some (.directory time))
include root

omit [Platform] in
/-- The root can be entered. -/
theorem enter_of_root : host.files.enter [] [] = .ok [] :=
  FileSystem.enter_eq_ok_iff.2 ⟨⟨_, (FileSystem.Passes.done _ _).pass_eq⟩, time, root⟩

omit [Platform] in
/-- The path of the root leads to it. -/
theorem leads?_root : host.leads? ⟨.root, []⟩ = some [] := by
  have way : host.wayOf? ⟨.root, []⟩ = some ([], []) := rfl
  rw [leads?, way]
  exact FileSystem.leads?_of_enter (enter_of_root root)

omit [Platform] in
/-- Temporary files for the root are made in it. -/
theorem workplace?_root : host.workplace? ⟨.root, []⟩ = some [] := by
  have absolute : host.absolute ⟨.root, []⟩ = .ok ⟨.root, []⟩ := rfl
  rw [workplace?, absolute]
  exact leads?_root root

/-- The root has the status of a directory. -/
theorem inspect_root : host.perform (.inspect ⟨.root, []⟩) = (.ok ⟨.directory, time⟩, host) := by
  have along : host.route ⟨.root, []⟩ = .ok (.along [] []) := rfl
  have found : host.files.nodeAt [] [] = .ok (.directory time) := by
    rw [FileSystem.nodeAt, FileSystem.lookUp, FileSystem.walk, root]
  rw [perform, query, along]
  dsimp only
  rw [found]
  rfl

/-- The root cannot be made again. -/
theorem makeDirectory_root :
    host.perform (.makeDirectory ⟨.root, []⟩) = (.error (.system Fault.alreadyThere), host) := by
  have along : host.route ⟨.root, []⟩ = .ok (.along [] []) := rfl
  have notHere : ∀ name ∈ ([] : List String), FileSystem.isHere name = false := by simp
  rw [perform, change, query, along]
  dsimp only
  rw [FileSystem.makeDirectory_of_enter notHere (enter_of_root root)]

variable (named : IsPlainName name) (short : FileSystem.isLongName name = false)
include named short

/-- A file in the root has the status of a file. -/
theorem inspect_of_root (file : host.files.node? [name] = some (.file content changed)) :
    host.perform (.inspect ⟨.root, [name]⟩) = (.ok ⟨.file, changed⟩, host) := by
  have found : host.query ⟨.root, [name]⟩ (.ok (.directory 0)) host.files.nodeAt =
      .ok (.file content changed) :=
    (ends_of_root root named short).query fun _ _ found => by
      rw [FileSystem.nodeAt, found .target _ file fun _ same => by cases same]
  rw [perform, found]
  rfl

/-- A vacant name in the root is not read. -/
theorem read_vacant_of_root (vacant : host.files.node? [name] = none) :
    host.perform (.read ⟨.root, [name]⟩) = (.error (.system Fault.notFound), host) := by
  have missing : host.query ⟨.root, [name]⟩ (.error Fault.isDirectory) host.files.read =
      .error (.system Fault.notFound) :=
    (ends_of_root root named short).query_vacant vacant fun start names looked => by
      rw [FileSystem.read, looked]
  rw [perform, missing]

omit [Platform] in
/-- A temporary file is made under a vacant name in the root. -/
theorem createNamed_of_root (vacant : host.files.node? [name] = none) :
    ∃ after, host.createNamed ⟨.root, []⟩ name = (.ok ⟨.root, [name]⟩, after) ∧
      after.files = host.files.add [] name (.file [] host.clock) host.clock ∧
      host.Replaces after [name] (some (.file [] host.clock)) := by
  have absolute : host.absolute ⟨.root, []⟩ = .ok ⟨.root, []⟩ := rfl
  have below : Path.child ⟨.root, []⟩ name = ⟨.root, [name]⟩ :=
    Path.child_of_oneName ⟨.root, []⟩ named.toIsOneName
  have made : host.files.createNamed [] [name].dropLast name host.clock =
      .ok (host.files.add [] name (.file [] host.clock) host.clock) := by
    rw [FileSystem.createNamed, List.dropLast_singleton, enter_of_root root]
    dsimp only
    rw [List.nil_append, vacant]
  rw [createNamed, absolute]
  dsimp only
  rw [query, below, host.route_of_root named short]
  dsimp only
  rw [made]
  exact ⟨_, rfl, rfl, rfl, .inl rfl, FileSystem.sameBut_add _ _ _ _ _,
    FileSystem.node?_add_self ..⟩

/-- A file in the root is moved onto a name that is no directory. -/
theorem rename_of_root (file : host.files.node? [name] = some (.file content changed))
    {goal : String} (goalNamed : IsPlainName goal) (goalShort : FileSystem.isLongName goal = false)
    (notDirectory : ∀ time, host.files.node? [goal] ≠ some (.directory time)) :
    ∃ middle after, host.perform (.rename ⟨.root, [name]⟩ ⟨.root, [goal]⟩) = (.ok (), after) ∧
      host.Replaces middle [name] none ∧
      middle.Replaces after [goal] (some (.file content changed)) := by
  have ends := ends_of_root root named short
  have goalEnds := ends_of_root root goalNamed goalShort
  have below : Path.child ⟨.root, []⟩ goal = ⟨.root, [goal]⟩ :=
    Path.child_of_oneName ⟨.root, []⟩ goalNamed.toIsOneName
  obtain ⟨after, moved⟩ := ends.rename_ok file goalEnds notDirectory
  have renamed := ends.rename file (Path.isProper_root .root).toIsPlain goalNamed
  rw [below, moved] at renamed
  rcases renamed with ⟨_, failed, _⟩ | ⟨home, middle, _, same, leads, _, _, _, taken, put⟩
  · cases failed
  · obtain ⟨_, rfl⟩ := Prod.mk.inj same
    obtain rfl := Option.some.inj ((leads?_root root).symm.trans leads)
    exact ⟨middle, after, (Program.run_rename ..).symm.trans moved, taken, put⟩

section Link

variable {goal : String} (link : host.files.node? [name] = some (.link goal))
  (start : FileSystem.linkStart [] goal = []) (names : FileSystem.linkNames goal = [goal])
  (goalNamed : IsPlainName goal) (goalShort : FileSystem.isLongName goal = false)
include link start names goalNamed goalShort

/-- A link in the root directory to a file there is read as that file. -/
theorem read_link_of_root (file : host.files.node? [goal] = some (.file content changed)) :
    (host.perform (.read ⟨.root, [name]⟩)).1 = .ok content := by
  have further : host.files.Passes 39 (FileSystem.linkStart [] goal)
      (FileSystem.linkNames goal ++ []) 39 [goal] := by
    rw [start, names]
    exact .into root goalNamed.toIsEntryName goalShort file nofun (.done 39 _)
  have looked : host.files.lookUp .target [] [name] = .ok (.found [goal] (.file content changed)) :=
    FileSystem.walk_target_eq_found_iff.2
      ⟨⟨39, (FileSystem.Passes.link root named.toIsEntryName short link further).pass_eq⟩, file⟩
  rw [perform, query, host.route_of_root named short]
  dsimp only
  rw [FileSystem.read, looked]

/-- A link to a vacant name is not read. -/
theorem read_dangling_of_root (vacant : host.files.node? [goal] = none) :
    (host.perform (.read ⟨.root, [name]⟩)).1 = .error (.system Fault.notFound) := by
  have allowance : FileSystem.linkAllowance = 39 + 1 := rfl
  have looked : host.files.lookUp .target [] [name] = .ok (.vacant [] goal) := by
    simp only [FileSystem.lookUp, allowance, FileSystem.walk, root, named.notHere, named.notUp,
      short, link, start, names, List.nil_append, List.append_nil, goalNamed.notHere,
      goalNamed.notUp, goalShort, vacant]
    simp
  rw [perform, query, host.route_of_root named short]
  dsimp only
  rw [FileSystem.read, looked]

end Link

end Root

/-- What the plain names in the root directory of a host hold, where no log is kept in a file. -/
structure IsFlat (host : Host) (held : String → Option Bytes) : Prop where
  root : ∃ time, host.files.node? [] = some (.directory time)
  noLog : host.logFile = none
  file : ∀ name content, held name = some content →
    ∃ time, host.files.node? [name] = some (.file content time)
  vacant : ∀ name, held name = none → host.files.node? [name] = none

namespace IsFlat

omit [Platform] in
/-- The empty host holds nothing. -/
theorem empty : IsFlat {} fun _ => none where
  root := ⟨0, rfl⟩
  noLog := rfl
  file _ _ holds := nomatch holds
  vacant _ _ := rfl

variable {held : String → Option Bytes} (flat : host.IsFlat held)
include flat

omit [Platform] in
/-- A replaced name holds what it was given. -/
theorem replaced {node : Option Node} {now : Option Bytes}
    (replaces : host.Replaces after [name] node)
    (filled : ∀ content, now = some content → ∃ time, node = some (.file content time))
    (emptied : now = none → node = none) : after.IsFlat (Function.update held name now) where
  root := by
    obtain ⟨time, root⟩ := flat.root
    exact replaces.root root
  noLog := replaces.noLog flat.noLog
  file other content holds := by
    by_cases same : other = name
    · subst same
      rw [Function.update_self] at holds
      rw [replaces.here]
      exact filled content holds
    · rw [Function.update_of_ne same] at holds
      obtain ⟨time, file⟩ := flat.file other content holds
      exact ⟨time, replaces.file_of_ne (by simpa using same) file⟩
  vacant other holds := by
    by_cases same : other = name
    · subst same
      rw [Function.update_self] at holds
      rw [replaces.here]
      exact emptied holds
    · rw [Function.update_of_ne same] at holds
      exact (replaces.others _ (by simpa using same)).2.2 (flat.vacant other holds)

omit [Platform] in
/-- A name that is filled holds the content. -/
theorem filled (replaces : host.Replaces after [name] (some (.file content time))) :
    after.IsFlat (Function.update held name (some content)) :=
  flat.replaced replaces (fun _ same => ⟨time, by rw [Option.some.inj same]⟩) nofun

omit [Platform] in
/-- A name that is emptied holds nothing. -/
theorem emptied (replaces : host.Replaces after [name] none) :
    after.IsFlat (Function.update held name none) :=
  flat.replaced replaces nofun fun _ => rfl

omit [Platform] in
/-- Reports leave what the names hold. -/
theorem reportAll (reports : List Entry) : (host.reportAll reports).IsFlat held where
  root := by
    obtain ⟨time, root⟩ := flat.root
    exact ⟨time, (node?_reportAll (by simp [flat.noLog]) reports).trans root⟩
  noLog := (host.logFile_reportAll reports).trans flat.noLog
  file name content holds := by
    obtain ⟨time, file⟩ := flat.file name content holds
    exact ⟨time, (node?_reportAll (by simp [flat.noLog]) reports).trans file⟩
  vacant name holds :=
    (node?_reportAll (by simp [flat.noLog]) reports).trans (flat.vacant name holds)

/-- The root is there already. -/
theorem makeDirectory :
    host.perform (.makeDirectory ⟨.root, []⟩) = (.error (.system Fault.alreadyThere), host) := by
  obtain ⟨time, root⟩ := flat.root
  exact makeDirectory_root root

/-- The root is seen as a directory. -/
theorem inspect :
    ∃ time, host.perform (.inspect ⟨.root, []⟩) = (.ok ⟨.directory, time⟩, host) := by
  obtain ⟨time, root⟩ := flat.root
  exact ⟨time, inspect_root root⟩

variable (named : IsPlainName name) (short : FileSystem.isLongName name = false)
include named short

omit [Platform] in
/-- A vacant name is given to an empty file. -/
theorem createNamed (holds : held name = none) :
    ∃ after, host.createNamed ⟨.root, []⟩ name = (.ok ⟨.root, [name]⟩, after) ∧
      after.IsFlat (Function.update held name (some [])) := by
  obtain ⟨time, root⟩ := flat.root
  obtain ⟨after, made, _, replaces⟩ := createNamed_of_root root named short (flat.vacant name holds)
  exact ⟨after, made, flat.filled replaces⟩

/-- Bytes are added to what a name holds. -/
theorem append (holds : held name = some content) (more : Bytes) :
    ∃ after, host.append ⟨.root, [name]⟩ more = (.ok (), after) ∧
      after.IsFlat (Function.update held name (some (content ++ more))) := by
  obtain ⟨time, root⟩ := flat.root
  obtain ⟨changed, file⟩ := flat.file name content holds
  obtain ⟨after, appended, _, replaces⟩ := (ends_of_root root named short).append file more
  exact ⟨after, (Program.run_append ..).symm.trans appended, flat.filled replaces⟩

/-- A name that is removed holds nothing. -/
theorem remove (holds : held name = some content) :
    ∃ after, host.perform (.remove ⟨.root, [name]⟩) = (.ok (), after) ∧
      after.IsFlat (Function.update held name none) := by
  obtain ⟨time, root⟩ := flat.root
  obtain ⟨changed, file⟩ := flat.file name content holds
  obtain ⟨after, removed, gone⟩ := (ends_of_root root named short).remove file
  exact ⟨after, (Program.run_remove ..).symm.trans removed, flat.emptied gone⟩

/-- A name that is moved onto holds what was moved. -/
theorem rename (holds : held name = some content) {goal : String} (goalNamed : IsPlainName goal)
    (goalShort : FileSystem.isLongName goal = false) :
    ∃ after, host.perform (.rename ⟨.root, [name]⟩ ⟨.root, [goal]⟩) = (.ok (), after) ∧
      after.IsFlat (Function.update (Function.update held name none) goal (some content)) := by
  obtain ⟨time, root⟩ := flat.root
  obtain ⟨changed, file⟩ := flat.file name content holds
  have notDirectory (time : Int) : host.files.node? [goal] ≠ some (.directory time) := by
    cases goalHolds : held goal with
    | none => simp [flat.vacant goal goalHolds]
    | some other =>
        obtain ⟨_, there⟩ := flat.file goal other goalHolds
        simp [there]
  obtain ⟨_, after, moved, taken, put⟩ :=
    rename_of_root root named short file goalNamed goalShort notDirectory
  exact ⟨after, moved, (flat.emptied taken).filled put⟩

/-- What a name holds is read. -/
theorem read (holds : held name = some content) :
    (host.perform (.read ⟨.root, [name]⟩)).1 = .ok content := by
  obtain ⟨time, root⟩ := flat.root
  obtain ⟨changed, file⟩ := flat.file name content holds
  exact (ends_of_root root named short).read file

end IsFlat

end Host

end AnnotatedMake
