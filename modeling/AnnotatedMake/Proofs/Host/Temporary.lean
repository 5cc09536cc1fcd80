import AnnotatedMake.Proofs.Host.Effect
import AnnotatedMake.Proofs.IndexCache.Name

namespace AnnotatedMake

namespace Host

variable {host after : Host} {path : Path} {directory : Location} {name : String}
  {content : Bytes} {time : Int}

/-- A path ends with a name in a directory that can be entered. -/
structure Ends (host : Host) (path : Path) (directory : Location) (name : String) : Prop where
  entry : IsEntryName name
  short : FileSystem.isLongName name = false
  along : ∃ start names, host.route path = .ok (.along start (names ++ [name])) ∧
    host.files.enter start names = .ok directory

/-- A name ends where it did while the ways are kept. -/
theorem Ends.of_ways (ends : host.Ends path directory name)
    (same : after.directory = host.directory) (ways : host.files.KeepsWays after.files) :
    after.Ends path directory name := by
  obtain ⟨start, names, along, entered⟩ := ends.along
  refine ⟨ends.entry, ends.short, start, names, ?_, FileSystem.enter_of_ways ways entered⟩
  rw [route_congr same, along]

/-- A path of few bytes below the root is routed by its names. -/
theorem route_of_short (host : Host) {names : List String}
    (clean : names.any (holds (Char.ofNat 0)) = false)
    (fits : Utf8.size (Path.text ⟨.root, names⟩).toList < pathLimit) :
    host.route ⟨.root, names⟩ = .ok (.along [] names) := by
  rw [route, if_neg (by rw [clean]; decide), if_neg (Nat.not_le.2 fits)]

/-- A name at the end of a path is routed where a name of its size fits. -/
theorem route_concat_of_size (host : Host) (parts : List String) {name other : String}
    (clean : parts.any (holds (Char.ofNat 0)) = false) (noNull : Char.ofNat 0 ∉ name.toList)
    (same : Utf8.size name.toList = Utf8.size other.toList)
    (fits : Utf8.size (Path.text ⟨.root, parts ++ [other]⟩).toList < pathLimit) :
    host.route ⟨.root, parts ++ [name]⟩ = .ok (.along [] (parts ++ [name])) := by
  refine host.route_of_short ?_ (by rwa [Path.size_text_of_size .root parts same])
  rw [List.any_append, clean]
  simpa [holds] using noNull

/-- A plain name below the root is routed by itself. -/
theorem route_of_root (host : Host) (named : IsPlainName name)
    (short : FileSystem.isLongName name = false) :
    host.route ⟨.root, [name]⟩ = .ok (.along [] [name]) := by
  have size : Utf8.size (Path.text ⟨.root, [] ++ [name]⟩).toList = 1 + Utf8.size name.toList := by
    rw [Path.text_concat, if_pos rfl]
    simp [Path.anchorText, Utf8.size, Utf8.encode, Utf8.encodeCharacter, Nat.add_comm]
  rw [List.nil_append] at size
  rw [FileSystem.isLongName, decide_eq_false_iff_not, Nat.not_lt, FileSystem.nameLimit] at short
  have fits : Utf8.size (Path.text ⟨.root, [name]⟩).toList < pathLimit := by
    rw [size, pathLimit]
    omega
  exact host.route_of_short (by simpa [holds] using named.noNull) fits

/-- A name in the root directory ends a path on its own. -/
theorem ends_of_root (root : host.files.node? [] = some (.directory time))
    (named : IsPlainName name) (short : FileSystem.isLongName name = false) :
    host.Ends ⟨.root, [name]⟩ [] name where
  entry := named.toIsEntryName
  short := short
  along := ⟨[], [], host.route_of_root named short, FileSystem.enter_eq_ok_iff.2
    ⟨⟨_, (FileSystem.Passes.done _ _).pass_eq⟩, time, root⟩⟩

/-- The directory of a name is where its path leads. -/
theorem Ends.leads? {base : Path} (one : IsOneName name)
    (ends : host.Ends (base.child name) directory name) : host.leads? base = some directory := by
  obtain ⟨start, names, along, entered⟩ := ends.along
  obtain ⟨_, _, way, equal⟩ := route_child one along
  obtain ⟨rfl, split⟩ := Route.along.inj equal
  obtain rfl := List.append_cancel_right split
  rw [Host.leads?, way, Option.bind_some, FileSystem.leads?_of_enter entered]

/-- A path of a file is looked up as that file, whatever for. -/
theorem Ends.query (ends : host.Ends path directory name) {α : Type} {removed : Except Nat α}
    {operation : Location → List String → Except Nat α} {result : α}
    (found : ∀ start names, (∀ purpose node, host.files.node? (directory ++ [name]) = some node →
      (∀ target, node ≠ .link target) →
        host.files.lookUp purpose start names = .ok (.found (directory ++ [name]) node)) →
      operation start names = .ok result) :
    host.query path removed operation = .ok result := by
  obtain ⟨start, names, along, entered⟩ := ends.along
  have same := found start (names ++ [name]) fun purpose node present notLink =>
    FileSystem.lookUp_concat_of_enter ends.entry ends.short entered present notLink
  rw [Host.query, along]
  dsimp only
  rw [same]

/-- A name that is no link stands in its directory. -/
theorem Ends.placeOf? (ends : host.Ends path directory name) {node : Node}
    (present : host.files.node? (directory ++ [name]) = some node)
    (notLink : ∀ target, node ≠ .link target) (purpose : Purpose) :
    host.placeOf? purpose path = some (directory ++ [name]) := by
  have found : host.query path (.error Fault.notFound) (host.files.lookUp purpose) =
      .ok (.found (directory ++ [name]) node) :=
    ends.query fun _ _ found => found purpose node present notLink
  rw [Host.placeOf?, found]

/-- What is no link has no target. -/
theorem Ends.linkAt (ends : host.Ends path directory name) {node : Node}
    (present : host.files.node? (directory ++ [name]) = some node)
    (notLink : ∀ target, node ≠ .link target) : host.linkAt path = none := by
  have found : host.query path (.error Fault.notFound) (host.files.lookUp .itself) =
      .ok (.found (directory ++ [name]) node) :=
    ends.query fun _ _ found => found .itself node present notLink
  rw [Host.linkAt, found]
  cases node with
  | link target => exact absurd rfl (notLink target)
  | directory | file | sink => rfl

/-- A file is read at the end of its path. -/
theorem Ends.read (ends : host.Ends path directory name)
    (present : host.files.node? (directory ++ [name]) = some (.file content time)) :
    host.query path (.error Fault.isDirectory) host.files.read = .ok content := by
  apply ends.query
  intro start names found
  rw [FileSystem.read, found .target _ present (by simp)]

variable [Platform]

/-- What is given to a temporary file is added to its content. -/
theorem Ends.append (ends : host.Ends path directory name)
    (present : host.files.node? (directory ++ [name]) = some (.file content time)) (more : Bytes) :
    ∃ after, (Program.append path more).run host = (.ok (), after) ∧
      after.Ends path directory name ∧
      host.Replaces after (directory ++ [name]) (some (.file (content ++ more) host.clock)) := by
  have read := ends.read present
  have written : host.query path (.error Fault.isDirectory) (fun start names =>
      host.files.write start names (fun old => old ++ more) host.clock) =
        .ok (host.files.put (directory ++ [name]) (.file (content ++ more) host.clock)) := by
    apply ends.query
    intro start names found
    rw [FileSystem.write, found .creation _ present (by simp)]
  have keeps : host.files.Keeps
      (host.files.put (directory ++ [name]) (.file (content ++ more) host.clock)) := by
    apply FileSystem.keeps_put
    intro held stands
    obtain rfl := Option.some.inj (present.symm.trans stands)
    exact .file ..
  have only := FileSystem.sameBut_put host.files (directory ++ [name])
    (.file (content ++ more) host.clock)
  have here := FileSystem.node?_put_self host.files (directory ++ [name])
    (.file (content ++ more) host.clock)
  rw [Program.run_append, Host.append, read]
  dsimp only
  rw [change, written]
  exact ⟨_, rfl, ends.of_ways rfl keeps.ways, rfl, .inl rfl, only, here⟩

/-- A file is taken out of its directory, and a log that was kept in it is kept nowhere. -/
theorem Ends.run_remove (ends : host.Ends path directory name)
    (present : host.files.node? (directory ++ [name]) = some (.file content time)) :
    (Program.remove path).run host = (.ok (), { host with
      files := host.files.takeOut (directory ++ [name]) host.clock
      clock := host.clock + 1
      logFile := if host.logFile = some (directory ++ [name]) then none else host.logFile }) := by
  have removed : host.query path (.error Fault.isDirectory) (fun start names =>
      host.files.remove start names host.clock) =
        .ok (host.files.takeOut (directory ++ [name]) host.clock) := by
    apply ends.query
    intro start names found
    rw [FileSystem.remove, found .itself _ present (by simp)]
  rw [Program.run_remove, change, removed]
  simp only [withoutLogAt, ends.placeOf? present (by simp) .itself, eq_comm (a := host.logFile)]
  split <;> rfl

/-- A temporary file can be removed, and then nothing stands in its place. -/
theorem Ends.remove (ends : host.Ends path directory name)
    (present : host.files.node? (directory ++ [name]) = some (.file content time)) :
    ∃ after, (Program.remove path).run host = (.ok (), after) ∧
      host.Replaces after (directory ++ [name]) none := by
  refine ⟨_, ends.run_remove present, rfl, ?_, FileSystem.sameBut_takeOut _ _ _,
    FileSystem.node?_takeOut_self ..⟩
  dsimp only
  split
  · exact .inr rfl
  · exact .inl rfl

/-- A temporary file is moved to its goal, or a fault of the system leaves it. -/
theorem Ends.rename (ends : host.Ends path directory name)
    (present : host.files.node? (directory ++ [name]) = some (.file content time)) {base : Path}
    (plain : base.IsPlain) {goal : String} (goalPlain : IsPlainName goal) :
    (∃ fault, (Program.rename path (base.child goal)).run host = (.error fault, host) ∧
      fault.isSystem = true) ∨
    ∃ home middle after, (Program.rename path (base.child goal)).run host = (.ok (), after) ∧
      host.leads? base = some home ∧ host.Ends (base.child goal) home goal ∧
      (∀ changed, host.files.node? (home ++ [goal]) ≠ some (.directory changed)) ∧
      (∀ node, host.files.node? (home ++ [goal]) = some node → (∀ target, node ≠ .link target) →
        after.logFile ≠ some (home ++ [goal])) ∧
      host.Replaces middle (directory ++ [name]) none ∧
      middle.Replaces after (home ++ [goal]) (some (.file content time)) := by
  obtain ⟨start, names, along, entered⟩ := ends.along
  have noNull := Path.noNull_child plain.noNull goalPlain
  rw [Program.run_rename, Host.rename, along]
  cases goalRoute : host.route (base.child goal) with
  | error fault => exact .inl ⟨fault, rfl, isSystem_of_route noNull goalRoute⟩
  | ok way =>
      obtain ⟨goalStart, goalNames, goalWay, rfl⟩ := route_child goalPlain.toIsOneName goalRoute
      dsimp only
      split
      · exact .inl ⟨_, rfl, rfl⟩
      · rename_i files moved
        obtain ⟨source, into, node, entered', enteredGoal, stands, short, notDirectory, rfl⟩ :=
          FileSystem.rename_eq_ok ends.entry.notUp goalPlain.notUp moved
        obtain rfl := Except.ok.inj (entered.symm.trans entered')
        obtain rfl := Option.some.inj (present.symm.trans stands)
        have leads : host.leads? base = some into := by
          rw [Host.leads?, goalWay]
          exact FileSystem.leads?_of_enter enteredGoal
        have goalEnds : host.Ends (base.child goal) into goal :=
          ⟨goalPlain.toIsEntryName, short, goalStart, goalNames, goalRoute, enteredGoal⟩
        have taken : host.Replaces
            { host with files := host.files.takeOut (directory ++ [name]) host.clock }
            (directory ++ [name]) none :=
          ⟨rfl, .inl rfl, FileSystem.sameBut_takeOut _ _ _, FileSystem.node?_takeOut_self ..⟩
        have put := FileSystem.sameBut_add (host.files.takeOut (directory ++ [name]) host.clock)
          into goal (.file content time) host.clock
        have here := FileSystem.node?_add_self
          (host.files.takeOut (directory ++ [name]) host.clock) into goal (.file content time)
          host.clock
        right
        rw [withoutLogAt]
        split
        · exact ⟨into, _, _, rfl, leads, goalEnds, notDirectory,
            fun _ _ _ => (Option.some_ne_none _).symm, taken, rfl, .inr rfl, put, here⟩
        · rename_i elsewhere
          refine ⟨into, _, _, rfl, leads, goalEnds, notDirectory, ?_, taken, rfl, .inl rfl, put,
            here⟩
          intro node stood notLink isLog
          exact elsewhere ((goalEnds.placeOf? stood notLink .itself).trans isLog.symm)

/-- A file is moved onto a name in a directory that can be entered, where no directory stands. -/
theorem Ends.rename_ok (ends : host.Ends path directory name) {node : Node}
    (present : host.files.node? (directory ++ [name]) = some node) {goal : Path} {home : Location}
    {new : String} (goalEnds : host.Ends goal home new)
    (notDirectory : ∀ time, host.files.node? (home ++ [new]) ≠ some (.directory time)) :
    ∃ after, (Program.rename path goal).run host = (.ok (), after) := by
  obtain ⟨start, names, along, entered⟩ := ends.along
  obtain ⟨goalStart, goalNames, goalAlong, goalEntered⟩ := goalEnds.along
  have moved : ∃ files, host.files.rename start (names ++ [name]) goalStart (goalNames ++ [new])
      host.clock = .ok files := by
    rw [FileSystem.rename, FileSystem.lastName?_concat ends.entry.notUp,
      FileSystem.lastName?_concat goalEnds.entry.notUp, List.dropLast_concat, List.dropLast_concat,
      entered, goalEntered]
    dsimp only
    rw [present, goalEnds.short]
    dsimp only
    rw [if_neg (by decide)]
    split
    · exact absurd ‹_› (notDirectory _)
    · exact ⟨_, rfl⟩
  obtain ⟨files, moved⟩ := moved
  rw [Program.run_rename, Host.rename, along, goalAlong]
  dsimp only
  rw [moved, withoutLogAt]
  split <;> exact ⟨_, rfl⟩

/-- A temporary file is made where its first name is free and not too long. -/
theorem createTemporary_ok {base : Path} {home : Location} (proper : base.IsProper)
    (rooted : base.anchor ≠ .relative) (noDots : ".." ∉ base.parts)
    (entered : host.files.enter [] base.parts = .ok home)
    (fits : Utf8.size (base.child (FileSystem.temporaryName cacheEnding 0)).text.toList < pathLimit)
    (vacant : host.files.node? (home ++ [FileSystem.temporaryName cacheEnding 0]) = none) :
    ∃ path after, (Program.createTemporary base cacheEnding).run host = (.ok path, after) := by
  have named := isPlainName_temporary 0
  have absolute : host.absolute base = .ok base := by
    rw [Host.absolute]
    split
    · exact absurd ‹_› rooted
    · rw [Path.collapsed, Path.collapseFrom_of_noDots _ _ noDots, List.nil_append]
  have along : host.route (base.child (FileSystem.temporaryName cacheEnding 0)) =
      .ok (.along [] (base.parts ++ [FileSystem.temporaryName cacheEnding 0])) := by
    have clean := Path.noNull_child proper.noNull named
    rw [route, if_neg (by simpa [holds] using clean), if_neg (Nat.not_le.2 fits),
      Path.child_of_oneName base named.toIsOneName]
    split
    · exact absurd ‹_› rooted
    · rfl
  have first : host.files.vacantName? home cacheEnding FileSystem.temporaryLimit 0 =
      some (FileSystem.temporaryName cacheEnding 0) := by
    have more : FileSystem.temporaryLimit = 9999 + 1 := rfl
    rw [more, FileSystem.vacantName?, vacant]
    rfl
  rw [Program.run_createTemporary, createTemporary, absolute]
  dsimp only
  rw [query, along]
  dsimp only
  rw [List.dropLast_concat, FileSystem.createTemporary, entered]
  dsimp only
  rw [first]
  exact ⟨_, _, rfl⟩

/-- A temporary file is not moved onto a path that ends at its start or goes up. -/
theorem Ends.rename_nameless (ends : host.Ends path directory name) {goal : Path}
    (noNull : ∀ part ∈ goal.parts, Char.ofNat 0 ∉ part.toList)
    (nameless : FileSystem.lastName? goal.parts = none) :
    ∃ fault, (Program.rename path goal).run host = (.error fault, host) ∧
      fault.isSystem = true := by
  obtain ⟨start, names, along, _⟩ := ends.along
  rw [Program.run_rename, Host.rename, along]
  cases goalRoute : host.route goal with
  | error fault => exact ⟨fault, rfl, isSystem_of_route noNull goalRoute⟩
  | ok way =>
      cases way with
      | removed => exact ⟨_, rfl, rfl⟩
      | along goalStart goalNames =>
          have none := lastName?_of_route goalRoute nameless
          dsimp only
          split
          · exact ⟨_, rfl, rfl⟩
          · rename_i files moved
            rw [FileSystem.rename] at moved
            split at moved
            · cases moved
            · cases moved
            · rw [none] at moved
              split at moved
              · rename_i last
                cases last
              · cases moved

/-- The names on the way to the current directory hold no null characters. -/
def HasPlainDirectory (host : Host) : Prop :=
  ∀ name ∈ host.directory.place, Char.ofNat 0 ∉ name.toList

omit [Platform] in
/-- An absolute path is as clean as the path and its base. -/
theorem noNull_of_absolute (plain : path.IsPlain) (current : host.HasPlainDirectory) {other : Path}
    (found : host.absolute path = .ok other) :
    ∀ part ∈ other.parts, Char.ofNat 0 ∉ part.toList := by
  have collapsed {parts : List String} (clean : ∀ part ∈ parts, Char.ofNat 0 ∉ part.toList)
      {anchor : Anchor} {part : String} (member : part ∈ Path.collapseFrom anchor [] parts) :
      Char.ofNat 0 ∉ part.toList := by
    rcases Path.mem_collapseFrom member with inNone | inParts | rfl
    · cases inNone
    · exact clean part inParts
    · decide
  rw [absolute] at found
  split at found
  · rw [currentDirectory] at found
    split at found
    · obtain rfl := Except.ok.inj found
      intro part member
      refine collapsed ?_ member
      intro name inside
      rw [pathTo, Path.join] at inside
      split at inside
      · rcases List.mem_append.1 inside with inCurrent | inPath
        · exact current name inCurrent
        · exact plain.noNull name inPath
      · exact plain.noNull name inside
    · cases found
  · obtain rfl := Except.ok.inj found
    exact fun part => collapsed plain.noNull

/-- A temporary file is made at a vacant place, and its path leads there. -/
theorem createTemporary_eq_ok {base : Path}
    (made : (Program.createTemporary base cacheEnding).run host = (.ok path, after)) :
    ∃ directory name, after.Ends path directory name ∧
      host.files.node? (directory ++ [name]) = none ∧
      host.Replaces after (directory ++ [name]) (some (.file [] host.clock)) := by
  rw [Program.run_createTemporary, createTemporary] at made
  split at made
  · cases made
  · rename_i plain _
    dsimp only at made
    split at made
    · cases made
    · rename_i name files found
      obtain ⟨paths, rfl⟩ := Prod.mk.inj made
      obtain rfl := Except.ok.inj paths
      have first := isPlainName_temporary 0
      rcases query_eq_ok found with ⟨start, names, along, created⟩ | ⟨_, gone⟩
      · obtain ⟨begin', others, _, same⟩ := route_child first.toIsOneName along
        obtain ⟨rfl, rfl⟩ := Route.along.inj same
        rw [List.dropLast_concat] at created
        obtain ⟨directory, entered, vacant, ⟨number, below, rfl⟩, rfl⟩ :=
          FileSystem.createTemporary_eq_ok created
        have last := isPlainName_temporary number
        have equal : Utf8.size (FileSystem.temporaryName cacheEnding 0).toList =
            Utf8.size (FileSystem.temporaryName cacheEnding number).toList := by
          rw [size_temporaryName cacheEnding (by decide), size_temporaryName cacheEnding below]
        have route := route_child_of_size first last equal along
        have ends : host.Ends (plain.child (FileSystem.temporaryName cacheEnding number)) directory
            (FileSystem.temporaryName cacheEnding number) :=
          ⟨last.toIsEntryName, isLongName_temporary below, _, _, route, entered⟩
        exact ⟨directory, _, ends.of_ways rfl (FileSystem.keeps_add vacant).ways, vacant, rfl,
          .inl rfl, FileSystem.sameBut_add _ _ _ _ _, FileSystem.node?_add_self ..⟩
      · cases gone

/-- A temporary file fails as the system fails. -/
theorem isSystem_of_createTemporary {base : Path} (plain : base.IsPlain)
    (current : host.HasPlainDirectory) {fault : Fault}
    (failed : (Program.createTemporary base cacheEnding).run host = (.error fault, after)) :
    fault.isSystem = true ∧ after = host := by
  rw [Program.run_createTemporary, createTemporary] at failed
  split at failed
  · rename_i unknown
    obtain ⟨same, rfl⟩ := Prod.mk.inj failed
    obtain rfl := Except.error.inj same
    refine ⟨?_, rfl⟩
    rw [absolute] at unknown
    split at unknown
    · rw [currentDirectory] at unknown
      split at unknown
      · cases unknown
      · obtain rfl := Except.error.inj unknown
        rfl
    · cases unknown
  · rename_i full isAbsolute
    dsimp only at failed
    split at failed
    · rename_i refused
      obtain ⟨same, rfl⟩ := Prod.mk.inj failed
      obtain rfl := Except.error.inj same
      refine ⟨isSystem_of_query ?_ refused, rfl⟩
      have noNull := noNull_of_absolute plain current isAbsolute
      exact Path.noNull_child noNull (isPlainName_temporary 0)
    · cases failed

end Host

end AnnotatedMake
