import AnnotatedMake.Proofs.Host.Effect

namespace AnnotatedMake

/-- What is read of a node, and the time that its status tells. -/
def Node.reading? : Node → Option (Bytes × Int)
  | .file content changed => some (content, changed)
  | .sink => some ([], 0)
  | _ => none

variable [Platform]

namespace Host

variable {host : Host} {path base : Path} {name : String} {content : Bytes}

omit [Platform] in
/-- A path that is read leads to a node with that content, and its status tells the time. -/
theorem read_eq_ok
    (read : host.query path (.error Fault.isDirectory) host.files.read = .ok content) :
    ∃ place node changed, host.placeOf? .target path = some place ∧
      host.files.node? place = some node ∧ node.reading? = some (content, changed) ∧
      host.query path (.ok (.directory 0)) host.files.nodeAt = .ok node ∧
      (statusOf node).changed = changed := by
  rcases query_eq_ok read with ⟨start, names, along, same⟩ | ⟨_, gone⟩
  · have asked {node : Node} {place : Location}
        (found : host.files.lookUp .target start names = .ok (.found place node)) :
        host.placeOf? .target path = some place ∧ host.files.node? place = some node ∧
          host.query path (.ok (.directory 0)) host.files.nodeAt = .ok node := by
      have stands := (FileSystem.walk_target_eq_found_iff.1 found).2
      refine ⟨?_, stands, ?_⟩
      · simp only [placeOf?, query, along, found]
      · simp only [query, along, FileSystem.nodeAt, found]
    rw [FileSystem.read] at same
    split at same
    · cases same
    · rename_i place old changed found
      obtain rfl := Except.ok.inj same
      obtain ⟨leads, stands, told⟩ := asked found
      exact ⟨place, _, changed, leads, stands, rfl, told, rfl⟩
    · rename_i place found
      obtain rfl := Except.ok.inj same
      obtain ⟨leads, stands, told⟩ := asked found
      exact ⟨place, _, 0, leads, stands, rfl, told, rfl⟩
    · cases same
    · cases same
  · cases gone

/-- The node that a path leads to, links followed. -/
def nodeOf? (host : Host) (path : Path) : Option Node :=
  match host.query path (.ok (.directory 0)) host.files.nodeAt with
  | .ok node => some node
  | .error _ => none

omit [Platform] in
theorem nodeOf?_eq_some {node : Node} :
    host.nodeOf? path = some node ↔
      host.query path (.ok (.directory 0)) host.files.nodeAt = .ok node := by
  rw [nodeOf?]
  split
  · rename_i found
    rw [found, Option.some.injEq, Except.ok.injEq]
  · rename_i failed
    rw [failed]
    exact iff_of_false (by simp) (by simp)

omit [Platform] in
theorem placeOf?_target_iff {place : Location} :
    host.placeOf? .target path = some place ↔
      ∃ start names left node, host.route path = .ok (.along start names) ∧
        host.files.Passes FileSystem.linkAllowance start names left place ∧
        host.files.node? place = some node := by
  rw [placeOf?]
  constructor
  · intro stands
    split at stands
    · rename_i found
      obtain rfl := Option.some.inj stands
      rcases query_eq_ok found with ⟨start, names, along, walked⟩ | ⟨_, gone⟩
      · obtain ⟨⟨left, passed⟩, present⟩ := FileSystem.walk_target_eq_found_iff.1 walked
        exact ⟨start, names, left, _, along, FileSystem.passes_of_pass passed, present⟩
      · cases gone
    · cases stands
  · rintro ⟨start, names, left, node, along, passes, present⟩
    have found : host.files.lookUp .target start names = .ok (.found place node) :=
      FileSystem.walk_target_eq_found_iff.2 ⟨⟨left, passes.pass_eq⟩, present⟩
    simp only [query, along, found]

omit [Platform] in
/-- A path leads to the node at its place. -/
theorem nodeOf?_of_placeOf? {place : Location} {node : Node}
    (stands : host.placeOf? .target path = some place)
    (present : host.files.node? place = some node) : host.nodeOf? path = some node := by
  obtain ⟨start, names, left, _, along, passes, _⟩ := placeOf?_target_iff.1 stands
  have found : host.files.lookUp .target start names = .ok (.found place node) :=
    FileSystem.walk_target_eq_found_iff.2 ⟨⟨left, passes.pass_eq⟩, present⟩
  rw [nodeOf?_eq_some]
  simp only [query, along, FileSystem.nodeAt, found]

omit [Platform] in
/-- A file that a path leads to stands at the place of the path. -/
theorem placeOf?_of_nodeOf? {node : Node} (told : host.nodeOf? path = some node)
    (notDirectory : ∀ time, node ≠ .directory time) :
    ∃ place, host.placeOf? .target path = some place ∧ host.files.node? place = some node := by
  rcases query_eq_ok (nodeOf?_eq_some.1 told) with ⟨start, names, along, looked⟩ | ⟨_, gone⟩
  · rw [FileSystem.nodeAt] at looked
    split at looked
    · cases looked
    · rename_i place _ found
      obtain rfl := Except.ok.inj looked
      obtain ⟨⟨left, passed⟩, present⟩ := FileSystem.walk_target_eq_found_iff.1 found
      exact ⟨place, placeOf?_target_iff.2
        ⟨start, names, left, _, along, FileSystem.passes_of_pass passed, present⟩, present⟩
    · cases looked
  · obtain rfl := Except.ok.inj gone
    exact absurd rfl (notDirectory 0)

omit [Platform] in
/-- The names in a directory are listed by its path. -/
theorem list_of_placeOf? {place : Location} {time : Int}
    (stands : host.placeOf? .target path = some place)
    (isDirectory : host.files.node? place = some (.directory time)) :
    host.query path (.ok []) host.files.list = .ok (host.files.namesIn place) := by
  obtain ⟨start, names, left, _, along, passes, _⟩ := placeOf?_target_iff.1 stands
  have entered : host.files.enter start names = .ok place :=
    FileSystem.enter_eq_ok_iff.2 ⟨⟨left, passes.pass_eq⟩, time, isDirectory⟩
  simp only [query, along, FileSystem.list, entered, Except.map]

omit [Platform] in
/-- A directory that has no place is one that was removed, which holds no names. -/
theorem list_of_nowhere {time : Int} (told : host.nodeOf? path = some (.directory time))
    (nowhere : host.placeOf? .target path = none) :
    host.query path (.ok []) host.files.list = .ok [] := by
  rcases query_eq_ok (nodeOf?_eq_some.1 told) with ⟨start, names, along, same⟩ | ⟨gone, _⟩
  · rw [FileSystem.nodeAt] at same
    split at same
    · cases same
    · rename_i place _ found
      have stands : host.placeOf? .target path = some place := by
        simp only [placeOf?, query, along, found]
      cases nowhere.symm.trans stands
    · cases same
  · rw [query, gone]

omit [Platform] in
/-- A path leads to its place while nodes stay. -/
theorem placeOf?_of_keeps {later : Host} {place : Location}
    (same : later.directory = host.directory) (keeps : host.files.Keeps later.files)
    (stands : host.placeOf? .target path = some place) :
    later.placeOf? .target path = some place := by
  obtain ⟨start, names, left, node, along, passes, present⟩ := placeOf?_target_iff.1 stands
  obtain ⟨other, still, _⟩ := keeps place node present
  exact placeOf?_target_iff.2
    ⟨start, names, left, other, route_congr same path ▸ along, passes.of_keeps keeps, still⟩

omit [Platform] in
/-- A path is read when what it leads to can be. -/
theorem read_eq_ok_iff :
    host.query path (.error Fault.isDirectory) host.files.read = .ok content ↔
      ∃ node changed, host.nodeOf? path = some node ∧ node.reading? = some (content, changed) := by
  constructor
  · intro read
    obtain ⟨_, node, changed, _, _, reading, told, _⟩ := read_eq_ok read
    exact ⟨node, changed, nodeOf?_eq_some.2 told, reading⟩
  · rintro ⟨node, changed, told, reading⟩
    rcases query_eq_ok (nodeOf?_eq_some.1 told) with ⟨start, names, along, same⟩ | ⟨_, gone⟩
    · rw [FileSystem.nodeAt] at same
      split at same
      · cases same
      · rename_i stands found
        obtain rfl := Except.ok.inj same
        cases stands with
        | directory | link => cases reading
        | file | sink =>
            obtain ⟨rfl, _⟩ := Prod.mk.inj (Option.some.inj reading)
            simp only [query, along, FileSystem.read, found]
      · cases same
    · obtain rfl := Except.ok.inj gone
      cases reading

omit [Platform] in
/-- What a path gives is read of the Makefile that it leads to. -/
theorem reading?_of_read {place : Location}
    (read : host.query path (.error Fault.isDirectory) host.files.read = .ok content)
    (stands : host.placeOf? .target path = some place) :
    ∃ changed, (host.files.node? place).bind Node.reading? = some (content, changed) ∧
      ∀ node, host.query path (.ok (.directory 0)) host.files.nodeAt = .ok node →
        (statusOf node).changed = changed := by
  obtain ⟨other, node, changed, leads, present, reading, told, status⟩ := read_eq_ok read
  obtain rfl := Option.some.inj (stands.symm.trans leads)
  refine ⟨changed, ?_, ?_⟩
  · rw [present]
    exact reading
  · intro asked same
    obtain rfl := Except.ok.inj (told.symm.trans same)
    exact status

omit [Platform] in
/-- What is found under a name in a directory stands there, unless a link does. -/
theorem stands_of_found (one : IsOneName name) {purpose : Purpose} {place : Location}
    {node : Node} {start : Location} {names : List String}
    (way : host.wayOf? base = some (start, names))
    (found : host.files.lookUp purpose start (names ++ [name]) = .ok (.found place node))
    (notLink : ∀ home, host.leads? base = some home → ∀ target,
      host.files.node? (home ++ [name]) ≠ some (.link target)) :
    ∃ home, host.leads? base = some home ∧ place = home ++ [name] ∧
      host.files.node? (home ++ [name]) = some node := by
  obtain ⟨home, leads, stands⟩ := FileSystem.lookUp_concat_found one.toIsEntryName found
  have sameLead : host.leads? base = some home := by
    rw [Host.leads?, way]
    exact leads
  rcases stands with ⟨rfl, present⟩ | ⟨target, isLink⟩
  · exact ⟨home, sameLead, rfl, present⟩
  · exact absurd isLink (notLink home sameLead target)

omit [Platform] in
theorem nodeAt_child (one : IsOneName name) {removed : Except Nat Node} {node : Node}
    (asked : host.query (base.child name) removed host.files.nodeAt = .ok node)
    (notLink : ∀ home, host.leads? base = some home → ∀ target,
      host.files.node? (home ++ [name]) ≠ some (.link target)) :
    ∃ home, host.leads? base = some home ∧ host.files.node? (home ++ [name]) = some node := by
  obtain ⟨start, names, way, same⟩ := query_child_eq_ok one asked
  rw [FileSystem.nodeAt] at same
  split at same
  · cases same
  · rename_i found
    obtain rfl := Except.ok.inj same
    obtain ⟨home, leads, _, present⟩ := stands_of_found one way found notLink
    exact ⟨home, leads, present⟩
  · cases same

omit [Platform] in
theorem read_child (one : IsOneName name) {removed : Except Nat Bytes}
    (read : host.query (base.child name) removed host.files.read = .ok content)
    (notLink : ∀ home, host.leads? base = some home → ∀ target,
      host.files.node? (home ++ [name]) ≠ some (.link target)) :
    ∃ home node changed, host.leads? base = some home ∧
      host.files.node? (home ++ [name]) = some node ∧
      node.reading? = some (content, changed) := by
  obtain ⟨start, names, way, same⟩ := query_child_eq_ok one read
  rw [FileSystem.read] at same
  split at same
  · cases same
  · rename_i changed found
    obtain rfl := Except.ok.inj same
    obtain ⟨home, leads, _, present⟩ := stands_of_found one way found notLink
    exact ⟨home, _, changed, leads, present, rfl⟩
  · rename_i found
    obtain rfl := Except.ok.inj same
    obtain ⟨home, leads, _, present⟩ := stands_of_found one way found notLink
    exact ⟨home, _, 0, leads, present, rfl⟩
  · cases same
  · cases same

/-- What is removed under a name in a directory stood there, unless a link does. -/
theorem remove_child (one : IsOneName name)
    (notLink : ∀ home, host.leads? base = some home → ∀ target,
      host.files.node? (home ++ [name]) ≠ some (.link target)) :
    (∃ fault, (Program.remove (base.child name)).run host = (.error fault, host)) ∨
    ∃ home after, (Program.remove (base.child name)).run host = (.ok (), after) ∧
      host.leads? base = some home ∧
      (∀ time, host.files.node? (home ++ [name]) ≠ some (.directory time)) ∧
      host.Replaces after (home ++ [name]) none := by
  rw [Program.run_remove, change]
  split
  · exact .inl ⟨_, rfl⟩
  · rename_i files removed
    obtain ⟨start, names, way, same⟩ := query_child_eq_ok one removed
    rw [FileSystem.remove] at same
    split at same
    · cases same
    · cases same
    · rename_i place node notDirectory found
      obtain rfl := Except.ok.inj same
      obtain ⟨home, leads, rfl, present⟩ := stands_of_found one way found notLink
      have noDirectory (time : Int) :
          host.files.node? (home ++ [name]) ≠ some (.directory time) := by
        rw [present]
        rintro ⟨⟩
        exact notDirectory time rfl
      have taken := FileSystem.sameBut_takeOut host.files (home ++ [name]) host.clock
      have gone := FileSystem.node?_takeOut_self host.files (home ++ [name]) host.clock
      right
      rw [withoutLogAt]
      split
      · exact ⟨_, _, rfl, leads, noDirectory, rfl, .inr rfl, taken, gone⟩
      · exact ⟨_, _, rfl, leads, noDirectory, rfl, .inl rfl, taken, gone⟩
    · cases same

end Host

namespace Program

theorem run_isFile_of_nodeOf? {host : Host} {path : Path} {node : Node}
    (told : host.nodeOf? path = some node) :
    (isFile path).run host = (.ok (decide ((Host.statusOf node).standing = .file)), host) := by
  rw [isFile, bind_eq_bind, run_bind, run_statusOf?_of_ok (Host.nodeOf?_eq_some.1 told)]
  rfl

end Program

end AnnotatedMake
