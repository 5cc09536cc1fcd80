import AnnotatedMake.Proofs.Host.Lasting
import AnnotatedMake.Proofs.Host.Reading
import AnnotatedMake.Proofs.Host.Temporary

namespace AnnotatedMake

namespace FileSystem

variable {files later : FileSystem} {place home : Location} {names : List String} {name : String}
  {node : Node} {links : Nat}

/-- No symbolic link stands anywhere. -/
def IsUnlinked (files : FileSystem) : Prop :=
  ∀ place target, files.node? place ≠ some (.link target)

/-- Whatever has a proper name stands in a directory, and nothing is a symbolic link. -/
structure IsTree (files : FileSystem) : Prop where
  unlinked : files.IsUnlinked
  inside : ∀ place name, files.node? (place ++ [name]) ≠ none →
    ∃ time, files.node? place = some (.directory time)
  plain : ∀ place name, files.node? (place ++ [name]) ≠ none →
    IsPlainName name ∧ isLongName name = false

/-- The empty system is a tree. -/
theorem isTree_empty : empty.IsTree where
  unlinked place target := by
    rw [node?_empty]
    split <;> simp
  inside place name present := by simp [node?_empty] at present
  plain place name present := by simp [node?_empty] at present

/-- A node that is no link is added under a vacant name of a directory. -/
theorem IsTree.add (tree : files.IsTree) (home : Location) (name : String) (node : Node)
    (moment : Int) (isDirectory : ∃ time, files.node? home = some (.directory time))
    (named : IsPlainName name) (short : isLongName name = false)
    (vacant : files.node? (home ++ [name]) = none) (notLink : ∀ target, node ≠ .link target) :
    (files.add home name node moment).IsTree := by
  have stays {place : Location} (before : ∃ time, files.node? place = some (.directory time)) :
      ∃ time, (files.add home name node moment).node? place = some (.directory time) := by
    obtain ⟨time, before⟩ := before
    have differs : place ≠ home ++ [name] := by
      rintro rfl
      rw [vacant] at before
      cases before
    have alike := @node?_add_of_ne files place home node moment name differs
    rw [before] at alike
    exact alike.directory
  have before {place : Location} {other : String} (differs : place ++ [other] ≠ home ++ [name])
      (present : (files.add home name node moment).node? (place ++ [other]) ≠ none) :
      files.node? (place ++ [other]) ≠ none :=
    mt (node?_add_eq_none_iff differs).2 present
  constructor
  · intro place target
    by_cases same : place = home ++ [name]
    · rw [same, node?_add_self]
      exact fun isLink => notLink target (Option.some.inj isLink)
    · exact mt (node?_add_of_ne same).link_iff.2 (tree.unlinked place target)
  · intro place other present
    by_cases same : place ++ [other] = home ++ [name]
    · obtain ⟨rfl, _⟩ := List.append_inj' same rfl
      exact stays isDirectory
    · exact stays (tree.inside place other (before same present))
  · intro place other present
    by_cases same : place ++ [other] = home ++ [name]
    · obtain rfl := last_eq_of_concat_eq same
      exact ⟨named, short⟩
    · exact tree.plain place other (before same present)

/-- The names in a directory are those under which something stands, each of them listed once. -/
theorem mem_namesIn_iff : name ∈ files.namesIn home ↔ files.node? (home ++ [name]) ≠ none := by
  refine ⟨node?_of_mem_namesIn, fun present => List.mem_filterMap.2 ⟨home ++ [name], ?_, by simp⟩⟩
  exact PlaceMap.mem_keys_iff.2 (Option.isSome_iff_ne_none.2 present)

/-- What stands in a directory is named in it. -/
theorem mem_namesIn_of_node? (present : files.node? (home ++ [name]) = some node) :
    name ∈ files.namesIn home :=
  mem_namesIn_iff.2 (by simp [present])

/-- No name is listed twice. -/
theorem nodup_namesIn (files : FileSystem) (home : Location) : (files.namesIn home).Nodup := by
  refine List.Pairwise.filterMap _ ?_ (PlaceMap.keys_nodup files.nodes)
  rintro first second differs name inFirst _ inSecond rfl
  exact differs ((eq_concat_of_named inFirst).trans (eq_concat_of_named inSecond).symm)

/-- A system that adds no link stays without links. -/
theorem IsUnlinked.of_keeps (unlinked : files.IsUnlinked) (keeps : later.Keeps files) :
    later.IsUnlinked := by
  intro place target isLink
  obtain ⟨_, before, kin⟩ := keeps place _ isLink
  cases kin
  exact unlinked place target before

/-- A tree stays one when nothing but its directories has to stay. -/
theorem IsTree.of_keeps (tree : files.IsTree) (keeps : later.Keeps files)
    (ways : files.KeepsWays later) : later.IsTree := by
  have before {place : Location} (present : later.node? place ≠ none) :
      files.node? place ≠ none := by
    obtain ⟨node, stands⟩ := Option.ne_none_iff_exists'.1 present
    obtain ⟨other, earlier, _⟩ := keeps place node stands
    simp [earlier]
  refine ⟨tree.unlinked.of_keeps keeps, fun place name present => ?_, fun place name present =>
    tree.plain place name (before present)⟩
  obtain ⟨_, above⟩ := tree.inside place name (before present)
  exact ways.directory above

/-- What is no directory holds no names. -/
theorem IsTree.namesIn_eq_nil (tree : files.IsTree)
    (notDirectory : ∀ time, files.node? home ≠ some (.directory time)) :
    files.namesIn home = [] := by
  rw [List.eq_nil_iff_forall_not_mem]
  intro name member
  obtain ⟨time, isDirectory⟩ := tree.inside home name (mem_namesIn_iff.1 member)
  exact notDirectory time isDirectory

/-- Without links a walk fails at a missing name, behind a file or at a long name. -/
theorem number_of_walk_unlinked (unlinked : files.IsUnlinked) {number : Nat}
    (failed : files.walk .target links place names = .error number) :
    number = Fault.notFound ∨ number = Fault.notDirectory ∨
      number = Fault.nameTooLong ∧ ∃ name ∈ names, isLongName name = true := by
  unfold IsUnlinked at unlinked
  fun_induction walk files .target links place names <;> grind

/-- Without links a lookup fails in three ways. -/
theorem number_of_nodeAt_unlinked (unlinked : files.IsUnlinked) {number : Nat}
    (failed : files.nodeAt place names = .error number) :
    number = Fault.notFound ∨ number = Fault.notDirectory ∨
      number = Fault.nameTooLong ∧ ∃ name ∈ names, isLongName name = true := by
  rw [nodeAt] at failed
  split at failed
  · rename_i lost
    exact Except.error.inj failed ▸ number_of_walk_unlinked unlinked lost
  · cases failed
  · exact .inl (Except.error.inj failed).symm

end FileSystem

variable [Platform]

namespace Host

variable {host : Host} {path base : Path} {place home : Location} {name : String} {node : Node}

omit [Platform] in
/-- Where no links are, what stands at a path of short names is absent or told. -/
theorem isAbsence_of_unlinked (unlinked : host.files.IsUnlinked)
    (short : ∀ part ∈ path.parts, FileSystem.isLongName part = false)
    (fits : Utf8.size path.text.toList < pathLimit) {fault : Fault}
    (failed : host.query path (.ok (.directory 0)) host.files.nodeAt = .error fault) :
    Program.isAbsence fault = true := by
  rcases query_eq_error failed with
    lost | ⟨number, rfl, ⟨_, _, along, refused⟩ | ⟨_, gone⟩⟩
  · rcases fault_of_route lost with ⟨rfl, _⟩ | ⟨_, long⟩ | rfl
    · rfl
    · exact absurd fits (Nat.not_lt.2 long)
    · rfl
  · rcases FileSystem.number_of_nodeAt_unlinked unlinked refused with
      rfl | rfl | ⟨_, part, member, long⟩
    · rfl
    · rfl
    · rw [short part (subset_of_route along member)] at long
      cases long
  · cases gone

omit [Platform] in
/-- The route of a name in a directory is that of the directory and the name, if there is room. -/
theorem route_child_of_route {start : Location} {names : List String} (named : IsPlainName name)
    (fits : Utf8.size (base.child name).text.toList < pathLimit)
    (along : host.route base = .ok (.along start names)) :
    host.route (base.child name) = .ok (.along start (names ++ [name])) := by
  have way := wayOf?_append (wayOf?_of_route along) [name]
  have clean : (base.child name).parts.any (holds (Char.ofNat 0)) = false := by
    rw [noNull_iff]
    exact Path.noNull_child (noNull_iff.1 (clean_of_route along)) named
  rw [route, if_neg (by rw [clean]; decide), if_neg (Nat.not_le.2 fits),
    Path.child_of_oneName base named.toIsOneName]
  rw [wayOf?] at way
  cases anchor : base.anchor with
  | relative =>
      rw [anchor] at way
      dsimp only at way ⊢
      split at way
      · rename_i found
        obtain ⟨rfl, rfl⟩ := Prod.mk.inj (Option.some.inj way)
        exact found
      · cases way
  | root | doubleRoot =>
      rw [anchor] at way
      obtain ⟨rfl, same⟩ := Prod.mk.inj (Option.some.inj way)
      exact congrArg (fun parts => Except.ok (Route.along [] parts)) same

omit [Platform] in
/-- A path ends with the name of what stands in the directory at its place. -/
theorem ends_child (tree : host.files.IsTree) (stands : host.placeOf? .target base = some home)
    (present : host.files.node? (home ++ [name]) ≠ none)
    (fits : Utf8.size (base.child name).text.toList < pathLimit) :
    host.Ends (base.child name) home name := by
  obtain ⟨named, short⟩ := tree.plain home name present
  obtain ⟨start, names, left, _, along, passes, _⟩ := placeOf?_target_iff.1 stands
  refine ⟨named.toIsEntryName, short, start, names, route_child_of_route named fits along, ?_⟩
  exact FileSystem.enter_eq_ok_iff.2 ⟨⟨left, passes.pass_eq⟩, tree.inside home name present⟩

omit [Platform] in
/-- What a name in a directory leads to stands under that name in the place of the directory. -/
theorem placeOf?_child (unlinked : host.files.IsUnlinked) (one : IsOneName name)
    (stands : host.placeOf? .target (base.child name) = some place) :
    ∃ home, host.placeOf? .target base = some home ∧ place = home ++ [name] := by
  obtain ⟨start, names, left, _, along, passes, _⟩ := placeOf?_target_iff.1 stands
  rw [Path.child_of_oneName base one] at along
  obtain ⟨front, rfl, above⟩ := route_of_concat one.toIsEntryName along
  obtain ⟨between, middle, before, onward⟩ := passes.of_append
  have leads {time : Int} (isDirectory : host.files.node? middle = some (.directory time)) :
      host.placeOf? .target base = some middle :=
    placeOf?_target_iff.2 ⟨start, front, between, _, above, before, isDirectory⟩
  cases onward with
  | stay _ here => exact absurd here (by rw [one.notHere]; decide)
  | up => exact absurd rfl one.notUp
  | link _ _ _ isLink => exact absurd isLink (unlinked _ _)
  | into isDirectory _ _ _ _ further =>
      cases further
      exact ⟨middle, leads isDirectory, rfl⟩

omit [Platform] in
/-- Without links no path is a link. -/
theorem linkAt_eq_none (unlinked : host.files.IsUnlinked) (path : Path) :
    host.linkAt path = none := by
  rw [linkAt]
  split
  · rename_i found
    rcases query_eq_ok found with ⟨_, _, _, walked⟩ | ⟨_, gone⟩
    · exact absurd (FileSystem.node?_of_walk walked) (unlinked _ _)
    · cases gone
  · rfl

omit [Platform] in
/-- Names are followed to a path with the same start where no links are. -/
theorem follow_of_unlinked {linkAt : Path → Option String} (none : ∀ path, linkAt path = none)
    (depth : Nat) (path : Path) (known : Resolution.Known) (names : List String) :
    ∃ goal, (Resolution.follow linkAt depth path known names).1 = .reached goal ∧
      goal.anchor = path.anchor := by
  induction names generalizing path with
  | nil =>
      rw [Resolution.follow]
      exact ⟨path, rfl, rfl⟩
  | cons name rest ih =>
      by_cases here : (name = "" || name = ".") = true
      · rw [Resolution.follow, if_pos here]
        exact ih path
      · by_cases up : name = ".."
        · rw [Resolution.follow, if_neg here, if_pos up]
          exact ih (Resolution.up path)
        · rw [Resolution.follow_below (Resolution.isEntryName_of_followed here up) (none _)]
          exact ih (Resolution.below path name)

omit [Platform] in
/-- Where no links are, none are in a circle. -/
theorem circles_of_unlinked (unlinked : host.files.IsUnlinked) (path : Path) :
    host.circles path = false := by
  rw [circles_eq_false_iff]
  intro failed
  rcases query_eq_error failed with lost | ⟨_, same, ⟨_, _, _, refused⟩ | ⟨_, gone⟩⟩
  · rcases fault_of_route lost with ⟨same, _⟩ | ⟨same, _⟩ | same <;> cases same
  · obtain rfl := Fault.system.inj same
    rcases FileSystem.number_of_nodeAt_unlinked unlinked refused with
      same | same | ⟨same, _⟩ <;> cases same
  · obtain rfl := Fault.system.inj same
    cases gone

omit [Platform] in
/-- A path is made absolute where the working directory is. -/
theorem absolute_eq_ok (starts : path.anchor ≠ .relative ∨ host.directory.gone = 0) :
    ∃ plain, host.absolute path = .ok plain := by
  rw [absolute, currentDirectory]
  split
  · rename_i relative
    rw [if_pos (starts.resolve_left fun rooted => rooted relative)]
    exact ⟨_, rfl⟩
  · exact ⟨_, rfl⟩

/-- Where no links are, a path is resolved unless it starts from a directory that was removed. -/
theorem resolve_of_unlinked (unlinked : host.files.IsUnlinked)
    (clean : path.parts.any (holds (Char.ofNat 0)) = false)
    (starts : path.anchor ≠ .relative ∨ host.directory.gone = 0)
    (encodes : host.resolve path ≠ .error .notEncoded) :
    ∃ resolved, host.resolve path = .ok resolved := by
  obtain ⟨goal, reached, anchor⟩ := follow_of_unlinked (host.linkAt_eq_none unlinked)
    Resolution.openLinks (if path.anchor = .relative then .here else ⟨.root, []⟩) .empty path.parts
  have target : Resolution.target host.linkAt path = .ok goal := by
    rw [Resolution.target]
    simp only [reached]
  have goalStarts : goal.anchor ≠ .relative ∨ host.directory.gone = 0 := by
    refine starts.imp_left fun rooted => ?_
    rw [anchor, if_neg rooted]
    decide
  obtain ⟨plain, isPlain⟩ := absolute_eq_ok goalStarts
  have resolved : host.resolve path = encoded plain := by
    rw [resolve, if_neg (by rw [clean]; decide), target]
    simp only [bind, Except.bind, isPlain, circles_of_unlinked unlinked plain]
    rfl
  rw [resolved] at encodes ⊢
  cases kept : encoded plain with
  | error fault => exact absurd (fault_of_encoded kept ▸ kept) encodes
  | ok path => exact ⟨path, rfl⟩

end Host

namespace Program

variable {host : Host} {path : Path}

/-- A path at which something stands or nothing is found is asked about without a fault. -/
theorem run_isDirectory_of_absence (absence : ∀ fault,
      host.query path (.ok (.directory 0)) host.files.nodeAt = .error fault →
      isAbsence fault = true) :
    (isDirectory path).run host =
      (.ok ((host.nodeOf? path).any fun node => (Host.statusOf node).standing = .directory),
        host) := by
  rw [isDirectory, bind_eq_bind, run_bind, Host.nodeOf?]
  cases asked : host.query path (.ok (.directory 0)) host.files.nodeAt with
  | ok node =>
      rw [run_statusOf?_of_ok asked]
      rfl
  | error fault =>
      rw [run_statusOf?_of_error asked, if_pos (absence fault asked)]
      rfl

end Program

end AnnotatedMake
