import AnnotatedMake.Proofs.Host.Lasting

namespace AnnotatedMake

/-- No link and no name of the current directory keeps a path from being plain. -/
structure Host.HasPlainNames (host : Host) : Prop where
  current : ∀ name ∈ host.directory.place, IsPlainName name
  links : ∀ place target, host.files.node? place = some (.link target) →
    Char.ofNat 0 ∉ target.toList

namespace Path

theorem noNull_intercalate {parts : List String}
    (noNull : ∀ part ∈ parts, Char.ofNat 0 ∉ part.toList) :
    Char.ofNat 0 ∉ ("/".intercalate parts).toList := by
  rw [String.toList_intercalate]
  induction parts with
  | nil => simp
  | cons first rest ih =>
      obtain ⟨inFirst, others⟩ := List.forall_mem_cons.1 noNull
      cases rest with
      | nil => simpa using inFirst
      | cons next rest =>
          rw [List.map_cons, List.map_cons, List.intercalate_cons_cons, List.mem_append,
            List.mem_append, not_or, not_or]
          exact ⟨⟨inFirst, by decide⟩, ih others⟩

theorem IsPlain.noNull_text {path : Path} (plain : path.IsPlain) :
    Char.ofNat 0 ∉ path.text.toList := by
  rw [text]
  split
  · decide
  · rw [String.toList_append, List.mem_append, not_or]
    refine ⟨?_, noNull_intercalate plain.noNull⟩
    cases path.anchor <;> decide

theorem isProper_append {anchor : Anchor} {front back : List String}
    (first : IsProper ⟨anchor, front⟩) (second : IsProper ⟨anchor, back⟩) :
    IsProper ⟨anchor, front ++ back⟩ where
  noSlash := List.forall_mem_append.2 ⟨first.noSlash, second.noSlash⟩
  noNull := List.forall_mem_append.2 ⟨first.noNull, second.noNull⟩
  notHere := List.forall_mem_append.2 ⟨first.notHere, second.notHere⟩

theorem isProper_single (anchor : Anchor) {name : String} (noSlash : '/' ∉ name.toList)
    (noNull : Char.ofNat 0 ∉ name.toList) (notHere : FileSystem.isHere name = false) :
    IsProper ⟨anchor, [name]⟩ :=
  ⟨⟨by simpa using noSlash, by simpa using noNull⟩, by simpa using notHere⟩

theorem isProper_dots (anchor : Anchor) : IsProper ⟨anchor, [".."]⟩ :=
  isProper_single anchor (by decide) (by decide) (by decide)

/-- A path stays proper when its dots are dropped. -/
theorem isProper_collapseFrom {anchor : Anchor} {kept parts : List String}
    (before : IsProper ⟨anchor, kept⟩) (further : IsProper ⟨anchor, parts⟩) :
    IsProper ⟨anchor, collapseFrom anchor kept parts⟩ := by
  have all := isProper_append (isProper_append before further) (isProper_dots anchor)
  have subset : collapseFrom anchor kept parts ⊆ kept ++ parts ++ [".."] := by
    intro part member
    simpa [or_assoc] using mem_collapseFrom member
  exact ⟨⟨fun part member => all.noSlash part (subset member),
    fun part member => all.noNull part (subset member)⟩,
    fun part member => all.notHere part (subset member)⟩

end Path

variable [Platform]

namespace Resolution

variable {path : Path} {name : String}

omit [Platform] in
theorem isProper_up (proper : path.IsProper) : (up path).IsProper :=
  Path.isProper_collapseFrom proper (Path.isProper_dots path.anchor)

omit [Platform] in
theorem isProper_below (proper : path.IsProper) (noSlash : '/' ∉ name.toList)
    (noNull : Char.ofNat 0 ∉ name.toList) (notHere : FileSystem.isHere name = false) :
    (below path name).IsProper :=
  Path.isProper_append proper (Path.isProper_single path.anchor noSlash noNull notHere)

omit [Platform] in
theorem noNull_continued {text : String} {left : List String}
    (noNull : Char.ofNat 0 ∉ text.toList) (clean : ∀ name ∈ left, Char.ofNat 0 ∉ name.toList) :
    Char.ofNat 0 ∉ (continued text left).toList := by
  have rest := Path.noNull_intercalate clean
  rw [continued]
  split
  · exact rest
  · split <;> simpa [noNull] using rest

omit [Platform] in
/-- The names in the target of a link lie between its slashes. -/
theorem clean_piecesOf {target : String} (noNull : Char.ofNat 0 ∉ target.toList) :
    ∀ name ∈ piecesOf '/' target, '/' ∉ name.toList ∧ Char.ofNat 0 ∉ name.toList := by
  intro name member
  obtain ⟨piece, cut, rfl⟩ := List.mem_map.1 member
  rw [String.toList_ofList]
  exact ⟨fun inside => (Text.mem_of_mem_pieces cut inside).2 rfl,
    fun inside => noNull (Text.mem_of_mem_pieces cut inside).1⟩

omit [Platform] in
/-- Names without null characters that lie between slashes are followed to a proper path. -/
theorem carries_isProper {linkAt : Path → Option String}
    (links : ∀ path target, linkAt path = some target → Char.ofNat 0 ∉ target.toList) :
    Carries linkAt (fun path => path.IsProper ∧ path.anchor ≠ .doubleRoot)
      (fun name => '/' ∉ name.toList ∧ Char.ofNat 0 ∉ name.toList)
      fun text => Char.ofNat 0 ∉ text.toList where
  root := ⟨Path.isProper_root .root, by decide⟩
  above _ here := ⟨isProper_up here.1, here.2⟩
  further _ _ here clean entry _ := ⟨isProper_below here.1 clean.1 clean.2 entry.notHere, here.2⟩
  pieces path target isLink := clean_piecesOf (links path target isLink)
  circle _ _ _ here clean entry others :=
    noNull_continued (isProper_below here.1 clean.1 clean.2 entry.notHere).noNull_text
      fun other member => (others other member).2
  onward _ _ noNull others := noNull_continued noNull fun other member => (others other member).2

omit [Platform] in
theorem isProper_start (anchor : Anchor) :
    (if anchor = .relative then .here else ⟨.root, []⟩ : Path).IsProper ∧
      (if anchor = .relative then .here else ⟨.root, []⟩ : Path).anchor ≠ .doubleRoot := by
  split
  · exact ⟨Path.isProper_root .relative, by decide⟩
  · exact ⟨Path.isProper_root .root, by decide⟩

/-- Where links hold no null characters, the target of a plain path is proper. -/
theorem isProper_target {linkAt : Path → Option String}
    (links : ∀ path target, linkAt path = some target → Char.ofNat 0 ∉ target.toList)
    (plain : path.IsPlain) {goal : Path} (found : target linkAt path = .ok goal) :
    goal.IsProper := by
  obtain ⟨keeps, -⟩ := (carries_isProper links).follow openLinks _ .empty path.parts
    (isProper_start path.anchor) (leads_empty _)
    fun name member => ⟨plain.noSlash name member, plain.noNull name member⟩
  rw [target] at found
  split at found
  · rename_i isReached
    obtain rfl := Except.ok.inj found
    cases isReached ▸ keeps with
    | reached here => exact here.1
  · rename_i isCircle
    obtain rfl := Except.ok.inj found
    cases isCircle ▸ keeps with
    | circle noNull => exact Path.isProper_ofString noNull
  · cases found

end Resolution

namespace Host

open Resolution

variable {host : Host} {path plain : Path} {place : Location}

omit [Platform] in
theorem HasPlainNames.noDots (names : host.HasPlainNames) : host.HasNoDots :=
  fun member => (names.current _ member).notUp rfl

omit [Platform] in
theorem HasPlainNames.linkAt (names : host.HasPlainNames) (path : Path) (target : String)
    (isLink : host.linkAt path = some target) : Char.ofNat 0 ∉ target.toList := by
  rw [Host.linkAt] at isLink
  split at isLink
  · rename_i place _ found
    obtain rfl := Option.some.inj isLink
    rcases query_eq_ok found with ⟨start, names', _, walked⟩ | ⟨_, gone⟩
    · exact names.links place _ (FileSystem.node?_of_walk walked)
    · cases gone
  · cases isLink

omit [Platform] in
theorem HasPlainNames.linkOf (names : host.HasPlainNames) (path : Path) (target : String)
    (isLink : host.linkOf path = some target) : Char.ofNat 0 ∉ target.toList := by
  rw [Host.linkOf] at isLink
  split at isLink
  · rename_i other found
    obtain rfl := Option.some.inj isLink
    exact names.links _ _ found
  · cases isLink

omit [Platform] in
/-- The absolute form of a proper path is proper. -/
theorem isProper_absolute (names : host.HasPlainNames) (proper : path.IsProper)
    (found : host.absolute path = .ok plain) : plain.IsProper := by
  have current : Path.IsProper ⟨.root, host.directory.place⟩ :=
    ⟨⟨fun name member => (names.current name member).noSlash,
      fun name member => (names.current name member).noNull⟩,
      fun name member => (names.current name member).notHere⟩
  rw [absolute] at found
  split at found
  · rename_i relative
    rw [currentDirectory] at found
    split at found
    · obtain rfl := Except.ok.inj found
      have joined : ((pathTo host.directory.place).join path).IsProper := by
        rw [Path.join, relative]
        exact Path.isProper_append current ⟨⟨proper.noSlash, proper.noNull⟩, proper.notHere⟩
      exact Path.isProper_collapseFrom (Path.isProper_root _) joined
    · cases found
  · obtain rfl := Except.ok.inj found
    exact Path.isProper_collapseFrom (Path.isProper_root _) proper

omit [Platform] in
theorem anchor_of_absolute (one : path.anchor ≠ .doubleRoot)
    (found : host.absolute path = .ok plain) : plain.anchor = .root := by
  rw [absolute] at found
  split at found
  · rename_i relative
    rw [currentDirectory] at found
    split at found
    · obtain rfl := Except.ok.inj found
      simp [Path.join, relative, pathTo, Path.collapsed]
    · cases found
  · rename_i rooted
    obtain rfl := Except.ok.inj found
    cases anchor : path.anchor with
    | relative => exact absurd anchor rooted
    | root => exact anchor
    | doubleRoot => exact absurd anchor one

/-- What a path is resolved to is proper, so that its text tells it from every other. -/
theorem isProper_resolve (names : host.HasPlainNames)
    (noSlash : ∀ part ∈ path.parts, '/' ∉ part.toList)
    (resolved : host.resolve path = .ok plain) : plain.IsProper := by
  obtain ⟨clean, goal, isTarget, absolute⟩ := absolute_of_resolve resolved
  have goalProper := isProper_target names.linkAt ⟨noSlash, noNull_iff.1 clean⟩ isTarget
  exact isProper_absolute names goalProper absolute

/-- A path that leads to a place is resolved to the path of that place. -/
theorem resolve_eq_pathTo (names : host.HasPlainNames)
    (noSlash : ∀ part ∈ path.parts, '/' ∉ part.toList)
    (met : Resolution.target host.linkAt path = Resolution.target host.linkOf path)
    (stands : host.placeOf? .target path = some place)
    (resolved : host.resolve path = .ok plain) : plain = pathTo place := by
  have parts := parts_of_resolve names.noDots met stands resolved
  obtain ⟨goal, after, followed, -, -⟩ := follow_of_placeOf? names.noDots stands
  obtain ⟨clean, other, isTarget, absolute⟩ := absolute_of_resolve resolved
  have isGoal : Resolution.target host.linkOf path = .ok goal := by
    rw [Resolution.target]
    simp only [followed]
  obtain rfl := Except.ok.inj (isTarget.symm.trans (met.trans isGoal))
  have keeps := ((carries_isProper names.linkOf).follow openLinks _ .empty path.parts
    (isProper_start path.anchor) (leads_empty _) fun name member =>
      ⟨noSlash name member, noNull_iff.1 clean name member⟩).1
  rw [followed] at keeps
  cases keeps with
  | reached here =>
      have anchor := anchor_of_absolute here.2 absolute
      obtain ⟨plainAnchor, plainParts⟩ := plain
      rw [pathTo, ← parts, ← anchor]

end Host

end AnnotatedMake
