import AnnotatedMake.Proofs.Host.Losing
import AnnotatedMake.Proofs.IndexCache.Giving

namespace AnnotatedMake

namespace IndexCache

variable [Platform]

variable {host after : Host} {cache : IndexCache} {base source : Path} {home place : Location}
  {names : List String} {removed : List Location}

/-- Files are removed one by one: exactly the regular files among some names of a directory. -/
theorem run_removeFiles (unlinked : host.files.IsUnlinked) (once : names.Nodup)
    (ends : ∀ name ∈ names, host.Ends (base.child name) home name)
    (stands : ∀ name ∈ names, ∃ node, host.files.node? (home ++ [name]) = some node) :
    ∃ after, (removeFiles (names.map base.child)).run host =
        (.ok (host.files.filesUnder home names).length, after) ∧
      host.Loses after (host.files.filesUnder home names) := by
  induction names generalizing host with
  | nil => exact ⟨host, rfl, .refl host⟩
  | cons name rest ih =>
      obtain ⟨absent, others⟩ := List.nodup_cons.1 once
      obtain ⟨firstEnds, restEnds⟩ := List.forall_mem_cons.1 ends
      obtain ⟨⟨node, present⟩, restStands⟩ := List.forall_mem_cons.1 stands
      have notLink (target : String) : node ≠ .link target := by
        rintro rfl
        exact unlinked _ target present
      have told := Host.nodeOf?_of_placeOf? (firstEnds.placeOf? present notLink .target) present
      rw [List.map_cons, removeFiles, Program.bind_eq_bind, Program.run_bind,
        Program.run_isFile_of_nodeOf? told, ← FileSystem.isFileAt_eq_standing present notLink]
      dsimp only
      cases file : host.files.isFileAt (home ++ [name]) with
      | false =>
          rw [FileSystem.filesUnder_cons, file]
          exact ih unlinked others restEnds restStands
      | true =>
          obtain ⟨middle, taken, loses⟩ := firstEnds.loses file
          have kept (other : String) (member : other ∈ rest) :
              home ++ [other] ∉ [home ++ [name]] := by
            rw [List.mem_singleton]
            intro same
            exact absent (last_eq_of_concat_eq same ▸ member)
          have same : middle.files.filesUnder home rest = host.files.filesUnder home rest := by
            rw [FileSystem.filesUnder, FileSystem.filesUnder]
            refine List.filter_congr fun place member => ?_
            obtain ⟨other, inRest, rfl⟩ := List.mem_map.1 member
            exact loses.isFileAt_eq (kept other inRest)
          have still (other : String) (member : other ∈ rest) :
              ∃ node, middle.files.node? (home ++ [other]) = some node := by
            rcases loses.spared _ (kept other member) with same | ⟨_, _, _, _, later⟩
            · rw [same]
              exact restStands other member
            · exact ⟨_, later⟩
          obtain ⟨after, ran, further⟩ := ih (unlinked.of_keeps loses.keeps) others
            (fun other member => (restEnds other member).of_ways loses.directory loses.ways) still
          rw [same] at ran further
          rw [FileSystem.filesUnder_cons, if_pos file, if_pos rfl, Program.bind_eq_bind,
            Program.run_bind, taken]
          refine ⟨after, ?_, loses.append further⟩
          dsimp only
          rw [Program.bind_eq_bind, Program.run_bind, ran]
          rfl

/-- A cache directory with room for its names in a tree without links. -/
structure IsClearable (cache : IndexCache) (host : Host) : Prop where
  tree : host.files.IsTree
  short : ∀ part ∈ cache.directory.parts, FileSystem.isLongName part = false
  fits : Utf8.size cache.directory.text.toList < Host.pathLimit
  room : ∀ home name, host.placeOf? .target cache.directory = some home →
    host.files.node? (home ++ [name]) ≠ none → endsText cacheEnding name = true →
    Utf8.size (cache.directory.child name).text.toList < Host.pathLimit

/-- A regular file in the directory that a path leads to, under the name of a cache file. -/
def IsKeptFile (host : Host) (base : Path) (place : Location) : Prop :=
  ∃ home name, host.placeOf? .target base = some home ∧ place = home ++ [name] ∧
    endsText cacheEnding name = true ∧ host.files.isFileAt place = true

/-- The names of cache files in the directory that a path leads to. -/
def cacheNames (host : Host) (base : Path) : List String :=
  match host.placeOf? .target base with
  | some home => (host.files.namesIn home).filter (endsText cacheEnding)
  | none => []

omit [Platform] in
/-- The cache names are those with the ending in the directory. -/
theorem cacheNames_of_placeOf? (stands : host.placeOf? .target base = some home) :
    cacheNames host base = (host.files.namesIn home).filter (endsText cacheEnding) := by
  rw [cacheNames, stands]

omit [Platform] in
/-- A path that leads nowhere holds no cache names. -/
theorem cacheNames_of_nowhere (nowhere : host.placeOf? .target base = none) :
    cacheNames host base = [] := by
  rw [cacheNames, nowhere]

/-- Clearing a directory removes the files with the ending. -/
theorem run_clear_of_directory
    (found : (Program.isDirectory cache.directory).run host = (.ok true, host))
    (listed : host.query cache.directory (.ok []) host.files.list = .ok names) :
    cache.clear.run host =
      (removeFiles ((names.filter (endsText cacheEnding)).map cache.directory.child)).run host := by
  rw [clear, Program.bind_eq_bind, Program.run_bind, found]
  dsimp only
  rw [if_pos rfl, Program.bind_eq_bind, Program.run_bind, Program.run_list, listed]

/-- Clearing what is no directory removes nothing. -/
theorem run_clear_of_other
    (found : (Program.isDirectory cache.directory).run host = (.ok false, host)) :
    cache.clear.run host = (.ok 0, host) := by
  rw [clear, Program.bind_eq_bind, Program.run_bind, found]
  rfl

/-- Clearing goes through the names of cache files, and there are none where no directory is. -/
theorem IsClearable.run_clear_eq (clearable : cache.IsClearable host) :
    cache.clear.run host =
      (removeFiles ((cacheNames host cache.directory).map cache.directory.child)).run host := by
  have asked := Program.run_isDirectory_of_absence fun fault failed =>
    Host.isAbsence_of_unlinked clearable.tree.unlinked clearable.short clearable.fits failed
  cases stands : host.placeOf? .target cache.directory with
  | none =>
      rw [cacheNames_of_nowhere stands]
      cases told : host.nodeOf? cache.directory with
      | none =>
          rw [told] at asked
          exact run_clear_of_other asked
      | some node =>
          rw [told] at asked
          cases node with
          | directory time => exact run_clear_of_directory asked (Host.list_of_nowhere told stands)
          | file | link | sink => exact run_clear_of_other asked
  | some home =>
      obtain ⟨_, _, _, node, _, _, present⟩ := Host.placeOf?_target_iff.1 stands
      rw [Host.nodeOf?_of_placeOf? stands present] at asked
      rw [cacheNames_of_placeOf? stands]
      cases node with
      | directory time => exact run_clear_of_directory asked (Host.list_of_placeOf? stands present)
      | file | link | sink =>
          rw [clearable.tree.namesIn_eq_nil (by simp [present])]
          exact run_clear_of_other asked

/-- Clearing ends with the count of the cache files, which are gone then. -/
theorem IsClearable.run_clear (clearable : cache.IsClearable host) :
    ∃ removed after, cache.clear.run host = (.ok removed.length, after) ∧ removed.Nodup ∧
      (∀ place, place ∈ removed ↔ IsKeptFile host cache.directory place) ∧
      host.Loses after removed := by
  rw [clearable.run_clear_eq]
  cases stands : host.placeOf? .target cache.directory with
  | none =>
      rw [cacheNames_of_nowhere stands]
      refine ⟨[], host, rfl, List.nodup_nil, fun place => ?_, .refl host⟩
      refine iff_of_false List.not_mem_nil fun ⟨home, _, found, _⟩ => ?_
      cases stands.symm.trans found
  | some home =>
      rw [cacheNames_of_placeOf? stands]
      have once := (host.files.nodup_namesIn home).filter (endsText cacheEnding)
      have present (name : String)
          (member : name ∈ (host.files.namesIn home).filter (endsText cacheEnding)) :
          host.files.node? (home ++ [name]) ≠ none ∧ endsText cacheEnding name = true := by
        obtain ⟨inside, ending⟩ := List.mem_filter.1 member
        exact ⟨FileSystem.mem_namesIn_iff.1 inside, ending⟩
      have ends (name : String)
          (member : name ∈ (host.files.namesIn home).filter (endsText cacheEnding)) :
          host.Ends (cache.directory.child name) home name := by
        obtain ⟨there, ending⟩ := present name member
        exact Host.ends_child clearable.tree stands there
          (clearable.room home name stands there ending)
      obtain ⟨after, ran, loses⟩ := run_removeFiles clearable.tree.unlinked once ends
        fun name member => Option.ne_none_iff_exists'.1 (present name member).1
      refine ⟨_, after, ran, FileSystem.nodup_filesUnder once, fun place => ?_, loses⟩
      rw [FileSystem.mem_filesUnder_iff]
      constructor
      · rintro ⟨name, member, rfl, file⟩
        exact ⟨home, name, stands, rfl, (present name member).2, file⟩
      · rintro ⟨other, name, found, rfl, ending, file⟩
        obtain rfl := Option.some.inj (stands.symm.trans found)
        obtain ⟨content, time, there⟩ := FileSystem.isFileAt_iff.1 file
        have inside := FileSystem.mem_namesIn_of_node? there
        exact ⟨name, List.mem_filter.2 ⟨inside, ending⟩, rfl, file⟩

omit [Platform] in
/-- What can be cleared can be cleared again. -/
theorem IsClearable.of_loses (clearable : cache.IsClearable host)
    (loses : host.Loses after removed) : cache.IsClearable after where
  tree := clearable.tree.of_keeps loses.keeps loses.ways
  short := clearable.short
  fits := clearable.fits
  room home name stands present := by
    obtain ⟨node, there⟩ := Option.ne_none_iff_exists'.1 present
    obtain ⟨_, before, _⟩ := loses.keeps _ node there
    have stood := Host.placeOf?_of_keeps loses.directory.symm loses.keeps stands
    exact clearable.room home name stood (by simp [before])

omit [Platform] in
/-- Where all cache files were lost none is left. -/
theorem not_isKeptFile_of_loses (all : ∀ place, place ∈ removed ↔ IsKeptFile host base place)
    (loses : host.Loses after removed) (place : Location) : ¬ IsKeptFile after base place := by
  rintro ⟨home, name, stands, rfl, ending, file⟩
  have stood := Host.placeOf?_of_keeps loses.directory.symm loses.keeps stands
  by_cases member : home ++ [name] ∈ removed
  · rw [loses.not_isFileAt member] at file
    cases file
  · rw [loses.isFileAt_eq member] at file
    exact member ((all _).2 ⟨home, name, stood, rfl, ending, file⟩)

/-- Nothing but the system keeps the cache files in a directory from being written, and no device
stands in it. -/
structure IsUsable (cache : IndexCache) (host : Host) : Prop where
  plain : cache.directory.IsPlain
  shallow : cache.directory.parts.length < Program.levelLimit
  current : host.HasPlainDirectory
  noDevice : ∀ home name, host.placeOf? .target cache.directory = some home →
    host.files.node? (home ++ [name]) ≠ some .sink

/-- A cache that has lost files can still be used. -/
theorem IsUsable.of_loses (usable : cache.IsUsable host) (loses : host.Loses after removed) :
    cache.IsUsable after where
  plain := usable.plain
  shallow := usable.shallow
  current := by
    rw [Host.HasPlainDirectory, loses.directory]
    exact usable.current
  noDevice home name stands isSink := by
    have stood := Host.placeOf?_of_keeps loses.directory.symm loses.keeps stands
    rcases loses.stood isSink with same | ⟨_, _, _, isDirectory⟩
    · exact usable.noDevice home name stood same
    · cases isDirectory

/-- Where neither a file nor a device has the name of a cache file, none is fresh. -/
theorem hasNoFresh_of_cleared (unlinked : host.files.IsUnlinked)
    (noneLeft : ∀ place, ¬ IsKeptFile host cache.directory place)
    (noDevice : ∀ home name, host.placeOf? .target cache.directory = some home →
      host.files.node? (home ++ [name]) ≠ some .sink) (source : Path) :
    cache.HasNoFresh host source := by
  intro resolved _
  rw [Option.eq_none_iff_forall_ne_some]
  intro text fresh
  obtain ⟨_, node, _, told, _, isText⟩ := freshText?_eq_some_iff.1 fresh
  obtain ⟨place, found, present⟩ := Host.placeOf?_of_nodeOf? told (notDirectory_of_textIn? isText)
  have named := (isPlainName_nameOf cache.marker resolved).toIsOneName
  obtain ⟨home, stands, rfl⟩ := Host.placeOf?_child unlinked named found
  cases node with
  | directory time => exact notDirectory_of_textIn? isText time rfl
  | link target => exact unlinked _ target present
  | sink => exact noDevice home _ stands present
  | file content time =>
      exact noneLeft _ ⟨home, _, stands, rfl, endsText_iff.2 ⟨_, rfl⟩,
        FileSystem.isFileAt_iff.2 ⟨content, time, present⟩⟩

/-- After a clearing the index comes from the source. -/
theorem IsUsable.ensureFresh_of_cleared (usable : cache.IsUsable host)
    (unlinked : host.files.IsUnlinked)
    (noneLeft : ∀ place, ¬ IsKeptFile host cache.directory place)
    (starts : source.anchor ≠ .relative ∨ host.directory.gone = 0)
    (encodes : host.resolve source ≠ .error .notEncoded) {content : Bytes}
    (read : host.query source (.error Fault.isDirectory) host.files.read = .ok content) :
    ((cache.ensureFresh source none).run host).1 =
      .ok (.ofSource cache.marker (sourceLines content)) := by
  have free : cache.IsFree host :=
    ⟨usable.plain.noSlash, fun _ => usable.shallow, fun _ => usable.current⟩
  have missed := hasNoFresh_of_cleared unlinked noneLeft usable.noDevice source
  have clean : source.parts.any (holds (Char.ofNat 0)) = false := by
    rw [Bool.eq_false_iff]
    intro null
    rw [Host.query_of_null null] at read
    cases read
  have resolves (content : Bytes)
      (_ : host.query source (.error Fault.isDirectory) host.files.read = .ok content) :
      ∃ resolved, host.resolve source = .ok resolved :=
    Host.resolve_of_unlinked unlinked clean starts encodes
  rw [free.outcome_ensureFresh, given_eq_parsed missed usable.plain.noNull resolves, parsed, read]

omit [Platform] in
/-- Each name behind a root adds a slash and itself to the text of a path. -/
theorem size_text_replicate (name : String) (count : Nat) :
    Utf8.size (Path.text ⟨.root, List.replicate (count + 1) name⟩).toList =
      (count + 1) * (1 + Utf8.size name.toList) := by
  have slash : Utf8.size "/".toList = 1 := by decide
  induction count with
  | zero =>
      rw [List.replicate_one, ← List.nil_append [name], Path.text_concat, if_pos rfl,
        String.toList_append, Utf8.size_append, Path.anchorText, slash]
      omega
  | succ count ih =>
      have some' : List.replicate (count + 1) name ≠ [] := by simp
      have notHere : (⟨.root, List.replicate (count + 1) name⟩ : Path) ≠ .here := by
        simp [Path.here]
      rw [Path.text, if_neg notHere, String.toList_append, Utf8.size_append] at ih
      dsimp only at ih
      rw [List.replicate_succ', Path.text_concat, if_neg some', String.toList_append,
        Utf8.size_append, String.toList_append, Utf8.size_append, String.toList_append,
        Utf8.size_append, slash, Nat.succ_mul, ← ih]
      omega

/-- A path that is too long for the system ends clearing with a fault, however short its names
are. -/
theorem run_clear_of_long (noNull : ∀ part ∈ cache.directory.parts, Char.ofNat 0 ∉ part.toList)
    (long : Host.pathLimit ≤ Utf8.size cache.directory.text.toList) (host : Host) :
    cache.clear.run host = (.error (.system Fault.nameTooLong), host) := by
  have lost : host.route cache.directory = .error (.system Fault.nameTooLong) := by
    rw [Host.route, if_neg (by rw [Host.noNull_iff.2 noNull]; decide), if_pos long]
  have failed : host.query cache.directory (.ok (.directory 0)) host.files.nodeAt =
      .error (.system Fault.nameTooLong) := by
    rw [Host.query, lost]
  rw [clear, Program.bind_eq_bind, Program.run_bind, Program.isDirectory, Program.bind_eq_bind,
    Program.run_bind, Program.run_statusOf?_of_error failed]
  rfl

/-- Clearing removes the cache files of a directory, counts them and leaves everything else. -/
theorem clear_empties (clearable : cache.IsClearable host) :
    ∃ removed after, cache.clear.run host = (.ok removed.length, after) ∧ removed.Nodup ∧
      (∀ place, place ∈ removed ↔ IsKeptFile host cache.directory place) ∧
      host.Loses after removed ∧
      cache.clear.run after = (.ok 0, after) ∧
      (cache.IsUsable host → ∀ source content,
        (source.anchor ≠ .relative ∨ host.directory.gone = 0) →
        after.resolve source ≠ .error .notEncoded →
        after.query source (.error Fault.isDirectory) after.files.read = .ok content →
        ((cache.ensureFresh source none).run after).1 =
          .ok (.ofSource cache.marker (sourceLines content))) := by
  obtain ⟨removed, after, ran, once, all, loses⟩ := clearable.run_clear
  have noneLeft := not_isKeptFile_of_loses all loses
  have clearableAfter := clearable.of_loses loses
  refine ⟨removed, after, ran, once, all, loses, ?_,
    fun usable source content starts encodes read => ?_⟩
  · obtain ⟨more, last, ranAgain, _, left, lost⟩ := clearableAfter.run_clear
    have nothing : more = [] :=
      List.eq_nil_iff_forall_not_mem.2 fun place member => noneLeft place ((left place).1 member)
    rw [ranAgain, nothing, lost.still nothing]
    rfl
  · have startsAfter : source.anchor ≠ .relative ∨ after.directory.gone = 0 := by
      rwa [loses.directory]
    exact (usable.of_loses loses).ensureFresh_of_cleared clearableAfter.tree.unlinked noneLeft
      startsAfter encodes read

end IndexCache

end AnnotatedMake

namespace AnnotatedMake.IndexCache

/-- A path of two thousand and one hundred short names. -/
def longDirectory : Path := ⟨.root, List.replicate 2100 "d"⟩

theorem isProper_longDirectory : longDirectory.IsProper where
  noSlash part member := by
    rw [List.eq_of_mem_replicate member]
    decide
  noNull part member := by
    rw [List.eq_of_mem_replicate member]
    decide
  notHere part member := by
    rw [List.eq_of_mem_replicate member]
    decide

/-- Clearing fails at a path that is too long, though none of its names is and nothing stands
there. -/
theorem clear_longDirectory :
    ({} : Host).files.IsTree ∧ Path.ofString longDirectory.text = longDirectory ∧
      (∀ part ∈ longDirectory.parts, FileSystem.isLongName part = false) ∧
      ({ directory := longDirectory } : IndexCache).clear.run {} =
        (.error (.system Fault.nameTooLong), {}) := by
  refine ⟨FileSystem.isTree_empty, Path.ofString_text isProper_longDirectory, ?_, ?_⟩
  · intro part member
    rw [List.eq_of_mem_replicate member]
    decide
  · apply run_clear_of_long isProper_longDirectory.noNull
    rw [longDirectory, size_text_replicate]
    decide

/-- Files and a directory with the names of cache files, next to a Makefile in the root
directory. -/
def crowdedFiles : FileSystem :=
  (((FileSystem.empty.add [] "Makefile" (.file (bytesOf "all:\n") 1) 1).add
    [] ".a.cache" (.file [] 2) 2).add
    [] "d.cache" (.directory 3) 3).add
    ["d.cache"] "b.cache" (.file [] 4) 4

/-- The crowded directory holds three names. -/
theorem namesIn_crowdedFiles : crowdedFiles.namesIn [] = ["Makefile", ".a.cache", "d.cache"] := by
  decide

theorem isTree_crowdedFiles : crowdedFiles.IsTree := by
  have plain (name : String) (proper : FileSystem.isHere name = false ∧ name ≠ ".." ∧
      '/' ∉ name.toList ∧ Char.ofNat 0 ∉ name.toList) : IsPlainName name :=
    ⟨⟨⟨proper.1, proper.2.1⟩, proper.2.2.1⟩, proper.2.2.2⟩
  have makefile := FileSystem.isTree_empty.add [] "Makefile" (.file (bytesOf "all:\n") 1) 1
    ⟨0, by decide⟩ (plain _ (by decide)) (by decide) (by decide) (by simp)
  have cached := makefile.add [] ".a.cache" (.file [] 2) 2
    ⟨1, by decide⟩ (plain _ (by decide)) (by decide) (by decide) (by simp)
  have directory := cached.add [] "d.cache" (.directory 3) 3
    ⟨2, by decide⟩ (plain _ (by decide)) (by decide) (by decide) (by simp)
  exact directory.add ["d.cache"] "b.cache" (.file [] 4) 4
    ⟨3, by decide⟩ (plain _ (by decide)) (by decide) (by decide) (by simp)

/-- The root directory is the place of its path. -/
theorem place_of_root {host : Host} (stands : host.placeOf? .target ⟨.root, []⟩ = some home) :
    home = [] := by
  obtain ⟨start, names, left, _, along, passes, _⟩ := Host.placeOf?_target_iff.1 stands
  have root : host.wayOf? ⟨.root, []⟩ = some ([], []) := rfl
  have way := (Host.wayOf?_of_route along).symm.trans root
  obtain ⟨rfl, rfl⟩ := Prod.mk.inj (Option.some.inj way)
  cases passes
  rfl

theorem isClearable_crowded : rootCache.IsClearable { files := crowdedFiles } where
  tree := isTree_crowdedFiles
  short part member := absurd member List.not_mem_nil
  fits := by decide
  room home name stands present _ := by
    obtain rfl := place_of_root stands
    have all : ∀ name ∈ crowdedFiles.namesIn [],
        Utf8.size (rootCache.directory.child name).text.toList < Host.pathLimit := by
      rw [namesIn_crowdedFiles]
      decide
    exact all name (FileSystem.mem_namesIn_iff.2 present)

theorem isUsable_crowded : rootCache.IsUsable { files := crowdedFiles } where
  plain := ⟨fun _ member => absurd member List.not_mem_nil,
    fun _ member => absurd member List.not_mem_nil⟩
  shallow := by decide
  current _ member := absurd member List.not_mem_nil
  noDevice home name stands isSink := by
    obtain rfl := place_of_root stands
    have all : ∀ name ∈ crowdedFiles.namesIn [], crowdedFiles.node? [name] ≠ some .sink := by
      rw [namesIn_crowdedFiles]
      decide
    exact all name (FileSystem.mem_namesIn_of_node? isSink) isSink

theorem isKeptFile_crowded_iff {place : Location} :
    IsKeptFile { files := crowdedFiles } ⟨.root, []⟩ place ↔ place = [".a.cache"] := by
  constructor
  · rintro ⟨home, name, stands, rfl, ending, file⟩
    obtain rfl := place_of_root stands
    have all : ∀ name ∈ crowdedFiles.namesIn [], endsText cacheEnding name = true →
        crowdedFiles.isFileAt [name] = true → [name] = [".a.cache"] := by
      rw [namesIn_crowdedFiles]
      decide
    obtain ⟨_, _, present⟩ := FileSystem.isFileAt_iff.1 file
    exact all name (FileSystem.mem_namesIn_of_node? present) ending file
  · rintro rfl
    refine ⟨[], ".a.cache", ?_, rfl, by decide, by decide⟩
    exact Host.placeOf?_target_iff.2 ⟨[], [], _, .directory 3, by decide, .done _ _, by decide⟩

/-- Only the file with the name of a cache file is removed, and the Makefile is read anew. -/
theorem clear_empties_crowded :
    ∃ after, rootCache.clear.run { files := crowdedFiles } = (.ok 1, after) ∧
      after.files.node? [".a.cache"] = none ∧
      after.files.node? ["d.cache"] = some (.directory 4) ∧
      after.files.node? ["d.cache", "b.cache"] = some (.file [] 4) ∧
      rootCache.clear.run after = (.ok 0, after) ∧
      ((rootCache.ensureFresh rootFile none).run after).1 =
        .ok (.ofSource "##" (sourceLines (bytesOf "all:\n"))) := by
  obtain ⟨removed, after, ran, once, all, loses, again, fresh⟩ := clear_empties isClearable_crowded
  have only : removed = [[".a.cache"]] := by
    rw [← List.perm_singleton]
    refine (List.perm_ext_iff_of_nodup once (List.nodup_singleton _)).2 fun place => ?_
    rw [all, List.mem_singleton]
    exact isKeptFile_crowded_iff
  subst only
  have spared (place : Location) (below : ∀ name, place ++ [name] ≠ [".a.cache"])
      (differs : place ≠ [".a.cache"]) : after.files.node? place = crowdedFiles.node? place := by
    rcases loses.spared place (by simpa using differs) with same | ⟨⟨name, member⟩, _⟩
    · exact same
    · exact absurd (List.mem_singleton.1 member) (below name)
  have makefile : after.files.node? ["Makefile"] = some (.file (bytesOf "all:\n") 1) :=
    spared ["Makefile"] (by simp) (by decide)
  obtain ⟨_, root⟩ := loses.ways.directory (by decide : crowdedFiles.node? [] = some (.directory 3))
  have read := read_rootFile root makefile
  have encodes : after.resolve rootFile ≠ .error .notEncoded := by
    rw [resolve_rootFile root makefile]
    exact nofun
  refine ⟨after, ran, loses.gone _ (List.mem_singleton_self _), ?_, ?_, again, ?_⟩
  · exact spared ["d.cache"] (by simp) (by decide)
  · exact spared ["d.cache", "b.cache"] (by simp) (by decide)
  · exact fresh isUsable_crowded rootFile _ (.inl (by decide)) encodes read

end AnnotatedMake.IndexCache
