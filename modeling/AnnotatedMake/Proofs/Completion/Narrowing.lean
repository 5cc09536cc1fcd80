import AnnotatedMake.Completion.Session
import AnnotatedMake.Proofs.Candidate
import AnnotatedMake.Proofs.Expansion
import AnnotatedMake.Proofs.IndexCache.Again

namespace AnnotatedMake

variable [Platform]

namespace Session

variable {session : Session} {host after : Host} {source : Path} {index : ScopeIndex}
  {query : Query}

/-- The session under given settings, with its cache files in a directory. -/
def within (settings : Settings) (directory : Path) : Session where
  settings := settings
  cache :=
    { directory, marker := settings.text "marker" "", enabled := settings.flag "use_cache" true }

/-- A session asks for variables alone. -/
theorem run_ofSettings (settings : Settings) (host : Host) : (ofSettings settings).run host =
    ((settings.path host.environment "cache_dir").map (within settings), host) := by
  simp only [ofSettings, Settings.readPath, Program.pathOf, Program.bind_eq_bind,
    Program.pure_eq_done]
  rw [Program.run_bind, Program.run_bind, Program.environment, Program.run_call]
  simp only [Host.perform, Program.run_done, Program.run_ofReply]
  rw [Settings.path]
  cases host.environment.pathOf (settings.text "cache_dir" "") <;> rfl

/-- A session under settings keeps its cache files in the directory that they name, and opening it
changes nothing. -/
theorem eq_within_of_set {settings : Settings} {opened : Host}
    (set : (Session.ofSettings settings).run host = (.ok session, opened)) :
    ∃ directory, settings.path host.environment "cache_dir" = .ok directory ∧
      session = .within settings directory ∧ opened = host := by
  rw [run_ofSettings] at set
  obtain ⟨outcome, same⟩ := Prod.mk.inj set
  cases named : settings.path host.environment "cache_dir" with
  | error fault =>
      rw [named] at outcome
      cases outcome
  | ok directory =>
      rw [named] at outcome
      exact ⟨directory, rfl, (Except.ok.inj outcome).symm, same.symm⟩

/-- The directory that settings name is a proper path. -/
theorem proper_ofSettings {settings : Settings} {opened : Host}
    (set : (Session.ofSettings settings).run host = (.ok session, opened))
    (noNull : ∀ part ∈ session.cache.directory.parts, Char.ofNat 0 ∉ part.toList) :
    session.cache.directory.IsProper := by
  obtain ⟨directory, named, rfl, _⟩ := eq_within_of_set set
  exact Environment.isProper_of_pathOf named noNull

/-- A query on an argument is answered from the index of the cache. -/
theorem run_complete (argument : query.isOnArgument = true)
    (ran : (session.cache.ensureFresh source none).run host = (.ok index, after)) :
    ∃ entry, (session.complete query (some source)).run host =
      (.ok (candidatesIn index query), after.report entry) := by
  simp only [complete, argument, if_true, indexFor, sourceFor, orNothing, Program.bind_eq_bind,
    Program.pure_eq_done]
  rw [Program.run_bind, Program.run_bind, Program.run_done]
  dsimp only
  rw [Program.run_recover, Program.run_bind, ran]
  exact ⟨_, rfl⟩

/-- When the system keeps the cache from answering, nothing is offered. -/
theorem run_complete_of_fault (argument : query.isOnArgument = true) {fault : Fault}
    (system : fault.isSystem = true)
    (ran : (session.cache.ensureFresh source none).run host = (.error fault, after)) :
    ∃ entry, (session.complete query (some source)).run host = (.ok [], after.report entry) := by
  simp only [complete, argument, if_true, indexFor, sourceFor, orNothing, Program.bind_eq_bind,
    Program.pure_eq_done]
  rw [Program.run_bind, Program.run_bind, Program.run_done]
  dsimp only
  rw [Program.run_recover, Program.run_bind, ran]
  dsimp only
  rw [system, Bool.true_or, if_pos rfl]
  exact ⟨_, rfl⟩

end Session

/-- The query at a word of a command line, once it is typed. -/
def Query.typing (words : List String) (cursor : Nat) (word : String) : Query :=
  { words := words.set cursor word, cursor }

namespace Session

variable {words : List String} {cursor : Nat}

omit [Platform] in
/-- Behind the first word an argument is typed. -/
theorem isOnArgument_typing (argument : 1 ≤ cursor) (inside : cursor < words.length)
    (word : String) : (Query.typing words cursor word).isOnArgument = true := by
  simp only [Query.isOnArgument, Query.typing, List.length_set, Bool.and_eq_true, decide_eq_true_eq]
  exact ⟨decide_eq_true (by omega), by omega⟩

omit [Platform] in
/-- Typing on keeps the position and the target of a query. -/
theorem candidatesIn_typing (index : ScopeIndex) (inside : cursor < words.length)
    (word : String) : candidatesIn index (.typing words cursor word) =
      index.candidates (Query.typing words cursor "").target word
        (Query.typing words cursor "").position := by
  have typed : (Query.typing words cursor word).partialWord = word := by
    simp [Query.partialWord, Query.typing, inside]
  have target :
      (Query.typing words cursor word).target = (Query.typing words cursor "").target := by
    have same : (Query.typing words cursor word).position =
        (Query.typing words cursor "").position := rfl
    rw [Query.target, Query.target, same]
    cases position : (Query.typing words cursor "").position with
    | target => rfl
    | parameter =>
        have differs : cursor ≠ 1 := by
          rintro rfl
          cases position
        simp only [Query.typing, List.getElem?_set_ne differs]
  rw [candidatesIn, typed, target]
  rfl

/-- A word that is typed on offers those of the candidates that begin with it. -/
theorem complete_narrows {settings : Settings} {before opened : Host}
    (set : (Session.ofSettings settings).run before = (.ok session, opened))
    (noNull : ∀ part ∈ session.cache.directory.parts, Char.ofNat 0 ∉ part.toList)
    (noNullSource : ∀ part ∈ source.parts, Char.ofNat 0 ∉ part.toList)
    (steady : IndexCache.IsSteady host session.cache source) (argument : 1 ≤ cursor)
    (inside : cursor < words.length) (word more : String) :
    ∃ first middle last,
      (session.complete (.typing words cursor word) (some source)).run host =
        (.ok first, middle) ∧
      (session.complete (.typing words cursor (word ++ more)) (some source)).run middle =
        (.ok (first.filter (startsText (word ++ more))), last) := by
  have proper := proper_ofSettings set noNull
  have onArgument := isOnArgument_typing argument inside
  rcases steady.asked_twice proper noNullSource with
    ⟨index, after, ran, again⟩ | ⟨fault, system, ran, again⟩
  · obtain ⟨entry, completed⟩ := run_complete (onArgument word) ran
    obtain ⟨other, last, ranAgain, same⟩ := again [entry]
    obtain ⟨_, completedAgain⟩ := run_complete (onArgument (word ++ more)) ranAgain
    have narrowed : candidatesIn other (.typing words cursor (word ++ more)) =
        (candidatesIn index (.typing words cursor word)).filter (startsText (word ++ more)) := by
      rw [candidatesIn_typing _ inside, candidatesIn_typing _ inside, same,
        ScopeIndex.candidates_append]
    rw [narrowed] at completedAgain
    exact ⟨_, _, _, completed, completedAgain⟩
  · obtain ⟨entry, completed⟩ := run_complete_of_fault (onArgument word) system ran
    obtain ⟨_, completedAgain⟩ := run_complete_of_fault (onArgument (word ++ more)) system
      (again [entry])
    exact ⟨_, _, _, completed, completedAgain⟩

end Session

end AnnotatedMake

namespace AnnotatedMake.Session

open IndexCache

/-- The settings of a session that keeps its cache files in the root directory. -/
def rootSettings : Settings := { schema := Schema.standard "/" }

/-- The session under these settings. -/
def rootSession : Session := { settings := rootSettings, cache := rootCache }

/-- Standard settings with another directory have it and the other values. -/
theorem run_ofSettings_standard {host : Host} {text : String} {directory : Path}
    (named : host.environment.pathOf text = .ok directory) :
    (ofSettings { schema := Schema.standard text }).run host =
      (.ok { settings := { schema := Schema.standard text }, cache := { directory } }, host) := by
  rw [run_ofSettings, Settings.path]
  have path : host.environment.pathOf
      (({ schema := Schema.standard text } : Settings).text "cache_dir" "") = .ok directory := named
  rw [path]
  rfl

/-- The root is named by its slash. -/
theorem pathOf_root : Environment.pathOf .empty "/" = .ok ⟨.root, []⟩ := by
  have expanded : Environment.expanded .empty "/" = "/" := by
    simp [Environment.expanded, Environment.expand]
  rw [Environment.pathOf, expanded]
  decide

/-- The settings of the counterexample name the root. -/
theorem path_rootSettings : rootSettings.path .empty "cache_dir" = .ok ⟨.root, []⟩ := pathOf_root

theorem within_rootSettings : within rootSettings ⟨.root, []⟩ = rootSession := rfl

/-- The session of the counterexample caches in the root. -/
theorem run_ofSettings_root {host : Host} (empty : host.environment = .empty) :
    (ofSettings rootSettings).run host = (.ok rootSession, host) :=
  run_ofSettings_standard (empty ▸ pathOf_root)

/-- The first letter of a rule name is typed, and then the second one. -/
theorem complete_narrows_rule : ∃ first middle last,
    (rootSession.complete (.typing ["make", ""] 1 "a") (some rootFile)).run
      (rootHost (bytesOf "all:\narchive:\n") 5) = (.ok first, middle) ∧
    (rootSession.complete (.typing ["make", ""] 1 ("a" ++ "r")) (some rootFile)).run middle =
      (.ok (first.filter (startsText ("a" ++ "r"))), last) := by
  have set : (ofSettings rootSettings).run (rootHost (bytesOf "all:\narchive:\n") 5) = _ :=
    run_ofSettings_root rfl
  exact complete_narrows set (by simp [rootSession, rootCache]) (by decide)
    (isSteady_rootHost _ 5) (by decide) (by decide) "a" "r"

/-- The resolved path of a Makefile below the root directory. -/
def linkedFile : Path := ⟨.root, ["d", "Makefile"]⟩

/-- The name of its cache file. -/
def linkName : String := nameOf "##" linkedFile

/-- A path of the Makefile that goes through its cache file. -/
def linkedSource : Path := ⟨.root, [linkName, "Makefile"]⟩

/-- A host with a link to the directory of the Makefile in the place of the cache file. -/
def linkedHost : Host where
  files := ((FileSystem.empty.put ["d"] (.directory 0)).put ["d", "Makefile"]
    (.file (bytesOf "all:\n") 5)).put [linkName] (.link "d")
  clock := 6

/-- What the host with a link holds at each place. -/
theorem node?_linkedHost (place : Location) : linkedHost.files.node? place =
    if place = [linkName] then some (.link "d")
    else if place = ["d", "Makefile"] then some (.file (bytesOf "all:\n") 5)
    else if place = ["d"] then some (.directory 0)
    else if place = [] then some (.directory 0) else none := by
  rw [linkedHost, FileSystem.node?_put, FileSystem.node?_put, FileSystem.node?_put,
    FileSystem.node?_empty]

theorem node?_linkedRoot : linkedHost.files.node? [] = some (.directory 0) := by
  rw [node?_linkedHost, if_neg (by simp), if_neg (by simp), if_neg (by simp), if_pos rfl]

theorem node?_link : linkedHost.files.node? [linkName] = some (.link "d") := by
  rw [node?_linkedHost, if_pos rfl]

/-- The name of the link is not that of its target. -/
theorem linkName_ne_d : linkName ≠ "d" := nameOf_ne "##" linkedFile (by decide)

theorem node?_linkedDirectory : linkedHost.files.node? ["d"] = some (.directory 0) := by
  rw [node?_linkedHost, if_neg (by simpa using linkName_ne_d.symm), if_neg (by simp), if_pos rfl]

theorem node?_linkedFile :
    linkedHost.files.node? ["d", "Makefile"] = some (.file (bytesOf "all:\n") 5) := by
  rw [node?_linkedHost, if_neg (by simp), if_pos rfl]

theorem isPlainName_linkName : IsPlainName linkName := isPlainName_nameOf "##" linkedFile

theorem short_linkName : FileSystem.isLongName linkName = false := isLongName_nameOf "##" linkedFile

theorem isPlainName_d : IsPlainName "d" := ⟨⟨⟨by decide, by decide⟩, by decide⟩, by decide⟩

/-- The link is routed by its one name. -/
theorem route_link (host : Host) : host.route ⟨.root, [linkName]⟩ = .ok (.along [] [linkName]) :=
  host.route_of_root isPlainName_linkName short_linkName

theorem isPlainName_makefile : IsPlainName "Makefile" :=
  ⟨⟨⟨by decide, by decide⟩, by decide⟩, by decide⟩

theorem isPlainName_linkedSource : ∀ part ∈ linkedSource.parts, IsPlainName part := by
  intro part member
  rcases List.mem_cons.1 member with isLink | isLast
  · rw [isLink]
    exact isPlainName_linkName
  · rw [List.mem_singleton.1 isLast]
    exact isPlainName_makefile

theorem noNull_linkedSource : ∀ part ∈ linkedSource.parts, Char.ofNat 0 ∉ part.toList :=
  fun part member => (isPlainName_linkedSource part member).noNull

/-- The source is routed through the link. -/
theorem route_linkedSource (host : Host) :
    host.route linkedSource = .ok (.along [] [linkName, "Makefile"]) := by
  have size : Utf8.size linkedSource.text.toList = 1 + (Utf8.size linkName.toList + 9) := by
    rw [linkedSource, ← List.singleton_append, Path.text_concat, if_neg (by simp)]
    simp [Path.anchorText, Utf8.size, Utf8.encode, Utf8.encodeCharacter, Nat.add_comm]
  have fits : ¬ Host.pathLimit ≤ Utf8.size linkedSource.text.toList := by
    rw [size, linkName, size_nameOf]
    decide
  rw [Host.route, if_neg (by simpa [holds] using noNull_linkedSource), if_neg fits, linkedSource]

/-- Behind the link the Makefile is passed to without another. -/
theorem passes_linkedFile (links : Nat) :
    linkedHost.files.Passes links ["d"] ["Makefile"] links ["d", "Makefile"] :=
  .into node?_linkedDirectory isPlainName_makefile.toIsEntryName (by decide) node?_linkedFile
    (by simp) (.done _ _)

/-- What is passed in the directory is passed through the link. -/
theorem passes_link {rest : List String} {left : Nat} {place : Location}
    (further : linkedHost.files.Passes 39 ["d"] rest left place) :
    linkedHost.files.Passes 40 [] (linkName :: rest) left place := by
  have names : FileSystem.linkNames "d" = ["d"] := by decide
  refine .link node?_linkedRoot isPlainName_linkName.toIsEntryName short_linkName node?_link ?_
  rw [names]
  exact .into node?_linkedRoot isPlainName_d.toIsEntryName (by decide) node?_linkedDirectory
    (by simp) further

/-- Through the link the Makefile is found. -/
theorem placeOf?_linkedSource :
    linkedHost.placeOf? .target linkedSource = some ["d", "Makefile"] :=
  Host.placeOf?_target_iff.2 ⟨[], _, _, _, route_linkedSource linkedHost,
    passes_link (passes_linkedFile 39), node?_linkedFile⟩

/-- The Makefile is read through the link. -/
theorem read_linkedSource :
    linkedHost.query linkedSource (.error Fault.isDirectory) linkedHost.files.read =
      .ok (bytesOf "all:\n") :=
  Host.read_eq_ok_iff.2
    ⟨_, 5, Host.nodeOf?_of_placeOf? placeOf?_linkedSource node?_linkedFile, rfl⟩

/-- The link of the counterexample leads to the directory. -/
theorem linkAt_link : linkedHost.linkAt ⟨.root, [linkName]⟩ = some "d" := by
  have found : linkedHost.files.lookUp .itself [] [linkName] =
      .ok (.found [linkName] (.link "d")) :=
    (FileSystem.walk_itself_eq_found_iff isPlainName_linkName.toIsEntryName).2
      ⟨⟨_, node?_linkedRoot⟩, short_linkName, rfl, node?_link⟩
  simp only [Host.linkAt, Host.query, route_link, found]

/-- However the link and the two names behind it are told, the source leads to the Makefile. -/
theorem target_of_link {linkAt : Path → Option String}
    (link : linkAt ⟨.root, [linkName]⟩ = some "d") (directory : linkAt ⟨.root, ["d"]⟩ = none)
    (file : linkAt linkedFile = none) : Resolution.target linkAt linkedSource = .ok linkedFile := by
  have cut : piecesOf '/' "d" = ["d"] := by decide
  have start : Resolution.startOf ⟨.root, []⟩ "d" = ⟨.root, []⟩ := by decide
  have way : Resolution.below ⟨.root, []⟩ "d" = ⟨.root, ["d"]⟩ := rfl
  have last : Resolution.below ⟨.root, ["d"]⟩ "Makefile" = linkedFile := rfl
  have first : linkAt (Resolution.below ⟨.root, []⟩ linkName) = some "d" := link
  obtain ⟨depth, openLinks⟩ : ∃ depth, Resolution.openLinks = depth + 1 := ⟨985, rfl⟩
  rw [Resolution.target, if_neg (by decide), linkedSource, openLinks,
    Resolution.follow_link isPlainName_linkName.toIsEntryName first (OrderedMap.get?_empty _),
    cut, start,
    Resolution.follow_below isPlainName_d.toIsEntryName directory, way, Resolution.follow]
  dsimp only
  rw [Resolution.follow_below isPlainName_makefile.toIsEntryName file, last, Resolution.follow]

/-- The Makefile itself is no link. -/
theorem linkAt_linkedFile : linkedHost.linkAt linkedFile = none := by
  have ends : linkedHost.Ends linkedFile ["d"] "Makefile" := by
    refine ⟨isPlainName_makefile.toIsEntryName, by decide, [], ["d"], ?_,
      FileSystem.enter_eq_ok_iff.2
        ⟨⟨FileSystem.linkAllowance, ?_⟩, 0, node?_linkedDirectory⟩⟩
    · rw [Host.route, if_neg (by decide), if_neg (by decide)]
      rfl
    · exact (FileSystem.Passes.into node?_linkedRoot isPlainName_d.toIsEntryName (by decide)
        node?_linkedDirectory (by simp) (.done _ _)).pass_eq
  exact ends.linkAt node?_linkedFile (by simp)

/-- The path through the link leads to the Makefile. -/
theorem target_linkedSource :
    Resolution.target linkedHost.linkAt linkedSource = .ok linkedFile :=
  target_of_link linkAt_link
    ((Host.ends_of_root node?_linkedRoot isPlainName_d (by decide)).linkAt node?_linkedDirectory
      (by simp)) linkAt_linkedFile

/-- No link is left on the way to the Makefile. -/
theorem node?_above_linkedFile (front rest : Location) (target : String)
    (cut : ["d", "Makefile"] = front ++ rest) :
    linkedHost.files.node? front ≠ some (.link target) := by
  have shorter : front ≠ [linkName] := by
    rintro rfl
    have first : some "d" = some linkName := congrArg List.head? cut
    exact linkName_ne_d (Option.some.inj first).symm
  rw [node?_linkedHost, if_neg shorter]
  split
  · simp
  · split
    · simp
    · split <;> simp

/-- The parts of the linked file are names of entries. -/
theorem isEntryName_linkedFile : ∀ name ∈ linkedFile.parts, IsEntryName name := by
  intro name member
  have names : name = "d" ∨ name = "Makefile" := by simpa [linkedFile] using member
  rcases names with rfl | rfl
  · exact isPlainName_d.toIsEntryName
  · exact isPlainName_makefile.toIsEntryName

/-- The path through the link is resolved to the Makefile. -/
theorem resolve_linkedSource : linkedHost.resolve linkedSource = .ok linkedFile := by
  have noDots : linkedHost.HasNoDots := List.not_mem_nil
  rw [Host.resolve_eq_absolute noDots (by simpa [holds] using noNull_linkedSource)
    target_linkedSource]
  · rfl
  · exact fun _ => by decide
  · exact isEntryName_linkedFile
  · exact node?_above_linkedFile

/-- Once a file stands in the place of the link, nothing is found behind it. -/
theorem query_linkedSource {host : Host} {time changed : Int} {content : Bytes}
    (root : host.files.node? [] = some (.directory time))
    (file : host.files.node? [linkName] = some (.file content changed)) :
    host.query linkedSource (.error Fault.isDirectory) host.files.read =
      .error (.system Fault.notDirectory) := by
  have entry := isPlainName_linkName.toIsEntryName
  have walked :
      host.files.lookUp .target [] [linkName, "Makefile"] = .error Fault.notDirectory := by
    rw [FileSystem.lookUp, FileSystem.walk, root]
    simp only [entry.notHere, entry.notUp, short_linkName, List.nil_append, file]
    simp [FileSystem.walk, file]
  simp only [Host.query, route_linkedSource, FileSystem.read, walked]

/-- The link leads to a directory, which is no cache file. -/
theorem freshText?_link : freshText? linkedHost linkedSource ⟨.root, [linkName]⟩ = none := by
  have directory : linkedHost.nodeOf? ⟨.root, [linkName]⟩ = some (.directory 0) :=
    Host.nodeOf?_of_placeOf? (Host.placeOf?_target_iff.2 ⟨[], _, _, _, route_link linkedHost,
      passes_link (.done _ _), node?_linkedDirectory⟩) node?_linkedDirectory
  by_contra fresh
  obtain ⟨text, fresh⟩ := Option.ne_none_iff_exists'.1 fresh
  obtain ⟨_, _, _, told, _, isText⟩ := freshText?_eq_some_iff.1 fresh
  obtain rfl := Option.some.inj (directory.symm.trans told)
  cases isText

/-- The index of the Makefile takes the place of the link. -/
theorem replace_link (index : ScopeIndex) (earlier : List Entry) :
    ∃ after time,
      (replace index ⟨.root, [linkName]⟩).run (linkedHost.reportAll earlier) = (.ok (), after) ∧
      after.logFile = none ∧ (∃ changed, after.files.node? [] = some (.directory changed)) ∧
      after.files.node? [linkName] = some (.file (contentOf index) time) := by
  have reported (place : Location) :
      (linkedHost.reportAll earlier).files.node? place = linkedHost.files.node? place :=
    Host.node?_reportAll (Option.some_ne_none place).symm earlier
  have vacant : linkedHost.files.node? [FileSystem.temporaryName cacheEnding 0] = none := by
    have differs : linkName ≠ FileSystem.temporaryName cacheEnding 0 :=
      nameOf_ne "##" linkedFile (by decide +kernel)
    rw [node?_linkedHost, if_neg (by simpa using differs.symm), if_neg (by simp),
      if_neg (by decide +kernel), if_neg (by simp)]
  obtain ⟨after, time, writes, replaces⟩ := replace_of_root index
    ((reported []).trans node?_linkedRoot) isPlainName_linkName short_linkName
    ((reported _).trans vacant) (by rw [reported, node?_link]; simp)
  refine ⟨after, time, writes, ?_, ?_, replaces.here⟩
  · rcases replaces.logFile with same | none
    · rw [same, Host.logFile_reportAll]
      rfl
    · exact none
  · have spared := (replaces.others [] (by simp)).1
    rw [reported, node?_linkedRoot] at spared
    exact spared.directory

/-- The first time the Makefile is read through the link, and later it is not found. -/
theorem asked_linked : ∃ after,
    (rootCache.ensureFresh linkedSource none).run linkedHost =
      (.ok (.ofSource "##" (sourceLines (bytesOf "all:\n"))), after) ∧
    ∀ entry, ∃ last,
      (rootCache.ensureFresh linkedSource none).run (after.report entry) = (.ok {}, last) := by
  have below : rootCache.directory.child (nameOf rootCache.marker linkedFile) =
      ⟨.root, [linkName]⟩ := Path.child_of_oneName ⟨.root, []⟩ isPlainName_linkName.toIsOneName
  have noNull : ∀ part ∈ (⟨.root, [linkName]⟩ : Path).parts, Char.ofNat 0 ∉ part.toList := by
    simpa using isPlainName_linkName.noNull
  have served := served_ensureFresh rootCache rfl noNull read_linkedSource
  rw [run_ensureFresh_none read_linkedSource resolve_linkedSource, below]
  generalize (rootCache.ensureFresh linkedSource (some ⟨.root, [linkName]⟩)).run linkedHost = run
    at served
  cases served with
  | loaded fresh => exact absurd fresh (by rw [freshText?_link]; simp)
  | @written earlier last after _ _ ran =>
      obtain ⟨_, _, writes, noLog, ⟨_, root⟩, file⟩ := replace_link _ earlier
      obtain ⟨_, rfl⟩ := Prod.mk.inj (ran.symm.trans writes)
      refine ⟨_, rfl, fun entry => ?_⟩
      have later (place : Location) : (after.reportAll [last, entry]).files.node? place =
          after.files.node? place :=
        Host.node?_reportAll (noLog ▸ (Option.some_ne_none place).symm) _
      exact ⟨_, run_ensureFresh_unread
        (query_linkedSource ((later _).trans root) ((later _).trans file)) rfl rootCache none⟩
  | @refused earlier _ _ _ _ _ ran | @failed earlier _ _ _ _ ran =>
      obtain ⟨_, _, writes, _⟩ := replace_link _ earlier
      exact absurd (ran.symm.trans writes) (by simp)

/-- Behind a link in the place of the cache file the longer word offers nothing. -/
theorem complete_widens_link : ∃ middle last,
    (ofSettings rootSettings).run linkedHost = (.ok rootSession, linkedHost) ∧
    (rootSession.complete (.typing ["make", ""] 1 "") (some linkedSource)).run linkedHost =
      (.ok ["all"], middle) ∧
    (rootSession.complete (.typing ["make", ""] 1 ("" ++ "a")) (some linkedSource)).run middle =
      (.ok [], last) ∧
    ["all"].filter (startsText ("" ++ "a")) ≠ [] := by
  obtain ⟨after, asked, again⟩ := asked_linked
  have argument (word : String) : (Query.typing ["make", ""] 1 word).isOnArgument = true :=
    isOnArgument_typing (by decide) (by decide) word
  have completes {query : Query} {host after : Host} {index : ScopeIndex} :=
    @run_complete _ rootSession host after linkedSource index query
  obtain ⟨entry, first⟩ := completes (argument "") asked
  obtain ⟨_, askedAgain⟩ := again entry
  obtain ⟨_, second⟩ := completes (argument ("" ++ "a")) askedAgain
  have offered : candidatesIn (.ofSource "##" (sourceLines (bytesOf "all:\n")))
      (.typing ["make", ""] 1 "") = ["all"] := by decide +kernel
  rw [offered] at first
  exact ⟨_, _, run_ofSettings_root rfl, first, second, by decide⟩

/-- A cache directory behind a link, whose way goes up behind a missing name. -/
def detour : Path := ⟨.root, ["l", "n", "..", "..", "b"]⟩

/-- The settings of a session that keeps its cache files there. -/
def detourSettings : Settings := { schema := Schema.standard "/l/n/../../b" }

/-- The session under these settings. -/
def detourSession : Session := { settings := detourSettings, cache := { directory := detour } }

/-- No name of the way is empty or a single dot. -/
theorem isProper_detour : detour.IsProper := ⟨⟨by decide, by decide⟩, by decide⟩

/-- The name of the cache file. -/
def detourName : String := nameOf "##" rootFile

/-- The files before the missing directory is made. -/
def detourFiles : FileSystem :=
  (((((FileSystem.empty.put ["x"] (.directory 0)).put ["x", "y"] (.directory 0)).put ["x", "b"]
    (.directory 0)).put ["l"] (.link "x/y")).put ["Makefile"]
      (.file (bytesOf "## PARAM a: 1\n") 5)).put ["x", "b", detourName]
        (.file (bytesOf "ab|__global__|2\n") 7)

/-- What the files hold at each place. -/
theorem node?_detour (place : Location) : detourFiles.node? place =
    if place = ["x", "b", detourName] then some (.file (bytesOf "ab|__global__|2\n") 7)
    else if place = ["Makefile"] then some (.file (bytesOf "## PARAM a: 1\n") 5)
    else if place = ["l"] then some (.link "x/y")
    else if place = ["x", "b"] ∨ place = ["x", "y"] ∨ place = ["x"] ∨ place = [] then
      some (.directory 0)
    else none := by
  rw [detourFiles, FileSystem.node?_put, FileSystem.node?_put, FileSystem.node?_put,
    FileSystem.node?_put, FileSystem.node?_put, FileSystem.node?_put, FileSystem.node?_empty]
  grind

/-- The files once it is made. -/
def pavedFiles : FileSystem := detourFiles.add ["x", "y"] "n" (.directory 8) 8

/-- What stands at a place once it is made. -/
theorem node?_paved (place : Location) : pavedFiles.node? place =
    if place = ["x", "y"] ∨ place = ["x", "y", "n"] then some (.directory 8)
    else detourFiles.node? place := by
  have second : (detourFiles.put ["x", "y", "n"] (.directory 8)).node? ["x", "y"] =
      some (.directory 0) := by
    rw [FileSystem.node?_put, if_neg (by decide), node?_detour]
    simp
  have added : pavedFiles =
      (detourFiles.put ["x", "y", "n"] (.directory 8)).touch ["x", "y"] 8 := rfl
  rw [added, FileSystem.touch, second]
  dsimp only
  rw [FileSystem.node?_put, FileSystem.node?_put]
  by_cases first : place = ["x", "y"] <;> simp [first]

/-- A host whose link leads two directories down. -/
def detourHost : Host := { files := detourFiles, clock := 8 }

/-- The session of the settings caches there. -/
theorem run_ofSettings_detour :
    (ofSettings detourSettings).run detourHost = (.ok detourSession, detourHost) := by
  have expanded : Environment.expanded .empty "/l/n/../../b" = "/l/n/../../b" := by
    simp [Environment.expanded, Environment.expand]
  have named : detourHost.environment.pathOf "/l/n/../../b" = .ok detour := by
    have empty : detourHost.environment = .empty := rfl
    rw [empty, Environment.pathOf, expanded]
    decide
  exact run_ofSettings_standard named

/-- The host once the missing directory is made. -/
def pavedHost (entries : List Entry) : Host := { files := pavedFiles, clock := 9, log := entries }

/-- Where the link leads two directories down, a way behind it goes on from there. -/
theorem lookUp_behind {files : FileSystem} {time : Int}
    (root : files.node? [] = some (.directory 0)) (link : files.node? ["l"] = some (.link "x/y"))
    (first : files.node? ["x"] = some (.directory 0))
    (second : files.node? ["x", "y"] = some (.directory time)) (rest : List String) :
    files.lookUp .target [] ("l" :: rest) = files.walk .target 39 ["x", "y"] rest := by
  have names : FileSystem.linkNames "x/y" = ["x", "y"] := by decide
  have start : FileSystem.linkStart [] "x/y" = [] := by decide
  have short : ∀ name ∈ ["l", "x", "y"], FileSystem.isLongName name = false := by decide
  simp [FileSystem.lookUp, FileSystem.linkAllowance, FileSystem.walk, FileSystem.isHere, root,
    link, first, second, names, start, short]

/-- Nothing is behind the link at first. -/
theorem lookUp_detour (rest : List String) :
    detourFiles.lookUp .target [] ("l" :: "n" :: rest) =
      if rest.isEmpty then .ok (.vacant ["x", "y"] "n") else .error Fault.notFound := by
  have short : FileSystem.isLongName "n" = false := by decide
  have second : detourFiles.node? ["x", "y"] = some (.directory 0) := by simp [node?_detour]
  rw [lookUp_behind (by simp [node?_detour]) (by simp [node?_detour]) (by simp [node?_detour])
    second]
  simp [FileSystem.walk, FileSystem.isHere, node?_detour, short]

/-- The link leads to a directory. -/
theorem enter_link : detourFiles.enter [] ["l"] = .ok ["x", "y"] := by
  have second : detourFiles.node? ["x", "y"] = some (.directory 0) := by simp [node?_detour]
  rw [FileSystem.enter, lookUp_behind (by simp [node?_detour]) (by simp [node?_detour])
    (by simp [node?_detour]) second]
  simp [FileSystem.walk, node?_detour]

/-- The way then goes through the directory that was missing. -/
theorem lookUp_paved (rest : List String) : pavedFiles.lookUp .target [] ("l" :: "n" :: rest) =
    pavedFiles.walk .target 39 ["x", "y", "n"] rest := by
  have short : FileSystem.isLongName "n" = false := by decide
  have second : pavedFiles.node? ["x", "y"] = some (.directory 8) := by simp [node?_paved]
  rw [lookUp_behind (by simp [node?_paved, node?_detour]) (by simp [node?_paved, node?_detour])
    (by simp [node?_paved, node?_detour]) second]
  simp [FileSystem.walk, FileSystem.isHere, node?_paved, short]

/-- The way of the cache directory can be entered then, name by name. -/
theorem enter_paved : pavedFiles.enter [] ["l", "n", ".."] = .ok ["x", "y"] ∧
    pavedFiles.enter [] ["l", "n", "..", ".."] = .ok ["x"] ∧
    pavedFiles.enter [] ["l", "n", "..", "..", "b"] = .ok ["x", "b"] := by
  have short : FileSystem.isLongName "b" = false := by decide
  simp [FileSystem.enter, lookUp_paved, FileSystem.walk, FileSystem.isHere, node?_paved,
    node?_detour, short]

/-- The missing directory is not made before the one above it. -/
theorem run_makeDirectory_detour {host : Host} (files : host.files = detourFiles) {name : String}
    {rest : List String}
    (along : host.route ⟨.root, "l" :: "n" :: name :: rest⟩ =
      .ok (.along [] ("l" :: "n" :: name :: rest))) :
    (Program.makeDirectory ⟨.root, "l" :: "n" :: name :: rest⟩).run host =
      (.error (.system Fault.notFound), host) := by
  have missing : detourFiles.enter [] ("l" :: "n" :: name :: rest).dropLast =
      .error Fault.notFound := by
    cases rest <;> simp [FileSystem.enter, lookUp_detour]
  rw [Program.run_makeDirectory, Host.change, Host.query, along]
  simp only [files, FileSystem.makeDirectory, missing]

/-- The missing directory is made, and then the way stands. -/
theorem run_makeDirectories_detour (entries : List Entry) :
    (Program.makeDirectories detour).run { detourHost with log := entries } =
      (.ok (), pavedHost entries) := by
  have along (names : List String) (clean : names.any (holds (Char.ofNat 0)) = false)
      (fits : Utf8.size (Path.text ⟨.root, names⟩).toList < Host.pathLimit) (host : Host) :=
    host.route_of_short clean fits
  have first := along ["l", "n"] (by decide) (by decide)
  have second := along ["l", "n", ".."] (by decide) (by decide)
  have third := along ["l", "n", "..", ".."] (by decide) (by decide)
  have whole := along ["l", "n", "..", "..", "b"] (by decide) (by decide)
  obtain ⟨enterSecond, enterThird, enterWhole⟩ := enter_paved
  have enough : Program.levelLimit = 981 + 4 := rfl
  have made : (Program.makeDirectory ⟨.root, ["l", "n"]⟩).run { detourHost with log := entries } =
      (.ok (), pavedHost entries) := by
    have vacant : detourFiles.node? ["x", "y", "n"] = none := by simp [node?_detour]
    have short : FileSystem.isLongName "n" = false := by decide
    have last : FileSystem.lastName? ["l", "n"] = some "n" := by decide
    rw [Program.run_makeDirectory, Host.change, Host.query, first]
    simp only [detourHost, FileSystem.makeDirectory, List.dropLast, enter_link, last, short]
    simp only [List.cons_append, List.nil_append, vacant]
    rfl
  rw [Program.makeDirectories, enough, detour]
  refine Program.run_makeDirectoriesUp_of_missing (by decide)
    (run_makeDirectory_detour rfl (whole _)) ?_
    (Program.run_makeUnlessThere_of_enter isProper_detour (whole _) enterWhole)
  refine Program.run_makeDirectoriesUp_of_missing (by decide)
    (run_makeDirectory_detour rfl (third _)) ?_
    (Program.run_makeUnlessThere_of_enter isProper_detour.parent (third _) enterThird)
  refine Program.run_makeDirectoriesUp_of_missing (by decide)
    (run_makeDirectory_detour rfl (second _)) ?_
    (Program.run_makeUnlessThere_of_enter isProper_detour.parent.parent (second _) enterSecond)
  have last : (Program.makeDirectoriesUp (981 + 1) ⟨.root, ["l", "n"]⟩).run
      { detourHost with log := entries } = (.ok (), pavedHost entries) := by
    rw [Program.makeDirectoriesUp, Program.run_recover, made]
  exact last

/-- The way that the text of the cache directory tells leads nowhere. -/
theorem run_createTemporary_detour (entries : List Entry) :
    (Program.createTemporary detour cacheEnding).run (pavedHost entries) =
      (.error (.system Fault.notFound), pavedHost entries) := by
  have told : (pavedHost entries).absolute detour = .ok ⟨.root, ["b"]⟩ := rfl
  have named := (isPlainName_temporary 0).toIsOneName
  have likely : (⟨.root, ["b"]⟩ : Path).child (FileSystem.temporaryName cacheEnding 0) =
      ⟨.root, ["b", FileSystem.temporaryName cacheEnding 0]⟩ :=
    Path.child_of_oneName ⟨.root, ["b"]⟩ named
  have missing : pavedFiles.enter [] ["b"] = .error Fault.notFound := by
    have short : FileSystem.isLongName "b" = false := by decide
    simp [FileSystem.enter, FileSystem.lookUp, FileSystem.walk, FileSystem.isHere, node?_paved,
      node?_detour, short]
  rw [Program.run_createTemporary, Host.createTemporary, told]
  dsimp only
  have size : Utf8.size (FileSystem.temporaryName cacheEnding 0).toList =
      Utf8.size "000000000000000".toList := size_temporaryName cacheEnding (by decide)
  have along : (pavedHost entries).route ⟨.root, ["b", FileSystem.temporaryName cacheEnding 0]⟩ =
      .ok (.along [] ["b", FileSystem.temporaryName cacheEnding 0]) :=
    Host.route_concat_of_size _ ["b"] (by decide) (isPlainName_temporary 0).noNull size (by decide)
  rw [likely, Host.query, along]
  simp only [List.dropLast, pavedHost, FileSystem.createTemporary, missing]

/-- The path of the cache file. -/
theorem child_detour : detour.child detourName =
    ⟨.root, ["l", "n", "..", "..", "b", detourName]⟩ :=
  Path.child_of_oneName detour (isPlainName_nameOf "##" rootFile).toIsOneName

/-- It is routed by its names. -/
theorem route_detour (host : Host) : host.route ⟨.root, ["l", "n", "..", "..", "b", detourName]⟩ =
    .ok (.along [] ["l", "n", "..", "..", "b", detourName]) := by
  have size : Utf8.size detourName.toList =
      Utf8.size "00000000000000000000000000000000000000".toList := size_nameOf "##" rootFile
  exact host.route_concat_of_size detour.parts (by decide)
    (isPlainName_nameOf "##" rootFile).noNull size (by decide)

/-- The cache file is not written, but the missing directory is made. -/
theorem replace_detour (index : ScopeIndex) (entries : List Entry) :
    (replace index (detour.child detourName)).run (detourHost.reportAll entries) =
      (.error (.system Fault.notFound), pavedHost entries) := by
  have above : (detour.child detourName).parent = detour :=
    Path.parent_child detour (isPlainName_nameOf "##" rootFile).toIsOneName
  rw [Host.reportAll_of_unkept rfl, replace_eq_fill, above, Program.run_bind]
  have made := run_makeDirectories_detour entries
  rw [show detourHost.log ++ entries = entries from rfl, made]
  dsimp only
  rw [Program.run_bind, run_createTemporary_detour]

/-- At first the path of the cache file leads nowhere. -/
theorem freshText?_detour : freshText? detourHost rootFile (detour.child detourName) = none := by
  have missing : detourHost.nodeOf? (detour.child detourName) = none := by
    rw [child_detour, Host.nodeOf?, Host.query, route_detour]
    simp [detourHost, FileSystem.nodeAt, lookUp_detour]
  rw [freshText?, missing]
  split
  · cases ‹none = some _›
  · rfl

/-- Once the directory is made the path leads to a file with other parameters. -/
theorem freshText?_paved (entries : List Entry) :
    freshText? (pavedHost entries) rootFile (detour.child detourName) =
      some "ab|__global__|2\n" := by
  have root : pavedFiles.node? [] = some (.directory 0) := by simp [node?_paved, node?_detour]
  have makefile : pavedFiles.node? ["Makefile"] = some (.file (bytesOf "## PARAM a: 1\n") 5) := by
    simp [node?_paved, node?_detour]
  have file : pavedFiles.node? ["x", "b", detourName] =
      some (.file (bytesOf "ab|__global__|2\n") 7) := by simp [node?_paved, node?_detour]
  have looked : pavedFiles.lookUp .target [] (["l", "n", "..", "..", "b"] ++ [detourName]) = _ :=
    FileSystem.lookUp_concat_of_enter (isPlainName_nameOf "##" rootFile).toIsEntryName
      (isLongName_nameOf "##" rootFile) enter_paved.2.2 file (by simp)
  have told : (pavedHost entries).nodeOf? (detour.child detourName) =
      some (.file (bytesOf "ab|__global__|2\n") 7) := by
    rw [child_detour, Host.nodeOf?, Host.query, route_detour]
    simp only [List.cons_append, List.nil_append] at looked
    simp only [pavedHost, FileSystem.nodeAt, looked]
  have leads : (pavedHost entries).placeOf? .target rootFile = _ :=
    placeOf?_rootFile root makefile
  have stands := Host.nodeOf?_of_placeOf? leads makefile
  refine freshText?_eq_some_iff.2 ⟨_, _, stands, told, by decide, ?_⟩
  rw [textIn?, Node.reading?, Option.bind_some]
  exact textOf?_bytesOf (by decide)

/-- The cache file serves the Makefile, or the lines of the Makefile do. -/
theorem served_detour {host : Host} (root : host.files.node? [] = some (.directory 0))
    (makefile : host.files.node? ["Makefile"] = some (.file (bytesOf "## PARAM a: 1\n") 5)) :
    Served host "##" rootFile (detour.child detourName)
      (sourceLines (bytesOf "## PARAM a: 1\n"))
      ((detourSession.cache.ensureFresh rootFile none).run host) := by
  have read := read_rootFile root makefile
  have noNull : ∀ part ∈ (detour.child detourName).parts, Char.ofNat 0 ∉ part.toList :=
    (isProper_detour.child (isPlainName_nameOf "##" rootFile)).noNull
  have same : (detourSession.cache.ensureFresh rootFile none).run host =
      (detourSession.cache.ensureFresh rootFile (some (detour.child detourName))).run host :=
    run_ensureFresh_none read (resolve_rootFile root makefile)
  rw [same]
  exact served_ensureFresh detourSession.cache rfl noNull read

/-- Once the directory is made the parameters of the file are offered. -/
theorem asked_paved (entries : List Entry) : ∃ last,
    (detourSession.cache.ensureFresh rootFile none).run (pavedHost entries) =
      (.ok ((CacheRecord.decodeIndex "ab|__global__|2\n").withTargets
        (RuleName.ofLines (sourceLines (bytesOf "## PARAM a: 1\n")))), last) := by
  have root : pavedFiles.node? [] = some (.directory 0) := by simp [node?_paved, node?_detour]
  have makefile : pavedFiles.node? ["Makefile"] = some (.file (bytesOf "## PARAM a: 1\n") 5) := by
    simp [node?_paved, node?_detour]
  have served : Served (pavedHost entries) _ _ _ _ _ := served_detour root makefile
  generalize (detourSession.cache.ensureFresh rootFile none).run (pavedHost entries) = run
    at served
  have fresh := freshText?_paved entries
  cases served with
  | loaded found =>
      obtain rfl := Option.some.inj (fresh.symm.trans found)
      exact ⟨_, rfl⟩
  | written missed | refused missed | failed missed =>
      exact absurd (fresh.symm.trans missed) (by simp)

/-- The first time the parameters of the Makefile are offered, and later those of the file. -/
theorem asked_detour : ∃ after,
    (detourSession.cache.ensureFresh rootFile none).run detourHost =
      (.ok (.ofSource "##" (sourceLines (bytesOf "## PARAM a: 1\n"))), after) ∧
    ∀ entry, ∃ last, (detourSession.cache.ensureFresh rootFile none).run (after.report entry) =
      (.ok ((CacheRecord.decodeIndex "ab|__global__|2\n").withTargets
        (RuleName.ofLines (sourceLines (bytesOf "## PARAM a: 1\n")))), last) := by
  have root : detourFiles.node? [] = some (.directory 0) := by simp [node?_detour]
  have makefile : detourFiles.node? ["Makefile"] = some (.file (bytesOf "## PARAM a: 1\n") 5) := by
    simp [node?_detour]
  have served : Served detourHost _ _ _ _ _ := served_detour root makefile
  generalize (detourSession.cache.ensureFresh rootFile none).run detourHost = run at served
  cases served with
  | loaded fresh => exact absurd (freshText?_detour.symm.trans fresh) (by simp)
  | @refused earlier last _ _ _ _ ran =>
      obtain ⟨_, rfl⟩ := Prod.mk.inj (ran.symm.trans (replace_detour _ earlier))
      refine ⟨_, rfl, fun entry => ?_⟩
      have noted : (pavedHost earlier).reportAll [last, entry] = _ :=
        Host.reportAll_of_unkept rfl [last, entry]
      obtain ⟨_, asked⟩ := asked_paved (earlier ++ [last, entry])
      exact ⟨_, (congrArg _ noted).trans asked⟩
  | @written earlier _ _ _ _ ran =>
      exact absurd (ran.symm.trans (replace_detour _ earlier)) (by simp)
  | @failed earlier _ _ _ _ ran notSystem =>
      obtain ⟨same, _⟩ := Prod.mk.inj (ran.symm.trans (replace_detour _ earlier))
      obtain rfl := Except.error.inj same
      cases notSystem

/-- Where a missing directory is made on the way up, the longer word offers what is new. -/
theorem complete_widens_detour : ∃ middle last,
    (ofSettings detourSettings).run detourHost = (.ok detourSession, detourHost) ∧
    (detourSession.complete (.typing ["make", "all", ""] 2 "a") (some rootFile)).run detourHost =
      (.ok ["a=1"], middle) ∧
    (detourSession.complete (.typing ["make", "all", ""] 2 ("a" ++ "b")) (some rootFile)).run
      middle = (.ok ["ab=2"], last) ∧
    ["a=1"].filter (startsText ("a" ++ "b")) ≠ ["ab=2"] := by
  obtain ⟨after, asked, again⟩ := asked_detour
  have argument (word : String) : (Query.typing ["make", "all", ""] 2 word).isOnArgument = true :=
    isOnArgument_typing (by decide) (by decide) word
  obtain ⟨entry, first⟩ := run_complete (argument "a") asked
  obtain ⟨_, askedAgain⟩ := again entry
  obtain ⟨_, second⟩ := run_complete (argument ("a" ++ "b")) askedAgain
  have offered : candidatesIn (.ofSource "##" (sourceLines (bytesOf "## PARAM a: 1\n")))
      (.typing ["make", "all", ""] 2 "a") = ["a=1"] := by decide +kernel
  have offeredLater : candidatesIn ((CacheRecord.decodeIndex "ab|__global__|2\n").withTargets
      (RuleName.ofLines (sourceLines (bytesOf "## PARAM a: 1\n"))))
      (.typing ["make", "all", ""] 2 ("a" ++ "b")) = ["ab=2"] := by decide +kernel
  rw [offered] at first
  rw [offeredLater] at second
  exact ⟨_, _, run_ofSettings_detour, first, second, by decide⟩

end AnnotatedMake.Session
