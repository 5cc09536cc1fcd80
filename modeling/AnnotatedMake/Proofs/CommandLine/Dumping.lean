import AnnotatedMake.Proofs.CommandLine.Sparing

namespace AnnotatedMake

open Program (Finds Makes)

variable [Platform]

namespace IndexCache

variable {host after : Host} {source file : Path} {content : Bytes} {cache : IndexCache}

/-- A cache that has no fresh file for a Makefile with this content, and writes one. -/
structure StoresAnew (cache : IndexCache) (host : Host) (source file : Path)
    (content : Bytes) : Prop where
  enabled : cache.enabled = true
  read : host.query source (.error Fault.isDirectory) host.files.read = .ok content
  placed : ((cache.pathFor source).run host).1 = .ok file
  missed : freshText? host source file = none
  stored : ((store (.ofLines cache.marker (sourceLines content)) file).run host).1 = .ok true

/-- A cache that has a fresh file with these bytes for a Makefile that can be read. -/
structure UsesKept (cache : IndexCache) (host : Host) (source file : Path)
    (kept : Bytes) : Prop where
  enabled : cache.enabled = true
  readable : ∃ content,
    host.query source (.error Fault.isDirectory) host.files.read = .ok content
  placed : ((cache.pathFor source).run host).1 = .ok file
  fresh : (freshText? host source file).isSome
  held : ∃ time, host.nodeOf? file = some (.file kept time)

/-- A cache file is named by the source it belongs to. -/
theorem resolve_of_pathFor (placed : ((cache.pathFor source).run host).1 = .ok file) :
    ∃ resolved, host.resolve source = .ok resolved ∧
      cache.directory.child (nameOf cache.marker resolved) = file := by
  rw [pathFor, Program.bind_eq_bind, Program.run_bind, Program.run_resolve] at placed
  cases found : host.resolve source with
  | error fault =>
      rw [found] at placed
      cases placed
  | ok resolved =>
      rw [found] at placed
      exact ⟨resolved, rfl, Except.ok.inj placed⟩

/-- Parsing gives the index of the lines and reports remarks. -/
theorem run_parse (cache : IndexCache) (lines : List String) (host : Host) :
    ∃ entries, (cache.parse lines).run host =
      (.ok (.ofLines cache.marker lines), host.reportAll entries) := by
  obtain ⟨entries, _, remarked⟩ := run_remarks cache.marker lines host
  refine ⟨entries, ?_⟩
  rw [parse, Program.bind_eq_bind, Program.run_bind, remarked]
  rfl

/-- A store succeeds when the cache file is replaced. -/
theorem stored_iff {index : ScopeIndex} : ((store index file).run host).1 = .ok true ↔
    ∃ after, (replace index file).run host = (.ok (), after) := by
  rw [run_store]
  generalize (replace index file).run host = run
  obtain ⟨outcome, after⟩ := run
  cases outcome with
  | ok _ => exact iff_of_true rfl ⟨after, rfl⟩
  | error fault =>
      dsimp only
      split <;> exact iff_of_false nofun nofun

/-- No cache file is replaced below a path with a null character. -/
theorem noNull_of_replace {index : ScopeIndex} {base : Path} {name : String}
    (named : IsPlainName name)
    (ran : (replace index (base.child name)).run host = (.ok (), after)) :
    base.parts.any (holds (Char.ofNat 0)) = false := by
  cases null : base.parts.any (holds (Char.ofNat 0)) with
  | false => rfl
  | true =>
      rw [replace_eq_fill, Path.parent_child base named.toIsOneName, Program.run_bind,
        Program.run_makeDirectories_of_null null] at ran
      cases ran

omit [Platform] in
/-- What a path with a null character leads to is not told. -/
theorem noNull_of_nodeOf? {node : Node} (told : host.nodeOf? file = some node) :
    ∀ part ∈ file.parts, Char.ofNat 0 ∉ part.toList := by
  cases null : file.parts.any (holds (Char.ofNat 0)) with
  | false => exact Host.noNull_iff.1 null
  | true =>
      rw [Host.nodeOf?, Host.query_of_null null] at told
      cases told

omit [Platform] in
/-- A cache file holds the text that is dumped. -/
theorem textIn?_contentOf (marker : String) (lines : List String) (time : Int) :
    textIn? (.file (contentOf (.ofLines marker lines)) time) =
      some (CacheRecord.encodeIndex (.ofLines marker lines)) := by
  rw [textIn?, Node.reading?, Option.bind_some, textOf?_contentOf]

omit [Platform] in
/-- What is told to the log makes no cache file stale. -/
theorem freshText?_logging (host : Host) (entries : List Entry) (source file : Path) :
    freshText? (host.logging entries) source file = freshText? host source file := rfl

/-- The index of a Makefile stored anew is that of its lines, and its records are kept. -/
theorem StoresAnew.makes (noSlash : ∀ part ∈ cache.directory.parts, '/' ∉ part.toList)
    (stores : cache.StoresAnew host source file content) :
    ∃ after place time, (cache.ensureFresh source none).Makes host
        (.ok (.ofSource cache.marker (sourceLines content))) after ∧
      host.entryAt? file = some place ∧
      after.files.node? place =
        some (.file (contentOf (.ofLines cache.marker (sourceLines content))) time) ∧
      ((∀ target, host.files.node? place ≠ some (.link target)) → after.nodeOf? file =
        some (.file (contentOf (.ofLines cache.marker (sourceLines content))) time)) := by
  obtain ⟨resolved, found, rfl⟩ := resolve_of_pathFor stores.placed
  obtain ⟨after, ran⟩ := stored_iff.1 stores.stored
  have named := isPlainName_nameOf cache.marker resolved
  have plain : cache.directory.IsPlain :=
    ⟨noSlash, Host.noNull_iff.1 (noNull_of_replace named ran)⟩
  obtain ⟨home, time, entry, held, ends⟩ := replace_eq_ok plain named ran
  refine ⟨after, home ++ [nameOf cache.marker resolved], time, ?_, entry, held, fun notLink =>
    Host.nodeOf?_of_placeOf? ((ends notLink).placeOf? held nofun .target) held⟩
  intro entries
  have replaced (earlier : List Entry) :
      (replace (.ofLines cache.marker (sourceLines content))
        (cache.directory.child (nameOf cache.marker resolved))).run
          ((host.logging entries).reportAll earlier) =
        (.ok (), after.logging (entries ++ earlier)) := by
    rw [Host.reportAll_logging, Program.run_logging_of_silent (silent_replace _ _), ran]
  have readLogging : (host.logging entries).query source (.error Fault.isDirectory)
      host.files.read = .ok content := stores.read
  have served := served_ensureFresh cache stores.enabled (Path.noNull_child plain.noNull named)
    readLogging
  rw [← run_ensureFresh_none readLogging found] at served
  generalize (cache.ensureFresh source none).run (host.logging entries) = run at served ⊢
  cases served with
  | loaded fresh =>
      rw [freshText?_logging, stores.missed] at fresh
      cases fresh
  | @written earlier last after _ _ ran =>
      obtain ⟨_, rfl⟩ := Prod.mk.inj ((replaced earlier).symm.trans ran)
      refine ⟨earlier ++ [last], ?_⟩
      rw [← List.append_assoc, ← Host.reportAll_logging _ (entries ++ earlier)]
      rfl
  | refused _ _ ran | failed _ _ ran => cases (replaced _).symm.trans ran

/-- The index of a Makefile that has a fresh cache file is the one in that file. -/
theorem UsesKept.finds {marker : String} {lines : List String}
    (uses : cache.UsesKept host source file (contentOf (.ofLines marker lines))) :
    ∃ targets, (cache.ensureFresh source none).Finds host
      (.ok ((CacheRecord.decodeIndex (CacheRecord.encodeIndex (.ofLines marker lines))).withTargets
        targets)) := by
  obtain ⟨content, read⟩ := uses.readable
  obtain ⟨resolved, found, rfl⟩ := resolve_of_pathFor uses.placed
  obtain ⟨text, fresh⟩ := Option.isSome_iff_exists.1 uses.fresh
  obtain ⟨time, held⟩ := uses.held
  have isText : text = CacheRecord.encodeIndex (.ofLines marker lines) := by
    obtain ⟨_, node, _, told, _, decoded⟩ := freshText?_eq_some_iff.1 fresh
    obtain rfl := Option.some.inj (held.symm.trans told)
    rw [textIn?_contentOf] at decoded
    exact (Option.some.inj decoded).symm
  rw [isText] at fresh
  refine ⟨RuleName.ofLines (sourceLines content), fun entries => ?_⟩
  have readLogging : (host.logging entries).query source (.error Fault.isDirectory)
      host.files.read = .ok content := read
  have served := served_ensureFresh cache uses.enabled (noNull_of_nodeOf? held) readLogging
  rw [← run_ensureFresh_none readLogging found] at served
  generalize (cache.ensureFresh source none).run (host.logging entries) = run at served ⊢
  cases served with
  | @loaded other entry freshToo =>
      rw [freshText?_logging, fresh] at freshToo
      obtain rfl := Option.some.inj freshToo
      exact ⟨[entry], rfl⟩
  | written missed | refused missed | failed missed =>
      rw [freshText?_logging, fresh] at missed
      cases missed

end IndexCache

namespace Session

variable {session : Session} {host after : Host} {query : Query} {source : Path}
  {index : ScopeIndex}

/-- A session offers the candidates of the index that its cache gives, and leaves what the cache
leaves. -/
theorem makes_complete (argument : query.isOnArgument = true)
    (asked : (session.cache.ensureFresh source none).Makes host (.ok index) after) :
    (session.complete query (some source)).Makes host (.ok (candidatesIn index query)) after := by
  have found : (session.indexFor (some source)).Makes host (.ok (some index)) after :=
    Makes.bind (Program.finds_done _ host).makes
      (Makes.recover (asked.bind (Program.finds_done _ after).makes))
  rw [complete, argument, if_pos rfl]
  exact found.bind (Finds.makes
    ((Program.finds_report _ _ after).bind (Program.finds_done _ after)))

end Session

namespace CommandLine

variable {settings : Settings} {host after : Host} {directory source : Path} {content : Bytes}

/-- A session is found where the cache directory has a path. -/
theorem finds_ofSettings (named : settings.path host.environment "cache_dir" = .ok directory) :
    (Session.ofSettings settings).Finds host (.ok (.within settings directory)) := by
  intro entries
  refine ⟨[], ?_⟩
  have namedToo : settings.path (host.logging entries).environment "cache_dir" = .ok directory :=
    named
  rw [Session.run_ofSettings, namedToo, List.append_nil]
  rfl

/-- A completion prints the candidates of the index that its cache gives. -/
theorem makes_complete {line : Given String} {cursor : Given Int} {words : List String}
    {query : Query} {index : ScopeIndex}
    (named : settings.path host.environment "cache_dir" = .ok directory)
    (typed : queryOf line cursor words = .done query) (argument : query.isOnArgument = true)
    (asked : ((Session.within settings directory).cache.ensureFresh source none).Makes host
      (.ok index) after) :
    (complete settings (.value source) line cursor words).Makes host
      (.ok { texts := (Session.candidatesIn index query).map lineOf }) after := by
  refine Makes.bind (finds_ofSettings named).makes ?_
  rw [typed]
  exact Makes.bind (Program.finds_done _ host).makes
    ((Session.makes_complete argument asked).bind (Program.finds_done _ after).makes)

/-- A file is taken as the source. -/
theorem run_requireSource {session : Session} {node : Node}
    (told : host.nodeOf? source = some node) (isFile : (Host.statusOf node).standing = .file) :
    (requireSource session (some source)).run host = (.ok source, host) := by
  simp only [requireSource, Program.bind_eq_bind, Program.pure_eq_done]
  rw [Program.run_bind, Program.run_done]
  dsimp only
  rw [Program.run_bind, Program.run_isFile_of_nodeOf? told, isFile]
  rfl

/-- What is no file is missed with a report. -/
theorem run_requireSource_of_device {session : Session} {node : Node}
    (told : host.nodeOf? source = some node) (noFile : (Host.statusOf node).standing ≠ .file) :
    ∃ missing, (requireSource session (some source)).run host =
      (.error .reported, host.report missing) := by
  simp only [requireSource, Program.bind_eq_bind, Program.pure_eq_done]
  rw [Program.run_bind, Program.run_done]
  dsimp only
  rw [Program.run_bind, Program.run_isFile_of_nodeOf? told, decide_eq_false noFile]
  exact ⟨_, rfl⟩

omit [Platform] in
/-- A Makefile without content has no records. -/
theorem encodeIndex_of_empty (marker : String) :
    CacheRecord.encodeIndex (.ofLines marker (sourceLines [])) = "" := by
  have lines : sourceLines [] = [] := by decide +kernel
  rw [lines]
  rfl

/-- A dump prints the records of the Makefile that it reads, and none of a device. -/
theorem textsOf_dump (named : settings.path host.environment "cache_dir" = .ok directory)
    (read : host.query source (.error Fault.isDirectory) host.files.read = .ok content) :
    String.join (textsOf ((dump settings (some source) false).run host).1) =
      CacheRecord.encodeIndex (.ofLines (Session.within settings directory).cache.marker
        (sourceLines content)) := by
  obtain ⟨node, changed, told, reading⟩ := Host.read_eq_ok_iff.1 read
  simp only [dump, Program.bind_eq_bind, Program.pure_eq_done]
  rw [Program.run_bind, Session.run_ofSettings, named]
  dsimp only [Except.map]
  rw [Program.run_bind]
  cases node with
  | file old time =>
      rw [run_requireSource told rfl]
      dsimp only [readLines, Program.bind_eq_bind, Program.pure_eq_done]
      rw [Program.run_bind, Program.run_bind, Program.run_contentOf, read]
      dsimp only [Program.run_done]
      obtain ⟨_, parsed⟩ := IndexCache.run_parse (Session.within settings directory).cache
        (sourceLines content) host
      rw [Program.run_bind, parsed]
      dsimp only [Program.run_done, textsOf, dumpText]
      rw [if_neg Bool.false_ne_true, String.join_cons, String.join_nil, String.append_empty]
  | sink =>
      obtain ⟨_, refused⟩ : ∃ missing, (requireSource (.within settings directory)
          (some source)).run host = (.error .reported, host.report missing) :=
        run_requireSource_of_device told (by decide)
      obtain ⟨rfl, _⟩ := Prod.mk.inj (Option.some.inj reading)
      rw [refused, encodeIndex_of_empty]
      rfl
  | directory | link => cases reading

/-- Streams on which everything can be printed, with standard error open. -/
structure Streams.AreOpen (streams : Streams) : Prop where
  errors : streams.hasErrors = true
  printsAll : streams.PrintsAll

/-- A settings file gives settings on a host, with a directory for the cache. -/
structure Setup.Configures (setup : Setup) (settingsFile : String) (host : Host)
    (settings : Settings) (directory : Path) : Prop where
  loaded : (Settings.load setup.locations settingsFile).Finds host (.ok settings)
  named : settings.path host.environment "cache_dir" = .ok directory

namespace Invocation

section Configured

variable {setup : Setup} {settingsFile : String}
  (opens : setup.toStreams.AreOpen)
  (configured : setup.Configures settingsFile host settings directory)
include opens configured

omit [Platform] configured in
/-- The output delivered is that of the answer. -/
theorem output_delivered (command : Command) (answer : Answer) :
    (command.delivered setup.toStreams answer).output = answer.output := by
  rw [Answer.output, Command.texts_delivered opens.errors, opens.printsAll]
  rfl

/-- A dump prints the records of the Makefile. -/
theorem outcome_dump
    (read : host.query source (.error Fault.isDirectory) host.files.read = .ok content) :
    ∃ dumped last,
      (Invocation.outcome ⟨"", settingsFile, .dump (some source) false⟩ setup).run host =
        (.ok dumped, last) ∧
      dumped.output = CacheRecord.encodeIndex
        (.ofLines (Session.within settings directory).cache.marker (sourceLines content)) := by
  have performed : (dump settings (some source) false).ComesTo host
      ((dump settings (some source) false).run (host.logging [])).1 :=
    Program.comesTo_of_keeps (looks_dump ..).keepsLogFile host
  have answered : (Invocation.answer ⟨"", settingsFile, .dump (some source) false⟩
      setup.locations).ComesTo host _ :=
    comesTo_answer (finds_settings configured.loaded) performed
  obtain ⟨_, last, ran⟩ := outcome_of_comesTo ⟨rfl, opens.errors⟩ answered
  have readLogging : (host.logging []).query source (.error Fault.isDirectory)
      host.files.read = .ok content := read
  refine ⟨_, last, ran, (output_delivered opens _ _).trans ?_⟩
  rw [Answer.output, texts_settled]
  exact textsOf_dump configured.named readLogging

/-- A completion prints the candidates of the index that its cache gives. -/
theorem outcome_complete_of_makes {line : Given String} {cursor : Given Int} {words : List String}
    {query : Query} {index : ScopeIndex} (typed : queryOf line cursor words = .done query)
    (argument : query.isOnArgument = true)
    (asked : ((Session.within settings directory).cache.ensureFresh source none).Makes host
      (.ok index) after) :
    ∃ outcome last,
      (Invocation.outcome ⟨"", settingsFile, .complete (.value source) line cursor words⟩
        setup).run host = (.ok outcome, last) ∧ last.logging [] = after.logging [] ∧
      outcome.output = printed (Session.candidatesIn index query) := by
  have performed := makes_complete configured.named typed argument asked
  have answered : (Invocation.answer ⟨"", settingsFile, .complete (.value source) line cursor
      words⟩ setup.locations).Makes host _ after :=
    makes_answer (finds_settings configured.loaded) performed
  obtain ⟨_, last, ran, same⟩ := outcome_of_makes ⟨rfl, opens.errors⟩ answered
  exact ⟨_, last, ran, same, output_delivered opens _ _⟩

end Configured

omit [Platform] in
/-- Rule names make no difference to a completion of a parameter. -/
theorem candidatesIn_withTargets (index : ScopeIndex) (targets : List String) {query : Query}
    (parameter : query.position = .parameter) :
    Session.candidatesIn (index.withTargets targets) query = Session.candidatesIn index query := by
  rw [Session.candidatesIn, Session.candidatesIn, parameter]
  rfl

omit [Platform] in
/-- A completion of a parameter offers what the records of the Makefile say. -/
theorem candidatesIn_decodeIndex (marker : String) (lines : List String) {query : Query}
    (parameter : query.position = .parameter) :
    Session.candidatesIn (CacheRecord.decodeIndex (CacheRecord.encodeIndex
        (.ofLines marker lines))) query =
      Session.candidatesIn (.ofSource marker lines) query := by
  rw [← candidatesIn_withTargets _ (RuleName.ofLines lines) parameter, Session.candidatesIn,
    ScopeIndex.candidates_decodeIndex]
  rfl

/-- A dump prints the text of the cache file that a completion leaves and offers from. -/
theorem dump_is_kept (setup : Setup) (opens : setup.toStreams.AreOpen) {settingsFile : String}
    {source file : Path} (configured : setup.Configures settingsFile host settings directory)
    (stores : (Session.within settings directory).cache.StoresAnew host source file content) :
    ∃ dumped left place,
      (Invocation.outcome ⟨"", settingsFile, .dump (some source) false⟩ setup).run host =
        (.ok dumped, left) ∧
      host.entryAt? file = some place ∧
      ∀ line cursor words query, queryOf line cursor words = .done query →
        query.isOnArgument = true →
        let completes : Invocation :=
          ⟨"", settingsFile, .complete (.value source) line cursor words⟩
        let offered := printed
          (Session.candidatesIn (CacheRecord.decodeIndex dumped.output) query)
        (∃ missed last time, (completes.outcome setup).run host = (.ok missed, last) ∧
          last.files.node? place = some (.file (bytesOf dumped.output) time) ∧
          ((∀ target, host.files.node? place ≠ some (.link target)) →
            last.nodeOf? file = some (.file (bytesOf dumped.output) time)) ∧
          (query.position = .parameter → missed.output = offered)) ∧
        ∀ later, setup.Configures settingsFile later settings directory →
          (Session.within settings directory).cache.UsesKept later source file
            (bytesOf dumped.output) →
          ∃ hit last, (completes.outcome setup).run later = (.ok hit, last) ∧
            (query.position = .parameter → hit.output = offered) := by
  have noSlash := noSlash_of_path configured.named
  obtain ⟨after, place, time, asked, entry, held, leads⟩ :=
    IndexCache.StoresAnew.makes noSlash stores
  obtain ⟨dumped, left, dumps, text⟩ := outcome_dump opens configured stores.read
  refine ⟨dumped, left, place, dumps, entry, fun line cursor words query typed argument => ?_⟩
  dsimp only
  rw [text]
  constructor
  · obtain ⟨missed, last, ran, same, output⟩ :=
      outcome_complete_of_makes opens configured typed argument asked
    have files : (last.logging []).files = (after.logging []).files := by rw [same]
    have told : (last.logging []).nodeOf? file = (after.logging []).nodeOf? file := by rw [same]
    refine ⟨missed, last, time, ran, ?_, fun notLink => ?_, fun parameter => ?_⟩
    · exact (congrArg (FileSystem.node? · place) files).trans held
    · exact told.trans (leads notLink)
    · rw [output, candidatesIn_decodeIndex _ _ parameter]
  · intro later configuredToo uses
    obtain ⟨targets, found⟩ := uses.finds
    obtain ⟨hit, last, ran, _, output⟩ :=
      outcome_complete_of_makes opens configuredToo typed argument found.makes
    refine ⟨hit, last, ran, fun parameter => ?_⟩
    rw [output, candidatesIn_withTargets _ _ parameter]

end Invocation

end CommandLine

end AnnotatedMake

namespace AnnotatedMake.CommandLine.Invocation

open IndexCache

/-- Without a settings file the root directory holds the cache. -/
theorem configures_root {time : Int} (root : host.files.node? [] = some (.directory time))
    (absent : host.files.node? ["settings"] = none) (bare : host.environment = .empty) :
    rootSetup.Configures "" host Session.rootSettings ⟨.root, []⟩ where
  loaded := Settings.finds_load_of_absent (Program.finds_done _ _)
    (Settings.finds_isThere_of_absent
      (Host.absent_of_root root isPlainName_settings (by decide) absent) rfl)
  named := by rw [bare, Session.path_rootSettings]

/-- The path of the cache file of the Makefile in the root directory. -/
def rootCacheFile : Path := rootCache.directory.child (nameOf "##" rootFile)

/-- The cache file of the witness stands in the root. -/
theorem pathFor_rootFile {time changed : Int} (root : host.files.node? [] = some (.directory time))
    (file : host.files.node? ["Makefile"] = some (.file content changed)) :
    ((rootCache.pathFor rootFile).run host).1 = .ok rootCacheFile := by
  rw [pathFor, Program.bind_eq_bind, Program.run_bind, Program.run_resolve,
    resolve_rootFile root file]
  rfl

theorem rootCacheFile_eq : rootCacheFile = ⟨.root, [nameOf "##" rootFile]⟩ :=
  Path.child_of_oneName _ (isPlainName_nameOf "##" rootFile).toIsOneName

/-- The cache file of a Makefile in the root directory is missing at first, and can be written. -/
theorem storesAnew_rootHost (content : Bytes) (time : Int) :
    rootCache.StoresAnew (rootHost content time) rootFile rootCacheFile content := by
  have root := node?_rootHost content time []
  have file := node?_rootHost content time ["Makefile"]
  have named := isPlainName_nameOf "##" rootFile
  have short := isLongName_nameOf "##" rootFile
  have differs : nameOf "##" rootFile ≠ "Makefile" := nameOf_ne "##" rootFile (by decide)
  have vacant : (rootHost content time).files.node? [nameOf "##" rootFile] = none := by
    rw [node?_rootHost, if_neg (by simpa using differs), if_neg (by simp)]
  have vacantTemporary :
      (rootHost content time).files.node? [FileSystem.temporaryName cacheEnding 0] = none := by
    rw [node?_rootHost, if_neg (by decide +kernel), if_neg (by simp)]
  refine ⟨rfl, read_rootFile root file, pathFor_rootFile root file, freshText?_of_absent ?_, ?_⟩
  · rw [rootCacheFile_eq, Host.nodeOf?, Host.absent_of_root root named short vacant]
  · obtain ⟨after, _, ran, _⟩ := replace_of_root (.ofLines "##" (sourceLines content)) root named
      short vacantTemporary (by simp [vacant])
    rw [stored_iff, rootCacheFile_eq]
    exact ⟨after, ran⟩

/-- A host with the cache file of its Makefile. -/
def keptHost (content : Bytes) (kept : Bytes) : Host :=
  { rootHost content 5 with
    files := (rootHost content 5).files.put [nameOf "##" rootFile] (.file kept 6) }

theorem node?_keptHost (content kept : Bytes) (place : Location) :
    (keptHost content kept).files.node? place =
      if place = [nameOf "##" rootFile] then some (.file kept 6)
      else (rootHost content 5).files.node? place := by
  rw [keptHost, FileSystem.node?_put]

theorem root_keptHost (content kept : Bytes) :
    (keptHost content kept).files.node? [] = some (.directory 0) := by
  rw [node?_keptHost, if_neg (by simp), node?_rootHost]
  rfl

theorem makefile_keptHost (content kept : Bytes) :
    (keptHost content kept).files.node? ["Makefile"] = some (.file content 5) := by
  have differs : "Makefile" ≠ nameOf "##" rootFile := (nameOf_ne "##" rootFile (by decide)).symm
  rw [node?_keptHost, if_neg (by simpa using differs), node?_rootHost, if_pos rfl]

/-- The cache file of a Makefile in the root directory is used. -/
theorem usesKept_keptHost (content : Bytes) :
    rootCache.UsesKept
      (keptHost content (contentOf (.ofLines "##" (sourceLines content)))) rootFile rootCacheFile
      (contentOf (.ofLines "##" (sourceLines content))) := by
  have root := root_keptHost content (contentOf (.ofLines "##" (sourceLines content)))
  have file := makefile_keptHost content (contentOf (.ofLines "##" (sourceLines content)))
  have kept := node?_keptHost content (contentOf (.ofLines "##" (sourceLines content)))
    ([] ++ [nameOf "##" rootFile])
  rw [List.nil_append, if_pos rfl] at kept
  have ends := Host.ends_of_root root (isPlainName_nameOf "##" rootFile)
    (isLongName_nameOf "##" rootFile)
  have told := Host.nodeOf?_of_placeOf? (ends.placeOf? kept nofun .target) kept
  have source := Host.nodeOf?_of_placeOf? (placeOf?_rootFile root file) file
  rw [← rootCacheFile_eq] at told
  have young : (5 : Int) ≤ 6 := by decide
  have fresh := freshText?_eq_some_iff.2
    ⟨_, _, source, told, young, textIn?_contentOf "##" (sourceLines content) 6⟩
  exact ⟨rfl, ⟨content, read_rootFile root file⟩, pathFor_rootFile root file,
    Option.isSome_iff_exists.2 ⟨_, fresh⟩, 6, told⟩

/-- A Makefile in the root is dumped, completed anew, and completed from its cache file. -/
theorem dump_is_kept_root :
    let content := bytesOf "## PARAM a: 1\n"
    let completes : Invocation :=
      ⟨"", "", .complete (.value rootFile) .absent .absent ["make", "all", ""]⟩
    ∃ dumped left missed last hit lastHit,
      (outcome ⟨"", "", .dump (some rootFile) false⟩ rootSetup).run (rootHost content 5) =
        (.ok dumped, left) ∧
      (completes.outcome rootSetup).run (rootHost content 5) = (.ok missed, last) ∧
      (completes.outcome rootSetup).run (keptHost content (bytesOf dumped.output)) =
        (.ok hit, lastHit) ∧
      hit.output = missed.output := by
  intro content completes
  have opens : rootSetup.toStreams.AreOpen := ⟨rfl, Streams.printsAll_of_encodes rfl⟩
  have absent : (rootHost content 5).files.node? ["settings"] = none := by
    rw [node?_rootHost, if_neg (by decide), if_neg (by simp)]
  have configured : rootSetup.Configures "" (rootHost content 5) Session.rootSettings ⟨.root, []⟩ :=
    configures_root (node?_rootHost content 5 []) absent rfl
  have stores : (Session.within Session.rootSettings ⟨.root, []⟩).cache.StoresAnew
      (rootHost content 5) rootFile rootCacheFile content := by
    rw [Session.within_rootSettings]
    exact storesAnew_rootHost content 5
  obtain ⟨dumped, left, place, dumps, _, answers⟩ := dump_is_kept rootSetup opens configured stores
  obtain ⟨⟨missed, last, _, completed, _, _, offered⟩, again⟩ :=
    answers .absent .absent ["make", "all", ""] _ rfl rfl
  have text : dumped.output = CacheRecord.encodeIndex (.ofLines "##" (sourceLines content)) := by
    obtain ⟨other, _, dumpsToo, text⟩ := outcome_dump opens configured stores.read
    obtain rfl := Except.ok.inj (Prod.mk.inj (dumps.symm.trans dumpsToo)).1
    rw [text, Session.within_rootSettings]
    rfl
  have uses : (Session.within Session.rootSettings ⟨.root, []⟩).cache.UsesKept
      (keptHost content (bytesOf dumped.output)) rootFile rootCacheFile
      (bytesOf dumped.output) := by
    rw [Session.within_rootSettings, text]
    exact usesKept_keptHost content
  have absentToo : (keptHost content (bytesOf dumped.output)).files.node? ["settings"] = none := by
    have differs : "settings" ≠ nameOf "##" rootFile := (nameOf_ne "##" rootFile (by decide)).symm
    rw [node?_keptHost, if_neg (by simpa using differs), absent]
  obtain ⟨hit, lastHit, completedAgain, offeredToo⟩ :=
    again _ (configures_root (root_keptHost content _) absentToo rfl) uses
  exact ⟨dumped, left, missed, last, hit, lastHit, dumps, completed, completedAgain,
    (offeredToo rfl).trans (offered rfl).symm⟩

end AnnotatedMake.CommandLine.Invocation
