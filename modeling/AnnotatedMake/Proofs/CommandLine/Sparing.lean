import AnnotatedMake.Proofs.CommandLine.Refusing

namespace AnnotatedMake

variable [Platform]

namespace Session

variable {used plain : Session} {host : Host} {query : Query} {file : Option Path}

/-- The candidates that an outcome leaves; a fault leaves none. -/
def candidatesLeft (outcome : Except Fault (List String)) : List String :=
  outcome.toOption.getD []

omit [Platform] in
/-- A query that ends with a fault leaves no candidate. -/
theorem candidatesLeft_offered (query : Query) (fault : Fault) :
    candidatesLeft (offered query (.error fault)) = [] := by
  rw [offered]
  split <;> rfl

/-- Two sessions that look for one Makefile and read one marker, the second one without its
cache. -/
structure IsUncached (used plain : Session) : Prop where
  names : plain.sourceNames = used.sourceNames
  marker : plain.cache.marker = used.cache.marker
  disabled : plain.cache.enabled = false

/-- A cache that keeps no candidate back. -/
inductive LetsThrough (used : Session) (host : Host) (file : Option Path) : Prop where
  | unused (disabled : used.cache.enabled = false)
  | usable (noNull : ∀ part ∈ used.cache.directory.parts, Char.ofNat 0 ∉ part.toList)
      (shallow : used.cache.directory.parts.length < Program.levelLimit)
      (current : host.HasPlainDirectory)
      (resolves : ∀ source content, LooksAt used.sourceNames host file source →
        host.query source (.error Fault.isDirectory) host.files.read = .ok content →
        ∃ resolved, host.resolve source = .ok resolved)

/-- A session whose cache keeps every candidate back. -/
structure Withholds (used : Session) (host : Host) (query : Query) (file : Option Path) : Prop where
  enabled : used.cache.enabled = true
  argument : query.isOnArgument = true
  unusable : ∃ source content,
    ((used.sourceFor file).run (host.logging [])).1 = .ok (some source) ∧
    host.query source (.error Fault.isDirectory) host.files.read = .ok content ∧
    ((∃ part ∈ used.cache.directory.parts, Char.ofNat 0 ∈ part.toList) ∨
      ∃ fault, host.resolve source = .error fault)

/-- Without its cache a session parses the Makefile. -/
theorem IsUncached.given (uncached : used.IsUncached plain) (host : Host) (source : Path) :
    plain.cache.given host source = IndexCache.parsed used.cache.marker host source := by
  rw [IndexCache.given_of_disabled uncached.disabled, uncached.marker]

section NoSlash

variable (noSlash : ∀ part ∈ used.cache.directory.parts, '/' ∉ part.toList)
include noSlash

/-- A cache without a fresh file leaves the candidates as they are or keeps them all back. -/
theorem candidatesLeft_missed (uncached : used.IsUncached plain)
    (noSlashPlain : ∀ part ∈ plain.cache.directory.parts, '/' ∉ part.toList)
    (missed : ∀ source, LooksAt used.sourceNames host file source →
      used.cache.HasNoFresh host source) (query : Query) :
    candidatesLeft ((used.complete query file).run (host.logging [])).1 =
        candidatesLeft ((plain.complete query file).run (host.logging [])).1 ∨
      candidatesLeft ((used.complete query file).run (host.logging [])).1 = [] := by
  rcases (LookAlike.refl uncached.names host file).complete_cases query with
    same | ⟨source, here, there, found, completed, completedPlain⟩
  · exact .inl (congrArg candidatesLeft same.symm)
  · have freePlain := IndexCache.isFree_of_disabled uncached.disabled noSlashPlain
      (host.logging there)
    have asked := freePlain.outcome_ensureFresh source
    rw [IndexCache.given_logging, uncached.given] at asked
    rw [completed, completedPlain, asked]
    rcases IndexCache.run_ensureFresh_given noSlash source (host.logging here) with
      isGiven | ⟨_, fault, failed, _⟩
    · have looks := looksAt_of_sourceFor found
      rw [isGiven, IndexCache.given_logging]
      rcases IndexCache.given_of_missed (missed source looks) with
        isParsed | ⟨fault, failed⟩
      · exact .inl (by rw [isParsed])
      · exact .inr (by rw [failed, candidatesLeft_offered])
    · exact .inr (by rw [failed, candidatesLeft_offered])

/-- Without its cache a session offers what the Makefile it is given holds. -/
theorem complete_parsed (disabled : used.cache.enabled = false)
    (argument : query.isOnArgument = true) (source : Path) :
    ((used.complete query (some source)).run (host.logging [])).1 =
      offered query (IndexCache.parsed used.cache.marker host source) := by
  have free := IndexCache.isFree_of_disabled disabled noSlash (host.logging [])
  rw [outcome_complete argument rfl, free.outcome_ensureFresh, IndexCache.given_logging,
    IndexCache.given_of_disabled disabled]

/-- A cache that lets candidates through offers what none would. -/
theorem complete_spares (uncached : used.IsUncached plain)
    (noSlashPlain : ∀ part ∈ plain.cache.directory.parts, '/' ∉ part.toList)
    (missed : ∀ source, LooksAt used.sourceNames host file source →
      used.cache.HasNoFresh host source) (spares : used.LetsThrough host file) (query : Query) :
    ((used.complete query file).run (host.logging [])).1 =
      ((plain.complete query file).run (host.logging [])).1 := by
  have alike := LookAlike.refl uncached.names host file
  have freePlain := IndexCache.isFree_of_disabled uncached.disabled noSlashPlain host
  cases spares with
  | unused disabled =>
      have free := IndexCache.isFree_of_disabled disabled noSlash host
      refine (alike.complete_eq free freePlain fun source _ => ?_).symm
      rw [uncached.given, IndexCache.given_of_disabled disabled]
  | usable noNull shallow current resolves =>
      refine (alike.complete_eq ⟨noSlash, fun _ => shallow, fun _ => current⟩ freePlain
        fun source found => ?_).symm
      have looks := looksAt_of_sourceFor found
      rw [uncached.given, IndexCache.given_eq_parsed (missed source looks) noNull fun content =>
        resolves source content looks]

/-- A cache that withholds them leaves no candidate. -/
theorem candidatesLeft_withheld (withholds : used.Withholds host query file) :
    candidatesLeft ((used.complete query file).run (host.logging [])).1 = [] := by
  obtain ⟨source, content, found, read, unusable⟩ := withholds.unusable
  obtain ⟨fault, withheld⟩ := IndexCache.given_of_unusable withholds.enabled read unusable
  obtain ⟨source', here, ran⟩ := run_sourceFor used file (host.logging [])
  rw [ran] at found
  obtain rfl := Except.ok.inj found
  rw [Host.reportAll_logging] at ran
  rw [outcome_complete withholds.argument ran]
  rcases IndexCache.run_ensureFresh_given noSlash source (host.logging ([] ++ here)) with
    isGiven | ⟨_, other, failed, _⟩
  · rw [isGiven, IndexCache.given_logging, withheld, candidatesLeft_offered]
  · rw [failed, candidatesLeft_offered]

end NoSlash

end Session

namespace CommandLine

open Session (candidatesLeft)

/-- The texts that an outcome has printed; a fault has none. -/
def textsOf : Except Fault Answer → List String
  | .ok answer => answer.texts
  | .error _ => []

omit [Platform] in
/-- A settled answer prints what its outcome leaves. -/
theorem texts_settled (command : Command) (outcome : Except Fault Answer) :
    (command.settled outcome).texts = textsOf outcome := by
  cases outcome <;> rfl

omit [Platform] in
/-- An answer prints the candidates as lines. -/
theorem textsOf_map (outcome : Except Fault (List String)) :
    textsOf (outcome.map fun candidates => { texts := candidates.map lineOf }) =
      (candidatesLeft outcome).map lineOf := by
  cases outcome <;> rfl

/-- Settings that agree with others on what is completed, and use no cache. -/
structure IsCacheless (settings plain : Settings) (environment : Environment) : Prop where
  names : plain.texts "makefiles" Schema.defaultMakefiles =
    settings.texts "makefiles" Schema.defaultMakefiles
  marker : plain.text "marker" "" = settings.text "marker" ""
  disabled : plain.flag "use_cache" true = false
  named : ∃ directory, plain.path environment "cache_dir" = .ok directory

/-- The directory that settings name for the cache keeps every candidate back. -/
inductive KeepsBack (settings : Settings) (host : Host) (file : Given Path) (line : Given String)
    (cursor : Given Int) (words : List String) : Prop where
  | unnamed {fault : Fault} (unnamed : settings.path host.environment "cache_dir" = .error fault)
  | session {directory : Path} {query : Query}
      (named : settings.path host.environment "cache_dir" = .ok directory)
      (asked : queryOf line cursor words = .done query)
      (withholds : (Session.within settings directory).Withholds host query file.content?)

section Settings

variable {settings plain : Settings} {host : Host} {file : Given Path} {line : Given String}
  {cursor : Given Int} {words : List String}

/-- Settings without a cache make a session without one. -/
theorem IsCacheless.session (uncached : IsCacheless settings plain host.environment)
    (directory other : Path) :
    (Session.within settings directory).IsUncached (.within plain other) :=
  ⟨uncached.names, uncached.marker, uncached.disabled⟩

/-- The options alone leave nothing to print, or what is printed are the candidates of a session. -/
theorem textsOf_complete (file : Given Path) (line : Given String) (cursor : Given Int)
    (words : List String) :
    (∀ (settings : Settings) (host : Host) (directory : Path),
      settings.path host.environment "cache_dir" = .ok directory →
      textsOf ((complete settings file line cursor words).run host).1 = []) ∨
    ∃ query, queryOf line cursor words = .done query ∧
      ∀ (settings : Settings) (host : Host) (directory : Path),
        settings.path host.environment "cache_dir" = .ok directory →
        textsOf ((complete settings file line cursor words).run host).1 = (candidatesLeft
          (((Session.within settings directory).complete query file.content?).run host).1).map
            lineOf := by
  rcases outcome_complete_options file line cursor words with
    ⟨_, rfl | rfl, ends⟩ | ⟨query, asked, answers⟩
  · exact .inl fun settings host directory named => by rw [ends settings host directory named]; rfl
  · exact .inl fun settings host directory named => by rw [ends settings host directory named]; rfl
  · refine .inr ⟨query, asked, fun settings host directory named => ?_⟩
    rw [answers settings host directory named, textsOf_map]

/-- The names of a directory that settings name hold no slash. -/
theorem noSlash_of_path {environment : Environment} {directory : Path}
    (named : settings.path environment "cache_dir" = .ok directory) :
    ∀ part ∈ directory.parts, '/' ∉ part.toList :=
  fun part member => (Environment.parts_of_pathOf named part member).1

section Missed

variable (uncached : IsCacheless settings plain host.environment)
  (missed : ∀ directory source, settings.path host.environment "cache_dir" = .ok directory →
    Session.LooksAt (settings.texts "makefiles" Schema.defaultMakefiles) host file.content?
      source →
    (Session.within settings directory).cache.HasNoFresh host source)
include uncached missed

/-- With a cache that is not fresh all or nothing is printed. -/
theorem textsOf_missed :
    textsOf ((complete settings file line cursor words).run (host.logging [])).1 =
        textsOf ((complete plain file line cursor words).run (host.logging [])).1 ∨
      textsOf ((complete settings file line cursor words).run (host.logging [])).1 = [] := by
  obtain ⟨other, namedOther⟩ := uncached.named
  cases named : settings.path host.environment "cache_dir" with
  | error fault =>
      have unnamed : settings.path (host.logging []).environment "cache_dir" = .error fault := named
      exact .inr (by rw [outcome_complete_unnamed unnamed]; rfl)
  | ok directory =>
      rcases textsOf_complete file line cursor words with nothing | ⟨query, _, printed⟩
      · exact .inr (nothing settings (host.logging []) directory named)
      · rw [printed settings (host.logging []) directory named,
          printed plain (host.logging []) other namedOther]
        rcases Session.candidatesLeft_missed (noSlash_of_path named)
            (uncached.session directory other) (noSlash_of_path namedOther)
            (fun source => missed directory source named) query with same | none
        · exact .inl (by rw [same])
        · exact .inr (by rw [none]; rfl)

/-- What a cache lets through is printed. -/
theorem textsOf_spares {directory : Path}
    (named : settings.path host.environment "cache_dir" = .ok directory)
    (spares : (Session.within settings directory).LetsThrough host file.content?) :
    textsOf ((complete settings file line cursor words).run (host.logging [])).1 =
      textsOf ((complete plain file line cursor words).run (host.logging [])).1 := by
  obtain ⟨other, namedOther⟩ := uncached.named
  rcases textsOf_complete file line cursor words with nothing | ⟨query, _, printed⟩
  · rw [nothing settings (host.logging []) directory named,
      nothing plain (host.logging []) other namedOther]
  · rw [printed settings (host.logging []) directory named,
      printed plain (host.logging []) other namedOther,
      Session.complete_spares (noSlash_of_path named) (uncached.session directory other)
        (noSlash_of_path namedOther) (fun source => missed directory source named) spares query]

end Missed

/-- Of what is kept back nothing is printed. -/
theorem textsOf_withheld (withholds : KeepsBack settings host file line cursor words) :
    textsOf ((complete settings file line cursor words).run (host.logging [])).1 = [] := by
  cases withholds with
  | unnamed unnamed =>
      have unnamed : settings.path (host.logging []).environment "cache_dir" = .error _ := unnamed
      rw [outcome_complete_unnamed unnamed]
      rfl
  | @session directory query named asked withholds =>
      rcases textsOf_complete file line cursor words with nothing | ⟨same, askedToo, printed⟩
      · exact nothing settings (host.logging []) directory named
      · obtain rfl := Program.done.inj (asked.symm.trans askedToo)
        rw [printed settings (host.logging []) directory named,
          Session.candidatesLeft_withheld (noSlash_of_path named) withholds]
        rfl

end Settings

namespace Invocation

variable {first second : Invocation} {setup : Setup} {host : Host} {settings plain : Settings}
  {file : Given Path} {line : Given String} {cursor : Given Int} {words : List String}

/-- While no cache file is fresh, a completion prints what it prints without a cache, or nothing. -/
theorem outcome_of_cache (setup : Setup) (shown : first.IsShown setup.toStreams)
    (shownSecond : second.IsShown setup.toStreams)
    (command : first.command = .complete file line cursor words)
    (commandSecond : second.command = .complete file line cursor words)
    (loaded : (first.settings setup.locations).Finds host (.ok settings))
    (loadedSecond : (second.settings setup.locations).Finds host (.ok plain))
    (uncached : IsCacheless settings plain host.environment)
    (missed : ∀ directory source, settings.path host.environment "cache_dir" = .ok directory →
      Session.LooksAt (settings.texts "makefiles" Schema.defaultMakefiles) host file.content?
        source →
      (Session.within settings directory).cache.HasNoFresh host source) :
    ∃ outcome last expected lastExpected,
      (first.outcome setup).run host = (.ok outcome, last) ∧ outcome.code = 0 ∧
      (second.outcome setup).run host = (.ok expected, lastExpected) ∧ expected.code = 0 ∧
      (outcome.output = expected.output ∨ outcome.output = "") ∧
      (∀ directory, settings.path host.environment "cache_dir" = .ok directory →
        (Session.within settings directory).LetsThrough host file.content? →
        outcome.output = expected.output) ∧
      (KeepsBack settings host file line cursor words → outcome.output = "") := by
  obtain ⟨_, last, ran, code⟩ := outcome_of_settings shown command loaded
  obtain ⟨_, lastSecond, ranSecond, codeSecond⟩ :=
    outcome_of_settings shownSecond commandSecond loadedSecond
  have output := (first.command.texts_delivered shown.errors _).trans
    (congrArg setup.taken (texts_settled first.command
      ((complete settings file line cursor words).run (host.logging [])).1))
  have expected := (second.command.texts_delivered shown.errors _).trans
    (congrArg setup.taken (texts_settled second.command
      ((complete plain file line cursor words).run (host.logging [])).1))
  refine ⟨_, last, _, lastSecond, ran, congrArg ExitCode.number code, ranSecond,
    congrArg ExitCode.number codeSecond, ?_, ?_, ?_⟩
  · rw [Answer.outcome, Answer.outcome, Answer.output, Answer.output, output, expected]
    rcases textsOf_missed uncached missed with same | none
    · exact .inl (by rw [same])
    · exact .inr (by rw [none, Streams.taken_nil]; rfl)
  · intro directory named spares
    rw [Answer.outcome, Answer.outcome, Answer.output, Answer.output, output, expected,
      textsOf_spares uncached missed named spares]
  · intro withholds
    rw [Answer.outcome, Answer.output, output, textsOf_withheld withholds, Streams.taken_nil]
    rfl

end Invocation

end CommandLine

end AnnotatedMake

namespace AnnotatedMake.CommandLine.Invocation

open IndexCache

/-- A host with two settings files, one that puts the cache in a directory and one that turns it
off. -/
def cachingHost (directory : String) : Host :=
  let kept := settingsHost (bytesOf ("[makecomp]\ncache_dir = \"" ++ directory ++ "\"\n"))
  { kept with
    files := kept.files.put ["plain"] (.file (bytesOf "[makecomp]\nuse_cache = false\n") 5) }

/-- Settings that put the cache in a directory, turn it on or off, and leave the rest as it is. -/
def setsCache (directory : String) (enabled : Bool) (settings : Settings) : Bool :=
  settings.text "cache_dir" "" = directory && settings.flag "use_cache" true = enabled &&
    settings.text "marker" "" = "##" &&
    settings.texts "makefiles" Schema.defaultMakefiles = Schema.defaultMakefiles

/-- What settings for the cache are made of. -/
theorem setsCache_iff {directory : String} {enabled : Bool} {settings : Settings} :
    setsCache directory enabled settings = true ↔
      ((settings.text "cache_dir" "" = directory ∧ settings.flag "use_cache" true = enabled) ∧
        settings.text "marker" "" = "##") ∧
        settings.texts "makefiles" Schema.defaultMakefiles = Schema.defaultMakefiles := by
  simp only [setsCache, Bool.and_eq_true, decide_eq_true_eq]

/-- A settings file in the root directory is loaded. -/
theorem finds_settings_of_root {invocation : Invocation} {locations : Locations} {name : String}
    {content : Bytes} {time changed : Int} {test : Settings → Bool}
    (named : (Settings.fileNamed locations invocation.settingsFile).Finds host
      (.ok ⟨.root, [name]⟩))
    (root : host.files.node? [] = some (.directory time)) (plain : IsPlainName name)
    (short : FileSystem.isLongName name = false)
    (file : host.files.node? [name] = some (.file content changed))
    (passes : (Settings.settingsIn locations (.ok content)).toOption.any test = true) :
    ∃ settings, test settings = true ∧
      (invocation.settings locations).Finds host (.ok settings) := by
  have loaded := Settings.finds_load named
    (Settings.finds_isThere_of_root root plain short file)
  rw [Settings.held, (Host.ends_of_root root plain short).read file] at loaded
  cases held : Settings.settingsIn locations (.ok content) with
  | error fault =>
      rw [held] at passes
      cases passes
  | ok settings =>
      rw [held] at passes loaded
      exact ⟨settings, passes, finds_settings loaded⟩

section

variable (directory : String)

/-- What the host with two settings files holds at each place. -/
theorem node?_cachingHost (place : Location) : (cachingHost directory).files.node? place =
    if place = ["plain"] then some (.file (bytesOf "[makecomp]\nuse_cache = false\n") 5)
    else (settingsHost (bytesOf ("[makecomp]\ncache_dir = \"" ++ directory ++ "\"\n"))).files.node?
      place := by
  rw [cachingHost, FileSystem.node?_put]

theorem environment_cachingHost : (cachingHost directory).environment = .empty := rfl

theorem root_cachingHost : (cachingHost directory).files.node? [] = some (.directory 0) := by
  rw [node?_cachingHost, if_neg (by simp), root_settingsHost]

theorem makefile_cachingHost :
    (cachingHost directory).files.node? ["Makefile"] = some (.file (bytesOf "all:\n") 5) := by
  rw [node?_cachingHost, if_neg (by simp), makefile_settingsHost]

theorem settings_cachingHost : (cachingHost directory).files.node? ["settings"] =
    some (.file (bytesOf ("[makecomp]\ncache_dir = \"" ++ directory ++ "\"\n")) 5) := by
  rw [node?_cachingHost, if_neg (by simp), settings_settingsHost]

theorem plain_cachingHost : (cachingHost directory).files.node? ["plain"] =
    some (.file (bytesOf "[makecomp]\nuse_cache = false\n") 5) := by
  rw [node?_cachingHost, if_pos rfl]

/-- The usual settings file is read for a command. -/
theorem finds_caching (command : Command)
    (sets : (Settings.settingsIn rootSetup.locations (.ok (bytesOf
      ("[makecomp]\ncache_dir = \"" ++ directory ++ "\"\n")))).toOption.any
        (setsCache directory true) = true) :
    ∃ settings, setsCache directory true settings = true ∧
      ((⟨"", "", command⟩ : Invocation).settings rootSetup.locations).Finds (cachingHost directory)
        (.ok settings) :=
  finds_settings_of_root (Program.finds_done _ _) (root_cachingHost directory)
    isPlainName_settings (by decide) (settings_cachingHost directory) sets

/-- The settings file that turns the cache off is named for a command. -/
theorem finds_plain (command : Command) :
    ∃ settings, setsCache "/" false settings = true ∧
      ((⟨"", "/plain", command⟩ : Invocation).settings rootSetup.locations).Finds
        (cachingHost directory) (.ok settings) := by
  have named : (Settings.fileNamed rootSetup.locations "/plain").Finds (cachingHost directory)
      (.ok ⟨.root, ["plain"]⟩) := by
    rw [Settings.fileNamed, if_neg (by decide)]
    have told : Environment.pathOf .empty "/plain" = .ok ⟨.root, ["plain"]⟩ := by decide +kernel
    have found := Program.finds_pathOf "/plain" (cachingHost directory)
    rwa [environment_cachingHost, told] at found
  exact finds_settings_of_root named (root_cachingHost directory)
    ⟨⟨⟨by decide, by decide⟩, by decide⟩, by decide⟩ (by decide) (plain_cachingHost directory)
    (by decide +kernel)

/-- With the cache turned off the rule of the Makefile is printed. -/
theorem textsOf_plain (sets : setsCache "/" false plain = true) :
    textsOf ((complete plain (.value rootFile) .absent .absent ["make", ""]).run
      ((cachingHost directory).logging [])).1 = ["all\n"] := by
  obtain ⟨⟨⟨place, disabled⟩, marker⟩, _⟩ := setsCache_iff.1 sets
  have root : Environment.pathOf .empty "/" = .ok ⟨.root, []⟩ := by decide +kernel
  have named : plain.path ((cachingHost directory).logging []).environment "cache_dir" =
      .ok ⟨.root, []⟩ := by
    rw [Settings.path, place]
    exact root
  have asked : queryOf .absent .absent ["make", ""] = .done ⟨["make", ""], 1⟩ := rfl
  have parsed : IndexCache.parsed "##" (cachingHost directory) rootFile =
      .ok (.ofSource "##" (sourceLines (bytesOf "all:\n"))) := by
    rw [IndexCache.parsed,
      read_rootFile (root_cachingHost directory) (makefile_cachingHost directory)]
  have offered : Session.offered ⟨["make", ""], 1⟩
      (.ok (.ofSource "##" (sourceLines (bytesOf "all:\n")))) = .ok ["all"] := by decide +kernel
  have completed : (((Session.within plain ⟨.root, []⟩).complete ⟨["make", ""], 1⟩
      (some rootFile)).run ((cachingHost directory).logging [])).1 = .ok ["all"] := by
    rw [Session.complete_parsed (fun _ member => absurd member List.not_mem_nil) disabled rfl]
    rw [← offered, ← parsed, ← marker]
    rfl
  rw [outcome_complete named asked]
  dsimp only [candidatesFor]
  rw [completed]
  rfl

/-- Without a cache the rule of the Makefile is printed. -/
theorem output_plain {directory : String} {expected : Outcome} {last : Host}
    (sets : setsCache "/" false plain = true)
    (loaded : ((⟨"", "/plain", completing⟩ : Invocation).settings rootSetup.locations).Finds
      (cachingHost directory) (.ok plain))
    (ran : (outcome ⟨"", "/plain", completing⟩ rootSetup).run (cachingHost directory) =
      (.ok expected, last)) : expected.output = "all\n" := by
  obtain ⟨_, _, same, _⟩ := outcome_of_settings ⟨rfl, rfl⟩ rfl loaded
  obtain rfl := Except.ok.inj (Prod.mk.inj (ran.symm.trans same)).1
  rw [Answer.outcome, Answer.output, Command.texts_delivered rfl, texts_settled,
    textsOf_plain directory sets, Streams.printsAll_of_encodes rfl]
  rfl

end

/-- The plain settings do without the cache. -/
theorem isUncached_plain {directory : String} {settings plain : Settings}
    (sets : setsCache directory true settings = true)
    (setsPlain : setsCache "/" false plain = true) :
    IsCacheless settings plain (cachingHost directory).environment := by
  obtain ⟨⟨_, marker⟩, names⟩ := setsCache_iff.1 sets
  obtain ⟨⟨⟨place, disabled⟩, markerPlain⟩, namesPlain⟩ := setsCache_iff.1 setsPlain
  have root : Environment.pathOf .empty "/" = .ok ⟨.root, []⟩ := by decide +kernel
  refine ⟨namesPlain.trans names.symm, markerPlain.trans marker.symm, disabled, ⟨.root, []⟩, ?_⟩
  rw [Settings.path, place, environment_cachingHost, root]

/-- Below the Makefile there is no cache file. -/
theorem nodeOf?_cachingHost (directory : String) {name : String} (one : IsOneName name) :
    (cachingHost directory).nodeOf? (rootFile.child name) = none := by
  have blocked : (cachingHost directory).files.lookUp .target [] (rootFile.parts ++ [name]) =
      .error Fault.notDirectory := by
    rw [rootFile, List.singleton_append, FileSystem.lookUp, FileSystem.walk, root_cachingHost]
    dsimp only
    rw [if_neg (by decide), if_neg (by decide), if_neg (by simp), if_neg (by decide),
      List.nil_append, makefile_cachingHost]
    dsimp only
    rw [FileSystem.walk, makefile_cachingHost]
  rw [Host.nodeOf?]
  split
  · rename_i found
    rcases Host.query_eq_ok found with ⟨start, names, along, looked⟩ | ⟨gone, _⟩
    · obtain ⟨_, _, way, same⟩ := Host.route_child one along
      obtain ⟨rfl, rfl⟩ := Host.Route.along.inj same
      obtain ⟨rfl, rfl⟩ := Prod.mk.inj (Option.some.inj way)
      rw [FileSystem.nodeAt, blocked] at looked
      cases looked
    · obtain ⟨_, _, _, same⟩ := Host.route_child one gone
      cases same
  · rfl

/-- The host has no fresh cache file. -/
theorem hasNoFresh_cachingHost (directory : String) (settings : Settings) (source : Path) :
    (Session.within settings rootFile).cache.HasNoFresh (cachingHost directory) source :=
  fun resolved _ => freshText?_of_absent (nodeOf?_cachingHost directory
    (isPlainName_nameOf (settings.text "marker" "") resolved).toIsOneName)

/-- A file as the cache directory lets the candidates through. -/
theorem spares_cachingHost (directory : String) (settings : Settings) :
    (Session.within settings rootFile).LetsThrough (cachingHost directory) (some rootFile) := by
  have noNull : ∀ part ∈ rootFile.parts, Char.ofNat 0 ∉ part.toList := by decide
  have shallow : rootFile.parts.length < Program.levelLimit := by decide
  refine .usable noNull shallow (fun _ member => absurd member List.not_mem_nil) ?_
  rintro source _ rfl _
  exact ⟨rootFile, resolve_rootFile (root_cachingHost directory) (makefile_cachingHost directory)⟩

/-- An unknown user's directory costs the only candidate, and one with a file in its way none. -/
theorem outcome_of_cache_settings :
    (∃ outcome last expected lastExpected,
      (Invocation.outcome ⟨"", "", completing⟩ rootSetup).run (cachingHost "~x") =
        (.ok outcome, last) ∧
      (Invocation.outcome ⟨"", "/plain", completing⟩ rootSetup).run (cachingHost "~x") =
        (.ok expected, lastExpected) ∧
      outcome.output = "" ∧ expected.output = "all\n") ∧
    ∃ outcome last expected lastExpected,
      (Invocation.outcome ⟨"", "", completing⟩ rootSetup).run (cachingHost "/Makefile") =
        (.ok outcome, last) ∧
      (Invocation.outcome ⟨"", "/plain", completing⟩ rootSetup).run (cachingHost "/Makefile") =
        (.ok expected, lastExpected) ∧
      outcome.output = "all\n" ∧ expected.output = "all\n" := by
  have unknown : Environment.pathOf .empty "~x" = .error .unknownHome := by decide +kernel
  have inTheWay : Environment.pathOf .empty "/Makefile" = .ok rootFile := by decide +kernel
  constructor
  · obtain ⟨settings, sets, loaded⟩ := finds_caching "~x" completing (by decide +kernel)
    obtain ⟨plain, setsPlain, loadedPlain⟩ := finds_plain "~x" completing
    have unnamed : settings.path (cachingHost "~x").environment "cache_dir" =
        .error .unknownHome := by
      rw [Settings.path, (setsCache_iff.1 sets).1.1.1, environment_cachingHost, unknown]
    obtain ⟨outcome, last, expected, lastExpected, ran, _, ranPlain, _, _, _, withheld⟩ :=
      outcome_of_cache rootSetup ⟨rfl, rfl⟩ ⟨rfl, rfl⟩ rfl rfl loaded loadedPlain
        (isUncached_plain sets setsPlain) fun _ _ named => by cases unnamed.symm.trans named
    exact ⟨outcome, last, expected, lastExpected, ran, ranPlain, withheld (.unnamed unnamed),
      output_plain setsPlain loadedPlain ranPlain⟩
  · obtain ⟨settings, sets, loaded⟩ := finds_caching "/Makefile" completing (by decide +kernel)
    obtain ⟨plain, setsPlain, loadedPlain⟩ := finds_plain "/Makefile" completing
    have named : settings.path (cachingHost "/Makefile").environment "cache_dir" =
        .ok rootFile := by
      rw [Settings.path, (setsCache_iff.1 sets).1.1.1, environment_cachingHost, inTheWay]
    obtain ⟨outcome, last, expected, lastExpected, ran, _, ranPlain, _, _, spared, _⟩ :=
      outcome_of_cache rootSetup ⟨rfl, rfl⟩ ⟨rfl, rfl⟩ rfl rfl loaded loadedPlain
        (isUncached_plain sets setsPlain) fun directory source isNamed _ => by
          obtain rfl := Except.ok.inj (named.symm.trans isNamed)
          exact hasNoFresh_cachingHost "/Makefile" settings source
    have printed := output_plain setsPlain loadedPlain ranPlain
    exact ⟨outcome, last, expected, lastExpected, ran, ranPlain,
      (spared rootFile named (spares_cachingHost "/Makefile" settings)).trans printed, printed⟩

end AnnotatedMake.CommandLine.Invocation
