import AnnotatedMake.Proofs.CommandLine.Sparing
import AnnotatedMake.Proofs.Host.Avoiding

namespace AnnotatedMake

open Program (LooksAlike)

variable [Platform]

namespace Settings

variable {host other : Host} {path : Path}

/-- A refusal is written in the same way on both hosts. -/
theorem looksAlike_refuse {α : Type} {returns : α → Prop} (reason : String) :
    (refuse reason).LooksAlike host other returns :=
  LooksAlike.bind (Program.looksAlike_report ..) fun _ _ => trivial

/-- Opening a document tells two hosts apart by its place alone. -/
theorem looksAlike_openDocument (alike : host.SeesAlike other path) :
    (openDocument path).LooksAlike host other fun _ => True := by
  have read : (readDocument path).LooksAlike host other fun _ => True := by
    refine LooksAlike.bind (Program.looksAlike_contentOf alike) fun content _ => ?_
    split
    · exact Program.looksAlike_ofReply fun _ _ => trivial
    · trivial
  refine read.recover fun fault => ?_
  split
  · exact looksAlike_refuse _
  · split
    · exact looksAlike_refuse _
    · trivial

/-- A section is found without a look at the host. -/
theorem looksAlike_sectionIn (document : Toml.Members) :
    (sectionIn path document).LooksAlike host other fun _ => True := by
  rw [sectionIn]
  split
  · trivial
  · trivial
  · exact looksAlike_refuse _

/-- Settings are made from a section without a look at the host. -/
theorem looksAlike_ofSection (locations : Locations) (entries : OrderedMap String Value) :
    (ofSection locations entries).LooksAlike host other fun _ => True :=
  LooksAlike.bind (Program.looksAlike_forEach (Program.looksAlike_report _) _) fun _ _ =>
    LooksAlike.bind (Program.looksAlike_forEach (Program.looksAlike_report _) _) fun _ _ => trivial

/-- The name of a file is resolved by the environment alone. -/
theorem looksAlike_fileNamed (locations : Locations) (name : String)
    (same : other.environment = host.environment) :
    (fileNamed locations name).LooksAlike host other fun _ => True := by
  rw [fileNamed]
  split
  · trivial
  · exact (Program.looksAlike_pathOf name same).mono fun _ _ => trivial

/-- Settings are loaded alike where the settings file is seen alike. -/
theorem looksAlike_load (locations : Locations) (name : String)
    (same : other.environment = host.environment)
    (alike : ∀ path, (fileNamed locations name).ComesTo host (.ok path) →
      host.SeesAlike other path) :
    (load locations name).LooksAlike host other fun _ => True := by
  refine LooksAlike.bind (looksAlike_fileNamed locations name same).comesTo
    fun path ⟨_, named⟩ => ?_
  refine LooksAlike.bind (Program.looksAlike_isThere (alike path named)) fun there _ => ?_
  split
  · refine LooksAlike.bind (Program.looksAlike_report ..) fun _ _ => ?_
    refine LooksAlike.bind (looksAlike_openDocument (alike path named)) fun document _ => ?_
    exact LooksAlike.bind (looksAlike_sectionIn document) fun entries _ =>
      looksAlike_ofSection locations entries
  · split
    · exact LooksAlike.bind (Program.looksAlike_report ..) fun _ _ => trivial
    · trivial

/-- A list of texts is read from the settings alone. -/
theorem looksAlike_readTexts (settings : Settings) (name : String) (fallback : List String) :
    (settings.readTexts name fallback).LooksAlike host other
      fun texts => texts = settings.texts name fallback := by
  rw [readTexts]
  cases settings.listWarning? name with
  | some warning => exact LooksAlike.bind (Program.looksAlike_report ..) fun _ _ => rfl
  | none => exact rfl

end Settings

namespace IndexCache

variable {host other : Host} {source : Path}

/-- Parsing lines asks the host nothing. -/
theorem looksAlike_parse (cache : IndexCache) (lines : List String) :
    (cache.parse lines).LooksAlike host other fun _ => True :=
  LooksAlike.bind (Program.looksAlike_forEach (fun _ => Program.looksAlike_report ..) _)
    fun _ _ => trivial

/-- Reading the lines of a file asks about that file alone. -/
theorem looksAlike_readLines (alike : host.SeesAlike other source) :
    (readLines source).LooksAlike host other fun _ => True :=
  LooksAlike.bind (Program.looksAlike_contentOf alike) fun _ _ => trivial

/-- A cache that is not used looks at nothing but the Makefile. -/
theorem looksAlike_ensureFresh {cache : IndexCache} (disabled : cache.enabled = false)
    (alike : host.SeesAlike other source) :
    (cache.ensureFresh source none).LooksAlike host other fun _ => True := by
  have lines : (sourceLines? source).LooksAlike host other fun _ => True := by
    refine LooksAlike.recover (LooksAlike.bind (looksAlike_readLines alike) fun _ _ => trivial)
      fun fault => ?_
    split
    · exact LooksAlike.bind (Program.looksAlike_report ..) fun _ _ => trivial
    · trivial
  refine LooksAlike.bind lines fun found _ => ?_
  cases found with
  | none => trivial
  | some lines =>
      dsimp only
      rw [indexOf, disabled]
      exact LooksAlike.bind (looksAlike_parse cache lines) fun _ _ => trivial

end IndexCache

/-- Two hosts show the same Makefile under given settings. -/
def Settings.ShowsAlike (settings : Settings) (host other : Host) : Option Path → Prop
  | some path => host.SeesAlike other path
  | none => other.directory = host.directory ∧
    ∀ base, host.currentDirectory = .ok base →
      ∀ name ∈ settings.texts "makefiles" Schema.defaultMakefiles,
        host.SeesAlike other (base.child name)

namespace Session

variable {session : Session} {host other : Host} {file : Option Path}

/-- A session is made from the settings and the environment. -/
theorem looksAlike_ofSettings (settings : Settings)
    (same : other.environment = host.environment) :
    (ofSettings settings).LooksAlike host other fun session =>
      session.settings = settings ∧ session.cache.enabled = settings.flag "use_cache" true :=
  LooksAlike.bind (Program.looksAlike_pathOf _ same) fun _ _ => ⟨rfl, rfl⟩

/-- The first file of a directory is sought among the names given. -/
theorem looksAlike_firstFile? {directory : Path} {names : List String}
    (alike : ∀ name ∈ names, host.SeesAlike other (directory.child name)) :
    (firstFile? directory names).LooksAlike host other fun found =>
      ∀ path ∈ found, host.SeesAlike other path := by
  induction names with
  | nil => exact fun _ none => nomatch none
  | cons name rest ih =>
      have first := alike name (List.mem_cons_self ..)
      refine LooksAlike.bind (Program.looksAlike_isFile first) fun isFile _ => ?_
      split
      · rintro path ⟨⟩
        exact first
      · exact ih fun other member => alike other (List.mem_cons_of_mem _ member)

/-- The source is sought where the settings show the hosts alike. -/
theorem looksAlike_findSource (shows : session.settings.ShowsAlike host other none) :
    (session.findSource none).LooksAlike host other fun found =>
      ∀ path ∈ found, host.SeesAlike other path := by
  refine LooksAlike.bind (Program.looksAlike_currentDirectory shows.1) fun base here => ?_
  refine LooksAlike.bind (Settings.looksAlike_readTexts ..) fun names named => ?_
  exact looksAlike_firstFile? (named ▸ shows.2 base here)

/-- Without a source both hosts give nothing. -/
theorem looksAlike_orNothing {α : Type} {source : Option Path} {program : Program (Option α)}
    {returns : Option α → Prop} (alike : program.LooksAlike host other returns)
    (nothing : returns none) : (orNothing source program).LooksAlike host other returns := by
  refine alike.recover fun fault => ?_
  split
  · exact LooksAlike.bind (Program.looksAlike_reportFault ..) fun _ _ => nothing
  · trivial

/-- The source of a request is sought where the hosts are alike. -/
theorem looksAlike_sourceFor (shows : session.settings.ShowsAlike host other file) :
    (session.sourceFor file).LooksAlike host other fun found =>
      ∀ path ∈ found, host.SeesAlike other path := by
  cases file with
  | some path =>
      rintro other ⟨⟩
      exact shows
  | none =>
      refine looksAlike_orNothing (LooksAlike.bind (looksAlike_findSource shows)
        fun found alike => ?_) fun _ none => nomatch none
      cases found with
      | some path => exact alike
      | none => exact LooksAlike.bind (Program.looksAlike_report ..) fun _ _ => alike

/-- A session whose cache is not used looks at nothing but the Makefile. -/
theorem looksAlike_complete (query : Query) (disabled : session.cache.enabled = false)
    (shows : session.settings.ShowsAlike host other file) :
    (session.complete query file).LooksAlike host other fun _ => True := by
  have index : (session.indexFor file).LooksAlike host other fun _ => True := by
    refine LooksAlike.bind (looksAlike_sourceFor shows) fun found alike => ?_
    cases found with
    | none => trivial
    | some path =>
        have parsed := IndexCache.looksAlike_ensureFresh disabled (alike path rfl)
        exact looksAlike_orNothing (parsed.bind fun _ _ => trivial) trivial
  rw [complete]
  split
  · refine LooksAlike.bind index fun index _ => ?_
    cases index with
    | none => trivial
    | some index => exact LooksAlike.bind (Program.looksAlike_report ..) fun _ _ => trivial
  · trivial

end Session

namespace CommandLine

variable {session : Session} {settings : Settings} {host other : Host} {file : Option Path}
  {command : Command}

/-- A source that has to be there is sought alike on both hosts. -/
theorem looksAlike_requireSource (shows : session.settings.ShowsAlike host other file) :
    (requireSource session file).LooksAlike host other fun path => host.SeesAlike other path := by
  have missing (place : String) : LooksAlike host other (fun path => host.SeesAlike other path)
      ((Program.report .error ("No Makefile found " ++ place)).bind fun _ =>
        (.fail .reported : Program Path)) :=
    LooksAlike.bind (Program.looksAlike_report ..) fun _ _ => trivial
  cases file with
  | some path =>
      change LooksAlike host other _ ((Program.isFile path).bind _)
      refine LooksAlike.bind (Program.looksAlike_isFile shows) fun isThere _ => ?_
      cases isThere with
      | true => exact shows
      | false => exact missing _
  | none =>
      refine LooksAlike.bind (Session.looksAlike_findSource shows) fun found alike => ?_
      cases found with
      | none => exact missing _
      | some path =>
          have here := alike path rfl
          refine LooksAlike.bind (Program.looksAlike_isFile here) fun isThere _ => ?_
          cases isThere with
          | true => exact here
          | false => exact missing _

/-- A query is read off the request alone. -/
theorem looksAlike_queryOf (line : Given String) (cursor : Given Int) (words : List String) :
    (queryOf line cursor words).LooksAlike host other fun _ => True := by
  rw [queryOf.eq_def]
  split <;> trivial

/-- The Makefile that is named on a command line. -/
def Given.named : Given Path → Option Path
  | .value path => some path
  | _ => none

/-- With the cache disabled candidates come from the source alone. -/
theorem looksAlike_candidatesFor (query : Query) {given : Given Path}
    (disabled : session.cache.enabled = false)
    (shows : session.settings.ShowsAlike host other given.named) :
    (candidatesFor session query given).LooksAlike host other fun _ => True := by
  cases given with
  | value | absent => exact Session.looksAlike_complete query disabled shows
  | blank =>
      rw [candidatesFor]
      split <;> trivial

/-- A script without a destination is printed. -/
theorem looksAlike_script (settings : Settings) (shell : Shell) :
    (script settings shell none).LooksAlike host other fun _ => True := by
  have request : ScriptRequest.ofArguments [shell.name] = .ok ⟨shell, none⟩ := by
    cases shell <;> decide
  have answered : (ScriptRequest.answer [shell.name] settings).LooksAlike host other
      fun _ => True := by
    rw [ScriptRequest.answer, request]
    refine LooksAlike.bind (Settings.looksAlike_readTexts ..) fun commands _ => ?_
    cases commands <;> trivial
  refine LooksAlike.bind answered fun result _ => ?_
  split <;> trivial

/-- The Makefile that a command is given. -/
def Command.givenFile : Command → Option Path
  | .complete given .. => given.named
  | .dump file _ => file
  | .targets file => file
  | _ => none

/-- A command that is to do without cache files, and writes nothing else. -/
def Command.NeedsNoCache (settings : Settings) : Command → Prop
  | .dump .. | .targets _ => True
  | .script _ destination => destination = none
  | .complete .. => settings.flag "use_cache" true = false
  | .clearCache => False

/-- A command that does without cache files looks at nothing but its Makefile. -/
theorem Command.looksAlike_perform (bypasses : command.NeedsNoCache settings)
    (same : other.environment = host.environment)
    (shows : settings.ShowsAlike host other command.givenFile) :
    (command.perform settings).LooksAlike host other fun _ => True := by
  have opened := Session.looksAlike_ofSettings settings same
  cases command with
  | clearCache => exact bypasses.elim
  | script shell destination =>
      obtain rfl : destination = none := bypasses
      exact looksAlike_script settings shell
  | complete given line cursor words =>
      refine LooksAlike.bind opened fun session ⟨set, enabled⟩ => ?_
      have disabled : session.cache.enabled = false := enabled.trans bypasses
      rw [← set] at shows
      refine LooksAlike.bind (looksAlike_queryOf ..) fun query _ => ?_
      exact LooksAlike.bind (looksAlike_candidatesFor query disabled shows) fun _ _ => trivial
  | dump given structured =>
      refine LooksAlike.bind opened fun session ⟨set, _⟩ => ?_
      rw [← set] at shows
      refine LooksAlike.bind (looksAlike_requireSource shows) fun source here => ?_
      refine LooksAlike.bind (IndexCache.looksAlike_readLines here) fun lines _ => ?_
      exact LooksAlike.bind (IndexCache.looksAlike_parse ..) fun _ _ => trivial
  | targets given =>
      refine LooksAlike.bind opened fun session ⟨set, _⟩ => ?_
      rw [← set] at shows
      refine LooksAlike.bind (looksAlike_requireSource shows) fun source here => ?_
      exact LooksAlike.bind (IndexCache.looksAlike_readLines here) fun _ _ => trivial

/-- What a command does after a fault is the same on both hosts. -/
theorem Command.looksAlike_afterFault (command : Command) (fault : Fault) :
    (command.afterFault fault).LooksAlike host other fun _ => True := by
  rw [afterFault]
  split
  · trivial
  · cases fault.isSystem <;>
      exact LooksAlike.bind (Program.looksAlike_reportFault ..) fun _ _ => trivial

/-- Delivering an answer asks the host nothing that differs. -/
theorem Command.looksAlike_deliver (command : Command) (streams : Streams) (answer : Answer) :
    (command.deliver streams answer).LooksAlike host other fun _ => True := by
  simp only [deliver, Program.pure_eq_done, Program.bind_eq_bind]
  split
  · trivial
  · exact LooksAlike.bind (command.looksAlike_afterFault _) fun _ _ => trivial

theorem looksAlike_reportReady (logger : Option String) :
    (reportReady logger).LooksAlike host other fun _ => True :=
  Program.looksAlike_report ..

namespace Invocation

variable {invocation : Invocation} {locations : Locations}

/-- The paths that a command line and its settings name. -/
inductive Names (invocation : Invocation) (locations : Locations) (host : Host) : Path → Prop
  | settings {path : Path}
      (named : (Settings.fileNamed locations invocation.settingsFile).ComesTo host (.ok path)) :
      Names invocation locations host path
  | given {file : Path} (given : invocation.command.givenFile = some file) :
      Names invocation locations host file
  | found {settings : Settings} {base : Path} {name : String}
      (notGiven : invocation.command.givenFile = none)
      (loaded : (invocation.settings locations).ComesTo host (.ok settings))
      (here : host.currentDirectory = .ok base)
      (listed : name ∈ settings.texts "makefiles" Schema.defaultMakefiles) :
      Names invocation locations host (base.child name)

/-- A command line that does without cache files and shows its log. -/
structure Bypasses (invocation : Invocation) (setup : Setup) (host : Host) : Prop where
  screen : invocation.debugFile = ""
  shows : ∃ layout, setup.layout host.environment = .ok layout
  command : ∀ settings, (invocation.settings setup.locations).ComesTo host (.ok settings) →
    invocation.command.NeedsNoCache settings

/-- Settings are read from files that both hosts show alike. -/
theorem looksAlike_settings (same : other.environment = host.environment)
    (alike : ∀ path, invocation.Names locations host path → host.SeesAlike other path) :
    (invocation.settings locations).LooksAlike host other fun _ => True := by
  have loaded := Settings.looksAlike_load locations invocation.settingsFile same
    fun path named => alike path (.settings named)
  refine LooksAlike.bind (looksAlike_reportReady _) fun _ _ => loaded.recover fun fault => ?_
  split <;> trivial

/-- A command line that does without cache files looks at nothing but the paths that it names. -/
theorem looksAlike_answer {setup : Setup} (bypasses : invocation.Bypasses setup host)
    (directory : other.directory = host.directory)
    (same : other.environment = host.environment)
    (alike : ∀ path, invocation.Names setup.locations host path → host.SeesAlike other path) :
    (invocation.answer setup.locations).LooksAlike host other fun _ => True := by
  refine LooksAlike.bind (looksAlike_reportReady _) fun _ _ => LooksAlike.recover
    (LooksAlike.bind (looksAlike_settings same alike).comesTo fun settings ⟨_, loaded⟩ => ?_)
    fun fault => Command.looksAlike_afterFault ..
  have shows : settings.ShowsAlike host other invocation.command.givenFile := by
    cases given : invocation.command.givenFile with
    | some file => exact alike file (.given given)
    | none =>
        exact ⟨directory, fun base here name listed => alike _ (.found given loaded here listed)⟩
  exact LooksAlike.bind (looksAlike_reportReady _) fun _ _ =>
    Command.looksAlike_perform (bypasses.command settings loaded) same shows

/-- A request that bypasses the cache is delivered alike on both hosts. -/
theorem looksAlike_delivery {setup : Setup} (bypasses : invocation.Bypasses setup host)
    (directory : other.directory = host.directory)
    (same : other.environment = host.environment)
    (alike : ∀ path, invocation.Names setup.locations host path → host.SeesAlike other path) :
    (invocation.delivery setup).LooksAlike host other fun _ => True :=
  LooksAlike.bind (looksAlike_answer bypasses directory same alike) fun answer _ =>
    invocation.command.looksAlike_deliver setup.toStreams answer

/-- Faults are answered, so what is collected on the way to an answer comes with one. -/
theorem run_collecting_delivery (invocation : Invocation) (setup : Setup) (host : Host) :
    ∃ answer entries last, (Program.collecting [] (invocation.delivery setup)).run host =
      (.ok (.ok answer, entries), last) := by
  obtain ⟨outcome, after, news, runs, collects⟩ :=
    Program.run_logging (keepsLogFile_delivery invocation setup) host
  obtain ⟨ready, answers⟩ := run_answer invocation setup.locations (host.logging [])
  obtain ⟨_, answered⟩ := answers _ _ rfl
  obtain ⟨_, delivers⟩ := run_delivery answered
  obtain ⟨rfl, _⟩ := Prod.mk.inj ((runs []).symm.trans delivers)
  obtain ⟨last, collected, _⟩ := collects []
  exact ⟨_, _, last, collected⟩

/-- Without cache files the outcome hangs on the paths that are named alone. -/
theorem outcome_of_seesAlike (setup : Setup) (bypasses : invocation.Bypasses setup host)
    (directory : other.directory = host.directory)
    (same : other.environment = host.environment)
    (alike : ∀ path, invocation.Names setup.locations host path → host.SeesAlike other path) :
    ∃ outcome, (invocation.outcome setup).run host = (.ok outcome, host) ∧
      (invocation.outcome setup).run other = (.ok outcome, other) := by
  obtain ⟨answer, entries, last, collected⟩ := run_collecting_delivery invocation setup host
  obtain ⟨collection, ran, ranToo⟩ :=
    (looksAlike_delivery bypasses directory same alike).run_collecting []
  obtain ⟨told, rfl⟩ := Prod.mk.inj (ran.symm.trans collected)
  obtain rfl := Except.ok.inj told
  obtain ⟨layout, shows⟩ := bypasses.shows
  refine ⟨answer.outcome (if setup.hasErrors then shown setup.debug layout entries else ""),
    ?_, ?_⟩
  · simp only [outcome, if_pos bypasses.screen, Program.bind_eq_bind, Program.environment,
      Program.bind]
    rw [Program.run_call]
    dsimp only [Host.perform]
    rw [shows, Program.ofReply, Program.run_bind, Program.run_done]
    dsimp only
    rw [Program.run_bind, ran]
    rfl
  · simp only [outcome, if_pos bypasses.screen, Program.bind_eq_bind, Program.environment,
      Program.bind]
    rw [Program.run_call]
    dsimp only [Host.perform]
    rw [same, shows, Program.ofReply, Program.run_bind, Program.run_done]
    dsimp only
    rw [Program.run_bind, ranToo]
    rfl

end Invocation

/-- Without cache files the outcome is the same whatever lies at a place that is avoided. -/
theorem outcome_of_avoided (setup : Setup) (arguments : List String) {home : Location}
    {host other : Host} (agree : Host.AgreesOutside home host other)
    (bypasses : ∀ invocation, Invocation.ofArguments arguments = .ok invocation →
      invocation.Bypasses setup host ∧
        ∀ path, invocation.Names setup.locations host path → host.Avoids home path) :
    ∃ outcome, (outcomeOf setup arguments).run host = (.ok outcome, host) ∧
      (outcomeOf setup arguments).run other = (.ok outcome, other) := by
  rw [outcomeOf]
  cases asked : Invocation.ofArguments arguments with
  | error stop => exact ⟨stop.outcome, rfl, rfl⟩
  | ok invocation =>
      obtain ⟨bypasses, avoids⟩ := bypasses invocation asked
      exact Invocation.outcome_of_seesAlike setup bypasses agree.directory agree.environment
        fun path named => agree.seesAlike (avoids path named)

end CommandLine

end AnnotatedMake

namespace AnnotatedMake.CommandLine

open IndexCache Invocation

/-- A settings file that puts the cache in a directory and turns it off. -/
def bypassing : Bytes := bytesOf "[makecomp]\ncache_dir = \"/cache\"\nuse_cache = false\n"

/-- A host with this settings file, and files in the directory of the cache. -/
def stockedHost : Host :=
  { settingsHost bypassing with
    files := ((settingsHost bypassing).files.put ["cache"] (.directory 7)).put
      ["cache", "kept.cache"] (.file (bytesOf "kept") 7) }

/-- The hosts of the witness differ inside the cache directory alone. -/
theorem agreesOutside_stockedHost :
    Host.AgreesOutside ["cache"] (settingsHost bypassing) stockedHost where
  directory := rfl
  environment := rfl
  outside place apart := by
    rw [stockedHost, FileSystem.node?_put, FileSystem.node?_put, if_neg, if_neg]
    · rintro rfl
      exact apart List.prefix_rfl
    · rintro rfl
      exact apart (List.prefix_append ["cache"] ["kept.cache"])

/-- A plain name other than the cache's leads around it. -/
theorem avoids_settingsHost {name : String} (plain : IsPlainName name)
    (short : FileSystem.isLongName name = false) (other : name ≠ "cache") :
    (settingsHost bypassing).Avoids ["cache"] ⟨.root, [name]⟩ :=
  Host.avoids_of_root (root_settingsHost bypassing) plain short (notLink_settingsHost bypassing _)
    (by simpa using other.symm)

/-- Without the cache a completion comes to the same whether its directory is there or not. -/
theorem outcome_of_avoided_cache :
    let arguments := ["complete", "--file", "/Makefile", "--", "make", ""]
    ∃ outcome, (outcomeOf rootSetup arguments).run (settingsHost bypassing) =
        (.ok outcome, settingsHost bypassing) ∧
      (outcomeOf rootSetup arguments).run stockedHost = (.ok outcome, stockedHost) := by
  intro arguments
  have asked : Invocation.ofArguments arguments = .ok ⟨"", "", completing⟩ := by decide +kernel
  refine outcome_of_avoided rootSetup arguments agreesOutside_stockedHost fun invocation read => ?_
  obtain rfl := Except.ok.inj (asked.symm.trans read)
  obtain ⟨settings, sets, loaded⟩ : ∃ settings, setsCache "/cache" false settings = true ∧
      (Invocation.settings ⟨"", "", completing⟩ rootSetup.locations).Finds
        (settingsHost bypassing) (.ok settings) :=
    Invocation.finds_settings_of_root (Program.finds_done _ _) (root_settingsHost bypassing)
      isPlainName_settings (by decide) (settings_settingsHost bypassing) (by decide +kernel)
  refine ⟨⟨rfl, ⟨_, rfl⟩, fun others came => ?_⟩, fun path named => ?_⟩
  · obtain ⟨_, ran⟩ := loaded []
    obtain rfl := Except.ok.inj ((congrArg Prod.fst ran).symm.trans (came []))
    exact (setsCache_iff.1 sets).1.1.2
  · cases named with
    | settings named =>
        obtain rfl : (⟨.root, ["settings"]⟩ : Path) = path := Except.ok.inj (named [])
        exact avoids_settingsHost isPlainName_settings (by decide) (by decide)
    | given given =>
        obtain rfl : rootFile = path := Option.some.inj given
        exact avoids_settingsHost ⟨⟨⟨by decide, by decide⟩, by decide⟩, by decide⟩ (by decide)
          (by decide)
    | found notGiven => cases notGiven

end AnnotatedMake.CommandLine
