import AnnotatedMake.Proofs.CommandLine.Ending
import AnnotatedMake.Proofs.Completion.Comparing

namespace AnnotatedMake.CommandLine.Invocation

open Program (ComesTo KeepsLogFile)

variable [Platform]

variable {invocation : Invocation} {locations : Locations} {setup : Setup} {host other : Host}
  {path : Path} {fault : Fault}

/-- The settings file of a command line is there, and a fault keeps it from being used. -/
structure Misses (invocation : Invocation) (locations : Locations) (host : Host) (path : Path)
    (fault : Fault) : Prop where
  named : (Settings.fileNamed locations invocation.settingsFile).Finds host (.ok path)
  there : (Program.isThere path).Finds host (.ok true)
  unusable : Settings.held locations host path = .error fault

/-- A host without the settings file that shows a completion the same otherwise. -/
structure LacksSettings (invocation : Invocation) (locations : Locations) (file : Option Path)
    (host other : Host) : Prop where
  directory : other.directory = host.directory
  environment : other.environment = host.environment
  absent : ∃ path, (Settings.fileNamed locations invocation.settingsFile).Finds other (.ok path) ∧
    (Program.isThere path).Finds other (.ok false)
  source : ∀ source, Session.LooksAt Schema.defaultMakefiles host file source →
    host.SeesAlike other source ∧ other.resolve source = host.resolve source
  cacheFile : ∀ source resolved base,
    Session.LooksAt Schema.defaultMakefiles host file source →
    host.resolve source = .ok resolved →
    (Settings.standard locations).path host.environment "cache_dir" = .ok base →
    host.SeesAlike other (base.child (IndexCache.nameOf Schema.defaultMarker resolved))
  shallow : ∀ base, (Settings.standard locations).path host.environment "cache_dir" = .ok base →
    base.parts.length < Program.levelLimit
  current : host.HasPlainDirectory

section Completion

variable {file : Given Path} {line : Given String} {cursor : Given Int} {words : List String}

/-- Under the standard settings a completion is answered alike with and without the settings
file. -/
theorem LacksSettings.outcome_complete
    (lacks : invocation.LacksSettings locations file.content? host other) :
    ((complete (.standard locations) file line cursor words).run (other.logging [])).1 =
      ((complete (.standard locations) file line cursor words).run (host.logging [])).1 := by
  cases named : (Settings.standard locations).path host.environment "cache_dir" with
  | error fault =>
      have unnamed : (Settings.standard locations).path (host.logging []).environment "cache_dir" =
          .error fault := named
      have unnamedOther : (Settings.standard locations).path (other.logging []).environment
          "cache_dir" = .error fault := lacks.environment ▸ named
      rw [outcome_complete_unnamed unnamed, outcome_complete_unnamed unnamedOther]
  | ok base =>
      have namedOther := named
      rw [← lacks.environment] at namedOther
      have currentOther : other.HasPlainDirectory := by
        rw [Host.HasPlainDirectory, lacks.directory]
        exact lacks.current
      have noSlash (part : String) (member : part ∈ base.parts) : '/' ∉ part.toList :=
        (Environment.parts_of_pathOf named part member).1
      have alike : (Session.within (.standard locations) base).LookAlike
          (.within (.standard locations) base) host other file.content? :=
        ⟨lacks.directory, rfl, fun source looks => (lacks.source source looks).1⟩
      refine outcome_complete_eq named namedOther fun query => ?_
      refine alike.complete_eq ⟨noSlash, fun _ => lacks.shallow base named, fun _ => lacks.current⟩
        ⟨noSlash, fun _ => lacks.shallow base named, fun _ => currentOther⟩ fun source found => ?_
      have looks := Session.looksAt_of_sourceFor found
      obtain ⟨sourceAlike, resolves⟩ := lacks.source source looks
      exact IndexCache.given_alike sourceAlike resolves fun resolved resolvedTo =>
        lacks.cacheFile source resolved base looks resolvedTo named

end Completion

/-- The exit code of a command whose settings cannot be used. -/
def missingCode (fault : Fault) : Command → Nat
  | .complete .. => 0
  | .dump .. | .targets _ => if fault = .reported then 2 else 4
  | .script .. | .clearCache => if fault = .reported then 1 else 4

omit [Platform] in
/-- The exit code of a fault is the one its command gives. -/
theorem code_settled {command : Command}
    (fatal : (decide (fault = .reported) && command.isCompletion) = false) :
    (command.settled (.error fault)).code.number = missingCode fault command := by
  by_cases reported : fault = .reported
  · rw [decide_eq_true reported, Bool.true_and] at fatal
    cases command with
    | complete => cases fatal
    | script | dump | targets | clearCache =>
        simp [Command.settled, missingCode, reported, Command.refusal, ExitCode.number]
  · cases command <;>
      simp [Command.settled, missingCode, reported, Command.failure, Command.isCompletion,
        ExitCode.number]

/-- Unusable settings are told by the exit code of every command but a completion. -/
theorem outcome_of_misses (setup : Setup) (shown : invocation.IsShown setup.toStreams)
    (misses : invocation.Misses setup.locations host path fault) :
    ∃ outcome last, (invocation.outcome setup).run host = (.ok outcome, last) ∧
      outcome.code = missingCode fault invocation.command ∧
      ((decide (fault = .reported) && invocation.command.isCompletion) = false →
        outcome.output = "" ∧ last.files = host.files) ∧
      ∀ file line cursor words other, invocation.command = .complete file line cursor words →
        fault = .reported → invocation.LacksSettings setup.locations file.content? host other →
        ∃ lacking last, (invocation.outcome setup).run other = (.ok lacking, last) ∧
          lacking.output = outcome.output := by
  have failed := Settings.finds_load misses.named misses.there
  rw [misses.unusable] at failed
  cases fatal : decide (fault = .reported) && invocation.command.isCompletion with
  | false =>
      have answered := finds_answer_of_fault (finds_settings_of_fault failed fatal)
      obtain ⟨_, last, ran, files⟩ := outcome_of_finds shown answered
      rw [Command.delivered_of_fault shown.errors] at ran
      refine ⟨_, last, ran, code_settled fatal, fun _ => ⟨rfl, files⟩, ?_⟩
      rintro file line cursor words other command rfl
      rw [command] at fatal
      cases fatal
  | true =>
      obtain ⟨reported, completes⟩ := Bool.and_eq_true_iff.1 fatal
      obtain rfl := of_decide_eq_true reported
      obtain ⟨file, line, cursor, words, command⟩ := Command.isCompletion_iff.1 completes
      have loaded := finds_settings_of_reported failed completes
      obtain ⟨_, last, ran, success⟩ := outcome_of_settings shown command loaded
      have code : missingCode .reported invocation.command = 0 := by rw [command]; rfl
      refine ⟨_, last, ran, ?_, nofun, ?_⟩
      · rw [code]
        exact congrArg ExitCode.number success
      · intro given text mark arguments other same _ lacks
        obtain ⟨rfl, rfl, rfl, rfl⟩ := Command.complete.inj (command.symm.trans same)
        obtain ⟨_, named, absent⟩ := lacks.absent
        have loadedOther := finds_settings (Settings.finds_load_of_absent named absent)
        obtain ⟨_, lastOther, ranOther, _⟩ := outcome_of_settings shown command loadedOther
        rw [lacks.outcome_complete] at ranOther
        exact ⟨_, lastOther, ranOther, rfl⟩

end AnnotatedMake.CommandLine.Invocation

namespace AnnotatedMake.CommandLine.Invocation

open IndexCache

/-- A host with a settings file next to its Makefile. -/
def settingsHost (content : Bytes) : Host where
  files := (rootHost (bytesOf "all:\n") 5).files.put ["settings"] (.file content 5)
  clock := 5

/-- The same host without the settings file. -/
def bareHost (content : Bytes) : Host :=
  { settingsHost content with files := (settingsHost content).files.drop ["settings"] }

section

variable (content : Bytes)

theorem node?_settingsHost (place : Location) : (settingsHost content).files.node? place =
    if place = ["settings"] then some (.file content 5)
    else if place = ["Makefile"] then some (.file (bytesOf "all:\n") 5)
    else if place = [] then some (.directory 0) else none := by
  rw [settingsHost, FileSystem.node?_put, node?_rootHost]

theorem notLink_settingsHost (place : Location) (target : String) :
    (settingsHost content).files.node? place ≠ some (.link target) := by
  rw [node?_settingsHost]
  split
  · simp
  · split
    · simp
    · split <;> simp

theorem root_settingsHost : (settingsHost content).files.node? [] = some (.directory 0) := by
  rw [node?_settingsHost, if_neg (by simp), if_neg (by simp), if_pos rfl]

theorem makefile_settingsHost :
    (settingsHost content).files.node? ["Makefile"] = some (.file (bytesOf "all:\n") 5) := by
  rw [node?_settingsHost, if_neg (by simp), if_pos rfl]

theorem settings_settingsHost :
    (settingsHost content).files.node? ["settings"] = some (.file content 5) := by
  rw [node?_settingsHost, if_pos rfl]

theorem isPlainName_settings : IsPlainName "settings" :=
  ⟨⟨⟨by decide, by decide⟩, by decide⟩, by decide⟩

/-- Paths of other names in the root directory do not notice that the settings file is absent. -/
theorem seesAlike_bareHost {name : String} (named : IsPlainName name)
    (short : FileSystem.isLongName name = false) (other : name ≠ "settings") :
    (settingsHost content).SeesAlike (bareHost content) ⟨.root, [name]⟩ := by
  refine .drop (settings_settingsHost content) fun start names along => ?_
  obtain ⟨rfl, rfl⟩ := Host.Route.along.inj
    (Except.ok.inj ((Host.route_of_root _ named short).symm.trans along))
  rw [FileSystem.lookUp_name (root_settingsHost content) named.toIsEntryName short
    fun target => notLink_settingsHost content _ target]
  constructor
  · intro node found
    split at found
    · have same := (Destination.found.inj (Except.ok.inj found)).1
      exact other (List.singleton_inj.1 same)
    · cases found
  · split <;> simp

/-- Unusable settings in the file of the witness are missed. -/
theorem misses_settingsHost (command : Command)
    (unusable : Settings.held rootSetup.locations (settingsHost content) ⟨.root, ["settings"]⟩ =
      .error fault) :
    Misses ⟨"", "", command⟩ rootSetup.locations (settingsHost content) ⟨.root, ["settings"]⟩
      fault where
  named := Program.finds_done _ _
  there := Settings.finds_isThere_of_root (root_settingsHost content) isPlainName_settings
    (by decide) (settings_settingsHost content)
  unusable := unusable

theorem node?_bareHost (place : Location) : (bareHost content).files.node? place =
    if place = ["settings"] then none else (settingsHost content).files.node? place := by
  rw [bareHost, FileSystem.node?_drop]

theorem root_bareHost : (bareHost content).files.node? [] = some (.directory 0) := by
  rw [node?_bareHost, if_neg (by simp), root_settingsHost]

theorem makefile_bareHost :
    (bareHost content).files.node? ["Makefile"] = some (.file (bytesOf "all:\n") 5) := by
  rw [node?_bareHost, if_neg (by simp), makefile_settingsHost]

/-- Without the file the settings are absent. -/
theorem absent_bareHost : (bareHost content).query ⟨.root, ["settings"]⟩ (.ok (.directory 0))
    (bareHost content).files.nodeAt = .error (.system Fault.notFound) := by
  have absent : (bareHost content).files.node? ["settings"] = none := by
    rw [node?_bareHost, if_pos rfl]
  exact Host.absent_of_root (root_bareHost content) isPlainName_settings (by decide) absent

/-- Nothing but the settings file is missing on the host without it. -/
theorem lacks_bareHost (command : Command) :
    LacksSettings ⟨"", "", command⟩ rootSetup.locations (some rootFile) (settingsHost content)
      (bareHost content) := by
  have standard : (Settings.standard rootSetup.locations).path (settingsHost content).environment
      "cache_dir" = .ok ⟨.root, []⟩ := Session.path_rootSettings
  have resolves : (settingsHost content).resolve rootFile = .ok rootFile :=
    resolve_rootFile (root_settingsHost content) (makefile_settingsHost content)
  refine ⟨rfl, rfl, ⟨_, Program.finds_done _ _, Settings.finds_isThere_of_absent
    (absent_bareHost content) rfl⟩, ?_, ?_, ?_, fun _ member => absurd member List.not_mem_nil⟩
  · rintro source rfl
    refine ⟨seesAlike_bareHost content ⟨⟨⟨by decide, by decide⟩, by decide⟩, by decide⟩ (by decide)
      (by decide), ?_⟩
    rw [resolves]
    exact resolve_rootFile (root_bareHost content) (makefile_bareHost content)
  · rintro source resolved base rfl found named
    obtain rfl := Except.ok.inj (standard.symm.trans named)
    rw [Path.child_of_oneName _ (isPlainName_nameOf _ _).toIsOneName]
    exact seesAlike_bareHost content (isPlainName_nameOf _ _) (isLongName_nameOf _ _)
      (nameOf_ne _ _ (by decide))
  · intro base named
    obtain rfl := Except.ok.inj (standard.symm.trans named)
    decide

end

/-- The first argument for the Makefile is completed. -/
def completing : Command := .complete (.value rootFile) .absent .absent ["make", ""]

/-- Settings that are no text cost a completion its candidates, and those that are no TOML do not.
-/
theorem outcome_of_misses_settings :
    (∃ outcome last, (Invocation.outcome ⟨"", "", completing⟩ rootSetup).run
      (settingsHost [255]) = (.ok outcome, last) ∧ outcome.output = "") ∧
    (∃ outcome last lacking lastLacking, (Invocation.outcome ⟨"", "", completing⟩ rootSetup).run
      (settingsHost (bytesOf "[")) = (.ok outcome, last) ∧
      (Invocation.outcome ⟨"", "", completing⟩ rootSetup).run (bareHost (bytesOf "[")) =
        (.ok lacking, lastLacking) ∧ lacking.output = outcome.output) ∧
    (∃ outcome last, (Invocation.outcome ⟨"", "", .dump none false⟩ rootSetup).run
      (settingsHost (bytesOf "[")) = (.ok outcome, last) ∧ outcome.code = 2) ∧
    (∃ outcome last, (Invocation.outcome ⟨"", "", .clearCache⟩ rootSetup).run
      (settingsHost (bytesOf "[")) = (.ok outcome, last) ∧ outcome.code = 1) := by
  have read (content : Bytes) : (settingsHost content).query ⟨.root, ["settings"]⟩
      (.error Fault.isDirectory) (settingsHost content).files.read = .ok content :=
    (Host.ends_of_root (root_settingsHost content) isPlainName_settings (by decide)).read
      (settings_settingsHost content)
  have noText : Settings.held rootSetup.locations (settingsHost [255]) ⟨.root, ["settings"]⟩ =
      .error .notText := by
    have undecoded : Utf8.decode? [255] = none := by decide
    rw [Settings.held, read, Settings.settingsIn, Except.bind, Settings.documentIn, undecoded]
    rfl
  have noToml : Settings.held rootSetup.locations (settingsHost (bytesOf "["))
      ⟨.root, ["settings"]⟩ = .error .reported := by
    have decoded : Utf8.decode? (bytesOf "[") = some ['['] := by decide
    have refused : Toml.read ['['] = .error .notToml := by rfl
    rw [Settings.held, read, Settings.settingsIn, Except.bind, Settings.documentIn, decoded]
    dsimp only
    rw [refused]
    rfl
  refine ⟨?_, ?_, ?_, ?_⟩
  · obtain ⟨outcome, last, ran, _, silent, _⟩ :=
      outcome_of_misses rootSetup ⟨rfl, rfl⟩ (misses_settingsHost [255] completing noText)
    exact ⟨outcome, last, ran, (silent rfl).1⟩
  · obtain ⟨outcome, last, ran, _, _, spared⟩ :=
      outcome_of_misses rootSetup ⟨rfl, rfl⟩ (misses_settingsHost (bytesOf "[") completing noToml)
    obtain ⟨lacking, lastLacking, ranLacking, same⟩ :=
      spared _ _ _ _ _ rfl rfl (lacks_bareHost (bytesOf "[") completing)
    exact ⟨outcome, last, lacking, lastLacking, ran, ranLacking, same⟩
  · obtain ⟨outcome, last, ran, code, _⟩ :=
      outcome_of_misses rootSetup ⟨rfl, rfl⟩
        (misses_settingsHost (bytesOf "[") (.dump none false) noToml)
    exact ⟨outcome, last, ran, code⟩
  · obtain ⟨outcome, last, ran, code, _⟩ :=
      outcome_of_misses rootSetup ⟨rfl, rfl⟩ (misses_settingsHost (bytesOf "[") .clearCache noToml)
    exact ⟨outcome, last, ran, code⟩

end AnnotatedMake.CommandLine.Invocation
