import AnnotatedMake.CommandLine.Outcome
import AnnotatedMake.Proofs.Completion.Offering
import AnnotatedMake.Proofs.Setting.Loading

namespace AnnotatedMake

variable [Platform]

namespace Program

variable {α : Type} {program : Program α}

omit [Platform] in
/-- Looking never chooses where the log is kept. -/
theorem CallsOnly.keepsLogFile (looks : program.CallsOnly IsLook) :
    program.CallsOnly KeepsLogFile :=
  looks.mono fun _ => keepsLogFile_of_isLook

/-- Making directories never chooses where the log is kept. -/
theorem keepsLogFile_makeDirectories (path : Path) :
    (makeDirectories path).CallsOnly KeepsLogFile :=
  (silent_makeDirectoriesUp levelLimit path).mono fun _ => keepsLogFile_of_isSilent

end Program

open Program (CallsOnly IsLook KeepsLogFile)

namespace IndexCache

omit [Platform] in
/-- Parsing lines only reports. -/
theorem looks_parse (cache : IndexCache) (lines : List String) :
    (cache.parse lines).CallsOnly IsLook :=
  CallsOnly.bind (Program.callsOnly_forEach (fun _ => Program.looks_report ..) _)
    fun _ => trivial

/-- Storing an index never chooses where the log is kept. -/
theorem keepsLogFile_store (index : ScopeIndex) (file : Path) :
    (store index file).CallsOnly KeepsLogFile := by
  have replaced : (replace index file).CallsOnly KeepsLogFile :=
    (silent_replace index file).mono fun _ => Program.keepsLogFile_of_isSilent
  refine CallsOnly.bind (CallsOnly.recover (replaced.bind fun _ => trivial) fun fault => ?_)
    fun written => ?_
  · split
    · exact CallsOnly.bind (Program.looks_report ..).keepsLogFile fun _ => trivial
    · trivial
  · cases written with
    | true => exact CallsOnly.bind (Program.looks_report ..).keepsLogFile fun _ => trivial
    | false => trivial

/-- Asking for an index never chooses where the log is kept. -/
theorem keepsLogFile_ensureFresh (cache : IndexCache) (source : Path) :
    (cache.ensureFresh source none).CallsOnly KeepsLogFile := by
  have lines : (sourceLines? source).CallsOnly IsLook := by
    refine CallsOnly.recover (CallsOnly.bind (CallsOnly.bind (Program.looks_contentOf source)
      fun _ => trivial) fun _ => trivial) fun fault => ?_
    split
    · exact CallsOnly.bind (Program.looks_report ..) fun _ => trivial
    · trivial
  have resolved : (cache.pathFor source).CallsOnly IsLook :=
    CallsOnly.bind ⟨trivial, fun _ => Program.callsOnly_ofReply _⟩ fun _ => trivial
  have parses (lines : List String) : (cache.parse lines).CallsOnly KeepsLogFile :=
    (looks_parse cache lines).keepsLogFile
  refine CallsOnly.bind lines.keepsLogFile fun found => ?_
  cases found with
  | none => trivial
  | some lines =>
      dsimp only
      rw [indexOf]
      cases cache.enabled with
      | false => exact (parses lines).bind fun _ => trivial
      | true =>
          refine CallsOnly.bind resolved.keepsLogFile fun file => ?_
          refine CallsOnly.bind (looks_loadFresh source file).keepsLogFile fun cached => ?_
          cases cached with
          | some index =>
              exact CallsOnly.bind (Program.looks_report ..).keepsLogFile fun _ => trivial
          | none =>
              refine CallsOnly.bind (Program.looks_report ..).keepsLogFile fun _ => ?_
              refine CallsOnly.bind (parses lines) fun index => ?_
              exact CallsOnly.bind (keepsLogFile_store index file) fun _ => trivial

omit [Platform] in
/-- Clearing a cache never chooses where the log is kept. -/
theorem keepsLogFile_clear (cache : IndexCache) : cache.clear.CallsOnly KeepsLogFile := by
  have removes (paths : List Path) : (removeFiles paths).CallsOnly KeepsLogFile := by
    induction paths with
    | nil => trivial
    | cons path rest ih =>
        refine CallsOnly.bind (Program.looks_isFile path).keepsLogFile fun isFile => ?_
        split
        · refine CallsOnly.bind ⟨trivial, fun _ => Program.callsOnly_ofReply _⟩ fun _ => ?_
          exact CallsOnly.bind ih fun _ => trivial
        · exact ih
  have asked : (Program.isDirectory cache.directory).CallsOnly KeepsLogFile :=
    (Program.silent_isDirectory _).mono fun _ => Program.keepsLogFile_of_isSilent
  refine CallsOnly.bind asked fun there => ?_
  split
  · exact CallsOnly.bind ⟨trivial, fun _ => Program.callsOnly_ofReply _⟩ fun _ => removes _
  · trivial

end IndexCache

namespace Session

/-- A session never chooses where the log is kept. -/
theorem keepsLogFile_complete (session : Session) (query : Query) (file : Option Path) :
    (session.complete query file).CallsOnly KeepsLogFile := by
  have recovered {α : Type} (source : Option Path) {program : Program (Option α)}
      (keeps : program.CallsOnly KeepsLogFile) :
      (orNothing source program).CallsOnly KeepsLogFile := by
    refine CallsOnly.recover keeps fun fault => ?_
    split
    · exact CallsOnly.bind (Program.looks_reportFault ..).keepsLogFile fun _ => trivial
    · trivial
  have index : (session.indexFor file).CallsOnly KeepsLogFile := by
    refine CallsOnly.bind (looks_sourceFor session file).keepsLogFile fun source => ?_
    cases source with
    | none => trivial
    | some path =>
        exact recovered _ ((IndexCache.keepsLogFile_ensureFresh _ _).bind fun _ => trivial)
  rw [complete]
  split
  · refine CallsOnly.bind index fun found => ?_
    cases found with
    | none => trivial
    | some index => exact CallsOnly.bind (Program.looks_report ..).keepsLogFile fun _ => trivial
  · trivial

end Session

namespace ScriptRequest

/-- A request for a script never chooses where the log is kept. -/
theorem keepsLogFile_answer (arguments : List String) (settings : Settings) :
    (answer arguments settings).CallsOnly KeepsLogFile := by
  have writes (shell : Shell) (script : String) (file : Path) :
      (writeScript shell script file).CallsOnly KeepsLogFile := by
    refine CallsOnly.bind (Program.looks_report ..).keepsLogFile fun _ => ?_
    refine CallsOnly.bind (Program.keepsLogFile_makeDirectories _) fun _ => ?_
    exact ⟨trivial, fun _ => Program.callsOnly_ofReply _⟩
  have installs (shell : Shell) (first : String) (rest : List String) (destination : String) :
      (install shell first rest destination).CallsOnly KeepsLogFile := by
    refine CallsOnly.bind ⟨trivial, fun _ => trivial⟩ fun environment => ?_
    refine CallsOnly.bind (Program.callsOnly_ofReply _) fun files => ?_
    refine CallsOnly.bind (CallsOnly.recover ((Program.callsOnly_forEach (writes _ _) _).bind
      fun _ => trivial) fun fault => ?_) fun written => ?_
    · split <;> trivial
    · cases written with
      | error failure => trivial
      | ok _ => exact CallsOnly.bind (Program.callsOnly_ofReply _) fun _ => trivial
  rw [answer]
  cases ofArguments arguments with
  | error error => trivial
  | ok request =>
      refine CallsOnly.bind (Session.looks_readTexts ..).keepsLogFile fun commands => ?_
      cases commands with
      | nil => trivial
      | cons first rest =>
          dsimp only
          cases request.destination with
          | none => trivial
          | some destination => exact installs _ _ _ _

end ScriptRequest

namespace CommandLine

omit [Platform] in
/-- That logging is ready is a report. -/
theorem looks_reportReady (logger : Option String) : (reportReady logger).CallsOnly IsLook :=
  Program.looks_report ..

/-- That logging is ready is one entry of the log. -/
theorem run_reportReady (logger : Option String) (host : Host) :
    ∃ ready, (reportReady logger).run host = (.ok (), host.report ready) := ⟨_, rfl⟩

theorem finds_reportReady (logger : Option String) (host : Host) :
    (reportReady logger).Finds host (.ok ()) :=
  Program.finds_report _ _ host

omit [Platform] in
/-- Looking for the Makefile changes nothing. -/
theorem looks_requireSource (session : Session) (file : Option Path) :
    (requireSource session file).CallsOnly IsLook := by
  have missing (place : String) : CallsOnly IsLook
      ((Program.report .error ("No Makefile found " ++ place)).bind fun _ =>
        (.fail .reported : Program Path)) :=
    CallsOnly.bind (Program.looks_report ..) fun _ => trivial
  cases file with
  | some path =>
      change CallsOnly IsLook ((Program.isFile path).bind _)
      refine CallsOnly.bind (Program.looks_isFile path) fun isThere => ?_
      cases isThere with
      | true => trivial
      | false => exact missing _
  | none =>
      refine CallsOnly.bind (Session.looks_findSource session none) fun found => ?_
      cases found with
      | none => exact missing _
      | some path =>
          refine CallsOnly.bind (Program.looks_isFile path) fun isThere => ?_
          cases isThere with
          | true => trivial
          | false => exact missing _

omit [Platform] in
/-- Reading lines changes nothing. -/
theorem looks_readLines (path : Path) : (readLines path).CallsOnly IsLook :=
  CallsOnly.bind (Program.looks_contentOf path) fun _ => trivial

/-- A completion never chooses where the log is kept. -/
theorem keepsLogFile_complete (settings : Settings) (file : Given Path) (line : Given String)
    (cursor : Given Int) (words : List String) :
    (complete settings file line cursor words).CallsOnly KeepsLogFile := by
  have query : (queryOf line cursor words).CallsOnly KeepsLogFile := by
    rw [queryOf.eq_def]
    split <;> trivial
  have candidates (session : Session) (query : Query) :
      (candidatesFor session query file).CallsOnly KeepsLogFile := by
    cases file with
    | value path => exact Session.keepsLogFile_complete session query (some path)
    | absent => exact Session.keepsLogFile_complete session query none
    | blank =>
        rw [candidatesFor]
        split <;> trivial
  refine CallsOnly.bind (Session.looks_ofSettings settings).keepsLogFile fun session => ?_
  exact query.bind fun query => (candidates session query).bind fun _ => trivial

/-- A dump changes nothing. -/
theorem looks_dump (settings : Settings) (file : Option Path) (structured : Bool) :
    (dump settings file structured).CallsOnly IsLook := by
  refine CallsOnly.bind (Session.looks_ofSettings settings) fun session => ?_
  refine CallsOnly.bind (looks_requireSource session file) fun source => ?_
  refine CallsOnly.bind (looks_readLines source) fun lines => ?_
  exact CallsOnly.bind (IndexCache.looks_parse session.cache lines) fun _ => trivial

/-- A list of rule names changes nothing. -/
theorem looks_targets (settings : Settings) (file : Option Path) :
    (targets settings file).CallsOnly IsLook := by
  refine CallsOnly.bind (Session.looks_ofSettings settings) fun session => ?_
  refine CallsOnly.bind (looks_requireSource session file) fun source => ?_
  exact CallsOnly.bind (looks_readLines source) fun _ => trivial

/-- The command that clears the cache never chooses where the log is kept. -/
theorem keepsLogFile_clearCache (settings : Settings) :
    (clearCache settings).CallsOnly KeepsLogFile := by
  refine CallsOnly.bind (Session.looks_ofSettings settings).keepsLogFile fun session => ?_
  exact CallsOnly.bind (IndexCache.keepsLogFile_clear session.cache) fun _ => trivial

/-- The command that gives a script never chooses where the log is kept. -/
theorem keepsLogFile_script (settings : Settings) (shell : Shell) (destination : Option String) :
    (script settings shell destination).CallsOnly KeepsLogFile := by
  refine CallsOnly.bind (ScriptRequest.keepsLogFile_answer ..) fun result => ?_
  split <;> trivial

/-- No command chooses where the log is kept. -/
theorem Command.keepsLogFile_answer (command : Command) (settings : Settings) :
    (command.answer settings).CallsOnly KeepsLogFile := by
  refine CallsOnly.bind (looks_reportReady _).keepsLogFile fun _ => ?_
  cases command with
  | complete file line cursor words => exact keepsLogFile_complete ..
  | script shell destination => exact keepsLogFile_script ..
  | dump file structured => exact (looks_dump ..).keepsLogFile
  | targets file => exact (looks_targets ..).keepsLogFile
  | clearCache => exact keepsLogFile_clearCache settings

omit [Platform] in
/-- A fault is met by reports alone. -/
theorem Command.looks_afterFault (command : Command) (fault : Fault) :
    (command.afterFault fault).CallsOnly IsLook := by
  rw [afterFault]
  split
  · trivial
  · cases fault.isSystem with
    | true => exact CallsOnly.bind (Program.looks_reportFault ..) fun _ => trivial
    | false => exact CallsOnly.bind (Program.looks_reportFault ..) fun _ => trivial

/-- What a command answers once it came to an outcome; a fault leaves nothing but an exit code. -/
def Command.settled (command : Command) : Except Fault Answer → Answer
  | .ok answer => answer
  | .error fault => { code := if fault = .reported then command.refusal else command.failure }

/-- After a fault a command settles its answer with reports. -/
theorem Command.run_afterFault (command : Command) (fault : Fault) (host : Host) :
    ∃ entries, (command.afterFault fault).run host =
      (.ok (command.settled (.error fault)), host.reportAll entries) := by
  rw [afterFault, settled]
  split
  · exact ⟨[], rfl⟩
  · cases fault.isSystem <;> exact ⟨[_], rfl⟩

/-- What a command has printed of its answer, and the exit code for that. -/
def Command.delivered (command : Command) (streams : Streams) (answer : Answer) : Answer :=
  let directed := answer.directed streams
  let settled := if directed.texts.all streams.accepts then directed
    else command.settled (.error .notEncoded)
  { settled with texts := streams.taken directed.texts }

omit [Platform] in
/-- Printing an answer changes nothing on the host. -/
theorem Command.looks_deliver (command : Command) (streams : Streams) (answer : Answer) :
    (command.deliver streams answer).CallsOnly IsLook := by
  simp only [deliver, Program.pure_eq_done, Program.bind_eq_bind]
  split
  · trivial
  · exact CallsOnly.bind (command.looks_afterFault _) fun _ => trivial

/-- An answer is printed with reports alone. -/
theorem Command.run_deliver (command : Command) (streams : Streams) (answer : Answer)
    (host : Host) : ∃ entries, (command.deliver streams answer).run host =
      (.ok (command.delivered streams answer), host.reportAll entries) := by
  simp only [deliver, delivered, Program.pure_eq_done, Program.bind_eq_bind]
  split
  · exact ⟨[], rfl⟩
  · obtain ⟨entries, ran⟩ := command.run_afterFault .notEncoded host
    exact ⟨entries, by rw [Program.run_bind, ran]; rfl⟩

omit [Platform] in
/-- While standard error is open, what is printed of an answer are its own texts. -/
theorem Command.texts_delivered {streams : Streams} (errors : streams.hasErrors = true)
    (command : Command) (answer : Answer) :
    (command.delivered streams answer).texts = streams.taken answer.texts := by
  rw [delivered, Answer.directed, if_pos errors]

omit [Platform] in
/-- After a fault there is nothing to print. -/
theorem Command.delivered_of_fault {streams : Streams} (errors : streams.hasErrors = true)
    (command : Command) (fault : Fault) :
    command.delivered streams (command.settled (.error fault)) =
      command.settled (.error fault) := by
  rw [delivered, Answer.directed, if_pos errors, settled, Streams.taken_nil]
  rfl

omit [Platform] in
/-- A completion that can be answered ends with success, whatever can be printed of the answer. -/
theorem Command.code_delivered {command : Command} (completes : command.isCompletion = true)
    (streams : Streams) {answer : Answer} (success : answer.code = .success) :
    (command.delivered streams answer).code = .success := by
  have directed : (answer.directed streams).code = .success := by
    rw [Answer.directed]
    split <;> exact success
  rw [delivered]
  dsimp only
  split
  · exact directed
  · rw [settled, if_neg nofun, failure, if_pos completes]

namespace Invocation

variable {invocation : Invocation} {host opened after : Host} {answer : Answer}

/-- Loading the settings of a command line changes nothing. -/
theorem looks_settings (invocation : Invocation) (locations : Locations) :
    (invocation.settings locations).CallsOnly IsLook := by
  refine CallsOnly.bind (looks_reportReady _) fun _ => ?_
  refine CallsOnly.recover (Settings.looks_load ..) fun fault => ?_
  split <;> trivial

/-- A command line never chooses where its log is kept. -/
theorem keepsLogFile_answer (invocation : Invocation) (locations : Locations) :
    (invocation.answer locations).CallsOnly KeepsLogFile := by
  refine CallsOnly.bind (looks_reportReady _).keepsLogFile fun _ => ?_
  refine CallsOnly.recover (CallsOnly.bind (looks_settings ..).keepsLogFile fun settings => ?_)
    fun fault => (Command.looks_afterFault ..).keepsLogFile
  exact invocation.command.keepsLogFile_answer settings

/-- Printing an answer never chooses where the log is kept. -/
theorem keepsLogFile_delivery (invocation : Invocation) (setup : Setup) :
    (invocation.delivery setup).CallsOnly KeepsLogFile :=
  CallsOnly.bind (keepsLogFile_answer invocation setup.locations) fun answer =>
    (invocation.command.looks_deliver setup.toStreams answer).keepsLogFile

/-- The host once the log of a command line is open. -/
def start (invocation : Invocation) (streams : Streams) (host : Host) : Except Fault Host :=
  if invocation.debugFile = "" then
    (streams.layout host.environment).map fun _ => host.logging []
  else match host.openLog (Path.ofString invocation.debugFile) with
    | (.ok (), opened) => .ok opened
    | (.error fault, _) => .error fault

/-- The log of a command line is shown on a screen that is there. -/
structure IsShown (invocation : Invocation) (streams : Streams) : Prop where
  screen : invocation.debugFile = ""
  errors : streams.hasErrors = true

omit [Platform] in
/-- A log that is shown has a layout. -/
theorem IsShown.layout {streams : Streams} (shown : invocation.IsShown streams)
    (environment : Environment) : streams.layout environment =
      .ok { colored := Layout.usesColor environment streams.isTerminal } := by
  rw [Streams.layout, shown.errors, Bool.not_true, Bool.and_false]
  rfl

omit [Platform] in
/-- A log that is shown is opened without a fault. -/
theorem IsShown.start {streams : Streams} (shown : invocation.IsShown streams) (host : Host) :
    invocation.start streams host = .ok (host.logging []) := by
  rw [Invocation.start, if_pos shown.screen, shown.layout]
  rfl

/-- Faults are answered, so there is always an answer. -/
theorem run_answer (invocation : Invocation) (locations : Locations) (host : Host) :
    ∃ ready, ∀ outcome after,
      ((invocation.settings locations).bind invocation.command.answer).run (host.report ready) =
        (outcome, after) →
      ∃ entries, (invocation.answer locations).run host =
        (.ok (invocation.command.settled outcome), after.reportAll entries) := by
  obtain ⟨ready, reported⟩ := run_reportReady none host
  refine ⟨ready, fun outcome after ran => ?_⟩
  simp only [Invocation.answer, Program.bind_eq_bind]
  rw [Program.run_bind, reported]
  dsimp only
  rw [Program.run_recover, ran]
  cases outcome with
  | ok answer => exact ⟨[], rfl⟩
  | error fault => exact invocation.command.run_afterFault fault after

/-- What is answered is printed. -/
theorem run_delivery {setup : Setup}
    (answered : (invocation.answer setup.locations).run host = (.ok answer, after)) :
    ∃ entries, (invocation.delivery setup).run host =
      (.ok (invocation.command.delivered setup.toStreams answer), after.reportAll entries) := by
  obtain ⟨entries, delivers⟩ := invocation.command.run_deliver setup.toStreams answer after
  refine ⟨entries, ?_⟩
  rw [delivery, Program.bind_eq_bind, Program.run_bind, answered]
  exact delivers

/-- A command line whose log is shown prints its answer, and leaves what the answer leaves. -/
theorem run_outcome_of_screen (setup : Setup) (screen : invocation.debugFile = "")
    {layout : Layout} (shows : setup.layout host.environment = .ok layout)
    (delivers : (invocation.delivery setup).run (host.logging []) = (.ok answer, after)) :
    ∃ diagnostics last, (invocation.outcome setup).run host =
      (.ok (answer.outcome diagnostics), last) ∧ last.logging [] = after.logging [] := by
  obtain ⟨_, middle, news, runs, collects⟩ :=
    Program.run_logging (keepsLogFile_delivery invocation setup) host
  obtain ⟨rfl, rfl⟩ := Prod.mk.inj ((runs []).symm.trans delivers)
  obtain ⟨last, collected, same⟩ := collects []
  refine ⟨if setup.hasErrors then shown setup.debug layout news else "", last, ?_, same⟩
  simp only [outcome, if_pos screen, Program.bind_eq_bind, Program.environment, Program.bind]
  rw [Program.run_call]
  dsimp only [Host.perform]
  rw [shows, Program.run_bind, Program.ofReply, Program.run_done]
  dsimp only
  rw [Program.run_bind, collected]
  rfl

/-- A command line prints its answer, whether its log is shown or kept in a file. -/
theorem run_outcome (setup : Setup) (started : invocation.start setup.toStreams host = .ok opened)
    (delivers : (invocation.delivery setup).run opened = (.ok answer, after)) :
    ∃ diagnostics last, (invocation.outcome setup).run host =
      (.ok (answer.outcome diagnostics), last) ∧ last.files = after.files := by
  rw [start] at started
  split at started
  · rename_i screen
    cases shows : setup.layout host.environment with
    | error fault =>
        rw [shows] at started
        cases started
    | ok layout =>
        rw [shows] at started
        obtain rfl := Except.ok.inj started
        obtain ⟨diagnostics, last, ran, same⟩ := run_outcome_of_screen setup screen shows delivers
        have files : (last.logging []).files = (after.logging []).files := by rw [same]
        exact ⟨diagnostics, last, ran, files⟩
  · rename_i file
    split at started
    · rename_i logged opens
      obtain rfl := Except.ok.inj started
      refine ⟨"", after, ?_, rfl⟩
      simp only [outcome, if_neg file, Program.bind_eq_bind]
      rw [Program.run_bind, Program.openLog, Program.run_call, Host.perform, opens]
      dsimp only [Program.run_ofReply, Program.ofReply, Program.run_done]
      rw [Program.run_bind, delivers]
      rfl
    · cases started

section Shown

variable {locations : Locations} {settings : Settings} {fault : Fault}
  {result : Except Fault Answer}

/-- Settings that are loaded are those of the command line. -/
theorem finds_settings (loaded :
      (Settings.load locations invocation.settingsFile).Finds host (.ok settings)) :
    (invocation.settings locations).Finds host (.ok settings) :=
  Program.Finds.bind (finds_reportReady _ host) loaded.recover

/-- A fault that is fatal ends the command line. -/
theorem finds_settings_of_fault
    (failed : (Settings.load locations invocation.settingsFile).Finds host (.error fault))
    (fatal : (decide (fault = .reported) && invocation.command.isCompletion) = false) :
    (invocation.settings locations).Finds host (.error fault) := by
  refine Program.Finds.bind (finds_reportReady _ host) (failed.recover_error ?_)
  rw [if_neg (by rw [fatal]; exact Bool.false_ne_true)]
  exact Program.finds_fail fault host

/-- For a completion the standard settings stand in for those whose faults were reported. -/
theorem finds_settings_of_reported
    (failed : (Settings.load locations invocation.settingsFile).Finds host (.error .reported))
    (completes : invocation.command.isCompletion = true) :
    (invocation.settings locations).Finds host (.ok (.standard locations)) := by
  refine Program.Finds.bind (finds_reportReady _ host) (failed.recover_error ?_)
  rw [if_pos (by rw [completes]; rfl)]
  exact Program.finds_done _ host

/-- Without settings nothing is answered, and nothing is changed. -/
theorem finds_answer_of_fault (failed : (invocation.settings locations).Finds host (.error fault)) :
    (invocation.answer locations).Finds host
      (.ok (invocation.command.settled (.error fault))) := by
  refine Program.Finds.bind (finds_reportReady _ host) (failed.bind_error.recover_error ?_)
  intro entries
  obtain ⟨news, ran⟩ := invocation.command.run_afterFault fault (host.logging entries)
  exact ⟨news, by rw [ran, Host.reportAll_logging]⟩

/-- Under its settings a command is answered with what it comes to. -/
theorem comesTo_answer (loaded : (invocation.settings locations).Finds host (.ok settings))
    (performed : (invocation.command.perform settings).ComesTo host result) :
    (invocation.answer locations).ComesTo host (.ok (invocation.command.settled result)) := by
  have answered : ((invocation.settings locations).bind invocation.command.answer).ComesTo host
      result :=
    loaded.bind_comesTo (Program.Finds.bind_comesTo (finds_reportReady _ host) performed)
  refine Program.Finds.bind_comesTo (finds_reportReady _ host) fun entries => ?_
  have ran := answered entries
  rw [Program.run_recover]
  generalize Program.run _ (host.logging entries) = run at ran ⊢
  obtain ⟨came, after⟩ := run
  obtain rfl : came = result := ran
  cases came with
  | ok answer => rfl
  | error fault =>
      obtain ⟨_, handled⟩ := invocation.command.run_afterFault fault after
      exact congrArg Prod.fst handled

/-- Under its settings a command leaves what it makes of the host. -/
theorem makes_answer (loaded : (invocation.settings locations).Finds host (.ok settings))
    (performed : (invocation.command.perform settings).Makes host (.ok answer) after) :
    (invocation.answer locations).Makes host (.ok answer) after := by
  have answered : (invocation.command.answer settings).Makes host (.ok answer) after :=
    Program.Makes.bind (finds_reportReady _ host).makes performed
  exact Program.Makes.bind (finds_reportReady _ host).makes
    (Program.Makes.recover (Program.Makes.bind loaded.makes answered))

/-- A command line whose log is shown prints its answer. -/
theorem outcome_of_comesTo {setup : Setup} (shown : invocation.IsShown setup.toStreams)
    (answered : (invocation.answer setup.locations).ComesTo host (.ok answer)) :
    ∃ diagnostics last, (invocation.outcome setup).run host =
      (.ok ((invocation.command.delivered setup.toStreams answer).outcome diagnostics), last) := by
  obtain ⟨_, delivers⟩ := run_delivery (Prod.ext (answered []) rfl)
  obtain ⟨diagnostics, last, ran, _⟩ := run_outcome setup (shown.start host) delivers
  exact ⟨diagnostics, last, ran⟩

/-- A command line whose log is shown leaves what its answer makes of the host. -/
theorem outcome_of_makes {setup : Setup} (shown : invocation.IsShown setup.toStreams)
    (answered : (invocation.answer setup.locations).Makes host (.ok answer) after) :
    ∃ diagnostics last, (invocation.outcome setup).run host =
      (.ok ((invocation.command.delivered setup.toStreams answer).outcome diagnostics), last) ∧
      last.logging [] = after.logging [] := by
  obtain ⟨news, ran⟩ := answered []
  obtain ⟨entries, delivers⟩ := run_delivery ran
  rw [Host.reportAll_logging] at delivers
  have carried := run_outcome_of_screen setup shown.screen (shown.layout host.environment) delivers
  exact carried

/-- A command line that only looks leaves all files as they are. -/
theorem outcome_of_finds {setup : Setup} (shown : invocation.IsShown setup.toStreams)
    (answered : (invocation.answer setup.locations).Finds host (.ok answer)) :
    ∃ diagnostics last, (invocation.outcome setup).run host =
      (.ok ((invocation.command.delivered setup.toStreams answer).outcome diagnostics), last) ∧
      last.files = host.files := by
  obtain ⟨diagnostics, last, ran, same⟩ := outcome_of_makes shown answered.makes
  have files : (last.logging []).files = (host.logging []).files := by rw [same]
  exact ⟨diagnostics, last, ran, files⟩

end Shown

end Invocation

end CommandLine

end AnnotatedMake
