import AnnotatedMake.Proofs.Completion.Offering
import AnnotatedMake.Proofs.Expansion
import AnnotatedMake.Proofs.Host.Refusing
import AnnotatedMake.Shell.Installation

namespace AnnotatedMake.ScriptRequest

variable {arguments : List String} {settings : Settings} {environment : Environment}
  {host after : Host} {shell : Shell} {commands : List String} {destination script : String}
  {file : Path} {files : List Path}

/-- The commands that scripts are made for. -/
def commandsOf (settings : Settings) : List String :=
  settings.texts "commands" Schema.defaultCommands

/-- Each result of a list comes from an element of it. -/
theorem exists_of_mem_mapM {α β : Type} {f : α → Except Fault β} {list : List α} {results : List β}
    (mapped : list.mapM f = .ok results) {result : β} (member : result ∈ results) :
    ∃ element ∈ list, f element = .ok result := by
  induction list generalizing results with
  | nil =>
      obtain rfl := Except.ok.inj mapped
      exact absurd member List.not_mem_nil
  | cons element rest ih =>
      rw [List.mapM_cons] at mapped
      cases first : f element with
      | error fault =>
          rw [first] at mapped
          cases mapped
      | ok value =>
          cases others : rest.mapM f with
          | error fault =>
              rw [first, others] at mapped
              cases mapped
          | ok values =>
              rw [first, others] at mapped
              obtain rfl := Except.ok.inj mapped
              rcases List.mem_cons.1 member with rfl | later
              · exact ⟨element, List.mem_cons_self, first⟩
              · obtain ⟨other, known, told⟩ := ih others later
                exact ⟨other, List.mem_cons_of_mem _ known, told⟩

variable [Platform]

/-- A file of a destination is named by a text, with the home directory filled in. -/
theorem exists_text_of_filesAt
    (named : filesAt environment shell commands destination = .ok files) (member : file ∈ files) :
    ∃ text, environment.expandHome (.ofString text) = .ok file := by
  have single {text : String}
      (told : (environment.expandHome (.ofString text)).map (fun path => [path]) = .ok files) :
      environment.expandHome (.ofString text) = .ok file := by
    cases found : environment.expandHome (.ofString text) with
    | error fault =>
        rw [found] at told
        cases told
    | ok path =>
        rw [found] at told
        obtain rfl := Except.ok.inj told
        rw [List.mem_singleton.1 member]
  rw [filesAt] at named
  split at named
  · rw [Shell.defaultPaths.eq_def] at named
    split at named
    · cases named
    · exact ⟨_, single named⟩
    · obtain ⟨command, _, told⟩ := exists_of_mem_mapM named member
      exact ⟨_, told⟩
  · exact ⟨destination, single named⟩

/-- The files of a destination have clean parts. -/
theorem parts_of_filesAt
    (named : filesAt environment shell commands destination = .ok files) (member : file ∈ files) :
    ∀ part ∈ file.parts, '/' ∉ part.toList ∧ FileSystem.isHere part = false := by
  obtain ⟨_, told⟩ := exists_text_of_filesAt named member
  exact Environment.parts_of_expandHome told

/-- What is reported before a file is written. -/
def announcement (shell : Shell) (file : Path) : Entry :=
  { level := .debug, text := "Writing " ++ shell.name ++ " completions to: " ++ file.text }

/-- Writing a script announces it and makes its directory. -/
theorem run_writeScript (shell : Shell) (script : String) (file : Path) (host : Host) :
    (writeScript shell script file).run host =
      ((Program.makeDirectories file.parent).bind fun _ =>
        Program.write file (bytesOf script)).run (host.report (announcement shell file)) := rfl

/-- The file of a script receives its bytes. -/
theorem receives_writeScript
    (plain : ∀ part ∈ file.parts, '/' ∉ part.toList ∧ FileSystem.isHere part = false)
    (ran : (writeScript shell script file).run host = (.ok (), after)) :
    host.Receives after [file] (bytesOf script) := by
  rw [run_writeScript, Program.run_bind] at ran
  split at ran
  · rename_i middle made
    have proper : file.IsProper := ⟨⟨fun part member => (plain part member).1,
      Host.noNull_of_write ran⟩, fun part member => (plain part member).2⟩
    have built := Program.builds_makeDirectoriesUp Program.levelLimit file.parent
      (host.report (announcement shell file))
    have logFile := Program.logFile_run_of_paving
      (Program.paving_makeDirectoriesUp Program.levelLimit file.parent)
      (host.report (announcement shell file))
    rw [Program.makeDirectories] at made
    rw [made] at built logFile
    exact (host.receives_report _ _).append (Host.receives_write proper built logFile ran)
  · cases ran

/-- Every file of a destination has the script once all of them are written. -/
theorem receives_files
    (named : filesAt environment shell commands destination = .ok files)
    (ran : (Program.forEach (writeScript shell script) files).run host = (.ok (), after)) :
    host.Receives after files (bytesOf script) :=
  Program.receives_forEach
    (fun _ member _ _ => receives_writeScript (parts_of_filesAt named member)) ran

/-- How the failure to write a file is told. -/
def failure (fault : Fault) : String := "Failed to write completion file: " ++ fault.message

/-- Writing scripts ends with their files or the fault. -/
theorem run_writeScripts (refuses : Call → Option Nat) (shell : Shell) (script : String)
    (files : List Path) (host : Host) :
    ((writeScripts shell script files).under refuses).run host =
      match ((Program.forEach (writeScript shell script) files).under refuses).run host with
      | (.ok (), after) => (.ok (.ok ()), after)
      | (.error fault, after) =>
        (if fault.isSystem then .ok (.error (failure fault)) else .error fault, after) := by
  rw [writeScripts, Program.under_recover, Program.under_bind, Program.run_recover,
    Program.run_bind]
  generalize ((Program.forEach (writeScript shell script) files).under refuses).run host = run
  obtain ⟨outcome, after⟩ := run
  cases outcome with
  | ok _ => rfl
  | error fault =>
      dsimp only
      by_cases system : fault.isSystem = true
      · rw [if_pos system, if_pos system]
        rfl
      · rw [if_neg system, if_neg system]
        rfl

/-- What an installation comes to, told from the writing of its files. -/
theorem run_install (refuses : Call → Option Nat) (shell : Shell) (first : String)
    (rest : List String) (destination : String) (host : Host) :
    ((install shell first rest destination).under refuses).run host =
      match filesAt host.environment shell (first :: rest) destination with
      | .error fault => (.error fault, host)
      | .ok files =>
        match ((Program.forEach (writeScript shell (shell.script Shell.programName
          (first :: rest))) files).under refuses).run host with
        | (.ok (), after) =>
          (host.environment.home.map fun home =>
            .ok (success shell first destination home files), after)
        | (.error fault, after) =>
          (if fault.isSystem then .ok (.error (failure fault)) else .error fault, after) := by
  have certain : (Program.environment ["HOME"]).CallsOnly Call.IsCertain :=
    ⟨fun _ => rfl, fun _ => trivial⟩
  have asked : ((Program.environment ["HOME"]).under refuses).run host =
      (.ok host.environment, host) := by
    rw [Program.under_of_certain certain]
    rfl
  simp only [install, Program.bind_eq_bind]
  rw [Program.under_bind, Program.run_bind, asked]
  dsimp only
  rw [Program.under_bind, Program.run_bind, Program.under_ofReply, Program.run_ofReply]
  cases filesAt host.environment shell (first :: rest) destination with
  | error fault => rfl
  | ok files =>
      dsimp only
      rw [Program.under_bind, Program.run_bind, run_writeScripts]
      generalize ((Program.forEach (writeScript shell (shell.script Shell.programName
        (first :: rest))) files).under refuses).run host = run
      obtain ⟨outcome, after⟩ := run
      cases outcome with
      | ok _ =>
          dsimp only
          rw [Program.under_bind, Program.run_bind, Program.under_ofReply, Program.run_ofReply]
          cases host.environment.home <;> rfl
      | error fault =>
          dsimp only
          by_cases system : fault.isSystem = true
          · rw [if_pos system, if_pos system]
            rfl
          · rw [if_neg system, if_neg system]

/-- The host once the commands are read, with a warning when they are no list. -/
def noted (settings : Settings) (host : Host) : Host :=
  ((settings.readTexts "commands" Schema.defaultCommands).run host).2

/-- The commands are read from the settings. -/
theorem run_readCommands (settings : Settings) (host : Host) :
    ∃ entries, noted settings host = host.reportAll entries ∧
      (settings.readTexts "commands" Schema.defaultCommands).run host =
        (.ok (commandsOf settings), noted settings host) := by
  obtain ⟨entries, read⟩ :=
    Session.run_readTexts settings "commands" Schema.defaultCommands host
  have left : noted settings host = host.reportAll entries := congrArg Prod.snd read
  exact ⟨entries, left, left ▸ read⟩

/-- No refusal keeps the commands from being read. -/
theorem run_under_readCommands (refuses : Call → Option Nat) (settings : Settings) (host : Host) :
    ((settings.readTexts "commands" Schema.defaultCommands).under refuses).run host =
      (.ok (commandsOf settings), noted settings host) := by
  obtain ⟨_, _, read⟩ := run_readCommands settings host
  have certain : (settings.readTexts "commands" Schema.defaultCommands).CallsOnly
      Call.IsCertain := by
    rw [Settings.readTexts]
    cases settings.listWarning? "commands" with
    | some warning => exact Program.CallsOnly.bind (Program.certain_report ..) fun _ => trivial
    | none => trivial
  rw [Program.under_of_certain certain, read]

/-- What is noted leaves the environment. -/
theorem environment_noted (settings : Settings) (host : Host) :
    (noted settings host).environment = host.environment := by
  obtain ⟨entries, left, _⟩ := run_readCommands settings host
  rw [left, host.environment_reportAll]

/-- A request for a destination comes to an installation, once the commands are read. -/
theorem run_answer (refuses : Call → Option Nat)
    (asked : ofArguments arguments = .ok ⟨shell, some destination⟩) (host : Host) :
    ((answer arguments settings).under refuses).run host =
      match commandsOf settings with
      | [] => (.ok (.error "No command to complete, check the 'commands' option"),
          noted settings host)
      | first :: rest =>
        ((install shell first rest destination).under refuses).run (noted settings host) := by
  rw [answer, asked]
  dsimp only
  rw [fulfil, Program.bind_eq_bind, Program.under_bind, Program.run_bind, run_under_readCommands]
  cases commandsOf settings <;> rfl

/-- A request that names no destination, or no command, leaves its reports alone. -/
theorem run_answer_of_idle (refuses : Call → Option Nat)
    (idle : ∀ shell destination, ofArguments arguments = .ok ⟨shell, some destination⟩ →
      commandsOf settings = []) (host : Host) :
    ∃ entries reply, ((answer arguments settings).under refuses).run host =
      (.ok reply, host.reportAll entries) := by
  obtain ⟨entries, left, _⟩ := run_readCommands settings host
  cases asked : ofArguments arguments with
  | error error =>
      refine ⟨[], .error error.message, ?_⟩
      rw [answer, asked]
      rfl
  | ok request =>
      obtain ⟨shell, goal⟩ := request
      refine ⟨entries, ?_⟩
      rw [← left]
      cases goal with
      | some destination =>
          rw [run_answer refuses asked, idle shell destination asked]
          exact ⟨_, rfl⟩
      | none =>
          rw [answer, asked]
          dsimp only
          rw [fulfil, Program.bind_eq_bind, Program.under_bind, Program.run_bind,
            run_under_readCommands]
          cases commandsOf settings with
          | nil => exact ⟨_, rfl⟩
          | cons first rest => exact ⟨_, rfl⟩

/-- The files that a request was met with were all written. -/
theorem of_run_answer {text : String}
    (asked : ofArguments arguments = .ok ⟨shell, some destination⟩)
    (met : (answer arguments settings).run host = (.ok (.ok text), after)) :
    ∃ entries first rest files home, commandsOf settings = first :: rest ∧
      filesAt host.environment shell (first :: rest) destination = .ok files ∧
      (Program.forEach (writeScript shell (shell.script Shell.programName (first :: rest)))
        files).run (host.reportAll entries) = (.ok (), after) ∧
      host.environment.home = .ok home ∧
      text = success shell first destination home files := by
  obtain ⟨entries, left, _⟩ := run_readCommands settings host
  rw [← Program.under_none (answer arguments settings), run_answer _ asked, left] at met
  cases known : commandsOf settings with
  | nil =>
      rw [known] at met
      cases met
  | cons first rest =>
      rw [known] at met
      dsimp only at met
      rw [run_install, host.environment_reportAll] at met
      split at met
      · cases met
      · rename_i files named
        split at met
        · rename_i later wrote
          cases found : host.environment.home with
          | error fault =>
              rw [found] at met
              cases met
          | ok home =>
              rw [found] at met
              obtain ⟨told, rfl⟩ := Prod.mk.inj met
              have told := Except.ok.inj (Except.ok.inj told)
              rw [Program.under_none] at wrote
              exact ⟨entries, first, rest, files, home, rfl, named, wrote, rfl, told.symm⟩
        · split at met <;> cases met

/-- Once a request is met every file of it has the script, and no other is changed. -/
theorem answer_installs (arguments : List String) (settings : Settings) (host : Host) :
    (∀ shell destination text after, ofArguments arguments = .ok ⟨shell, some destination⟩ →
      (answer arguments settings).run host = (.ok (.ok text), after) →
      ∃ files, filesAt host.environment shell (commandsOf settings) destination = .ok files ∧
        host.Receives after files
          (bytesOf (shell.script Shell.programName (commandsOf settings)))) ∧
    ((∀ shell destination, ofArguments arguments = .ok ⟨shell, some destination⟩ →
        commandsOf settings = []) →
      ∀ place, host.logFile ≠ some place →
        ((answer arguments settings).run host).2.files.node? place = host.files.node? place) := by
  constructor
  · intro shell destination text after asked met
    obtain ⟨entries, first, rest, files, _, known, named, wrote, _⟩ := of_run_answer asked met
    rw [known]
    exact ⟨files, named, (host.receives_reportAll entries _).append (receives_files named wrote)⟩
  · intro idle place notLog
    obtain ⟨entries, reply, ran⟩ := run_answer_of_idle (fun _ => none) idle host
    rw [Program.under_none] at ran
    rw [ran]
    exact Host.node?_reportAll notLog entries

end AnnotatedMake.ScriptRequest

namespace AnnotatedMake.ScriptRequest

variable {host : Host}

/-- A host with nothing but a sink in its root directory. -/
def sinkHost (home : String) : Host where
  files := FileSystem.empty.put ["null"] .sink
  environment := OrderedMap.empty.insert "HOME" home

/-- A host with nothing but a file in its root directory. -/
def fileHost : Host where
  files := FileSystem.empty.put ["script"] (.file (bytesOf "old") 3)
  environment := OrderedMap.empty.insert "HOME" "/home"

section Root

variable {name : String} {time : Int}

/-- What stands in the root directory is written to. -/
theorem run_write_root (root : host.files.node? [] = some (.directory time))
    {files : FileSystem} (content : Bytes)
    (writes : host.query ⟨.root, [name]⟩ (.error Fault.isDirectory) (fun start names =>
      host.files.write start names (fun _ => content) host.clock) = .ok files) :
    ((Program.makeDirectories ⟨.root, []⟩).bind fun _ =>
      Program.write ⟨.root, [name]⟩ content).run host =
        (.ok (), { host with files, clock := host.clock + 1 }) := by
  have above : host.route ⟨.root, []⟩ = .ok (.along [] []) := by
    rw [Host.route, if_neg (by decide), if_neg (by decide)]
  have entered : host.files.enter [] [] = .ok [] :=
    FileSystem.enter_eq_ok_iff.2 ⟨⟨_, (FileSystem.Passes.done _ _).pass_eq⟩, time, root⟩
  rw [Program.run_bind, Program.run_makeDirectories_of_enter (Path.isProper_root _) above entered]
  dsimp only
  rw [Program.run_write, Host.change, writes]

/-- A request for a file is met once the script can be written there. -/
theorem exists_met {goal : String} {file home : Path} {wrote : Host → Prop}
    (asked : ofArguments ["bash", goal] = .ok ⟨.bash, some goal⟩)
    (named : filesAt host.environment .bash ["make"] goal = .ok [file])
    (known : host.environment.home = .ok home)
    (writes : ∀ entries, ∃ after,
      (Program.forEach (writeScript .bash (Shell.bash.script Shell.programName ["make"]))
        [file]).run (host.reportAll entries) = (.ok (), after) ∧ wrote after) : ∃ after,
    (answer ["bash", goal] { schema := .standard "/cache" }).run host =
      (.ok (.ok (success .bash "make" goal home [file])), after) ∧ wrote after := by
  have commands : commandsOf { schema := .standard "/cache" } = ["make"] := by decide
  obtain ⟨entries, left, _⟩ := run_readCommands { schema := .standard "/cache" } host
  obtain ⟨after, ran, written⟩ := writes entries
  refine ⟨after, ?_, written⟩
  rw [← Program.under_none (answer _ _), run_answer _ asked, commands, left]
  dsimp only
  rw [run_install, Host.environment_reportAll, named]
  dsimp only
  rw [Program.under_none, ran, known]
  rfl

end Root

/-- A sink reads as empty. -/
theorem run_contentOf_sink {time : Int} (root : host.files.node? [] = some (.directory time))
    (sink : host.files.node? ["null"] = some .sink) :
    (Program.contentOf ⟨.root, ["null"]⟩).run host = (.ok [], host) := by
  have ends : host.Ends ⟨.root, ["null"]⟩ [] "null" :=
    Host.ends_of_root root ⟨⟨⟨by decide, by decide⟩, by decide⟩, by decide⟩ (by decide)
  have read : host.query ⟨.root, ["null"]⟩ (.error Fault.isDirectory) host.files.read = .ok [] := by
    apply ends.query
    intro start names found
    rw [FileSystem.read, found .target .sink sink (by simp)]
  rw [Program.run_contentOf, read]

/-- The script is written to the sink after any reports. -/
theorem exists_written_to_sink (home : String) (entries : List Entry) : ∃ after,
    (Program.forEach (writeScript .bash (Shell.bash.script Shell.programName ["make"]))
      [⟨.root, ["null"]⟩]).run ((sinkHost home).reportAll entries) = (.ok (), after) ∧
    (Program.contentOf ⟨.root, ["null"]⟩).run after = (.ok [], after) := by
  let reported := (sinkHost home).reportAll (entries ++ [announcement .bash ⟨.root, ["null"]⟩])
  have root : reported.files.node? [] = some (.directory 0) := by
    rw [Host.node?_reportAll (by simp [sinkHost])]
    rfl
  have sink : reported.files.node? ["null"] = some .sink := by
    rw [Host.node?_reportAll (by simp [sinkHost])]
    rfl
  have ends : reported.Ends ⟨.root, ["null"]⟩ [] "null" :=
    Host.ends_of_root root ⟨⟨⟨by decide, by decide⟩, by decide⟩, by decide⟩ (by decide)
  have wrote := run_write_root root
    (bytesOf (Shell.bash.script Shell.programName ["make"])) (by
      apply ends.query
      intro start names found
      rw [FileSystem.write, found .creation .sink sink (by simp)])
  have announced : reported = ((sinkHost home).reportAll entries).report
      (announcement .bash ⟨.root, ["null"]⟩) := (sinkHost home).reportAll_append entries [_]
  have parent : Path.parent ⟨.root, ["null"]⟩ = ⟨.root, []⟩ := rfl
  refine ⟨{ reported with clock := reported.clock + 1 }, ?_, run_contentOf_sink root sink⟩
  rw [Program.forEach, Program.run_bind, run_writeScript, ← announced, parent, wrote]
  rfl

/-- A request for the sink is met. -/
theorem exists_met_at_sink {text : String} {home : Path}
    (known : (sinkHost text).environment.home = .ok home) : ∃ after,
    (answer ["bash", "/null"] { schema := .standard "/cache" }).run (sinkHost text) =
        (.ok (.ok (success .bash "make" "/null" home [⟨.root, ["null"]⟩])), after) ∧
      (Program.contentOf ⟨.root, ["null"]⟩).run after = (.ok [], after) :=
  exists_met (by decide) rfl known (exists_written_to_sink text)

/-- A script that is installed at a sink is told to be written there, and nothing is read of it. -/
theorem answer_sink :
    filesAt (sinkHost "/home").environment .bash ["make"] "/null" = .ok [⟨.root, ["null"]⟩] ∧
    bytesOf (Shell.bash.script Shell.programName ["make"]) ≠ [] ∧
    ∃ after, (answer ["bash", "/null"] { schema := .standard "/cache" }).run (sinkHost "/home") =
        (.ok (.ok "Completions written to /null"), after) ∧
      (Program.contentOf ⟨.root, ["null"]⟩).run after = (.ok [], after) := by
  have home : (sinkHost "/home").environment.home = .ok ⟨.root, ["home"]⟩ := rfl
  have told : success .bash "make" "/null" ⟨.root, ["home"]⟩ [⟨.root, ["null"]⟩] =
      "Completions written to /null" := by decide
  have filled : bytesOf (Shell.bash.script Shell.programName ["make"]) ≠ [] := by
    rw [Shell.script, Shell.bashScript, Shell.joinLines, List.map_cons, String.join_cons,
      bytesOf_append]
    exact List.append_ne_nil_of_left_ne_nil (by decide) _
  exact ⟨rfl, filled, told ▸ exists_met_at_sink home⟩

/-- The script is written over the file after any reports. -/
theorem exists_written_to_file (entries : List Entry) : ∃ after,
    (Program.forEach (writeScript .bash (Shell.bash.script Shell.programName ["make"]))
      [⟨.root, ["script"]⟩]).run (fileHost.reportAll entries) = (.ok (), after) ∧
    ∃ time, after.files.node? ["script"] = some (.file
      (bytesOf (Shell.bash.script Shell.programName ["make"])) time) := by
  let reported := fileHost.reportAll (entries ++ [announcement .bash ⟨.root, ["script"]⟩])
  have root : reported.files.node? [] = some (.directory 0) := by
    rw [Host.node?_reportAll (by simp [fileHost])]
    rfl
  have file : reported.files.node? ["script"] = some (.file (bytesOf "old") 3) := by
    rw [Host.node?_reportAll (by simp [fileHost])]
    rfl
  have ends : reported.Ends ⟨.root, ["script"]⟩ [] "script" :=
    Host.ends_of_root root ⟨⟨⟨by decide, by decide⟩, by decide⟩, by decide⟩ (by decide)
  have wrote := run_write_root root
    (bytesOf (Shell.bash.script Shell.programName ["make"])) (by
      apply ends.query
      intro start names found
      rw [FileSystem.write, found .creation _ file (by simp)])
  have announced : reported = (fileHost.reportAll entries).report
      (announcement .bash ⟨.root, ["script"]⟩) := fileHost.reportAll_append entries [_]
  have parent : Path.parent ⟨.root, ["script"]⟩ = ⟨.root, []⟩ := rfl
  let written : Host := { reported with
    files := reported.files.put ["script"] (.file
      (bytesOf (Shell.bash.script Shell.programName ["make"])) reported.clock)
    clock := reported.clock + 1 }
  refine ⟨written, ?_, reported.clock, FileSystem.node?_put_self ..⟩
  rw [Program.forEach, Program.run_bind, run_writeScript, ← announced, parent, wrote]
  rfl

/-- A script that is installed at a file of something else is what the file holds. -/
theorem answer_installs_file : ∃ after time,
    (answer ["bash", "/script"] { schema := .standard "/cache" }).run fileHost =
      (.ok (.ok "Completions written to /script"), after) ∧
    after.files.node? ["script"] = some (.file
      (bytesOf (Shell.bash.script Shell.programName ["make"])) time) ∧
    fileHost.Receives after [⟨.root, ["script"]⟩]
      (bytesOf (Shell.bash.script Shell.programName ["make"])) := by
  have home : fileHost.environment.home = .ok ⟨.root, ["home"]⟩ := rfl
  have named : filesAt fileHost.environment .bash ["make"] "/script" =
      .ok [⟨.root, ["script"]⟩] := rfl
  have commands : commandsOf { schema := .standard "/cache" } = ["make"] := by decide
  have told : success .bash "make" "/script" ⟨.root, ["home"]⟩ [⟨.root, ["script"]⟩] =
      "Completions written to /script" := by decide
  obtain ⟨after, met, time, held⟩ := exists_met (by decide) named home exists_written_to_file
  rw [told] at met
  obtain ⟨files, isNamed, receives⟩ :=
    (answer_installs ["bash", "/script"] { schema := .standard "/cache" } fileHost).1
      .bash "/script" _ after (by decide) met
  rw [commands] at isNamed receives
  obtain rfl := Except.ok.inj (named.symm.trans isNamed)
  exact ⟨after, time, met, held, receives⟩

end AnnotatedMake.ScriptRequest
