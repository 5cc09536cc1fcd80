import AnnotatedMake.Proofs.Shell.Installing

namespace AnnotatedMake.ScriptRequest

variable [Platform]

variable {arguments : List String} {settings : Settings} {host after : Host} {shell : Shell}
  {destination script : String} {file : Path} {fault : Fault} {refuses : Call → Option Nat}

/-- A fault that keeps a script from a file and is not told in words. -/
inductive Blocks (refuses : Call → Option Nat) (shell : Shell) (host : Host) (file : Path) :
    Fault → Prop
  | null (null : file.parts.any (holds (Char.ofNat 0)) = true)
      (above : ∀ fault, (((Program.makeDirectories file.parent).under refuses).run
        (host.report (announcement shell file))).1 = .error fault → fault = .nullByte) :
      Blocks refuses shell host file .nullByte
  | deep (deep : Program.levelLimit ≤ file.parent.parts.length)
      (missing : ∀ count < Program.levelLimit, (((Program.makeDirectory (file.parent.upTo
        (file.parent.parts.length - count))).under refuses).run
          (host.report (announcement shell file))).1 = .error (.system Fault.notFound)) :
      Blocks refuses shell host file .tooManyLevels

theorem run_under_writeScript (refuses : Call → Option Nat) (shell : Shell) (script : String)
    (file : Path) (host : Host) :
    ((writeScript shell script file).under refuses).run host =
      (((Program.makeDirectories file.parent).under refuses).bind fun _ =>
        (Program.write file (bytesOf script)).under refuses).run
          (host.report (announcement shell file)) := by
  simp only [writeScript, Program.bind_eq_bind]
  rw [Program.debug, Program.under_bind, Program.under_of_certain (Program.certain_report ..),
    Program.run_bind, Program.run_report]
  dsimp only
  rw [Program.under_bind]
  rfl

/-- A file is blocked by the faults of its writing that the system does not tell. -/
theorem blocks_iff : Blocks refuses shell host file fault ↔
    (((writeScript shell script file).under refuses).run host).1 = .error fault ∧
      fault.isSystem = false := by
  have deep_iff : (((Program.makeDirectories file.parent).under refuses).run
      (host.report (announcement shell file))).1 = .error .tooManyLevels ↔
        Program.levelLimit ≤ file.parent.parts.length ∧ ∀ count < Program.levelLimit,
          (((Program.makeDirectory (file.parent.upTo
            (file.parent.parts.length - count))).under refuses).run
              (host.report (announcement shell file))).1 = .error (.system Fault.notFound) :=
    Program.run_makeDirectoriesUp_iff
  rw [run_under_writeScript, Program.run_bind]
  constructor
  · intro blocks
    cases blocks with
    | null null above =>
        refine ⟨?_, rfl⟩
        split
        · rw [Program.run_under_write_of_null null]
        · rename_i made
          rw [above _ (congrArg Prod.fst made)]
    | deep deep missing =>
        refine ⟨?_, rfl⟩
        have tooMany := deep_iff.2 ⟨deep, missing⟩
        split
        · rename_i made
          rw [made] at tooMany
          cases tooMany
        · rename_i made
          rwa [made] at tooMany
  · rintro ⟨failed, quiet⟩
    split at failed
    · rename_i made
      cases null : file.parts.any (holds (Char.ofNat 0)) with
      | true =>
          rw [Program.run_under_write_of_null null] at failed
          obtain rfl := Except.error.inj failed
          refine .null null fun fault refused => ?_
          rw [made] at refused
          cases refused
      | false =>
          rw [Program.isSystem_of_write null failed] at quiet
          cases quiet
    · rename_i other _ made
      obtain rfl := Except.error.inj failed
      have refused := congrArg Prod.fst made
      rcases Program.fault_of_makeDirectoriesUp refused with system | ⟨rfl, null⟩ | rfl
      · rw [system] at quiet
        cases quiet
      · refine .null ?_ fun fault same => (Except.error.inj (refused.symm.trans same)).symm
        obtain ⟨part, member, holdsNull⟩ := List.any_eq_true.1 null
        exact List.any_eq_true.2 ⟨part, List.dropLast_subset _ member, holdsNull⟩
      · obtain ⟨deep, missing⟩ := deep_iff.1 refused
        exact .deep deep missing

/-- A fault that leaves a request for a destination. -/
inductive Escapes (refuses : Call → Option Nat) (host : Host) (shell : Shell)
    (commands : List String) (destination : String) : Fault → Prop
  | unnamed {fault : Fault}
      (lost : filesAt host.environment shell commands destination = .error fault) :
      Escapes refuses host shell commands destination fault
  | blocked {front back : List Path} {file : Path} {middle : Host} {fault : Fault}
      (named : filesAt host.environment shell commands destination = .ok (front ++ file :: back))
      (wrote : ((Program.forEach (writeScript shell (shell.script Shell.programName commands))
        front).under refuses).run host = (.ok (), middle))
      (blocks : Blocks refuses shell middle file fault) :
      Escapes refuses host shell commands destination fault
  | homeless {files : List Path} {after : Host} {fault : Fault}
      (named : filesAt host.environment shell commands destination = .ok files)
      (wrote : ((Program.forEach (writeScript shell (shell.script Shell.programName commands))
        files).under refuses).run host = (.ok (), after))
      (lost : host.environment.home = .error fault) :
      Escapes refuses host shell commands destination fault

theorem run_install_eq_error_iff (refuses : Call → Option Nat) (shell : Shell) (first : String)
    (rest : List String) (destination : String) :
    (((install shell first rest destination).under refuses).run host).1 = .error fault ↔
      Escapes refuses host shell (first :: rest) destination fault := by
  rw [run_install]
  constructor
  · intro failed
    split at failed
    · rename_i lost
      obtain rfl := Except.error.inj failed
      exact .unnamed lost
    · rename_i files named
      split at failed
      · rename_i wrote
        cases lost : host.environment.home with
        | error other =>
            rw [lost] at failed
            obtain rfl := Except.error.inj failed
            exact .homeless named wrote lost
        | ok home =>
            rw [lost] at failed
            cases failed
      · rename_i other _ refused
        split at failed
        · cases failed
        · rename_i quiet
          obtain rfl := Except.error.inj failed
          rw [Program.under_forEach] at refused
          obtain ⟨front, file, back, middle, rfl, wrote, failedThere⟩ :=
            Program.run_forEach_eq_error_iff.1 (congrArg Prod.fst refused)
          rw [← Program.under_forEach] at wrote
          exact .blocked named wrote (blocks_iff.2 ⟨failedThere, Bool.eq_false_iff.2 quiet⟩)
  · intro escapes
    cases escapes with
    | unnamed lost => rw [lost]
    | @blocked front back file middle _ named wrote blocks =>
        obtain ⟨failed, quiet⟩ : (((writeScript shell
              (shell.script Shell.programName (first :: rest)) file).under refuses).run middle).1 =
            .error fault ∧ fault.isSystem = false := blocks_iff.1 blocks
        rw [Program.under_forEach] at wrote
        have refused := Program.run_forEach_eq_error_iff.2
          ⟨front, file, back, middle, rfl, wrote, failed⟩
        rw [← Program.under_forEach] at refused
        rw [named]
        dsimp only
        split
        · rename_i ran
          rw [ran] at refused
          cases refused
        · rename_i ran
          rw [ran] at refused
          obtain rfl := Except.error.inj refused
          rw [if_neg (by rw [quiet]; decide)]
    | homeless named wrote lost =>
        rw [named]
        dsimp only
        rw [wrote, lost]
        rfl

omit [Platform] in
theorem exists_of_mapM_eq_error {α β : Type} {f : α → Except Fault β} {list : List α}
    (failed : list.mapM f = .error fault) : ∃ element ∈ list, f element = .error fault := by
  induction list with
  | nil => cases failed
  | cons element rest ih =>
      rw [List.mapM_cons] at failed
      cases first : f element with
      | error other =>
          rw [first] at failed
          obtain rfl := Except.error.inj failed
          exact ⟨element, List.mem_cons_self, first⟩
      | ok value =>
          cases others : rest.mapM f with
          | error other =>
              rw [first, others] at failed
              obtain rfl := Except.error.inj failed
              obtain ⟨later, known, told⟩ := ih others
              exact ⟨later, List.mem_cons_of_mem _ known, told⟩
          | ok values =>
              rw [first, others] at failed
              cases failed

/-- The files of a destination cannot be named when a home directory in them is not known. -/
theorem fault_of_filesAt {environment : Environment} {commands : List String}
    (some' : commands ≠ [])
    (failed : filesAt environment shell commands destination = .error fault) :
    fault = .unknownHome ∨ fault = .nullByte := by
  have single {path : Path}
      (told : (environment.expandHome path).map (fun path => [path]) = .error fault) :
      fault = .unknownHome ∨ fault = .nullByte := by
    cases found : environment.expandHome path with
    | error other =>
        rw [found] at told
        obtain rfl := Except.error.inj told
        exact Environment.fault_of_expandHome found
    | ok path =>
        rw [found] at told
        cases told
  rw [filesAt] at failed
  split at failed
  · rw [Shell.defaultPaths.eq_def] at failed
    split at failed
    · exact absurd rfl some'
    · exact single failed
    · obtain ⟨_, _, lost⟩ := exists_of_mapM_eq_error failed
      exact Environment.fault_of_expandHome lost
  · exact single failed

theorem Escapes.known {commands : List String} (some' : commands ≠ [])
    (escapes : Escapes refuses host shell commands destination fault) :
    fault = .unknownHome ∨ fault = .nullByte ∨ fault = .tooManyLevels := by
  cases escapes with
  | unnamed lost => exact (fault_of_filesAt some' lost).imp_right .inl
  | blocked named wrote blocks =>
      cases blocks with
      | null => exact .inr (.inl rfl)
      | deep => exact .inr (.inr rfl)
  | homeless named wrote lost => exact (Environment.fault_of_expandHome lost).imp_right .inl

/-- Nothing escapes for plain files below few directories and a home directory that is known. -/
theorem not_escapes {commands : List String} {files : List Path} {home : Path}
    (named : filesAt host.environment shell commands destination = .ok files)
    (known : host.environment.home = .ok home)
    (sound : ∀ file ∈ files, file.parts.any (holds (Char.ofNat 0)) = false ∧
      file.parent.parts.length < Program.levelLimit) :
    ¬ Escapes refuses host shell commands destination fault := by
  intro escapes
  cases escapes with
  | unnamed lost =>
      rw [named] at lost
      cases lost
  | blocked namedToo wrote blocks =>
      rw [named] at namedToo
      obtain rfl := Except.ok.inj namedToo
      obtain ⟨clean, shallow⟩ := sound _ (List.mem_append_right _ List.mem_cons_self)
      cases blocks with
      | null null above =>
          rw [clean] at null
          cases null
      | deep deep missing => exact absurd shallow (Nat.not_lt.2 deep)
  | homeless namedToo wrote lost =>
      rw [known] at lost
      cases lost

theorem run_answer_eq_error_iff (arguments : List String) (settings : Settings)
    (refuses : Call → Option Nat) (host : Host) :
    (((answer arguments settings).under refuses).run host).1 = .error fault ↔
      ∃ shell destination, ofArguments arguments = .ok ⟨shell, some destination⟩ ∧
        commandsOf settings ≠ [] ∧
        Escapes refuses (noted settings host) shell (commandsOf settings) destination fault := by
  have install (shell : Shell) (destination : String)
      (asked : ofArguments arguments = .ok ⟨shell, some destination⟩)
      (some' : commandsOf settings ≠ []) :
      (((answer arguments settings).under refuses).run host).1 = .error fault ↔
        Escapes refuses (noted settings host) shell (commandsOf settings) destination fault := by
    rw [run_answer refuses asked]
    obtain ⟨first, rest, known⟩ := List.exists_cons_of_ne_nil some'
    rw [known]
    exact run_install_eq_error_iff refuses shell first rest destination
  constructor
  · intro failed
    by_cases idle : ∀ shell destination, ofArguments arguments = .ok ⟨shell, some destination⟩ →
        commandsOf settings = []
    · obtain ⟨_, _, ran⟩ := run_answer_of_idle refuses idle host
      rw [ran] at failed
      cases failed
    · simp only [not_forall] at idle
      obtain ⟨shell, destination, asked, some'⟩ := idle
      exact ⟨shell, destination, asked, some', (install shell destination asked some').1 failed⟩
  · rintro ⟨shell, destination, asked, some', escapes⟩
    exact (install shell destination asked some').2 escapes

/-- Whatever the system refuses, a request ends with a reply or with a fault that escapes. -/
theorem answer_ends (arguments : List String) (settings : Settings)
    (refuses : Call → Option Nat) (host : Host) :
    (∀ fault, (((answer arguments settings).under refuses).run host).1 = .error fault ↔
      ∃ shell destination, ofArguments arguments = .ok ⟨shell, some destination⟩ ∧
        commandsOf settings ≠ [] ∧
        Escapes refuses (noted settings host) shell (commandsOf settings) destination fault) ∧
    (∀ fault, (((answer arguments settings).under refuses).run host).1 = .error fault →
      fault = .unknownHome ∨ fault = .nullByte ∨ fault = .tooManyLevels) ∧
    ((∀ shell destination, ofArguments arguments = .ok ⟨shell, some destination⟩ →
      ∃ files home, filesAt host.environment shell (commandsOf settings) destination = .ok files ∧
        host.environment.home = .ok home ∧ ∀ file ∈ files,
          file.parts.any (holds (Char.ofNat 0)) = false ∧
            file.parent.parts.length < Program.levelLimit) →
      ∃ reply, (((answer arguments settings).under refuses).run host).1 = .ok reply) := by
  refine ⟨fun fault => run_answer_eq_error_iff arguments settings refuses host, ?_, ?_⟩
  · intro fault failed
    obtain ⟨_, _, _, some', escapes⟩ :=
      (run_answer_eq_error_iff arguments settings refuses host).1 failed
    exact escapes.known some'
  · intro sound
    cases ended : (((answer arguments settings).under refuses).run host).1 with
    | ok reply => exact ⟨reply, rfl⟩
    | error fault =>
        obtain ⟨shell, destination, asked, _, escapes⟩ :=
          (run_answer_eq_error_iff arguments settings refuses host).1 ended
        obtain ⟨files, home, named, known, plain⟩ := sound shell destination asked
        rw [← environment_noted settings host] at named known
        exact absurd escapes (not_escapes named known plain)

end AnnotatedMake.ScriptRequest

namespace AnnotatedMake.ScriptRequest

/-- There is a reply for a file, and also when the system refuses everything. -/
theorem answer_ends_file :
    (∃ reply, ((answer ["bash", "/script"] { schema := .standard "/cache" }).run fileHost).1 =
      .ok reply) ∧
    ∃ reply, (((answer ["bash", "/script"] { schema := .standard "/cache" }).under
      fun _ => some Fault.noAccess).run fileHost).1 = .ok reply := by
  have commands : commandsOf { schema := .standard "/cache" } = ["make"] := by decide
  have request : ofArguments ["bash", "/script"] = .ok ⟨.bash, some "/script"⟩ := by decide
  have sound (shell : Shell) (destination : String)
      (asked : ofArguments ["bash", "/script"] = .ok ⟨shell, some destination⟩) :
      ∃ files home, filesAt fileHost.environment shell
          (commandsOf { schema := .standard "/cache" }) destination = .ok files ∧
        fileHost.environment.home = .ok home ∧ ∀ file ∈ files,
          file.parts.any (holds (Char.ofNat 0)) = false ∧
            file.parent.parts.length < Program.levelLimit := by
    obtain ⟨rfl, same⟩ := ScriptRequest.mk.inj (Except.ok.inj (request.symm.trans asked))
    obtain rfl := Option.some.inj same
    rw [commands]
    refine ⟨[⟨.root, ["script"]⟩], ⟨.root, ["home"]⟩, rfl, rfl, fun file member => ?_⟩
    obtain rfl := List.mem_singleton.1 member
    decide
  have plain := (answer_ends _ { schema := .standard "/cache" } (fun _ => none) fileHost).2.2 sound
  rw [Program.under_none] at plain
  exact ⟨plain, (answer_ends _ _ _ fileHost).2.2 sound⟩

end AnnotatedMake.ScriptRequest
