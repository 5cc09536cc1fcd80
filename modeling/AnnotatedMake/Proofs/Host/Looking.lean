import AnnotatedMake.Proofs.Host.Report

namespace AnnotatedMake

variable [Platform]

namespace Program

variable {α : Type} {program : Program α}

/-- A call that changes nothing but the log. -/
def IsLook : Call → Prop
  | .read _ | .inspect _ | .list _ | .resolve _ | .currentDirectory | .environment _
  | .report _ => True
  | _ => False

/-- A call that does not choose where the log is kept. -/
def KeepsLogFile : Call → Prop
  | .openLog _ => False
  | _ => True

omit [Platform] in
/-- Looking keeps the log where it is. -/
theorem keepsLogFile_of_isLook {request : Call} (look : IsLook request) : KeepsLogFile request := by
  cases request with
  | openLog => exact look.elim
  | _ => trivial

omit [Platform] in
/-- A silent call keeps the log where it is. -/
theorem keepsLogFile_of_isSilent {request : Call} (silent : IsSilent request) :
    KeepsLogFile request := by
  cases request with
  | openLog => exact silent.elim
  | _ => trivial

/-- Whatever a program that looks comes to, it leaves the host with its reports. -/
theorem run_of_looks (looks : program.CallsOnly IsLook) (host : Host) :
    ∃ entries, (program.run host).2 = host.reportAll entries := by
  induction program generalizing host with
  | done result => exact ⟨[], rfl⟩
  | fail fault => exact ⟨[], rfl⟩
  | call request next ih =>
      obtain ⟨look, later⟩ := looks
      rw [run_call]
      cases request with
      | report entry =>
          obtain ⟨entries, left⟩ := ih () (later ()) (host.report entry)
          exact ⟨entry :: entries, left⟩
      | read | inspect | list | resolve | currentDirectory | environment =>
          exact ih _ (later _) host
      | _ => exact look.elim

omit [Platform] in
theorem looks_contentOf (path : Path) : (contentOf path).CallsOnly IsLook :=
  ⟨trivial, fun _ => callsOnly_ofReply _⟩

omit [Platform] in
theorem looks_currentDirectory : currentDirectory.CallsOnly IsLook :=
  ⟨trivial, fun _ => callsOnly_ofReply _⟩

omit [Platform] in
theorem looks_report (level : Level) (text : String) : (report level text).CallsOnly IsLook :=
  ⟨trivial, fun _ => trivial⟩

omit [Platform] in
theorem looks_reportFault (level : Level) (text : String) (fault : Fault) :
    (reportFault level text fault).CallsOnly IsLook :=
  ⟨trivial, fun _ => trivial⟩

omit [Platform] in
/-- Asking for a status is looking. -/
theorem looks_statusOf? (path : Path) : (statusOf? path).CallsOnly IsLook := by
  have asked : (inspect path).CallsOnly IsLook := ⟨trivial, fun _ => callsOnly_ofReply _⟩
  refine CallsOnly.recover (asked.bind fun _ => trivial) fun fault => ?_
  split <;> trivial

omit [Platform] in
/-- Asking for a file is looking. -/
theorem looks_isFile (path : Path) : (isFile path).CallsOnly IsLook :=
  CallsOnly.bind (looks_statusOf? path) fun _ => trivial

omit [Platform] in
/-- Asking for a directory is looking. -/
theorem looks_isDirectory (path : Path) : (isDirectory path).CallsOnly IsLook :=
  CallsOnly.bind (looks_statusOf? path) fun _ => trivial

omit [Platform] in
/-- Asking whether a path is there is looking. -/
theorem looks_isThere (path : Path) : (isThere path).CallsOnly IsLook :=
  CallsOnly.bind (looks_statusOf? path) fun _ => trivial

/-- Naming a path is looking. -/
theorem looks_pathOf (text : String) : (pathOf text).CallsOnly IsLook :=
  CallsOnly.bind ⟨trivial, fun _ => trivial⟩ fun _ => callsOnly_ofReply _

end Program

namespace Host

/-- The host with these entries in its log, which is kept in no file. -/
def logging (host : Host) (entries : List Entry) : Host :=
  { host with log := entries, logFile := none }

omit [Platform] in
/-- Reports of a host without a log file are collected. -/
theorem reportAll_logging (host : Host) (first second : List Entry) :
    (host.logging first).reportAll second = host.logging (first ++ second) := by
  induction second generalizing first with
  | nil => rw [List.append_nil]; rfl
  | cons entry rest ih =>
      rw [List.append_cons]
      exact ih (first ++ [entry])

omit [Platform] in
/-- A change of the files does not hang on the log. -/
theorem change_logging (host : Host) (entries : List Entry) (path : Path) (removed : Nat)
    (operation : Location → List String → Except Nat FileSystem) :
    (host.logging entries).change path removed operation =
      ((host.change path removed operation).1,
        (host.change path removed operation).2.logging entries) := by
  have same : (host.logging entries).query path (.error removed) operation =
      host.query path (.error removed) operation := rfl
  rw [change, change, same]
  split <;> rfl

omit [Platform] in
/-- On a host whose log is kept in no file nothing takes the log away. -/
theorem withoutLogAt_logging (host : Host) (entries : List Entry) (path : Path)
    (run : Except Fault Unit × Host) :
    (host.logging entries).withoutLogAt path (run.1, run.2.logging entries) =
      ((host.withoutLogAt path run).1, (host.withoutLogAt path run).2.logging entries) := by
  obtain ⟨outcome, after⟩ := run
  cases outcome with
  | error fault => rfl
  | ok result =>
      rw [withoutLogAt, withoutLogAt]
      dsimp only
      split <;> split <;> rfl

omit [Platform] in
/-- Moving a file does not hang on the log. -/
theorem rename_logging (host : Host) (entries : List Entry) (source goal : Path) :
    (host.logging entries).rename source goal =
      ((host.rename source goal).1, (host.rename source goal).2.logging entries) := by
  have way (path : Path) : (host.logging entries).route path = host.route path := rfl
  rw [rename, rename, way, way]
  split
  · rfl
  · rfl
  · have same (start names goalStart goalNames) :
        (host.logging entries).files.rename start names goalStart goalNames
          (host.logging entries).clock =
        host.files.rename start names goalStart goalNames host.clock := rfl
    rw [same]
    split <;> rfl
  · rfl

omit [Platform] in
/-- Making a temporary file does not hang on the log. -/
theorem createTemporary_logging (host : Host) (entries : List Entry) (directory : Path)
    (ending : String) :
    (host.logging entries).createTemporary directory ending =
      ((host.createTemporary directory ending).1,
        (host.createTemporary directory ending).2.logging entries) := by
  have plain : (host.logging entries).absolute directory = host.absolute directory := rfl
  rw [createTemporary, createTemporary, plain]
  split
  · rfl
  · have same (likely : Path) : (host.logging entries).query likely (.error Fault.notFound)
        (fun start names => (host.logging entries).files.createTemporary start names.dropLast ending
          (host.logging entries).clock) =
        host.query likely (.error Fault.notFound) fun start names =>
          host.files.createTemporary start names.dropLast ending host.clock := rfl
    dsimp only
    rw [same]
    split <;> rfl

/-- A call that has nothing to do with the log is answered alike whatever the log holds. -/
theorem perform_logging {request : Call} (silent : Program.IsSilent request) (host : Host)
    (entries : List Entry) :
    (host.logging entries).perform request =
      ((host.perform request).1, (host.perform request).2.logging entries) := by
  cases request with
  | report | openLog => exact silent.elim
  | read | inspect | list | resolve | currentDirectory | environment => rfl
  | makeDirectory | write => exact change_logging ..
  | createTemporary directory ending => exact createTemporary_logging ..
  | append path content =>
      have same : (host.logging entries).query path (.error Fault.isDirectory)
          (host.logging entries).files.read =
          host.query path (.error Fault.isDirectory) host.files.read := rfl
      rw [perform, perform, append, append, same]
      split
      · rfl
      · exact change_logging ..
  | rename source goal =>
      rw [perform, perform, rename_logging, withoutLogAt_logging]
  | remove path =>
      have removed := host.change_logging entries path Fault.isDirectory fun start names =>
        host.files.remove start names host.clock
      exact (congrArg _ removed).trans (withoutLogAt_logging ..)

end Host

namespace Program

variable {α β : Type} {program : Program α} {host : Host}

/-- What a program comes to does not hang on a log that is kept in no file. -/
theorem run_logging (keeps : program.CallsOnly KeepsLogFile) (host : Host) :
    ∃ (outcome : Except Fault α) (after : Host) (news : List Entry),
      (∀ entries, program.run (host.logging entries) =
        (outcome, after.logging (entries ++ news))) ∧
      ∀ collected, ∃ last, (collecting collected program).run host =
        (.ok (outcome, collected ++ news), last) ∧ last.logging [] = after.logging [] := by
  induction program generalizing host with
  | done result =>
      refine ⟨.ok result, host, [], ?_, ?_⟩
      · intro entries
        rw [List.append_nil]
        rfl
      · intro collected
        rw [List.append_nil]
        exact ⟨host, rfl, rfl⟩
  | fail fault =>
      refine ⟨.error fault, host, [], ?_, ?_⟩
      · intro entries
        rw [List.append_nil]
        rfl
      · intro collected
        rw [List.append_nil]
        exact ⟨host, rfl, rfl⟩
  | call request next ih =>
      obtain ⟨keep, later⟩ := keeps
      by_cases silent : IsSilent request
      · obtain ⟨outcome, after, news, runs, collects⟩ :=
          ih _ (later (host.perform request).1) (host.perform request).2
        refine ⟨outcome, after, news, ?_, ?_⟩
        · intro entries
          rw [run_call, Host.perform_logging silent]
          exact runs entries
        · intro collected
          obtain ⟨last, ran, same⟩ := collects collected
          refine ⟨last, ?_, same⟩
          cases request with
          | report => exact silent.elim
          | _ => exact ran
      · cases request with
        | report entry =>
            obtain ⟨outcome, after, news, runs, collects⟩ := ih () (later ()) host
            refine ⟨outcome, after, entry :: news, ?_, ?_⟩
            · intro entries
              rw [List.append_cons]
              exact runs (entries ++ [entry])
            · intro collected
              obtain ⟨last, ran, same⟩ := collects (collected ++ [entry])
              rw [← List.append_cons] at ran
              exact ⟨last, ran, same⟩
        | openLog => exact keep.elim
        | _ => exact absurd trivial silent

/-- Wherever the log stands, the program comes to an outcome, and nothing else is changed. -/
def Finds (program : Program α) (host : Host) (outcome : Except Fault α) : Prop :=
  ∀ entries, ∃ news,
    program.run (host.logging entries) = (outcome, host.logging (entries ++ news))

/-- Wherever the log stands, the program comes to an outcome and leaves one host or another with its
reports. -/
def Makes (program : Program α) (host : Host) (outcome : Except Fault α) (after : Host) : Prop :=
  ∀ entries, ∃ news,
    program.run (host.logging entries) = (outcome, after.logging (entries ++ news))

/-- Wherever the log stands, the program comes to an outcome. -/
def ComesTo (program : Program α) (host : Host) (outcome : Except Fault α) : Prop :=
  ∀ entries, (program.run (host.logging entries)).1 = outcome

/-- A program that keeps the log where it is comes to one outcome. -/
theorem comesTo_of_keeps (keeps : program.CallsOnly KeepsLogFile) (host : Host) :
    program.ComesTo host (program.run (host.logging [])).1 := by
  obtain ⟨outcome, after, news, runs, _⟩ := run_logging keeps host
  intro entries
  rw [runs, runs]

/-- What a program does that reports nothing does not hang on the log. -/
theorem run_logging_of_silent (silent : program.CallsOnly IsSilent) (host : Host)
    (entries : List Entry) :
    program.run (host.logging entries) =
      ((program.run host).1, (program.run host).2.logging entries) := by
  induction program generalizing host with
  | done result => rfl
  | fail fault => rfl
  | call request next ih =>
      rw [run_call, run_call, Host.perform_logging silent.1]
      exact ih _ (silent.2 _) _

/-- What is found makes the host as it is. -/
theorem Finds.makes {outcome : Except Fault α} (finds : program.Finds host outcome) :
    program.Makes host outcome host := finds

/-- A result is found at once. -/
theorem finds_done (result : α) (host : Host) : (done result).Finds host (.ok result) := by
  intro entries
  refine ⟨[], ?_⟩
  rw [List.append_nil]
  rfl

/-- A fault is found at once. -/
theorem finds_fail (fault : Fault) (host : Host) :
    (fail fault : Program α).Finds host (.error fault) := by
  intro entries
  refine ⟨[], ?_⟩
  rw [List.append_nil]
  rfl

/-- A report finds nothing and changes nothing. -/
theorem finds_report (level : Level) (text : String) (host : Host) :
    (report level text).Finds host (.ok ()) :=
  fun _ => ⟨[{ level, text }], rfl⟩

/-- A path is found in the variables alone. -/
theorem finds_pathOf (text : String) (host : Host) :
    (pathOf text).Finds host (host.environment.pathOf text) := by
  intro entries
  refine ⟨[], ?_⟩
  rw [List.append_nil, pathOf, bind_eq_bind, run_bind, environment, run_call]
  exact run_ofReply _ _

/-- What finds nothing amiss each time finds nothing amiss. -/
theorem finds_forEach {β : Type} {action : β → Program Unit} {host : Host}
    (each : ∀ element, (action element).Finds host (.ok ())) (list : List β) :
    (forEach action list).Finds host (.ok ()) := by
  induction list with
  | nil => exact finds_done () host
  | cons element rest ih =>
      intro entries
      obtain ⟨news, ran⟩ := each element entries
      obtain ⟨more, ranThen⟩ := ih (entries ++ news)
      refine ⟨news ++ more, ?_⟩
      rw [forEach, run_bind, ran, ← List.append_assoc]
      exact ranThen

section Bind

variable {next : α → Program β} {result : α} {fault : Fault} {outcome : Except Fault β}

/-- What follows a program starts from the host that it leaves. -/
theorem Makes.bind {middle after : Host} (first : program.Makes host (.ok result) middle)
    (second : (next result).Makes middle outcome after) :
    (program.bind next).Makes host outcome after := by
  intro entries
  obtain ⟨news, ran⟩ := first entries
  obtain ⟨more, ranThen⟩ := second (entries ++ news)
  refine ⟨news ++ more, ?_⟩
  rw [run_bind, ran, ← List.append_assoc]
  exact ranThen

/-- What is found first is gone on from. -/
theorem Finds.bind (first : program.Finds host (.ok result))
    (second : (next result).Finds host outcome) : (program.bind next).Finds host outcome :=
  Makes.bind first second

/-- A fault ends what follows. -/
theorem Finds.bind_error (first : program.Finds host (.error fault)) :
    (program.bind next).Finds host (.error fault) := by
  intro entries
  obtain ⟨news, ran⟩ := first entries
  exact ⟨news, by rw [run_bind, ran]⟩

/-- What follows a program that found something comes to the same as on its own. -/
theorem Finds.bind_comesTo (first : program.Finds host (.ok result))
    (second : (next result).ComesTo host outcome) : (program.bind next).ComesTo host outcome := by
  intro entries
  obtain ⟨news, ran⟩ := first entries
  rw [run_bind, ran]
  exact second (entries ++ news)

end Bind

section Recover

variable {handle : Fault → Program α} {fault : Fault} {outcome : Except Fault α}

/-- A result needs no handler. -/
theorem Makes.recover {result : α} {after : Host} (first : program.Makes host (.ok result) after) :
    (program.recover handle).Makes host (.ok result) after := by
  intro entries
  obtain ⟨news, ran⟩ := first entries
  exact ⟨news, by rw [run_recover, ran]⟩

/-- A result that is found needs no handler. -/
theorem Finds.recover {result : α} (first : program.Finds host (.ok result)) :
    (program.recover handle).Finds host (.ok result) :=
  Makes.recover first

/-- A fault that is found is handled. -/
theorem Finds.recover_error (first : program.Finds host (.error fault))
    (second : (handle fault).Finds host outcome) :
    (program.recover handle).Finds host outcome := by
  intro entries
  obtain ⟨news, ran⟩ := first entries
  obtain ⟨more, ranThen⟩ := second (entries ++ news)
  refine ⟨news ++ more, ?_⟩
  rw [run_recover, ran, ← List.append_assoc]
  exact ranThen

end Recover

end Program

end AnnotatedMake
