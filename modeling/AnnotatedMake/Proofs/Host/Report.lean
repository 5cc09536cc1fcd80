import AnnotatedMake.Proofs.Host.Effect

namespace AnnotatedMake

namespace FileSystem

/-- Adding to a file keeps every node, and makes none. -/
theorem keeps_extend (files : FileSystem) (place : Location) (content : Bytes) (time : Int) :
    files.Keeps (files.extend place content time) ∧
      (files.extend place content time).Keeps files := by
  constructor
  · intro other node present
    rcases files.node?_extend place content time other with same | ⟨_, _, _, before, after⟩
    · exact ⟨node, same.trans present, .refl node⟩
    · obtain rfl := Option.some.inj (before.symm.trans present)
      exact ⟨_, after, .file ..⟩
  · intro other node present
    rcases files.node?_extend place content time other with same | ⟨_, _, _, before, after⟩
    · exact ⟨node, same.symm.trans present, .refl node⟩
    · obtain rfl := Option.some.inj (after.symm.trans present)
      exact ⟨_, before, .file ..⟩

end FileSystem

namespace Host

variable {host after : Host}

/-- The file that keeps the log is there. -/
def HasLogFile (host : Host) : Prop :=
  ∀ place, host.logFile = some place → host.files.node? place ≠ none

/-- The host after entries are reported one after the other. -/
def reportAll (host : Host) (entries : List Entry) : Host := entries.foldl report host

/-- Reports are made one behind the other. -/
theorem reportAll_append (host : Host) (first second : List Entry) :
    host.reportAll (first ++ second) = (host.reportAll first).reportAll second := by
  rw [reportAll, List.foldl_append]
  rfl

/-- Reports that no file keeps change the log alone. -/
theorem reportAll_of_unkept (unkept : host.logFile = none) (entries : List Entry) :
    host.reportAll entries = { host with log := host.log ++ entries } := by
  induction entries generalizing host with
  | nil =>
      rw [List.append_nil]
      rfl
  | cons entry rest ih =>
      have first : host.report entry = { host with log := host.log ++ [entry] } := by
        simp only [report, unkept]
      have noted : { host with log := host.log ++ [entry] }.reportAll rest = _ := ih unkept
      rw [List.append_assoc] at noted
      exact (congrArg (fun middle => middle.reportAll rest) first).trans noted

/-- A report is the last entry of the log. -/
theorem log_report (host : Host) (entry : Entry) :
    (host.report entry).log = host.log ++ [entry] := by
  rw [report]
  split <;> rfl

/-- Reports are the last entries of the log. -/
theorem log_reportAll (host : Host) (entries : List Entry) :
    (host.reportAll entries).log = host.log ++ entries := by
  induction entries generalizing host with
  | nil => exact (List.append_nil _).symm
  | cons entry rest ih =>
      have further := ih (host.report entry)
      rw [log_report, List.append_assoc] at further
      exact further

/-- Reports spare everything but the file of the log. -/
theorem spares_reportAll (host : Host) (entries : List Entry) (changed : Location → Prop) :
    host.Spares (host.reportAll entries) changed := by
  induction entries generalizing host with
  | nil => exact .refl _ _
  | cons entry rest ih => exact (spares_report host entry changed).trans (ih _)

/-- Reports keep the log where it is. -/
theorem logFile_reportAll (host : Host) (entries : List Entry) :
    (host.reportAll entries).logFile = host.logFile := by
  induction entries generalizing host with
  | nil => rfl
  | cons entry rest ih =>
      refine (ih _).trans ?_
      rw [report]
      split <;> rfl

/-- Reports keep the variables. -/
theorem environment_reportAll (host : Host) (entries : List Entry) :
    (host.reportAll entries).environment = host.environment := by
  induction entries generalizing host with
  | nil => rfl
  | cons entry rest ih =>
      refine (ih _).trans ?_
      rw [report]
      split <;> rfl

/-- Reports keep every node, and make none. -/
theorem keeps_reportAll (host : Host) (entries : List Entry) :
    host.files.Keeps (host.reportAll entries).files ∧
      (host.reportAll entries).files.Keeps host.files := by
  induction entries generalizing host with
  | nil => exact ⟨FileSystem.keeps_refl _, FileSystem.keeps_refl _⟩
  | cons entry rest ih =>
      have first : host.files.Keeps (host.report entry).files ∧
          (host.report entry).files.Keeps host.files := by
        rw [report]
        split
        · exact ⟨FileSystem.keeps_refl _, FileSystem.keeps_refl _⟩
        · exact FileSystem.keeps_extend ..
      obtain ⟨before, after⟩ := ih (host.report entry)
      exact ⟨first.1.trans before, after.trans first.2⟩

/-- The file of the log stays through reports. -/
theorem HasLogFile.reportAll (log : host.HasLogFile) (entries : List Entry) :
    (host.reportAll entries).HasLogFile := by
  intro place isLog
  rw [logFile_reportAll] at isLog
  obtain ⟨node, present⟩ := Option.ne_none_iff_exists'.1 (log place isLog)
  obtain ⟨_, still, _⟩ := (host.keeps_reportAll entries).1 place node present
  exact Option.ne_none_iff_exists'.2 ⟨_, still⟩

/-- Only the file of the log is touched by reports. -/
theorem node?_reportAll {place : Location} (notLog : host.logFile ≠ some place)
    (entries : List Entry) :
    (host.reportAll entries).files.node? place = host.files.node? place := by
  induction entries generalizing host with
  | nil => rfl
  | cons entry rest ih =>
      have first : (host.report entry).files.node? place = host.files.node? place ∧
          (host.report entry).logFile = host.logFile := by
        rw [report]
        split
        · exact ⟨rfl, rfl⟩
        · rename_i log isLog
          refine ⟨?_, rfl⟩
          rcases host.files.node?_extend log (bytesOf entry.fileText) host.clock place with
            same | ⟨rfl, _⟩
          · exact same
          · exact absurd isLog notLog
      exact (ih (first.2 ▸ notLog)).trans first.1

end Host

variable [Platform]

namespace Program

variable {α β : Type} {allowed : Call → Prop} {host : Host}

/-- Whatever the replies are, every call of the program is allowed. -/
def CallsOnly (allowed : Call → Prop) : Program α → Prop
  | done _ => True
  | fail _ => True
  | call request next => allowed request ∧ ∀ reply, (next reply).CallsOnly allowed

omit [Platform] in
/-- A program and what follows it make the calls of both. -/
theorem CallsOnly.bind {program : Program α} {next : α → Program β}
    (first : program.CallsOnly allowed) (second : ∀ result, (next result).CallsOnly allowed) :
    (program.bind next).CallsOnly allowed := by
  induction program with
  | done result => exact second result
  | fail fault => trivial
  | call request continue' ih => exact ⟨first.1, fun reply => ih reply (first.2 reply)⟩

omit [Platform] in
/-- A program and its handlers make the calls of both. -/
theorem CallsOnly.recover {program : Program α} {handle : Fault → Program α}
    (first : program.CallsOnly allowed) (second : ∀ fault, (handle fault).CallsOnly allowed) :
    (program.recover handle).CallsOnly allowed := by
  induction program with
  | done result => trivial
  | fail fault => exact second fault
  | call request continue' ih => exact ⟨first.1, fun reply => ih reply (first.2 reply)⟩

omit [Platform] in
/-- Fewer calls are made than are allowed. -/
theorem CallsOnly.mono {program : Program α} {wider : Call → Prop}
    (within : ∀ request, allowed request → wider request) (calls : program.CallsOnly allowed) :
    program.CallsOnly wider := by
  induction program with
  | done result => trivial
  | fail fault => trivial
  | call request continue' ih =>
      exact ⟨within request calls.1, fun reply => ih reply (calls.2 reply)⟩

omit [Platform] in
/-- A reply makes no call. -/
theorem callsOnly_ofReply (reply : Except Fault α) : (ofReply reply).CallsOnly allowed := by
  cases reply <;> trivial

omit [Platform] in
/-- An action done for each element makes the calls of the action. -/
theorem callsOnly_forEach {action : α → Program Unit} (each : ∀ element, (action element).CallsOnly
    allowed) (list : List α) : (forEach action list).CallsOnly allowed := by
  induction list with
  | nil => trivial
  | cons element rest ih => exact (each element).bind fun _ => ih

/-- A call that has nothing to do with the log. -/
def IsSilent : Call → Prop
  | .report _ | .openLog _ => False
  | _ => True

/-- A call that asks what is there or makes a directory. -/
def IsPaving : Call → Prop
  | .inspect _ | .makeDirectory _ => True
  | _ => False

omit [Platform] in
/-- Making directories reports nothing. -/
theorem isSilent_of_isPaving {request : Call} (paving : IsPaving request) : IsSilent request := by
  cases request with
  | inspect | makeDirectory => trivial
  | _ => exact paving.elim

omit [Platform] in
/-- Asking for a directory belongs to making directories. -/
theorem paving_isDirectory (path : Path) : (isDirectory path).CallsOnly IsPaving := by
  have asked : (inspect path).CallsOnly IsPaving := ⟨trivial, fun _ => callsOnly_ofReply _⟩
  refine CallsOnly.bind (CallsOnly.recover (asked.bind fun _ => trivial) ?_) fun _ => trivial
  intro fault
  split <;> trivial

omit [Platform] in
/-- So does asking for one that has to be there. -/
theorem paving_directoryOrFail (path : Path) (fault : Fault) :
    ((isDirectory path).bind fun there =>
      if there then done () else fail fault).CallsOnly IsPaving := by
  refine (paving_isDirectory path).bind fun there => ?_
  cases there <;> trivial

omit [Platform] in
/-- So does making one that may be there. -/
theorem paving_makeUnlessThere (path : Path) : (makeUnlessThere path).CallsOnly IsPaving := by
  refine CallsOnly.recover ⟨trivial, fun _ => callsOnly_ofReply _⟩ ?_
  intro fault
  split
  · exact paving_directoryOrFail path fault
  · trivial

omit [Platform] in
/-- Directories are made by such calls alone. -/
theorem paving_makeDirectoriesUp (levels : Nat) (path : Path) :
    (makeDirectoriesUp levels path).CallsOnly IsPaving := by
  induction levels generalizing path with
  | zero => trivial
  | succ levels ih =>
      refine CallsOnly.recover ⟨trivial, fun _ => callsOnly_ofReply _⟩ ?_
      intro fault
      split
      · split
        · trivial
        · exact (ih path.parent).bind fun _ => paving_makeUnlessThere path
      · split
        · exact paving_directoryOrFail path fault
        · trivial

omit [Platform] in
/-- Asking for a directory reports nothing. -/
theorem silent_isDirectory (path : Path) : (isDirectory path).CallsOnly IsSilent :=
  (paving_isDirectory path).mono fun _ => isSilent_of_isPaving

omit [Platform] in
/-- Making directories reports nothing on the way. -/
theorem silent_makeDirectoriesUp (levels : Nat) (path : Path) :
    (makeDirectoriesUp levels path).CallsOnly IsSilent :=
  (paving_makeDirectoriesUp levels path).mono fun _ => isSilent_of_isPaving

/-- Directories are made without a change of where the log is kept. -/
theorem logFile_run_of_paving {program : Program α} (paving : program.CallsOnly IsPaving)
    (host : Host) : (program.run host).2.logFile = host.logFile := by
  induction program generalizing host with
  | done result => rfl
  | fail fault => rfl
  | call request next ih =>
      have first : (host.perform request).2.logFile = host.logFile := by
        cases request with
        | inspect => rfl
        | makeDirectory path =>
            dsimp only [Host.perform]
            rw [Host.change]
            split <;> rfl
        | _ => exact paving.1.elim
      exact (ih _ (paving.2 _) _).trans first

end Program

namespace Host

variable {host middle after : Host}

/-- Time may have passed, and nothing was reported meanwhile. -/
structure Precedes (host after : Host) : Prop where
  log : after.log = host.log
  clock : host.clock ≤ after.clock

omit [Platform] in
/-- A host comes before itself. -/
theorem Precedes.refl (host : Host) : host.Precedes host := ⟨rfl, Int.le_refl _⟩

omit [Platform] in
/-- What comes later still comes later. -/
theorem Precedes.trans (first : host.Precedes middle) (second : middle.Precedes after) :
    host.Precedes after :=
  ⟨second.log.trans first.log, Int.le_trans first.clock second.clock⟩

omit [Platform] in
/-- A change lets the clock go on. -/
theorem precedes_tick (host : Host) (files : FileSystem) :
    host.Precedes { host with files, clock := host.clock + 1 } :=
  ⟨rfl, Int.le_add_one (Int.le_refl _)⟩

omit [Platform] in
/-- A change of the files turns no clock back. -/
theorem precedes_change (host : Host) (path : Path) (removed : Nat)
    (operation : Location → List String → Except Nat FileSystem) :
    host.Precedes (host.change path removed operation).2 := by
  rw [change]
  split
  · exact .refl host
  · exact precedes_tick host _

omit [Platform] in
/-- Losing the log turns no clock back. -/
theorem Precedes.withoutLogAt {run : Except Fault Unit × Host} (precedes : host.Precedes run.2)
    (path : Path) : host.Precedes (host.withoutLogAt path run).2 := by
  unfold Host.withoutLogAt
  split
  · split
    · exact ⟨precedes.log, precedes.clock⟩
    · exact precedes
  · exact precedes

omit [Platform] in
/-- Moving a file turns no clock back. -/
theorem precedes_rename (host : Host) (source goal : Path) :
    host.Precedes (host.rename source goal).2 := by
  rw [rename]
  split
  · exact .refl host
  · exact .refl host
  · split
    · exact .refl host
    · exact precedes_tick host _
  · exact .refl host

omit [Platform] in
/-- Making a temporary file turns no clock back. -/
theorem precedes_createTemporary (host : Host) (directory : Path) (ending : String) :
    host.Precedes (host.createTemporary directory ending).2 := by
  rw [createTemporary]
  split
  · exact .refl host
  · dsimp only
    split
    · exact .refl host
    · exact precedes_tick host _

/-- A silent call leaves the log as it is and does not turn the clock back. -/
theorem precedes_perform {request : Call} (silent : Program.IsSilent request) (host : Host) :
    host.Precedes (host.perform request).2 := by
  cases request with
  | report | openLog => exact silent.elim
  | read | inspect | list | resolve | currentDirectory | environment => exact .refl host
  | makeDirectory | write => exact precedes_change ..
  | append path content =>
      rw [perform, append]
      split
      · exact .refl host
      · exact precedes_change ..
  | remove path => exact Precedes.withoutLogAt (precedes_change ..) path
  | rename source goal => exact Precedes.withoutLogAt (precedes_rename ..) goal
  | createTemporary directory ending => exact precedes_createTemporary ..

/-- So does a program that reports nothing. -/
theorem precedes_run {α : Type} {program : Program α}
    (silent : program.CallsOnly Program.IsSilent) (host : Host) :
    host.Precedes (program.run host).2 := by
  induction program generalizing host with
  | done result => exact .refl host
  | fail fault => exact .refl host
  | call request next ih =>
      rw [Program.run_call]
      exact (precedes_perform silent.1 host).trans (ih _ (silent.2 _) _)

end Host

end AnnotatedMake
