import AnnotatedMake.Proofs.Expansion
import AnnotatedMake.Proofs.Host.Refusing
import AnnotatedMake.Proofs.Setting.Typing
import AnnotatedMake.Proofs.Toml.Fault

namespace AnnotatedMake

namespace Settings

variable [Platform]

variable {locations : Locations} {name : String} {host : Host} {path : Path}
  {refuses : Call → Option Nat}

/-- The settings file that a text names in an environment. -/
def pathNamed (locations : Locations) (environment : Environment) (name : String) :
    Except Fault Path :=
  if name = "" then .ok locations.settingsFile else environment.pathOf name

/-- A settings file is there, and it is opened and read once this is announced. -/
structure GivesContent (locations : Locations) (name : String) (refuses : Call → Option Nat)
    (host : Host) (path : Path) (content : Bytes) : Prop where
  named : pathNamed locations host.environment name = .ok path
  there : ∃ node, host.told refuses path = .ok node
  read : (host.report (loading path)).contentAt refuses path = .ok content

/-- A fault that the loading leaves to its caller. -/
inductive LeavesLoading (locations : Locations) (name : String) (refuses : Call → Option Nat)
    (host : Host) : Fault → Prop
  | unknownHome (lost : pathNamed locations host.environment name = .error .unknownHome) :
      LeavesLoading locations name refuses host .unknownHome
  | nullUser (lost : pathNamed locations host.environment name = .error .nullByte) :
      LeavesLoading locations name refuses host .nullByte
  | unseen {path : Path} {number : Nat}
      (named : pathNamed locations host.environment name = .ok path)
      (untold : host.told refuses path = .error (.system number))
      (present : Program.isAbsence (.system number) = false) :
      LeavesLoading locations name refuses host (.system number)
  | notText {path : Path} {content : Bytes}
      (opens : GivesContent locations name refuses host path content)
      (bytes : Utf8.decode? content = none) : LeavesLoading locations name refuses host .notText
  | tooNested {path : Path} {content : Bytes} {text : List Char}
      (opens : GivesContent locations name refuses host path content)
      (isText : Utf8.decode? content = some text)
      (refused : Toml.read text = .error .tooNested) :
      LeavesLoading locations name refuses host .tooNested
  | longInteger {path : Path} {content : Bytes} {text : List Char} {digits : Nat}
      (opens : GivesContent locations name refuses host path content)
      (isText : Utf8.decode? content = some text)
      (refused : Toml.read text = .error (.longInteger digits)) :
      LeavesLoading locations name refuses host (.longInteger digits)

/-- The critical report on a settings file that is refused. -/
inductive Complaint (path : Path) : Entry → Prop
  | unopened (number : Nat) : Complaint path
      { level := .critical, text := "Cannot open " ++ path.text ++ ": " ++ Fault.systemText number }
  | notToml : Complaint path
      { level := .critical
        text := "Problem reading " ++ path.text ++ ": " ++ Fault.brief .notToml }
  | noTable : Complaint path
      { level := .critical, text := "[" ++ sectionName ++ "] must be a table in " ++ path.text }

/-- A loading that is refused reports one critical entry, its last. Otherwise there is none. -/
structure Tells {α : Type} (named : Except Fault Path) (outcome : Except Fault α)
    (news : List Entry) : Prop where
  refused : outcome = .error .reported → ∃ path before complaint, named = .ok path ∧
    news = before ++ [complaint] ∧ Complaint path complaint ∧
    ∀ entry ∈ before, entry.level ≠ .critical
  quiet : outcome ≠ .error .reported → ∀ entry ∈ news, entry.level ≠ .critical

section Tells

variable {α β : Type} {named : Except Fault Path} {outcome : Except Fault α} {news : List Entry}

omit [Platform] in
/-- Nothing critical is told where no report is an answer. -/
theorem tells_of_quiet (left : outcome ≠ .error .reported)
    (quiet : ∀ entry ∈ news, entry.level ≠ .critical) : Tells named outcome news :=
  ⟨fun refused => absurd refused left, fun _ => quiet⟩

omit [Platform] in
/-- One complaint is told for a run that ends reported. -/
theorem tells_of_complaint {complaint : Entry} (complains : Complaint path complaint) :
    Tells (.ok path) (.error .reported : Except Fault α) [complaint] :=
  ⟨fun _ => ⟨path, [], complaint, rfl, rfl, complains, by simp⟩, fun left => absurd rfl left⟩

omit [Platform] in
/-- A report that is not critical changes nothing told. -/
theorem Tells.cons {entry : Entry} (uncritical : entry.level ≠ .critical)
    (tells : Tells named outcome news) : Tells named outcome (entry :: news) where
  refused refused := by
    obtain ⟨path, before, complaint, isNamed, rfl, complains, quiet⟩ := tells.refused refused
    refine ⟨path, entry :: before, complaint, isNamed, rfl, complains, ?_⟩
    rintro other (_ | ⟨_, later⟩)
    · exact uncritical
    · exact quiet other later
  quiet left := by
    rintro other (_ | ⟨_, later⟩)
    · exact uncritical
    · exact tells.quiet left other later

end Tells

/-- A refusal reports its reason and ends the run. -/
theorem run_refuse {α : Type} (reason : String) (host : Host) :
    (refuse reason : Program α).run host =
      (.error .reported, host.reportAll [{ level := .critical, text := reason }]) := rfl

omit [Platform] in
/-- A refusal only asks what no system refuses. -/
theorem certain_refuse {α : Type} (reason : String) :
    (refuse reason : Program α).CallsOnly Call.IsCertain :=
  Program.CallsOnly.bind (Program.certain_report ..) fun _ => trivial

omit [Platform] in
/-- Finding the section only asks what no system refuses. -/
theorem certain_sectionIn (path : Path) (document : Toml.Members) :
    (sectionIn path document).CallsOnly Call.IsCertain := by
  rw [sectionIn]
  split
  · trivial
  · trivial
  · exact certain_refuse _

omit [Platform] in
/-- Making settings only asks what no system refuses. -/
theorem certain_ofSection (locations : Locations) (entries : OrderedMap String Value) :
    (ofSection locations entries).CallsOnly Call.IsCertain :=
  Program.CallsOnly.bind (Program.callsOnly_forEach (Program.certain_report _) _) fun _ =>
    Program.CallsOnly.bind (Program.callsOnly_forEach (Program.certain_report _) _) fun _ => trivial

/-- A system that refuses calls does not change how a name is resolved. -/
theorem run_under_fileNamed (locations : Locations) (name : String) (host : Host) :
    ((fileNamed locations name).under refuses).run host =
      (pathNamed locations host.environment name, host) := by
  rw [fileNamed, pathNamed]
  split
  · rfl
  · rw [Program.under_of_certain (Program.certain_pathOf name)]
    exact Program.run_ofReply _ host

/-- Reading a document under refusals is reading its bytes. -/
theorem run_under_readDocument (refuses : Call → Option Nat) (path : Path) (host : Host) :
    ((readDocument path).under refuses).run host =
      ((host.contentAt refuses path).bind documentIn, host) := by
  rw [readDocument, Program.bind_eq_bind, Program.under_bind, Program.run_bind,
    Program.run_under_contentOf]
  cases host.contentAt refuses path with
  | error fault => rfl
  | ok content =>
      rw [Except.bind, documentIn]
      dsimp only
      cases Utf8.decode? content with
      | none => rfl
      | some text =>
          dsimp only
          rw [Program.under_ofReply]
          exact Program.run_ofReply (Toml.read text) host

section Reading

variable {read : Except Fault Bytes} {content : Bytes} {fault : Fault}

/-- A document fails for its encoding or for its syntax. -/
theorem documentIn_eq_error_iff : documentIn content = .error fault ↔
    Utf8.decode? content = none ∧ fault = .notText ∨
      ∃ text, Utf8.decode? content = some text ∧ Toml.read text = .error fault := by
  rw [documentIn]
  cases Utf8.decode? content with
  | none => simp [eq_comm]
  | some text => simp

omit [Platform] in
/-- A section is missed with a report only. -/
theorem entriesOf_ne_error {document : Toml.Members} (left : fault ≠ .reported) :
    entriesOf document ≠ .error fault := by
  rw [entriesOf]
  split <;> simp [left.symm]

omit [Platform] in
/-- Opening passes on the faults it does not explain. -/
theorem openFault_eq_iff {other : Fault} (left : fault ≠ .reported) :
    openFault other = fault ↔ other = fault ∧ fault.isSystem = false ∧ fault ≠ .notToml := by
  rw [openFault]
  split
  · rename_i told
    refine ⟨fun same => absurd same.symm left, ?_⟩
    rintro ⟨rfl, notSystem, differs⟩
    simp [notSystem, differs] at told
  · rename_i untold
    simp only [Bool.or_eq_true, decide_eq_true_eq, not_or, Bool.not_eq_true] at untold
    exact ⟨fun same => ⟨same, same ▸ untold⟩, And.left⟩

/-- A fault of reading the document is left when neither the system nor the rules of TOML are its
reason. -/
theorem settingsIn_eq_error_iff (left : fault ≠ .reported) :
    settingsIn locations read = .error fault ↔
      read.bind documentIn = .error fault ∧ fault.isSystem = false ∧ fault ≠ .notToml := by
  rw [settingsIn]
  cases read.bind documentIn with
  | error other => simp [openFault_eq_iff left]
  | ok document =>
      cases entered : entriesOf document with
      | error other =>
          have differs : other ≠ fault := fun same => entriesOf_ne_error left (same ▸ entered)
          simp [Except.map, entered, differs]
      | ok entries => simp [Except.map, entered]

/-- Reading a document never ends with a fault that was reported before. -/
theorem ne_reported_of_reading (ofSystem : ∀ other, read = .error other → other ≠ .reported)
    (failed : read.bind documentIn = .error fault) : fault ≠ .reported := by
  cases read with
  | error other => exact Except.error.inj failed ▸ ofSystem other rfl
  | ok content =>
      rcases documentIn_eq_error_iff.1 failed with ⟨-, rfl⟩ | ⟨text, -, refused⟩
      · exact nofun
      · cases Toml.isOfText_of_read refused <;> exact nofun

end Reading

/-- A document that cannot be opened is complained of, or its fault is left. -/
theorem run_openDocument_of_fault {fault : Fault} (unreported : fault ≠ .reported)
    (failed : ((readDocument path).under refuses).run host = (.error fault, host)) :
    ∃ news, ((openDocument path).under refuses).run host =
        (.error (openFault fault), host.reportAll news) ∧
      Tells (.ok path) (.error (openFault fault) : Except Fault Settings) news := by
  have refused (reason : String) :
      ((refuse reason : Program Toml.Members).under refuses).run host =
        (.error .reported, host.reportAll [{ level := .critical, text := reason }]) := by
    rw [Program.under_of_certain (certain_refuse reason)]
    exact run_refuse reason host
  rw [openDocument, Program.under_recover, Program.run_recover, failed]
  dsimp only
  by_cases system : fault.isSystem = true
  · obtain ⟨number, rfl⟩ : ∃ number, fault = .system number := by
      cases fault with
      | system number => exact ⟨number, rfl⟩
      | _ => cases system
    exact ⟨_, refused _, tells_of_complaint (.unopened number)⟩
  · by_cases wrong : fault = .notToml
    · subst wrong
      exact ⟨_, refused _, tells_of_complaint .notToml⟩
    · have left : openFault fault = fault := by simp [openFault, system, wrong]
      rw [if_neg system, if_neg wrong, left]
      exact ⟨[], rfl, tells_of_quiet (by simpa using unreported) (by simp)⟩

/-- A document without a proper section ends with one complaint. -/
theorem run_sectionIn_of_fault {document : Toml.Members} {fault : Fault}
    (failed : entriesOf document = .error fault) :
    ∃ complaint, Complaint path complaint ∧ fault = .reported ∧
      (sectionIn path document).run host = (.error fault, host.reportAll [complaint]) := by
  rw [entriesOf] at failed
  rw [sectionIn]
  cases found : Toml.member? document sectionName with
  | none =>
      rw [found] at failed
      cases failed
  | some value =>
      rw [found] at failed
      cases value with
      | table members => cases failed
      | _ =>
          obtain rfl := Except.error.inj failed
          exact ⟨_, .noTable, rfl, run_refuse _ host⟩

/-- Behind the announcement the file decides how the loading ends. -/
theorem run_announced (locations : Locations) (path : Path) (host : Host) :
    ∃ news, (((openDocument path).under refuses).bind fun document =>
        (sectionIn path document).bind fun entries => ofSection locations entries).run host =
          (settingsIn locations (host.contentAt refuses path), host.reportAll news) ∧
      Tells (.ok path) (settingsIn locations (host.contentAt refuses path)) news := by
  have read := run_under_readDocument refuses path host
  rw [settingsIn]
  cases found : (host.contentAt refuses path).bind documentIn with
  | error fault =>
      have unreported := ne_reported_of_reading (fun _ => Host.ne_reported_of_contentAt) found
      rw [found] at read
      obtain ⟨news, run, tells⟩ := run_openDocument_of_fault unreported read
      refine ⟨news, ?_, tells⟩
      rw [Program.run_bind, run]
  | ok document =>
      rw [found] at read
      rw [Program.run_bind, openDocument, Program.under_recover, Program.run_recover, read]
      dsimp only
      cases entered : entriesOf document with
      | error fault =>
          obtain ⟨complaint, complains, rfl, run⟩ := run_sectionIn_of_fault entered
          refine ⟨[complaint], ?_, tells_of_complaint complains⟩
          rw [Program.run_bind, run]
          rfl
      | ok entries =>
          rw [Program.run_bind, run_sectionIn_of_table entered]
          refine ⟨_, run_ofSection locations entries host, tells_of_quiet (by simp [Except.map]) ?_⟩
          intro entry member
          rcases List.mem_append.1 member with warned | refused
          · obtain ⟨_, _, rfl⟩ := List.mem_map.1 warned
            simp
          · obtain ⟨_, _, rfl⟩ := List.mem_map.1 refused
            simp

/-- A name that is no path ends loading with its fault. -/
theorem run_load_of_unnamed {fault : Fault}
    (lost : pathNamed locations host.environment name = .error fault) :
    ((load locations name).under refuses).run host = (.error fault, host) := by
  rw [load, Program.bind_eq_bind, Program.under_bind, Program.run_bind, run_under_fileNamed, lost]

/-- A file that is not seen gives the standard settings or its fault. -/
theorem run_load_of_unseen {fault : Fault}
    (named : pathNamed locations host.environment name = .ok path)
    (unseen : host.told refuses path = .error fault) :
    ∃ news, ((load locations name).under refuses).run host =
        (if Program.isAbsence fault then .ok (standard locations) else .error fault,
          host.reportAll news) ∧
      ∀ entry ∈ news, entry.level ≠ .critical := by
  simp only [load, Program.bind_eq_bind, Program.pure_eq_done]
  rw [Program.under_bind, Program.run_bind, run_under_fileNamed, named]
  dsimp only
  rw [Program.under_bind, Program.run_bind, Program.run_under_isThere, unseen]
  cases absent : Program.isAbsence fault with
  | false => exact ⟨[], by simp [absent]; rfl, by simp⟩
  | true =>
      by_cases usual : name = ""
      · exact ⟨[], by simp [usual, absent]; rfl, by simp⟩
      · refine ⟨[{ level := .warning, text := "Config file not found: " ++ path.text }], ?_,
          by simp⟩
        simp only [absent, Bool.false_eq_true, if_false, if_true, ne_eq, usual, not_false_eq_true]
        rw [Program.under_bind, Program.under_of_certain (Program.certain_report ..)]
        rfl

/-- A file that is seen is opened and its section read. -/
theorem run_load_of_seen {node : Node}
    (named : pathNamed locations host.environment name = .ok path)
    (seen : host.told refuses path = .ok node) :
    ((load locations name).under refuses).run host =
      (((openDocument path).under refuses).bind fun document =>
        (sectionIn path document).bind fun entries => ofSection locations entries).run
          (host.report (loading path)) := by
  have taken (document : Toml.Members) :
      ((sectionIn path document).bind fun entries => ofSection locations entries).under refuses =
        (sectionIn path document).bind fun entries => ofSection locations entries :=
    Program.under_of_certain (Program.CallsOnly.bind (certain_sectionIn path document)
      (certain_ofSection locations))
  simp only [load, Program.bind_eq_bind, Program.pure_eq_done]
  rw [Program.under_bind, Program.run_bind, run_under_fileNamed, named]
  dsimp only
  rw [Program.under_bind, Program.run_bind, Program.run_under_isThere, seen]
  dsimp only
  rw [if_pos rfl, Program.debug, Program.under_bind,
    Program.under_of_certain (Program.certain_report ..), Program.run_bind, Program.run_report]
  dsimp only
  rw [Program.under_bind, funext taken]
  rfl

/-- A name fails for an unknown home or for a null character. -/
theorem fault_of_pathNamed {fault : Fault}
    (lost : pathNamed locations host.environment name = .error fault) :
    fault = .unknownHome ∨ fault = .nullByte := by
  rw [pathNamed] at lost
  split at lost
  · cases lost
  · exact Environment.fault_of_pathOf lost

/-- A text that names no file leaves the fault of that. -/
theorem escapes_iff_of_unnamed {fault lost : Fault}
    (unnamed : pathNamed locations host.environment name = .error lost) :
    LeavesLoading locations name refuses host fault ↔ lost = fault := by
  constructor
  · intro escapes
    cases escapes with
    | unknownHome other | nullUser other => exact Except.error.inj (unnamed.symm.trans other)
    | unseen named => cases unnamed.symm.trans named
    | notText opens | tooNested opens | longInteger opens => cases unnamed.symm.trans opens.named
  · rintro rfl
    rcases fault_of_pathNamed unnamed with rfl | rfl
    · exact .unknownHome unnamed
    · exact .nullUser unnamed

/-- For a file that is named, the fault of its status or of its document escapes. -/
theorem escapes_iff_of_named {fault : Fault}
    (named : pathNamed locations host.environment name = .ok path) :
    LeavesLoading locations name refuses host fault ↔
      host.told refuses path = .error fault ∧ fault.isSystem = true ∧
          Program.isAbsence fault = false ∨
        ∃ content, GivesContent locations name refuses host path content ∧
          documentIn content = .error fault ∧ fault ≠ .notToml := by
  have same {other : Path} (otherNamed : pathNamed locations host.environment name = .ok other) :
      other = path := Except.ok.inj (otherNamed.symm.trans named)
  constructor
  · intro escapes
    cases escapes with
    | unknownHome lost | nullUser lost => cases named.symm.trans lost
    | unseen otherNamed untold present =>
        obtain rfl := same otherNamed
        exact .inl ⟨untold, rfl, present⟩
    | notText opens bytes =>
        obtain rfl := same opens.named
        exact .inr ⟨_, opens, documentIn_eq_error_iff.2 (.inl ⟨bytes, rfl⟩), nofun⟩
    | tooNested opens isText refused | longInteger opens isText refused =>
        obtain rfl := same opens.named
        exact .inr ⟨_, opens, documentIn_eq_error_iff.2 (.inr ⟨_, isText, refused⟩), nofun⟩
  · rintro (⟨untold, system, present⟩ | ⟨content, opens, failed, differs⟩)
    · cases fault with
      | system number => exact .unseen named untold present
      | _ => cases system
    · rcases documentIn_eq_error_iff.1 failed with ⟨bytes, rfl⟩ | ⟨text, isText, refused⟩
      · exact .notText opens bytes
      · cases Toml.isOfText_of_read refused with
        | notToml => exact absurd rfl differs
        | tooNested => exact .tooNested opens isText refused
        | longInteger digits => exact .longInteger opens isText refused

/-- A settings file that is not seen leaves a fault only when it is not absent. -/
theorem unseen_eq_error_iff {settings : Settings} {unseen fault : Fault}
    (named : pathNamed locations host.environment name = .ok path)
    (lost : host.told refuses path = .error unseen) :
    (if Program.isAbsence unseen then .ok settings else .error unseen) =
        (.error fault : Except Fault Settings) ↔
      LeavesLoading locations name refuses host fault := by
  have notOpen {content : Bytes} : ¬ GivesContent locations name refuses host path content := by
    rintro ⟨-, ⟨node, seen⟩, -⟩
    cases lost.symm.trans seen
  rw [escapes_iff_of_named named, lost, Except.error.injEq]
  cases absent : Program.isAbsence unseen with
  | true =>
      constructor
      · intro given
        cases given
      · rintro (⟨rfl, -, present⟩ | ⟨content, opens, -⟩)
        · cases absent.symm.trans present
        · exact absurd opens notOpen
  | false =>
      have system : unseen.isSystem = true := by
        refine (Host.fault_of_told lost).resolve_right ?_
        rintro rfl
        cases absent
      constructor
      · intro given
        obtain rfl := Except.error.inj given
        exact .inl ⟨rfl, system, absent⟩
      · rintro (⟨rfl, -, -⟩ | ⟨content, opens, -⟩)
        · rfl
        · exact absurd opens notOpen

/-- A settings file that is there leaves a fault of its text alone. -/
theorem held_eq_error_iff {fault : Fault} {node : Node} (left : fault ≠ .reported)
    (named : pathNamed locations host.environment name = .ok path)
    (seen : host.told refuses path = .ok node) :
    settingsIn locations ((host.report (loading path)).contentAt refuses path) = .error fault ↔
      LeavesLoading locations name refuses host fault := by
  have noNull := Host.noNull_of_told seen
  rw [settingsIn_eq_error_iff left, escapes_iff_of_named named]
  constructor
  · rintro ⟨failed, notSystem, differs⟩
    cases read : (host.report (loading path)).contentAt refuses path with
    | error other =>
        rw [read] at failed
        obtain rfl := Except.error.inj failed
        rw [Host.isSystem_of_contentAt noNull read] at notSystem
        cases notSystem
    | ok content =>
        rw [read] at failed
        exact .inr ⟨content, ⟨named, ⟨node, seen⟩, read⟩, failed, differs⟩
  · rintro (⟨unseen, -⟩ | ⟨content, opens, failed, differs⟩)
    · cases seen.symm.trans unseen
    · rw [opens.read]
      refine ⟨failed, ?_, differs⟩
      rcases documentIn_eq_error_iff.1 failed with ⟨-, rfl⟩ | ⟨text, -, refused⟩
      · rfl
      · cases Toml.isOfText_of_read refused <;> rfl

/-- Loading gives settings, ends with one critical report, or ends with a fault that escapes. -/
theorem load_ends (locations : Locations) (name : String) (refuses : Call → Option Nat)
    (host : Host) :
    ∃ outcome news,
      ((load locations name).under refuses).run host = (outcome, host.reportAll news) ∧
      Tells (pathNamed locations host.environment name) outcome news ∧
      ∀ fault, fault ≠ .reported →
        (outcome = .error fault ↔ LeavesLoading locations name refuses host fault) := by
  cases named : pathNamed locations host.environment name with
  | error lost =>
      have unreported : lost ≠ .reported := by
        rcases fault_of_pathNamed named with rfl | rfl <;> exact nofun
      refine ⟨.error lost, [], run_load_of_unnamed named,
        tells_of_quiet (by simpa using unreported) (by simp), fun fault _ => ?_⟩
      rw [escapes_iff_of_unnamed named, Except.error.injEq]
  | ok path =>
      cases seen : host.told refuses path with
      | error unseen =>
          obtain ⟨news, run, quiet⟩ := run_load_of_unseen named seen
          have unreported : unseen ≠ .reported := by
            rintro rfl
            rcases Host.fault_of_told seen with system | same
            · cases system
            · cases same
          refine ⟨_, news, run, tells_of_quiet ?_ quiet, fun fault _ =>
            unseen_eq_error_iff named seen⟩
          split
          · exact nofun
          · exact fun same => unreported (Except.error.inj same)
      | ok node =>
          obtain ⟨news, run, tells⟩ := run_announced locations path (host.report (loading path))
          exact ⟨_, loading path :: news, (run_load_of_seen named seen).trans run,
            tells.cons nofun, fun fault left => held_eq_error_iff left named seen⟩

end Settings

end AnnotatedMake

namespace AnnotatedMake.Settings

/-- A host whose settings file holds a byte that begins no character. -/
def strayHost : Host where
  files := FileSystem.empty.put ["settings"] (.file [0xFF] 5)

/-- The byte ends the loading without a word, and so does a file that is refused. -/
theorem load_ends_stray :
    (∃ news, (load rootLocations "").run strayHost = (.error .notText, strayHost.reportAll news) ∧
      ∀ entry ∈ news, entry.level ≠ .critical) ∧
    ∃ news, ((load rootLocations "").under fun _ => some Fault.noAccess).run strayHost =
        (.error (.system Fault.noAccess), strayHost.reportAll news) ∧
      ∀ entry ∈ news, entry.level ≠ .critical := by
  constructor
  · have root : strayHost.files.node? [] = some (.directory 0) := by
      rw [strayHost, FileSystem.node?_put, if_neg (by simp), FileSystem.node?_empty, if_pos rfl]
    have file : strayHost.files.node? ["settings"] = some (.file [0xFF] 5) :=
      FileSystem.node?_put_self ..
    have plain : IsPlainName "settings" := ⟨⟨⟨by decide, by decide⟩, by decide⟩, by decide⟩
    have opens : GivesContent rootLocations "" (fun _ => none) strayHost ⟨.root, ["settings"]⟩
        [0xFF] :=
      ⟨rfl, ⟨_, nodeAt_of_root root plain (by decide) file⟩,
        (Host.ends_of_root root plain (by decide)).read file⟩
    obtain ⟨outcome, news, ran, tells, ends⟩ :=
      load_ends rootLocations "" (fun _ => none) strayHost
    obtain rfl := (ends .notText nofun).2 (.notText opens (by decide))
    rw [Program.under_none] at ran
    exact ⟨news, ran, tells.quiet nofun⟩
  · obtain ⟨outcome, news, ran, tells, ends⟩ :=
      load_ends rootLocations "" (fun _ => some Fault.noAccess) strayHost
    obtain rfl := (ends (.system Fault.noAccess) nofun).2 (.unseen rfl rfl (by decide))
    exact ⟨news, ran, tells.quiet nofun⟩

end AnnotatedMake.Settings
