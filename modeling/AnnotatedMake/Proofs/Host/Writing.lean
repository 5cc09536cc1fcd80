import AnnotatedMake.Proofs.Host.Making
import AnnotatedMake.Proofs.Host.Reading
import AnnotatedMake.Proofs.Host.Report

namespace AnnotatedMake

/-- The place where a walk ends, of a node or of one that could be made. -/
def Destination.goal : Destination → Location
  | .found place _ => place
  | .vacant directory name => directory ++ [name]

namespace FileSystem

variable {files later : FileSystem} {purpose : Purpose} {links : Nat} {place home : Location}
  {names : List String} {name : String}

/-- What a walk finds vacant is vacant. -/
theorem node?_of_vacant (walked : files.walk purpose links place names = .ok (.vacant home name)) :
    files.node? (home ++ [name]) = none := by
  fun_induction walk files purpose links place names <;> grind

/-- The way to the end of a walk is open once a node that is no link stands there. -/
theorem passes_of_walk (follows : purpose ≠ .itself) (keeps : files.Keeps later)
    {destination : Destination} {node : Node} (present : later.node? destination.goal = some node)
    (notLink : ∀ target, node ≠ .link target)
    (walked : files.walk purpose links place names = .ok destination) :
    ∃ left, later.Passes links place names left destination.goal := by
  have entry {name : String} (elsewhere : ¬ isHere name = true) (notUp : ¬ name = "..") :
      IsEntryName name := ⟨Bool.eq_false_iff.2 elsewhere, notUp⟩
  fun_induction walk files purpose links place names with
  | case1 links place =>
      obtain rfl := Except.ok.inj walked
      exact ⟨links, .done links place⟩
  | case3 links place name rest time isDirectory here ih =>
      obtain ⟨_, still⟩ := keeps.ways.directory isDirectory
      obtain ⟨left, further⟩ := ih walked
      exact ⟨left, .stay still here further⟩
  | case4 links place rest time isDirectory elsewhere ih =>
      obtain ⟨_, still⟩ := keeps.ways.directory isDirectory
      obtain ⟨left, further⟩ := ih walked
      exact ⟨left, .up still further⟩
  | case7 links place name rest time isDirectory elsewhere notUp _ short vacant ends =>
      -- The node stands under the last name, which was vacant before.
      obtain ⟨_, still⟩ := keeps.ways.directory isDirectory
      obtain rfl := Except.ok.inj walked
      obtain rfl := List.isEmpty_iff.1 ends
      exact ⟨links, .into still (entry elsewhere notUp) (Bool.eq_false_iff.2 short) present notLink
        (.done ..)⟩
  | case9 links place name rest time isDirectory elsewhere notUp _ short target isLink asked =>
      simp [follows] at asked
  | case11 place name rest time isDirectory elsewhere notUp _ short target isLink _ left ih =>
      obtain ⟨_, still⟩ := keeps.ways.directory isDirectory
      obtain ⟨_, there, kin⟩ := keeps _ _ isLink
      cases kin
      obtain ⟨last, further⟩ := ih walked
      exact ⟨last, .link still (entry elsewhere notUp) (Bool.eq_false_iff.2 short) there further⟩
  | case12 links place name rest time isDirectory elsewhere notUp _ short held other there ih =>
      obtain ⟨_, still⟩ := keeps.ways.directory isDirectory
      obtain ⟨_, stays, kin⟩ := keeps _ _ there
      obtain ⟨left, further⟩ := ih walked
      exact ⟨left, .into still (entry elsewhere notUp) (Bool.eq_false_iff.2 short) stays
        (kin.notLink other) further⟩
  | case2 | case5 | case6 | case8 | case10 | case13 | case14 => cases walked

/-- A write changes the node at one place, which a walk leads to from then on. -/
theorem write_eq_ok {start : Location} {content : Bytes → Bytes} {time : Int}
    (written : files.write start names content time = .ok later) :
    ∃ goal node left, later.Passes linkAllowance start names left goal ∧
      later.node? goal = some node ∧ (∀ target, files.node? goal ≠ some (.link target)) ∧
      files.Keeps later ∧ (files.SameBut later fun other => other = goal) ∧
      (node = .sink ∨ ∃ old, node = .file (content old) time) := by
  have through {destination : Destination} {node : Node} {later : FileSystem}
      (walked : files.lookUp .creation start names = .ok destination) (keeps : files.Keeps later)
      (present : later.node? destination.goal = some node)
      (notLink : ∀ target, node ≠ .link target) :=
    passes_of_walk (by decide) keeps present notLink walked
  rw [write] at written
  split at written
  · cases written
  · rename_i place old before walked
    obtain rfl := Except.ok.inj written
    have was := node?_of_walk walked
    have keeps : files.Keeps (files.put place (.file (content old) time)) := by
      refine keeps_put fun held present => ?_
      obtain rfl := Option.some.inj (was.symm.trans present)
      exact .file ..
    have now := files.node?_put_self place (.file (content old) time)
    obtain ⟨left, passes⟩ := through walked keeps now fun _ same => by cases same
    exact ⟨place, _, left, passes, now, by simp [was], keeps, files.sameBut_put _ _,
      .inr ⟨old, rfl⟩⟩
  · rename_i place walked
    obtain rfl := Except.ok.inj written
    have was := node?_of_walk walked
    obtain ⟨left, passes⟩ := through walked (keeps_refl files) was fun _ same => by cases same
    exact ⟨place, _, left, passes, was, by simp [was], keeps_refl files,
      fun _ _ => ⟨.same _, Iff.rfl⟩, .inl rfl⟩
  · cases written
  · rename_i home name walked
    obtain rfl := Except.ok.inj written
    have was := node?_of_vacant walked
    have keeps : files.Keeps (files.add home name (.file (content []) time) time) := keeps_add was
    have now := files.node?_add_self home name (.file (content []) time) time
    obtain ⟨left, passes⟩ := through walked keeps now fun _ same => by cases same
    exact ⟨home ++ [name], _, left, passes, now, by simp [was], keeps, files.sameBut_add _ _ _ _,
      .inr ⟨[], rfl⟩⟩

end FileSystem

variable [Platform]

namespace Host

variable {host middle after : Host} {path : Path} {paths more : List Path} {content : Bytes}
  {place : Location}

/-- A place has the content, in front of later reports if it is the log. -/
def Holds (host : Host) (place : Location) (content : Bytes) : Prop :=
  (∃ further time, host.files.node? place = some (.file (content ++ further) time) ∧
    (further = [] ∨ host.logFile = some place)) ∨
  host.files.node? place = some .sink

omit [Platform] in
/-- A place that is alike holds what it held. -/
theorem Holds.of_alike (logFile : after.logFile = host.logFile)
    (alike : Alike (host.files.node? place) (after.files.node? place))
    (holds : host.Holds place content) : after.Holds place content := by
  rcases holds with ⟨further, time, present, plain⟩ | present
  · exact .inl ⟨further, time, alike.file_iff.1 present, logFile ▸ plain⟩
  · rw [present] at alike
    generalize now : after.files.node? place = node at alike
    cases alike
    exact .inr now

/-- Content was written to the files at some paths, each with its directories. -/
structure Receives (host after : Host) (paths : List Path) (content : Bytes) : Prop where
  directory : after.directory = host.directory
  logFile : after.logFile = host.logFile
  keeps : host.files.Keeps after.files
  links : ∀ place target, host.files.node? place = some (.link target) ↔
    after.files.node? place = some (.link target)
  written : ∀ path ∈ paths, ∃ place, after.placeOf? .target path = some place ∧
    after.Holds place content
  still : ∀ place, host.Holds place content → after.Holds place content
  others : ∀ place, (∀ path ∈ paths, after.placeOf? .target path ≠ some place) →
    host.logFile ≠ some place → Alike (host.files.node? place) (after.files.node? place)
  made : ∀ place, (∀ path ∈ paths, after.placeOf? .target path ≠ some place) →
    host.files.node? place = none → after.files.node? place ≠ none →
      ∃ path ∈ paths, ∃ count, host.leads? (path.parent.upTo count) = some place

omit [Platform] in
/-- What is received changes no way. -/
theorem Receives.leads? (receives : host.Receives after paths content) (other : Path) :
    after.leads? other = host.leads? other :=
  leads?_congr receives.directory receives.links other

omit [Platform] in
/-- What was no place of a path in between is none of it at the end. -/
theorem Receives.not_between (second : middle.Receives after more content)
    (apart : ∀ path ∈ paths ++ more, after.placeOf? .target path ≠ some place) :
    ∀ path ∈ paths, middle.placeOf? .target path ≠ some place :=
  fun path member stands => apart path (List.mem_append_left _ member)
    (placeOf?_of_keeps second.directory second.keeps stands)

omit [Platform] in
/-- Files received in turn are received in all. -/
theorem Receives.append (first : host.Receives middle paths content)
    (second : middle.Receives after more content) :
    host.Receives after (paths ++ more) content where
  directory := second.directory.trans first.directory
  logFile := second.logFile.trans first.logFile
  keeps := first.keeps.trans second.keeps
  links place target := (first.links place target).trans (second.links place target)
  written path member := by
    rcases List.mem_append.1 member with before | later
    · obtain ⟨place, stands, holds⟩ := first.written path before
      exact ⟨place, placeOf?_of_keeps second.directory second.keeps stands,
        second.still place holds⟩
    · exact second.written path later
  still place holds := second.still place (first.still place holds)
  others place apart notLog :=
    (first.others place (second.not_between apart) notLog).trans
      (second.others place (fun path member => apart path (List.mem_append_right _ member))
        (first.logFile ▸ notLog))
  made place apart vacant present := by
    by_cases between : middle.files.node? place = none
    · obtain ⟨path, member, count, leads⟩ := second.made place
        (fun path member => apart path (List.mem_append_right _ member)) between present
      exact ⟨path, List.mem_append_right _ member, count, first.leads? _ ▸ leads⟩
    · obtain ⟨path, member, count, leads⟩ :=
        first.made place (second.not_between apart) vacant between
      exact ⟨path, List.mem_append_left _ member, count, leads⟩

omit [Platform] in
/-- An entry of the log is added to the file of the log, if it is there. -/
theorem node?_report (host : Host) (entry : Entry) (place : Location) :
    (host.report entry).files.node? place = host.files.node? place ∨
      host.logFile = some place ∧ ∃ old before news time,
        host.files.node? place = some (.file old before) ∧
        (host.report entry).files.node? place = some (.file (old ++ news) time) := by
  rw [report]
  split
  · exact .inl rfl
  · rename_i log isLog
    rcases host.files.node?_extend log (bytesOf entry.fileText) host.clock place with
      same | ⟨rfl, old, before, was, now⟩
    · exact .inl same
    · exact .inr ⟨isLog, old, before, _, _, was, now⟩

omit [Platform] in
/-- A report gives no file anything. -/
theorem receives_report (host : Host) (entry : Entry) (content : Bytes) :
    host.Receives (host.report entry) [] content := by
  have spares := host.spares_report entry fun _ => False
  have logFile : (host.report entry).logFile = host.logFile := host.logFile_reportAll [entry]
  refine ⟨spares.directory, logFile, (host.keeps_reportAll [entry]).1, spares.links,
    fun _ member => absurd member List.not_mem_nil, ?_,
    fun place _ notLog => spares.nodes place not_false notLog, ?_⟩
  · intro place holds
    rcases host.node?_report entry place with same | ⟨isLog, old, before, news, now, was, is⟩
    · exact holds.of_alike logFile (same ▸ .same _)
    · rcases holds with ⟨further, time, present, -⟩ | present
      · obtain ⟨rfl, -⟩ := Node.file.inj (Option.some.inj (was.symm.trans present))
        rw [List.append_assoc] at is
        exact .inl ⟨further ++ news, now, is, .inr (logFile.trans isLog)⟩
      · cases was.symm.trans present
  · intro place _ vacant present
    rcases host.node?_report entry place with same | ⟨_, _, _, _, _, was, _⟩
    · exact absurd (same.trans vacant) present
    · cases vacant.symm.trans was

omit [Platform] in
/-- A host that is left as it is receives nothing. -/
theorem Receives.refl (host : Host) (content : Bytes) : host.Receives host [] content where
  directory := rfl
  logFile := rfl
  keeps := FileSystem.keeps_refl _
  links _ _ := Iff.rfl
  written _ member := absurd member List.not_mem_nil
  still _ holds := holds
  others _ _ _ := .same _
  made _ _ vacant present := absurd vacant present

omit [Platform] in
/-- Reports give no file anything. -/
theorem receives_reportAll (host : Host) (entries : List Entry) (content : Bytes) :
    host.Receives (host.reportAll entries) [] content := by
  induction entries generalizing host with
  | nil => exact .refl host content
  | cons entry rest ih => exact (host.receives_report entry content).append (ih _)

/-- A path that was written to leads to the content. -/
theorem holds_of_write (written : (Program.write path content).run host = (.ok (), after)) :
    ∃ goal, after.placeOf? .target path = some goal ∧ after.Holds goal content ∧
      after.directory = host.directory ∧ after.logFile = host.logFile ∧
      host.files.Keeps after.files ∧ (host.files.SameBut after.files fun other => other = goal) ∧
      ∀ target, host.files.node? goal ≠ some (.link target) := by
  rw [Program.run_write, change] at written
  split at written
  · cases written
  · rename_i files found
    obtain ⟨-, rfl⟩ := Prod.mk.inj written
    rcases query_eq_ok found with ⟨start, names, along, changed⟩ | ⟨_, gone⟩
    · obtain ⟨goal, node, left, passes, now, notLink, keeps, same, kind⟩ :=
        FileSystem.write_eq_ok changed
      refine ⟨goal, placeOf?_target_iff.2 ⟨start, names, left, node, along, passes, now⟩, ?_,
        rfl, rfl, keeps, same, notLink⟩
      rcases kind with rfl | ⟨_, rfl⟩
      · exact .inr now
      · exact .inl ⟨[], host.clock, by rw [List.append_nil]; exact now, .inl rfl⟩
    · cases gone

/-- No path with a null character is written to. -/
theorem noNull_of_write (written : (Program.write path content).run host = (.ok (), after)) :
    ∀ part ∈ path.parts, Char.ofNat 0 ∉ part.toList := by
  rw [← noNull_iff, Bool.eq_false_iff]
  intro null
  rw [Program.run_write, change, query_of_null null] at written
  cases written

omit [Platform] in
/-- What holds content is no link. -/
theorem Holds.notLink (holds : host.Holds place content) (target : String) :
    host.files.node? place ≠ some (.link target) := by
  rcases holds with ⟨_, _, present, _⟩ | present <;> simp [present]

/-- Content is written to a path once the directories above it are made. -/
theorem receives_write (proper : path.IsProper)
    (built : host.Builds middle path.parent fun _ => False)
    (logFile : middle.logFile = host.logFile)
    (written : (Program.write path content).run middle = (.ok (), after)) :
    host.Receives after [path] content := by
  obtain ⟨goal, stands, holds, directory, sameLog, keeps, same, notLink⟩ := holds_of_write written
  have alike (place : Location) (away : place ≠ goal) :
      Alike (host.files.node? place) (after.files.node? place) :=
    (built.alike place not_false).trans (same place away).1
  have away {place : Location}
      (apart : ∀ other ∈ [path], after.placeOf? .target other ≠ some place) : place ≠ goal := by
    rintro rfl
    exact apart path List.mem_cons_self stands
  refine ⟨directory.trans built.directory, sameLog.trans logFile, built.keeps.trans keeps, ?_, ?_,
    ?_, fun place apart _ => alike place (away apart), ?_⟩
  · intro place target
    by_cases here : place = goal
    · rw [here, built.links]
      exact iff_of_false (notLink target) (holds.notLink target)
    · exact (alike place here).link_iff
  · intro other member
    rw [List.mem_singleton.1 member]
    exact ⟨goal, stands, holds⟩
  · intro place before
    by_cases here : place = goal
    · exact here ▸ holds
    · exact before.of_alike (sameLog.trans logFile) (alike place here)
  · intro place apart vacant present
    have between : middle.files.node? place ≠ none :=
      fun still => present ((same place (away apart)).2.2 still)
    obtain ⟨leads, -⟩ := built.made proper.parent place not_false vacant between
    exact ⟨path, List.mem_cons_self, leads⟩

end Host

namespace Program

variable {α : Type} {host : Host} {path : Path} {fault : Fault}

omit [Platform] in
/-- Two lists are gone through in turn. -/
theorem forEach_append (action : α → Program Unit) (front back : List α) :
    forEach action (front ++ back) =
      (forEach action front).bind fun _ => forEach action back := by
  induction front with
  | nil => rfl
  | cons first rest ih => rw [List.cons_append, forEach, forEach, ih, bind_assoc]

/-- A list is gone through up to the first element that an action fails for. -/
theorem run_forEach_eq_error_iff {action : α → Program Unit} {list : List α} :
    ((forEach action list).run host).1 = .error fault ↔
      ∃ front element back middle, list = front ++ element :: back ∧
        (forEach action front).run host = (.ok (), middle) ∧
        ((action element).run middle).1 = .error fault := by
  constructor
  · intro failed
    induction list generalizing host with
    | nil => cases failed
    | cons first rest ih =>
        rw [forEach, run_bind] at failed
        split at failed
        · rename_i ran
          obtain ⟨front, element, back, middle, rfl, wrote, failedThere⟩ := ih failed
          refine ⟨first :: front, element, back, middle, rfl, ?_, failedThere⟩
          rw [forEach, run_bind, ran]
          exact wrote
        · rename_i ran
          exact ⟨[], first, rest, host, rfl, rfl, (congrArg Prod.fst ran).trans failed⟩
  · rintro ⟨front, element, back, middle, rfl, wrote, failed⟩
    rw [forEach_append, run_bind, wrote]
    dsimp only
    rw [forEach, run_bind]
    split
    · rename_i ran
      rw [ran] at failed
      cases failed
    · rename_i ran
      rw [ran] at failed
      exact failed

/-- Each file of a list receives the content when the writing of one file does no more than that. -/
theorem receives_forEach {action : Path → Program Unit} {paths : List Path} {content : Bytes}
    (each : ∀ path ∈ paths, ∀ host after : Host, (action path).run host = (.ok (), after) →
      host.Receives after [path] content)
    {host after : Host} (ran : (forEach action paths).run host = (.ok (), after)) :
    host.Receives after paths content := by
  induction paths generalizing host with
  | nil =>
      obtain ⟨-, rfl⟩ := Prod.mk.inj ran
      exact .refl host content
  | cons path rest ih =>
      rw [forEach, run_bind] at ran
      split at ran
      · rename_i first
        have later := ih (fun other member => each other (List.mem_cons_of_mem _ member)) ran
        exact (each path List.mem_cons_self _ _ first).append later
      · cases ran

end Program

end AnnotatedMake
