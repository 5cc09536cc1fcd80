import AnnotatedMake.Proofs.Host.Making
import AnnotatedMake.Proofs.Host.Report
import AnnotatedMake.Proofs.Host.Temporary
import AnnotatedMake.Proofs.Text.Utf8

namespace AnnotatedMake

namespace IndexCache

variable {host after : Host} {directory : Location} {name : String} {content : Bytes} {time : Int}

/-- The bytes of a cache file. -/
def contentOf (index : ScopeIndex) : Bytes := bytesOf (CacheRecord.encodeIndex index)

theorem contentOf_eq (index : ScopeIndex) :
    contentOf index = index.definitions.flatMap fun definition =>
      bytesOf (CacheRecord.encode definition) := by
  rw [contentOf, CacheRecord.encodeIndex]
  induction index.definitions with
  | nil => rfl
  | cons definition rest ih =>
      rw [List.map_cons, String.join_cons, bytesOf_append, ih, List.flatMap_cons]

variable [Platform]

/-- Records are written one behind the other, at the place of the temporary file alone. -/
theorem run_fill {path : Path} (definitions : List Definition)
    (ends : host.Ends path directory name)
    (present : host.files.node? (directory ++ [name]) = some (.file content time))
    {earliest : Int} (opened : earliest ≤ time) (now : earliest ≤ host.clock) :
    ∃ after later, (Program.forEach (fun definition =>
        Program.append path (bytesOf (CacheRecord.encode definition))) definitions).run host =
          (.ok (), after) ∧
      after.Ends path directory name ∧ earliest ≤ later ∧
      host.Replaces after (directory ++ [name]) (some (.file (content ++
        definitions.flatMap fun definition => bytesOf (CacheRecord.encode definition)) later)) := by
  induction definitions generalizing host content time with
  | nil =>
      refine ⟨host, time, rfl, ends, opened, rfl, .inl rfl, fun _ _ => ⟨.same _, Iff.rfl⟩, ?_⟩
      rw [present, List.flatMap_nil, List.append_nil]
  | cons definition rest ih =>
      obtain ⟨middle, appended, stillEnds, first⟩ :=
        ends.append present (bytesOf (CacheRecord.encode definition))
      have passed : host.clock ≤ middle.clock := by
        have silent : (Program.append path (bytesOf (CacheRecord.encode definition))).CallsOnly
            Program.IsSilent := ⟨trivial, Program.callsOnly_ofReply⟩
        have precedes := Host.precedes_run silent host
        rw [appended] at precedes
        exact precedes.clock
      obtain ⟨after, later, ran, finalEnds, recent, others⟩ :=
        ih stillEnds first.here now (Int.le_trans now passed)
      refine ⟨after, later, ?_, finalEnds, recent, ?_⟩
      · rw [Program.forEach, Program.run_bind, appended]
        exact ran
      · rw [List.flatMap_cons, ← List.append_assoc]
        exact first.trans others

/-- What is kept besides when a cache file is written where no link stands. -/
structure KeepsWay (host after : Host) (file : Path) (home : Location) (name : String) : Prop where
  spares : host.Spares after fun place => place = home ++ [name]
  keeps : host.files.Keeps after.files
  ends : after.Ends file home name
  unlogged : host.HasLogFile → after.logFile ≠ some (home ++ [name])

/-- What the writing of a cache file comes to. -/
inductive Published (host : Host) (file : Path) (content : Bytes) :
    Except Fault Unit × Host → Prop where
  | written {after : Host} {home : Location} {name : String} {time : Int}
      (stands : host.entryAt? file = some (home ++ [name]))
      (present : after.files.node? (home ++ [name]) = some (.file content time))
      (builds : host.Builds after file.parent fun place => place = home ++ [name])
      (recent : host.clock ≤ time)
      (keepsWay : (∀ target, host.files.node? (home ++ [name]) ≠ some (.link target)) →
        KeepsWay host after file home name) :
      Published host file content (.ok (), after)
  | failed {after : Host} {fault : Fault} (spares : host.Spares after fun _ => False)
      (allowed : fault.isSystem = true ∨
        fault = .tooManyLevels ∧ Program.levelLimit ≤ file.parent.parts.length)
      (builds : host.Builds after file.parent fun _ => False) :
      Published host file content (.error fault, after)

theorem run_discard {path : Path} (ends : host.Ends path directory name)
    (present : host.files.node? (directory ++ [name]) = some (.file content time)) :
    ∃ after, (discard path).run host = (.ok (), after) ∧
      host.Replaces after (directory ++ [name]) none := by
  obtain ⟨after, removed, replaces⟩ := ends.remove present
  refine ⟨after, ?_, replaces⟩
  rw [discard, Program.run_recover, removed]

/-- The records are written to a temporary file, which is moved onto the cache file or discarded. -/
def fill (index : ScopeIndex) (temporary file : Path) : Program Unit :=
  ((Program.forEach (fun definition =>
    Program.append temporary (bytesOf (CacheRecord.encode definition))) index.definitions).bind
      fun _ => Program.rename temporary file).recover fun fault =>
        (discard temporary).bind fun _ => .fail fault

theorem replace_eq_fill (index : ScopeIndex) (file : Path) :
    replace index file = (Program.makeDirectories file.parent).bind fun _ =>
      (Program.createTemporary file.parent cacheEnding).bind fun temporary =>
        fill index temporary file := rfl

section Fill

variable {middle opened : Host} {path file : Path} {temporary : String} {index : ScopeIndex}
  (spares : host.Spares middle fun _ => False)
  (builds : host.Builds middle file.parent fun _ => False)
  (vacant : middle.files.node? (directory ++ [temporary]) = none)
  (replaces : middle.Replaces opened (directory ++ [temporary]) (some (.file [] time)))
include spares builds vacant replaces

/-- When the temporary file cannot be moved, it is discarded. -/
theorem published_of_refused {filled : Host} {later : Int} {fault : Fault}
    (ran : (Program.forEach (fun definition =>
      Program.append path (bytesOf (CacheRecord.encode definition))) index.definitions).run opened =
        (.ok (), filled))
    (filledEnds : filled.Ends path directory temporary)
    (fills : opened.Replaces filled (directory ++ [temporary])
      (some (.file (contentOf index) later)))
    (refused : (Program.rename path file).run filled = (.error fault, filled))
    (system : fault.isSystem = true) :
    Published host file (contentOf index) ((fill index path file).run opened) := by
  obtain ⟨after, removed, gone⟩ := run_discard filledEnds fills.here
  have whole := (replaces.trans fills).trans gone
  rw [fill, Program.run_recover, Program.run_bind, ran]
  dsimp only
  rw [refused]
  dsimp only
  rw [Program.run_bind, removed]
  exact .failed (spares.trans (whole.spares_of_vacant vacant)) (.inl system)
    (builds.of_sameBut whole.directory whole.logFile (whole.sameBut_of_vacant vacant))

section Moved

variable {filled emptied : Host} {home : Location} {later : Int}
  (fills : opened.Replaces filled (directory ++ [temporary]) (some (.file content later)))
  (taken : filled.Replaces emptied (directory ++ [temporary]) none)
  (put : emptied.Replaces after (home ++ [name]) (some (.file content later)))
  (noLink : ∀ target, host.files.node? (home ++ [name]) ≠ some (.link target))
  (notDirectory : ∀ changed, filled.files.node? (home ++ [name]) ≠ some (.directory changed))
include fills

omit [Platform] spares builds in
theorem spares_filled : middle.Spares filled fun other => other = directory ++ [temporary] :=
  (replaces.trans fills).spares (by simp [vacant]) (by simp)

omit [Platform] spares in
/-- What stood anywhere still stands there until the temporary file is moved. -/
theorem alike_filled {place : Location} (present : host.files.node? place ≠ none) :
    Alike (host.files.node? place) (filled.files.node? place) := by
  have first := builds.alike place not_false
  refine first.trans ((replaces.trans fills).others place ?_).1
  rintro rfl
  exact first.present present vacant

omit [Platform] spares in
/-- The file of the log is no longer one once the temporary file is moved onto it. -/
theorem logFile_ne_of_moved (wasLog : host.logFile = some (home ++ [name]))
    (logged : ∀ node, filled.files.node? (home ++ [name]) = some node →
      (∀ target, node ≠ .link target) → after.logFile ≠ some (home ++ [name]))
    (noLink : ∀ target, host.files.node? (home ++ [name]) ≠ some (.link target))
    (hasLog : host.HasLogFile) : after.logFile ≠ some (home ++ [name]) := by
  have alike := alike_filled builds vacant replaces fills (hasLog _ wasLog)
  obtain ⟨node, stood⟩ := Option.ne_none_iff_exists'.1 (alike.present (hasLog _ wasLog))
  refine logged node stood ?_
  rintro target rfl
  exact noLink target (alike.link_iff.2 stood)

include taken put noLink

omit [Platform] builds in
theorem spares_moved : host.Spares after fun place => place = home ++ [name] := by
  have first : host.Spares emptied fun place => place = home ++ [name] :=
    spares.weaken.trans (((replaces.trans fills).trans taken).spares_of_vacant vacant)
  exact first.trans (put.spares (fun target isLink => noLink target ((first.links _ _).2 isLink))
    (by simp))

omit [Platform] spares noLink in
theorem builds_moved : host.Builds after file.parent fun place => place = home ++ [name] := by
  have emptying := (replaces.trans fills).trans taken
  exact (builds.of_sameBut emptying.directory emptying.logFile
    (emptying.sameBut_of_vacant vacant)).of_sameBut put.directory put.logFile put.others

include notDirectory

omit [Platform] spares in
/-- Nothing is lost when the temporary file is moved. -/
theorem keeps_moved : host.files.Keeps after.files := by
  intro place node present
  by_cases here : place = home ++ [name]
  · subst here
    cases node with
    | file old before => exact ⟨_, put.here, .file ..⟩
    | sink => exact ⟨_, put.here, .filled ..⟩
    | link target => exact absurd present (noLink target)
    | directory before =>
        have alike := alike_filled builds vacant replaces fills (present ▸ Option.some_ne_none _)
        obtain ⟨changed, inFilled⟩ := (present ▸ alike).directory
        exact absurd inFilled (notDirectory changed)
  · exact (present ▸ (builds_moved builds vacant replaces fills taken put).alike place here).kin

omit [Platform] builds in
/-- The way to the cache file stays as it was. -/
theorem ends_moved (goalEnds : filled.Ends path home name) : after.Ends path home name := by
  apply goalEnds.of_ways (put.directory.trans taken.directory)
  intro place node present isWay
  have notTemporary : place ≠ directory ++ [temporary] := by
    rintro rfl
    rw [fills.here] at present
    obtain rfl := Option.some.inj present
    exact isWay
  have notGoal : place ≠ home ++ [name] := by
    rintro rfl
    cases node with
    | file | sink => exact isWay
    | directory changed => exact notDirectory changed present
    | link target =>
        have first := (spares_filled vacant replaces fills).links (home ++ [name]) target
        exact noLink target ((spares.links _ _).2 (first.2 present))
  exact (present ▸ (taken.others place notTemporary).1.trans (put.others place notGoal).1).kin

end Moved

/-- The temporary file is moved onto the cache file or discarded. -/
theorem published_fill (ends : opened.Ends path directory temporary) {base : Path}
    (within : file = base.child name) (plain : base.IsPlain) (named : IsPlainName name)
    (opening : host.clock ≤ time) (now : host.clock ≤ opened.clock) :
    Published host file (contentOf index) ((fill index path file).run opened) := by
  obtain ⟨filled, later, ran, filledEnds, recent, fills⟩ :=
    run_fill index.definitions ends replaces.here opening now
  rw [List.nil_append, ← contentOf_eq] at fills
  have renamed := filledEnds.rename fills.here plain named
  rw [← within] at renamed
  rcases renamed with
    ⟨fault, refused, system⟩ | ⟨home, emptied, after, moved, leads, goalEnds, notDirectory, logged,
      taken, put⟩
  · exact published_of_refused spares builds vacant replaces ran filledEnds fills refused system
  · rw [(spares_filled vacant replaces fills).leads?, spares.leads?] at leads
    have stands : host.entryAt? file = some (home ++ [name]) := by
      rw [within, Host.entryAt?_child base named.toIsOneName, leads]
      rfl
    rw [fill, Program.run_recover, Program.run_bind, ran]
    dsimp only
    rw [moved]
    refine .written stands put.here (builds_moved builds vacant replaces fills taken put) recent
      fun noLink => ?_
    have spared := spares_moved spares vacant replaces fills taken put noLink
    refine ⟨spared, keeps_moved builds vacant replaces fills taken put noLink notDirectory,
      ends_moved spares vacant replaces fills taken put noLink notDirectory goalEnds,
      fun hasLog => ?_⟩
    by_cases wasLog : host.logFile = some (home ++ [name])
    · exact logFile_ne_of_moved builds vacant replaces fills wasLog logged noLink hasLog
    · exact spared.logFile_ne wasLog

end Fill

/-- What is written depends on how the temporary file is filled and moved. -/
theorem published_of_fill (index : ScopeIndex) {file : Path} (plain : file.parent.IsPlain)
    (current : host.HasPlainDirectory)
    (filled : ∀ (middle opened : Host) (path : Path) (directory : Location) (temporary : String)
      (time : Int), host.Spares middle (fun _ => False) →
      host.Builds middle file.parent (fun _ => False) →
      middle.files.node? (directory ++ [temporary]) = none →
      middle.Replaces opened (directory ++ [temporary]) (some (.file [] time)) →
      opened.Ends path directory temporary → host.clock ≤ time → host.clock ≤ opened.clock →
      Published host file (contentOf index) ((fill index path file).run opened)) :
    Published host file (contentOf index) ((replace index file).run host) := by
  have made : host.Confines ((Program.makeDirectoriesUp Program.levelLimit file.parent).run host)
      (fun _ => False) _ := Program.confines_makeDirectoriesUp Program.levelLimit plain host
  have builds := Program.builds_makeDirectoriesUp Program.levelLimit file.parent host
  have before := Host.precedes_run
    (Program.silent_makeDirectoriesUp Program.levelLimit file.parent) host
  rw [replace_eq_fill, Program.run_bind, Program.makeDirectories]
  generalize (Program.makeDirectoriesUp Program.levelLimit file.parent).run host = run
    at made builds before ⊢
  obtain ⟨outcome, middle⟩ := run
  cases outcome with
  | error fault => exact .failed made.spares (made.within fault rfl) builds
  | ok _ =>
      dsimp only
      rw [Program.run_bind]
      cases created : (Program.createTemporary file.parent cacheEnding).run middle with
      | mk outcome opened =>
          cases outcome with
          | error fault =>
              have current' : middle.HasPlainDirectory := by
                rw [Host.HasPlainDirectory, made.spares.directory]
                exact current
              obtain ⟨system, rfl⟩ := Host.isSystem_of_createTemporary plain current' created
              exact .failed made.spares (.inl system) builds
          | ok path =>
              obtain ⟨directory, temporary, ends, vacant, replaces⟩ :=
                Host.createTemporary_eq_ok created
              have after := middle.precedes_createTemporary file.parent cacheEnding
              rw [← Program.run_createTemporary, created] at after
              exact filled middle opened path directory temporary middle.clock made.spares builds
                vacant replaces ends before.clock (Int.le_trans before.clock after.clock)

/-- Writing a cache file reports nothing. -/
theorem silent_replace (index : ScopeIndex) (file : Path) :
    (replace index file).CallsOnly Program.IsSilent := by
  have append (temporary : Path) (definition : Definition) :
      (Program.append temporary (bytesOf (CacheRecord.encode definition))).CallsOnly
        Program.IsSilent := ⟨trivial, fun _ => Program.callsOnly_ofReply _⟩
  have discards (temporary : Path) : (discard temporary).CallsOnly Program.IsSilent := by
    refine Program.CallsOnly.recover ⟨trivial, fun _ => Program.callsOnly_ofReply _⟩ ?_
    intro fault
    split <;> trivial
  have fills (temporary : Path) : (fill index temporary file).CallsOnly Program.IsSilent := by
    refine Program.CallsOnly.recover (Program.CallsOnly.bind
      (Program.callsOnly_forEach (append temporary) _) fun _ => ?_) fun fault => ?_
    · exact ⟨trivial, fun _ => Program.callsOnly_ofReply _⟩
    · exact (discards temporary).bind fun _ => trivial
  rw [replace_eq_fill]
  refine (Program.silent_makeDirectoriesUp Program.levelLimit file.parent).bind fun _ => ?_
  refine Program.CallsOnly.bind ⟨trivial, fun _ => Program.callsOnly_ofReply _⟩ fills

/-- A cache file gets all records of an index in one step, or keeps what it held. -/
theorem published_replace (index : ScopeIndex) {base : Path} (plain : base.IsPlain)
    (current : host.HasPlainDirectory) (named : IsPlainName name) :
    Published host (base.child name) (contentOf index)
      ((replace index (base.child name)).run host) := by
  have above : (base.child name).parent.IsPlain := by
    rwa [Path.parent_child base named.toIsOneName]
  apply published_of_fill index above current
  intro middle opened path directory temporary time spares builds vacant replaces ends opening now
  exact published_fill spares builds vacant replaces ends rfl plain named opening now

/-- Nothing is written to a path that ends at its start or goes up. -/
theorem published_nameless (index : ScopeIndex) {file : Path} (plain : file.IsPlain)
    (current : host.HasPlainDirectory) (nameless : FileSystem.lastName? file.parts = none) :
    Published host file (contentOf index) ((replace index file).run host) := by
  apply published_of_fill index plain.parent current
  intro middle opened path directory temporary time spares builds vacant replaces ends _ _
  obtain ⟨filled, later, ran, filledEnds, _, fills⟩ :=
    run_fill index.definitions ends replaces.here (Int.min_le_left ..) (Int.min_le_right ..)
  rw [List.nil_append, ← contentOf_eq] at fills
  obtain ⟨fault, refused, system⟩ := filledEnds.rename_nameless plain.noNull nameless
  exact published_of_refused spares builds vacant replaces ran filledEnds fills refused system

/-- Whatever path is given for a cache file, its records are written or nothing is. -/
theorem published_proper (index : ScopeIndex) {file : Path} (proper : file.IsProper)
    (current : host.HasPlainDirectory) :
    Published host file (contentOf index) ((replace index file).run host) := by
  cases last : FileSystem.lastName? file.parts with
  | none => exact published_nameless index proper.toIsPlain current last
  | some name =>
      obtain ⟨isLast, notUp⟩ := Option.filter_eq_some_iff.1 last
      have named := proper.isPlainName (List.mem_of_getLast? isLast) (of_decide_eq_true notUp)
      have whole : file.parent.child name = file := by
        obtain ⟨front, ends⟩ := List.getLast?_eq_some_iff.1 isLast
        rw [Path.child_of_oneName _ named.toIsOneName, Path.parent, ends, List.dropLast_concat,
          ← ends]
      rw [← whole]
      exact published_replace index proper.parent.toIsPlain current named

/-- So it is after entries were reported. -/
theorem published_reportAll (index : ScopeIndex) {file : Path} (proper : file.IsProper)
    (current : host.HasPlainDirectory) (earlier : List Entry) :
    Published (host.reportAll earlier) file (contentOf index)
      ((replace index file).run (host.reportAll earlier)) := by
  apply published_proper _ proper
  rw [Host.HasPlainDirectory, (host.spares_reportAll earlier fun _ => False).directory]
  exact current

/-- A cache file that is replaced was filled and moved from a temporary file at a vacant place. -/
theorem fill_of_replace {index : ScopeIndex} {file : Path} (plain : file.parent.IsPlain)
    (ran : (replace index file).run host = (.ok (), after)) :
    ∃ (middle opened : Host) (path : Path) (directory : Location) (temporary : String),
      host.Spares middle (fun _ => False) ∧ host.Builds middle file.parent (fun _ => False) ∧
      middle.files.node? (directory ++ [temporary]) = none ∧
      middle.Replaces opened (directory ++ [temporary]) (some (.file [] middle.clock)) ∧
      opened.Ends path directory temporary ∧ host.clock ≤ middle.clock ∧
      host.clock ≤ opened.clock ∧ (fill index path file).run opened = (.ok (), after) := by
  have made : host.Confines ((Program.makeDirectoriesUp Program.levelLimit file.parent).run host)
      (fun _ => False) _ := Program.confines_makeDirectoriesUp Program.levelLimit plain host
  have builds := Program.builds_makeDirectoriesUp Program.levelLimit file.parent host
  have before := Host.precedes_run
    (Program.silent_makeDirectoriesUp Program.levelLimit file.parent) host
  rw [replace_eq_fill, Program.run_bind, Program.makeDirectories] at ran
  generalize (Program.makeDirectoriesUp Program.levelLimit file.parent).run host = run
    at made builds before ran
  obtain ⟨outcome, middle⟩ := run
  cases outcome with
  | error fault => cases ran
  | ok _ =>
      dsimp only at ran
      rw [Program.run_bind] at ran
      cases created : (Program.createTemporary file.parent cacheEnding).run middle with
      | mk outcome opened =>
          rw [created] at ran
          cases outcome with
          | error fault => cases ran
          | ok path =>
              obtain ⟨directory, temporary, ends, vacant, replaces⟩ :=
                Host.createTemporary_eq_ok created
              have passed := middle.precedes_createTemporary file.parent cacheEnding
              rw [← Program.run_createTemporary, created] at passed
              exact ⟨middle, opened, path, directory, temporary, made.spares, builds, vacant,
                replaces, ends, before.clock, Int.le_trans before.clock passed.clock, ran⟩

/-- A cache file that is replaced has all records, and replaces a link too. -/
theorem replace_eq_ok {index : ScopeIndex} {base : Path} (plain : base.IsPlain)
    (named : IsPlainName name)
    (ran : (replace index (base.child name)).run host = (.ok (), after)) :
    ∃ home time, host.entryAt? (base.child name) = some (home ++ [name]) ∧
      after.files.node? (home ++ [name]) = some (.file (contentOf index) time) ∧
      ((∀ target, host.files.node? (home ++ [name]) ≠ some (.link target)) →
        after.Ends (base.child name) home name) := by
  have above : (base.child name).parent.IsPlain := by
    rwa [Path.parent_child base named.toIsOneName]
  obtain ⟨middle, opened, path, directory, temporary, spares, builds, vacant, replaces, ends,
    opening, now, filling⟩ := fill_of_replace above ran
  have published : Published host (base.child name) (contentOf index) _ :=
    published_fill spares builds vacant replaces ends rfl plain named opening now
  rw [filling] at published
  cases published with
  | @written _ home other time stands present _ _ keepsWay =>
      have entry := stands
      rw [Host.entryAt?_child base named.toIsOneName, Option.map_eq_some_iff] at stands
      obtain ⟨_, _, same⟩ := stands
      obtain ⟨rfl, last⟩ := List.append_inj' same rfl
      obtain rfl := List.singleton_inj.1 last
      exact ⟨_, time, entry, present, fun noLink => (keepsWay noLink).ends⟩

section Room

variable {home start : Location} {names : List String} {base : Path}

/-- A cache file is written in a directory that can be entered and has room for it. -/
theorem replace_of_room (index : ScopeIndex) (proper : base.IsProper)
    (rooted : base.anchor ≠ .relative) (noDots : ".." ∉ base.parts)
    (ends : host.Ends (base.child name) home name) (named : IsPlainName name)
    (fits : Utf8.size (base.child (FileSystem.temporaryName cacheEnding 0)).text.toList <
      Host.pathLimit)
    (vacant : host.files.node? (home ++ [FileSystem.temporaryName cacheEnding 0]) = none)
    (notDirectory : ∀ time, host.files.node? (home ++ [name]) ≠ some (.directory time)) :
    ∃ after time, (replace index (base.child name)).run host = (.ok (), after) ∧
      host.Replaces after (home ++ [name]) (some (.file (contentOf index) time)) := by
  obtain ⟨start, names, along, entered⟩ := ends.along
  have alongBase : host.route base = .ok (.along start names) := by
    rw [Path.child_of_oneName base named.toIsOneName] at along
    obtain ⟨front, same, alongBase⟩ := Host.route_of_concat ends.entry along
    rwa [List.append_cancel_right same]
  have enteredRoot : host.files.enter [] base.parts = .ok home := by
    have way := Host.wayOf?_of_route alongBase
    rw [Host.wayOf?] at way
    split at way
    · exact absurd ‹_› rooted
    · obtain ⟨rfl, rfl⟩ := Prod.mk.inj (Option.some.inj way)
      exact entered
  obtain ⟨path, opened, created⟩ :=
    Host.createTemporary_ok proper rooted noDots enteredRoot fits vacant
  obtain ⟨directory, temporary, temporaryEnds, wasVacant, replaces⟩ :=
    Host.createTemporary_eq_ok created
  obtain ⟨filled, later, ran, filledEnds, _, fills⟩ :=
    run_fill index.definitions temporaryEnds replaces.here (Int.min_le_left ..)
      (Int.min_le_right ..)
  rw [List.nil_append, ← contentOf_eq] at fills
  have added := replaces.trans fills
  have goalEnds : filled.Ends (base.child name) home name :=
    ends.of_ways added.directory (added.keeps_of_vacant wasVacant).ways
  have stillNoDirectory (time : Int) :
      filled.files.node? (home ++ [name]) ≠ some (.directory time) := by
    intro isDirectory
    by_cases same : home ++ [name] = directory ++ [temporary]
    · rw [same, added.here] at isDirectory
      cases isDirectory
    · obtain ⟨before, wasDirectory⟩ := added.others.directory_of_later same isDirectory
      exact notDirectory before wasDirectory
  obtain ⟨after, moved⟩ := filledEnds.rename_ok fills.here goalEnds stillNoDirectory
  have renamed := filledEnds.rename fills.here proper.toIsPlain named
  rw [moved] at renamed
  rcases renamed with ⟨_, failed, _⟩ | ⟨other, emptied, _, same, leads, _, _, _, taken, put⟩
  · cases failed
  · obtain ⟨_, rfl⟩ := Prod.mk.inj same
    obtain rfl := Option.some.inj (leads.symm.trans (goalEnds.leads? named.toIsOneName))
    refine ⟨_, later, ?_, put.directory.trans (taken.directory.trans added.directory), ?_, ?_,
      put.here⟩
    · rw [replace_eq_fill, Path.parent_child base named.toIsOneName, Program.run_bind,
        Program.run_makeDirectories_of_enter proper alongBase entered]
      dsimp only
      rw [Program.run_bind, created]
      dsimp only
      rw [fill, Program.run_recover, Program.run_bind, ran]
      dsimp only
      rw [moved]
    · exact put.logFile.elim (fun kept => kept ▸ (added.trans taken).logFile) .inr
    · exact FileSystem.SameBut.trans (((added.trans taken).sameBut_of_vacant wasVacant).mono
        fun _ => False.elim) put.others

/-- A cache file is written in the root directory. -/
theorem replace_of_root {time : Int} (index : ScopeIndex)
    (root : host.files.node? [] = some (.directory time)) (named : IsPlainName name)
    (short : FileSystem.isLongName name = false)
    (vacant : host.files.node? [FileSystem.temporaryName cacheEnding 0] = none)
    (notDirectory : ∀ time, host.files.node? [name] ≠ some (.directory time)) :
    ∃ after time, (replace index ⟨.root, [name]⟩).run host = (.ok (), after) ∧
      host.Replaces after [name] (some (.file (contentOf index) time)) := by
  have ends := Host.ends_of_root root named short
  have below : (⟨.root, [name]⟩ : Path) = Path.child ⟨.root, []⟩ name :=
    (Path.child_of_oneName ⟨.root, []⟩ named.toIsOneName).symm
  rw [below] at ends ⊢
  exact replace_of_room index (Path.isProper_root _) (by decide) (by simp) ends named
    (by decide +kernel) vacant notDirectory

end Room

end IndexCache

end AnnotatedMake
