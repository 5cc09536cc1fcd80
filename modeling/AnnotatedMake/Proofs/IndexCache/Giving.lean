import AnnotatedMake.Proofs.CacheRecord.Lossless
import AnnotatedMake.Proofs.IndexCache.Again

namespace AnnotatedMake

variable [Platform]

namespace Host

variable {host after : Host} {path : Path}

/-- A temporary file fails for the system or for the name of the current directory. -/
theorem fault_of_createTemporary {base : Path} (plain : base.IsPlain) {fault : Fault}
    (failed : (Program.createTemporary base cacheEnding).run host = (.error fault, after)) :
    fault.isSystem = true ∨ fault = .nullByte ∧ ¬ host.HasPlainDirectory := by
  by_cases current : host.HasPlainDirectory
  · exact .inl (isSystem_of_createTemporary plain current failed).1
  · rw [Program.run_createTemporary, createTemporary] at failed
    split at failed
    · rename_i unknown
      obtain rfl := Except.error.inj (Prod.mk.inj failed).1
      exact .inl (isSystem_of_absolute unknown)
    · dsimp only at failed
      split at failed
      · rename_i refused
        obtain rfl := Except.error.inj (Prod.mk.inj failed).1
        exact (fault_of_query refused).imp_right fun null => ⟨null, current⟩
      · cases failed

theorem ne_reported_of_resolve {fault : Fault} (failed : host.resolve path = .error fault) :
    fault ≠ .reported := by
  rintro rfl
  rw [resolve] at failed
  split at failed
  · cases failed
  · cases target : Resolution.target host.linkAt path with
    | error other =>
        rw [target] at failed
        obtain rfl := Except.error.inj failed
        rw [Resolution.target] at target
        split at target <;> cases target
    | ok goal =>
        rw [target] at failed
        cases found : host.absolute goal with
        | error other =>
            simp only [bind, Except.bind, found] at failed
            obtain rfl := Except.error.inj failed
            cases isSystem_of_absolute found
        | ok plain =>
            simp only [bind, Except.bind, found] at failed
            split at failed
            · cases failed
            · cases fault_of_encoded failed

end Host

namespace IndexCache

variable {host after : Host} {cache : IndexCache} {source file base : Path} {name marker : String}
  {lines : List String} {index : ScopeIndex} {fault : Fault}

/-- What keeps a cache file from being written. -/
def IsObstacle (host : Host) (directory : Path) (fault : Fault) : Prop :=
  fault.isSystem = true ∨
    (fault = .tooManyLevels ∧ Program.levelLimit ≤ directory.parts.length) ∨
    (fault = .nullByte ∧ ¬ host.HasPlainDirectory)

/-- A temporary file is filled; moving it may fail, and then it is discarded. -/
theorem isSystem_of_fill {path : Path} {directory : Location} {temporary : String} {time : Int}
    (ends : host.Ends path directory temporary)
    (present : host.files.node? (directory ++ [temporary]) = some (.file [] time))
    (plain : base.IsPlain) (named : IsPlainName name)
    (failed : (fill index path (base.child name)).run host = (.error fault, after)) :
    fault.isSystem = true := by
  obtain ⟨filled, later, ran, filledEnds, _, fills⟩ :=
    run_fill index.definitions ends present (Int.min_le_left ..) (Int.min_le_right ..)
  rw [fill, Program.run_recover, Program.run_bind, ran] at failed
  dsimp only at failed
  rcases filledEnds.rename fills.here plain named with
    ⟨other, refused, system⟩ | ⟨_, _, _, moved, _⟩
  · obtain ⟨_, removed, _⟩ := run_discard filledEnds fills.here
    rw [refused] at failed
    dsimp only at failed
    rw [Program.run_bind, removed] at failed
    obtain rfl := Except.error.inj (Prod.mk.inj failed).1
    exact system
  · rw [moved] at failed
    cases failed

/-- Whatever stands at the path of a cache file, only an obstacle keeps it from being written. -/
theorem isObstacle_of_replace (plain : base.IsPlain) (named : IsPlainName name)
    (failed : (replace index (base.child name)).run host = (.error fault, after)) :
    IsObstacle host base fault := by
  have made : host.Confines ((Program.makeDirectoriesUp Program.levelLimit base).run host)
      (fun _ => False) _ := Program.confines_makeDirectoriesUp Program.levelLimit plain host
  rw [replace_eq_fill, Path.parent_child base named.toIsOneName, Program.run_bind,
    Program.makeDirectories] at failed
  generalize (Program.makeDirectoriesUp Program.levelLimit base).run host = run at made failed
  obtain ⟨outcome, middle⟩ := run
  cases outcome with
  | error other =>
      obtain rfl := Except.error.inj (Prod.mk.inj failed).1
      exact (made.within other rfl).imp_right .inl
  | ok _ =>
      dsimp only at failed
      rw [Program.run_bind] at failed
      cases created : (Program.createTemporary base cacheEnding).run middle with
      | mk outcome opened =>
          rw [created] at failed
          cases outcome with
          | error other =>
              obtain rfl := Except.error.inj (Prod.mk.inj failed).1
              rcases Host.fault_of_createTemporary plain created with system | ⟨null, current⟩
              · exact .inl system
              · rw [Host.HasPlainDirectory, made.spares.directory] at current
                exact .inr (.inr ⟨null, current⟩)
          | ok path =>
              obtain ⟨_, _, ends, _, replaces⟩ := Host.createTemporary_eq_ok created
              exact .inl (isSystem_of_fill ends replaces.here plain named failed)

/-- The index of a fresh cache file, or else of the lines. -/
def keptOr (host : Host) (marker : String) (source file : Path) (lines : List String) :
    Except Fault ScopeIndex :=
  if file.parts.any (holds (Char.ofNat 0)) then .error .nullByte
  else match freshText? host source file with
    | some text => .ok ((CacheRecord.decodeIndex text).withTargets (RuleName.ofLines lines))
    | none => .ok (.ofSource marker lines)

/-- The index that a cache gives for the Makefile at a path. -/
def given (cache : IndexCache) (host : Host) (source : Path) : Except Fault ScopeIndex :=
  match host.query source (.error Fault.isDirectory) host.files.read with
  | .error fault => if fault.isSystem then .ok {} else .error fault
  | .ok content =>
    if cache.enabled then
      match host.resolve source with
      | .error fault => .error fault
      | .ok resolved => keptOr host cache.marker source
          (cache.directory.child (nameOf cache.marker resolved)) (sourceLines content)
    else .ok (.ofSource cache.marker (sourceLines content))

/-- No cache file is looked for under a path with a null character. -/
theorem run_ensureFresh_null {content : Bytes} (enabled : cache.enabled = true)
    (null : file.parts.any (holds (Char.ofNat 0)) = true)
    (read : host.query source (.error Fault.isDirectory) host.files.read = .ok content) :
    (cache.ensureFresh source (some file)).run host = (.error .nullByte, host) := by
  have unknown : (changed? file).run host = (.error .nullByte, host) := by
    rw [run_changed?, Host.query_of_null null]
    rfl
  rw [run_ensureFresh read, indexOf]
  simp only [enabled, if_true, loadFresh, isFresh, Program.bind_eq_bind, Program.pure_eq_done]
  rw [Program.run_bind, Program.run_done]
  dsimp only
  rw [Program.run_bind, Program.run_bind, Program.run_bind, unknown]

/-- A Makefile that the system gives no content of has an empty index, and any other fault stays. -/
theorem run_ensureFresh_failed
    (unread : host.query source (.error Fault.isDirectory) host.files.read = .error fault) :
    ((cache.ensureFresh source none).run host).1 =
      if fault.isSystem then .ok {} else .error fault := by
  cases system : fault.isSystem with
  | true =>
      rw [run_ensureFresh_unread unread system]
      rfl
  | false =>
      simp only [ensureFresh, sourceLines?, readLines, Program.bind_eq_bind,
        Program.pure_eq_done]
      rw [Program.run_bind, Program.run_recover, Program.run_bind, Program.run_bind,
        Program.run_contentOf, unread]
      simp [system]

section Directory

variable (noSlash : ∀ part ∈ cache.directory.parts, '/' ∉ part.toList)
include noSlash

/-- A cache that is used gives the fresh index or the one of the lines. -/
theorem run_ensureFresh_kept (enabled : cache.enabled = true) (named : IsPlainName name)
    {content : Bytes}
    (read : host.query source (.error Fault.isDirectory) host.files.read = .ok content) :
    ((cache.ensureFresh source (some (cache.directory.child name))).run host).1 =
      keptOr host cache.marker source (cache.directory.child name) (sourceLines content) ∨
    ∃ fault, ((cache.ensureFresh source (some (cache.directory.child name))).run host).1 =
      .error fault ∧ IsObstacle host cache.directory fault ∧ fault.isSystem = false := by
  rw [keptOr]
  cases null : (cache.directory.child name).parts.any (holds (Char.ofNat 0)) with
  | true => exact .inl (congrArg Prod.fst (run_ensureFresh_null enabled null read))
  | false =>
      have noNull := Host.noNull_iff.1 null
      have plain : cache.directory.IsPlain := by
        refine ⟨noSlash, fun part member => noNull part ?_⟩
        rw [Path.child_of_oneName _ named.toIsOneName]
        exact List.mem_append_left _ member
      have served := served_ensureFresh cache enabled noNull read
      generalize (cache.ensureFresh source _).run host = run at served ⊢
      cases served with
      | loaded fresh =>
          rw [fresh]
          exact .inl rfl
      | written missed | refused missed =>
          rw [missed]
          exact .inl rfl
      | @failed earlier after fault missed _ ran notSystem =>
          have obstacle := isObstacle_of_replace plain named ran
          rw [IsObstacle, Host.HasPlainDirectory,
            (host.spares_reportAll earlier fun _ => False).directory] at obstacle
          exact .inr ⟨fault, rfl, obstacle, notSystem⟩

/-- What a cache gives does not hang on whether its file can be written. -/
theorem run_ensureFresh_given (source : Path) (host : Host) :
    ((cache.ensureFresh source none).run host).1 = cache.given host source ∨
    cache.enabled = true ∧ ∃ fault, ((cache.ensureFresh source none).run host).1 = .error fault ∧
      IsObstacle host cache.directory fault ∧ fault.isSystem = false := by
  cases read : host.query source (.error Fault.isDirectory) host.files.read with
  | error fault =>
      rw [given, read]
      exact .inl (run_ensureFresh_failed read)
  | ok content =>
      cases enabled : cache.enabled with
      | false =>
          obtain ⟨_, ran⟩ := run_ensureFresh_disabled enabled read
          rw [ran, given, read, enabled]
          exact .inl rfl
      | true =>
          cases found : host.resolve source with
          | error fault =>
              rw [run_ensureFresh_unresolved enabled read found, given, read, enabled, found]
              exact .inl rfl
          | ok resolved =>
              rw [run_ensureFresh_none read found, given, read, enabled, found]
              dsimp only
              rw [if_pos rfl]
              exact (run_ensureFresh_kept noSlash enabled (isPlainName_nameOf _ _) read).imp_right
                (And.intro rfl)

end Directory

/-- Nothing but the system keeps a cache from writing its files. -/
structure IsFree (cache : IndexCache) (host : Host) : Prop where
  noSlash : ∀ part ∈ cache.directory.parts, '/' ∉ part.toList
  shallow : cache.enabled = true → cache.directory.parts.length < Program.levelLimit
  current : cache.enabled = true → host.HasPlainDirectory

theorem isFree_of_disabled (disabled : cache.enabled = false)
    (noSlash : ∀ part ∈ cache.directory.parts, '/' ∉ part.toList) (host : Host) :
    cache.IsFree host := by
  have unused : ¬ cache.enabled = true := Bool.eq_false_iff.1 disabled
  exact ⟨noSlash, fun enabled => absurd enabled unused, fun enabled => absurd enabled unused⟩

/-- Unless more than the system keeps it from writing, a cache gives an index all the same. -/
theorem IsFree.outcome_ensureFresh (free : cache.IsFree host) (source : Path) :
    ((cache.ensureFresh source none).run host).1 = cache.given host source := by
  rcases run_ensureFresh_given free.noSlash source host with
    isGiven | ⟨enabled, fault, _, obstacle, notSystem⟩
  · exact isGiven
  · rcases obstacle with system | ⟨_, deep⟩ | ⟨_, unnamed⟩
    · exact absurd system (Bool.eq_false_iff.1 notSystem)
    · exact absurd (free.shallow enabled) (Nat.not_lt.2 deep)
    · exact absurd (free.current enabled) unnamed

theorem IsObstacle.ne_reported {directory : Path} (obstacle : IsObstacle host directory fault) :
    fault ≠ .reported := by
  rintro rfl
  rcases obstacle with system | ⟨deep, _⟩ | ⟨null, _⟩
  · cases system
  · cases deep
  · cases null

theorem ne_reported_of_given (failed : cache.given host source = .error fault) :
    fault ≠ .reported := by
  rw [given] at failed
  split at failed
  · rename_i unread
    split at failed
    · cases failed
    · obtain rfl := Except.error.inj failed
      exact Host.ne_reported_of_query unread
  · split at failed
    · split at failed
      · rename_i lost
        obtain rfl := Except.error.inj failed
        exact Host.ne_reported_of_resolve lost
      · rw [keptOr] at failed
        split at failed
        · obtain rfl := Except.error.inj failed
          exact nofun
        · split at failed <;> cases failed
    · cases failed

section Missed

/-- The index that a Makefile gives on its own. -/
def parsed (marker : String) (host : Host) (source : Path) : Except Fault ScopeIndex :=
  match host.query source (.error Fault.isDirectory) host.files.read with
  | .error fault => if fault.isSystem then .ok {} else .error fault
  | .ok content => .ok (.ofSource marker (sourceLines content))

/-- No cache file of the Makefile is fresh and readable. -/
def HasNoFresh (cache : IndexCache) (host : Host) (source : Path) : Prop :=
  ∀ resolved, host.resolve source = .ok resolved →
    freshText? host source (cache.directory.child (nameOf cache.marker resolved)) = none

omit [Platform] in
theorem freshText?_of_absent {file : Path} (absent : host.nodeOf? file = none) :
    freshText? host source file = none := by
  rw [freshText?, absent]
  cases host.nodeOf? source <;> rfl

theorem given_of_disabled (disabled : cache.enabled = false) (host : Host) (source : Path) :
    cache.given host source = parsed cache.marker host source := by
  rw [given, parsed, disabled]
  rfl

/-- Without a fresh cache file a cache gives what the Makefile gives, or a fault. -/
theorem given_of_missed (missed : cache.HasNoFresh host source) :
    cache.given host source = parsed cache.marker host source ∨
      ∃ fault, cache.given host source = .error fault := by
  rw [given, parsed]
  cases host.query source (.error Fault.isDirectory) host.files.read with
  | error fault => exact .inl rfl
  | ok content =>
      cases cache.enabled with
      | false => exact .inl rfl
      | true =>
          cases found : host.resolve source with
          | error fault => exact .inr ⟨fault, rfl⟩
          | ok resolved =>
              simp only [if_true, keptOr, missed resolved found]
              split
              · exact .inr ⟨_, rfl⟩
              · exact .inl rfl

/-- A Makefile that can be resolved is given by a cache in any directory that can be asked about. -/
theorem given_eq_parsed (missed : cache.HasNoFresh host source)
    (noNull : ∀ part ∈ cache.directory.parts, Char.ofNat 0 ∉ part.toList)
    (resolves : ∀ content,
      host.query source (.error Fault.isDirectory) host.files.read = .ok content →
      ∃ resolved, host.resolve source = .ok resolved) :
    cache.given host source = parsed cache.marker host source := by
  rw [given, parsed]
  cases read : host.query source (.error Fault.isDirectory) host.files.read with
  | error fault => rfl
  | ok content =>
      obtain ⟨resolved, found⟩ := resolves content read
      have plain := Host.noNull_iff.2 (Path.noNull_child noNull
        (isPlainName_nameOf cache.marker resolved))
      simp only [found, keptOr, plain, missed resolved found]
      split <;> rfl

/-- A cache gives nothing without a resolved Makefile or a directory to ask about. -/
theorem given_of_unusable (enabled : cache.enabled = true) {content : Bytes}
    (read : host.query source (.error Fault.isDirectory) host.files.read = .ok content)
    (unusable : (∃ part ∈ cache.directory.parts, Char.ofNat 0 ∈ part.toList) ∨
      ∃ fault, host.resolve source = .error fault) :
    ∃ fault, cache.given host source = .error fault := by
  rw [given, read, enabled]
  cases found : host.resolve source with
  | error fault => exact ⟨fault, rfl⟩
  | ok resolved =>
      rcases unusable with ⟨part, member, null⟩ | ⟨fault, lost⟩
      · have inFile : part ∈ (cache.directory.child (nameOf cache.marker resolved)).parts := by
          rw [Path.child_of_oneName _ (isPlainName_nameOf _ _).toIsOneName]
          exact List.mem_append_left _ member
        have held : (cache.directory.child (nameOf cache.marker resolved)).parts.any
            (holds (Char.ofNat 0)) = true :=
          List.any_eq_true.2 ⟨part, inFile, List.elem_eq_true_of_mem null⟩
        exact ⟨.nullByte, by simp only [if_true, keptOr, held]⟩
      · cases found.symm.trans lost

end Missed

end IndexCache

end AnnotatedMake
