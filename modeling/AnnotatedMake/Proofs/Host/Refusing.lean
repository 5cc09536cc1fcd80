import AnnotatedMake.Host.Refusal
import AnnotatedMake.Proofs.Host.Looking
import AnnotatedMake.Proofs.Host.Writing

namespace AnnotatedMake

/-- What a path leads to, as far as the system tells. -/
def Host.told [Platform] (host : Host) (refuses : Call → Option Nat) (path : Path) :
    Except Fault Node :=
  (Call.inspect path).granted refuses (host.query path (.ok (.directory 0)) host.files.nodeAt)

/-- The content of a file, as far as the system lets it be read. -/
def Host.contentAt [Platform] (host : Host) (refuses : Call → Option Nat) (path : Path) :
    Except Fault Bytes :=
  (Call.read path).granted refuses (host.query path (.error Fault.isDirectory) host.files.read)

/-- A call in which the system has no say. -/
def Call.IsCertain (request : Call) : Prop := ∀ number, request.refusal? number = none

theorem Call.not_refused_of_null {refuses : Call → Option Nat} {request : Call} {path : Path}
    (paths : request.paths = [path])
    (null : path.parts.any (holds (Char.ofNat 0)) = true) :
    request.refusedWith refuses = none := by
  simp only [refusedWith, paths, List.any_cons, null, Bool.true_or, if_true]

namespace Program

variable {α β : Type} {program : Program α} {refuses : Call → Option Nat}

theorem under_call {request : Call} {next : request.Reply → Program α}
    (allowed : (request.refusedWith refuses).bind (fun number => request.refusal? number) = none) :
    (call request next).under refuses = call request fun reply => (next reply).under refuses := by
  rw [under, allowed]

theorem under_call_of_refused {request : Call} {next : request.Reply → Program α}
    {reply : request.Reply}
    (refused : (request.refusedWith refuses).bind (fun number => request.refusal? number) =
      some reply) :
    (call request next).under refuses = (next reply).under refuses := by
  rw [under, refused]

theorem under_bind (program : Program α) (next : α → Program β) :
    (program.bind next).under refuses =
      (program.under refuses).bind fun result => (next result).under refuses := by
  induction program with
  | done result => rfl
  | fail fault => rfl
  | call request continue' ih =>
      cases told : (request.refusedWith refuses).bind fun number => request.refusal? number with
      | some reply =>
          rw [bind, under_call_of_refused told, under_call_of_refused told]
          exact ih reply
      | none =>
          rw [bind, under_call told, under_call told, bind]
          exact congrArg _ (funext ih)

theorem under_recover (program : Program α) (handle : Fault → Program α) :
    (program.recover handle).under refuses =
      (program.under refuses).recover fun fault => (handle fault).under refuses := by
  induction program with
  | done result => rfl
  | fail fault => rfl
  | call request continue' ih =>
      cases told : (request.refusedWith refuses).bind fun number => request.refusal? number with
      | some reply =>
          rw [recover, under_call_of_refused told, under_call_of_refused told]
          exact ih reply
      | none =>
          rw [recover, under_call told, under_call told, recover]
          exact congrArg _ (funext ih)

theorem under_forEach (action : α → Program Unit) (list : List α) :
    (forEach action list).under refuses =
      forEach (fun element => (action element).under refuses) list := by
  induction list with
  | nil => rfl
  | cons element rest ih => rw [forEach, under_bind, ih, forEach]

/-- A program that is nowhere refused is the same. -/
theorem under_of_certain (certain : program.CallsOnly Call.IsCertain) :
    program.under refuses = program := by
  induction program with
  | done result => rfl
  | fail fault => rfl
  | call request next ih =>
      have allowed :
          (request.refusedWith refuses).bind (fun number => request.refusal? number) = none := by
        cases request.refusedWith refuses with
        | none => rfl
        | some number => exact certain.1 number
      rw [under_call allowed]
      exact congrArg _ (funext fun reply => ih reply (certain.2 reply))

/-- Where nothing is refused a program is the same. -/
theorem under_none (program : Program α) : program.under (fun _ => none) = program := by
  induction program with
  | done result => rfl
  | fail fault => rfl
  | call request next ih =>
      have allowed : (request.refusedWith fun _ => none).bind
          (fun number => request.refusal? number) = none := by
        rw [Call.refusedWith]
        split <;> rfl
      rw [under_call allowed]
      exact congrArg _ (funext ih)

theorem under_ofReply (reply : Except Fault α) : (ofReply reply).under refuses = ofReply reply := by
  cases reply <;> rfl

theorem certain_report (level : Level) (text : String) :
    (report level text).CallsOnly Call.IsCertain :=
  ⟨fun _ => rfl, fun _ => trivial⟩

theorem certain_pathOf [Platform] (text : String) : (pathOf text).CallsOnly Call.IsCertain :=
  CallsOnly.bind ⟨fun _ => rfl, fun _ => trivial⟩ fun _ => callsOnly_ofReply _

variable [Platform] {path : Path} {host after : Host} {fault : Fault}

/-- A file is read if the system lets it. -/
theorem run_under_contentOf (path : Path) (host : Host) :
    ((contentOf path).under refuses).run host = (host.contentAt refuses path, host) := by
  rw [Host.contentAt, Call.granted]
  cases told : (Call.read path).refusedWith refuses with
  | some number =>
      rw [contentOf, under_call_of_refused (by rw [told]; rfl)]
      rfl
  | none =>
      rw [contentOf, under_call (by rw [told]; rfl)]
      simp only [under_ofReply]
      exact run_contentOf path host

/-- The status of a path is told if the system lets it, and none when nothing is there. -/
theorem run_under_statusOf? (path : Path) (host : Host) :
    ((statusOf? path).under refuses).run host =
      (match host.told refuses path with
        | .ok node => .ok (some (Host.statusOf node))
        | .error fault => if isAbsence fault then .ok none else .error fault, host) := by
  have asked : ((inspect path).under refuses).run host =
      ((host.told refuses path).map Host.statusOf, host) := by
    rw [Host.told, Call.granted]
    cases told : (Call.inspect path).refusedWith refuses with
    | some number =>
        rw [inspect, under_call_of_refused (by rw [told]; rfl)]
        rfl
    | none =>
        rw [inspect, under_call (by rw [told]; rfl)]
        simp only [under_ofReply]
        exact run_inspect path host
  rw [statusOf?, under_recover, under_bind, run_recover, run_bind, asked]
  cases host.told refuses path with
  | ok node => rfl
  | error fault => cases absence : isAbsence fault <;> simp [Except.map, absence] <;> rfl

/-- Something is there if the system tells of it, and nothing if the fault says so. -/
theorem run_under_isThere (path : Path) (host : Host) :
    ((isThere path).under refuses).run host =
      (match host.told refuses path with
        | .ok _ => .ok true
        | .error fault => if isAbsence fault then .ok false else .error fault, host) := by
  rw [isThere, bind_eq_bind, under_bind, run_bind, run_under_statusOf?]
  cases host.told refuses path with
  | ok node => rfl
  | error fault =>
      cases absence : isAbsence fault with
      | true =>
          simp [absence]
          rfl
      | false => simp [absence]

end Program

namespace Host

variable [Platform] {host : Host} {path : Path} {refuses : Call → Option Nat} {fault : Fault}

/-- What is not told of a path is absent, or the system is the reason. -/
theorem fault_of_told (lost : host.told refuses path = .error fault) :
    fault.isSystem = true ∨ fault = .nullByte := by
  rw [told, Call.granted] at lost
  split at lost
  · obtain rfl := Except.error.inj lost
    exact .inl rfl
  · exact fault_of_query lost

/-- What is told of a path is told of one without a null character. -/
theorem noNull_of_told {node : Node} (told : host.told refuses path = .ok node) :
    ∀ part ∈ path.parts, Char.ofNat 0 ∉ part.toList := by
  rw [Host.told, Call.granted] at told
  split at told
  · cases told
  · rw [← noNull_iff, ← Bool.not_eq_true]
    intro null
    rw [query_of_null null] at told
    cases told

/-- A file without a null character in its path is not read for a reason of the system. -/
theorem isSystem_of_contentAt (noNull : ∀ part ∈ path.parts, Char.ofNat 0 ∉ part.toList)
    (failed : host.contentAt refuses path = .error fault) : fault.isSystem = true := by
  rw [contentAt, Call.granted] at failed
  split at failed
  · obtain rfl := Except.error.inj failed
    rfl
  · exact isSystem_of_query noNull failed

theorem ne_reported_of_contentAt (failed : host.contentAt refuses path = .error fault) :
    fault ≠ .reported := by
  rw [contentAt, Call.granted] at failed
  split at failed
  · obtain rfl := Except.error.inj failed
    exact nofun
  · exact ne_reported_of_query failed

end Host

namespace Program

section Making

variable [Platform] {refuses : Call → Option Nat} {path : Path} {host after : Host} {fault : Fault}

theorem isSystem_of_isDirectory
    (failed : (((isDirectory path).under refuses).run host).1 = .error fault) :
    fault.isSystem = true := by
  rw [isDirectory, bind_eq_bind, under_bind, run_bind, run_under_statusOf?] at failed
  cases lost : host.told refuses path with
  | ok node =>
      rw [lost] at failed
      cases failed
  | error other =>
      rw [lost] at failed
      cases absence : isAbsence other with
      | true =>
          simp only [absence, if_true] at failed
          cases failed
      | false =>
          simp only [absence, Bool.false_eq_true, if_false] at failed
          obtain rfl := Except.error.inj failed
          rcases Host.fault_of_told lost with system | rfl
          · exact system
          · cases absence

theorem isSystem_of_directoryOrFail {first : Fault} (system : first.isSystem = true)
    (failed : ((((isDirectory path).bind fun there =>
      if there then done () else fail first).under refuses).run host).1 = .error fault) :
    fault.isSystem = true := by
  rw [under_bind, run_bind] at failed
  split at failed
  · rename_i there _ _
    cases there with
    | true => cases failed
    | false => exact Except.error.inj failed ▸ system
  · rename_i told
    obtain rfl := Except.error.inj failed
    exact isSystem_of_isDirectory (congrArg Prod.fst told)

/-- A directory that is not made is refused or has a null character. -/
theorem run_under_makeDirectory
    (failed : ((makeDirectory path).under refuses).run host = (.error fault, after)) :
    after = host ∧ (fault.isSystem = true ∨
      fault = .nullByte ∧ path.parts.any (holds (Char.ofNat 0)) = true) := by
  cases told : (Call.makeDirectory path).refusedWith refuses with
  | some number =>
      rw [makeDirectory, under_call_of_refused (by rw [told]; rfl)] at failed
      obtain ⟨same, rfl⟩ := Prod.mk.inj failed
      obtain rfl := Except.error.inj same
      exact ⟨rfl, .inl rfl⟩
  | none =>
      rw [makeDirectory, under_call (by rw [told]; rfl)] at failed
      simp only [under_ofReply] at failed
      change (makeDirectory path).run host = _ at failed
      refine ⟨run_makeDirectory_of_error failed, ?_⟩
      rw [run_makeDirectory, Host.change] at failed
      split at failed
      · rename_i refused
        obtain rfl := Except.error.inj (Prod.mk.inj failed).1
        cases null : path.parts.any (holds (Char.ofNat 0)) with
        | false => exact .inl (Host.isSystem_of_query (Host.noNull_iff.1 null) refused)
        | true => exact (Host.fault_of_query refused).imp_right fun same => ⟨same, rfl⟩
      · cases failed

theorem fault_of_makeUnlessThere
    (failed : (((makeUnlessThere path).under refuses).run host).1 = .error fault) :
    fault.isSystem = true ∨ fault = .nullByte ∧ path.parts.any (holds (Char.ofNat 0)) = true := by
  rw [makeUnlessThere, under_recover, run_recover] at failed
  split at failed
  · cases failed
  · rename_i ran
    split at failed
    · exact .inl (isSystem_of_directoryOrFail ‹_› failed)
    · obtain rfl := Except.error.inj failed
      exact (run_under_makeDirectory ran).2

/-- Directories are not made because the system refuses one, for a null character, or because too
many are missing. -/
theorem fault_of_makeDirectoriesUp {levels : Nat}
    (failed : (((makeDirectoriesUp levels path).under refuses).run host).1 = .error fault) :
    fault.isSystem = true ∨
      fault = .nullByte ∧ path.parts.any (holds (Char.ofNat 0)) = true ∨
      fault = .tooManyLevels := by
  induction levels generalizing path host with
  | zero =>
      obtain rfl := Except.error.inj failed
      exact .inr (.inr rfl)
  | succ levels ih =>
      rw [makeDirectoriesUp, under_recover, run_recover] at failed
      split at failed
      · cases failed
      · rename_i first left ran
        split at failed
        · split at failed
          · obtain rfl := Except.error.inj failed
            exact (run_under_makeDirectory ran).2.imp_right .inl
          · rw [bind_eq_bind, under_bind, run_bind] at failed
            split at failed
            · exact (fault_of_makeUnlessThere failed).imp_right .inl
            · rename_i above
              obtain rfl := Except.error.inj failed
              refine (ih (congrArg Prod.fst above)).imp_right
                (Or.imp_left (And.imp_right fun null => ?_))
              obtain ⟨part, member, holdsNull⟩ := List.any_eq_true.1 null
              exact List.any_eq_true.2 ⟨part, List.dropLast_subset _ member, holdsNull⟩
        · split at failed
          · exact .inl (isSystem_of_directoryOrFail ‹_› failed)
          · obtain rfl := Except.error.inj failed
            exact (run_under_makeDirectory ran).2.imp_right .inl

/-- There are too many levels above a missing directory when there are above its parent. -/
theorem run_makeDirectoriesUp_succ_iff {levels : Nat} :
    (((makeDirectoriesUp (levels + 1) path).under refuses).run host).1 = .error .tooManyLevels ↔
      (((makeDirectory path).under refuses).run host).1 = .error (.system Fault.notFound) ∧
        path.parent ≠ path ∧
        (((makeDirectoriesUp levels path.parent).under refuses).run host).1 =
          .error .tooManyLevels := by
  have other {fault : Fault} {path : Path}
      (told : fault.isSystem = true ∨
        fault = .nullByte ∧ path.parts.any (holds (Char.ofNat 0)) = true) :
      fault ≠ .tooManyLevels := by
    rintro rfl
    rcases told with system | ⟨same, -⟩ <;> contradiction
  rw [makeDirectoriesUp, under_recover, run_recover]
  cases ran : ((makeDirectory path).under refuses).run host with
  | mk outcome after =>
      cases outcome with
      | ok _ => exact iff_of_false (fun same => by cases same) fun missing => by cases missing.1
      | error fault =>
          obtain ⟨rfl, told⟩ := run_under_makeDirectory ran
          dsimp only
          split
          · rename_i absent
            subst absent
            split
            · rename_i top
              exact iff_of_false (fun same => by cases same) fun missing => missing.2.1 top
            · rename_i further
              rw [bind_eq_bind, under_bind, run_bind]
              split
              · rename_i later above
                rw [above]
                refine iff_of_false (fun same => ?_) fun missing => by cases missing.2.2
                exact other (fault_of_makeUnlessThere same) rfl
              · rename_i above
                rw [above]
                exact ⟨fun same => ⟨rfl, further, same⟩, fun missing => missing.2.2⟩
          · rename_i found
            refine iff_of_false (fun same => ?_) fun missing => found (Except.error.inj missing.1)
            split at same
            · have system := isSystem_of_directoryOrFail ‹_› same
              cases system
            · obtain rfl := Except.error.inj same
              exact other told rfl

/-- Too many directories are missing when as many as are allowed have none above. -/
theorem run_makeDirectoriesUp_iff {levels : Nat} :
    (((makeDirectoriesUp levels path).under refuses).run host).1 = .error .tooManyLevels ↔
      levels ≤ path.parts.length ∧ ∀ count < levels,
        (((makeDirectory (path.upTo (path.parts.length - count))).under refuses).run host).1 =
          .error (.system Fault.notFound) := by
  induction levels generalizing path with
  | zero => exact iff_of_true rfl ⟨Nat.zero_le _, fun _ less => absurd less (Nat.not_lt_zero _)⟩
  | succ levels ih =>
      have lowest : path.upTo (path.parts.length - 0) = path := path.upTo_length
      have length : path.parent.parts.length = path.parts.length - 1 := List.length_dropLast
      have above (count : Nat) : path.parent.upTo (path.parent.parts.length - count) =
          path.upTo (path.parts.length - (count + 1)) := by
        rw [Path.upTo_parent, length, Nat.min_eq_left (by omega)]
        congr 1
        omega
      have top : path.parent ≠ path ↔ 0 < path.parts.length := by
        constructor
        · intro further
          refine List.length_pos_iff.2 fun none => further ?_
          rw [Path.parent, none]
          cases path
          simp_all
        · intro some' same
          have shorter := congrArg (fun other : Path => other.parts.length) same
          omega
      rw [run_makeDirectoriesUp_succ_iff, ih, length, top]
      constructor
      · rintro ⟨first, some', fits, missing⟩
        refine ⟨by omega, fun count less => ?_⟩
        cases count with
        | zero => rwa [lowest]
        | succ count =>
            rw [← above, length]
            exact missing count (by omega)
      · rintro ⟨fits, missing⟩
        have first := missing 0 (by omega)
        rw [lowest] at first
        refine ⟨first, by omega, by omega, fun count less => ?_⟩
        rw [← length, above]
        exact missing (count + 1) (by omega)

/-- Nothing is written to a path with a null character. -/
theorem run_under_write_of_null (null : path.parts.any (holds (Char.ofNat 0)) = true)
    (content : Bytes) (host : Host) :
    ((write path content).under refuses).run host = (.error .nullByte, host) := by
  have allowed : (Call.write path content).refusedWith refuses = none :=
    Call.not_refused_of_null rfl null
  rw [write, under_call (by rw [allowed]; rfl)]
  simp only [under_ofReply]
  change (write path content).run host = _
  rw [run_write, Host.change, Host.query_of_null null]

/-- A path without null characters is written to, or the system refuses that. -/
theorem isSystem_of_write {content : Bytes} (clean : path.parts.any (holds (Char.ofNat 0)) = false)
    (failed : (((write path content).under refuses).run host).1 = .error fault) :
    fault.isSystem = true := by
  cases told : (Call.write path content).refusedWith refuses with
  | some number =>
      rw [write, under_call_of_refused (by rw [told]; rfl)] at failed
      obtain rfl := Except.error.inj failed
      rfl
  | none =>
      rw [write, under_call (by rw [told]; rfl)] at failed
      simp only [under_ofReply] at failed
      change ((write path content).run host).1 = _ at failed
      rw [run_write, Host.change] at failed
      split at failed
      · rename_i refused
        obtain rfl := Except.error.inj failed
        exact Host.isSystem_of_query (Host.noNull_iff.1 clean) refused
      · cases failed

end Making

end Program

end AnnotatedMake
