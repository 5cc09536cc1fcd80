import AnnotatedMake.Proofs.IndexCache.Answer

namespace AnnotatedMake

namespace IndexCache

/-- Whether a task has made its temporary file, and what it has written to it. -/
inductive Phase where
  | fresh (found : Prop)
  | filling (path : Path) (held : Option Bytes)
  | settled

/-- A task does not end with its temporary file still there. -/
def Phase.IsRest : Phase → Prop
  | .filling .. => False
  | _ => True

/-- Only a temporary file is filled, and only a full one is moved to a cache file. -/
def Phase.Admits (directory : Path) (writes : String → Bytes → Prop) : Phase → Call → Prop
  | .fresh _, .makeDirectory path => ∃ count, path = directory.upTo count
  | .fresh found, .createTemporary place _ =>
      place = directory ∧ found ∧ ∃ name content, writes name content
  | .fresh _, .remove path => ∃ name, IsOneName name ∧ endsText cacheEnding name = true ∧
      path = directory.child name
  | .filling path _, .append other _ => other = path
  | .filling path held, .rename source goal =>
      source = path ∧ ∃ name content, held = some content ∧ writes name content ∧
        goal = directory.child name
  | .filling path _, .remove other => other = path
  | _, request => Program.IsLook request

/-- The phase that a reply leads to. -/
def Phase.next (directory : Path) : Phase → (request : Call) → request.Reply → Phase
  | .fresh found, .makeDirectory path, .ok _ => .fresh (found ∨ path = directory)
  | .fresh found, .inspect path, .ok status =>
      .fresh (found ∨ path = directory ∧ status.standing = .directory)
  | .fresh _, .createTemporary .., .ok path => .filling path (some [])
  | .filling path held, .append _ more, .ok _ => .filling path (held.map (· ++ more))
  | .filling path _, .append .., .error _ => .filling path none
  | .filling .., .rename .., .ok _ => .settled
  | .filling .., .remove _, _ => .settled
  | phase, _, _ => phase

/-- The names that the directory is said to hold are names when they end like those of cache
files. -/
def IsLikely (directory : Path) : (request : Call) → request.Reply → Prop
  | .list path, .ok names => path = directory →
      ∀ name ∈ names, endsText cacheEnding name = true → '/' ∉ name.toList
  | _, _ => True

/-- A program asks in every phase for what it admits and ends in a phase that fits. -/
def Follows {α : Type} (directory : Path) (writes : String → Bytes → Prop)
    (returns : Except Fault α → Phase → Prop) : Phase → Program α → Prop
  | phase, .done result => returns (.ok result) phase
  | phase, .fail fault => returns (.error fault) phase
  | phase, .call request next => phase.Admits directory writes request ∧
      ∀ reply, IsLikely directory request reply →
        Follows directory writes returns (phase.next directory request reply) (next reply)

/-- A phase in which no less is known and nothing else is different. -/
inductive Phase.Grows : Phase → Phase → Prop where
  | same (phase : Phase) : Grows phase phase
  | fresh {before after : Prop} (still : before → after) : Grows (.fresh before) (.fresh after)

namespace Phase.Grows

variable {first second third : Phase}

/-- What has grown twice has grown. -/
theorem trans (before : Grows first second) (after : Grows second third) : Grows first third := by
  cases before with
  | same => exact after
  | fresh still =>
      cases after with
      | same => exact .fresh still
      | fresh further => exact .fresh (further ∘ still)

/-- Growth neither begins nor ends a store. -/
theorem isRest_iff (grows : Grows first second) : second.IsRest ↔ first.IsRest := by
  cases grows <;> exact Iff.rfl

/-- What grows to a fresh phase was fresh. -/
theorem fresh_left {found : Prop} (grows : Grows (.fresh found) second) :
    ∃ still, second = .fresh still := by
  cases grows <;> exact ⟨_, rfl⟩

/-- A fresh phase grows to a fresh one. -/
theorem fresh_right {found : Prop} (grows : Grows first (.fresh found)) :
    ∃ before, first = .fresh before := by
  cases grows <;> exact ⟨_, rfl⟩

end Phase.Grows

section Follows

variable {α β : Type} {directory : Path} {writes : String → Bytes → Prop}
  {between : Except Fault α → Phase → Prop} {returns : Except Fault β → Phase → Prop}
  {phase : Phase} {program : Program α}

/-- A program and what comes next follow the phases in turn. -/
theorem Follows.bind {next : α → Program β} (first : Follows directory writes between phase program)
    (second : ∀ result later, between (.ok result) later →
      Follows directory writes returns later (next result))
    (failed : ∀ fault later, between (.error fault) later → returns (.error fault) later) :
    Follows directory writes returns phase (program.bind next) := by
  induction program generalizing phase with
  | done result => exact second result phase first
  | fail fault => exact failed fault phase first
  | call request next ih =>
      exact ⟨first.1, fun reply likely => ih reply (first.2 reply likely)⟩

/-- A handler follows from each phase a fault may leave. -/
theorem Follows.recover {handle : Fault → Program α} {after : Except Fault α → Phase → Prop}
    (first : Follows directory writes between phase program)
    (second : ∀ fault later, between (.error fault) later →
      Follows directory writes after later (handle fault))
    (passed : ∀ result later, between (.ok result) later → after (.ok result) later) :
    Follows directory writes after phase (program.recover handle) := by
  induction program generalizing phase with
  | done result => exact passed result phase first
  | fail fault => exact second fault phase first
  | call request next ih =>
      exact ⟨first.1, fun reply likely => ih reply (first.2 reply likely)⟩

/-- A program may be said to end in more phases than it does. -/
theorem Follows.mono {wider : Except Fault α → Phase → Prop}
    (first : Follows directory writes between phase program)
    (within : ∀ outcome later, between outcome later → wider outcome later) :
    Follows directory writes wider phase program := by
  induction program generalizing phase with
  | done result => exact within _ _ first
  | fail fault => exact within _ _ first
  | call request next ih =>
      exact ⟨first.1, fun reply likely => ih reply (first.2 reply likely)⟩

/-- A reply that is there already changes no phase. -/
theorem follows_ofReply (reply : Except Fault α) (fits : between reply phase) :
    Follows directory writes between phase (.ofReply reply) := by
  cases reply <;> exact fits

/-- By a look no more can be found out than that the directory is there. -/
theorem next_of_isLook {request : Call} (look : Program.IsLook request) (reply : request.Reply) :
    phase.Grows (phase.next directory request reply) := by
  cases request with
  | inspect path =>
      cases phase with
      | fresh found =>
          cases reply with
          | ok status => exact .fresh .inl
          | error fault => exact .same _
      | filling | settled => exact .same _
  | read | list | resolve | currentDirectory | environment | report =>
      cases phase <;> exact .same _
  | _ => exact look.elim

/-- Every phase admits a look. -/
theorem allows_of_isLook {request : Call} (look : Program.IsLook request) :
    phase.Admits directory writes request := by
  cases request with
  | read | inspect | list | resolve | currentDirectory | environment | report =>
      cases phase <;> exact look
  | _ => exact look.elim

/-- A program that looks is allowed in every phase. -/
theorem follows_of_looks (looks : program.CallsOnly Program.IsLook) (phase : Phase) :
    Follows directory writes (fun _ later => phase.Grows later) phase program := by
  induction program generalizing phase with
  | done result | fail fault => exact .same phase
  | call request next ih =>
      refine ⟨allows_of_isLook looks.1, fun reply _ => ?_⟩
      exact (ih reply (looks.2 reply) _).mono fun _ _ => (next_of_isLook looks.1 reply).trans

end Follows

section Tasks

variable {directory : Path} {writes : String → Bytes → Prop}

/-- A task without a temporary file knows its directory once it has found or made it. -/
def Seeks {α : Type} (directory path : Path) (outcome : Except Fault α) (later : Phase) : Prop :=
  ∃ found, later = .fresh found ∧ ∀ result, outcome = .ok result → path = directory → found

/-- A fault leaves the search where it was. -/
theorem seeks_error {α : Type} {path : Path} (fault : Fault) (found : Prop) :
    Seeks directory path (.error fault : Except Fault α) (.fresh found) :=
  ⟨found, rfl, fun _ same => by cases same⟩

variable {found : Prop}

/-- Making a directory of the way stays before the store. -/
theorem follows_makeDirectory (count : Nat) :
    Follows directory writes (Seeks directory (directory.upTo count)) (.fresh found)
      (Program.makeDirectory (directory.upTo count)) := by
  refine ⟨⟨count, rfl⟩, fun reply _ => ?_⟩
  cases reply with
  | ok result => exact ⟨_, rfl, fun _ _ => .inr⟩
  | error fault => exact seeks_error fault found

/-- Whether a directory is there is found out by looking. -/
theorem follows_directoryOrFail (path : Path) (fault : Fault) :
    Follows directory writes (Seeks directory path) (.fresh found)
      ((Program.isDirectory path).bind fun there =>
        if there then .done () else .fail fault) := by
  refine ⟨trivial, fun reply _ => ?_⟩
  cases reply with
  | error other =>
      change Follows _ _ _ (.fresh found) (Program.bind (Program.bind (if _ then _ else _) _) _)
      split <;> exact seeks_error _ found
  | ok status =>
      change Follows _ _ _ (Phase.fresh _)
        (if decide (status.standing = .directory) = true then Program.done () else .fail fault)
      split
      · rename_i there
        exact ⟨_, rfl, fun _ _ same => .inr ⟨same, of_decide_eq_true there⟩⟩
      · exact seeks_error fault _

/-- A directory of the way may be there already. -/
theorem follows_makeUnlessThere (count : Nat) :
    Follows directory writes (Seeks directory (directory.upTo count)) (.fresh found)
      (Program.makeUnlessThere (directory.upTo count)) := by
  refine Follows.recover (follows_makeDirectory count) ?_ fun _ _ => id
  rintro fault _ ⟨found, rfl, _⟩
  split
  · exact follows_directoryOrFail _ fault
  · exact seeks_error fault found

/-- Directories are made on the way to the shared one only. -/
theorem follows_makeDirectoriesUp (levels count : Nat) :
    Follows directory writes (Seeks directory (directory.upTo count)) (.fresh found)
      (Program.makeDirectoriesUp levels (directory.upTo count)) := by
  induction levels generalizing count found with
  | zero => exact seeks_error _ found
  | succ levels ih =>
      refine Follows.recover (follows_makeDirectory count) ?_ fun _ _ => id
      rintro fault _ ⟨found, rfl, _⟩
      split
      · split
        · exact seeks_error fault found
        · have above : (directory.upTo count).parent =
              directory.upTo ((directory.parts.take count).length - 1) := by
            rw [Path.parent, Path.upTo, Path.upTo, List.dropLast_eq_take, List.take_take,
              List.length_take]
            congr 2
            omega
          rw [above]
          refine Follows.bind (ih _) ?_ ?_
          · rintro _ _ ⟨found, rfl, _⟩
            exact follows_makeUnlessThere count
          · rintro other _ ⟨found, rfl, _⟩
            exact seeks_error other found
      · split
        · exact follows_directoryOrFail _ fault
        · exact seeks_error fault found

/-- Records are added to the temporary file one behind the other. -/
theorem follows_forEach_append (path : Path) (definitions : List Definition) (held : Bytes) :
    Follows directory writes (fun outcome later =>
      (∃ known, later = .filling path known) ∧ ∀ result, outcome = .ok result →
        later = .filling path (some (held ++ definitions.flatMap fun definition =>
          bytesOf (CacheRecord.encode definition)))) (.filling path (some held))
      (Program.forEach (fun definition =>
        Program.append path (bytesOf (CacheRecord.encode definition))) definitions) := by
  induction definitions generalizing held with
  | nil =>
      refine ⟨⟨_, rfl⟩, fun _ _ => ?_⟩
      rw [List.flatMap_nil, List.append_nil]
  | cons definition rest ih =>
      refine ⟨rfl, fun reply _ => ?_⟩
      cases reply with
      | error fault =>
          refine ⟨⟨none, rfl⟩, fun _ same => ?_⟩
          cases same
      | ok result =>
          refine (ih (held ++ bytesOf (CacheRecord.encode definition))).mono fun _ _ fills => ?_
          rw [List.flatMap_cons, ← List.append_assoc]
          exact fills

/-- A temporary file that is discarded is no more the task's. -/
theorem follows_discard (path : Path) (held : Option Bytes) :
    Follows directory writes (fun _ later => later = .settled) (.filling path held)
      (discard path) := by
  refine ⟨rfl, fun reply _ => ?_⟩
  cases reply with
  | ok result => rfl
  | error fault =>
      change Follows _ _ _ Phase.settled (if fault = _ then Program.done () else .fail fault)
      split <;> rfl

/-- Filling the temporary file writes the content in full. -/
theorem follows_fill {index : ScopeIndex} {name : String} (written : writes name (contentOf index))
    (path : Path) :
    Follows directory writes (fun _ later => later = .settled) (.filling path (some []))
      (fill index path (directory.child name)) := by
  have moves : Follows directory writes (fun outcome later => match outcome with
      | .ok _ => later = .settled
      | .error _ => ∃ held, later = .filling path held) (.filling path (some []))
      ((Program.forEach (fun definition =>
        Program.append path (bytesOf (CacheRecord.encode definition))) index.definitions).bind
          fun _ => Program.rename path (directory.child name)) := by
    refine Follows.bind (follows_forEach_append path index.definitions []) ?_ ?_
    · rintro _ _ ⟨_, whole⟩
      rw [whole _ rfl, List.nil_append, ← contentOf_eq]
      refine ⟨⟨rfl, name, _, rfl, written, rfl⟩, fun reply _ => ?_⟩
      cases reply with
      | ok result => rfl
      | error fault => exact ⟨_, rfl⟩
    · exact fun _ _ fills => fills.1
  refine Follows.recover moves ?_ fun _ _ => id
  rintro fault _ ⟨held, rfl⟩
  refine Follows.bind (follows_discard path held) ?_ fun _ _ => id
  rintro _ _ rfl
  rfl

variable [Platform]

/-- Replacing the cache file ends at rest. -/
theorem follows_replace {index : ScopeIndex} {name : String} (plain : IsPlainName name)
    (written : writes name (contentOf index)) :
    Follows directory writes (fun _ later => later.IsRest) (.fresh found)
      (replace index (directory.child name)) := by
  rw [replace_eq_fill, Path.parent_child directory plain.toIsOneName]
  have made : Follows directory writes
      (Seeks directory (directory.upTo directory.parts.length)) (.fresh found)
      (Program.makeDirectoriesUp Program.levelLimit (directory.upTo directory.parts.length)) :=
    follows_makeDirectoriesUp Program.levelLimit directory.parts.length
  rw [Path.upTo_length] at made
  refine Follows.bind made ?_ ?_
  · rintro result _ ⟨found, rfl, known⟩
    refine ⟨⟨rfl, known result rfl rfl, name, _, written⟩, fun reply _ => ?_⟩
    cases reply with
    | error fault => exact trivial
    | ok path =>
        refine (follows_fill written path).mono ?_
        rintro _ _ rfl
        exact trivial
  · rintro _ _ ⟨found, rfl, _⟩
    exact trivial

omit [Platform] in
/-- What only looks in a phase of rest ends in one. -/
theorem follows_report {α : Type} {phase : Phase} (rest : phase.IsRest) {program : Program α}
    (looks : program.CallsOnly Program.IsLook) :
    Follows directory writes (fun _ later => later.IsRest) phase program :=
  (follows_of_looks looks phase).mono fun _ _ grows => grows.isRest_iff.2 rest

/-- Storing an index ends at rest. -/
theorem follows_store {index : ScopeIndex} {name : String} (plain : IsPlainName name)
    (written : writes name (contentOf index)) :
    Follows directory writes (fun _ later => later.IsRest) (.fresh found)
      (store index (directory.child name)) := by
  have replaced : Follows directory writes (fun _ later => later.IsRest) (.fresh found)
      ((replace index (directory.child name)).bind fun _ => .done true) :=
    Follows.bind (follows_replace plain written) (fun _ _ => id) fun _ _ => id
  have told : Follows directory writes (fun _ later => later.IsRest) (.fresh found)
      (((replace index (directory.child name)).bind fun _ => .done true).recover fun fault =>
        if fault.isSystem then (Program.report .warning ("Cannot write cache " ++
          (directory.child name).text ++ ": " ++ fault.brief)).bind fun _ => .done false
        else .fail fault) := by
    refine Follows.recover replaced (fun fault later rest => ?_) fun _ _ => id
    split
    · exact follows_report rest
        (Program.CallsOnly.bind (Program.looks_report ..) fun _ => trivial)
    · exact rest
  refine Follows.bind told (fun written later rest => ?_) fun _ _ => id
  cases written with
  | true =>
      exact follows_report rest
        (Program.CallsOnly.bind (Program.looks_report ..) fun _ => trivial)
  | false => exact rest

omit [Platform] in
/-- What is removed are entries of the directory that end like cache files. -/
theorem follows_removeFiles (names : List String) (entries : ∀ name ∈ names, IsOneName name ∧
    endsText cacheEnding name = true) :
    Follows directory writes (fun _ later => later.IsRest) (.fresh found)
      (removeFiles (names.map directory.child)) := by
  induction names generalizing found with
  | nil => exact trivial
  | cons name rest ih =>
      have others (found : Prop) : Follows directory writes (fun _ later => later.IsRest)
          (.fresh found) (removeFiles (rest.map directory.child)) :=
        ih fun other member => entries other (List.mem_cons_of_mem name member)
      refine Follows.bind (follows_of_looks (Program.looks_isFile _) _) ?_
        fun _ _ grows => grows.isRest_iff.2 trivial
      rintro isFile _ grows
      obtain ⟨found, rfl⟩ := grows.fresh_left
      cases isFile with
      | false => exact others found
      | true =>
          obtain ⟨one, ending⟩ := entries name List.mem_cons_self
          have removed : Follows directory writes (fun _ later => later = .fresh found)
              (.fresh found) (Program.remove (directory.child name)) :=
            ⟨⟨name, one, ending, rfl⟩, fun reply _ => follows_ofReply reply rfl⟩
          refine Follows.bind removed ?_ ?_
          · rintro _ _ rfl
            exact Follows.bind (others found) (fun _ _ => id) fun _ _ => id
          · rintro _ _ rfl
            exact trivial

omit [Platform] in
/-- Clearing the cache ends at rest. -/
theorem follows_clear (cache : IndexCache) :
    Follows cache.directory writes (fun _ later => later.IsRest) (.fresh found) cache.clear := by
  refine Follows.bind (follows_of_looks (Program.looks_isDirectory _) _) ?_
    fun _ _ grows => grows.isRest_iff.2 trivial
  rintro isDirectory _ grows
  obtain ⟨found, rfl⟩ := grows.fresh_left
  cases isDirectory with
  | false => exact trivial
  | true =>
      refine ⟨trivial, fun reply likely => ?_⟩
      cases reply with
      | error fault => exact trivial
      | ok names =>
          refine follows_removeFiles _ fun name member => ?_
          obtain ⟨listed, ending⟩ := List.mem_filter.1 member
          have noSlash := likely rfl name listed ending
          obtain ⟨front, rfl⟩ := endsText_iff.1 ending
          exact ⟨isOneName_of_cacheEnding noSlash, ending⟩

end Tasks

end IndexCache

end AnnotatedMake
