import AnnotatedMake.Host.Refusal
import AnnotatedMake.Proofs.Host.Sharing
import AnnotatedMake.Proofs.IndexCache.Phases
import Mathlib.Logic.Function.Basic

namespace AnnotatedMake

variable [Platform]

/-- The host's reply to a call, and the host afterwards, where a temporary file gets a given
name. -/
def Host.performAs (host : Host) (name : String) : (request : Call) → request.Reply × Host
  | .createTemporary directory _ => host.createNamed directory name
  | request => host.perform request

/-- What a host does on its own it does for some choice of the name. -/
theorem Host.exists_performAs (host : Host) {request : Call}
    (named : ∀ directory ending, request = .createTemporary directory ending →
      ending = cacheEnding) :
    ∃ name, host.performAs name request = host.perform request := by
  cases request with
  | createTemporary directory ending =>
      obtain rfl := named directory ending rfl
      obtain ⟨number, _, same⟩ := host.exists_createNamed directory
      exact ⟨FileSystem.temporaryName cacheEnding number, same⟩
  | _ =>
      refine ⟨"", ?_⟩
      simp only [performAs]

namespace IndexCache

/-- What is done with the cache files of a directory. -/
inductive Task where
  | store (index : ScopeIndex) (name : String)
  | load (name : String)
  | clear

namespace Task

def program (directory : Path) : Task → Program Unit
  | store index name => (IndexCache.store index (directory.child name)).bind fun _ => .done ()
  | load name => (IndexCache.load (directory.child name)).bind fun _ => .done ()
  | clear => (IndexCache.clear { directory }).bind fun _ => .done ()

/-- The content that a task gives a cache file. -/
def Writes : Task → String → Bytes → Prop
  | store index name, other, content => other = name ∧ content = contentOf index
  | _, _, _ => False

omit [Platform] in
/-- What is written under a name comes from a store. -/
theorem Writes.store {task : Task} {name : String} {content : Bytes}
    (writes : task.Writes name content) :
    ∃ index, task = store index name ∧ content = contentOf index := by
  cases task with
  | store index other =>
      obtain ⟨rfl, same⟩ := writes
      exact ⟨index, rfl, same⟩
  | load | clear => exact writes.elim

/-- Every task keeps to its phases. -/
theorem follows (task : Task) (directory : Path)
    (plain : ∀ name content, task.Writes name content → IsPlainName name) :
    Follows directory task.Writes (fun _ later => later.IsRest) (.fresh False)
      (task.program directory) := by
  cases task with
  | store index name =>
      exact (follows_store (plain name _ ⟨rfl, rfl⟩) ⟨rfl, rfl⟩).bind (fun _ _ => id) fun _ _ => id
  | load name =>
      have rests : (Phase.fresh False).IsRest := trivial
      exact (follows_report rests (looks_load _)).bind (fun _ _ => id) fun _ _ => id
  | clear => exact (follows_clear { directory }).bind (fun _ _ => id) fun _ _ => id

end Task

/-- A task with what it has left to do, and the name of the temporary file that it made. -/
structure Job where
  task : Task
  program : Program Unit
  temporary : Option String := none

def Job.hasEnded (job : Job) : Bool :=
  match job.program with
  | .call .. => false
  | _ => true

/-- Tasks that share a host. -/
structure Pool (ι : Type) where
  host : Host
  jobs : ι → Job

/-- What happens next: a task makes its next call, a piece of it, or is refused. -/
inductive Move (ι : Type) where
  | go (job : ι) (name : String)
  | part (job : ι) (count : Nat)
  | refuse (job : ι) (number : Nat)

/-- The name of a task's temporary file once a call is replied to. -/
def temporaryAfter (name : String) (old : Option String) :
    (request : Call) → request.Reply → Option String
  | .createTemporary .., .ok _ => some name
  | _, _ => old

namespace Pool

variable {ι : Type} [DecidableEq ι]

/-- The pool before any task begins. -/
def start (directory : Path) (host : Host) (tasks : ι → Task) : Pool ι where
  host
  jobs i := { task := tasks i, program := (tasks i).program directory }

/-- The pool once a task is somewhere else in its program. -/
def advance (pool : Pool ι) (i : ι) (host : Host) (program : Program Unit)
    (temporary : Option String) : Pool ι where
  host
  jobs := Function.update pool.jobs i { task := (pool.jobs i).task, program, temporary }

section Advance

variable {pool : Pool ι} {i j : ι} {host : Host} {program : Program Unit}
  {temporary : Option String}

omit [Platform] in
/-- The task that moves has its new program. -/
theorem jobs_advance_self : (pool.advance i host program temporary).jobs i =
    { task := (pool.jobs i).task, program, temporary } := Function.update_self ..

omit [Platform] in
/-- The other tasks are as they were. -/
theorem jobs_advance_of_ne (other : j ≠ i) :
    (pool.advance i host program temporary).jobs j = pool.jobs j :=
  Function.update_of_ne other ..

omit [Platform] in
/-- What holds where a task goes on and held of the others holds of all. -/
theorem forall_advance {motive : ι → Job → Phase → Prop} (phases : ι → Phase) {phase : Phase}
    (here : motive i { task := (pool.jobs i).task, program, temporary } phase)
    (others : ∀ j, j ≠ i → motive j (pool.jobs j) (phases j)) (j : ι) :
    motive j ((pool.advance i host program temporary).jobs j)
      (Function.update phases i phase j) := by
  by_cases same : j = i
  · subst same
    rw [jobs_advance_self, Function.update_self]
    exact here
  · rw [jobs_advance_of_ne same, Function.update_of_ne same]
    exact others j same

end Advance

/-- The pool after a move; a move that is not possible changes nothing. -/
def move (pool : Pool ι) : Move ι → Pool ι
  | .go i name =>
    match (pool.jobs i).program with
    | .call request next =>
      let (reply, after) := pool.host.performAs name request
      pool.advance i after (next reply) (temporaryAfter name (pool.jobs i).temporary request reply)
    | _ => pool
  | .part i count =>
    match (pool.jobs i).program with
    | .call (.append path content) next =>
      let (_, after) := pool.host.append path (content.take count)
      pool.advance i after (.call (.append path (content.drop count)) next) (pool.jobs i).temporary
    | _ => pool
  | .refuse i number =>
    match (pool.jobs i).program with
    | .call request next =>
      match request.refusal? number with
      | some reply => pool.advance i pool.host (next reply) (pool.jobs i).temporary
      | none => pool
    | _ => pool

def after (pool : Pool ι) (moves : List (Move ι)) : Pool ι := moves.foldl move pool

section Move

variable {pool : Pool ι} {i : ι} {request : Call} {next : request.Reply → Program Unit}
  {reply : request.Reply}

/-- A move performs the next call. -/
theorem move_go {name : String} {after : Host}
    (asked : (pool.jobs i).program = .call request next)
    (ran : pool.host.performAs name request = (reply, after)) :
    pool.move (.go i name) = pool.advance i after (next reply)
      (temporaryAfter name (pool.jobs i).temporary request reply) := by
  rw [move, asked]
  dsimp only
  rw [ran]

/-- A move may write a part only. -/
theorem move_part {path : Path} {content : Bytes} {count : Nat} {after : Host}
    {next : Except Fault Unit → Program Unit} {reply : Except Fault Unit}
    (asked : (pool.jobs i).program = .call (.append path content) next)
    (ran : pool.host.append path (content.take count) = (reply, after)) :
    pool.move (.part i count) = pool.advance i after
      (.call (.append path (content.drop count)) next) (pool.jobs i).temporary := by
  rw [move, asked]
  dsimp only
  rw [ran]

/-- The moves are made in turn. -/
theorem after_of_move {move : Move ι} {rest : List (Move ι)} {later : Pool ι}
    (moved : pool.move move = later) : pool.after (move :: rest) = later.after rest := by
  rw [after, after, List.foldl_cons, moved]

omit [Platform] in
/-- A temporary file is given by the task that moves. -/
theorem temporary_advance {j : ι} {host : Host} {program : Program Unit} {temporary : Option String}
    {name : String}
    (given : ((pool.advance i host program temporary).jobs j).temporary = some name) :
    (pool.jobs j).temporary = some name ∨ j = i ∧ temporary = some name := by
  by_cases same : j = i
  · subst same
    rw [jobs_advance_self] at given
    exact .inr ⟨rfl, given⟩
  · rw [jobs_advance_of_ne same] at given
    exact .inl given

/-- A task has the name of its temporary file from the move that made it. -/
theorem temporary_move {move : Move ι} {j : ι} {name : String}
    (given : ((pool.move move).jobs j).temporary = some name) :
    (pool.jobs j).temporary = some name ∨ move = .go j name := by
  cases move with
  | go k chosen =>
      rw [Pool.move] at given
      split at given
      · dsimp only at given
        rcases temporary_advance given with before | ⟨rfl, made⟩
        · exact .inl before
        · rw [temporaryAfter.eq_def] at made
          split at made
          · obtain rfl := Option.some.inj made
            exact .inr rfl
          · exact .inl made
      · exact .inl given
  | part k count =>
      rw [Pool.move] at given
      split at given
      · rcases temporary_advance given with before | ⟨rfl, before⟩ <;> exact .inl before
      · exact .inl given
  | refuse k number =>
      rw [Pool.move] at given
      split at given
      · split at given
        · rcases temporary_advance given with before | ⟨rfl, before⟩ <;> exact .inl before
        · exact .inl given
      · exact .inl given

end Move

/-- A temporary file gets the name that its task has for it, and no call is refused. -/
def TakesOwn (names : ι → String) : Move ι → Prop
  | .go i name => name = names i
  | .part .. => True
  | .refuse .. => False

/-- A move keeps the tasks to their own temporary files. -/
theorem own_move {pool : Pool ι} {names : ι → String} {move : Move ι} (takes : TakesOwn names move)
    (own : ∀ i name, (pool.jobs i).temporary = some name → name = names i) (i : ι) (name : String)
    (given : ((pool.move move).jobs i).temporary = some name) : name = names i := by
  rcases temporary_move given with before | rfl
  · exact own i name before
  · exact takes

/-- A sequence of moves keeps the tasks to their own temporary files. -/
theorem own_after {pool : Pool ι} {names : ι → String} {list : List (Move ι)}
    (takes : ∀ move ∈ list, TakesOwn names move)
    (own : ∀ i name, (pool.jobs i).temporary = some name → name = names i) (i : ι) (name : String)
    (given : ((pool.after list).jobs i).temporary = some name) : name = names i := by
  induction list generalizing pool with
  | nil => exact own i name given
  | cons next rest ih =>
      exact ih (fun move member => takes move (List.mem_cons_of_mem next member))
        (own_move (takes next List.mem_cons_self) own) given

/-- A name that the temporary file of a task may get. -/
structure MayName (pool : Pool ι) (i : ι) (name : String) : Prop where
  plain : IsPlainName name
  short : FileSystem.isLongName name = false
  ending : endsText cacheEnding name = true
  unwritten : ∀ j content, ¬ (pool.jobs j).task.Writes name content
  alone : ∀ j, j ≠ i → (pool.jobs j).hasEnded = false → (pool.jobs j).temporary ≠ some name

/-- A temporary file gets a name that it may get. -/
def Allows (pool : Pool ι) : Move ι → Prop
  | .go i name => ∀ directory ending next,
      (pool.jobs i).program = .call (.createTemporary directory ending) next → pool.MayName i name
  | _ => True

/-- A task is not refused to remove its temporary file. -/
def Discards (pool : Pool ι) : Move ι → Prop
  | .refuse i _ => ∀ path next, (pool.jobs i).program = .call (.remove path) next →
      (pool.jobs i).temporary = none
  | _ => True

/-- Something holds of every move when its turn comes. -/
def Throughout (holds : Pool ι → Move ι → Prop) (pool : Pool ι) : List (Move ι) → Prop
  | [] => True
  | first :: rest => holds pool first ∧ (pool.move first).Throughout holds rest

/-- Throughout the moves only own temporary files are discarded. -/
theorem throughout_discards {names : ι → String} {list : List (Move ι)}
    (takes : ∀ move ∈ list, TakesOwn names move) (pool : Pool ι) :
    pool.Throughout Discards list := by
  induction list generalizing pool with
  | nil => trivial
  | cons next rest ih =>
      refine ⟨?_, ih (fun move member => takes move (List.mem_cons_of_mem next member)) _⟩
      cases next with
      | go | part => trivial
      | refuse => exact (takes _ List.mem_cons_self).elim

end Pool

end IndexCache

end AnnotatedMake
