import AnnotatedMake.Proofs.Host.Rooted
import AnnotatedMake.Proofs.IndexCache.Interleaving

namespace AnnotatedMake

namespace IndexCache

namespace Pool

variable [Platform]

variable {ι : Type} [DecidableEq ι]

/-- What is read is what was there at first or the whole content of a store. -/
theorem reads_are_whole {directory : Path} {home work : Location} {tasks : ι → Task} {first : Host}
    {moves : List (Move ι)} (site : Host.IsSite directory home work (IsCacheName tasks) first)
    (stored : ∀ i goal content, (tasks i).Writes goal content → IsPlainName goal)
    (allowed : (start directory first tasks).Throughout Allows moves) :
    (∀ name content, IsOneName name → IsCacheName tasks name →
      (∀ i, (((start directory first tasks).after moves).jobs i).temporary ≠ some name) →
      (((start directory first tasks).after moves).host.perform
        (.read (directory.child name))).1 = .ok content →
      (∃ time, (first.files.node? (home ++ [name])).bind Node.reading? = some (content, time)) ∨
        ∃ i index, tasks i = .store index name ∧ content = contentOf index) ∧
    ((start directory first tasks).Throughout Discards moves →
      (∀ i index name, tasks i = .store index name →
        (((start directory first tasks).after moves).jobs i).hasEnded = true) →
      ∀ i name, (((start directory first tasks).after moves).jobs i).temporary = some name →
        ((start directory first tasks).after moves).host.files.node? (work ++ [name]) = none) := by
  obtain ⟨phases, sound⟩ := (Sound.start site stored).moves stored allowed
  generalize (start directory first tasks).after moves = pool at sound ⊢
  constructor
  · intro name content one entry notTemporary read
    have notLink (other : Location) (leads : pool.host.leads? directory = some other)
        (target : String) : pool.host.files.node? (other ++ [name]) ≠ some (.link target) := by
      obtain rfl := Option.some.inj (sound.site.leads.symm.trans leads)
      exact sound.site.notLink name target entry
    obtain ⟨other, node, changed, leads, present, isRead⟩ := Host.read_child one read notLink
    obtain rfl := Option.some.inj (sound.site.leads.symm.trans leads)
    refine (sound.whole name entry notTemporary content changed ?_).imp_right ?_
    · rw [present]
      exact isRead
    · rintro ⟨i, writes⟩
      obtain ⟨index, task, same⟩ := writes.store
      exact ⟨i, index, task, same⟩
  · intro discards ended i name given
    refine sound.gone ⟨trivial, discards⟩ i name given fun j fills => ?_
    have busy := sound.hasEnded_of_fills fills
    obtain ⟨goal, content, writes⟩ := ((sound.jobs j).named name fills.2).writes
    obtain ⟨index, task, _⟩ := writes.store
    rw [ended j index goal task] at busy
    cases busy

end Pool

end IndexCache

end AnnotatedMake

namespace AnnotatedMake.IndexCache.Pool

variable {ι : Type} [DecidableEq ι]

theorem isPlainName_temporaryFile : IsPlainName ".t.cache" :=
  ⟨⟨⟨by decide, by decide⟩, by decide⟩, by decide⟩

theorem isPlainName_firstFile : IsPlainName "a.cache" :=
  ⟨⟨⟨by decide, by decide⟩, by decide⟩, by decide⟩

theorem isPlainName_secondFile : IsPlainName "b.cache" :=
  ⟨⟨⟨by decide, by decide⟩, by decide⟩, by decide⟩

/-- On an empty system every name is vacant. -/
theorem vacant_empty (name : String) : FileSystem.empty.node? [name] = none := rfl

/-- The root directory of a host with nothing else is one that programs can share. -/
theorem isSite_empty (entries : String → Prop) : Host.IsSite ⟨.root, []⟩ [] [] entries {} where
  proper := Path.isProper_root _
  leads := Host.leads?_root rfl
  works _ is := Option.some.inj (is.symm.trans (Host.workplace?_root rfl))
  notLink name _ _ isLink := nomatch (vacant_empty name).symm.trans isLink
  noSlash name _ present := absurd (vacant_empty name) present
  unlogged _ _ := ⟨nofun, nofun⟩

/-- A definition of one parameter. -/
def single : Definition := { values := ["1"], name := "x", scope := "" }

/-- A definition of another one. -/
def other : Definition := { values := ["2"], name := "y", scope := "" }

/-- Two stores to one cache file. -/
def storesOfTwo : Bool → Task
  | true => .store (ScopeIndex.define {} single) "a.cache"
  | false => .store (ScopeIndex.define {} other) "a.cache"

/-- The names of their temporary files. -/
def namesOfTwo : Bool → String
  | true => ".t.cache"
  | false => ".u.cache"

/-- Each store makes, fills in two pieces and moves its temporary file, one behind the other. -/
def inTurn : List (Move Bool) :=
  let go (i : Bool) : Move Bool := .go i (namesOfTwo i)
  [go true, go true, go true, go false, go false, go false, .part true 1, .part false 1,
    go true, go false, go true, go false, go true, go false]

/-- Both tasks of the witness write one cache file. -/
theorem writes_storesOfTwo {i : Bool} {goal : String} {content : Bytes}
    (writes : (storesOfTwo i).Writes goal content) : goal = "a.cache" := by
  cases i <;> exact writes.1

/-- The name the tasks write is plain. -/
theorem isPlainName_stored (i : Bool) (goal : String) (content : Bytes)
    (writes : (storesOfTwo i).Writes goal content) : IsPlainName goal := by
  rw [writes_storesOfTwo writes]
  exact isPlainName_firstFile

/-- The names of the temporary files are plain. -/
theorem isPlainName_namesOfTwo (i : Bool) : IsPlainName (namesOfTwo i) := by
  cases i <;> exact ⟨⟨⟨by decide, by decide⟩, by decide⟩, by decide⟩

/-- Each task of the witness takes its own temporary file. -/
theorem takesOwn_inTurn : ∀ move ∈ inTurn, TakesOwn namesOfTwo move := by
  simp [inTurn, TakesOwn]

/-- Before the first move no temporary file is taken. -/
theorem own_start (i : Bool) (name : String)
    (given : ((start ⟨.root, []⟩ {} storesOfTwo).jobs i).temporary = some name) :
    name = namesOfTwo i := nomatch given

/-- No temporary file is the cache file. -/
theorem namesOfTwo_ne_goal (i : Bool) : namesOfTwo i ≠ "a.cache" := by
  revert i
  decide

/-- The two have names of their own for their temporary files. -/
theorem throughout_allows_inTurn :
    (start ⟨.root, []⟩ {} storesOfTwo).Throughout Allows inTurn := by
  have distinct : Function.Injective namesOfTwo := by
    intro i j
    revert i j
    decide
  refine (Sound.start (isSite_empty _) isPlainName_stored).throughout_allows distinct
    isPlainName_namesOfTwo (by decide) (by decide) ?_ isPlainName_stored own_start takesOwn_inTurn
  intro i j content writes
  exact namesOfTwo_ne_goal i (writes_storesOfTwo writes)

/-- Both stores have ended, each with its temporary file, and the cache file is read. -/
structure Settles (pool : Pool Bool) (content : Bytes) : Prop where
  ended : ∀ i, (pool.jobs i).hasEnded = true
  named : ∀ i, (pool.jobs i).temporary = some (namesOfTwo i)
  read : (pool.host.perform (.read ⟨.root, ["a.cache"]⟩)).1 = .ok content

/-- What settles after a move settles from before it. -/
theorem settles_of_move {pool later : Pool Bool} {move : Move Bool} {rest : List (Move Bool)}
    {content : Bytes} (moved : pool.move move = later)
    (settles : Settles (later.after rest) content) :
    Settles (pool.after (move :: rest)) content := by
  rw [after_of_move moved]
  exact settles

/-- The store that ends last is read. -/
theorem settles_inTurn : Settles ((start ⟨.root, []⟩ {} storesOfTwo).after inTurn)
    (bytesOf (CacheRecord.encode other)) := by
  have shortFirst : FileSystem.isLongName ".t.cache" = false := by decide
  have shortSecond : FileSystem.isLongName ".u.cache" = false := by decide
  have shortGoal : FileSystem.isLongName "a.cache" = false := by decide
  have plainFirst : IsPlainName ".t.cache" := isPlainName_namesOfTwo true
  have plainSecond : IsPlainName ".u.cache" := isPlainName_namesOfTwo false
  have flat := Host.IsFlat.empty
  obtain ⟨_, inspected⟩ := flat.inspect
  obtain ⟨first, made, flatFirst⟩ := flat.createNamed plainFirst shortFirst rfl
  obtain ⟨_, inspectedToo⟩ := flatFirst.inspect
  obtain ⟨second, madeToo, flatSecond⟩ := flatFirst.createNamed plainSecond shortSecond rfl
  obtain ⟨third, begun, flatThird⟩ := flatSecond.append plainFirst shortFirst
    rfl ((bytesOf (CacheRecord.encode single)).take 1)
  obtain ⟨fourth, begunToo, flatFourth⟩ := flatThird.append plainSecond shortSecond
    rfl ((bytesOf (CacheRecord.encode other)).take 1)
  obtain ⟨fifth, filled, flatFifth⟩ := flatFourth.append plainFirst shortFirst
    rfl ((bytesOf (CacheRecord.encode single)).drop 1)
  obtain ⟨sixth, filledToo, flatSixth⟩ := flatFifth.append plainSecond shortSecond
    rfl ((bytesOf (CacheRecord.encode other)).drop 1)
  simp only [List.nil_append, List.take_append_drop] at flatSixth
  obtain ⟨seventh, moved, flatSeventh⟩ :=
    flatSixth.rename plainFirst shortFirst rfl isPlainName_firstFile shortGoal
  obtain ⟨last, movedToo, flatLast⟩ :=
    flatSeventh.rename plainSecond shortSecond rfl isPlainName_firstFile shortGoal
  refine settles_of_move (move_go rfl flat.makeDirectory) ?_
  refine settles_of_move (move_go rfl inspected) ?_
  refine settles_of_move (move_go rfl made) ?_
  refine settles_of_move (move_go rfl flatFirst.makeDirectory) ?_
  refine settles_of_move (move_go rfl inspectedToo) ?_
  refine settles_of_move (move_go rfl madeToo) ?_
  refine settles_of_move (move_part rfl begun) ?_
  refine settles_of_move (move_part rfl begunToo) ?_
  refine settles_of_move (move_go rfl filled) ?_
  refine settles_of_move (move_go rfl filledToo) ?_
  refine settles_of_move (move_go rfl moved) ?_
  refine settles_of_move (move_go rfl movedToo) ?_
  refine settles_of_move (move_go rfl rfl) ?_
  refine settles_of_move (move_go rfl rfl) ?_
  exact ⟨fun i => by cases i <;> rfl, fun i => by cases i <;> rfl,
    (flatLast.reportAll [_, _]).read isPlainName_firstFile shortGoal (Function.update_self ..)⟩

/-- While two stores write one file by turns, the last content is read in the end. -/
theorem reads_are_whole_in_turn :
    let after := (start ⟨.root, []⟩ {} storesOfTwo).after inTurn
    ∃ content i index,
      (after.host.perform (.read (Path.child ⟨.root, []⟩ "a.cache"))).1 = .ok content ∧
      content ≠ [] ∧ storesOfTwo i = .store index "a.cache" ∧ content = contentOf index ∧
      ∀ j, after.host.files.node? [namesOfTwo j] = none := by
  intro after
  obtain ⟨reads, ends⟩ :=
    reads_are_whole (isSite_empty _) isPlainName_stored throughout_allows_inTurn
  have settles := settles_inTurn
  have below : Path.child ⟨.root, []⟩ "a.cache" = ⟨.root, ["a.cache"]⟩ :=
    Path.child_of_oneName ⟨.root, []⟩ isPlainName_firstFile.toIsOneName
  have read : (after.host.perform (.read (Path.child ⟨.root, []⟩ "a.cache"))).1 =
      .ok (bytesOf (CacheRecord.encode other)) := by
    rw [below]
    exact settles.read
  have notTemporary (i : Bool) : (after.jobs i).temporary ≠ some "a.cache" := fun given =>
    namesOfTwo_ne_goal i (own_after takesOwn_inTurn own_start i _ given).symm
  have gone := ends (throughout_discards takesOwn_inTurn _) fun i _ _ _ => settles.ended i
  rcases reads "a.cache" _ isPlainName_firstFile.toIsOneName (.inl (by decide)) notTemporary read
    with ⟨time, there⟩ | ⟨i, index, task, same⟩
  · rw [List.nil_append, vacant_empty] at there
    cases there
  · exact ⟨_, i, index, read, by decide +kernel, task, same,
      fun j => gone j _ (settles.named j)⟩

/-- What is read after some moves was neither read at first nor stored. -/
def ReadsOther (directory : Path) (first : Host) (tasks : ι → Task) (moves : List (Move ι))
    (name : String) : Prop :=
  ∃ content, (((start directory first tasks).after moves).host.perform
      (.read (directory.child name))).1 = .ok content ∧
    (first.perform (.read (directory.child name))).1 ≠ .ok content ∧
    ∀ i index, tasks i = .store index name → content ≠ contentOf index

/-- What is read after some moves is read after the others from the pool that the first leads to. -/
theorem read_of_move {pool later : Pool ι} {move : Move ι} {rest : List (Move ι)} {path : Path}
    {outcome : Except Fault Bytes} (moved : pool.move move = later)
    (read : ((later.after rest).host.perform (.read path)).1 = outcome) :
    ((pool.after (move :: rest)).host.perform (.read path)).1 = outcome := by
  rw [after_of_move moved]
  exact read

/-- Two stores and a clearing. -/
inductive Racer where
  | first
  | clearing
  | second
deriving DecidableEq

def racing : Racer → Task
  | .first => .store {} "a.cache"
  | .clearing => .clear
  | .second => .store (ScopeIndex.define {} single) "b.cache"

/-- The second store takes the temporary name that was cleared away under the first. -/
def race : List (Move Racer) :=
  [.go .first "", .go .first "", .go .first ".t.cache", .go .clearing "", .go .clearing "",
    .go .clearing "", .go .clearing "", .go .second "", .go .second "",
    .go .second ".t.cache", .part .second 1, .go .first ""]

/-- A name that is taken again while its first owner still has it lets part of a text be read. -/
theorem read_after_race :
    (((start ⟨.root, []⟩ {} racing).after race).host.perform (.read ⟨.root, ["a.cache"]⟩)).1 =
      .ok [120] := by
  have byte : [] ++ (bytesOf (CacheRecord.encode single)).take 1 = [120] := by decide +kernel
  rw [← byte]
  have short : FileSystem.isLongName ".t.cache" = false := by decide
  have plain := isPlainName_temporaryFile
  have empty : ({} : Host).files.node? [] = some (.directory 0) := rfl
  obtain ⟨first, madeFirst, files, opens⟩ :=
    Host.createNamed_of_root empty plain short (vacant_empty _)
  obtain ⟨_, root⟩ := opens.root empty
  have flat := Host.IsFlat.empty.filled opens
  have listed : first.files.list [] [] = .ok [".t.cache"] := by
    rw [files]
    cbv
  obtain ⟨cleared, removed, flatCleared⟩ := flat.remove plain short rfl
  obtain ⟨_, inspected⟩ := flatCleared.inspect
  obtain ⟨second, madeSecond, flatSecond⟩ := flatCleared.createNamed plain short rfl
  obtain ⟨filled, appended, flatFilled⟩ := flatSecond.append plain short rfl
    ((bytesOf (CacheRecord.encode single)).take 1)
  obtain ⟨last, moved, flatLast⟩ :=
    flatFilled.rename plain short rfl isPlainName_firstFile (by decide)
  refine read_of_move (move_go rfl (Host.makeDirectory_root empty)) ?_
  refine read_of_move (move_go rfl (Host.inspect_root empty)) ?_
  refine read_of_move (move_go rfl madeFirst) ?_
  refine read_of_move (move_go rfl (Host.inspect_root root)) ?_
  refine read_of_move (move_go rfl (Host.list_root listed)) ?_
  refine read_of_move (move_go rfl (Host.inspect_of_root root plain short opens.here)) ?_
  refine read_of_move (move_go rfl removed) ?_
  refine read_of_move (move_go rfl flatCleared.makeDirectory) ?_
  refine read_of_move (move_go rfl inspected) ?_
  refine read_of_move (move_go rfl madeSecond) ?_
  refine read_of_move (move_part rfl appended) ?_
  refine read_of_move (move_go rfl moved) ?_
  exact flatLast.read isPlainName_firstFile (by decide) (Function.update_self ..)

/-- A cache file that is a link to another. -/
def linkedHost : Host where
  files := FileSystem.empty.put ["a.cache"] (.link "b.cache")

/-- A store to the other cache file. -/
def storeBehindLink : List (Move Unit) :=
  [.go () "", .go () "", .go () ".t.cache", .go () ""]

/-- What is stored to one cache file is read from the link to it as well. -/
theorem read_after_link :
    (((start ⟨.root, []⟩ linkedHost fun _ => .store {} "b.cache").after
      storeBehindLink).host.perform (.read ⟨.root, ["a.cache"]⟩)).1 = .ok [] := by
  have short : FileSystem.isLongName ".t.cache" = false := by decide
  have plain := isPlainName_temporaryFile
  have rootFirst : linkedHost.files.node? [] = some (.directory 0) := rfl
  obtain ⟨made, madeNow, _, opens⟩ := Host.createNamed_of_root rootFirst plain short rfl
  obtain ⟨_, root⟩ := opens.root rootFirst
  have vacant : made.files.node? ["b.cache"] = none := (opens.others _ (by decide)).2.2 rfl
  obtain ⟨_, last, moved, taken, put⟩ :=
    Host.rename_of_root root plain short opens.here isPlainName_secondFile (by decide)
      (by simp [vacant])
  obtain ⟨_, rootTaken⟩ := taken.root root
  obtain ⟨_, rootLast⟩ := put.root rootTaken
  have link : last.files.node? ["a.cache"] = some (.link "b.cache") :=
    (put.others _ (by decide)).1.link_iff.1 ((taken.others _ (by decide)).1.link_iff.1
      ((opens.others _ (by decide)).1.link_iff.1 rfl))
  refine read_of_move (move_go rfl (Host.makeDirectory_root rootFirst)) ?_
  refine read_of_move (move_go rfl (Host.inspect_root rootFirst)) ?_
  refine read_of_move (move_go rfl madeNow) ?_
  refine read_of_move (move_go rfl moved) ?_
  exact Host.read_link_of_root rootLast isPlainName_firstFile (by decide) link (by decide)
    (by decide) isPlainName_secondFile (by decide) put.here

/-- A cache file that keeps the log. -/
def loggedHost : Host where
  files := FileSystem.empty.put ["a.cache"] (.file [] 0)
  logFile := some ["a.cache"]

/-- What is reported when a cache file cannot be loaded. -/
def missingReport : Entry where
  level := .info
  text := "Ignoring unreadable cache " ++ (Path.child ⟨.root, []⟩ "b.cache").text ++ ": " ++
    Fault.brief (.system Fault.notFound)

/-- What is reported of another cache file is read from the one that keeps the log. -/
theorem read_after_report :
    (((start ⟨.root, []⟩ loggedHost fun _ => .load "b.cache").after
      [.go () "", .go () ""]).host.perform (.read ⟨.root, ["a.cache"]⟩)).1 =
        .ok (bytesOf missingReport.fileText) := by
  have root : loggedHost.files.node? [] = some (.directory 0) := rfl
  have rootLater : (loggedHost.report missingReport).files.node? [] = some (.directory 0) := rfl
  have missed := Host.read_vacant_of_root root isPlainName_secondFile (by decide) rfl
  have kept : (loggedHost.report missingReport).files.node? ["a.cache"] =
      some (.file (bytesOf missingReport.fileText) loggedHost.clock) := rfl
  refine read_of_move (move_go rfl missed) ?_
  refine read_of_move (move_go rfl rfl) ?_
  exact (Host.ends_of_root rootLater isPlainName_firstFile (by decide)).read kept

/-- Links, the log and temporary names that are used again are what the assumptions exclude. -/
theorem reads_are_not_whole :
    ReadsOther ⟨.root, []⟩ linkedHost (fun _ : Unit => .store {} "b.cache") storeBehindLink
      "a.cache" ∧
    ReadsOther ⟨.root, []⟩ loggedHost (fun _ : Unit => .load "b.cache") [.go () "", .go () ""]
      "a.cache" ∧
    ReadsOther ⟨.root, []⟩ {} racing race "a.cache" := by
  have below : Path.child ⟨.root, []⟩ "a.cache" = ⟨.root, ["a.cache"]⟩ :=
    Path.child_of_oneName ⟨.root, []⟩ isPlainName_firstFile.toIsOneName
  have empty : contentOf {} = [] := contentOf_eq {}
  refine ⟨?_, ?_, ?_⟩
  · have root : linkedHost.files.node? [] = some (.directory 0) := rfl
    have missing := Host.read_dangling_of_root root isPlainName_firstFile (by decide) rfl
      (by decide) (by decide) isPlainName_secondFile (by decide) rfl
    refine ⟨[], ?_, ?_, fun _ index same => ?_⟩
    · rw [below]
      exact read_after_link
    · rw [below, missing]
      intro same
      cases same
    · obtain ⟨_, other⟩ := Task.store.inj same
      exact absurd other (by decide)
  · have root : loggedHost.files.node? [] = some (.directory 0) := rfl
    have reads := (Host.ends_of_root root isPlainName_firstFile (by decide)).read rfl
    refine ⟨bytesOf missingReport.fileText, ?_, ?_, fun _ index same => ?_⟩
    · rw [below]
      exact read_after_report
    · rw [below, Host.perform, reads]
      intro same
      have line : ∃ front, missingReport.fileText = front ++ "\n" := ⟨_, rfl⟩
      obtain ⟨front, line⟩ := line
      rw [line, bytesOf_append] at same
      have last := (List.append_eq_nil_iff.1 (Except.ok.inj same).symm).2
      exact absurd last (by decide)
    · cases same
  · have root : ({} : Host).files.node? [] = some (.directory 0) := rfl
    have missing := Host.read_vacant_of_root root isPlainName_firstFile (by decide) (vacant_empty _)
    refine ⟨[120], ?_, ?_, fun i index same => ?_⟩
    · rw [below]
      exact read_after_race
    · rw [below, missing]
      intro same
      cases same
    · have first : index = {} := by
        cases i with
        | first => exact (Task.store.inj same).1.symm
        | clearing => cases same
        | second => exact absurd (Task.store.inj same).2 (by decide)
      rw [first, empty]
      exact List.cons_ne_nil _ _

end AnnotatedMake.IndexCache.Pool
