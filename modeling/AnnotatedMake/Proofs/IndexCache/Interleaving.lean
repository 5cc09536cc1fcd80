/-
This file shows what tasks that share a directory of cache files leave there in any order.
`Sound` is the invariant: each move keeps it, so every run does.
-/

import AnnotatedMake.Proofs.IndexCache.Clearing
import AnnotatedMake.Proofs.IndexCache.Pool

namespace AnnotatedMake

namespace IndexCache

variable {ι : Type} {directory path : Path} {home work : Location} {tasks : ι → Task} {first : Host}
  {pool : Pool ι} {phases : ι → Phase}

/-- A name of a cache file: it ends like one, or something is stored under it. -/
def IsCacheName (tasks : ι → Task) (name : String) : Prop :=
  endsText cacheEnding name = true ∨ ∃ i content, (tasks i).Writes name content

/-- What is read under a name was there at first, or is the whole content of a store to it. -/
def HasWhole (tasks : ι → Task) (home : Location) (first host : Host) (name : String) : Prop :=
  ∀ content changed,
    (host.files.node? (home ++ [name])).bind Node.reading? = some (content, changed) →
    (∃ time, (first.files.node? (home ++ [name])).bind Node.reading? = some (content, time)) ∨
      ∃ i, (tasks i).Writes name content

/-- A name that the temporary file of a store can have. -/
structure IsTemporary (directory : Path) (work : Location) (tasks : ι → Task) (first : Host) (i : ι)
    (name : String) : Prop where
  ending : endsText cacheEnding name = true
  noSlash : '/' ∉ name.toList
  unwritten : ∀ j content, ¬ (tasks j).Writes name content
  aside : ∀ count, first.leads? (directory.upTo count) ≠ some (work ++ [name])
  writes : ∃ goal content, (tasks i).Writes goal content

/-- The directory and the file that a task knows of are there unless cleared away. -/
def Phase.Stands (directory : Path) (work : Location) (host : Host) (temporary : Option String) :
    Phase → Prop
  | .fresh found => temporary = none ∧ (found → host.IsPaved directory)
  | .filling path held => ∃ name content, temporary = some name ∧ host.Ends path work name ∧
      host.MayHold (work ++ [name]) content ∧ ∀ known, held = some known → content = known
  | .settled => True

/-- A task fills the file of a name. -/
def Phase.Fills (phase : Phase) (temporary : Option String) (name : String) : Prop :=
  ¬ phase.IsRest ∧ temporary = some name

theorem mayHold_of_remains {host after : Host} {place : Location} {content : Bytes}
    (held : host.MayHold place content)
    (remains : Remains (host.files.node? place) (after.files.node? place)) :
    after.MayHold place content := by
  rcases held with gone | ⟨time, present⟩
  · rw [gone] at remains
    exact .inl remains.of_none
  · rw [present] at remains
    rcases remains.of_file with gone | same
    · exact .inl gone
    · exact .inr ⟨time, same⟩

theorem Phase.Stands.of_remains {host after : Host} {changed : Location → Prop}
    {temporary : Option String} {phase : Phase}
    (stands : phase.Stands directory work host temporary)
    (leaves : Host.Leaves directory changed host after)
    (remains : ∀ name, phase.Fills temporary name →
      Remains (host.files.node? (work ++ [name])) (after.files.node? (work ++ [name]))) :
    phase.Stands directory work after temporary := by
  cases phase with
  | fresh found => exact ⟨stands.1, fun known => leaves.isPaved (stands.2 known)⟩
  | settled => exact trivial
  | filling path held =>
      obtain ⟨name, content, same, ends, holds, known⟩ := stands
      exact ⟨name, content, same, leaves.ends ends,
        mayHold_of_remains holds (remains name ⟨not_false, same⟩), known⟩

/-- A task is in a phase, with what it has left to do and the name of its temporary file. -/
structure Job.IsIn (directory : Path) (work : Location) (tasks : ι → Task) (first host : Host)
    (i : ι) (job : Job) (phase : Phase) : Prop where
  task : job.task = tasks i
  follows : Follows directory (tasks i).Writes (fun _ later => later.IsRest) phase job.program
  stands : phase.Stands directory work host job.temporary
  named : ∀ name, job.temporary = some name → IsTemporary directory work tasks first i name

variable [Platform]

/-- What looks at the host may report to its log. -/
theorem leaves_look {request : Call} (look : Program.IsLook request) (host : Host) (name : String) :
    Host.Leaves directory (fun _ => False) host (host.performAs name request).2 := by
  cases request with
  | report entry => exact Host.leaves_report directory host entry
  | read | inspect | list | resolve | currentDirectory | environment => exact .refl directory host
  | _ => exact look.elim

/-- The state of tasks that share a directory, with the phases that they are in. -/
structure Sound (directory : Path) (home work : Location) (tasks : ι → Task) (first : Host)
    (clean : Prop) (pool : Pool ι) (phases : ι → Phase) : Prop where
  site : Host.IsSite directory home work (IsCacheName tasks) pool.host
  ways : ∀ path, pool.host.leads? path = first.leads? path
  jobs : ∀ i, (pool.jobs i).IsIn directory work tasks first pool.host i (phases i)
  apart : ∀ i j name, (phases i).Fills (pool.jobs i).temporary name →
    (phases j).Fills (pool.jobs j).temporary name → i = j
  gone : clean → ∀ i name, (pool.jobs i).temporary = some name →
    (∀ j, ¬ (phases j).Fills (pool.jobs j).temporary name) →
      pool.host.files.node? (work ++ [name]) = none
  whole : ∀ name, IsCacheName tasks name → (∀ i, (pool.jobs i).temporary ≠ some name) →
    HasWhole tasks home first pool.host name

namespace Sound

variable [DecidableEq ι] {clean : Prop} {i : ι} {after : Host} {changed : Location → Prop}
  {program : Program Unit} {temporary : Option String} {phase : Phase} {name : String}

omit [DecidableEq ι] in
omit [Platform] in
theorem weaken (sound : Sound directory home work tasks first clean pool phases) {cleaner : Prop}
    (fewer : cleaner → clean) : Sound directory home work tasks first cleaner pool phases :=
  { sound with gone := fun cleanly => sound.gone (fewer cleanly) }

omit [DecidableEq ι] in
omit [Platform] in
/-- A task that fills a file has not ended. -/
theorem hasEnded_of_fills (sound : Sound directory home work tasks first clean pool phases)
    (fills : (phases i).Fills (pool.jobs i).temporary name) :
    (pool.jobs i).hasEnded = false := by
  have follows := (sound.jobs i).follows
  rw [Job.hasEnded]
  cases program : (pool.jobs i).program with
  | call request next => rfl
  | done result | fail fault =>
      rw [program] at follows
      exact absurd follows fills.1

omit [DecidableEq ι] in
omit [Platform] in
/-- A file that a task has made stays or is gone when it is not changed. -/
theorem remains (sound : Sound directory home work tasks first clean pool phases)
    (leaves : Host.Leaves directory changed pool.host after)
    (given : IsTemporary directory work tasks first i name) (spared : ¬ changed (work ++ [name])) :
    Remains (pool.host.files.node? (work ++ [name])) (after.files.node? (work ++ [name])) := by
  refine leaves.entries _ (sound.site.unlogged name (.inl given.ending)).2 spared fun count => ?_
  rw [sound.ways]
  exact given.aside count

section Advance

variable {j : ι}

omit [Platform] in
theorem fills_advance_self :
    (Function.update phases i phase i).Fills
        ((pool.advance i after program temporary).jobs i).temporary name ↔
      phase.Fills temporary name := by
  rw [Pool.jobs_advance_self, Function.update_self]

omit [Platform] in
theorem fills_advance_of_ne (other : j ≠ i) :
    (Function.update phases i phase j).Fills
        ((pool.advance i after program temporary).jobs j).temporary name ↔
      (phases j).Fills (pool.jobs j).temporary name := by
  rw [Pool.jobs_advance_of_ne other, Function.update_of_ne other]

variable (sound : Sound directory home work tasks first clean pool phases)
include sound

omit [Platform] in
/-- The tasks still fill files of their own when the one that goes on fills none of the others'. -/
theorem apart_advance (apart : ∀ name, phase.Fills temporary name →
      ∀ j, j ≠ i → ¬ (phases j).Fills (pool.jobs j).temporary name) (j k : ι) (name : String)
    (fills : (Function.update phases i phase j).Fills
      ((pool.advance i after program temporary).jobs j).temporary name)
    (others : (Function.update phases i phase k).Fills
      ((pool.advance i after program temporary).jobs k).temporary name) : j = k := by
  by_cases hereJ : j = i <;> by_cases hereK : k = i
  · exact hereJ.trans hereK.symm
  · subst hereJ
    exact absurd ((fills_advance_of_ne hereK).1 others)
      (apart name (fills_advance_self.1 fills) k hereK)
  · subst hereK
    exact absurd ((fills_advance_of_ne hereJ).1 fills)
      (apart name (fills_advance_self.1 others) j hereJ)
  · exact sound.apart j k name ((fills_advance_of_ne hereJ).1 fills)
      ((fills_advance_of_ne hereK).1 others)

variable (leaves : Host.Leaves directory changed pool.host after)
  (changes : ∀ place, changed place →
    (∃ name, place = work ++ [name] ∧ phase.Fills temporary name) ∨
    ∃ name j content, place = home ++ [name] ∧ (tasks j).Writes name content ∧
      HasWhole tasks home first after name)
include leaves changes

omit [DecidableEq ι] in
omit [Platform] in
/-- A file that a task has made stays or is gone, unless the one that goes on fills it. -/
theorem remains_unfilled (given : IsTemporary directory work tasks first j name)
    (unfilled : ¬ phase.Fills temporary name) :
    Remains (pool.host.files.node? (work ++ [name])) (after.files.node? (work ++ [name])) := by
  refine sound.remains leaves given fun was => ?_
  rcases changes _ was with ⟨other, same, fills⟩ | ⟨other, k, content, same, writes, _⟩
  · rw [← last_eq_of_concat_eq same] at fills
    exact unfilled fills
  · rw [← last_eq_of_concat_eq same] at writes
    exact given.unwritten k content writes

variable (kept : ∀ name, (pool.jobs i).temporary = some name → temporary = some name)
include kept

omit [Platform] in
/-- A file that was made and that no task fills is gone. -/
theorem gone_advance (cleanly : clean)
    (made : ∀ name, temporary = some name →
      (pool.jobs i).temporary = some name ∨ phase.Fills temporary name)
    (gone : ∀ name, phase.IsRest → (phases i).Fills (pool.jobs i).temporary name →
      after.files.node? (work ++ [name]) = none)
    (named : IsTemporary directory work tasks first j name)
    (given : ((pool.advance i after program temporary).jobs j).temporary = some name)
    (unfilled : ∀ k, ¬ (Function.update phases i phase k).Fills
      ((pool.advance i after program temporary).jobs k).temporary name) :
    after.files.node? (work ++ [name]) = none := by
  have unfilledHere : ¬ phase.Fills temporary name :=
    fun fills => unfilled i (fills_advance_self.2 fills)
  by_cases filled : (phases i).Fills (pool.jobs i).temporary name
  · exact gone name (by_contra fun busy => unfilledHere ⟨busy, kept name filled.2⟩) filled
  · have had : ∃ k, (pool.jobs k).temporary = some name := by
      by_cases here : j = i
      · subst here
        rw [Pool.jobs_advance_self] at given
        exact ⟨j, (made name given).resolve_right unfilledHere⟩
      · rw [Pool.jobs_advance_of_ne here] at given
        exact ⟨j, given⟩
    obtain ⟨k, given'⟩ := had
    have before := sound.gone cleanly k name given' fun other fills => by
      by_cases here : other = i
      · exact filled (here ▸ fills)
      · exact unfilled other ((fills_advance_of_ne here).2 fills)
    exact (before ▸ sound.remains_unfilled leaves changes named unfilledHere).of_none

omit [Platform] in
/-- What is read under a name that no task has for its temporary file is still whole. -/
theorem whole_advance (entry : IsCacheName tasks name)
    (notGiven : ∀ k, ((pool.advance i after program temporary).jobs k).temporary ≠ some name) :
    HasWhole tasks home first after name := by
  intro content time read
  by_cases was : changed (home ++ [name])
  · rcases changes _ was with ⟨other, same, fills⟩ | ⟨other, k, _, same, _, whole⟩
    · rw [← last_eq_of_concat_eq same] at fills
      refine absurd fills.2 ?_
      have here := notGiven i
      rwa [Pool.jobs_advance_self] at here
    · rw [← last_eq_of_concat_eq same] at whole
      exact whole content time read
  · refine sound.whole name entry (fun k given => ?_) content time
      (leaves.reading _ _ (sound.site.unlogged name entry).1 was read)
    have there := notGiven k
    by_cases same : k = i
    · subst same
      rw [Pool.jobs_advance_self] at there
      exact there (kept name given)
    · rw [Pool.jobs_advance_of_ne same] at there
      exact there given

omit [Platform] in
/-- A task that goes on changes its own file or installs the whole content of a store. -/
theorem advance
    (follows : Follows directory (tasks i).Writes (fun _ later => later.IsRest) phase program)
    (stands : phase.Stands directory work after temporary)
    (named : ∀ name, temporary = some name → IsTemporary directory work tasks first i name)
    (made : ∀ name, temporary = some name →
      (pool.jobs i).temporary = some name ∨ phase.Fills temporary name)
    (apart : ∀ name, phase.Fills temporary name →
      ∀ j, j ≠ i → ¬ (phases j).Fills (pool.jobs j).temporary name)
    (gone : clean → ∀ name, phase.IsRest → (phases i).Fills (pool.jobs i).temporary name →
      after.files.node? (work ++ [name]) = none) :
    Sound directory home work tasks first clean (pool.advance i after program temporary)
      (Function.update phases i phase) := by
  have jobs : ∀ j, ((pool.advance i after program temporary).jobs j).IsIn directory work tasks first
      after j (Function.update phases i phase j) :=
    Pool.forall_advance (motive := fun j job phase => job.IsIn directory work tasks first after j
      phase) phases ⟨(sound.jobs i).task, follows, stands, named⟩ fun j other =>
      { sound.jobs j with
        stands := (sound.jobs j).stands.of_remains leaves fun name fills =>
          sound.remains_unfilled leaves changes ((sound.jobs j).named name fills.2) fun fills' =>
            apart name fills' j other fills }
  exact
    { site := sound.site.of_leaves leaves
      ways := fun path => (leaves.leads? path).trans (sound.ways path)
      jobs
      apart := sound.apart_advance apart
      gone := fun cleanly j name given => sound.gone_advance leaves changes kept cleanly made
        (gone cleanly) ((jobs j).named name given) given
      whole := fun name entry => sound.whole_advance leaves changes kept entry }

end Advance

omit [Platform] in
/-- A task that fills a file goes on to do so, and one that does not changes nothing. -/
theorem keep (sound : Sound directory home work tasks first clean pool phases)
    (leaves : Host.Leaves directory changed pool.host after)
    (follows : Follows directory (tasks i).Writes (fun _ later => later.IsRest) phase program)
    (stands : phase.Stands directory work after (pool.jobs i).temporary)
    (same : phase.IsRest ↔ (phases i).IsRest)
    (changes : ∀ place, changed place →
      ∃ name, place = work ++ [name] ∧ (phases i).Fills (pool.jobs i).temporary name) :
    Sound directory home work tasks first clean
      (pool.advance i after program (pool.jobs i).temporary)
      (Function.update phases i phase) := by
  have fills_iff (name : String) : phase.Fills (pool.jobs i).temporary name ↔
      (phases i).Fills (pool.jobs i).temporary name := by
    rw [Phase.Fills, Phase.Fills, same]
  refine sound.advance leaves (fun place was => ?_) (fun _ => id) follows stands
    (sound.jobs i).named (fun _ => .inl) (fun name fills j other busy => ?_)
    fun _ name rest fills => absurd (same.1 rest) fills.1
  · obtain ⟨name, here, fills⟩ := changes place was
    exact .inl ⟨name, here, (fills_iff name).2 fills⟩
  · exact other (sound.apart j i name busy ((fills_iff name).1 fills))

omit [DecidableEq ι] in
omit [Platform] in
/-- What a task has found stays there. -/
theorem paved (sound : Sound directory home work tasks first clean pool phases)
    (leaves : Host.Leaves directory changed pool.host after) {found : Prop}
    (fresh : phases i = .fresh found) (known : found) : after.IsPaved directory := by
  have stands := (sound.jobs i).stands
  rw [fresh] at stands
  exact leaves.isPaved (stands.2 known)

omit [DecidableEq ι] in
/-- What a task finds by a look is there. -/
theorem finds_look (sound : Sound directory home work tasks first clean pool phases)
    {request : Call} (look : Program.IsLook request)
    (leaves : Host.Leaves directory (fun _ => False) pool.host
      (pool.host.performAs name request).2) {found : Prop}
    (finds : (phases i).next directory request (pool.host.performAs name request).1 = .fresh found)
    (known : found) : (pool.host.performAs name request).2.IsPaved directory := by
  have grows : (phases i).Grows (.fresh found) := finds ▸ next_of_isLook look _
  obtain ⟨before, phase⟩ := grows.fresh_right
  have already : before → (pool.host.performAs name request).2.IsPaved directory :=
    sound.paved leaves phase
  rw [phase] at finds
  cases request with
  | inspect path =>
      change Phase.next directory _ (.inspect path)
        ((pool.host.query path (.ok (.directory 0)) pool.host.files.nodeAt).map
          Host.statusOf) = _ at finds
      cases seen : pool.host.query path (.ok (.directory 0)) pool.host.files.nodeAt with
      | error fault =>
          rw [seen] at finds
          cases finds
          exact already known
      | ok node =>
          rw [seen] at finds
          cases finds
          rcases known with before | ⟨rfl, isDirectory⟩
          · exact already before
          · cases node with
            | directory time => exact Host.isPaved_of_nodeAt seen
            | file | link | sink => cases isDirectory
  | read | list | resolve | currentDirectory | environment | report =>
      cases finds
      exact already known
  | _ => exact look.elim

omit [Platform] in
/-- A task changes nothing, but may find the directory. -/
theorem quietly (sound : Sound directory home work tasks first clean pool phases)
    (leaves : Host.Leaves directory (fun _ => False) pool.host after)
    (follows : Follows directory (tasks i).Writes (fun _ later => later.IsRest) phase program)
    (grows : (phases i).Grows phase)
    (finds : ∀ found, phase = .fresh found → found → after.IsPaved directory) :
    Sound directory home work tasks first clean
      (pool.advance i after program (pool.jobs i).temporary)
      (Function.update phases i phase) := by
  have stands := (sound.jobs i).stands.of_remains leaves fun name fills =>
    sound.remains leaves ((sound.jobs i).named name fills.2) not_false
  have still : phase.Stands directory work after (pool.jobs i).temporary := by
    generalize phases i = before at grows stands
    cases grows with
    | same => exact stands
    | @fresh _ found => exact ⟨stands.1, finds found rfl⟩
  exact sound.keep leaves follows still grows.isRest_iff fun _ => False.elim

omit [Platform] in
/-- A task that changes nothing and finds nothing stays in its phase. -/
theorem stay (sound : Sound directory home work tasks first clean pool phases)
    (leaves : Host.Leaves directory (fun _ => False) pool.host after)
    (follows : Follows directory (tasks i).Writes (fun _ later => later.IsRest) (phases i)
      program) :
    Sound directory home work tasks first clean
      (pool.advance i after program (pool.jobs i).temporary)
      phases := by
  have kept := sound.quietly leaves follows (.same _) fun _ => sound.paved leaves
  rwa [Function.update_eq_self] at kept

omit [Platform] in
/-- What a task does not fill any more is gone. -/
theorem leave (sound : Sound directory home work tasks first clean pool phases)
    (leaves : Host.Leaves directory changed pool.host after)
    (follows : Follows directory (tasks i).Writes (fun _ later => later.IsRest) .settled program)
    (gone : clean → ∀ name, (phases i).Fills (pool.jobs i).temporary name →
      after.files.node? (work ++ [name]) = none)
    (changes : ∀ place, changed place → ∃ name j content, place = home ++ [name] ∧
      (tasks j).Writes name content ∧ HasWhole tasks home first after name) :
    Sound directory home work tasks first clean
      (pool.advance i after program (pool.jobs i).temporary)
      (Function.update phases i .settled) :=
  sound.advance leaves (fun place was => .inr (changes place was)) (fun _ => id) follows trivial
    (sound.jobs i).named (fun _ => .inl) (fun _ fills => absurd trivial fills.1)
    fun cleanly name _ => gone cleanly name

section Filling

variable {held : Option Bytes} (filling : phases i = .filling path held)
include filling

omit [DecidableEq ι] in
omit [Platform] in
/-- The file that a task fills is there, or was cleared away. -/
theorem holds (sound : Sound directory home work tasks first clean pool phases) :
    ∃ name content, (phases i).Fills (pool.jobs i).temporary name ∧
      pool.host.Ends path work name ∧ pool.host.MayHold (work ++ [name]) content ∧
      (∀ known, held = some known → content = known) ∧
      IsTemporary directory work tasks first i name := by
  have stands := (sound.jobs i).stands
  rw [filling] at stands ⊢
  obtain ⟨name, content, same, ends, holds, known⟩ := stands
  exact ⟨name, content, ⟨id, same⟩, ends, holds, known, (sound.jobs i).named name same⟩

/-- A task adds to the file that it fills. -/
theorem append (sound : Sound directory home work tasks first clean pool phases) (more : Bytes)
    (follows : Follows directory (tasks i).Writes (fun _ later => later.IsRest)
      (.filling path (held.map (· ++ more))) program) :
    Sound directory home work tasks first clean
      (pool.advance i (pool.host.append path more).2 program (pool.jobs i).temporary)
      (Function.update phases i (.filling path (held.map (· ++ more)))) := by
  obtain ⟨name, content, fills, ends, holds, known, temporary⟩ := sound.holds filling
  obtain ⟨after, appended, leaves, stillHolds⟩ :=
    holds.append ends temporary.noSlash directory more
  have stillKnown (all : Bytes) (same : held.map (· ++ more) = some all) :
      content ++ more = all := by
    obtain ⟨before, isHeld, rfl⟩ := Option.map_eq_some_iff.1 same
    rw [known before isHeld]
  rw [appended]
  exact sound.keep leaves follows
    ⟨name, _, fills.2, leaves.ends ends, stillHolds, stillKnown⟩ (by rw [filling]; exact Iff.rfl)
    fun place here => ⟨name, here, fills⟩

omit [Platform] in
/-- A task fails to add to the file that it fills. -/
theorem lose (sound : Sound directory home work tasks first clean pool phases)
    (follows : Follows directory (tasks i).Writes (fun _ later => later.IsRest)
      (.filling path none) program) :
    Sound directory home work tasks first clean
      (pool.advance i pool.host program (pool.jobs i).temporary)
      (Function.update phases i (.filling path none)) := by
  obtain ⟨name, content, fills, ends, holds, _⟩ := sound.holds filling
  exact sound.keep (.refl directory pool.host) follows
    ⟨name, content, fills.2, ends, holds, by simp⟩ (by rw [filling]; exact Iff.rfl)
    fun _ => False.elim

/-- A task discards the file that it fills. -/
theorem discard (sound : Sound directory home work tasks first clean pool phases)
    (follows : Follows directory (tasks i).Writes (fun _ later => later.IsRest) .settled program) :
    Sound directory home work tasks first clean
      (pool.advance i (pool.host.perform (.remove path)).2 program (pool.jobs i).temporary)
      (Function.update phases i .settled) := by
  obtain ⟨name, content, fills, ends, holds, _, temporary⟩ := sound.holds filling
  obtain ⟨reply, after, removed, gone, leaves⟩ :=
    holds.remove ends temporary.noSlash directory
  have ran : pool.host.perform (.remove path) = (reply, after) := by
    rw [← removed, Program.run_remove]
    rfl
  rw [ran]
  refine sound.leave leaves follows (fun _ other fills' => ?_) fun _ => False.elim
  obtain rfl := Option.some.inj (fills.2.symm.trans fills'.2)
  exact gone

/-- A task moves the file that it fills onto a cache file, which gets the whole content. -/
theorem rename (sound : Sound directory home work tasks first clean pool phases) {goal : String}
    {content : Bytes} (whole : held = some content) (writes : (tasks i).Writes goal content)
    (plain : IsPlainName goal) :
    (∃ fault, pool.host.perform (.rename path (directory.child goal)) =
      (.error fault, pool.host)) ∨
    ∃ after, pool.host.perform (.rename path (directory.child goal)) = (.ok (), after) ∧
      ∀ program, Follows directory (tasks i).Writes (fun _ later => later.IsRest) .settled program →
        Sound directory home work tasks first clean
          (pool.advance i after program (pool.jobs i).temporary)
          (Function.update phases i .settled) := by
  obtain ⟨name, _, fills, ends, holds, known, temporary⟩ := sound.holds filling
  obtain rfl := known content whole
  have differs : name ≠ goal := by
    rintro rfl
    exact temporary.unwritten i _ writes
  have ran : pool.host.perform (.rename path (directory.child goal)) =
      (Program.rename path (directory.child goal)).run pool.host := (Program.run_rename ..).symm
  rw [ran]
  rcases holds.rename ends temporary.noSlash sound.site plain (.inr ⟨i, _, writes⟩) differs with
    refused | ⟨after, moved, gone, ⟨time, present⟩, leaves⟩
  · exact .inl refused
  · refine .inr ⟨after, moved, fun program follows => ?_⟩
    refine sound.leave leaves follows (fun _ other fills' => ?_) ?_
    · obtain rfl := Option.some.inj (fills.2.symm.trans fills'.2)
      exact gone
    · rintro _ rfl
      refine ⟨goal, i, _, rfl, writes, fun content time read => ?_⟩
      rw [present] at read
      obtain ⟨rfl, _⟩ := Prod.mk.inj (Option.some.inj read)
      exact .inr ⟨i, writes⟩

end Filling

omit [Platform] in
/-- A task makes its temporary file, under a name that it may get. -/
theorem create {found : Prop} (sound : Sound directory home work tasks first clean pool phases)
    (fresh : phases i = .fresh found) (known : found) (may : pool.MayName i name)
    (writes : ∃ goal content, (tasks i).Writes goal content)
    (made : pool.host.createNamed directory name = (.ok path, after))
    (follows : Follows directory (tasks i).Writes (fun _ later => later.IsRest)
      (.filling path (some [])) program) :
    Sound directory home work tasks first clean (pool.advance i after program (some name))
      (Function.update phases i (.filling path (some []))) := by
  have stands := (sound.jobs i).stands
  rw [fresh] at stands
  obtain ⟨none, paved⟩ := stands
  obtain ⟨vacant, ends, present, leaves⟩ := sound.site.createNamed may.plain may.short made
  have temporary : IsTemporary directory work tasks first i name := by
    refine ⟨may.ending, may.plain.noSlash, fun j content => ?_, fun count leads => ?_, writes⟩
    · rw [← (sound.jobs j).task]
      exact may.unwritten j content
    · -- On the way to the directory no name is vacant.
      rw [← sound.ways] at leads
      obtain ⟨_, isDirectory⟩ := paved known count _ leads
      rw [vacant] at isDirectory
      cases isDirectory
  refine sound.advance leaves (fun place here => .inl ⟨name, here, id, rfl⟩) ?_ follows
    ⟨name, [], rfl, ends, .inr ⟨_, present⟩, fun _ same => Option.some.inj same⟩ ?_
    (fun other given => .inr ⟨id, given⟩) ?_ fun _ _ rest => rest.elim
  · intro other given
    exact absurd (none.symm.trans given) (by simp)
  · rintro _ ⟨⟩
    exact temporary
  · rintro _ ⟨_, ⟨⟩⟩ j differs fills
    exact may.alone j differs (sound.hasEnded_of_fills fills) fills.2

omit [DecidableEq ι] in
theorem likely (sound : Sound directory home work tasks first clean pool phases) (request : Call)
    (name : String) : IsLikely directory request (pool.host.performAs name request).1 := by
  cases request with
  | list path =>
      change IsLikely directory (.list path) (pool.host.query path (.ok []) pool.host.files.list)
      cases listed : pool.host.query path (.ok []) pool.host.files.list with
      | error fault => trivial
      | ok names =>
          rintro rfl entry member ending
          obtain ⟨other, leads, present⟩ := stands_of_list listed entry member
          obtain rfl := Option.some.inj (sound.site.leads.symm.trans leads)
          exact sound.site.noSlash entry (.inl ending) present
  | _ => trivial

section Go

variable (sound : Sound directory home work tasks first clean pool phases)
include sound

section Call

variable {request : Call} {next : request.Reply → Program Unit}
  (asked : (pool.jobs i).program = .call request next)
include asked

omit [DecidableEq ι] in
omit [Platform] in
/-- What the task does next is allowed in its phase. -/
theorem call : (phases i).Admits directory (tasks i).Writes request ∧
    ∀ reply, IsLikely directory request reply → Follows directory (tasks i).Writes
      (fun _ later => later.IsRest) ((phases i).next directory request reply) (next reply) := by
  have follows := (sound.jobs i).follows
  rwa [asked] at follows

/-- A task makes a call that changes nothing and lets it find the directory at most. -/
theorem go_quietly {reply : request.Reply}
    (ran : pool.host.performAs name request = (reply, after))
    (leaves : Host.Leaves directory (fun _ => False) pool.host after)
    (given : temporaryAfter name (pool.jobs i).temporary request reply = (pool.jobs i).temporary)
    (grows : (phases i).Grows ((phases i).next directory request reply))
    (finds : ∀ found, (phases i).next directory request reply = .fresh found → found →
      after.IsPaved directory) :
    ∃ phases, Sound directory home work tasks first clean (pool.move (.go i name)) phases := by
  have likely := sound.likely request name
  rw [ran] at likely
  rw [Pool.move_go asked ran, given]
  exact ⟨_, sound.quietly leaves ((sound.call asked).2 reply likely) grows finds⟩

/-- A task makes a call that changes nothing and lets it find nothing. -/
theorem go_stay {reply : request.Reply}
    (ran : pool.host.performAs name request = (reply, after))
    (leaves : Host.Leaves directory (fun _ => False) pool.host after)
    (given : temporaryAfter name (pool.jobs i).temporary request reply = (pool.jobs i).temporary)
    (stays : (phases i).next directory request reply = phases i) :
    ∃ phases, Sound directory home work tasks first clean (pool.move (.go i name)) phases :=
  sound.go_quietly asked ran leaves given (by rw [stays]; exact .same _) fun _ same =>
    sound.paved leaves (stays.symm.trans same)

/-- A task looks at the host. -/
theorem go_look (look : Program.IsLook request) :
    ∃ phases, Sound directory home work tasks first clean (pool.move (.go i name)) phases := by
  have leaves : Host.Leaves directory (fun _ => False) pool.host
      (pool.host.performAs name request).2 := leaves_look look pool.host name
  have given : temporaryAfter name (pool.jobs i).temporary request
      (pool.host.performAs name request).1 = (pool.jobs i).temporary := by
    cases request <;> first | rfl | exact look.elim
  exact sound.go_quietly asked rfl leaves given (next_of_isLook look _) fun _ =>
    sound.finds_look look leaves

end Call

/-- A task that has no temporary file yet makes its next call. -/
theorem go_fresh {found : Prop} (fresh : phases i = .fresh found) {request : Call}
    {next : request.Reply → Program Unit} (asked : (pool.jobs i).program = .call request next)
    (notLook : ¬ Program.IsLook request) (allowed : pool.Allows (.go i name)) :
    ∃ phases, Sound directory home work tasks first clean (pool.move (.go i name)) phases := by
  obtain ⟨allows, later⟩ := sound.call asked
  rw [fresh] at allows later
  cases request with
  | makeDirectory path =>
      obtain ⟨count, rfl⟩ := allows
      have leaves := Host.leaves_makeDirectory sound.site.proper pool.host count
      cases made : (Program.makeDirectory (directory.upTo count)).run pool.host with
      | mk reply after =>
          rw [made] at leaves
          rw [Program.run_makeDirectory] at made
          cases reply with
          | error fault => exact sound.go_stay asked made leaves rfl (by rw [fresh]; rfl)
          | ok result =>
              refine sound.go_quietly asked made leaves rfl ?_ ?_
              · rw [fresh]
                exact .fresh .inl
              · rw [fresh]
                rintro _ ⟨⟩ (known | isWhole)
                · exact sound.paved leaves fresh known
                · rw [isWhole, ← Program.run_makeDirectory] at made
                  exact Host.isPaved_of_makeDirectory sound.site.proper made
  | remove path =>
      obtain ⟨entry, one, ending, rfl⟩ := allows
      have leaves := sound.site.leaves_remove one (.inl ending)
      rw [Program.run_remove] at leaves
      exact sound.go_stay asked rfl leaves rfl (by rw [fresh]; rfl)
  | createTemporary place ending =>
      obtain ⟨rfl, known, writes⟩ := allows
      cases made : pool.host.createNamed place name with
      | mk reply after =>
          cases reply with
          | error fault =>
              obtain rfl := Host.createNamed_of_error made
              exact sound.go_stay asked made (.refl place pool.host) rfl (by rw [fresh]; rfl)
          | ok path =>
              rw [Pool.move_go asked made]
              exact ⟨_, sound.create fresh known (allowed _ _ next asked) writes made
                (later (.ok path) trivial)⟩
  | _ => exact absurd allows notLook

/-- A task that fills its temporary file makes its next call. -/
theorem go_filling (stored : ∀ j goal content, (tasks j).Writes goal content → IsPlainName goal)
    {held : Option Bytes} (filling : phases i = .filling path held) {request : Call}
    {next : request.Reply → Program Unit} (asked : (pool.jobs i).program = .call request next)
    (notLook : ¬ Program.IsLook request) :
    ∃ phases, Sound directory home work tasks first clean (pool.move (.go i name)) phases := by
  obtain ⟨allows, later⟩ := sound.call asked
  rw [filling] at allows later
  cases request with
  | append other more =>
      obtain rfl := allows
      obtain ⟨_, _, _, ends, holds, _, temporary⟩ := sound.holds filling
      obtain ⟨after, appended, _⟩ := holds.append ends temporary.noSlash directory more
      have added := sound.append filling more (later (.ok ()) trivial)
      rw [appended] at added
      rw [Pool.move_go asked appended]
      exact ⟨_, added⟩
  | remove other =>
      obtain rfl := allows
      rw [Pool.move_go asked rfl]
      exact ⟨_, sound.discard filling (later _ trivial)⟩
  | rename source goal =>
      obtain ⟨rfl, entry, content, whole, writes, rfl⟩ := allows
      rcases sound.rename filling whole writes (stored i entry content writes) with
        ⟨fault, refused⟩ | ⟨after, moved, further⟩
      · exact sound.go_stay asked refused (.refl directory pool.host) rfl (by rw [filling]; rfl)
      · rw [Pool.move_go asked moved]
        exact ⟨_, further _ (later (.ok ()) trivial)⟩
  | _ => exact absurd allows notLook

/-- A task makes its next call. -/
theorem go (stored : ∀ j goal content, (tasks j).Writes goal content → IsPlainName goal)
    (allowed : pool.Allows (.go i name)) :
    ∃ phases, Sound directory home work tasks first clean (pool.move (.go i name)) phases := by
  cases asked : (pool.jobs i).program with
  | done result | fail fault =>
      rw [Pool.move, asked]
      exact ⟨phases, sound⟩
  | call request next =>
      by_cases look : Program.IsLook request
      · exact sound.go_look asked look
      · cases phase : phases i with
        | fresh found => exact sound.go_fresh phase asked look allowed
        | filling path held => exact sound.go_filling stored phase asked look
        | settled =>
            have allows := (sound.call asked).1
            rw [phase] at allows
            exact absurd allows look

/-- A task writes some bytes of what it has to add. -/
theorem part (count : Nat) :
    ∃ phases, Sound directory home work tasks first clean (pool.move (.part i count)) phases := by
  rw [Pool.move]
  split
  · rename_i path content next asked
    obtain ⟨allows, later⟩ := sound.call asked
    cases phase : phases i with
    | filling own held =>
        rw [phase] at allows later
        obtain rfl := allows
        refine ⟨_, sound.append phase (content.take count) ⟨rfl, fun reply likely => ?_⟩⟩
        have next' := later reply trivial
        cases reply with
        | ok result =>
            have whole : (held.map (· ++ content.take count)).map (· ++ content.drop count) =
                held.map (· ++ content) := by
              simp only [Option.map_map, Function.comp_def, List.append_assoc,
                List.take_append_drop]
            rw [Phase.next, whole]
            exact next'
        | error fault => exact next'
    | fresh | settled =>
        rw [phase] at allows
        exact allows.elim
  · exact ⟨phases, sound⟩

/-- A task is refused its call. -/
theorem refuse {number : Nat} :
    ∃ phases, Sound directory home work tasks first (clean ∧ pool.Discards (.refuse i number))
      (pool.move (.refuse i number)) phases := by
  have weak := sound.weaken fun cleanly : clean ∧ pool.Discards (.refuse i number) => cleanly.1
  rw [Pool.move]
  cases asked : (pool.jobs i).program with
  | done result | fail fault => exact ⟨phases, weak⟩
  | call request next =>
      obtain ⟨allows, later⟩ := sound.call asked
      dsimp only
      cases told : request.refusal? number with
      | none => exact ⟨phases, weak⟩
      | some reply =>
          dsimp only
          have stays (same : (phases i).next directory request reply = phases i)
              (likely : IsLikely directory request reply) :
              ∃ phases, Sound directory home work tasks first
                (clean ∧ pool.Discards (.refuse i number))
                (pool.advance i pool.host (next reply) (pool.jobs i).temporary) phases :=
            ⟨phases, weak.stay (.refl directory pool.host) (same ▸ later reply likely)⟩
          cases request with
          | append path content =>
              obtain rfl := Option.some.inj told
              cases phase : phases i with
              | filling own held =>
                  rw [phase] at allows later
                  exact ⟨_, weak.lose phase (later (.error (.system number)) trivial)⟩
              | fresh | settled => exact stays (by rw [phase]; rfl) trivial
          | remove path =>
              obtain rfl := Option.some.inj told
              cases phase : phases i with
              | filling own held =>
                  rw [phase] at later
                  -- The temporary file stays, so the state is not clean any more.
                  obtain ⟨_, _, fills, _⟩ := sound.holds phase
                  have unclean (cleanly : clean ∧ pool.Discards (.refuse i number)) : False :=
                    absurd (fills.2.symm.trans (cleanly.2 path next asked)) (by simp)
                  exact ⟨_, weak.leave (.refl directory pool.host)
                    (later (.error (.system number)) trivial)
                    (fun cleanly => (unclean cleanly).elim) fun _ => False.elim⟩
              | fresh | settled => exact stays (by rw [phase]; rfl) trivial
          | environment | report => cases told
          | read | inspect | list | makeDirectory | createTemporary | write | rename | resolve
          | currentDirectory | openLog =>
              obtain rfl := Option.some.inj told
              exact stays (by cases phases i <;> rfl) trivial

end Go

omit [DecidableEq ι] in
/-- Before the tasks begin. -/
theorem start (site : Host.IsSite directory home work (IsCacheName tasks) first)
    (stored : ∀ i goal content, (tasks i).Writes goal content → IsPlainName goal) :
    Sound directory home work tasks first True (Pool.start directory first tasks)
      fun _ => .fresh False where
  site := site
  ways _ := rfl
  jobs i :=
    { task := rfl
      follows := (tasks i).follows directory (stored i)
      stands := ⟨rfl, False.elim⟩
      named := fun _ given => absurd given (by simp [Pool.start]) }
  apart _ _ _ fills := absurd trivial fills.1
  gone _ _ _ given := absurd given (by simp [Pool.start])
  whole _ _ _ _ changed read := .inl ⟨changed, read⟩

variable (stored : ∀ i goal content, (tasks i).Writes goal content → IsPlainName goal)
include stored

/-- Every allowed move keeps the state sound. -/
theorem move (sound : Sound directory home work tasks first clean pool phases) {move : Move ι}
    (allowed : pool.Allows move) :
    ∃ phases, Sound directory home work tasks first (clean ∧ pool.Discards move)
      (pool.move move) phases := by
  cases move with
  | go i name =>
      obtain ⟨phases, moved⟩ := sound.go stored allowed
      exact ⟨phases, moved.weaken And.left⟩
  | part i count =>
      obtain ⟨phases, moved⟩ := sound.part count
      exact ⟨phases, moved.weaken And.left⟩
  | refuse i number => exact sound.refuse

theorem moves (sound : Sound directory home work tasks first clean pool phases)
    {list : List (Move ι)} (allowed : pool.Throughout Pool.Allows list) :
    ∃ phases, Sound directory home work tasks first
      (clean ∧ pool.Throughout Pool.Discards list) (pool.after list) phases := by
  induction list generalizing clean pool phases with
  | nil => exact ⟨phases, sound.weaken And.left⟩
  | cons next rest ih =>
      obtain ⟨phases, moved⟩ := sound.move stored allowed.1
      obtain ⟨phases, ended⟩ := ih moved allowed.2
      exact ⟨phases, ended.weaken and_assoc.2⟩

end Sound

section Names

variable [DecidableEq ι] {clean : Prop} {names : ι → String} (distinct : Function.Injective names)
  (plain : ∀ i, IsPlainName (names i)) (short : ∀ i, FileSystem.isLongName (names i) = false)
  (ending : ∀ i, endsText cacheEnding (names i) = true)
  (unwritten : ∀ i j content, ¬ (tasks j).Writes (names i) content)
include distinct plain short ending unwritten

omit [DecidableEq ι] in
omit [Platform] in
/-- A name of its own is one that a task may give its temporary file. -/
theorem Sound.mayName (sound : Sound directory home work tasks first clean pool phases)
    (own : ∀ i name, (pool.jobs i).temporary = some name → name = names i) (i : ι) :
    pool.MayName i (names i) where
  plain := plain i
  short := short i
  ending := ending i
  unwritten j content := by
    rw [(sound.jobs j).task]
    exact unwritten i j content
  alone j other _ given := other (distinct (own j _ given)).symm

/-- Tasks whose temporary files get names of their own may make their calls in any order. -/
theorem Sound.throughout_allows
    (stored : ∀ i goal content, (tasks i).Writes goal content → IsPlainName goal)
    (sound : Sound directory home work tasks first clean pool phases) {list : List (Move ι)}
    (own : ∀ i name, (pool.jobs i).temporary = some name → name = names i)
    (takes : ∀ move ∈ list, Pool.TakesOwn names move) :
    pool.Throughout Pool.Allows list := by
  induction list generalizing clean pool phases with
  | nil => trivial
  | cons next rest ih =>
      have first' := takes next List.mem_cons_self
      have allowed : pool.Allows next := by
        cases next with
        | go i name =>
            intro place ending' after asked
            have isOwn : name = names i := first'
            rw [isOwn]
            exact sound.mayName distinct plain short ending unwritten own i
        | part => trivial
        | refuse => exact first'.elim
      obtain ⟨phases, moved⟩ := sound.move stored allowed
      exact ⟨allowed, ih moved (Pool.own_move first' own) fun move member =>
        takes move (List.mem_cons_of_mem next member)⟩

end Names

end IndexCache

end AnnotatedMake
