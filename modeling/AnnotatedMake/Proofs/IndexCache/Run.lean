/-
This file follows runs that edit Makefiles, ask for indexes and clear the cache.
`IsFaithful` is the invariant: a cache file that may be used holds the records of its Makefile.
-/

import AnnotatedMake.Proofs.Host.Resolving
import AnnotatedMake.Proofs.IndexCache.Clearing

namespace AnnotatedMake

namespace IndexCache

/-- A step of a run. Makefiles are edited where they are; a time is what the clock shows. -/
inductive Event where
  | write (place : Location) (content : Bytes) (time : Int)
  | delete (place : Location)
  | ask (marker : String) (source : Path) (time : Int)
  | clear (time : Int)

variable [Platform]

/-- The answer of the cache in a directory, and the host after it. -/
def answer (base : Path) (host : Host) (marker : String) (source : Path) (time : Int) :
    Except Fault ScopeIndex × Host :=
  (ensureFresh { directory := base, marker } source none).run { host with clock := time }

/-- The host after a step. -/
def Event.after (base : Path) (host : Host) : Event → Host
  | write place content time => { host with files := host.files.put place (.file content time) }
  | delete place => { host with files := host.files.drop place }
  | ask marker source time => (answer base host marker source time).2
  | clear time =>
    ((IndexCache.clear { directory := base }).run { host with clock := time }).2

section Run

variable (base : Path) (asked : String → Path → Prop) (makefile : Path → Location)

/-- What a run may do next: Makefiles are written outside the cache and at later times. -/
def Event.Allowed (host : Host) : Event → Prop
  | write place _ time =>
    ¬ IsCacheFile host base place ∧
      (∀ node, host.files.node? place = some node →
        ∃ content changed, node = .file content changed) ∧
      ∀ other content changed, IsCacheFile host base other →
        host.files.node? other = some (.file content changed) → changed < time
  | delete place =>
    ¬ IsCacheFile host base place ∧
      ∃ content changed, host.files.node? place = some (.file content changed)
  | ask marker source _ =>
    ∀ content resolved,
      host.query source (.error Fault.isDirectory) host.files.read = .ok content →
      host.resolve source = .ok resolved →
        asked marker resolved ∧ host.placeOf? .target source = some (makefile resolved)
  | clear _ => True

/-- The keys of what a run asks for are distinct. -/
def HasDistinctKeys : Prop :=
  ∀ marker resolved other path, asked marker resolved → asked other path →
    keyOf marker resolved = keyOf other path → marker = other ∧ resolved = path

/-- The steps that are allowed one after the other. -/
def IsRun : Host → List Event → Prop
  | _, [] => True
  | host, event :: rest =>
    event.Allowed base asked makefile host ∧ IsRun (event.after base host) rest

/-- The Makefiles of a run are neither cache files nor the file of the log. -/
structure IsReady (host : Host) : Prop where
  tidy : Tidy host base
  outside : ∀ marker resolved, asked marker resolved → ¬ IsCacheFile host base (makefile resolved)
  unlogged : ∀ marker resolved, asked marker resolved → host.logFile ≠ some (makefile resolved)

/-- A run starts where no cache file is. -/
structure IsStart (host : Host) : Prop extends IsReady base asked makefile host where
  empty : ∀ place content changed, IsCacheFile host base place →
    host.files.node? place ≠ some (.file content changed)

/-- A cache file that is not older than its Makefile holds the records of the Makefile. -/
structure IsFaithful (host : Host) : Prop extends IsReady base asked makefile host where
  current : ∀ marker resolved home content time bytes changed, asked marker resolved →
    host.leads? base = some home →
    host.files.node? (home ++ [nameOf marker resolved]) = some (.file content time) →
    (host.files.node? (makefile resolved)).bind Node.reading? = some (bytes, changed) →
    changed ≤ time → content = contentOf (.ofLines marker (sourceLines bytes))

variable {base asked makefile} {host after : Host} {marker : String} {source : Path} {time : Int}

/-- A source may be asked for when resolving it misses no link. -/
theorem Event.allowed_ask (noDots : host.HasNoDots)
    (met : Resolution.target host.linkAt source = Resolution.target host.linkOf source)
    (isAsked : ∀ resolved, host.resolve source = .ok resolved → asked marker resolved) :
    Event.Allowed base asked Path.parts host (.ask marker source time) := by
  intro content resolved read found
  obtain ⟨place, _, _, stands, _⟩ := Host.read_eq_ok read
  obtain rfl := Host.parts_of_resolve noDots met stands found
  exact ⟨isAsked resolved found, stands⟩

omit [Platform] in
theorem isSound_of_isStart (start : IsStart base asked makefile host) :
    IsFaithful base asked makefile host where
  toIsReady := start.toIsReady
  current marker resolved _ _ _ _ _ _ leads present :=
    absurd present (start.empty _ _ _ (isCacheFile_nameOf leads marker resolved))

omit [Platform] in
theorem IsReady.of_spares {changed : Location → Prop} (ready : IsReady base asked makefile host)
    (spares : host.Spares after changed)
    (files : ∀ place node, changed place → IsCacheFile host base place →
      after.files.node? place = some node → ∃ content time, node = .file content time)
    (names : ∀ place name, changed (place ++ [name]) → IsCacheFile host base (place ++ [name]) →
      after.files.node? (place ++ [name]) ≠ none → '/' ∉ name.toList) :
    IsReady base asked makefile after where
  tidy := ready.tidy.of_spares spares files names
  outside marker resolved isAsked isCache :=
    ready.outside marker resolved isAsked ((isCacheFile_congr spares).1 isCache)
  unlogged marker resolved isAsked := spares.logFile_ne (ready.unlogged marker resolved isAsked)

omit [Platform] in
/-- What is read of a Makefile stays the same while its place is spared. -/
theorem reading?_of_spares {changed : Location → Prop} (ready : IsReady base asked makefile host)
    (spares : host.Spares after changed) {resolved : Path} (isAsked : asked marker resolved)
    (spared : ¬ changed (makefile resolved)) :
    (after.files.node? (makefile resolved)).bind Node.reading? =
      (host.files.node? (makefile resolved)).bind Node.reading? := by
  have alike := spares.nodes _ spared (ready.unlogged marker resolved isAsked)
  generalize host.files.node? (makefile resolved) = before at alike ⊢
  generalize after.files.node? (makefile resolved) = later at alike ⊢
  cases alike <;> rfl

omit [Platform] in
/-- A cache file that is spared stays sound while its Makefile is read as before. -/
theorem IsFaithful.current_of_spares {changed : Location → Prop}
    (sound : IsFaithful base asked makefile host) (spares : host.Spares after changed)
    {resolved : Path} {home : Location} {content bytes : Bytes} {time written : Int}
    (isAsked : asked marker resolved) (leads : after.leads? base = some home)
    (spared : ¬ changed (home ++ [nameOf marker resolved]))
    (sourceSpared : ¬ changed (makefile resolved))
    (present : after.files.node? (home ++ [nameOf marker resolved]) = some (.file content time))
    (reading : (after.files.node? (makefile resolved)).bind Node.reading? = some (bytes, written))
    (young : written ≤ time) : content = contentOf (.ofLines marker (sourceLines bytes)) := by
  rw [spares.leads?] at leads
  rw [reading?_of_spares sound.toIsReady spares isAsked sourceSpared] at reading
  have isCache := isCacheFile_nameOf leads marker resolved
  have before := (spares.nodes _ spared (sound.tidy.log _ isCache)).file_iff.2 present
  exact sound.current marker resolved home content time bytes written isAsked leads before reading
    young

omit [Platform] in
/-- A host that is spared altogether stays sound. -/
theorem IsFaithful.of_spares (sound : IsFaithful base asked makefile host)
    (spares : host.Spares after fun _ => False) : IsFaithful base asked makefile after where
  toIsReady := sound.toIsReady.of_spares spares (fun _ _ => False.elim) fun _ _ => False.elim
  current _ _ _ _ _ _ _ isAsked leads present reading young :=
    sound.current_of_spares spares isAsked leads not_false not_false present reading young

omit [Platform] in
theorem IsFaithful.of_clock (sound : IsFaithful base asked makefile host) (time : Int) :
    IsFaithful base asked makefile { host with clock := time } :=
  sound.of_spares (.of_files rfl rfl (.inl rfl))

omit [Platform] in
/-- An edit later than every cache file leaves them sound. -/
theorem IsFaithful.of_edit (sound : IsFaithful base asked makefile host) {place : Location}
    {node : Option Node} (notCache : ¬ IsCacheFile host base place)
    (replaces : host.Replaces after place node)
    (before : ∀ target, host.files.node? place ≠ some (.link target))
    (now : ∀ target, node ≠ some (.link target))
    (latest : ∀ other content changed bytes written, IsCacheFile host base other →
      host.files.node? other = some (.file content changed) →
      node.bind Node.reading? = some (bytes, written) → changed < written) :
    IsFaithful base asked makefile after := by
  have spares := replaces.spares before now
  refine ⟨sound.toIsReady.of_spares spares ?_ ?_, ?_⟩
  · rintro _ _ rfl isCache
    exact absurd isCache notCache
  · rintro _ _ rfl isCache
    exact absurd isCache notCache
  · intro marker resolved home content changed bytes written isAsked leads present reading young
    have isCache : IsCacheFile host base (home ++ [nameOf marker resolved]) :=
      (isCacheFile_congr spares).1 (isCacheFile_nameOf leads marker resolved)
    have spared : home ++ [nameOf marker resolved] ≠ place := fun same => notCache (same ▸ isCache)
    by_cases isSource : makefile resolved = place
    · have held := (spares.nodes _ spared (sound.tidy.log _ isCache)).file_iff.2 present
      rw [isSource, replaces.here] at reading
      have older := latest _ _ _ _ _ isCache held reading
      omega
    · exact sound.current_of_spares spares isAsked leads spared isSource present reading young

theorem IsFaithful.of_write (sound : IsFaithful base asked makefile host) {place : Location}
    {content : Bytes}
    (allowed : Event.Allowed base asked makefile host (.write place content time)) :
    IsFaithful base asked makefile (Event.after base host (.write place content time)) := by
  obtain ⟨notCache, isFile, latest⟩ := allowed
  have replaces : host.Replaces (Event.after base host (.write place content time)) place
      (some (.file content time)) :=
    ⟨rfl, .inl rfl, FileSystem.sameBut_put _ _ _, FileSystem.node?_put_self ..⟩
  apply sound.of_edit notCache replaces _ (by simp)
  · intro other held changed bytes written isCache present reading
    obtain ⟨_, rfl⟩ := Prod.mk.inj (Option.some.inj reading)
    exact latest other held changed isCache present
  · intro target isLink
    obtain ⟨_, _, same⟩ := isFile _ isLink
    cases same

theorem IsFaithful.of_delete (sound : IsFaithful base asked makefile host) {place : Location}
    (allowed : Event.Allowed base asked makefile host (.delete place)) :
    IsFaithful base asked makefile (Event.after base host (.delete place)) := by
  obtain ⟨notCache, _, _, isFile⟩ := allowed
  have gone : (host.files.drop place).node? place = none := by
    rw [FileSystem.node?_drop, if_pos rfl]
  have replaces : host.Replaces (Event.after base host (.delete place)) place none :=
    ⟨rfl, .inl rfl, FileSystem.sameBut_drop _ _, gone⟩
  apply sound.of_edit notCache replaces _ (by simp)
  · intro other held changed bytes written isCache present reading
    cases reading
  · intro target isLink
    rw [isFile] at isLink
    cases isLink

omit [Platform] in
/-- A cache file that is removed leaves the others as they are. -/
theorem IsFaithful.of_removed (sound : IsFaithful base asked makefile host) {place : Location}
    (isCache : IsCacheFile host base place) (removed : host.Replaces after place none) :
    IsFaithful base asked makefile after := by
  have spares := removed.spares (sound.tidy.cacheNotLink isCache) (by simp)
  have gone (node : Node) : after.files.node? place ≠ some node := by
    rw [removed.here]
    exact (Option.some_ne_none node).symm
  refine ⟨sound.toIsReady.of_spares spares ?_ ?_, ?_⟩
  · rintro _ node rfl _ present
    exact absurd present (gone node)
  · rintro _ _ rfl _ present
    exact absurd removed.here present
  · intro marker resolved home content time bytes written isAsked leads present reading young
    have spared : home ++ [nameOf marker resolved] ≠ place := by
      rintro rfl
      exact gone _ present
    have sourceSpared : makefile resolved ≠ place := by
      rintro rfl
      exact sound.outside marker resolved isAsked isCache
    exact sound.current_of_spares spares isAsked leads spared sourceSpared present reading young

omit [Platform] in
/-- A cache file that gets the records of the Makefile that was just read is sound. -/
theorem IsFaithful.of_parsed (sound : IsFaithful base asked makefile host)
    (keys : HasDistinctKeys asked) {content : Bytes} {resolved : Path} {home : Location}
    {written : Int} (isAsked : asked marker resolved)
    (read : host.query source (.error Fault.isDirectory) host.files.read = .ok content)
    (stands : host.placeOf? .target source = some (makefile resolved))
    (leads : host.leads? base = some home)
    (spares : host.Spares after fun place => place = home ++ [nameOf marker resolved])
    (present : after.files.node? (home ++ [nameOf marker resolved]) =
      some (.file (contentOf (.ofLines marker (sourceLines content))) written)) :
    IsFaithful base asked makefile after := by
  have isCache := isCacheFile_nameOf leads marker resolved
  refine ⟨sound.toIsReady.of_spares spares ?_ ?_, ?_⟩
  · rintro _ node rfl _ stored
    exact ⟨_, _, Option.some.inj (stored.symm.trans present)⟩
  · intro directory name same _ _
    obtain rfl := last_eq_of_concat_eq same
    exact (isPlainName_nameOf marker resolved).noSlash
  · intro other path place held kept bytes changed isAskedToo leadsToo stored reading young
    have sourceSpared : makefile path ≠ home ++ [nameOf marker resolved] := by
      intro same
      exact sound.outside other path isAskedToo (same ▸ isCache)
    by_cases same : place ++ [nameOf other path] = home ++ [nameOf marker resolved]
    · have names := last_eq_of_concat_eq same
      obtain ⟨rfl, rfl⟩ := keys _ _ _ _ isAskedToo isAsked (keyOf_eq_of_nameOf names)
      rw [reading?_of_spares sound.toIsReady spares isAskedToo sourceSpared] at reading
      obtain ⟨_, now, _⟩ := Host.reading?_of_read read stands
      obtain ⟨rfl, _⟩ := Prod.mk.inj (Option.some.inj (now.symm.trans reading))
      rw [same, present] at stored
      exact (Node.file.inj (Option.some.inj stored)).1.symm
    · exact sound.current_of_spares spares isAskedToo leadsToo same sourceSpared stored reading
        young

/-- An answer leaves a sound host: what it stores are the records of the Makefile it has read. -/
theorem IsFaithful.of_ask (sound : IsFaithful base asked makefile host)
    (keys : HasDistinctKeys asked)
    (allowed : Event.Allowed base asked makefile host (.ask marker source time)) :
    IsFaithful base asked makefile (answer base host marker source time).2 := by
  have clocked := sound.of_clock time
  have answered := answered_ensureFresh clocked.tidy marker source
  rw [answer]
  generalize (ensureFresh { directory := base, marker } source none).run
    { host with clock := time } = run at answered ⊢
  cases answered with
  | unreadable _ _ spares => exact clocked.of_spares spares
  | refused => exact clocked
  | unresolved => exact clocked
  | loaded _ _ _ spares => exact clocked.of_spares spares
  | unstored _ _ spares => exact clocked.of_spares spares
  | tooDeep _ _ spares => exact clocked.of_spares spares
  | parsed read found leads spares present =>
      obtain ⟨isAsked, stands⟩ := allowed _ _ read found
      exact clocked.of_parsed keys isAsked read stands leads spares present

theorem IsFaithful.of_removeFiles (sound : IsFaithful base asked makefile host)
    {names : List String}
    (own : ∀ name ∈ names, endsText cacheEnding name = true ∧ '/' ∉ name.toList) :
    IsFaithful base asked makefile ((removeFiles (names.map base.child)).run host).2 := by
  induction names generalizing host with
  | nil => exact sound
  | cons name rest ih =>
      have further := fun other member => own other (List.mem_cons_of_mem name member)
      obtain ⟨ending, noSlash⟩ := own name List.mem_cons_self
      obtain ⟨front, rfl⟩ := endsText_iff.1 ending
      rw [List.map_cons, removeFiles, Program.bind_eq_bind, Program.run_bind]
      obtain ⟨outcome, asked⟩ := Program.run_isFile (base.child (front ++ cacheEnding)) host
      rw [asked]
      cases outcome with
      | error fault => exact sound
      | ok isThere =>
          dsimp only
          split
          · rw [Program.bind_eq_bind, Program.run_bind]
            rcases run_remove_child sound.tidy noSlash with
              ⟨fault, refused⟩ | ⟨place, after, removed, isCache, replaces⟩
            · rw [refused]
              exact sound
            · rw [removed]
              dsimp only
              have left := ih (sound.of_removed isCache replaces) further
              rw [Program.bind_eq_bind, Program.run_bind]
              split
              · rename_i ran
                rw [ran] at left
                exact left
              · rename_i ran
                rw [ran] at left
                exact left
          · exact ih sound further

/-- Clearing removes cache files and leaves the others as they are. -/
theorem IsFaithful.of_clear (sound : IsFaithful base asked makefile host) :
    IsFaithful base asked makefile ((IndexCache.clear { directory := base }).run host).2 := by
  obtain ⟨outcome, told⟩ := Program.run_isDirectory base host
  rw [IndexCache.clear, Program.bind_eq_bind, Program.run_bind, told]
  cases outcome with
  | error fault => exact sound
  | ok isThere =>
      dsimp only
      split
      · rw [Program.bind_eq_bind, Program.run_bind, Program.run_list]
        cases listed : host.query base (.ok []) host.files.list with
        | error fault => exact sound
        | ok names =>
            apply sound.of_removeFiles
            intro name member
            obtain ⟨inside, ending⟩ := List.mem_filter.1 member
            obtain ⟨home, leads, present⟩ := stands_of_list listed name inside
            exact ⟨ending, sound.tidy.names home name ⟨home, name, leads, ending, rfl⟩ present⟩
      · exact sound

/-- Every step that is allowed leaves a sound host. -/
theorem isSound_after (sound : IsFaithful base asked makefile host)
    (keys : HasDistinctKeys asked) {event : Event}
    (allowed : event.Allowed base asked makefile host) :
    IsFaithful base asked makefile (event.after base host) := by
  cases event with
  | write place content time => exact sound.of_write allowed
  | delete place => exact sound.of_delete allowed
  | ask marker source time => exact sound.of_ask keys allowed
  | clear time => exact (sound.of_clock time).of_clear

theorem isRun_append {earlier later : List Event}
    (run : IsRun base asked makefile host (earlier ++ later)) :
    IsRun base asked makefile host earlier ∧
      IsRun base asked makefile (earlier.foldl (Event.after base) host) later := by
  induction earlier generalizing host with
  | nil => exact ⟨trivial, run⟩
  | cons event rest ih =>
      obtain ⟨allowed, further⟩ := run
      obtain ⟨first, second⟩ := ih further
      exact ⟨⟨allowed, first⟩, second⟩

/-- Every run of allowed steps leaves a sound host. -/
theorem isSound_foldl (sound : IsFaithful base asked makefile host)
    (keys : HasDistinctKeys asked) {events : List Event}
    (run : IsRun base asked makefile host events) :
    IsFaithful base asked makefile (events.foldl (Event.after base) host) := by
  induction events generalizing host with
  | nil => exact sound
  | cons event rest ih =>
      obtain ⟨allowed, further⟩ := run
      exact ih (isSound_after sound keys allowed) further

end Run

end IndexCache

end AnnotatedMake
