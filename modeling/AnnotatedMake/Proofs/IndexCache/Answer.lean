import AnnotatedMake.Proofs.Host.Looking
import AnnotatedMake.Proofs.Host.Reading
import AnnotatedMake.Proofs.IndexCache.Publish

namespace AnnotatedMake

namespace IndexCache

variable {host after : Host} {base source : Path} {marker name : String} {place : Location}

/-- A place of a file that the cache in a directory may write or remove. -/
def IsCacheFile (host : Host) (base : Path) (place : Location) : Prop :=
  ∃ home name, host.leads? base = some home ∧ endsText cacheEnding name = true ∧
    place = home ++ [name]

/-- A host with files and directories alone, none the log, under the names of cache files. -/
structure Tidy (host : Host) (base : Path) : Prop where
  plain : base.IsPlain
  current : host.HasPlainDirectory
  kinds : ∀ place node, IsCacheFile host base place → host.files.node? place = some node →
    (∃ changed, node = .directory changed) ∨ ∃ content changed, node = .file content changed
  names : ∀ place name, IsCacheFile host base (place ++ [name]) →
    host.files.node? (place ++ [name]) ≠ none → '/' ∉ name.toList
  log : ∀ place, IsCacheFile host base place → host.logFile ≠ some place

/-- The name of a cache file has the cache ending. -/
theorem endsText_nameOf (marker : String) (resolved : Path) :
    endsText cacheEnding (nameOf marker resolved) = true :=
  endsText_iff.2 ⟨keyOf marker resolved, rfl⟩

/-- A cache file stands in the cache directory. -/
theorem isCacheFile_nameOf {home : Location} (leads : host.leads? base = some home)
    (marker : String) (resolved : Path) :
    IsCacheFile host base (home ++ [nameOf marker resolved]) :=
  ⟨home, _, leads, endsText_nameOf marker resolved, rfl⟩

/-- No cache file of a tidy host is a link. -/
theorem Tidy.cacheNotLink (tidy : Tidy host base) {place : Location}
    (isCache : IsCacheFile host base place) (target : String) :
    host.files.node? place ≠ some (.link target) := by
  intro isLink
  rcases tidy.kinds place _ isCache isLink with ⟨_, same⟩ | ⟨_, _, same⟩
  · cases same
  · cases same

/-- The cache file of a source is no link on a tidy host. -/
theorem Tidy.notLink (tidy : Tidy host base) (marker : String) (resolved : Path) :
    ∀ home, host.leads? base = some home → ∀ target,
      host.files.node? (home ++ [nameOf marker resolved]) ≠ some (.link target) :=
  fun _ leads => tidy.cacheNotLink (isCacheFile_nameOf leads marker resolved)

variable [Platform]

/-- The time of a change is read off the status. -/
theorem run_changed? (path : Path) (host : Host) :
    (changed? path).run host =
      (match host.query path (.ok (.directory 0)) host.files.nodeAt with
        | .ok node => .ok (some (Host.statusOf node).changed)
        | .error fault => if fault.isSystem then .ok none else .error fault, host) := by
  rw [changed?, Program.run_recover, Program.run_bind, Program.run_inspect]
  cases host.query path (.ok (.directory 0)) host.files.nodeAt with
  | ok node => rfl
  | error fault =>
      dsimp only [Except.map]
      split <;> rfl

/-- A text is read off the bytes of a file. -/
theorem run_readText (path : Path) (host : Host) :
    (readText path).run host =
      (match host.query path (.error Fault.isDirectory) host.files.read with
        | .ok content =>
          match textOf? content with
          | some text => .ok text
          | none => .error .notText
        | .error fault => .error fault, host) := by
  rw [readText, Program.bind_eq_bind, Program.run_bind, Program.run_contentOf]
  cases host.query path (.error Fault.isDirectory) host.files.read with
  | error fault => rfl
  | ok content =>
      dsimp only
      cases textOf? content <;> rfl

omit [Platform] in
/-- Asking for the time of a change only looks. -/
theorem looks_changed? (path : Path) : (changed? path).CallsOnly Program.IsLook := by
  have asked : (Program.inspect path).CallsOnly Program.IsLook :=
    ⟨trivial, fun _ => Program.callsOnly_ofReply _⟩
  refine Program.CallsOnly.recover (asked.bind fun _ => trivial) fun fault => ?_
  split <;> trivial

omit [Platform] in
/-- Loading a cache file only looks. -/
theorem looks_load (file : Path) : (load file).CallsOnly Program.IsLook := by
  have read : (readText file).CallsOnly Program.IsLook := by
    refine Program.CallsOnly.bind (Program.looks_contentOf file) fun content => ?_
    split <;> trivial
  refine Program.CallsOnly.recover (read.bind fun _ => trivial) fun fault => ?_
  split
  · exact Program.CallsOnly.bind (Program.looks_report ..) fun _ => trivial
  · trivial

omit [Platform] in
/-- Loading a fresh cache file only looks. -/
theorem looks_loadFresh (source file : Path) :
    (loadFresh source file).CallsOnly Program.IsLook := by
  have fresh : (isFresh source file).CallsOnly Program.IsLook := by
    refine Program.CallsOnly.bind (looks_changed? file) fun cached => ?_
    cases cached with
    | none => trivial
    | some time => exact Program.CallsOnly.bind (looks_changed? source) fun _ => trivial
  refine Program.CallsOnly.bind fresh fun isFresh => ?_
  split
  · exact looks_load file
  · trivial

/-- What the cache file of a Makefile gives: an index if it is not older and holds a text. -/
inductive Loaded (host : Host) (base source : Path) (name : String) :
    Except Fault (Option ScopeIndex) × Host → Prop where
  | fresh {home : Location} {content : Bytes} {time : Int} {text : String}
      (leads : host.leads? base = some home)
      (present : host.files.node? (home ++ [name]) = some (.file content time))
      (young : ∀ node, host.query source (.ok (.directory 0)) host.files.nodeAt = .ok node →
        (Host.statusOf node).changed ≤ time)
      (decoded : textOf? content = some text) :
      Loaded host base source name (.ok (some (CacheRecord.decodeIndex text)), host)
  | missed {after : Host} (spares : host.Spares after fun _ => False) :
      Loaded host base source name (.ok none, after)

/-- A cache file that is younger than its source is loaded. -/
theorem loaded_load (tidy : Tidy host base) (marker : String) (resolved : Path) {home : Location}
    {node : Node} (leads : host.leads? base = some home)
    (present : host.files.node? (home ++ [nameOf marker resolved]) = some node)
    (young : ∀ other, host.query source (.ok (.directory 0)) host.files.nodeAt = .ok other →
      (Host.statusOf other).changed ≤ (Host.statusOf node).changed) :
    Loaded host base source (nameOf marker resolved)
      ((load (base.child (nameOf marker resolved))).run host) := by
  have named := isPlainName_nameOf marker resolved
  rw [load, Program.run_recover, Program.run_bind, run_readText]
  cases read : host.query (base.child (nameOf marker resolved)) (.error Fault.isDirectory)
      host.files.read with
  | error fault =>
      have system := Host.isSystem_of_query (Path.noNull_child tidy.plain.noNull named) read
      dsimp only
      rw [system, Bool.true_or, if_pos rfl]
      exact .missed (Host.spares_report ..)
  | ok content =>
      obtain ⟨other, found, changed, sameLeads, stands, reading⟩ :=
        Host.read_child named.toIsOneName read (tidy.notLink marker resolved)
      obtain rfl := Option.some.inj (leads.symm.trans sameLeads)
      obtain rfl := Option.some.inj (present.symm.trans stands)
      dsimp only
      cases decoded : textOf? content with
      | none => exact .missed (Host.spares_report ..)
      | some text =>
          rcases tidy.kinds _ _ (isCacheFile_nameOf leads marker resolved) present with
            ⟨_, rfl⟩ | ⟨_, _, rfl⟩
          · cases reading
          · obtain ⟨rfl, rfl⟩ := Prod.mk.inj (Option.some.inj reading)
            exact .fresh leads present young decoded

/-- A cache file is loaded where it is fresh and left otherwise. -/
theorem loaded_loadFresh (tidy : Tidy host base) (marker : String) (resolved : Path)
    {content : Bytes}
    (read : host.query source (.error Fault.isDirectory) host.files.read = .ok content) :
    Loaded host base source (nameOf marker resolved)
      ((loadFresh source (base.child (nameOf marker resolved))).run host) := by
  have named := isPlainName_nameOf marker resolved
  obtain ⟨_, sourceNode, _, _, _, _, told, _⟩ := Host.read_eq_ok read
  simp only [loadFresh, isFresh, Program.bind_eq_bind, Program.pure_eq_done]
  rw [Program.run_bind, Program.run_bind, run_changed?]
  cases asked : host.query (base.child (nameOf marker resolved)) (.ok (.directory 0))
      host.files.nodeAt with
  | error fault =>
      have system := Host.isSystem_of_query (Path.noNull_child tidy.plain.noNull named) asked
      simp only [system, if_true]
      exact .missed (.refl _ _)
  | ok node =>
      obtain ⟨home, leads, present⟩ :=
        Host.nodeAt_child named.toIsOneName asked (tidy.notLink marker resolved)
      dsimp only
      rw [Program.run_bind, run_changed?, told]
      simp only [Program.run_done, Option.any_some, decide_eq_true_eq]
      split
      · rename_i young
        apply loaded_load tidy marker resolved leads present
        intro other same
        rw [told] at same
        obtain rfl := Except.ok.inj same
        exact young
      · exact .missed (.refl _ _)

/-- What storing an index comes to. -/
inductive Stored (host : Host) (base : Path) (name : String) (content : Bytes) :
    Except Fault Bool × Host → Prop where
  | written {after : Host} {home : Location} {time : Int} (leads : host.leads? base = some home)
      (spares : host.Spares after fun place => place = home ++ [name])
      (present : after.files.node? (home ++ [name]) = some (.file content time)) :
      Stored host base name content (.ok true, after)
  | refused {after : Host} (spares : host.Spares after fun _ => False) :
      Stored host base name content (.ok false, after)
  | tooDeep {after : Host} (spares : host.Spares after fun _ => False)
      (deep : Program.levelLimit ≤ base.parts.length) :
      Stored host base name content (.error .tooManyLevels, after)

/-- Storing writes the cache file in full or not at all. -/
theorem stored_store (tidy : Tidy host base) (marker : String) (resolved : Path)
    (index : ScopeIndex) :
    Stored host base (nameOf marker resolved) (contentOf index)
      ((store index (base.child (nameOf marker resolved))).run host) := by
  have named := isPlainName_nameOf marker resolved
  have published := published_replace index tidy.plain tidy.current named
  simp only [store, Program.bind_eq_bind, Program.pure_eq_done]
  rw [Program.run_bind, Program.run_recover, Program.run_bind]
  generalize (replace index (base.child (nameOf marker resolved))).run host = run at published ⊢
  cases published with
  | @written after _ _ time stands present _ _ keepsWay =>
      rw [Host.entryAt?_child base named.toIsOneName, Option.map_eq_some_iff] at stands
      obtain ⟨home, leads, same⟩ := stands
      obtain ⟨rfl, last⟩ := List.append_inj' same rfl
      obtain rfl := List.singleton_inj.1 last
      have spares := (keepsWay (tidy.notLink marker resolved home leads)).spares
      dsimp only [Program.run_done]
      rw [if_pos rfl, Program.run_bind, Program.debug, Program.run_report]
      have reported := Host.spares_report after
        { level := .debug,
          text := "Cache written to " ++ (base.child (nameOf marker resolved)).text }
        fun _ => False
      have notLog : after.logFile ≠ some (home ++ [nameOf marker resolved]) :=
        spares.logFile_ne (tidy.log _ (isCacheFile_nameOf leads marker resolved))
      have stays := (reported.nodes _ not_false notLog).file_iff.1 present
      exact .written leads (spares.trans reported.weaken) stays
  | @failed after fault spares allowed =>
      rcases allowed with system | ⟨rfl, deep⟩
      · simp only [system, if_true, Program.run_bind, Program.run_report, Program.run_done]
        exact .refused (spares.trans (Host.spares_report ..))
      · rw [Path.parent_child base named.toIsOneName] at deep
        exact .tooDeep spares deep

/-- What asking a cache for the index of a Makefile comes to. -/
inductive Answered (host : Host) (base : Path) (marker : String) (source : Path) :
    Except Fault ScopeIndex × Host → Prop where
  | unreadable {after : Host} {fault : Fault}
      (unread : host.query source (.error Fault.isDirectory) host.files.read = .error fault)
      (system : fault.isSystem = true) (spares : host.Spares after fun _ => False) :
      Answered host base marker source (.ok {}, after)
  | refused {fault : Fault}
      (unread : host.query source (.error Fault.isDirectory) host.files.read = .error fault)
      (notSystem : fault.isSystem = false) : Answered host base marker source (.error fault, host)
  | unresolved {content : Bytes} {fault : Fault}
      (read : host.query source (.error Fault.isDirectory) host.files.read = .ok content)
      (lost : host.resolve source = .error fault) :
      Answered host base marker source (.error fault, host)
  | loaded {after : Host} {content : Bytes} {resolved : Path} {index : ScopeIndex}
      (read : host.query source (.error Fault.isDirectory) host.files.read = .ok content)
      (found : host.resolve source = .ok resolved)
      (fresh : Loaded host base source (nameOf marker resolved) (.ok (some index), host))
      (spares : host.Spares after fun _ => False) :
      Answered host base marker source
        (.ok (index.withTargets (RuleName.ofLines (sourceLines content))), after)
  | parsed {after : Host} {content : Bytes} {resolved : Path} {home : Location} {time : Int}
      (read : host.query source (.error Fault.isDirectory) host.files.read = .ok content)
      (found : host.resolve source = .ok resolved) (leads : host.leads? base = some home)
      (spares : host.Spares after fun place => place = home ++ [nameOf marker resolved])
      (present : after.files.node? (home ++ [nameOf marker resolved]) =
        some (.file (contentOf (.ofLines marker (sourceLines content))) time)) :
      Answered host base marker source (.ok (.ofSource marker (sourceLines content)), after)
  | unstored {after : Host} {content : Bytes} {resolved : Path}
      (read : host.query source (.error Fault.isDirectory) host.files.read = .ok content)
      (found : host.resolve source = .ok resolved) (spares : host.Spares after fun _ => False) :
      Answered host base marker source (.ok (.ofSource marker (sourceLines content)), after)
  | tooDeep {after : Host} {content : Bytes} {resolved : Path}
      (read : host.query source (.error Fault.isDirectory) host.files.read = .ok content)
      (found : host.resolve source = .ok resolved) (spares : host.Spares after fun _ => False)
      (deep : Program.levelLimit ≤ base.parts.length) :
      Answered host base marker source (.error .tooManyLevels, after)

/-- Remarks on the lines go to the log only. -/
theorem run_reportRemarks (marker : String) (lines : List String) (host : Host) :
    ∃ after, (reportRemarks marker lines).run host = (.ok (), after) ∧
      host.Spares after fun _ => False := by
  rw [reportRemarks]
  induction remarksOn marker lines generalizing host with
  | nil => exact ⟨host, rfl, .refl _ _⟩
  | cons remark rest ih =>
      obtain ⟨after, ran, spares⟩ :=
        ih (host.report { level := .debug, text := remark.2.atLine remark.1 })
      refine ⟨after, ?_, (Host.spares_report ..).trans spares⟩
      rw [Program.forEach, Program.run_bind]
      exact ran

omit [Platform] in
/-- What is spared leads to the same cache files. -/
theorem isCacheFile_congr {changed : Location → Prop} (spares : host.Spares after changed) :
    IsCacheFile after base place ↔ IsCacheFile host base place := by
  rw [IsCacheFile, IsCacheFile, spares.leads?]

omit [Platform] in
/-- A host stays tidy when nothing but files under proper names is put in its changed places. -/
theorem Tidy.of_spares {changed : Location → Prop} (tidy : Tidy host base)
    (spares : host.Spares after changed)
    (files : ∀ place node, changed place → IsCacheFile host base place →
      after.files.node? place = some node → ∃ content time, node = .file content time)
    (names : ∀ place name, changed (place ++ [name]) → IsCacheFile host base (place ++ [name]) →
      after.files.node? (place ++ [name]) ≠ none → '/' ∉ name.toList) : Tidy after base where
  plain := tidy.plain
  current := by
    rw [Host.HasPlainDirectory, spares.directory]
    exact tidy.current
  kinds place node isCache present := by
    have wasCache := (isCacheFile_congr spares).1 isCache
    by_cases isChanged : changed place
    · exact .inr (files place node isChanged wasCache present)
    · have alike := spares.nodes place isChanged (tidy.log place wasCache)
      rw [present] at alike
      generalize before : host.files.node? place = held at alike
      cases alike with
      | same => exact tidy.kinds place node wasCache before
      | changed => exact .inl ⟨_, rfl⟩
      | made => exact .inl ⟨_, rfl⟩
  names place name isCache present := by
    have wasCache := (isCacheFile_congr spares).1 isCache
    by_cases isChanged : changed (place ++ [name])
    · exact names place name isChanged wasCache present
    · by_cases vacant : host.files.node? (place ++ [name]) = none
      · exact spares.names place name isChanged vacant present
      · exact tidy.names place name wasCache vacant
  log place isCache := spares.logFile_ne (tidy.log place ((isCacheFile_congr spares).1 isCache))

/-- What is stored later is stored on a host that was spared until then. -/
theorem Stored.of_spares {middle : Host} {content : Bytes} {run : Except Fault Bool × Host}
    (spares : host.Spares middle fun _ => False) (stored : Stored middle base name content run) :
    Stored host base name content run := by
  cases stored with
  | written leads further present =>
      rw [spares.leads?] at leads
      exact .written leads (spares.weaken.trans further) present
  | refused further => exact .refused (spares.trans further)
  | tooDeep further deep => exact .tooDeep (spares.trans further) deep

/-- The index is answered from the cache or from the source. -/
theorem answered_ensureFresh (tidy : Tidy host base) (marker : String) (source : Path) :
    Answered host base marker source
      ((ensureFresh { directory := base, marker } source none).run host) := by
  simp only [ensureFresh, sourceLines?, readLines, Program.bind_eq_bind, Program.pure_eq_done]
  rw [Program.run_bind, Program.run_recover, Program.run_bind, Program.run_bind,
    Program.run_contentOf]
  cases read : host.query source (.error Fault.isDirectory) host.files.read with
  | error fault =>
      dsimp only
      cases system : fault.isSystem with
      | true =>
          simp only [if_true, Program.run_bind, Program.debug, Program.run_report, Program.run_done]
          exact .unreadable read system (Host.spares_report ..)
      | false => exact .refused read system
  | ok content =>
      dsimp only [Program.run_done]
      simp only [indexOf, if_true, pathFor, Program.bind_eq_bind, Program.pure_eq_done]
      rw [Program.run_bind, Program.run_bind, Program.run_resolve]
      cases found : host.resolve source with
      | error fault => exact .unresolved read found
      | ok resolved =>
          dsimp only [Program.run_done]
          have fresh := loaded_loadFresh tidy marker resolved read
          rw [nameOf] at fresh
          rw [Program.run_bind]
          generalize ran :
            (loadFresh source (base.child (keyOf marker resolved ++ cacheEnding))).run host = run
            at fresh ⊢
          cases fresh with
          | fresh leads present young decoded =>
              exact .loaded read found (.fresh leads present young decoded)
                (Host.spares_report ..)
          | @missed middle spares =>
              dsimp only
              rw [Program.run_bind, Program.debug, Program.run_report]
              dsimp only
              obtain ⟨noted, remarked, further⟩ := run_reportRemarks marker (sourceLines content)
                (middle.report { level := .debug, text := "Parsing " ++ source.text })
              have quiet : host.Spares noted fun _ => False :=
                (spares.trans (Host.spares_report ..)).trans further
              simp only [parse, Program.bind_eq_bind, Program.pure_eq_done]
              rw [Program.run_bind, Program.run_bind, remarked]
              dsimp only [Program.run_done]
              rw [Program.run_bind]
              have stillTidy := tidy.of_spares quiet (fun _ _ => False.elim) fun _ _ => False.elim
              have stored := (stored_store stillTidy marker resolved
                (.ofLines marker (sourceLines content))).of_spares quiet
              rw [nameOf] at stored
              generalize (store (ScopeIndex.ofLines marker (sourceLines content))
                (base.child (keyOf marker resolved ++ cacheEnding))).run noted = run at stored ⊢
              cases stored with
              | written leads spares present => exact .parsed read found leads spares present
              | refused spares => exact .unstored read found spares
              | tooDeep spares deep => exact .tooDeep read found spares deep

/-- An answer changes nothing but the cache files of its directory. -/
theorem Answered.spares {run : Except Fault ScopeIndex × Host}
    (answered : Answered host base marker source run) :
    host.Spares run.2 (IsCacheFile host base) := by
  cases answered with
  | unreadable _ _ spares => exact spares.weaken
  | refused => exact .refl _ _
  | unresolved => exact .refl _ _
  | loaded _ _ _ spares => exact spares.weaken
  | unstored _ _ spares => exact spares.weaken
  | tooDeep _ _ spares => exact spares.weaken
  | parsed _ _ leads spares _ =>
      apply spares.mono
      rintro _ rfl
      exact isCacheFile_nameOf leads _ _

end IndexCache

end AnnotatedMake
