import AnnotatedMake.Completion.Candidate
import AnnotatedMake.Proofs.CacheRecord.RoundTrip
import AnnotatedMake.Proofs.IndexCache.Run

namespace AnnotatedMake

section Recorded

/-- A cache file of the index of a Makefile is read as the records of that index. -/
theorem textOf?_contentOf (marker : String) (lines : List String) :
    textOf? (IndexCache.contentOf (.ofLines marker lines)) =
      some (CacheRecord.encodeIndex (.ofLines marker lines)) := by
  apply textOf?_bytesOf
  intro inside
  rw [CacheRecord.encodeIndex, String.toList_join, List.flatMap_map, List.mem_flatMap] at inside
  obtain ⟨definition, present, inRecord⟩ := inside
  have fit := recordable_of_mem_definitionsOf (ScopeIndex.mem_of_mem_ofDefinitions present)
  rw [CacheRecord.toList_encode, List.mem_append] at inRecord
  rcases inRecord with inLine | isFeed
  · exact absurd (CacheRecord.lineOf_oneLine fit _ inLine) (by decide)
  · exact absurd (List.mem_singleton.1 isFeed) (by decide)

theorem ScopeIndex.assignments_recorded (index : ScopeIndex) (target : Option String) :
    index.recorded.assignments target = index.assignments target := by
  simp [assignments, visibleTo, recorded, definitionsIn, List.filter_map, List.flatMap_assoc,
    List.flatMap_map, Function.comp_def, Parameter.recorded]

/-- What is offered depends on the scopes, the names and the values alone. -/
theorem ScopeIndex.candidates_recorded (index : ScopeIndex) (targets : List String)
    (target : Option String) (word : String) (position : Position) :
    (index.recorded.withTargets targets).candidates target word position =
      (index.withTargets targets).candidates target word position := by
  cases position with
  | target => rfl
  | parameter =>
      exact congrArg (fun all => distinct (all.filter (startsText word)))
        (index.assignments_recorded target)

/-- The index of a Makefile offers the same after it was kept in a cache file. -/
theorem ScopeIndex.candidates_decodeIndex (marker : String) (lines targets : List String)
    (target : Option String) (word : String) (position : Position) :
    ((CacheRecord.decodeIndex (CacheRecord.encodeIndex (.ofLines marker lines))).withTargets
      targets).candidates target word position =
        ((ScopeIndex.ofLines marker lines).withTargets targets).candidates target word
          position := by
  have decodes : CacheRecord.decodeIndex (CacheRecord.encodeIndex (.ofLines marker lines)) =
      (ScopeIndex.ofLines marker lines).recorded :=
    CacheRecord.decodeIndex_encodeIndex (ScopeIndex.noEmptyScope_ofDefinitions _ _)
      fun _ member =>
        recordable_of_mem_definitionsOf (ScopeIndex.mem_of_mem_ofDefinitions member)
  rw [decodes]
  exact candidates_recorded _ _ target word position

end Recorded

namespace IndexCache

variable [Platform]

/-- An answer offers what the Makefile gives now, or ends with a fault of its own. -/
def IsTransparent (base : Path) (host : Host) (marker : String) (source : Path)
    (outcome : Except Fault ScopeIndex) : Prop :=
  match host.query source (.error Fault.isDirectory) host.files.read, host.resolve source with
  | .error fault, _ => outcome = if fault.isSystem then .ok {} else .error fault
  | .ok _, .error fault => outcome = .error fault
  | .ok content, .ok _ =>
    (∃ index, outcome = .ok index ∧ ∀ target word position,
      index.candidates target word position =
        (ScopeIndex.ofSource marker (sourceLines content)).candidates target word position) ∨
    outcome = .error .tooManyLevels ∧ Program.levelLimit ≤ base.parts.length

section Answer

variable {base : Path} {asked : String → Path → Prop} {makefile : Path → Location} {host : Host}
  {marker : String} {source : Path} {time : Int}

omit [Platform] in
/-- The index from a cache file offers what its Makefile gives now. -/
theorem candidates_of_loaded (sound : IsFaithful base asked makefile host) {content : Bytes}
    {resolved : Path} {index : ScopeIndex} (isAsked : asked marker resolved)
    (read : host.query source (.error Fault.isDirectory) host.files.read = .ok content)
    (stands : host.placeOf? .target source = some (makefile resolved))
    (loaded : Loaded host base source (nameOf marker resolved) (.ok (some index), host))
    (target : Option String) (word : String) (position : Position) :
    (index.withTargets (RuleName.ofLines (sourceLines content))).candidates target word position =
      (ScopeIndex.ofSource marker (sourceLines content)).candidates target word position := by
  obtain ⟨changed, reading, status⟩ := Host.reading?_of_read read stands
  obtain ⟨_, node, _, _, _, _, told, _⟩ := Host.read_eq_ok read
  cases loaded with
  | @fresh home held written text leads present young decoded =>
      have notOlder : changed ≤ written := status node told ▸ young node told
      have same := sound.current marker resolved home held written content changed isAsked leads
        present reading notOlder
      rw [same, textOf?_contentOf] at decoded
      obtain rfl := Option.some.inj decoded
      exact ScopeIndex.candidates_decodeIndex _ _ _ target word position

/-- A sound host answers as if the Makefile were read anew. -/
theorem isTransparent_answer (sound : IsFaithful base asked makefile host)
    (allowed : Event.Allowed base asked makefile host (.ask marker source time)) :
    IsTransparent base host marker source (answer base host marker source time).1 := by
  have clocked := sound.of_clock time
  have answered := answered_ensureFresh clocked.tidy marker source
  rw [answer]
  change IsTransparent base { host with clock := time } marker source _
  generalize (ensureFresh { directory := base, marker } source none).run
    { host with clock := time } = run at answered ⊢
  cases answered with
  | unreadable unread system _ =>
      rw [IsTransparent, unread]
      exact (if_pos system).symm
  | refused unread notSystem =>
      rw [IsTransparent, unread]
      exact (if_neg (Bool.not_eq_true _ ▸ notSystem)).symm
  | unresolved read lost => rw [IsTransparent, read, lost]
  | loaded read found fresh _ =>
      obtain ⟨isAsked, stands⟩ := allowed _ _ read found
      rw [IsTransparent, read, found]
      exact .inl ⟨_, rfl, candidates_of_loaded clocked isAsked read stands fresh⟩
  | parsed read found _ _ _ =>
      rw [IsTransparent, read, found]
      exact .inl ⟨_, rfl, fun _ _ _ => rfl⟩
  | unstored read found _ =>
      rw [IsTransparent, read, found]
      exact .inl ⟨_, rfl, fun _ _ _ => rfl⟩
  | tooDeep read found _ deep =>
      rw [IsTransparent, read, found]
      exact .inr ⟨rfl, deep⟩

end Answer

/-- Every answer of a run offers what reading the source at its time would offer. -/
theorem answers_transparent {base : Path} {asked : String → Path → Prop}
    {makefile : Path → Location} {host : Host} {marker : String} {source : Path} {time : Int}
    (start : IsStart base asked makefile host) (keys : HasDistinctKeys asked)
    {earlier later : List Event}
    (run : IsRun base asked makefile host (earlier ++ .ask marker source time :: later)) :
    IsTransparent base (earlier.foldl (Event.after base) host) marker source
      (answer base (earlier.foldl (Event.after base) host) marker source time).1 := by
  obtain ⟨before, allowed, _⟩ := isRun_append run
  exact isTransparent_answer (isSound_foldl (isSound_of_isStart start) keys before) allowed

end IndexCache

end AnnotatedMake

namespace AnnotatedMake.IndexCache

variable {host : Host} {time changed : Int} {content : Bytes}

/-- The path of a Makefile in the root directory. -/
def rootFile : Path := ⟨.root, ["Makefile"]⟩

/-- A host with nothing but a Makefile in its root directory. -/
def rootHost (content : Bytes) (time : Int) : Host :=
  { files := FileSystem.empty.put ["Makefile"] (.file content time), clock := time }

theorem node?_rootHost (content : Bytes) (time : Int) (place : Location) :
    (rootHost content time).files.node? place =
      if place = ["Makefile"] then some (.file content time)
      else if place = [] then some (.directory 0) else none := by
  rw [rootHost, FileSystem.node?_put, FileSystem.node?_empty]

theorem notLink_rootHost (content : Bytes) (time : Int) (place : Location) (target : String) :
    (rootHost content time).files.node? place ≠ some (.link target) := by
  rw [node?_rootHost]
  split
  · simp
  · split <;> simp

theorem route_rootFile (host : Host) : host.route rootFile = .ok (.along [] ["Makefile"]) := by
  rw [Host.route, if_neg (by decide), if_neg (by decide), rootFile]

theorem lookUp_rootFile (root : host.files.node? [] = some (.directory time))
    (file : host.files.node? ["Makefile"] = some (.file content changed)) (purpose : Purpose) :
    host.files.lookUp purpose [] ["Makefile"] =
      .ok (.found ["Makefile"] (.file content changed)) := by
  have entry : IsEntryName "Makefile" := ⟨by decide, by decide⟩
  have walked : host.files.walk purpose FileSystem.linkAllowance [] ["Makefile"] = _ :=
    FileSystem.walk_last entry root
  rw [FileSystem.lookUp, walked, if_neg (by decide), List.nil_append, file]

theorem read_rootFile (root : host.files.node? [] = some (.directory time))
    (file : host.files.node? ["Makefile"] = some (.file content changed)) :
    host.query rootFile (.error Fault.isDirectory) host.files.read = .ok content := by
  simp only [Host.query, route_rootFile, FileSystem.read, lookUp_rootFile root file]

theorem placeOf?_rootFile (root : host.files.node? [] = some (.directory time))
    (file : host.files.node? ["Makefile"] = some (.file content changed)) :
    host.placeOf? .target rootFile = some ["Makefile"] := by
  simp only [Host.placeOf?, Host.query, route_rootFile, lookUp_rootFile root file]

theorem target_rootFile {linkAt : Path → Option String} (noLink : linkAt rootFile = none) :
    Resolution.target linkAt rootFile = .ok rootFile := by
  rw [rootFile] at noLink
  simp [Resolution.target, Resolution.follow, Resolution.below, noLink, rootFile]

theorem linkAt_rootFile (root : host.files.node? [] = some (.directory time))
    (file : host.files.node? ["Makefile"] = some (.file content changed)) :
    host.linkAt rootFile = none := by
  simp only [Host.linkAt, Host.query, route_rootFile, lookUp_rootFile root file]

theorem linkOf_rootFile (file : host.files.node? ["Makefile"] = some (.file content changed)) :
    host.linkOf rootFile = none := by
  have spot : host.spot rootFile = ["Makefile"] := rfl
  apply Host.linkOf_eq_none
  rw [spot, file]
  simp

theorem resolve_rootFile (root : host.files.node? [] = some (.directory time))
    (file : host.files.node? ["Makefile"] = some (.file content changed)) :
    host.resolve rootFile = .ok rootFile := by
  have told : host.query rootFile (.error Fault.notFound) host.files.nodeAt =
      .ok (.file content changed) := by
    simp only [Host.query, route_rootFile, FileSystem.nodeAt, lookUp_rootFile root file]
  have absolute : host.absolute rootFile = .ok rootFile := rfl
  have reached : host.circles rootFile = false := by rw [Host.circles, told]
  rw [Host.resolve, if_neg (by decide), target_rootFile (linkAt_rootFile root file)]
  simp only [bind, Except.bind, absolute, reached]
  rfl

/-- What is asked for in the section: the index of the Makefile in the root directory. -/
def IsRootFile (marker : String) (resolved : Path) : Prop := marker = "##" ∧ resolved = rootFile

theorem allowed_rootFile {base : Path} (noDots : host.HasNoDots) {moment : Int}
    (root : host.files.node? [] = some (.directory time))
    (file : host.files.node? ["Makefile"] = some (.file content changed)) :
    Event.Allowed base IsRootFile Path.parts host (.ask "##" rootFile moment) := by
  have linkAt := target_rootFile (linkAt_rootFile root file)
  have linkOf := target_rootFile (linkOf_rootFile file)
  apply Event.allowed_ask noDots (linkAt.trans linkOf.symm)
  intro resolved found
  obtain rfl := Except.ok.inj ((resolve_rootFile root file).symm.trans found)
  exact ⟨rfl, rfl⟩

/-- The run that the section is about: a Makefile is written and asked for once. -/
def rootRun : List Event :=
  [.write ["Makefile"] (bytesOf "## PARAM name: value\n") 5, .ask "##" rootFile 6]

theorem isCacheFile_root (vacant : host.files.node? ["cache"] = none) {place : Location}
    (isCache : IsCacheFile host ⟨.root, ["cache"]⟩ place) : ∃ name, place = ["cache", name] := by
  obtain ⟨home, name, leads, _, rfl⟩ := isCache
  have lead : host.leads? ⟨.root, ["cache"]⟩ = some ["cache"] := by
    simp [Host.leads?, Host.wayOf?, FileSystem.leads?, FileSystem.isHere, vacant]
  obtain rfl := Option.some.inj (lead.symm.trans leads)
  exact ⟨name, rfl⟩

/-- A host with an empty root directory is one to start from. -/
theorem isStart_empty : IsStart ⟨.root, ["cache"]⟩ IsRootFile Path.parts {} where
  tidy := {
    plain := ⟨by decide, by decide⟩
    current := by
      intro name member
      cases member
    kinds := by
      intro place node isCache present
      obtain ⟨name, rfl⟩ := isCacheFile_root rfl isCache
      cases present
    names := by
      intro place name isCache present
      obtain ⟨_, same⟩ := isCacheFile_root rfl isCache
      rw [same] at present
      exact absurd rfl present
    log := fun place _ => (Option.some_ne_none place).symm }
  outside := by
    rintro marker resolved ⟨_, rfl⟩ isCache
    obtain ⟨_, same⟩ := isCacheFile_root rfl isCache
    exact absurd (congrArg List.length same) (by simp [rootFile])
  unlogged := fun _ _ _ => (Option.some_ne_none _).symm
  empty := by
    intro place content changed isCache present
    obtain ⟨name, rfl⟩ := isCacheFile_root rfl isCache
    cases present

/-- The second time the Makefile of a run is asked for, its cache file may be used. -/
theorem answers_transparent_twice :
    IsTransparent ⟨.root, ["cache"]⟩ (rootRun.foldl (Event.after ⟨.root, ["cache"]⟩) {}) "##"
      rootFile (answer ⟨.root, ["cache"]⟩ (rootRun.foldl (Event.after ⟨.root, ["cache"]⟩) {}) "##"
        rootFile 8).1 := by
  have keys : HasDistinctKeys IsRootFile := by
    rintro _ _ _ _ ⟨rfl, rfl⟩ ⟨rfl, rfl⟩ _
    exact ⟨rfl, rfl⟩
  have writes : Event.Allowed ⟨.root, ["cache"]⟩ IsRootFile Path.parts {}
      (.write ["Makefile"] (bytesOf "## PARAM name: value\n") 5) := by
    refine ⟨isStart_empty.outside "##" rootFile ⟨rfl, rfl⟩, ?_, ?_⟩
    · intro node present
      cases present
    intro other content changed isCache present
    exact absurd present (isStart_empty.empty other content changed isCache)
  have written := isSound_after (isSound_of_isStart isStart_empty) keys writes
  have spares := (answered_ensureFresh (written.of_clock 6).tidy "##" rootFile).spares
  have spared (place : Location) (short : place.length < 2) := by
    refine spares.nodes place ?_ (Option.some_ne_none place).symm
    intro isCache
    obtain ⟨name, rfl⟩ := isCacheFile_root rfl isCache
    exact absurd short (by simp)
  have file := (spared ["Makefile"] (by decide)).file_iff.1 rfl
  have root : ∃ time, (rootRun.foldl (Event.after ⟨.root, ["cache"]⟩) {}).files.node? [] =
      some (.directory time) := (spared [] (by decide)).directory
  obtain ⟨_, root⟩ := root
  have first : Event.Allowed ⟨.root, ["cache"]⟩ IsRootFile Path.parts
      (Event.after ⟨.root, ["cache"]⟩ {} (.write ["Makefile"] (bytesOf "## PARAM name: value\n") 5))
      (.ask "##" rootFile 6) := by
    apply allowed_rootFile _ rfl rfl
    exact List.not_mem_nil
  have here : (rootRun.foldl (Event.after ⟨.root, ["cache"]⟩) {}).directory = {} :=
    spares.directory
  have noDots : (rootRun.foldl (Event.after ⟨.root, ["cache"]⟩) {}).HasNoDots := by
    rw [Host.HasNoDots, here]
    exact List.not_mem_nil
  have run : IsRun ⟨.root, ["cache"]⟩ IsRootFile Path.parts {}
      (rootRun ++ .ask "##" rootFile 8 :: []) :=
    ⟨writes, first, allowed_rootFile noDots root file, trivial⟩
  exact answers_transparent isStart_empty keys run

end AnnotatedMake.IndexCache
