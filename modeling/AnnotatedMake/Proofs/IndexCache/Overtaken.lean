import AnnotatedMake.Proofs.IndexCache.Again

namespace AnnotatedMake

namespace IndexCache

variable {cache : IndexCache} {host after : Host} {source resolved : Path} {content : Bytes}
  {old : List String}

section Stored

variable [Platform]

variable (steady : IsSteady host cache source) (proper : cache.directory.IsProper)
  (enabled : cache.enabled = true)
  (read : host.query source (.error Fault.isDirectory) host.files.read = .ok content)
  (found : host.resolve source = .ok resolved)
include steady proper enabled read found

/-- Lines whose index was stored after the Makefile was changed give the parameters of the next
answer. -/
theorem IsSteady.asked_stored
    (notLink : ∀ place,
      host.entryAt? (cache.directory.child (nameOf cache.marker resolved)) = some place →
        ∀ target, host.files.node? place ≠ some (.link target))
    (past : ∀ makefile, host.nodeOf? source = some makefile →
      (Host.statusOf makefile).changed ≤ host.clock)
    (ran : (replace (.ofLines cache.marker old)
      (cache.directory.child (nameOf cache.marker resolved))).run host = (.ok (), after))
    (entries : List Entry) :
    ∃ index last,
      (cache.ensureFresh source none).run (after.reportAll entries) = (.ok index, last) ∧
      ∀ target word position, index.candidates target word position =
        ((ScopeIndex.ofLines cache.marker old).withTargets
          (RuleName.ofLines (sourceLines content))).candidates target word position := by
  obtain ⟨place, makefile, changed, stands, present, reading, _, _⟩ := Host.read_eq_ok read
  have published := steady.published proper resolved (.ofLines cache.marker old) rfl []
  have unreported : (replace (.ofLines cache.marker old)
      (cache.directory.child (nameOf cache.marker resolved))).run (host.reportAll []) = _ := ran
  rw [unreported] at published
  have recalls := steady.recalls_of_written found stands present
    (Node.notDirectory_of_reading reading) (Node.notLink_of_reading reading) published entries
  obtain ⟨time, recent, fresh⟩ :=
    steady.freshText?_written found stands present notLink published entries recalls
  have young := Int.le_trans (past makefile (Host.nodeOf?_of_placeOf? stands present)) recent
  rw [if_pos young] at fresh
  obtain ⟨index, last, asked, same⟩ :=
    steady.asked_later proper enabled read found recalls (.of_fresh fresh)
  refine ⟨index, last, asked, fun target word position => ?_⟩
  rw [same]
  exact ScopeIndex.candidates_decodeIndex _ _ _ target word position

/-- Where nothing was stored and nothing fresh was there, the Makefile gives the next answer. -/
theorem IsSteady.asked_unstored {fault : Fault}
    (ran : (replace (.ofLines cache.marker old)
      (cache.directory.child (nameOf cache.marker resolved))).run host = (.error fault, after))
    (entries : List Entry) :
    ∃ index last,
      (cache.ensureFresh source none).run (after.reportAll entries) = (.ok index, last) ∧
      (freshText? host source (cache.directory.child (nameOf cache.marker resolved)) = none →
        ∀ target word position, index.candidates target word position =
          (ScopeIndex.ofSource cache.marker (sourceLines content)).candidates target word
            position) := by
  obtain ⟨place, makefile, changed, stands, present, reading, _, _⟩ := Host.read_eq_ok read
  have notDirectory := Node.notDirectory_of_reading reading
  have published := steady.published proper resolved (.ofLines cache.marker old) rfl []
  have unreported : (replace (.ofLines cache.marker old)
      (cache.directory.child (nameOf cache.marker resolved))).run (host.reportAll []) = _ := ran
  rw [unreported] at published
  obtain ⟨lasts, still⟩ := steady.lasts_refused stands present notDirectory published entries
  have later {index : ScopeIndex} :
      OffersLater (after.reportAll entries) source _ cache.marker _ index → _ :=
    steady.asked_later proper enabled read found (steady.recalls_of_lasts stands present
      (Node.notLink_of_reading reading) lasts still)
  cases fresh : freshText? (after.reportAll entries) source
      (cache.directory.child (nameOf cache.marker resolved)) with
  | none =>
      obtain ⟨index, last, asked, same⟩ := later (.of_missed fresh)
      exact ⟨index, last, asked, fun _ => same⟩
  | some text =>
      obtain ⟨index, last, asked, _⟩ := later (.of_fresh fresh)
      refine ⟨index, last, asked, fun missed => ?_⟩
      rw [steady.missed_again found stands present proper notDirectory missed published entries]
        at fresh
      cases fresh

/-- A change made before the store is lost: the next answer offers the old parameters. -/
theorem IsSteady.asked_overtaken
    (notLink : ∀ place,
      host.entryAt? (cache.directory.child (nameOf cache.marker resolved)) = some place →
        ∀ target, host.files.node? place ≠ some (.link target))
    (past : ∀ makefile, host.nodeOf? source = some makefile →
      (Host.statusOf makefile).changed ≤ host.clock) (old : List String) :
    ∃ stored after index last,
      (store (.ofLines cache.marker old)
        (cache.directory.child (nameOf cache.marker resolved))).run host = (.ok stored, after) ∧
      (cache.ensureFresh source none).run after = (.ok index, last) ∧
      (stored = true → ∀ target word position, index.candidates target word position =
        ((ScopeIndex.ofLines cache.marker old).withTargets
          (RuleName.ofLines (sourceLines content))).candidates target word position) ∧
      (stored = false →
        freshText? host source (cache.directory.child (nameOf cache.marker resolved)) = none →
        ∀ target word position, index.candidates target word position =
          (ScopeIndex.ofSource cache.marker (sourceLines content)).candidates target word
            position) := by
  rw [run_store]
  cases ran : (replace (.ofLines cache.marker old)
      (cache.directory.child (nameOf cache.marker resolved))).run host with
  | mk outcome after =>
      cases outcome with
      | ok _ =>
          obtain ⟨index, last, asked, same⟩ :=
            steady.asked_stored proper enabled read found notLink past ran [_]
          exact ⟨true, _, index, last, rfl, asked, fun _ => same, nofun⟩
      | error fault =>
          have unreported : (replace (.ofLines cache.marker old)
              (cache.directory.child (nameOf cache.marker resolved))).run (host.reportAll []) = _ :=
            ran
          have system := steady.isSystem_of_replace proper rfl unreported
          obtain ⟨index, last, asked, same⟩ := steady.asked_unstored proper enabled read found ran
            [_]
          exact ⟨false, _, index, last, if_pos system, asked, nofun, fun _ => same⟩

end Stored

end IndexCache

end AnnotatedMake

namespace AnnotatedMake.IndexCache

/-- A parameter is renamed while its Makefile is indexed, and the old name is offered. -/
theorem asked_overtaken_renamed :
    ∃ after index last,
      (readLines rootFile).run (rootHost (bytesOf "## PARAM a: 1\n") 5) =
        (.ok ["## PARAM a: 1"], rootHost (bytesOf "## PARAM a: 1\n") 5) ∧
      (store (.ofLines "##" ["## PARAM a: 1"]) ⟨.root, [nameOf "##" rootFile]⟩).run
        (rootHost (bytesOf "## PARAM b: 2\n") 6) = (.ok true, after) ∧
      (rootCache.ensureFresh rootFile none).run after = (.ok index, last) ∧
      index.candidates none "" .parameter = ["a=1"] ∧
      (ScopeIndex.ofSource "##" (sourceLines (bytesOf "## PARAM b: 2\n"))).candidates none ""
        .parameter = ["b=2"] := by
  have root := node?_rootHost (bytesOf "## PARAM b: 2\n") 6 []
  have file := node?_rootHost (bytesOf "## PARAM b: 2\n") 6 ["Makefile"]
  have readOld : (readLines rootFile).run (rootHost (bytesOf "## PARAM a: 1\n") 5) =
      (.ok ["## PARAM a: 1"], rootHost (bytesOf "## PARAM a: 1\n") 5) := by
    have lines : sourceLines (bytesOf "## PARAM a: 1\n") = ["## PARAM a: 1"] := by decide +kernel
    rw [readLines, Program.bind_eq_bind, Program.run_bind, Program.run_contentOf,
      read_rootFile (node?_rootHost _ 5 []) (node?_rootHost _ 5 ["Makefile"]), ← lines]
    rfl
  have past (makefile : Node)
      (told : (rootHost (bytesOf "## PARAM b: 2\n") 6).nodeOf? rootFile = some makefile) :
      (Host.statusOf makefile).changed ≤ (rootHost (bytesOf "## PARAM b: 2\n") 6).clock := by
    have stands := placeOf?_rootFile root file
    obtain rfl := Option.some.inj ((Host.nodeOf?_of_placeOf? stands file).symm.trans told)
    exact Int.le_refl _
  obtain ⟨stored, after, index, last, ran, asked, lost, _⟩ :=
    (isSteady_rootHost (bytesOf "## PARAM b: 2\n") 6).asked_overtaken (Path.isProper_root _) rfl
      (read_rootFile root file) (resolve_rootFile root file)
      (fun place _ => notLink_rootHost _ 6 place) past ["## PARAM a: 1"]
  have named := isPlainName_nameOf "##" rootFile
  have below : rootCache.directory.child (nameOf rootCache.marker rootFile) =
      ⟨.root, [nameOf "##" rootFile]⟩ := Path.child_of_oneName ⟨.root, []⟩ named.toIsOneName
  obtain ⟨_, _, replaced, _⟩ := replace_of_root (.ofLines rootCache.marker ["## PARAM a: 1"]) root
    named (isLongName_nameOf "##" rootFile) (by decide +kernel) fun time isDirectory => by
      have differs : [nameOf "##" rootFile] ≠ ["Makefile"] := by
        simpa using nameOf_ne "##" rootFile (by decide)
      rw [node?_rootHost, if_neg differs, if_neg (by simp)] at isDirectory
      cases isDirectory
  have stores := run_store (.ofLines rootCache.marker ["## PARAM a: 1"])
    ⟨.root, [nameOf "##" rootFile]⟩ (rootHost (bytesOf "## PARAM b: 2\n") 6)
  rw [replaced] at stores
  rw [below] at ran
  obtain rfl : true = stored := Except.ok.inj (Prod.mk.inj (stores.symm.trans ran)).1
  refine ⟨after, index, last, readOld, ran, asked, ?_, by decide +kernel⟩
  rw [lost rfl]
  decide +kernel

end AnnotatedMake.IndexCache
