import AnnotatedMake.Proofs.IndexCache.Serving
import AnnotatedMake.Proofs.IndexCache.Transparency

namespace AnnotatedMake

namespace Host

variable {host after : Host} {file : Path} {changed : Location → Prop}

/-- Only some places, the log and the times and directories above a path are changed. -/
def Preserves (host after : Host) (file : Path) (changed : Location → Prop) : Prop :=
  ∀ place, host.logFile ≠ some place → ¬ changed place →
    after.files.node? place = host.files.node? place ∨
    (∃ earlier later, host.files.node? place = some (.directory earlier) ∧
      after.files.node? place = some (.directory later)) ∨
    host.files.node? place = none ∧ (∃ time, after.files.node? place = some (.directory time)) ∧
      ∃ count, host.leads? (file.parent.upTo count) = some place

/-- What is reported before and after directories are made is found in the log alone. -/
theorem Builds.preserves {entries : List Entry} (proper : file.IsProper)
    (builds : (host.reportAll entries).Builds after file.parent changed) (later : List Entry) :
    host.Preserves (after.reportAll later) file changed := by
  intro place notLog spared
  have logThen : (host.reportAll entries).logFile ≠ some place := by
    rwa [logFile_reportAll]
  have before := node?_reportAll notLog entries
  rw [node?_reportAll (builds.logFile_ne logThen) later, ← before]
  have alike := builds.alike place spared
  cases was : (host.reportAll entries).files.node? place with
  | some node =>
      rw [was] at alike
      generalize after.files.node? place = stands at alike ⊢
      cases alike with
      | same => exact .inl rfl
      | changed => exact .inr (.inl ⟨_, _, rfl, rfl⟩)
  | none =>
      by_cases still : after.files.node? place = none
      · exact .inl still
      · obtain ⟨⟨count, leads⟩, _⟩ := builds.made proper.parent place spared was still
        rw [(spares_reportAll host entries fun _ => False).leads?] at leads
        rw [was] at alike
        refine .inr (.inr ⟨rfl, ?_, count, leads⟩)
        generalize after.files.node? place = stands at alike still ⊢
        cases alike with
        | same => exact absurd rfl still
        | made time => exact ⟨time, rfl⟩

end Host

namespace IndexCache

variable [Platform]

variable {host : Host} {source file : Path} {marker : String} {lines : List String}

/-- What may happen when the index of the lines of a Makefile is asked for. -/
inductive Harmless (host after : Host) (marker : String) (source file : Path)
    (lines : List String) (entries : List Entry) : Except Fault ScopeIndex → Prop where
  /-- A fresh cache file is used, and nothing is changed. -/
  | loaded {text : String} (fresh : freshText? host source file = some text)
      (quiet : HasNoWarning entries)
      (same : ∀ place, host.logFile ≠ some place →
        after.files.node? place = host.files.node? place) :
      Harmless host after marker source file lines entries
        (.ok ((CacheRecord.decodeIndex text).withTargets (RuleName.ofLines lines)))
  /-- The Makefile is parsed, and the cache file has all records of it. -/
  | stored (missed : freshText? host source file = none) (quiet : HasNoWarning entries)
      (reads : after.query file (.error Fault.isDirectory) after.files.read =
        .ok (contentOf (.ofLines marker lines)))
      (preserves : host.Preserves after file fun place => host.entryAt? file = some place) :
      Harmless host after marker source file lines entries (.ok (.ofSource marker lines))
  /-- The Makefile is parsed, and one warning says that its records are not kept. -/
  | refused (missed : freshText? host source file = none)
      (warned : (entries.filter fun entry => entry.level = .warning).length = 1)
      (preserves : host.Preserves after file fun _ => False) :
      Harmless host after marker source file lines entries (.ok (.ofSource marker lines))
  /-- Below too many missing directories a fault ends the call, and nothing is changed. -/
  | tooDeep (missed : freshText? host source file = none) (quiet : HasNoWarning entries)
      (deep : Program.levelLimit ≤ file.parent.parts.length)
      (preserves : host.Preserves after file fun _ => False) :
      Harmless host after marker source file lines entries (.error .tooManyLevels)

omit [Platform] in
theorem HasNoWarning.concat {earlier : List Entry} {last : Entry} (quiet : HasNoWarning earlier)
    (level : last.level ≠ .warning) : HasNoWarning (earlier ++ [last]) := by
  intro entry member
  rcases List.mem_append.1 member with before | isLast
  · exact quiet entry before
  · obtain rfl := List.mem_singleton.1 isLast
    exact level

omit [Platform] in
theorem HasNoWarning.length_filter_concat {earlier : List Entry} {last : Entry}
    (quiet : HasNoWarning earlier) (level : last.level = .warning) :
    ((earlier ++ [last]).filter fun entry => entry.level = .warning).length = 1 := by
  have none : (earlier.filter fun entry => entry.level = .warning) = [] := by
    apply List.filter_eq_nil_iff.2
    intro entry member
    simpa using quiet entry member
  rw [List.filter_append, none]
  simp [level]

section Published

variable {after : Host} {earlier : List Entry} {content : Bytes} (proper : file.IsProper)
include proper

/-- A cache file that was written still has its content after a report, and the rest is spared. -/
theorem preserves_of_written (log : host.HasLogFile) (last : Entry)
    (notLink : ∀ place, host.entryAt? file = some place → ∀ target,
      host.files.node? place ≠ some (.link target))
    (published : Published (host.reportAll earlier) file content (.ok (), after)) :
    (after.reportAll [last]).query file (.error Fault.isDirectory)
        (after.reportAll [last]).files.read = .ok content ∧
      host.Preserves (after.reportAll [last]) file fun place =>
        host.entryAt? file = some place := by
  cases published with
  | @written _ home name time stands present builds _ keepsWay =>
      have spares := host.spares_reportAll earlier fun _ => False
      rw [Host.entryAt?_congr spares.directory spares.links] at stands
      obtain ⟨_, _, ends, unlogged⟩ := keepsWay fun target isLink =>
        notLink _ stands target ((spares.links _ _).2 isLink)
      have notLog := unlogged (log.reportAll earlier)
      have still : (after.reportAll [last]).files.node? (home ++ [name]) = _ :=
        (Host.node?_reportAll notLog [last]).trans present
      have stillEnds : (after.reportAll [last]).Ends file home name :=
        ends.of_ways (after.spares_reportAll [last] fun _ => False).directory
          (after.keeps_reportAll [last]).1.ways
      refine ⟨stillEnds.read still, fun place apart spared => ?_⟩
      apply builds.preserves proper [last] place apart
      rintro rfl
      exact spared stands

/-- Where no cache file could be written, everything is spared. -/
theorem preserves_of_failed {fault : Fault} (later : List Entry)
    (published : Published (host.reportAll earlier) file content (.error fault, after)) :
    host.Preserves (after.reportAll later) file fun _ => False := by
  cases published with
  | failed _ _ builds => exact builds.preserves proper later

end Published

theorem log_run_replace (host : Host) (index : ScopeIndex) (file : Path) (earlier : List Entry) :
    ((replace index file).run (host.reportAll earlier)).2.log = host.log ++ earlier := by
  rw [(Host.precedes_run (silent_replace index file) _).log, Host.log_reportAll]

/-- Whatever stands at and above the cache file, asking for an index harms nothing. -/
theorem harmless_ensureFresh (cache : IndexCache) (enabled : cache.enabled = true)
    {text : String} (noNull : Char.ofNat 0 ∉ text.toList) (current : host.HasPlainDirectory)
    (unlinked : ∀ place, host.entryAt? (.ofString text) = some place → ∀ target,
      host.files.node? place ≠ some (.link target))
    (log : host.HasLogFile)
    {content : Bytes}
    (read : host.query source (.error Fault.isDirectory) host.files.read = .ok content) :
    ∃ entries,
      ((cache.ensureFresh source (some (.ofString text))).run host).2.log = host.log ++ entries ∧
      Harmless host ((cache.ensureFresh source (some (.ofString text))).run host).2 cache.marker
        source (.ofString text) (sourceLines content) entries
        ((cache.ensureFresh source (some (.ofString text))).run host).1 := by
  have proper := Path.isProper_ofString noNull
  have served := served_ensureFresh cache enabled proper.noNull read
  generalize (cache.ensureFresh source (some (.ofString text))).run host = run at served ⊢
  generalize Path.ofString text = file at proper served unlinked ⊢
  have publishes := published_reportAll (.ofLines cache.marker (sourceLines content)) proper current
  have logs := log_run_replace host (.ofLines cache.marker (sourceLines content)) file
  cases served with
  | @loaded text entry fresh quiet =>
      have nothing : HasNoWarning [] := by simp [HasNoWarning]
      exact ⟨[entry], Host.log_report host entry, .loaded fresh (nothing.concat quiet)
        fun place notLog => Host.node?_reportAll notLog [entry]⟩
  | @written earlier last after missed quiet ran level =>
      have published := publishes earlier
      have logged := logs earlier
      rw [ran] at published logged
      obtain ⟨reads, preserves⟩ := preserves_of_written proper log last unlinked published
      refine ⟨earlier ++ [last], ?_, .stored missed (quiet.concat level) reads preserves⟩
      rw [Host.log_report, logged, List.append_assoc]
  | @refused earlier last after fault missed quiet ran system level =>
      have published := publishes earlier
      have logged := logs earlier
      rw [ran] at published logged
      refine ⟨earlier ++ [last], ?_, .refused missed (quiet.length_filter_concat level)
        (preserves_of_failed proper [last] published)⟩
      rw [Host.log_report, logged, List.append_assoc]
  | @failed earlier after fault missed quiet ran notSystem =>
      have published := publishes earlier
      have logged := logs earlier
      rw [ran] at published logged
      have preserves := preserves_of_failed proper [] published
      cases published with
      | failed _ allowed _ =>
          obtain ⟨rfl, deep⟩ := allowed.resolve_left (Bool.eq_false_iff.1 notSystem)
          exact ⟨earlier, logged, .tooDeep missed quiet deep preserves⟩

end IndexCache

end AnnotatedMake

namespace AnnotatedMake.IndexCache

/-- The directories above the cache file are missing, and the Makefile ends with a faulty byte. -/
theorem harmless_ensureFresh_missing :
    ∃ entries,
      ((ensureFresh { directory := ⟨.root, []⟩ } rootFile (some (.ofString "/a/b/c"))).run
        (rootHost [35, 255] 5)).2.log = entries ∧
      Harmless (rootHost [35, 255] 5) ((ensureFresh { directory := ⟨.root, []⟩ } rootFile
        (some (.ofString "/a/b/c"))).run (rootHost [35, 255] 5)).2 "##" rootFile
        (.ofString "/a/b/c") (sourceLines [35, 255]) entries
        ((ensureFresh { directory := ⟨.root, []⟩ } rootFile (some (.ofString "/a/b/c"))).run
          (rootHost [35, 255] 5)).1 := by
  have noName : (rootHost [35, 255] 5).HasPlainDirectory := by
    intro name member
    cases member
  have noLog : (rootHost [35, 255] 5).HasLogFile := by
    intro place isLog
    cases isLog
  exact harmless_ensureFresh { directory := ⟨.root, []⟩ } rfl (by decide) noName
    (fun place _ => notLink_rootHost _ _ place) noLog (read_rootFile rfl rfl)

end AnnotatedMake.IndexCache
