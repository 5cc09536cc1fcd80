import AnnotatedMake.Proofs.IndexCache.Answer
import Mathlib.Tactic.ByContra

namespace AnnotatedMake

namespace IndexCache

variable {host after : Host} {source file : Path} {marker : String} {lines : List String}

/-- The text of a node that holds one without faulty bytes. -/
def textIn? (node : Node) : Option String := node.reading?.bind fun found => textOf? found.1

/-- The text of a cache file that is not older than its Makefile. -/
def freshText? (host : Host) (source file : Path) : Option String :=
  match host.nodeOf? source, host.nodeOf? file with
  | some makefile, some node =>
    if (Host.statusOf makefile).changed ≤ (Host.statusOf node).changed then textIn? node else none
  | _, _ => none

/-- None of the entries is a warning. -/
def HasNoWarning (entries : List Entry) : Prop := ∀ entry ∈ entries, entry.level ≠ .warning

variable [Platform]

theorem run_changed?_eq (noNull : ∀ part ∈ file.parts, Char.ofNat 0 ∉ part.toList) (host : Host) :
    (changed? file).run host =
      (.ok ((host.nodeOf? file).map fun node => (Host.statusOf node).changed), host) := by
  rw [run_changed?, Host.nodeOf?]
  cases asked : host.query file (.ok (.directory 0)) host.files.nodeAt with
  | ok node => rfl
  | error fault =>
      dsimp only
      rw [if_pos (Host.isSystem_of_query noNull asked)]
      rfl

theorem run_load (noNull : ∀ part ∈ file.parts, Char.ofNat 0 ∉ part.toList) {node : Node}
    (told : host.nodeOf? file = some node) :
    (∃ text, textIn? node = some text ∧
      (load file).run host = (.ok (some (CacheRecord.decodeIndex text)), host)) ∨
    textIn? node = none ∧ ∃ entries, HasNoWarning entries ∧
      (load file).run host = (.ok none, host.reportAll entries) := by
  have unreadable (fault : Fault) : HasNoWarning [{
      level := .info
      text := "Ignoring unreadable cache " ++ file.text ++ ": " ++ fault.brief }] := by
    simp [HasNoWarning]
  rw [load, Program.run_recover, Program.run_bind, run_readText, textIn?]
  cases read : host.query file (.error Fault.isDirectory) host.files.read with
  | error fault =>
      have none : node.reading? = none := by
        by_contra some'
        obtain ⟨⟨content, changed⟩, reading⟩ := Option.ne_none_iff_exists'.1 some'
        rw [Host.read_eq_ok_iff.2 ⟨node, changed, told, reading⟩] at read
        cases read
      have system := Host.isSystem_of_query noNull read
      rw [none]
      refine .inr ⟨rfl, _, unreadable fault, ?_⟩
      dsimp only
      rw [system, Bool.true_or, if_pos rfl]
      rfl
  | ok content =>
      obtain ⟨other, changed, toldToo, reading⟩ := Host.read_eq_ok_iff.1 read
      obtain rfl := Option.some.inj (told.symm.trans toldToo)
      rw [reading]
      dsimp only [Option.bind]
      cases decoded : textOf? content with
      | some text => exact .inl ⟨text, rfl, rfl⟩
      | none => exact .inr ⟨rfl, _, unreadable .notText, rfl⟩

/-- A cache file gives its index if it is fresh; otherwise it may be reported as unreadable. -/
theorem run_loadFresh (noNull : ∀ part ∈ file.parts, Char.ofNat 0 ∉ part.toList)
    {makefile : Node} (stands : host.nodeOf? source = some makefile) :
    (∃ text, freshText? host source file = some text ∧
      (loadFresh source file).run host = (.ok (some (CacheRecord.decodeIndex text)), host)) ∨
    freshText? host source file = none ∧ ∃ entries, HasNoWarning entries ∧
      (loadFresh source file).run host = (.ok none, host.reportAll entries) := by
  have nothing : HasNoWarning [] := by simp [HasNoWarning]
  simp only [loadFresh, isFresh, Program.bind_eq_bind, Program.pure_eq_done]
  rw [Program.run_bind, Program.run_bind, run_changed?_eq noNull, freshText?, stands]
  cases told : host.nodeOf? file with
  | none => exact .inr ⟨rfl, [], nothing, rfl⟩
  | some node =>
      dsimp only [Option.map]
      rw [Program.run_bind, run_changed?, Host.nodeOf?_eq_some.1 stands]
      simp only [Program.run_done, Option.any_some, decide_eq_true_eq]
      split
      · exact run_load noNull told
      · exact .inr ⟨rfl, [], nothing, rfl⟩

theorem run_remarks (marker : String) (lines : List String) (host : Host) :
    ∃ entries, HasNoWarning entries ∧
      (reportRemarks marker lines).run host = (.ok (), host.reportAll entries) := by
  rw [reportRemarks]
  induction remarksOn marker lines generalizing host with
  | nil => exact ⟨[], by simp [HasNoWarning], rfl⟩
  | cons remark rest ih =>
      let entry : Entry := { level := .debug, text := remark.2.atLine remark.1 }
      obtain ⟨entries, quiet, ran⟩ := ih (host.report entry)
      refine ⟨entry :: entries, ?_, ?_⟩
      · simpa [HasNoWarning, entry] using quiet
      · rw [Program.forEach, Program.run_bind]
        exact ran

/-- The index of a Makefile is loaded from a fresh text, or made anew and stored. -/
inductive Served (host : Host) (marker : String) (source file : Path) (lines : List String) :
    Except Fault ScopeIndex × Host → Prop where
  | loaded {text : String} {entry : Entry} (fresh : freshText? host source file = some text)
      (quiet : entry.level ≠ .warning) :
      Served host marker source file lines
        (.ok ((CacheRecord.decodeIndex text).withTargets (RuleName.ofLines lines)),
          host.report entry)
  | written {earlier : List Entry} {last : Entry} {after : Host}
      (missed : freshText? host source file = none) (quiet : HasNoWarning earlier)
      (ran : (replace (.ofLines marker lines) file).run (host.reportAll earlier) =
        (.ok (), after)) (level : last.level ≠ .warning) :
      Served host marker source file lines (.ok (.ofSource marker lines), after.report last)
  | refused {earlier : List Entry} {last : Entry} {after : Host} {fault : Fault}
      (missed : freshText? host source file = none) (quiet : HasNoWarning earlier)
      (ran : (replace (.ofLines marker lines) file).run (host.reportAll earlier) =
        (.error fault, after)) (system : fault.isSystem = true) (level : last.level = .warning) :
      Served host marker source file lines (.ok (.ofSource marker lines), after.report last)
  | failed {earlier : List Entry} {after : Host} {fault : Fault}
      (missed : freshText? host source file = none) (quiet : HasNoWarning earlier)
      (ran : (replace (.ofLines marker lines) file).run (host.reportAll earlier) =
        (.error fault, after)) (notSystem : fault.isSystem = false) :
      Served host marker source file lines (.error fault, after)

theorem run_store (index : ScopeIndex) (file : Path) (host : Host) :
    (store index file).run host =
      match (replace index file).run host with
      | (.ok _, after) => (.ok true, after.report
          { level := .debug, text := "Cache written to " ++ file.text })
      | (.error fault, after) =>
        if fault.isSystem then (.ok false, after.report
          { level := .warning, text := "Cannot write cache " ++ file.text ++ ": " ++ fault.brief })
        else (.error fault, after) := by
  simp only [store, Program.bind_eq_bind, Program.pure_eq_done]
  rw [Program.run_bind, Program.run_recover, Program.run_bind]
  generalize (replace index file).run host = run
  obtain ⟨outcome, after⟩ := run
  cases outcome with
  | ok _ => rfl
  | error fault =>
      cases system : fault.isSystem <;> simp [system, Program.run_bind, Program.run_report]

/-- An index is loaded or stored under a path without null characters. -/
theorem served_indexOf (cache : IndexCache) (enabled : cache.enabled = true)
    (noNull : ∀ part ∈ file.parts, Char.ofNat 0 ∉ part.toList) {makefile : Node}
    (stands : host.nodeOf? source = some makefile) (lines : List String) :
    Served host cache.marker source file lines
      ((cache.indexOf source (some file) lines).run host) := by
  simp only [indexOf, enabled, if_true, Program.bind_eq_bind, Program.pure_eq_done]
  rw [Program.run_bind, Program.run_done]
  dsimp only
  rw [Program.run_bind]
  rcases run_loadFresh noNull stands with ⟨text, fresh, ran⟩ | ⟨missed, earlier, quiet, ran⟩
  · rw [ran]
    exact .loaded fresh (by simp)
  · rw [ran]
    let parsing : Entry := { level := .debug, text := "Parsing " ++ source.text }
    obtain ⟨remarks, quietToo, remarked⟩ := run_remarks cache.marker lines
      ((host.reportAll earlier).report parsing)
    have noted : ((host.reportAll earlier).report parsing).reportAll remarks =
        host.reportAll (earlier ++ parsing :: remarks) := by
      rw [Host.reportAll_append]
      rfl
    have quietAll : HasNoWarning (earlier ++ parsing :: remarks) := by
      simp only [HasNoWarning, List.mem_append, List.mem_cons] at quiet quietToo ⊢
      rintro entry (before | rfl | behind)
      · exact quiet entry before
      · simp [parsing]
      · exact quietToo entry behind
    rw [noted] at remarked
    dsimp only
    rw [Program.run_bind, Program.debug, Program.run_report]
    simp only [parse, Program.bind_eq_bind, Program.pure_eq_done]
    rw [Program.run_bind, Program.run_bind, remarked]
    dsimp only [Program.run_done]
    rw [Program.run_bind, run_store]
    cases ran : (replace (.ofLines cache.marker lines) file).run
        (host.reportAll (earlier ++ parsing :: remarks)) with
    | mk outcome after =>
        cases outcome with
        | ok _ => exact .written missed quietAll ran (by simp)
        | error fault =>
            dsimp only
            cases system : fault.isSystem with
            | true => exact .refused missed quietAll ran system rfl
            | false => exact .failed missed quietAll ran system

/-- A Makefile that can be read is asked for by its lines. -/
theorem run_ensureFresh {content : Bytes}
    (read : host.query source (.error Fault.isDirectory) host.files.read = .ok content)
    (cache : IndexCache) (file : Option Path) :
    (cache.ensureFresh source file).run host =
      (cache.indexOf source file (sourceLines content)).run host := by
  simp only [ensureFresh, sourceLines?, readLines, Program.bind_eq_bind, Program.pure_eq_done]
  rw [Program.run_bind, Program.run_recover, Program.run_bind, Program.run_bind,
    Program.run_contentOf, read]
  rfl

/-- A Makefile that the system does not give has an empty index. -/
theorem run_ensureFresh_unread {fault : Fault}
    (unread : host.query source (.error Fault.isDirectory) host.files.read = .error fault)
    (system : fault.isSystem = true) (cache : IndexCache) (file : Option Path) :
    (cache.ensureFresh source file).run host = (.ok {}, host.report {
      level := .debug
      text := "Cannot read " ++ source.text ++ ": " ++ fault.brief }) := by
  simp only [ensureFresh, sourceLines?, readLines, Program.bind_eq_bind, Program.pure_eq_done]
  rw [Program.run_bind, Program.run_recover, Program.run_bind, Program.run_bind,
    Program.run_contentOf, unread]
  simp only [system, if_true, Program.run_bind, Program.debug, Program.run_report, Program.run_done]

/-- The index of a Makefile that can be read is loaded or stored under a path without null
characters. -/
theorem served_ensureFresh {content : Bytes} (cache : IndexCache) (enabled : cache.enabled = true)
    (noNull : ∀ part ∈ file.parts, Char.ofNat 0 ∉ part.toList)
    (read : host.query source (.error Fault.isDirectory) host.files.read = .ok content) :
    Served host cache.marker source file (sourceLines content)
      ((cache.ensureFresh source (some file)).run host) := by
  obtain ⟨makefile, _, stands, _⟩ := Host.read_eq_ok_iff.1 read
  rw [run_ensureFresh read]
  exact served_indexOf cache enabled noNull stands _

end IndexCache

end AnnotatedMake
