import AnnotatedMake.Proofs.Host.Without
import AnnotatedMake.Proofs.IndexCache.Serving
import AnnotatedMake.Proofs.IndexCache.Transparency

namespace AnnotatedMake

/-- What is no directory stays as it is. -/
theorem Alike.file {node : Node} {other : Option Node} (alike : Alike (some node) other)
    (notDirectory : ∀ time, node ≠ .directory time) : other = some node := by
  cases alike with
  | same => rfl
  | changed before => exact absurd rfl (notDirectory before)

/-- What is no directory later was the same before. -/
theorem Alike.file_of_later {node : Node} {other : Option Node} (alike : Alike other (some node))
    (notDirectory : ∀ time, node ≠ .directory time) : other = some node := by
  cases alike with
  | same => rfl
  | changed _ after => exact absurd rfl (notDirectory after)
  | made time => exact absurd rfl (notDirectory time)

/-- What can be read is no directory. -/
theorem Node.notDirectory_of_reading {node : Node} {found : Bytes × Int}
    (reading : node.reading? = some found) (time : Int) : node ≠ .directory time := by
  rintro rfl
  cases reading

/-- What can be read is no link. -/
theorem Node.notLink_of_reading {node : Node} {found : Bytes × Int}
    (reading : node.reading? = some found) (target : String) : node ≠ .link target := by
  rintro rfl
  cases reading

namespace Host

variable {host later : Host} {base path : Path} {name : String} {place : Location} {node : Node}

/-- A path whose last name is no link leads to what stands there. -/
theorem entryAt?_of_placeOf? (one : IsOneName name)
    (notLink : ∀ place, host.entryAt? (base.child name) = some place → ∀ target,
      host.files.node? place ≠ some (.link target))
    (stands : host.placeOf? .target (base.child name) = some place) :
    host.entryAt? (base.child name) = some place := by
  rw [entryAt?_child base one]
  rw [placeOf?] at stands
  split at stands
  · rename_i found
    obtain rfl := Option.some.inj stands
    obtain ⟨start, names, way, walked⟩ := query_child_eq_ok one found
    obtain ⟨home, leads, rfl, _⟩ := stands_of_found one way walked fun home leads =>
      notLink (home ++ [name]) (by rw [entryAt?_child base one, leads]; rfl)
    rw [leads]
    rfl
  · cases stands

/-- A path that still stands shows the node there. -/
theorem Lasts.nodeOf? (lasts : host.Lasts later) (stands : host.placeOf? .target path = some place)
    (still : later.files.node? place = some node) : later.nodeOf? path = some node :=
  nodeOf?_of_placeOf? (placeOf?_of_keeps lasts.directory lasts.keeps stands) still

end Host

namespace IndexCache

variable [Platform]

/-- A host on which asking a cache changes nothing the answer depends on but the cache file. -/
structure IsSteady (host : Host) (cache : IndexCache) (source : Path) : Prop where
  whole : host.IsWhole
  firm : host.HasFirmWay cache.directory
  shallow : cache.directory.parts.length < Program.levelLimit
  encodes : cache.enabled = true → host.resolve source ≠ .error .notEncoded
  met : Resolution.target host.linkAt source = Resolution.target host.linkOf source
  unlogged : ∀ place, host.placeOf? .target source = some place → host.logFile ≠ some place
  apart : ∀ resolved place, host.resolve source = .ok resolved →
    host.entryAt? (cache.directory.child (nameOf cache.marker resolved)) = some place →
      host.placeOf? .target source ≠ some place ∧ host.logFile ≠ some place ∧
        ∀ target, host.files.node? place = some (.link target) → host.GoesWithout place source
  unkept : ∀ resolved place, host.resolve source = .ok resolved →
    host.placeOf? .target (cache.directory.child (nameOf cache.marker resolved)) = some place →
      host.logFile ≠ some place

variable {cache : IndexCache} {host later : Host} {source : Path} {resolved : Path}
  {content : Bytes} {index : ScopeIndex}

/-- A Makefile is read and resolved later as it was before. -/
structure Recalls (host later : Host) (source : Path) : Prop where
  directory : later.directory = host.directory
  told : later.nodeOf? source = host.nodeOf? source
  resolved : later.resolve source = host.resolve source

/-- A cache that is given no file uses the one of the resolved path. -/
theorem run_ensureFresh_none
    (read : host.query source (.error Fault.isDirectory) host.files.read = .ok content)
    (found : host.resolve source = .ok resolved) :
    (cache.ensureFresh source none).run host = (cache.ensureFresh source
      (some (cache.directory.child (nameOf cache.marker resolved)))).run host := by
  rw [run_ensureFresh read, run_ensureFresh read, indexOf, indexOf]
  cases cache.enabled with
  | false => rfl
  | true =>
      simp only [if_true, pathFor, Program.bind_eq_bind, Program.pure_eq_done]
      rw [Program.run_bind, Program.run_bind, Program.run_resolve, found]
      rfl

section Twice

variable {file : Path} {marker : String} {lines : List String} {makefile : Node} {text : String}

omit [Platform] in
/-- A text is fresh when it is no older than the source. -/
theorem freshText?_eq_some_iff : freshText? host source file = some text ↔
    ∃ makefile node, host.nodeOf? source = some makefile ∧ host.nodeOf? file = some node ∧
      (Host.statusOf makefile).changed ≤ (Host.statusOf node).changed ∧
      textIn? node = some text := by
  rw [freshText?]
  constructor
  · intro fresh
    split at fresh
    · rename_i makefile node stands told
      split at fresh
      · exact ⟨makefile, node, stands, told, ‹_›, fresh⟩
      · cases fresh
    · cases fresh
  · rintro ⟨makefile, node, stands, told, young, isText⟩
    rw [stands, told]
    exact (if_pos young).trans isText

omit [Platform] in
/-- What holds a text is no directory. -/
theorem notDirectory_of_textIn? {node : Node} (isText : textIn? node = some text) (time : Int) :
    node ≠ .directory time := by
  rw [textIn?, Option.bind_eq_some_iff] at isText
  obtain ⟨found, reading, _⟩ := isText
  exact Node.notDirectory_of_reading reading time

omit [Platform] in
/-- A text that is fresh stays fresh where the Makefile and all texts stay. -/
theorem freshText?_mono (stands : host.nodeOf? source = some makefile)
    (still : later.nodeOf? source = some makefile)
    (told : ∀ node text, textIn? node = some text → host.nodeOf? file = some node →
      later.nodeOf? file = some node) (fresh : freshText? host source file = some text) :
    freshText? later source file = some text := by
  obtain ⟨other, node, standsToo, toldNode, young, isText⟩ := freshText?_eq_some_iff.1 fresh
  obtain rfl := Option.some.inj (stands.symm.trans standsToo)
  exact freshText?_eq_some_iff.2 ⟨_, node, still, told node text isText toldNode, young, isText⟩

/-- What an index that is asked for later offers, given what the cache file holds by then. -/
def OffersLater (later : Host) (source file : Path) (marker : String) (lines : List String)
    (index : ScopeIndex) : Prop :=
  match freshText? later source file with
  | some text => ∀ target word position,
      ((CacheRecord.decodeIndex text).withTargets (RuleName.ofLines lines)).candidates target word
        position = index.candidates target word position
  | none => ∀ target word position,
      (ScopeIndex.ofSource marker lines).candidates target word position =
        index.candidates target word position

omit [Platform] in
/-- A fresh text is offered later. -/
theorem OffersLater.of_fresh (fresh : freshText? later source file = some text) :
    OffersLater later source file marker lines
      ((CacheRecord.decodeIndex text).withTargets (RuleName.ofLines lines)) := by
  rw [OffersLater, fresh]
  exact fun _ _ _ => rfl

omit [Platform] in
/-- Without a fresh text the lines are offered. -/
theorem OffersLater.of_missed (missed : freshText? later source file = none) :
    OffersLater later source file marker lines (.ofSource marker lines) := by
  rw [OffersLater, missed]
  exact fun _ _ _ => rfl

omit [Platform] in
/-- The lines are offered where the cache file holds nothing but their records. -/
theorem OffersLater.of_told (told : ∀ node text, textIn? node = some text →
    later.nodeOf? file = some node →
      ∃ time, node = .file (contentOf (.ofLines marker lines)) time) :
    OffersLater later source file marker lines (.ofSource marker lines) := by
  rw [OffersLater]
  cases fresh : freshText? later source file with
  | none => exact fun _ _ _ => rfl
  | some text =>
      obtain ⟨_, node, _, found, _, isText⟩ := freshText?_eq_some_iff.1 fresh
      obtain ⟨time, rfl⟩ := told node text isText found
      rw [textIn?, Node.reading?, Option.bind_some, textOf?_contentOf] at isText
      obtain rfl := Option.some.inj isText
      exact ScopeIndex.candidates_decodeIndex _ _ _

/-- Where a cache file was not written, everything lasts. -/
theorem IsSteady.lasts_refused (steady : IsSteady host cache source) {place : Location}
    (stands : host.placeOf? .target source = some place)
    (present : host.files.node? place = some makefile)
    (notDirectory : ∀ time, makefile ≠ .directory time) {earlier : List Entry} {after : Host}
    {written : Bytes} {fault : Fault}
    (published : Published (host.reportAll earlier) file written (.error fault, after))
    (entries : List Entry) :
    host.Lasts (after.reportAll entries) ∧
      (after.reportAll entries).files.node? place = some makefile := by
  cases published with
  | failed _ _ builds =>
      have alike := builds.alike_reportAll not_false (steady.unlogged place stands) entries
      rw [present] at alike
      exact ⟨((host.lasts_reportAll earlier).trans builds.lasts).trans
        (after.lasts_reportAll entries), alike.file notDirectory⟩

/-- Nothing stands at the path of the cache file where its directory had to be made. -/
theorem IsSteady.vacant_of_made (steady : IsSteady host cache source)
    (proper : cache.directory.IsProper) {earlier : List Entry}
    {after : Host} (builds : (host.reportAll earlier).Builds after cache.directory fun _ => False)
    (made : ∃ other, (host.reportAll earlier).files.node? other = none ∧
      after.files.node? other ≠ none) {other : Location}
    (entry : host.entryAt? (cache.directory.child (nameOf cache.marker resolved)) = some other) :
    host.files.node? other = none := by
  obtain ⟨_, was, is⟩ := made
  have noted := host.lasts_reportAll earlier
  rw [Host.entryAt?_child _ (isPlainName_nameOf cache.marker resolved).toIsOneName,
    Option.map_eq_some_iff] at entry
  obtain ⟨home, leadsHome, rfl⟩ := entry
  rw [← Host.leads?_congr noted.directory noted.links] at leadsHome
  have vacant := (builds.made proper _ not_false was is).2.vacant (steady.whole.reportAll earlier)
    (steady.firm.of_lasts noted) leadsHome (nameOf cache.marker resolved)
  by_contra stood
  obtain ⟨node, stood⟩ := Option.ne_none_iff_exists'.1 stood
  obtain ⟨_, present, _⟩ := noted.keeps _ _ stood
  rw [vacant] at present
  cases present

section Steady

variable (steady : IsSteady host cache source) (found : host.resolve source = .ok resolved)
  {place : Location} (stands : host.placeOf? .target source = some place)
  (present : host.files.node? place = some makefile)
include steady stands present

/-- Where everything lasts, a Makefile that stays is read and resolved as before. -/
theorem IsSteady.recalls_of_lasts (notLink : ∀ target, makefile ≠ .link target)
    (lasts : host.Lasts later) (still : later.files.node? place = some makefile) :
    Recalls host later source := by
  obtain ⟨goal, leads⟩ := Host.leadsTo_of_met steady.whole.noDots steady.met stands
  exact ⟨lasts.directory,
    (lasts.nodeOf? stands still).trans (Host.nodeOf?_of_placeOf? stands present).symm,
    leads.resolve_later steady.whole present notLink lasts⟩

include found

/-- Reports leave the Makefile and the texts of its cache file. -/
theorem IsSteady.freshText?_reportAll (entries : List Entry)
    (fresh : freshText? host source
      (cache.directory.child (nameOf cache.marker resolved)) = some text) :
    freshText? (host.reportAll entries) source
      (cache.directory.child (nameOf cache.marker resolved)) = some text := by
  have lasts := host.lasts_reportAll entries
  have still := (Host.node?_reportAll (steady.unlogged place stands) entries).trans present
  refine freshText?_mono (Host.nodeOf?_of_placeOf? stands present) (lasts.nodeOf? stands still)
    ?_ fresh
  intro node text isText told
  obtain ⟨other, leads, stood⟩ := Host.placeOf?_of_nodeOf? told (notDirectory_of_textIn? isText)
  have notLog := steady.unkept resolved other found leads
  exact lasts.nodeOf? leads ((Host.node?_reportAll notLog entries).trans stood)

section Written

variable (notDirectory : ∀ time, makefile ≠ .directory time)
  (notLink : ∀ target, makefile ≠ .link target) {earlier : List Entry} {after : Host}
  {written : Bytes}
  (published : Published (host.reportAll earlier)
    (cache.directory.child (nameOf cache.marker resolved)) written (.ok (), after))
include notDirectory notLink published

/-- Once a cache file was written, its Makefile is read and resolved as before. -/
theorem IsSteady.recalls_of_written (entries : List Entry) :
    Recalls host (after.reportAll entries) source := by
  cases published with
  | @written _ home name time stood filled builds _ keepsWay =>
      have noted := host.lasts_reportAll earlier
      rw [Host.entryAt?_congr noted.directory noted.links] at stood
      obtain ⟨differs, _, without⟩ := steady.apart resolved _ found stood
      have still : (after.reportAll entries).files.node? place = some makefile := by
        have alike := builds.alike_reportAll (fun same => differs (same ▸ stands))
          (steady.unlogged place stands) entries
        rw [present] at alike
        exact alike.file notDirectory
      by_cases linked : ∃ target, host.files.node? (home ++ [name]) = some (.link target)
      · obtain ⟨target, isLink⟩ := linked
        have goes := without target isLink
        obtain ⟨goal, leads⟩ := Host.leadsTo_of_met steady.whole.noDots steady.met stands
        have lasts := Host.lasts_of_filled noted builds (after.lasts_reportAll entries) filled
        refine ⟨lasts.directory, ?_,
          goes.resolve_later isLink leads steady.whole present notLink lasts⟩
        rw [lasts.nodeOf? (goes.leadsTo leads).stands still,
          Host.nodeOf?_of_placeOf? stands present]
      · have kept := keepsWay fun target isLink =>
          linked ⟨target, (noted.links _ _).2 isLink⟩
        exact steady.recalls_of_lasts stands present notLink
          ((noted.trans ⟨kept.spares.directory, kept.spares.links, kept.keeps⟩).trans
            (after.lasts_reportAll entries)) still

omit notDirectory notLink stands present in
/-- A text that is told of a cache file that was written is what was written. -/
theorem IsSteady.told_of_written (entries : List Entry) {node : Node}
    (isText : textIn? node = some text)
    (told : (after.reportAll entries).nodeOf?
      (cache.directory.child (nameOf cache.marker resolved)) = some node) :
    ∃ time, node = .file written time := by
  cases published with
  | @written _ home name time stood filled builds _ _ =>
      have noted := host.lasts_reportAll earlier
      have one := (isPlainName_nameOf cache.marker resolved).toIsOneName
      obtain ⟨other, leads, there⟩ :=
        Host.placeOf?_of_nodeOf? told (notDirectory_of_textIn? isText)
      rw [Host.entryAt?_congr noted.directory noted.links] at stood
      have notLog := builds.logFile_ne (by
        rw [Host.logFile_reportAll]
        exact (steady.apart resolved _ found stood).2.1)
      rw [Host.entryAt?_child _ one, Option.map_eq_some_iff] at stood
      obtain ⟨_, leadsHome, same⟩ := stood
      obtain ⟨rfl, last⟩ := List.append_inj' same rfl
      obtain rfl := List.singleton_inj.1 last
      have behind := after.lasts_reportAll entries
      have held : (after.reportAll entries).files.node? _ = _ :=
        (Host.node?_reportAll notLog entries).trans filled
      obtain rfl := Host.placeOf?_of_filled one leadsHome
        (behind.directory.trans (builds.directory.trans noted.directory))
        (fun other apart target => by
          rw [noted.links, (builds.alike other apart).link_iff, behind.links]) held leads
      exact ⟨time, Option.some.inj (there.symm.trans held)⟩

end Written

/-- A cache file that was written where no link stood holds its index, which is used while it is
not older than the Makefile. -/
theorem IsSteady.freshText?_written {earlier : List Entry} {after : Host}
    (noLink : ∀ place,
      host.entryAt? (cache.directory.child (nameOf cache.marker resolved)) = some place →
        ∀ target, host.files.node? place ≠ some (.link target))
    (published : Published (host.reportAll earlier)
      (cache.directory.child (nameOf cache.marker resolved)) (contentOf (.ofLines marker lines))
      (.ok (), after)) (entries : List Entry)
    (recalls : Recalls host (after.reportAll entries) source) :
    ∃ time, (host.reportAll earlier).clock ≤ time ∧ freshText? (after.reportAll entries) source
      (cache.directory.child (nameOf cache.marker resolved)) =
        if (Host.statusOf makefile).changed ≤ time then
          some (CacheRecord.encodeIndex (.ofLines marker lines))
        else none := by
  cases published with
  | @written _ home name time stood filled builds recent keepsWay =>
      have noted := host.lasts_reportAll earlier
      rw [Host.entryAt?_congr noted.directory noted.links] at stood
      obtain ⟨_, notLog, _⟩ := steady.apart resolved _ found stood
      have ends := (keepsWay fun target isLink =>
        noLink _ stood target ((noted.links _ _).2 isLink)).ends
      have logAfter : after.logFile ≠ some (home ++ [name]) :=
        builds.logFile_ne (by rwa [Host.logFile_reportAll])
      have held : (after.reportAll entries).files.node? (home ++ [name]) = _ :=
        (Host.node?_reportAll logAfter entries).trans filled
      have fileEnds := ends.of_ways (after.lasts_reportAll entries).directory
        (after.keeps_reportAll entries).1.ways
      have told := Host.nodeOf?_of_placeOf? (fileEnds.placeOf? held (by simp) .target) held
      refine ⟨time, recent, ?_⟩
      rw [freshText?, recalls.told, Host.nodeOf?_of_placeOf? stands present, told]
      dsimp only [textIn?, Node.reading?, Option.bind]
      rw [textOf?_contentOf]
      rfl

omit present stands in
/-- A text that is told where a cache file was not written was told before. -/
theorem IsSteady.told_before (proper : cache.directory.IsProper) {earlier : List Entry}
    {after : Host} (builds : (host.reportAll earlier).Builds after cache.directory fun _ => False)
    (entries : List Entry) (lasts : host.Lasts (after.reportAll entries)) {node : Node}
    (isText : textIn? node = some text)
    (told : (after.reportAll entries).nodeOf?
      (cache.directory.child (nameOf cache.marker resolved)) = some node) :
    host.nodeOf? (cache.directory.child (nameOf cache.marker resolved)) = some node := by
  have notDirectory := notDirectory_of_textIn? isText
  obtain ⟨place, leads, stood⟩ := Host.placeOf?_of_nodeOf? told notDirectory
  have same (notLog : host.logFile ≠ some place) : host.files.node? place = some node := by
    have alike := builds.alike_reportAll not_false notLog entries
    rw [stood] at alike
    exact alike.file_of_later notDirectory
  by_cases made : ∃ other, (host.reportAll earlier).files.node? other = none ∧
      after.files.node? other ≠ none
  · -- The way of the cache directory broke off, so no text can stand where it leads.
    have vacant {other : Location}
        (entry : (after.reportAll entries).entryAt?
          (cache.directory.child (nameOf cache.marker resolved)) = some other) :
        host.files.node? other = none := by
      rw [Host.entryAt?_congr lasts.directory lasts.links] at entry
      exact steady.vacant_of_made proper builds made entry
    have one := (isPlainName_nameOf cache.marker resolved).toIsOneName
    have entry := Host.entryAt?_of_placeOf? one (fun other entry target isLink => by
      have before := (lasts.links _ _).2 isLink
      rw [vacant entry] at before
      cases before) leads
    have gone := vacant entry
    rw [Host.entryAt?_congr lasts.directory lasts.links] at entry
    rw [same (steady.apart resolved place found entry).2.1] at gone
    cases gone
  · have kept := builds.kept fun other was => by_contra fun is => made ⟨other, was, is⟩
    have back := ((after.keeps_reportAll entries).2.trans kept).trans
      (host.keeps_reportAll earlier).2
    have before := Host.placeOf?_of_keeps lasts.directory.symm back leads
    exact Host.nodeOf?_of_placeOf? before (same (steady.unkept resolved place found before))

/-- A cache file that was not written is not there later either. -/
theorem IsSteady.missed_again (proper : cache.directory.IsProper)
    (notDirectory : ∀ time, makefile ≠ .directory time) {earlier : List Entry} {after : Host}
    {fault : Fault}
    (missed : freshText? host source
      (cache.directory.child (nameOf cache.marker resolved)) = none) {written : Bytes}
    (published : Published (host.reportAll earlier)
      (cache.directory.child (nameOf cache.marker resolved)) written (.error fault, after))
    (entries : List Entry) :
    freshText? (after.reportAll entries) source
      (cache.directory.child (nameOf cache.marker resolved)) = none := by
  obtain ⟨lasts, still⟩ :=
    steady.lasts_refused stands present notDirectory published entries
  cases published with
  | failed _ _ builds =>
      rw [Path.parent_child _ (isPlainName_nameOf cache.marker resolved).toIsOneName] at builds
      by_contra fresh
      obtain ⟨text, fresh⟩ := Option.ne_none_iff_exists'.1 fresh
      have before := freshText?_mono (lasts.nodeOf? stands still)
        (Host.nodeOf?_of_placeOf? stands present)
        (fun _ _ isText told => steady.told_before found proper builds entries lasts isText told)
        fresh
      rw [missed] at before
      cases before

end Steady

/-- Its cache file is written, or nothing is changed but directories. -/
theorem IsSteady.published (steady : IsSteady host cache source)
    (proper : cache.directory.IsProper) (resolved : Path) (index : ScopeIndex)
    (directory : later.directory = host.directory) (earlier : List Entry) :
    Published (later.reportAll earlier) (cache.directory.child (nameOf cache.marker resolved))
      (contentOf index) ((replace index (cache.directory.child (nameOf cache.marker resolved))).run
        (later.reportAll earlier)) := by
  apply published_reportAll index (proper.child (isPlainName_nameOf cache.marker resolved))
  rw [Host.HasPlainDirectory, directory]
  exact fun name member => (steady.whole.current name member).noNull

/-- Only the system keeps a cache file from being written. -/
theorem IsSteady.isSystem_of_replace (steady : IsSteady host cache source)
    (proper : cache.directory.IsProper) (directory : later.directory = host.directory)
    {earlier : List Entry} {after : Host} {fault : Fault}
    (ran : (replace index (cache.directory.child (nameOf cache.marker resolved))).run
      (later.reportAll earlier) = (.error fault, after)) : fault.isSystem = true := by
  have published := steady.published proper resolved index directory earlier
  rw [ran] at published
  cases published with
  | failed _ allowed =>
      refine allowed.resolve_right ?_
      rintro ⟨_, deep⟩
      rw [Path.parent_child _ (isPlainName_nameOf cache.marker resolved).toIsOneName] at deep
      exact Nat.not_lt.2 deep steady.shallow

/-- An index is given, and it offers what the cache file says. -/
theorem IsSteady.served_offers (steady : IsSteady host cache source)
    (proper : cache.directory.IsProper) (directory : later.directory = host.directory)
    {lines : List String}
    (offers : OffersLater later source (cache.directory.child (nameOf cache.marker resolved))
      cache.marker lines index) {run : Except Fault ScopeIndex × Host}
    (served : Served later cache.marker source
      (cache.directory.child (nameOf cache.marker resolved)) lines run) :
    ∃ again last, run = (.ok again, last) ∧ ∀ target word position,
      again.candidates target word position = index.candidates target word position := by
  rw [OffersLater] at offers
  cases served with
  | loaded fresh =>
      rw [fresh] at offers
      exact ⟨_, _, rfl, offers⟩
  | written missed | refused missed =>
      rw [missed] at offers
      exact ⟨_, _, rfl, offers⟩
  | failed _ _ ran notSystem =>
      rw [steady.isSystem_of_replace proper directory ran] at notSystem
      cases notSystem

/-- A cache that is asked while the Makefile is as it was offers what the cache file says. -/
theorem IsSteady.asked_later (steady : IsSteady host cache source)
    (proper : cache.directory.IsProper) (enabled : cache.enabled = true)
    (read : host.query source (.error Fault.isDirectory) host.files.read = .ok content)
    (found : host.resolve source = .ok resolved) (recalls : Recalls host later source)
    (offers : OffersLater later source (cache.directory.child (nameOf cache.marker resolved))
      cache.marker (sourceLines content) index) :
    ∃ again last, (cache.ensureFresh source none).run later = (.ok again, last) ∧
      ∀ target word position,
        again.candidates target word position = index.candidates target word position := by
  obtain ⟨makefile, changed, told, reading⟩ := Host.read_eq_ok_iff.1 read
  have readLater := Host.read_eq_ok_iff.2 ⟨_, changed, recalls.told.trans told, reading⟩
  rw [run_ensureFresh_none readLater (recalls.resolved.trans found)]
  exact steady.served_offers proper recalls.directory offers (served_ensureFresh cache enabled
    (proper.child (isPlainName_nameOf cache.marker resolved)).noNull readLater)

/-- A cache that is asked a second time, after some reports, offers the same candidates. -/
theorem IsSteady.asked_again (steady : IsSteady host cache source)
    (proper : cache.directory.IsProper) (enabled : cache.enabled = true)
    (read : host.query source (.error Fault.isDirectory) host.files.read = .ok content)
    (found : host.resolve source = .ok resolved) :
    ∃ index after, (cache.ensureFresh source none).run host = (.ok index, after) ∧
      ∀ entries, ∃ again last,
        (cache.ensureFresh source none).run (after.reportAll entries) = (.ok again, last) ∧
          ∀ target word position,
            again.candidates target word position = index.candidates target word position := by
  have properFile := proper.child (isPlainName_nameOf cache.marker resolved)
  obtain ⟨place, makefile, changed, stands, present, reading, _, _⟩ := Host.read_eq_ok read
  have notDirectory := Node.notDirectory_of_reading reading
  have notLink := Node.notLink_of_reading reading
  have again {index : ScopeIndex} {later : Host} (recalls : Recalls host later source) :
      OffersLater later source _ cache.marker _ index → _ :=
    steady.asked_later proper enabled read found recalls
  have publishes := steady.published proper resolved
    (.ofLines cache.marker (sourceLines content)) rfl
  have served := served_ensureFresh cache enabled properFile.noNull read
  rw [run_ensureFresh_none read found]
  generalize (cache.ensureFresh source
    (some (cache.directory.child (nameOf cache.marker resolved)))).run host = run at served
  cases served with
  | @loaded text entry fresh =>
      refine ⟨_, _, rfl, fun entries => ?_⟩
      have fresh := steady.freshText?_reportAll found stands present (entry :: entries) fresh
      have still := Host.node?_reportAll (steady.unlogged place stands) (entry :: entries)
      exact again (steady.recalls_of_lasts stands present notLink
        (host.lasts_reportAll (entry :: entries)) (still.trans present)) (.of_fresh fresh)
  | @written earlier last after missed quiet ran =>
      have published := publishes earlier
      rw [ran] at published
      refine ⟨_, _, rfl, fun entries => ?_⟩
      exact again (steady.recalls_of_written found stands present notDirectory notLink published
        (last :: entries)) (.of_told fun node text =>
          steady.told_of_written found published (last :: entries))
  | @refused earlier last after fault missed quiet ran =>
      have published := publishes earlier
      rw [ran] at published
      refine ⟨_, _, rfl, fun entries => ?_⟩
      obtain ⟨lasts, still⟩ :=
        steady.lasts_refused stands present notDirectory published (last :: entries)
      exact again (steady.recalls_of_lasts stands present notLink lasts still)
        (.of_missed (steady.missed_again found stands present proper notDirectory missed published
          (last :: entries)))
  | failed _ _ ran notSystem =>
      rw [steady.isSystem_of_replace proper rfl ran] at notSystem
      cases notSystem

omit [Platform] in
/-- A file that cannot be read cannot be read after some reports either. -/
theorem isSystem_of_unread (noNull : ∀ part ∈ source.parts, Char.ofNat 0 ∉ part.toList)
    {fault : Fault}
    (unread : host.query source (.error Fault.isDirectory) host.files.read = .error fault)
    (entries : List Entry) :
    ∃ other, (host.reportAll entries).query source (.error Fault.isDirectory)
      (host.reportAll entries).files.read = .error other ∧ other.isSystem = true := by
  cases again : (host.reportAll entries).query source (.error Fault.isDirectory)
      (host.reportAll entries).files.read with
  | error other => exact ⟨other, rfl, Host.isSystem_of_query noNull again⟩
  | ok content =>
      obtain ⟨place, node, changed, stands, present, reading, _, _⟩ := Host.read_eq_ok again
      obtain ⟨before, was, kin⟩ := (host.keeps_reportAll entries).2 place node present
      have readable : ∃ found, before.reading? = some found := by
        cases kin with
        | file | sink | filled => exact ⟨_, rfl⟩
        | directory | link => cases reading
      obtain ⟨⟨content, changed⟩, reading⟩ := readable
      have leads := Host.placeOf?_of_keeps (host.lasts_reportAll entries).directory.symm
        (host.keeps_reportAll entries).2 stands
      rw [Host.read_eq_ok_iff.2 ⟨before, changed, Host.nodeOf?_of_placeOf? leads was, reading⟩]
        at unread
      cases unread

/-- A cache that is not used gives what the lines of the Makefile give. -/
theorem run_ensureFresh_disabled (disabled : cache.enabled = false)
    (read : host.query source (.error Fault.isDirectory) host.files.read = .ok content) :
    ∃ entries, (cache.ensureFresh source none).run host =
      (.ok (.ofSource cache.marker (sourceLines content)), host.reportAll entries) := by
  obtain ⟨entries, _, remarked⟩ := run_remarks cache.marker (sourceLines content) host
  refine ⟨entries, ?_⟩
  rw [run_ensureFresh read, indexOf, disabled]
  simp only [Bool.false_eq_true, if_false, parse, Program.bind_eq_bind, Program.pure_eq_done]
  rw [Program.run_bind, Program.run_bind, remarked]
  rfl

/-- A cache that is used ends as resolving does when the path cannot be resolved. -/
theorem run_ensureFresh_unresolved (enabled : cache.enabled = true)
    (read : host.query source (.error Fault.isDirectory) host.files.read = .ok content)
    {fault : Fault} (lost : host.resolve source = .error fault) :
    (cache.ensureFresh source none).run host = (.error fault, host) := by
  rw [run_ensureFresh read, indexOf]
  simp only [enabled, if_true, pathFor, Program.bind_eq_bind, Program.pure_eq_done]
  rw [Program.run_bind, Program.run_bind, Program.run_resolve, lost]

/-- A cache that is asked twice offers the same twice, unless the system refuses. -/
theorem IsSteady.asked_twice (steady : IsSteady host cache source)
    (proper : cache.directory.IsProper)
    (noNull : ∀ part ∈ source.parts, Char.ofNat 0 ∉ part.toList) :
    (∃ index after, (cache.ensureFresh source none).run host = (.ok index, after) ∧
      ∀ entries, ∃ again last,
        (cache.ensureFresh source none).run (after.reportAll entries) = (.ok again, last) ∧
          ∀ target word position,
            again.candidates target word position = index.candidates target word position) ∨
    ∃ fault, fault.isSystem = true ∧
      (cache.ensureFresh source none).run host = (.error fault, host) ∧ ∀ entries,
        (cache.ensureFresh source none).run (host.reportAll entries) =
          (.error fault, host.reportAll entries) := by
  cases read : host.query source (.error Fault.isDirectory) host.files.read with
  | error fault =>
      refine .inl ⟨_, _,
        run_ensureFresh_unread read (Host.isSystem_of_query noNull read) cache none,
        fun entries => ?_⟩
      obtain ⟨other, unread, system⟩ := isSystem_of_unread noNull read
        ({ level := .debug
           text := "Cannot read " ++ source.text ++ ": " ++ fault.brief } :: entries)
      exact ⟨_, _, run_ensureFresh_unread unread system cache none, fun _ _ _ => rfl⟩
  | ok content =>
      obtain ⟨place, makefile, changed, stands, present, reading, _, _⟩ := Host.read_eq_ok read
      have readAgain (entries : List Entry) : (host.reportAll entries).query source
          (.error Fault.isDirectory) (host.reportAll entries).files.read = .ok content := by
        have still := (Host.node?_reportAll (steady.unlogged place stands) entries).trans present
        exact Host.read_eq_ok_iff.2
          ⟨makefile, changed, (host.lasts_reportAll entries).nodeOf? stands still, reading⟩
      cases enabled : cache.enabled with
      | false =>
          obtain ⟨reported, ran⟩ := run_ensureFresh_disabled enabled read
          refine .inl ⟨_, _, ran, fun entries => ?_⟩
          rw [← Host.reportAll_append]
          obtain ⟨_, again⟩ := run_ensureFresh_disabled enabled (readAgain (reported ++ entries))
          exact ⟨_, _, again, fun _ _ _ => rfl⟩
      | true =>
          have notLink := Node.notLink_of_reading reading
          obtain ⟨goal, leads⟩ := Host.leadsTo_of_met steady.whole.noDots steady.met stands
          cases found : host.resolve source with
          | ok resolved => exact .inl (steady.asked_again proper enabled read found)
          | error fault =>
              have lost := leads.fault_of_resolve steady.whole present notLink found
              have system := lost.resolve_right fun lost => steady.encodes enabled (lost ▸ found)
              refine .inr ⟨fault, system,
                run_ensureFresh_unresolved enabled read found, fun entries => ?_⟩
              exact run_ensureFresh_unresolved enabled (readAgain entries)
                ((leads.resolve_later steady.whole present notLink
                  (host.lasts_reportAll entries)).trans found)

end Twice

end IndexCache

end AnnotatedMake

namespace AnnotatedMake.IndexCache

/-- The cache that the section is about keeps its files in the root directory. -/
def rootCache : IndexCache := { directory := ⟨.root, []⟩ }

/-- The host of the witness is whole. -/
theorem isWhole_rootHost (content : Bytes) (time : Int) : (rootHost content time).IsWhole := by
  have isOpen : (rootHost content time).files.IsOpen [] := by
    intro front rest same
    obtain ⟨rfl, _⟩ := List.nil_eq_append_iff.1 same
    exact ⟨0, node?_rootHost content time []⟩
  refine ⟨fun name member => absurd member List.not_mem_nil, ?_, ?_⟩
  · intro path start names along
    have way := (Host.wayOf?_of_route along).symm.trans (Host.wayOf?_of_root rfl path)
    obtain ⟨rfl, _⟩ := Prod.mk.inj (Option.some.inj way)
    exact isOpen
  · intro place name node present
    rw [node?_rootHost] at present
    split at present
    · rename_i file
      rw [← List.nil_append ["Makefile"]] at file
      obtain ⟨rfl, _⟩ := List.append_inj' file rfl
      exact isOpen
    · simp at present

/-- A cache in the root directory next to the Makefile is asked about twice alike. -/
theorem isSteady_rootHost (content : Bytes) (time : Int) :
    IsSteady (rootHost content time) rootCache rootFile where
  whole := isWhole_rootHost content time
  firm start front rest way := by
    obtain ⟨_, same⟩ := Prod.mk.inj (Option.some.inj way)
    cases front <;> cases same
  shallow := by decide
  encodes _ := by
    have file := node?_rootHost content time ["Makefile"]
    rw [resolve_rootFile (node?_rootHost content time []) file]
    exact nofun
  met := by
    have file := node?_rootHost content time ["Makefile"]
    rw [target_rootFile (linkAt_rootFile (node?_rootHost content time []) file),
      target_rootFile (linkOf_rootFile file)]
  unlogged place _ := (Option.some_ne_none place).symm
  apart resolved place found entry := by
    have root := node?_rootHost content time []
    have file := node?_rootHost content time ["Makefile"]
    obtain rfl := Except.ok.inj ((resolve_rootFile root file).symm.trans found)
    refine ⟨?_, (Option.some_ne_none place).symm, fun target isLink =>
      absurd isLink (notLink_rootHost content time place target)⟩
    have named := (isPlainName_nameOf rootCache.marker rootFile).toIsOneName
    rw [Host.entryAt?_child _ named, Host.leads?, Host.wayOf?_of_root rfl, Option.bind_some,
      rootCache, FileSystem.leads?] at entry
    obtain rfl := Option.some.inj entry
    have differs : nameOf "##" rootFile ≠ "Makefile" := nameOf_ne "##" rootFile (by decide)
    rw [placeOf?_rootFile root file]
    intro same
    exact differs (List.singleton_inj.1 (Option.some.inj same)).symm
  unkept _ place _ _ := (Option.some_ne_none place).symm

end AnnotatedMake.IndexCache
