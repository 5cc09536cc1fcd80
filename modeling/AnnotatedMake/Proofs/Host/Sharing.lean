import AnnotatedMake.Proofs.Host.Naming

namespace AnnotatedMake

/-- An entry of a directory stays as it was, or is gone. -/
inductive Remains : Option Node → Option Node → Prop where
  | same (node : Option Node) : Remains node node
  | changed (before after : Int) : Remains (some (.directory before)) (some (.directory after))
  | gone (node : Option Node) : Remains node none

namespace Remains

variable {first second third : Option Node} {content : Bytes} {time : Int}

/-- A place that is alike remains. -/
theorem of_alike (alike : Alike first second) (vacant : second = none ↔ first = none) :
    Remains first second := by
  cases alike with
  | same => exact .same _
  | changed => exact .changed ..
  | made time => exact absurd (vacant.2 rfl) (by simp)

/-- What remains twice in turn remains. -/
theorem trans (before : Remains first second) (after : Remains second third) :
    Remains first third := by
  cases before with
  | same => exact after
  | changed =>
      cases after with
      | same => exact .changed ..
      | changed => exact .changed ..
      | gone => exact .gone _
  | gone =>
      cases after with
      | same => exact .gone _
      | gone => exact .gone _

/-- A vacant place stays vacant. -/
theorem of_none (remains : Remains none second) : second = none := by
  cases remains <;> rfl

/-- A file is removed or keeps its content. -/
theorem of_file (remains : Remains (some (.file content time)) second) :
    second = none ∨ second = some (.file content time) := by
  cases remains with
  | same => exact .inr rfl
  | gone => exact .inl rfl

/-- What is read later was there before. -/
theorem reading (remains : Remains first second) {told : Bytes × Int}
    (read : second.bind Node.reading? = some told) : first.bind Node.reading? = some told := by
  cases remains with
  | same => exact read
  | changed | gone => cases read

end Remains

namespace Host

variable {host middle after : Host} {home : Location} {path : Path} {name : String}

/-- What a call on a directory leaves of the files apart from some places and the log. -/
structure Leaves (directory : Path) (changed : Location → Prop) (host after : Host) : Prop where
  current : after.directory = host.directory
  logFile : after.logFile = host.logFile ∨ after.logFile = none
  links : ∀ place target, host.files.node? place = some (.link target) ↔
    after.files.node? place = some (.link target)
  ways : host.files.KeepsWays after.files
  reading : ∀ place told, host.logFile ≠ some place → ¬ changed place →
    (after.files.node? place).bind Node.reading? = some told →
      (host.files.node? place).bind Node.reading? = some told
  entries : ∀ place, host.logFile ≠ some place → ¬ changed place →
    (∀ count, host.leads? (directory.upTo count) ≠ some place) →
      Remains (host.files.node? place) (after.files.node? place)
  noSlash : ∀ above name, host.files.node? (above ++ [name]) = none →
    after.files.node? (above ++ [name]) ≠ none → '/' ∉ name.toList

namespace Leaves

variable {directory : Path} {changed : Location → Prop}

/-- A host leaves itself as it is. -/
theorem refl (directory : Path) (host : Host) : Leaves directory (fun _ => False) host host where
  current := rfl
  logFile := .inl rfl
  links _ _ := Iff.rfl
  ways := (FileSystem.keeps_refl _).ways
  reading _ _ _ _ := id
  entries _ _ _ _ := .same _
  noSlash _ _ vacant present := absurd vacant present

section Facts

variable (leaves : Leaves directory changed host after)
include leaves

/-- The ways of a host are left as they were. -/
theorem leads? (path : Path) : after.leads? path = host.leads? path :=
  leads?_congr leaves.current leaves.links path

/-- A place that is not the log does not become it. -/
theorem notLog {place : Location} (notLog : host.logFile ≠ some place) :
    after.logFile ≠ some place := by
  rcases leaves.logFile with same | none
  · rwa [same]
  · rw [none]
    exact (Option.some_ne_none place).symm

/-- A name ends where it ended. -/
theorem ends (ends : host.Ends path home name) : after.Ends path home name :=
  ends.of_ways leaves.current leaves.ways

/-- The way to a path stays paved. -/
theorem isPaved {path : Path} (paved : host.IsPaved path) : after.IsPaved path := by
  intro count place leads
  rw [leaves.leads?] at leads
  obtain ⟨_, isDirectory⟩ := paved count place leads
  exact leaves.ways.directory isDirectory

/-- What two hosts leave in turn is left. -/
theorem trans {last : Host} (second : Leaves directory changed after last) :
    Leaves directory changed host last where
  current := second.current.trans leaves.current
  logFile := by
    rcases second.logFile with same | none
    · rw [same]
      exact leaves.logFile
    · exact .inr none
  links place target := (leaves.links place target).trans (second.links place target)
  ways place node present isWay := by
    obtain ⟨other, there, kin⟩ := leaves.ways place node present isWay
    have stillWay : other.IsWay := by
      cases kin with
      | directory | link => exact trivial
      | file | sink | filled => exact isWay.elim
    obtain ⟨last, found, further⟩ := second.ways place other there stillWay
    exact ⟨last, found, kin.trans further⟩
  reading place told notLog spared read := leaves.reading place told notLog spared
    (second.reading place told (leaves.notLog notLog) spared read)
  entries place notLog spared aside := by
    refine (leaves.entries place notLog spared aside).trans
      (second.entries place (leaves.notLog notLog) spared fun count => ?_)
    rw [leaves.leads?]
    exact aside count
  noSlash above name vacant present := by
    by_cases between : after.files.node? (above ++ [name]) = none
    · exact second.noSlash above name between present
    · exact leaves.noSlash above name vacant between

/-- What is gone in the end counts as left. -/
theorem narrow {fewer : Location → Prop}
    (gone : ∀ place, changed place → ¬ fewer place → after.files.node? place = none) :
    Leaves directory fewer host after :=
  { leaves with
    reading := fun place told notLog spared read => by
      by_cases was : changed place
      · rw [gone place was spared] at read
        cases read
      · exact leaves.reading place told notLog was read
    entries := fun place notLog spared aside => by
      by_cases was : changed place
      · rw [gone place was spared]
        exact .gone _
      · exact leaves.entries place notLog was aside }

end Facts

end Leaves

/-- What is put in place of an entry that is neither a directory nor a link changes that entry
alone. -/
theorem Replaces.leaves {node : Option Node} (replaces : host.Replaces after (home ++ [name]) node)
    (noWay : ∀ held, host.files.node? (home ++ [name]) = some held → ¬ held.IsWay)
    (notLink : ∀ target, node ≠ some (.link target)) (noSlash : '/' ∉ name.toList)
    (directory : Path) : Leaves directory (fun place => place = home ++ [name]) host after where
  current := replaces.directory
  logFile := replaces.logFile
  links place target := by
    by_cases here : place = home ++ [name]
    · rw [here, replaces.here]
      exact iff_of_false (fun isLink => noWay _ isLink trivial) (notLink target)
    · exact (replaces.others place here).1.link_iff
  ways place held present isWay := by
    by_cases here : place = home ++ [name]
    · exact absurd isWay (noWay held (here ▸ present))
    · exact (present ▸ (replaces.others place here).1).kin
  reading place told _ spared := by
    obtain ⟨alike, vacant⟩ := replaces.others place spared
    exact (Remains.of_alike alike vacant).reading
  entries place _ spared _ := by
    obtain ⟨alike, vacant⟩ := replaces.others place spared
    exact .of_alike alike vacant
  noSlash above other vacant present := by
    by_cases here : above ++ [other] = home ++ [name]
    · rwa [last_eq_of_concat_eq here]
    · exact absurd ((replaces.others _ here).2.2 vacant) present

/-- A report leaves every place. -/
theorem leaves_report (directory : Path) (host : Host) (entry : Entry) :
    Leaves directory (fun _ => False) host (host.report entry) := by
  have spares := spares_report host entry fun _ => False
  have same {place : Location} (notLog : host.logFile ≠ some place) :
      (host.report entry).files.node? place = host.files.node? place :=
    node?_reportAll notLog [entry]
  refine ⟨spares.directory, spares.logFile, spares.links,
    (host.keeps_reportAll [entry]).1.ways, fun place told notLog _ read => ?_,
    fun place notLog _ _ => ?_, fun above name vacant present => ?_⟩
  · rwa [same notLog] at read
  · rw [same notLog]
    exact .same _
  · obtain ⟨node, stands⟩ := Option.ne_none_iff_exists'.1 present
    obtain ⟨_, stood, _⟩ := (host.keeps_reportAll [entry]).2 _ node stands
    rw [vacant] at stood
    cases stood

variable [Platform]

/-- A directory is made on the way to the shared one, or none. -/
theorem leaves_makeDirectory {directory : Path} (proper : directory.IsProper) (host : Host)
    (count : Nat) : Leaves directory (fun _ => False) host
      ((Program.makeDirectory (directory.upTo count)).run host).2 := by
  have proper : (directory.upTo count).IsProper :=
    ⟨⟨fun part member => proper.noSlash part (List.take_subset _ _ member),
      fun part member => proper.noNull part (List.take_subset _ _ member)⟩,
      fun part member => proper.notHere part (List.take_subset _ _ member)⟩
  cases ran : (Program.makeDirectory (directory.upTo count)).run host with
  | mk outcome after =>
      cases outcome with
      | error fault =>
          obtain rfl := Program.run_makeDirectory_of_error ran
          exact .refl ..
      | ok _ =>
          obtain ⟨_, _, above, name, _, _, vacant, further, _, rfl⟩ := makeDirectory_eq_ok ran
          obtain ⟨one, leads⟩ := further proper
          have here := FileSystem.node?_add_self host.files above name (.directory host.clock)
            host.clock
          have remains {place : Location} (apart : place ≠ above ++ [name]) :
              Remains (host.files.node? place)
                ((host.files.add above name (.directory host.clock) host.clock).node? place) :=
            .of_alike (FileSystem.node?_add_of_ne apart) (FileSystem.node?_add_eq_none_iff apart)
          refine ⟨rfl, .inl rfl, fun place target => ?_, (FileSystem.keeps_add vacant).ways,
            fun place told _ _ read => ?_, fun place _ _ aside => ?_, fun parent other was is => ?_⟩
          · by_cases made : place = above ++ [name]
            · rw [made, vacant, here]
              simp
            · exact (FileSystem.node?_add_of_ne made).link_iff
          · by_cases made : place = above ++ [name]
            · rw [made, here] at read
              cases read
            · exact (remains made).reading read
          · refine remains fun made => aside count ?_
            rw [made]
            exact leads
          · by_cases made : parent ++ [other] = above ++ [name]
            · rw [last_eq_of_concat_eq made]
              exact one.noSlash
            · exact absurd ((FileSystem.node?_add_eq_none_iff made).2 was) is

/-- A directory of files where programs can share it, with its temporary files at `work`. -/
structure IsSite (directory : Path) (home work : Location) (entries : String → Prop)
    (host : Host) : Prop where
  proper : directory.IsProper
  leads : host.leads? directory = some home
  works : ∀ place, host.workplace? directory = some place → place = work
  notLink : ∀ name target, entries name → host.files.node? (home ++ [name]) ≠ some (.link target)
  noSlash : ∀ name, entries name → host.files.node? (home ++ [name]) ≠ none → '/' ∉ name.toList
  unlogged : ∀ name, entries name →
    host.logFile ≠ some (home ++ [name]) ∧ host.logFile ≠ some (work ++ [name])

namespace IsSite

variable {directory : Path} {work : Location} {entries : String → Prop}
  {changed : Location → Prop}

omit [Platform] in
/-- A directory that programs share stays where it is. -/
theorem of_leaves (site : IsSite directory home work entries host)
    (leaves : Leaves directory changed host after) : IsSite directory home work entries after where
  proper := site.proper
  leads := (leaves.leads? directory).trans site.leads
  works place is := by
    refine site.works place ?_
    rw [← is, workplace?, workplace?, absolute_congr leaves.current]
    cases host.absolute directory with
    | error fault => rfl
    | ok plain => exact (leaves.leads? plain).symm
  notLink name target entry isLink := site.notLink name target entry
    ((leaves.links _ target).2 isLink)
  noSlash name entry present := by
    by_cases vacant : host.files.node? (home ++ [name]) = none
    · exact leaves.noSlash home name vacant present
    · exact site.noSlash name entry vacant
  unlogged name entry := (site.unlogged name entry).imp leaves.notLog leaves.notLog

omit [Platform] in
/-- A temporary file is made in the shared directory. -/
theorem createNamed (site : IsSite directory home work entries host) (plain : IsPlainName name)
    (short : FileSystem.isLongName name = false)
    (made : host.createNamed directory name = (.ok path, after)) :
    host.files.node? (work ++ [name]) = none ∧ after.Ends path work name ∧
      after.files.node? (work ++ [name]) = some (.file [] host.clock) ∧
      Leaves directory (fun place => place = work ++ [name]) host after := by
  obtain ⟨other, is, ends, vacant, replaces⟩ := createNamed_eq_ok plain short made
  obtain rfl := site.works other is
  exact ⟨vacant, ends, replaces.here,
    replaces.leaves (by simp [vacant]) (by simp) plain.noSlash directory⟩

/-- One of the entries of the shared directory is removed, or none. -/
theorem leaves_remove (site : IsSite directory home work entries host) (one : IsOneName name)
    (entry : entries name) :
    Leaves directory (fun _ => False) host
      ((Program.remove (directory.child name)).run host).2 := by
  have notLink (other : Location) (leads : host.leads? directory = some other) (target : String) :
      host.files.node? (other ++ [name]) ≠ some (.link target) := by
    obtain rfl := Option.some.inj (site.leads.symm.trans leads)
    exact site.notLink name target entry
  rcases remove_child one notLink with
    ⟨fault, refused⟩ | ⟨other, after, removed, leads, notDirectory, replaces⟩
  · rw [refused]
    exact .refl directory host
  · rw [removed]
    have leaves := replaces.leaves (fun node stands isWay => ?_) (by simp) one.noSlash directory
    · refine leaves.narrow fun place same _ => ?_
      rw [same]
      exact replaces.here
    · cases node with
      | directory changed => exact notDirectory changed stands
      | link target => exact notLink other leads target stands
      | file | sink => exact isWay

end IsSite

/-- A file that was made has some content, unless it was removed since. -/
def MayHold (host : Host) (place : Location) (content : Bytes) : Prop :=
  host.files.node? place = none ∨ ∃ time, host.files.node? place = some (.file content time)

section MayHold

variable {work : Location} {content : Bytes} (ends : host.Ends path work name)
  (held : host.MayHold (work ++ [name]) content) (noSlash : '/' ∉ name.toList) (directory : Path)
include ends held noSlash

/-- A piece is written behind what the file may hold. -/
theorem MayHold.append (more : Bytes) :
    ∃ after, host.append path more = (.ok (), after) ∧
      Leaves directory (fun place => place = work ++ [name]) host after ∧
      after.MayHold (work ++ [name]) (content ++ more) := by
  rcases held with gone | ⟨time, present⟩
  · exact ⟨host, ends.append_vacant gone more, (Leaves.refl directory host).narrow
      (fun _ => False.elim), .inl gone⟩
  · obtain ⟨after, appended, _, replaces⟩ := ends.append present more
    rw [Program.run_append] at appended
    exact ⟨after, appended,
      replaces.leaves (by simp [present, Node.IsWay]) (by simp) noSlash directory,
      .inr ⟨_, replaces.here⟩⟩

/-- A file that is removed is gone, by this or before. -/
theorem MayHold.remove :
    ∃ reply after, (Program.remove path).run host = (reply, after) ∧
      after.files.node? (work ++ [name]) = none ∧
      Leaves directory (fun _ => False) host after := by
  rcases held with gone | ⟨time, present⟩
  · exact ⟨_, host, ends.remove_vacant gone, gone, .refl directory host⟩
  · obtain ⟨after, removed, replaces⟩ := ends.remove present
    have leaves := replaces.leaves (by simp [present, Node.IsWay]) (by simp) noSlash directory
    refine ⟨_, after, removed, replaces.here, leaves.narrow fun place same _ => ?_⟩
    rw [same]
    exact replaces.here

/-- A file is moved onto an entry of the shared directory, or stays. -/
theorem MayHold.rename {directory : Path} {entries : String → Prop} {goal : String}
    (site : IsSite directory home work entries host) (plain : IsPlainName goal)
    (entry : entries goal) (other : name ≠ goal) :
    (∃ fault, (Program.rename path (directory.child goal)).run host = (.error fault, host)) ∨
    ∃ after, (Program.rename path (directory.child goal)).run host = (.ok (), after) ∧
      after.files.node? (work ++ [name]) = none ∧
      (∃ time, after.files.node? (home ++ [goal]) = some (.file content time)) ∧
      Leaves directory (fun place => place = home ++ [goal]) host after := by
  rcases held with gone | ⟨time, present⟩
  · exact .inl (ends.rename_vacant gone _)
  · rcases ends.rename present site.proper.toIsPlain plain with
      ⟨fault, refused, _⟩ | ⟨into, middle, after, moved, leads, _, notDirectory, _, taken, put⟩
    · exact .inl ⟨fault, refused⟩
    · obtain rfl := Option.some.inj (site.leads.symm.trans leads)
      have apart : work ++ [name] ≠ home ++ [goal] := fun same =>
        other (last_eq_of_concat_eq same)
      have first : Leaves directory (fun place => place = work ++ [name]) host middle :=
        taken.leaves (by simp [present, Node.IsWay]) (by simp) noSlash directory
      have kept := taken.others _ apart.symm
      have second : Leaves directory (fun place => place = home ++ [goal]) middle after := by
        refine put.leaves (fun node stands isWay => ?_) (by simp) plain.noSlash directory
        cases node with
        | directory changed =>
            obtain ⟨before, isDirectory⟩ := taken.others.directory_of_later apart.symm stands
            exact notDirectory before isDirectory
        | link target => exact site.notLink goal target entry (kept.1.link_iff.2 stands)
        | file | sink => exact isWay
      have gone : after.files.node? (work ++ [name]) = none :=
        (put.others _ apart).2.2 taken.here
      refine .inr ⟨after, moved, gone, ⟨time, put.here⟩, ?_⟩
      refine (first.narrow fun place same _ => ?_).trans second
      rw [same]
      exact taken.here

end MayHold

end Host

end AnnotatedMake
