import AnnotatedMake.Proofs.Host.Making
import AnnotatedMake.Proofs.Host.Report
import AnnotatedMake.Proofs.Host.Resolving

namespace AnnotatedMake

namespace Resolution

section Steps

variable {linkAt : Path → Option String} {depth : Nat} {path : Path} {known : Known}
  {name target : String} {rest : List String}

/-- A name that is followed is neither empty nor a dot. -/
theorem isEntryName_of_followed (proper : ¬ (name = "" || name = ".") = true)
    (notUp : name ≠ "..") : IsEntryName name := by
  refine ⟨?_, notUp⟩
  rw [FileSystem.isHere, Bool.or_comm]
  exact Bool.eq_false_iff.2 proper

/-- A name that is no link is gone on from. -/
theorem follow_below (entry : IsEntryName name) (none : linkAt (below path name) = none) :
    follow linkAt depth path known (name :: rest) =
      follow linkAt depth (below path name) known rest := by
  rw [follow, if_neg (Host.isFollowed entry), if_neg entry.notUp]
  simp only [none]

/-- A link that was followed before leads where it led. -/
theorem follow_known (entry : IsEntryName name) (isLink : linkAt (below path name) = some target)
    {goal : Path} (isKnown : known.get? (below path name) = some (some goal)) :
    follow linkAt depth path known (name :: rest) = follow linkAt depth goal known rest := by
  rw [follow, if_neg (Host.isFollowed entry), if_neg entry.notUp]
  simp only [isLink, isKnown]

/-- A link that is met while it is open is a circle. -/
theorem follow_circle (entry : IsEntryName name) (isLink : linkAt (below path name) = some target)
    (isOpen : known.get? (below path name) = some none) :
    follow linkAt depth path known (name :: rest) =
      (.circle (continued (below path name).text rest), known) := by
  rw [follow, if_neg (Host.isFollowed entry), if_neg entry.notUp]
  simp only [isLink, isOpen]

/-- Without depth left, a link that is not known is lost. -/
theorem follow_lost (entry : IsEntryName name) (isLink : linkAt (below path name) = some target)
    (unknown : known.get? (below path name) = none) :
    follow linkAt 0 path known (name :: rest) = (.lost, known) := by
  rw [follow, if_neg (Host.isFollowed entry), if_neg entry.notUp]
  simp only [isLink, unknown]

/-- The names behind a link are followed once its target is. -/
theorem follow_link (entry : IsEntryName name) (isLink : linkAt (below path name) = some target)
    (unknown : known.get? (below path name) = none) :
    follow linkAt (depth + 1) path known (name :: rest) =
      match follow linkAt depth (startOf path target) (known.insert (below path name) none)
          (piecesOf '/' target) with
      | (.reached goal, learnt) =>
        follow linkAt (depth + 1) goal (learnt.insert (below path name) (some goal)) rest
      | (.circle text, learnt) => (.circle (continued text rest), learnt)
      | (.lost, learnt) => (.lost, learnt) := by
  rw [follow, if_neg (Host.isFollowed entry), if_neg entry.notUp]
  cases inner : follow linkAt depth (startOf path target) (known.insert (below path name) none)
      (piecesOf '/' target) with
  | mk lead learnt => cases lead <;> simp only [isLink, unknown, inner]

end Steps

/-- Links led to paths with a property. -/
def Leads (clear : Path → Prop) (known : Known) : Prop :=
  ∀ link goal, known.get? link = some (some goal) → clear goal

/-- A link that leads to such a path may be learnt. -/
theorem Leads.insert {clear : Path → Prop} {known : Known} (leads : Leads clear known) (link : Path)
    {state : Option Path} (goals : ∀ goal, state = some goal → clear goal) :
    Leads clear (known.insert link state) := by
  intro other goal isKnown
  rw [OrderedMap.get?_insert] at isKnown
  split at isKnown
  · exact goals goal (Option.some.inj isKnown)
  · exact leads other goal isKnown

/-- What is not known leads nowhere. -/
theorem leads_empty (clear : Path → Prop) : Leads clear .empty := by
  intro link goal isKnown
  cases isKnown

/-- What following names keeps of paths, names and the texts of circles. -/
structure Carries (linkAt : Path → Option String) (clear : Path → Prop)
    (clean told : String → Prop) : Prop where
  root : clear ⟨.root, []⟩
  above : ∀ path, clear path → clear (up path)
  further : ∀ path name, clear path → clean name → IsEntryName name →
    linkAt (below path name) = none → clear (below path name)
  pieces : ∀ path target, linkAt path = some target → ∀ piece ∈ piecesOf '/' target, clean piece
  circle : ∀ path name left, clear path → clean name → IsEntryName name →
    (∀ other ∈ left, clean other) → told (continued (below path name).text left)
  onward : ∀ text left, told text → (∀ other ∈ left, clean other) → told (continued text left)

/-- A lead to a path or to a text with a property of its own. -/
inductive Lead.Keeps (clear : Path → Prop) (told : String → Prop) : Lead → Prop
  | reached {path : Path} (here : clear path) : Keeps clear told (.reached path)
  | circle {text : String} (here : told text) : Keeps clear told (.circle text)
  | lost : Keeps clear told .lost

section Carries

variable {linkAt : Path → Option String} {clear : Path → Prop} {clean told : String → Prop}
  (carries : Carries linkAt clear clean told)
include carries

/-- The start of a link has the property. -/
theorem Carries.startOf {path : Path} (target : String) (here : clear path) :
    clear (startOf path target) := by
  rw [Resolution.startOf]
  split
  · exact carries.root
  · exact here

/-- A property that every step keeps is kept all along. -/
theorem Carries.follow (depth : Nat) (path : Path) (known : Known) (names : List String)
    (here : clear path) (leads : Leads clear known) (cleans : ∀ name ∈ names, clean name) :
    (follow linkAt depth path known names).1.Keeps clear told ∧
      Leads clear (follow linkAt depth path known names).2 := by
  induction depth, path, known, names using follow.induct linkAt with
  | case1 depth path known =>
      rw [Resolution.follow]
      exact ⟨.reached here, leads⟩
  | case2 depth path known name rest skipped ih =>
      rw [Resolution.follow, if_pos skipped]
      exact ih here leads (List.forall_mem_cons.1 cleans).2
  | case3 depth path known rest followed ih =>
      rw [Resolution.follow, if_neg followed, if_pos rfl]
      exact ih (carries.above path here) leads (List.forall_mem_cons.1 cleans).2
  | case4 depth path known name rest followed notUp next none ih =>
      have entry := isEntryName_of_followed followed notUp
      obtain ⟨this, others⟩ := List.forall_mem_cons.1 cleans
      rw [follow_below entry none]
      exact ih (carries.further path name here this entry none) leads others
  | case5 depth path known name rest followed notUp next target goal isKnown isLink ih =>
      rw [follow_known (isEntryName_of_followed followed notUp) isLink isKnown]
      exact ih (leads _ _ isKnown) leads (List.forall_mem_cons.1 cleans).2
  | case6 depth path known name rest followed notUp next target isOpen isLink =>
      have entry := isEntryName_of_followed followed notUp
      obtain ⟨this, others⟩ := List.forall_mem_cons.1 cleans
      rw [follow_circle entry isLink isOpen]
      exact ⟨.circle (carries.circle path name rest here this entry others), leads⟩
  | case7 path known name rest followed notUp next target unknown isLink =>
      rw [follow_lost (isEntryName_of_followed followed notUp) isLink unknown]
      exact ⟨.lost, leads⟩
  | case8 path known name rest followed notUp next target unknown isLink left goal learnt inner
      innerIh ih =>
      obtain ⟨keeps, learns⟩ := innerIh (carries.startOf target here) (leads.insert next (by simp))
        (carries.pieces next target isLink)
      rw [inner] at keeps learns
      cases keeps with
      | reached goalClear =>
          rw [follow_link (isEntryName_of_followed followed notUp) isLink unknown, inner]
          exact ih goalClear (learns.insert next fun _ isGoal => Option.some.inj isGoal ▸ goalClear)
            (List.forall_mem_cons.1 cleans).2
  | case9 path known name rest followed notUp next target unknown isLink left text learnt inner
      innerIh =>
      obtain ⟨keeps, learns⟩ := innerIh (carries.startOf target here) (leads.insert next (by simp))
        (carries.pieces next target isLink)
      rw [inner] at keeps learns
      cases keeps with
      | circle textTold =>
          rw [follow_link (isEntryName_of_followed followed notUp) isLink unknown, inner]
          exact ⟨.circle (carries.onward text rest textTold (List.forall_mem_cons.1 cleans).2),
            learns⟩
  | case10 path known name rest followed notUp next target unknown isLink left learnt inner
      innerIh =>
      obtain ⟨-, learns⟩ := innerIh (carries.startOf target here) (leads.insert next (by simp))
        (carries.pieces next target isLink)
      rw [inner] at learns
      rw [follow_link (isEntryName_of_followed followed notUp) isLink unknown, inner]
      exact ⟨.lost, learns⟩

/-- Two hosts are followed alike if they tell the same links below the paths that are asked for. -/
theorem Carries.follow_congr {other : Path → Option String}
    (same : ∀ path name, clear path → IsEntryName name →
      other (below path name) = linkAt (below path name)) (depth : Nat) (path : Path)
    (known : Known) (names : List String) (here : clear path) (leads : Leads clear known)
    (cleans : ∀ name ∈ names, clean name) :
    Resolution.follow other depth path known names =
      Resolution.follow linkAt depth path known names := by
  induction depth, path, known, names using follow.induct linkAt with
  | case1 => rw [Resolution.follow, Resolution.follow]
  | case2 depth path known name rest skipped ih =>
      rw [Resolution.follow, Resolution.follow, if_pos skipped, if_pos skipped]
      exact ih here leads (List.forall_mem_cons.1 cleans).2
  | case3 depth path known rest proper ih =>
      rw [Resolution.follow, Resolution.follow, if_neg proper, if_neg proper, if_pos rfl,
        if_pos rfl]
      exact ih (carries.above path here) leads (List.forall_mem_cons.1 cleans).2
  | case4 depth path known name rest proper notUp next none ih =>
      have entry := isEntryName_of_followed proper notUp
      obtain ⟨this, others⟩ := List.forall_mem_cons.1 cleans
      rw [follow_below entry ((same path name here entry).trans none), follow_below entry none]
      exact ih (carries.further path name here this entry none) leads others
  | case5 depth path known name rest proper notUp next target goal isKnown isLink ih =>
      have entry := isEntryName_of_followed proper notUp
      rw [follow_known entry ((same path name here entry).trans isLink) isKnown,
        follow_known entry isLink isKnown]
      exact ih (leads _ _ isKnown) leads (List.forall_mem_cons.1 cleans).2
  | case6 depth path known name rest proper notUp next target isOpen isLink =>
      have entry := isEntryName_of_followed proper notUp
      rw [follow_circle entry ((same path name here entry).trans isLink) isOpen,
        follow_circle entry isLink isOpen]
  | case7 path known name rest proper notUp next target unknown isLink =>
      have entry := isEntryName_of_followed proper notUp
      rw [follow_lost entry ((same path name here entry).trans isLink) unknown,
        follow_lost entry isLink unknown]
  | case8 path known name rest proper notUp next target unknown isLink left goal learnt inner
      innerIh ih =>
      have entry := isEntryName_of_followed proper notUp
      have start := carries.startOf target here
      have pieces := carries.pieces next target isLink
      have open' : Leads clear (known.insert next none) := leads.insert next (by simp)
      obtain ⟨keeps, learns⟩ := carries.follow left _ _ _ start open' pieces
      rw [inner] at keeps learns
      rw [follow_link entry ((same path name here entry).trans isLink) unknown,
        follow_link entry isLink unknown, innerIh start open' pieces, inner]
      cases keeps with
      | reached goalClear =>
          exact ih goalClear (learns.insert next fun _ isGoal => Option.some.inj isGoal ▸ goalClear)
            (List.forall_mem_cons.1 cleans).2
  | case9 path known name rest proper notUp next target unknown isLink left text learnt inner
      innerIh
  | case10 path known name rest proper notUp next target unknown isLink left learnt inner innerIh =>
      have entry := isEntryName_of_followed proper notUp
      rw [follow_link entry ((same path name here entry).trans isLink) unknown,
        follow_link entry isLink unknown, innerIh (carries.startOf target here)
          (leads.insert next (by simp)) (carries.pieces next target isLink), inner]

end Carries

end Resolution

namespace FileSystem

variable {files later : FileSystem} {links left count : Nat} {place start other : Location}
  {names : List String} {name : String}

/-- A place and all places on the way to it are directories. -/
def IsOpen (files : FileSystem) (place : Location) : Prop :=
  ∀ front rest, place = front ++ rest → ∃ time, files.node? front = some (.directory time)

/-- The places on the way to an open one are open. -/
theorem IsOpen.front {rest : List String} (isOpen : files.IsOpen (place ++ rest)) :
    files.IsOpen place := by
  intro front between same
  rw [same, List.append_assoc] at isOpen
  exact isOpen front (between ++ rest) rfl

/-- The place above an open one is open. -/
theorem IsOpen.dropLast (isOpen : files.IsOpen place) : files.IsOpen place.dropLast := by
  rcases List.eq_nil_or_concat place with rfl | ⟨front, last, rfl⟩
  · exact isOpen
  · rw [List.concat_eq_append] at isOpen ⊢
    rw [List.dropLast_concat]
    exact isOpen.front

/-- An open place is a directory. -/
theorem IsOpen.here (isOpen : files.IsOpen place) :
    ∃ time, files.node? place = some (.directory time) :=
  isOpen place [] (List.append_nil place).symm

/-- A place stays open while nothing is lost. -/
theorem IsOpen.of_keeps (keeps : files.Keeps later) (isOpen : files.IsOpen place) :
    later.IsOpen place := by
  intro front rest same
  obtain ⟨_, isDirectory⟩ := isOpen front rest same
  exact keeps.ways.directory isDirectory

/-- Where names lead along links depends on the links alone. -/
theorem Reaches.congr (same : ∀ place target, files.node? place = some (.link target) ↔
    later.node? place = some (.link target)) (reaches : files.Reaches count place names other) :
    later.Reaches count place names other := by
  induction reaches with
  | done place => exact .done place
  | stay here _ ih => exact .stay here ih
  | up _ ih => exact .up ih
  | into entry notLink _ ih =>
      exact .into entry (fun target isLink => notLink target ((same _ _).2 isLink)) ih
  | link entry isLink _ _ innerIh ih => exact .link entry ((same _ _).1 isLink) innerIh ih

/-- Names of entries are reached one below the other unless a link is met. -/
theorem Reaches.eq_append (entries : ∀ name ∈ names, IsEntryName name)
    (reaches : files.Reaches 0 place names other) : other = place ++ names := by
  induction names generalizing place with
  | nil =>
      cases reaches
      exact (List.append_nil _).symm
  | cons name rest ih =>
      obtain ⟨entry, others⟩ := List.forall_mem_cons.1 entries
      cases reaches with
      | stay here => exact absurd here (by simp [entry.notHere])
      | up => exact absurd rfl entry.notUp
      | into _ _ further =>
          rw [ih others further, List.append_assoc]
          rfl

/-- A name that is no link is reached from where its directory is. -/
theorem Reaches.concat (reaches : files.Reaches 0 place names other) (entry : IsEntryName name)
    (notLink : ∀ target, files.node? (other ++ [name]) ≠ some (.link target)) :
    files.Reaches 0 place (names ++ [name]) (other ++ [name]) := by
  generalize none : 0 = count at reaches
  induction reaches with
  | done place => exact .into entry notLink (.done _)
  | stay here _ ih => exact .stay here (ih notLink none)
  | up _ ih => exact .up (ih notLink none)
  | into first free _ ih => exact .into first free (ih notLink none)
  | link => cases none

/-- Names that go up and then down without a link are passed while both ends are open. -/
theorem Reaches.passes {ups : Nat} {down : List String}
    (entries : ∀ name ∈ down, IsEntryName name) (short : ∀ name ∈ down, isLongName name = false)
    (reaches : files.Reaches 0 place (List.replicate ups ".." ++ down) other)
    (isOpen : files.IsOpen place) (opensTo : files.IsOpen other) (links : Nat) :
    files.Passes links place (List.replicate ups ".." ++ down) links other := by
  induction ups generalizing place with
  | zero =>
      rw [List.replicate_zero, List.nil_append] at reaches ⊢
      induction down generalizing place with
      | nil =>
          cases reaches
          exact .done links _
      | cons name rest ih =>
          obtain ⟨entry, others⟩ := List.forall_mem_cons.1 entries
          obtain ⟨shortName, shorts⟩ := List.forall_mem_cons.1 short
          have ends := reaches.eq_append entries
          obtain ⟨_, isDirectory⟩ := isOpen.here
          have opened : files.IsOpen (place ++ [name]) := by
            rw [ends, List.append_cons] at opensTo
            exact opensTo.front
          obtain ⟨_, present⟩ := opened.here
          cases reaches with
          | stay here => exact absurd here (by simp [entry.notHere])
          | up => exact absurd rfl entry.notUp
          | into _ _ further =>
              exact .into isDirectory entry shortName present (by simp)
                (ih others shorts further opened)
  | succ ups ih =>
      rw [List.replicate_succ, List.cons_append] at reaches ⊢
      generalize dots : ".." = name at reaches
      cases reaches with
      | stay here => exact absurd here (by rw [← dots]; decide)
      | into entry => exact absurd dots.symm entry.notUp
      | up further =>
          obtain ⟨_, isDirectory⟩ := isOpen.here
          exact .up isDirectory (ih further isOpen.dropLast)

/-- Names that are passed are not too long. -/
theorem Passes.short (passes : files.Passes links place names left other) :
    ∀ name ∈ names, isLongName name = false := by
  induction passes with
  | done => exact fun name member => absurd member List.not_mem_nil
  | @stay _ _ _ _ name _ _ _ here _ ih =>
      refine List.forall_mem_cons.2 ⟨?_, ih⟩
      rw [isHere, Bool.or_eq_true, decide_eq_true_eq, decide_eq_true_eq] at here
      rcases here with rfl | rfl <;> decide
  | up _ _ ih => exact List.forall_mem_cons.2 ⟨by decide, ih⟩
  | into _ _ short _ _ _ ih => exact List.forall_mem_cons.2 ⟨short, ih⟩
  | link _ _ short _ _ ih =>
      exact List.forall_mem_cons.2
        ⟨short, fun name member => ih name (List.mem_append_right _ member)⟩

/-- A place that is reached from a place of entries is one of entries. -/
theorem Passes.entries (passes : files.Passes links place names left other)
    (entries : ∀ name ∈ place, IsEntryName name) : ∀ name ∈ other, IsEntryName name := by
  induction passes with
  | done => exact entries
  | stay _ _ _ ih => exact ih entries
  | up _ _ ih => exact ih fun name member => entries name (List.dropLast_subset _ member)
  | into _ entry _ _ _ _ ih =>
      apply ih
      intro name member
      rcases List.mem_append.1 member with inPlace | isLast
      · exact entries name inPlace
      · exact List.mem_singleton.1 isLast ▸ entry
  | link _ _ _ _ _ ih =>
      apply ih
      rw [linkStart]
      split
      · exact fun name member => absurd member List.not_mem_nil
      · exact entries

/-- Where nothing stands, names that do not go up lead further below. -/
theorem leads?_of_vacant (vacant : ∀ rest, files.node? (place ++ rest) = none)
    (noUps : ".." ∉ names) (leads : files.leads? links place names = some other) :
    ∃ rest, other = place ++ rest := by
  induction names generalizing place with
  | nil =>
      rw [leads?] at leads
      obtain rfl := Option.some.inj leads
      exact ⟨[], (List.append_nil _).symm⟩
  | cons name rest ih =>
      rw [List.mem_cons, not_or] at noUps
      rw [leads?] at leads
      split at leads
      · exact ih vacant noUps.2 leads
      · rw [if_neg (Ne.symm noUps.1), vacant [name]] at leads
        dsimp only at leads
        have below (more : List String) : files.node? (place ++ [name] ++ more) = none := by
          rw [List.append_assoc]
          exact vacant ([name] ++ more)
        obtain ⟨more, rfl⟩ := ih below noUps.2 leads
        exact ⟨[name] ++ more, List.append_assoc ..⟩

/-- A walk that meets no link does not end for too many of them. -/
theorem walk_ne_tooManyLinks (entries : ∀ name ∈ names, IsEntryName name)
    (noLink : ∀ front rest target, names = front ++ rest →
      files.node? (place ++ front) ≠ some (.link target)) {number : Nat}
    (failed : files.walk .target links place names = .error number) :
    number ≠ Fault.tooManyLinks := by
  induction names generalizing place with
  | nil =>
      rw [walk] at failed
      split at failed
      · cases failed
      · obtain rfl := Except.error.inj failed
        decide
  | cons name rest ih =>
      obtain ⟨entry, others⟩ := List.forall_mem_cons.1 entries
      rw [walk] at failed
      split at failed
      · rw [if_neg (Bool.eq_false_iff.1 entry.notHere), if_neg entry.notUp,
          if_neg (by simp)] at failed
        split at failed
        · obtain rfl := Except.error.inj failed
          decide
        · split at failed
          · split at failed
            · cases failed
            · obtain rfl := Except.error.inj failed
              decide
          · exact absurd ‹_› (noLink [name] rest _ rfl)
          · refine ih others ?_ failed
            intro front more target cut
            rw [List.append_assoc]
            exact noLink (name :: front) more target (congrArg (List.cons name) cut)
      · obtain rfl := Except.error.inj failed
        decide
      · obtain rfl := Except.error.inj failed
        decide

end FileSystem

namespace Host

open Resolution FileSystem

variable {host later : Host} {path : Path} {name : String} {start place : Location}
  {names : List String}

/-- The names on the way to the current directory are plain, routes start in directories, and nodes
lie in directories. -/
structure IsWhole (host : Host) : Prop where
  current : ∀ name ∈ host.directory.place, IsPlainName name
  starts : ∀ path start names, host.route path = .ok (.along start names) →
    host.files.IsOpen start
  tree : ∀ place name node, host.files.node? (place ++ [name]) = some node →
    host.files.IsOpen place

/-- The current directory goes by no dots. -/
theorem IsWhole.noDots (whole : host.IsWhole) : host.HasNoDots :=
  fun member => (whole.current _ member).notUp rfl

/-- Routes start in directories, and links lie in directories. -/
structure HasOpenLinks (host : Host) : Prop where
  starts : ∀ path start names, host.route path = .ok (.along start names) →
    host.files.IsOpen start
  links : ∀ place name target, host.files.node? (place ++ [name]) = some (.link target) →
    host.files.IsOpen place

/-- Every link lies in directories. -/
theorem IsWhole.hasOpenLinks (whole : host.IsWhole) : host.HasOpenLinks :=
  ⟨whole.starts, fun place name _ => whole.tree place name _⟩

/-- The current directory and all nodes stay, and no link is new. -/
structure Lasts (host later : Host) : Prop where
  directory : later.directory = host.directory
  links : ∀ place target, host.files.node? place = some (.link target) ↔
    later.files.node? place = some (.link target)
  keeps : host.files.Keeps later.files

/-- What lasts twice in turn lasts. -/
theorem Lasts.trans {middle : Host} (first : host.Lasts middle) (second : middle.Lasts later) :
    host.Lasts later where
  directory := second.directory.trans first.directory
  links place target := (first.links place target).trans (second.links place target)
  keeps := first.keeps.trans second.keeps

/-- Reports let everything last. -/
theorem lasts_reportAll (host : Host) (entries : List Entry) :
    host.Lasts (host.reportAll entries) where
  directory := (host.spares_reportAll entries fun _ => False).directory
  links := (host.spares_reportAll entries fun _ => False).links
  keeps := (host.keeps_reportAll entries).1

/-- Reports keep a host whole. -/
theorem IsWhole.reportAll (whole : host.IsWhole) (entries : List Entry) :
    (host.reportAll entries).IsWhole where
  current := by
    rw [(lasts_reportAll host entries).directory]
    exact whole.current
  starts path start names along := by
    rw [route_congr (lasts_reportAll host entries).directory] at along
    exact (whole.starts path start names along).of_keeps (host.keeps_reportAll entries).1
  tree place name node present := by
    obtain ⟨_, before, _⟩ := (host.keeps_reportAll entries).2 _ node present
    exact (whole.tree place name _ before).of_keeps (host.keeps_reportAll entries).1

/-- Making directories lets everything last. -/
theorem Builds.lasts (builds : host.Builds later path fun _ => False) : host.Lasts later :=
  ⟨builds.directory, builds.links, builds.keeps⟩

/-- Reports before and after directories are made leave what is not kept in the log. -/
theorem Builds.alike_reportAll {earlier : List Entry} {changed : Location → Prop}
    (builds : (host.reportAll earlier).Builds later path changed) (spared : ¬ changed place)
    (notLog : host.logFile ≠ some place) (entries : List Entry) :
    Alike (host.files.node? place) ((later.reportAll entries).files.node? place) := by
  have logThen : (host.reportAll earlier).logFile ≠ some place := by rwa [logFile_reportAll]
  rw [node?_reportAll (builds.logFile_ne logThen), ← node?_reportAll notLog earlier]
  exact builds.alike place spared

/-- Links stay in directories while everything lasts. -/
theorem HasOpenLinks.of_lasts (opens : host.HasOpenLinks) (lasts : host.Lasts later) :
    later.HasOpenLinks where
  starts path start names along := by
    rw [route_congr lasts.directory] at along
    exact (opens.starts path start names along).of_keeps lasts.keeps
  links place name target isLink :=
    (opens.links place name target ((lasts.links _ _).2 isLink)).of_keeps lasts.keeps

/-- A path goes up and then down, and the names that can be asked about meet no link. -/
structure IsClear (host : Host) (path : Path) : Prop where
  level : ∃ ups down, path.parts = List.replicate ups ".." ++ down ∧
    ∀ name ∈ down, IsEntryName name
  settled : IsSettled path
  reaches : ∀ front rest start names, path.parts = front ++ rest →
    host.route ⟨path.anchor, front⟩ = .ok (.along start names) →
    (∀ name ∈ names, isLongName name = false) →
    host.files.Reaches 0 start names (host.spot ⟨path.anchor, front⟩)

/-- A clear path stays clear while everything lasts. -/
theorem IsClear.of_lasts (clear : host.IsClear path) (lasts : host.Lasts later) :
    later.IsClear path where
  level := clear.level
  settled := clear.settled
  reaches front rest start names cut along short := by
    rw [route_congr lasts.directory] at along
    have spot : later.spot ⟨path.anchor, front⟩ = host.spot ⟨path.anchor, front⟩ := by
      rw [spot, spot, lasts.directory]
    rw [spot]
    exact (clear.reaches front rest start names cut along short).congr lasts.links

/-- Names of a route go up and then down like those of the path. -/
theorem level_of_routeFrom {gone ups : Nat} {down left : List String}
    (entries : ∀ name ∈ down, IsEntryName name)
    (along : routeFrom place gone (List.replicate ups ".." ++ down) = .ok (.along start left)) :
    ∃ fewer, left = List.replicate fewer ".." ++ down := by
  induction ups generalizing place gone with
  | zero =>
      rw [List.replicate_zero, List.nil_append] at along
      cases gone with
      | zero =>
          rw [routeFrom] at along
          obtain ⟨_, rfl⟩ := Route.along.inj (Except.ok.inj along)
          exact ⟨0, rfl⟩
      | succ gone =>
          cases down with
          | nil =>
              rw [routeFrom] at along
              cases along
          | cons name rest =>
              rw [routeFrom, if_neg (entries name List.mem_cons_self).notUp] at along
              cases along
  | succ ups ih =>
      rw [List.replicate_succ, List.cons_append] at along
      cases gone with
      | zero =>
          rw [routeFrom] at along
          obtain ⟨_, rfl⟩ := Route.along.inj (Except.ok.inj along)
          exact ⟨ups + 1, rfl⟩
      | succ gone =>
          rw [routeFrom, if_pos rfl] at along
          exact ih along

/-- A clear path goes up first and then down. -/
theorem IsClear.level_of_route (clear : host.IsClear path)
    (along : host.route path = .ok (.along start names)) :
    ∃ ups down, names = List.replicate ups ".." ++ down ∧ ∀ name ∈ down, IsEntryName name := by
  obtain ⟨ups, down, parts, entries⟩ := clear.level
  have way := wayOf?_of_route along
  rw [wayOf?, parts] at way
  split at way
  · split at way
    · rename_i found
      obtain ⟨rfl, rfl⟩ := Prod.mk.inj (Option.some.inj way)
      obtain ⟨fewer, rfl⟩ := level_of_routeFrom entries found
      exact ⟨fewer, down, rfl, entries⟩
    · cases way
  · obtain ⟨rfl, rfl⟩ := Prod.mk.inj (Option.some.inj way)
    exact ⟨ups, down, rfl, entries⟩

/-- Below a clear path a link is told if it stands there, and if it can be asked about. -/
theorem IsClear.linkAt_below (clear : host.IsClear path) (opens : host.HasOpenLinks)
    (entry : IsEntryName name) {target : String} :
    host.linkAt (below path name) = some target ↔
      (∃ start names, host.route (below path name) = .ok (.along start names) ∧
        ∀ name ∈ names, isLongName name = false) ∧
      host.files.node? (host.spot path ++ [name]) = some (.link target) := by
  constructor
  · intro told
    rw [linkAt] at told
    split at told
    · rename_i other goal found
      obtain rfl := Option.some.inj told
      rcases query_eq_ok found with ⟨start, names, along, walked⟩ | ⟨_, gone⟩
      · obtain ⟨front, rfl, alongFront⟩ := route_of_concat entry along
        rw [lookUp, walk_concat entry] at walked
        split at walked
        · cases walked
        · rename_i left directory passed
          have passes := passes_of_pass passed
          obtain ⟨count, _, reaches⟩ := passes.reaches
          have clearly := clear.reaches path.parts [] start front (List.append_nil _).symm
            alongFront passes.short
          obtain ⟨_, rfl⟩ := reaches.unique clearly
          obtain ⟨_, short, _, isLink⟩ := (walk_itself_eq_found_iff entry).1 walked
          have shorts : ∀ part ∈ front ++ [name], isLongName part = false := by
            intro other member
            rcases List.mem_append.1 member with inFront | isLast
            · exact passes.short other inFront
            · rwa [List.mem_singleton.1 isLast]
          exact ⟨⟨start, front ++ [name], along, shorts⟩, isLink⟩
      · cases gone
    · cases told
  · rintro ⟨⟨start, names, along, short⟩, isLink⟩
    obtain ⟨front, rfl, alongFront⟩ := route_of_concat entry along
    have shortFront : ∀ name ∈ front, isLongName name = false :=
      fun other member => short other (List.mem_append_left _ member)
    have clearly := clear.reaches path.parts [] start front (List.append_nil _).symm alongFront
      shortFront
    obtain ⟨ups, down, rfl, entries⟩ := clear.level_of_route alongFront
    have isOpen := opens.links _ _ _ isLink
    have passes := clearly.passes entries
      (fun other member => shortFront other (List.mem_append_right _ member))
      (opens.starts _ _ _ along) isOpen linkAllowance
    have found : host.files.lookUp .itself start (List.replicate ups ".." ++ down ++ [name]) =
        .ok (.found (host.spot path ++ [name]) (.link target)) := by
      rw [lookUp, walk_concat entry, passes.pass_eq]
      exact (walk_itself_eq_found_iff entry).2 ⟨isOpen.here, short name (by simp), rfl, isLink⟩
    rw [linkAt, query, along]
    dsimp only
    rw [found]

/-- Going up reaches the directories above, whatever stands there. -/
theorem reaches_of_routeFrom (noDots : ".." ∉ place) {gone : Nat} (ups : Nat)
    (along : routeFrom place gone (List.replicate ups "..") = .ok (.along start names)) :
    host.files.Reaches 0 start names (Path.collapseFrom .root place (List.replicate ups "..")) := by
  induction ups generalizing place gone start names with
  | zero =>
      cases gone with
      | zero =>
          rw [List.replicate_zero, routeFrom] at along
          obtain ⟨rfl, rfl⟩ := Route.along.inj (Except.ok.inj along)
          exact .done _
      | succ gone =>
          rw [List.replicate_zero, routeFrom] at along
          cases along
  | succ ups ih =>
      have above : ".." ∉ place.dropLast := fun member => noDots (List.dropLast_subset _ member)
      rw [List.replicate_succ, Path.collapseFrom_cons, Path.collapseFrom_up (by decide) noDots]
      cases gone with
      | zero =>
          rw [routeFrom] at along
          obtain ⟨rfl, rfl⟩ := Route.along.inj (Except.ok.inj along)
          have further : routeFrom place.dropLast 0 (List.replicate ups "..") = _ :=
            routeFrom.eq_1 ..
          exact .up (ih above further)
      | succ gone =>
          rw [List.replicate_succ, routeFrom, if_pos rfl] at along
          exact ih above along

/-- The start of every path is clear. -/
theorem isClear_start (anchor : Anchor) (host : Host) (noDots : host.HasNoDots) :
    host.IsClear ⟨anchor, []⟩ where
  level := ⟨0, [], rfl, fun _ member => absurd member List.not_mem_nil⟩
  settled _ := List.not_mem_nil
  reaches front rest start names cut along _ := by
    obtain ⟨rfl, rfl⟩ := List.nil_eq_append_iff.1 cut
    have way := wayOf?_of_route along
    rw [wayOf?] at way
    rw [spot]
    cases anchor with
    | relative =>
        dsimp only at way ⊢
        split at way
        · rename_i found
          obtain ⟨rfl, rfl⟩ := Prod.mk.inj (Option.some.inj way)
          exact reaches_of_routeFrom noDots 0 found
        · cases way
    | root | doubleRoot =>
        obtain ⟨rfl, rfl⟩ := Prod.mk.inj (Option.some.inj way)
        exact .done _

/-- Going up from the current directory is clear. -/
theorem isClear_ups (host : Host) (noDots : host.HasNoDots) (ups : Nat) :
    host.IsClear ⟨.relative, List.replicate ups ".."⟩ where
  level := ⟨ups, [], (List.append_nil _).symm, fun _ member => absurd member List.not_mem_nil⟩
  settled relative := absurd rfl relative
  reaches front rest start names cut along _ := by
    obtain ⟨_, dots, _⟩ := List.append_eq_replicate_iff.1 cut.symm
    generalize front.length = count at dots
    subst dots
    have way := wayOf?_of_route along
    rw [wayOf?] at way
    rw [spot]
    dsimp only at way ⊢
    split at way
    · rename_i found
      obtain ⟨rfl, rfl⟩ := Prod.mk.inj (Option.some.inj way)
      exact reaches_of_routeFrom noDots _ found
    · cases way

/-- The path above a clear path is clear. -/
theorem IsClear.up (clear : host.IsClear path) (noDots : host.HasNoDots) :
    host.IsClear (up path) := by
  obtain ⟨ups, down, parts, entries⟩ := clear.level
  rcases List.eq_nil_or_concat down with rfl | ⟨above, last, rfl⟩
  · rw [List.append_nil] at parts
    by_cases relative : path.anchor = .relative
    · have dots : Resolution.up path = ⟨.relative, List.replicate (ups + 1) ".."⟩ := by
        rw [Resolution.up, relative, parts]
        cases ups with
        | zero => rfl
        | succ fewer => simp [Path.collapseFrom, List.replicate_succ']
      rw [dots]
      exact isClear_ups host noDots (ups + 1)
    · have none : path.parts = [] := by
        cases ups with
        | zero => exact parts
        | succ fewer => exact absurd (by simp [parts]) (clear.settled relative)
      rw [Resolution.up, none, Path.collapseFrom_up relative List.not_mem_nil]
      exact isClear_start path.anchor host noDots
  · rw [List.concat_eq_append] at parts entries
    have above' : Resolution.up path = ⟨path.anchor, List.replicate ups ".." ++ above⟩ := by
      have notUp := (entries last (by simp)).notUp
      rw [Resolution.up, parts, ← List.append_assoc]
      simp [Path.collapseFrom, notUp]
    rw [above']
    refine ⟨⟨ups, above, rfl, fun name member => entries name (List.mem_append_left _ member)⟩, ?_,
      ?_⟩
    · exact above' ▸ isSettled_up clear.settled
    · intro front rest start names cut
      refine clear.reaches front (rest ++ [last]) start names ?_
      rw [parts, ← List.append_assoc, ← List.append_assoc]
      exact congrArg (fun parts => parts ++ [last]) cut

/-- A path below a clear one is clear unless a link is told there. -/
theorem IsClear.below (clear : host.IsClear path) (opens : host.HasOpenLinks)
    (entry : IsEntryName name) (none : host.linkAt (below path name) = none) :
    host.IsClear (below path name) where
  level := by
    obtain ⟨ups, down, parts, entries⟩ := clear.level
    refine ⟨ups, down ++ [name], ?_, ?_⟩
    · rw [Resolution.below, parts, List.append_assoc]
    · intro other member
      rcases List.mem_append.1 member with inDown | isLast
      · exact entries other inDown
      · exact List.mem_singleton.1 isLast ▸ entry
  settled := isSettled_below clear.settled entry.notUp
  reaches front rest start names cut along short := by
    rcases List.eq_nil_or_concat rest with rfl | ⟨between, last, rfl⟩
    · rw [List.append_nil] at cut
      obtain rfl : (Resolution.below path name).parts = front := cut
      obtain ⟨above, rfl, alongPath⟩ := route_of_concat entry along
      have clearly := clear.reaches path.parts [] start above (List.append_nil _).symm alongPath
        fun other member => short other (List.mem_append_left _ member)
      have notLink (target : String) :
          host.files.node? (host.spot path ++ [name]) ≠ some (.link target) := by
        intro isLink
        rw [(clear.linkAt_below opens entry).2 ⟨⟨start, _, along, short⟩, isLink⟩] at none
        cases none
      have spot : host.spot (Resolution.below path name) = host.spot path ++ [name] :=
        spot_below host path entry.notUp
      rw [show (⟨(Resolution.below path name).anchor, (Resolution.below path name).parts⟩ : Path) =
        Resolution.below path name from rfl, spot]
      exact clearly.concat entry notLink
    · rw [List.concat_eq_append, Resolution.below, ← List.append_assoc] at cut
      have inside := (List.append_inj' cut rfl).1
      exact clear.reaches front between start names inside along short

variable [Platform]

/-- What links tell of a path lasts while nodes and links stay and no link is new. -/
theorem target_congr (lasts : host.Lasts later) (opens : host.HasOpenLinks)
    (noDots : host.HasNoDots) (path : Path) :
    Resolution.target later.linkAt path = Resolution.target host.linkAt path := by
  have told (path : Path) (name : String) (clear : host.IsClear path) (entry : IsEntryName name) :
      later.linkAt (below path name) = host.linkAt (below path name) := by
    ext target
    rw [(clear.of_lasts lasts).linkAt_below (opens.of_lasts lasts) entry,
      clear.linkAt_below opens entry, spot, spot, lasts.directory, lasts.links]
    simp only [route_congr lasts.directory]
  have carries : Carries host.linkAt host.IsClear (fun _ => True) fun _ => True :=
    ⟨isClear_start .root host noDots, fun _ clear => clear.up noDots,
      fun _ _ clear _ => clear.below opens, fun _ _ _ _ _ => trivial,
      fun _ _ _ _ _ _ _ => trivial, fun _ _ _ _ => trivial⟩
  have followed (start : Path) (clear : host.IsClear start) :=
    carries.follow_congr told openLinks start .empty path.parts clear (leads_empty _)
      fun _ _ => trivial
  rw [Resolution.target, Resolution.target]
  by_cases relative : path.anchor = .relative
  · rw [if_pos relative, followed .here (isClear_start .relative host noDots)]
  · rw [if_neg relative, followed ⟨.root, []⟩ (isClear_start .root host noDots)]

omit [Platform] in
/-- An absolute path begins at the root. -/
theorem rooted_of_absolute {plain : Path} (found : host.absolute path = .ok plain) :
    plain.anchor ≠ .relative := by
  rw [absolute, currentDirectory] at found
  split at found
  · rename_i relative
    split at found
    · obtain rfl := Except.ok.inj found
      simp [Path.join, relative, pathTo, Path.collapsed]
    · cases found
  · rename_i rooted
    obtain rfl := Except.ok.inj found
    exact rooted

omit [Platform] in
/-- No links in a circle keep a path from a place without links. -/
theorem circles_eq_false (rooted : path.anchor ≠ .relative)
    (entries : ∀ name ∈ path.parts, IsEntryName name)
    (noLink : ∀ front rest target, path.parts = front ++ rest →
      host.files.node? front ≠ some (.link target)) : host.circles path = false := by
  have way : host.wayOf? path = some ([], path.parts) := by
    rw [wayOf?]
    split
    · exact absurd ‹_› rooted
    · rfl
  rw [circles_eq_false_iff]
  intro failed
  rcases query_eq_error failed with lost | ⟨_, same, ⟨_, _, along, refused⟩ | ⟨_, gone⟩⟩
  · rcases fault_of_route lost with ⟨same, _⟩ | ⟨same, _⟩ | same <;> cases same
  · obtain rfl := Fault.system.inj same
    obtain ⟨rfl, rfl⟩ := Prod.mk.inj (Option.some.inj ((wayOf?_of_route along).symm.trans way))
    rw [nodeAt] at refused
    split at refused
    · rename_i walked
      exact walk_ne_tooManyLinks entries noLink walked (Except.error.inj refused)
    · cases refused
    · cases refused
  · obtain rfl := Fault.system.inj same
    cases gone

/-- A path that links lead to a place without links is resolved to the absolute path of it. -/
theorem resolve_eq_absolute (noDots : host.HasNoDots)
    (clean : path.parts.any (holds (Char.ofNat 0)) = false) {goal : Path}
    (target : Resolution.target host.linkAt path = .ok goal) (settled : IsSettled goal)
    (entries : ∀ name ∈ host.spot goal, IsEntryName name)
    (noLink : ∀ front rest target, host.spot goal = front ++ rest →
      host.files.node? front ≠ some (.link target)) :
    host.resolve path = (host.absolute goal).bind encoded := by
  rw [resolve, if_neg (by rw [clean]; decide), target]
  simp only [bind, Except.bind]
  cases found : host.absolute goal with
  | error fault => rfl
  | ok plain =>
      have parts := parts_of_absolute noDots settled found
      rw [← parts] at entries noLink
      simp only [circles_eq_false (rooted_of_absolute found) entries noLink]
      rfl

omit [Platform] in
/-- A route begins at names of entries. -/
theorem entries_of_route (whole : host.IsWhole)
    (along : host.route path = .ok (.along start names)) : ∀ name ∈ start, IsEntryName name := by
  have above {place : Location} {gone : Nat} {parts : List String}
      (found : routeFrom place gone parts = .ok (.along start names)) : start ⊆ place := by
    induction place, gone, parts using routeFrom.induct with
    | case1 place names =>
        rw [routeFrom] at found
        obtain ⟨rfl, _⟩ := Route.along.inj (Except.ok.inj found)
        exact List.Subset.refl _
    | case2 place gone =>
        rw [routeFrom] at found
        cases found
    | case3 place gone rest ih =>
        rw [routeFrom, if_pos rfl] at found
        exact List.Subset.trans (ih found) (List.dropLast_subset _)
    | case4 place gone first rest notUp =>
        rw [routeFrom, if_neg notUp] at found
        cases found
  have way := wayOf?_of_route along
  rw [wayOf?] at way
  split at way
  · split at way
    · rename_i found
      obtain ⟨rfl, rfl⟩ := Prod.mk.inj (Option.some.inj way)
      intro name member
      exact (whole.current name (above found member)).toIsEntryName
    · cases way
  · obtain ⟨rfl, rfl⟩ := Prod.mk.inj (Option.some.inj way)
    exact fun name member => absurd member List.not_mem_nil

omit [Platform] in
/-- A path that leads to a place holds no null character, and the place is named by entries. -/
theorem entries_of_placeOf? (whole : host.IsWhole)
    (stands : host.placeOf? .target path = some place) :
    path.parts.any (holds (Char.ofNat 0)) = false ∧ ∀ name ∈ place, IsEntryName name := by
  rw [placeOf?] at stands
  split at stands
  · rename_i walked
    obtain rfl := Option.some.inj stands
    rcases query_eq_ok walked with ⟨start, names, along, walked⟩ | ⟨_, gone⟩
    · obtain ⟨⟨_, passed⟩, _⟩ := FileSystem.walk_target_eq_found_iff.1 walked
      exact ⟨clean_of_route along,
        (passes_of_pass passed).entries (entries_of_route whole along)⟩
    · cases gone
  · cases stands

omit [Platform] in
/-- Making a path absolute fails as the system fails. -/
theorem isSystem_of_absolute {fault : Fault} (failed : host.absolute path = .error fault) :
    fault.isSystem = true := by
  rw [absolute, currentDirectory] at failed
  split at failed
  · split at failed
    · cases failed
    · obtain rfl := Except.error.inj failed
      rfl
  · cases failed

omit [Platform] in
/-- Above the place of a node there are directories. -/
theorem IsWhole.directory_above (whole : host.IsWhole) {node : Node} {front rest : List String}
    (present : host.files.node? place = some node) (cut : place = front ++ rest) :
    front = place ∨ ∃ time, host.files.node? front = some (.directory time) := by
  rcases List.eq_nil_or_concat rest with rfl | ⟨between, last, rfl⟩
  · exact .inl (cut.trans (List.append_nil front)).symm
  · rw [List.concat_eq_append, ← List.append_assoc] at cut
    exact .inr (whole.tree _ _ _ (cut ▸ present) front between rfl)

/-- A path leads to a node, and the links that can be asked about lead it to a path of the place. -/
structure LeadsTo (host : Host) (path : Path) (place : Location) (goal : Path) : Prop where
  stands : host.placeOf? .target path = some place
  target : Resolution.target host.linkAt path = .ok goal
  settled : IsSettled goal
  spot : host.spot goal = place

/-- A path whose links are all met leads to a path of its place. -/
theorem leadsTo_of_met (noDots : host.HasNoDots)
    (met : Resolution.target host.linkAt path = Resolution.target host.linkOf path)
    (stands : host.placeOf? .target path = some place) : ∃ goal, host.LeadsTo path place goal := by
  obtain ⟨goal, found, settled, spot⟩ := target_of_placeOf? noDots stands
  exact ⟨goal, stands, met.trans found, settled, spot⟩

section LeadsTo

variable {goal : Path} {node : Node} (leads : host.LeadsTo path place goal) (whole : host.IsWhole)
  (present : host.files.node? place = some node)
include leads whole present

variable (notLink : ∀ target, node ≠ .link target)
include notLink

/-- A path that links lead to another one is resolved to the absolute path of that. -/
theorem LeadsTo.resolve_eq : host.resolve path = (host.absolute goal).bind encoded := by
  obtain ⟨clean, entries⟩ := entries_of_placeOf? whole leads.stands
  refine resolve_eq_absolute whole.noDots clean leads.target leads.settled
    (leads.spot ▸ entries) ?_
  intro front rest target cut
  rcases whole.directory_above present (leads.spot ▸ cut) with rfl | ⟨_, isDirectory⟩
  · rw [present]
    exact fun isLink => notLink target (Option.some.inj isLink)
  · simp [isDirectory]

/-- What a path is resolved to lasts while nodes and links stay. -/
theorem LeadsTo.resolve_later (lasts : host.Lasts later) :
    later.resolve path = host.resolve path := by
  obtain ⟨clean, entries⟩ := entries_of_placeOf? whole leads.stands
  have laterSpot : later.spot goal = place := by
    rw [← leads.spot, Host.spot, Host.spot, lasts.directory]
  have laterDots : later.HasNoDots := by
    rw [HasNoDots, lasts.directory]
    exact whole.noDots
  have laterTarget :=
    (target_congr lasts whole.hasOpenLinks whole.noDots path).trans leads.target
  have laterResolved : later.resolve path = (later.absolute goal).bind encoded := by
    refine resolve_eq_absolute laterDots clean laterTarget leads.settled (laterSpot ▸ entries) ?_
    intro front rest target cut
    rcases whole.directory_above present (laterSpot ▸ cut) with rfl | ⟨_, isDirectory⟩
    · obtain ⟨_, still, kin⟩ := lasts.keeps _ _ present
      rw [still]
      exact fun isLink => kin.notLink notLink target (Option.some.inj isLink)
    · obtain ⟨_, still⟩ := lasts.keeps.ways.directory isDirectory
      simp [still]
  rw [laterResolved, leads.resolve_eq whole present notLink, absolute, absolute, currentDirectory,
    currentDirectory, lasts.directory]

/-- Resolving such a path fails as the system fails, or for the encoding. -/
theorem LeadsTo.fault_of_resolve {fault : Fault} (failed : host.resolve path = .error fault) :
    fault.isSystem = true ∨ fault = .notEncoded := by
  rw [leads.resolve_eq whole present notLink] at failed
  cases found : host.absolute goal with
  | error other =>
      rw [found] at failed
      obtain rfl := Except.error.inj failed
      exact .inl (isSystem_of_absolute found)
  | ok plain =>
      rw [found] at failed
      exact .inr (fault_of_encoded failed)

end LeadsTo

/-- Whenever the way of a path goes up, it does so behind a directory. -/
def HasFirmWay (host : Host) (path : Path) : Prop :=
  ∀ start front rest, host.wayOf? path = some (start, front ++ ".." :: rest) →
    ∃ place, host.files.enter start front = .ok place

omit [Platform] in
/-- A firm way stays firm while everything lasts. -/
theorem HasFirmWay.of_lasts (firm : host.HasFirmWay path) (lasts : host.Lasts later) :
    later.HasFirmWay path := by
  intro start front rest way
  rw [wayOf?_congr lasts.directory] at way
  obtain ⟨place, entered⟩ := firm start front rest way
  exact ⟨place, enter_of_ways lasts.keeps.ways entered⟩

omit [Platform] in
/-- Nothing stands where a firm way would lead that breaks off. -/
theorem Lacks.vacant (lacks : host.Lacks path) (whole : host.IsWhole) (firm : host.HasFirmWay path)
    (leads : host.leads? path = some place) (name : String) :
    host.files.node? (place ++ [name]) = none := by
  obtain ⟨start, front, first, more, home, way, entered, entry, vacant⟩ := lacks
  obtain ⟨⟨left, passed⟩, _⟩ := enter_eq_ok_iff.1 entered
  have passes := passes_of_pass passed
  have nothing (rest : List String) : host.files.node? (home ++ [first] ++ rest) = none := by
    rcases List.eq_nil_or_concat rest with rfl | ⟨between, last, rfl⟩
    · rwa [List.append_nil]
    · rw [List.concat_eq_append, ← List.append_assoc]
      cases stood : host.files.node? (home ++ [first] ++ between ++ [last]) with
      | none => rfl
      | some node =>
          obtain ⟨_, isDirectory⟩ := whole.tree _ _ _ stood _ between rfl
          rw [vacant] at isDirectory
          cases isDirectory
  have noUps : ".." ∉ more := by
    intro member
    obtain ⟨before, behind, rfl⟩ := List.append_of_mem member
    obtain ⟨other, further⟩ := firm start (front ++ first :: before) behind
      (by rw [way, List.append_assoc]; rfl)
    obtain ⟨⟨_, passedFurther⟩, _⟩ := enter_eq_ok_iff.1 further
    obtain ⟨between, middle, again, onward⟩ := (passes_of_pass passedFurther).of_append
    obtain ⟨rfl, rfl⟩ := Prod.mk.inj (Except.ok.inj (again.pass_eq.symm.trans passed))
    cases onward with
    | stay _ here => exact absurd here (by simp [entry.notHere])
    | up => exact entry.notUp rfl
    | into _ _ _ present =>
        rw [vacant] at present
        cases present
    | link _ _ _ isLink =>
        rw [vacant] at isLink
        cases isLink
  rw [leads?, way, Option.bind_some, passes.leads?_append, FileSystem.leads?,
    if_neg (Bool.eq_false_iff.1 entry.notHere), if_neg entry.notUp, vacant] at leads
  obtain ⟨rest, rfl⟩ := leads?_of_vacant nothing noUps leads
  rw [List.append_assoc]
  exact nothing (rest ++ [name])

end Host

end AnnotatedMake
