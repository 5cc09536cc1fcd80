/-
This file shows that resolving a path and walking it lead to one place.
A walk that arrives meets no circle; resolving must miss no link for the length of its path.
-/

import AnnotatedMake.Proofs.Host.Route

namespace AnnotatedMake

namespace FileSystem

/-- Where names lead along a count of links. -/
inductive Reaches (files : FileSystem) : Nat → Location → List String → Location → Prop where
  | done (place : Location) : Reaches files 0 place [] place
  | stay {count : Nat} {place other : Location} {name : String} {rest : List String}
      (here : isHere name = true) (further : Reaches files count place rest other) :
      Reaches files count place (name :: rest) other
  | up {count : Nat} {place other : Location} {rest : List String}
      (further : Reaches files count place.dropLast rest other) :
      Reaches files count place (".." :: rest) other
  | into {count : Nat} {place other : Location} {name : String} {rest : List String}
      (entry : IsEntryName name)
      (notLink : ∀ target, files.node? (place ++ [name]) ≠ some (.link target))
      (further : Reaches files count (place ++ [name]) rest other) :
      Reaches files count place (name :: rest) other
  | link {first later : Nat} {place middle other : Location} {name target : String}
      {rest : List String} (entry : IsEntryName name)
      (isLink : files.node? (place ++ [name]) = some (.link target))
      (inner : Reaches files first (linkStart place target) (piecesOf '/' target) middle)
      (further : Reaches files later middle rest other) :
      Reaches files (first + later + 1) place (name :: rest) other

variable {files : FileSystem} {links left count more : Nat} {place other last : Location}
  {names : List String}

/-- Names are reached one part behind the other. -/
theorem Reaches.of_append {first second : List String}
    (reaches : files.Reaches count place (first ++ second) other) :
    ∃ before middle after, count = before + after ∧ files.Reaches before place first middle ∧
      files.Reaches after middle second other := by
  induction first generalizing count place with
  | nil => exact ⟨0, place, count, (Nat.zero_add count).symm, .done place, reaches⟩
  | cons name rest ih =>
      cases reaches with
      | stay here further =>
          obtain ⟨before, middle, after, sum, front, back⟩ := ih further
          exact ⟨before, middle, after, sum, .stay here front, back⟩
      | up further =>
          obtain ⟨before, middle, after, sum, front, back⟩ := ih further
          exact ⟨before, middle, after, sum, .up front, back⟩
      | into entry notLink further =>
          obtain ⟨before, middle, after, sum, front, back⟩ := ih further
          exact ⟨before, middle, after, sum, .into entry notLink front, back⟩
      | @link opened later _ _ _ _ _ _ entry isLink inner further =>
          obtain ⟨before, middle, after, sum, front, back⟩ := ih further
          refine ⟨opened + before + 1, middle, after, ?_, .link entry isLink inner front, back⟩
          omega

/-- Empty names lead nowhere. -/
theorem Reaches.of_filter
    (reaches : files.Reaches count place (names.filter fun name => name ≠ "") other) :
    files.Reaches count place names other := by
  induction names generalizing count place with
  | nil => exact reaches
  | cons name rest ih =>
      by_cases empty : name = ""
      · subst empty
        exact .stay (by decide) (ih reaches)
      · rw [List.filter_cons, if_pos (decide_eq_true empty)] at reaches
        cases reaches with
        | stay here further => exact .stay here (ih further)
        | up further => exact .up (ih further)
        | into entry notLink further => exact .into entry notLink (ih further)
        | link entry isLink inner further => exact .link entry isLink inner (ih further)

/-- The target of a link leads where its pieces lead, whatever slash is at its end. -/
theorem Reaches.of_linkNames {target : String}
    (reaches : files.Reaches count place (linkNames target) other) :
    files.Reaches count place (piecesOf '/' target) other := by
  obtain ⟨before, middle, after, rfl, front, back⟩ := reaches.of_append
  have still : after = 0 ∧ middle = other := by
    split at back
    · generalize empty : "" = name at back
      cases back with
      | stay _ done =>
          cases done
          exact ⟨rfl, rfl⟩
      | up => exact absurd empty (by decide)
      | into entry | link entry => exact absurd empty.symm entry.ne_empty
    · cases back
      exact ⟨rfl, rfl⟩
  obtain ⟨rfl, rfl⟩ := still
  exact front.of_filter

/-- Names lead to one place along one count of links. -/
theorem Reaches.unique (first : files.Reaches count place names other)
    (second : files.Reaches more place names last) : count = more ∧ other = last := by
  induction first generalizing more last with
  | done place =>
      cases second
      exact ⟨rfl, rfl⟩
  | stay here further ih =>
      cases second with
      | stay _ again => exact ih again
      | up => exact absurd here (by decide)
      | into entry | link entry => exact absurd here (by simp [entry.notHere])
  | up further ih =>
      cases second with
      | stay here => exact absurd here (by decide)
      | up again => exact ih again
      | into entry | link entry => exact absurd rfl entry.notUp
  | into entry notLink further ih =>
      cases second with
      | stay here => exact absurd here (by simp [entry.notHere])
      | up => exact absurd rfl entry.notUp
      | into _ _ again => exact ih again
      | link _ isLink => exact absurd isLink (notLink _)
  | link entry isLink inner further innerIh ih =>
      cases second with
      | stay here => exact absurd here (by simp [entry.notHere])
      | up => exact absurd rfl entry.notUp
      | into _ notLink => exact absurd isLink (notLink _)
      | link _ isLinkToo innerAgain again =>
          obtain rfl := Node.link.inj (Option.some.inj (isLink.symm.trans isLinkToo))
          obtain ⟨rfl, rfl⟩ := innerIh innerAgain
          obtain ⟨rfl, rfl⟩ := ih again
          exact ⟨rfl, rfl⟩

/-- A walk that passes names reaches a place within its allowance. -/
theorem Passes.reaches (passes : files.Passes links place names left other) :
    ∃ count, count ≤ links ∧ files.Reaches count place names other := by
  induction passes with
  | done links place => exact ⟨0, Nat.zero_le links, .done place⟩
  | stay _ here _ ih =>
      obtain ⟨count, within, reaches⟩ := ih
      exact ⟨count, within, .stay here reaches⟩
  | up _ _ ih =>
      obtain ⟨count, within, reaches⟩ := ih
      exact ⟨count, within, .up reaches⟩
  | @into _ _ place _ name _ _ _ _ entry _ present notLink _ ih =>
      obtain ⟨count, within, reaches⟩ := ih
      have none (target : String) : files.node? (place ++ [name]) ≠ some (.link target) := by
        rw [present]
        exact fun same => notLink target (Option.some.inj same)
      exact ⟨count, within, .into entry none reaches⟩
  | link _ entry _ isLink _ ih =>
      obtain ⟨count, within, reaches⟩ := ih
      obtain ⟨before, middle, after, rfl, inner, onward⟩ := reaches.of_append
      have whole := Reaches.link entry isLink inner.of_linkNames onward
      exact ⟨before + after + 1, Nat.succ_le_succ within, whole⟩

end FileSystem

namespace Host

open Resolution

/-- The place that a path without links names, whether or not anything stands there. -/
def spot (host : Host) (path : Path) : Location :=
  match path.anchor with
  | .relative => Path.collapseFrom .root host.directory.place path.parts
  | _ => path.parts

/-- The target of the link that stands at a path, however long the path is. -/
def linkOf (host : Host) (path : Path) : Option String :=
  match host.files.node? (host.spot path) with
  | some (.link target) => some target
  | _ => none

/-- The names on the way to the current directory are no dots. -/
def HasNoDots (host : Host) : Prop := ".." ∉ host.directory.place

/-- A path with a root of its own has no way up in it. -/
def IsSettled (path : Path) : Prop := path.anchor ≠ .relative → ".." ∉ path.parts

variable {host : Host} {path : Path} {name : String}

/-- Where no link stands none is told. -/
theorem linkOf_eq_none
    (notLink : ∀ target, host.files.node? (host.spot path) ≠ some (.link target)) :
    host.linkOf path = none := by
  rw [linkOf]
  split
  · exact absurd ‹_› (notLink _)
  · rfl

/-- A link that stands there is told. -/
theorem linkOf_eq_some {target : String}
    (isLink : host.files.node? (host.spot path) = some (.link target)) :
    host.linkOf path = some target := by
  rw [linkOf, isLink]

/-- A path from the root leads by its own names. -/
theorem spot_of_rooted (rooted : path.anchor ≠ .relative) : host.spot path = path.parts := by
  rw [spot]
  split
  · exact absurd ‹_› rooted
  · rfl

/-- Another one leads on from the current directory. -/
theorem spot_of_relative (relative : path.anchor = .relative) :
    host.spot path = Path.collapseFrom .root host.directory.place path.parts := by
  rw [spot, relative]

/-- The spot below a path has one name more. -/
theorem spot_below (host : Host) (path : Path) (notUp : name ≠ "..") :
    host.spot (below path name) = host.spot path ++ [name] := by
  by_cases relative : path.anchor = .relative
  · have isBelow : (below path name).anchor = .relative := relative
    rw [spot_of_relative isBelow, spot_of_relative relative, below, Path.collapseFrom_append,
      Path.collapseFrom_name _ _ notUp]
  · have isBelow : (below path name).anchor ≠ .relative := relative
    rw [spot_of_rooted isBelow, spot_of_rooted relative, below]

/-- A name settles what is below it. -/
theorem isSettled_below (settled : IsSettled path) (notUp : name ≠ "..") :
    IsSettled (below path name) := by
  intro rooted member
  rcases List.mem_append.1 member with inPath | isName
  · exact settled rooted inPath
  · exact notUp (List.mem_singleton.1 isName).symm

/-- The way up from a path ends in the directory of its place. -/
theorem spot_up (noDots : host.HasNoDots) (settled : IsSettled path) :
    host.spot (up path) = (host.spot path).dropLast := by
  by_cases relative : path.anchor = .relative
  · have isAbove : (up path).anchor = .relative := relative
    have further (front : List String) : Path.collapseFrom .root host.directory.place
        (front ++ [".."]) = (Path.collapseFrom .root host.directory.place front).dropLast := by
      have clean := @Path.noDots_collapseFrom .root (by decide) _ noDots front
      rw [Path.collapseFrom_append, Path.collapseFrom_up (by decide) clean]
    rw [spot_of_relative isAbove, spot_of_relative relative, up, relative]
    rcases List.eq_nil_or_concat path.parts with none | ⟨front, last, ends⟩
    · rw [none]
      exact further []
    · rw [ends, List.concat_eq_append]
      by_cases dots : last = ".."
      · subst dots
        rw [← further]
        simp [Path.collapseFrom]
      · rw [Path.collapseFrom_append .root _ front, Path.collapseFrom_name _ _ dots,
          List.dropLast_concat]
        simp [Path.collapseFrom, dots]
  · have isAbove : (up path).anchor ≠ .relative := relative
    rw [spot_of_rooted isAbove, spot_of_rooted relative]
    exact Path.collapseFrom_up relative (settled relative)

/-- Going up stays settled. -/
theorem isSettled_up (settled : IsSettled path) : IsSettled (up path) := by
  intro rooted
  exact Path.noDots_collapseFrom rooted (settled rooted) [".."]

/-- A link starts where its target says. -/
theorem spot_startOf (host : Host) (path : Path) (target : String) :
    host.spot (startOf path target) = FileSystem.linkStart (host.spot path) target := by
  rw [startOf, FileSystem.linkStart]
  split <;> rfl

/-- The start of a link is settled. -/
theorem isSettled_startOf (settled : IsSettled path) (target : String) :
    IsSettled (startOf path target) := by
  rw [startOf]
  split
  · exact fun _ => List.not_mem_nil
  · exact settled

/-- Where the link at a path leads along a count of further links. -/
def LinkLeads (host : Host) (count : Nat) (path : Path) (goal : Location) : Prop :=
  ∃ target, host.files.node? (host.spot path) = some (.link target) ∧
    host.files.Reaches count (FileSystem.linkStart (host.spot path).dropLast target)
      (piecesOf '/' target) goal

/-- A link leads to one place in one number of steps. -/
theorem LinkLeads.unique {count more : Nat} {goal other : Location}
    (first : host.LinkLeads count path goal) (second : host.LinkLeads more path other) :
    count = more ∧ goal = other := by
  obtain ⟨target, isLink, reaches⟩ := first
  obtain ⟨_, isLinkToo, again⟩ := second
  obtain rfl := Node.link.inj (Option.some.inj (isLink.symm.trans isLinkToo))
  exact reaches.unique again

/-- The paths that links are known to lead to are where they lead. -/
def Recalls (host : Host) (known : Known) : Prop :=
  ∀ path goal, known.get? path = some (some goal) →
    IsSettled goal ∧ ∃ count, host.LinkLeads count path (host.spot goal)

/-- The links that are open need at least as many further links as are left to follow. -/
def Outlasts (host : Host) (known : Known) (count : Nat) : Prop :=
  ∀ path, known.get? path = some none →
    ∃ more goal, count ≤ more ∧ host.LinkLeads more path goal

theorem recalls_empty : host.Recalls .empty := by
  intro path goal isKnown
  cases isKnown

theorem outlasts_empty {count : Nat} : host.Outlasts .empty count := by
  intro path isOpen
  cases isOpen

/-- A link that is open recalls nothing. -/
theorem Recalls.insert_open {known : Known} (recalls : host.Recalls known) (link : Path) :
    host.Recalls (known.insert link none) := by
  intro path goal isKnown
  rw [OrderedMap.get?_insert] at isKnown
  split at isKnown
  · cases isKnown
  · exact recalls path goal isKnown

/-- A link that was followed may be recalled. -/
theorem Recalls.insert {known : Known} (recalls : host.Recalls known) {link goal : Path}
    {count : Nat} (settled : IsSettled goal) (leads : host.LinkLeads count link (host.spot goal)) :
    host.Recalls (known.insert link (some goal)) := by
  intro path other isKnown
  rw [OrderedMap.get?_insert] at isKnown
  split at isKnown
  · rename_i same
    obtain rfl := Option.some.inj (Option.some.inj isKnown)
    exact ⟨settled, count, same ▸ leads⟩
  · exact recalls path other isKnown

/-- What outlasts more links outlasts fewer. -/
theorem Outlasts.mono {known : Known} {count less : Nat} (outlasts : host.Outlasts known count)
    (fewer : less ≤ count) : host.Outlasts known less := by
  intro path isOpen
  obtain ⟨more, goal, enough, leads⟩ := outlasts path isOpen
  exact ⟨more, goal, Nat.le_trans fewer enough, leads⟩

/-- A link that leads somewhere may be opened. -/
theorem Outlasts.insert_open {known : Known} {count : Nat} (outlasts : host.Outlasts known count)
    {link : Path} {goal : Location} (leads : host.LinkLeads count link goal) :
    host.Outlasts (known.insert link none) count := by
  intro path isOpen
  rw [OrderedMap.get?_insert] at isOpen
  split at isOpen
  · rename_i same
    exact ⟨count, goal, Nat.le_refl count, same ▸ leads⟩
  · exact outlasts path isOpen

/-- A link is known to lead somewhere once what it opened is closed. -/
theorem opened_of_insert {known after : Known} {link goal : Path}
    (opened : ∀ path, after.get? path = some none → (known.insert link none).get? path = some none)
    (isOpen : (after.insert link (some goal)).get? path = some none) :
    known.get? path = some none := by
  rw [OrderedMap.get?_insert] at isOpen
  split at isOpen
  · cases isOpen
  · rename_i differs
    have before := opened path isOpen
    rwa [OrderedMap.get?_insert, if_neg differs] at before

/-- Names are followed to a path of a place, and no more links are open than before. -/
structure Arrives (host : Host) (known : Known) (place : Location) (goal : Path)
    (after : Known) : Prop where
  settled : IsSettled goal
  spot : host.spot goal = place
  recalls : host.Recalls after
  opened : ∀ path, after.get? path = some none → known.get? path = some none

/-- The name of an entry is followed. -/
theorem isFollowed (entry : IsEntryName name) : ¬ (name = "" || name = ".") = true := by
  rw [Bool.or_comm]
  exact Bool.eq_false_iff.1 entry.notHere

/-- What names lead to is found by following them, for no link is behind itself. -/
theorem follow_of_reaches (noDots : host.HasNoDots) {count : Nat} {place other : Location}
    {names : List String} (reaches : host.files.Reaches count place names other) {depth : Nat}
    {path : Path} {known : Known} (settled : IsSettled path) (spot : host.spot path = place)
    (within : count ≤ depth) (recalls : host.Recalls known)
    (outlasts : host.Outlasts known count) :
    ∃ goal after, follow host.linkOf depth path known names = (.reached goal, after) ∧
      host.Arrives known other goal after := by
  induction reaches generalizing depth path known with
  | done place =>
      exact ⟨path, known, by rw [follow], settled, spot, recalls, fun _ isOpen => isOpen⟩
  | @stay _ _ _ name _ here _ ih =>
      have skipped : (name = "" || name = ".") = true := (Bool.or_comm ..).trans here
      rw [follow, if_pos skipped]
      exact ih settled spot within recalls outlasts
  | up _ ih =>
      rw [follow, if_neg (by decide), if_pos rfl]
      exact ih (isSettled_up settled) (spot ▸ spot_up noDots settled) within recalls outlasts
  | @into _ _ _ name _ entry notLink _ ih =>
      have further := spot ▸ spot_below host path entry.notUp
      have told : host.linkOf (below path name) = none := linkOf_eq_none (further ▸ notLink)
      rw [follow, if_neg (isFollowed entry), if_neg entry.notUp]
      simp only [told]
      exact ih (isSettled_below settled entry.notUp) further within recalls outlasts
  | @link first later place middle _ name target rest entry isLink inner _ innerIh ih =>
      have further := spot ▸ spot_below host path entry.notUp
      have told : host.linkOf (below path name) = some target := linkOf_eq_some (further ▸ isLink)
      have leads : host.LinkLeads first (below path name) middle := by
        refine ⟨target, further ▸ isLink, ?_⟩
        rw [further, List.dropLast_concat]
        exact inner
      rw [follow, if_neg (isFollowed entry), if_neg entry.notUp]
      simp only [told]
      cases isKnown : known.get? (below path name) with
      | some state =>
          cases state with
          | some goal =>
              obtain ⟨isSettled, _, leadsThere⟩ := recalls _ _ isKnown
              have same := (leadsThere.unique leads).2
              exact ih isSettled same (by omega) recalls (outlasts.mono (by omega))
          | none =>
              -- The link would have to be passed on the way through itself.
              obtain ⟨more, goal, enough, leadsToo⟩ := outlasts _ isKnown
              have same := (leadsToo.unique leads).1
              omega
      | none =>
          obtain ⟨left, rfl⟩ : ∃ left, depth = left + 1 := ⟨depth - 1, by omega⟩
          have start := (spot_startOf host path target).trans (by rw [spot])
          have innerWithin : first ≤ left := by omega
          have laterWithin : later ≤ left + 1 := by omega
          have innerFewer : first ≤ first + later + 1 := by omega
          have fewer : later ≤ first + later + 1 := by omega
          obtain ⟨goal, learnt, followed, arrives⟩ := innerIh (isSettled_startOf settled target)
            start innerWithin (recalls.insert_open _) ((outlasts.mono innerFewer).insert_open leads)
          obtain ⟨last, after, onward, ends⟩ := ih arrives.settled arrives.spot laterWithin
            (arrives.recalls.insert arrives.settled (arrives.spot ▸ leads))
            fun path isOpen => outlasts.mono fewer path (opened_of_insert arrives.opened isOpen)
          refine ⟨last, after, ?_, ends.settled, ends.spot, ends.recalls, ?_⟩
          · simp only [followed, onward]
          · exact fun path isOpen => opened_of_insert arrives.opened (ends.opened path isOpen)

/-- The way up out of a directory that was removed is followed like any other. -/
theorem follow_of_routeFrom (noDots : host.HasNoDots) {place start : Location} {gone : Nat}
    {names left : List String} {path : Path}
    (along : routeFrom place gone names = .ok (.along start left)) (settled : IsSettled path)
    (spot : host.spot path = place) :
    ∃ above, IsSettled above ∧ host.spot above = start ∧ ∀ depth known,
      follow host.linkOf depth path known names = follow host.linkOf depth above known left := by
  induction place, gone, names using routeFrom.induct generalizing path with
  | case1 place names =>
      rw [routeFrom] at along
      obtain ⟨rfl, rfl⟩ := Route.along.inj (Except.ok.inj along)
      exact ⟨path, settled, spot, fun _ _ => rfl⟩
  | case2 place gone =>
      rw [routeFrom] at along
      cases along
  | case3 place gone rest ih =>
      rw [routeFrom, if_pos rfl] at along
      obtain ⟨above, isSettled, there, same⟩ := ih along (isSettled_up settled)
        (spot ▸ spot_up noDots settled)
      refine ⟨above, isSettled, there, ?_⟩
      intro depth known
      rw [follow, if_neg (by decide), if_pos rfl, same]
  | case4 place gone first rest notUp =>
      rw [routeFrom, if_neg notUp] at along
      cases along

/-- The absolute form of a path names the same place. -/
theorem parts_of_absolute (noDots : host.HasNoDots) {plain : Path} (settled : IsSettled path)
    (found : host.absolute path = .ok plain) : plain.parts = host.spot path := by
  by_cases relative : path.anchor = .relative
  · rw [absolute, relative, currentDirectory] at found
    dsimp only at found
    split at found
    · obtain rfl := Except.ok.inj found
      have joined : (pathTo host.directory.place).join path =
          ⟨.root, host.directory.place ++ path.parts⟩ := by
        simp [Path.join, relative, pathTo]
      dsimp only
      rw [spot_of_relative relative, joined, Path.collapsed, Path.collapseFrom_append,
        Path.collapseFrom_of_noDots _ _ noDots, List.nil_append]
    · cases found
  · have whole : host.absolute path = .ok path.collapsed := by
      rw [absolute]
      split
      · exact absurd ‹_› relative
      · rfl
    obtain rfl := Except.ok.inj (whole.symm.trans found)
    rw [spot_of_rooted relative, Path.collapsed, Path.collapseFrom_of_noDots _ _ (settled relative),
      List.nil_append]

variable [Platform]

/-- The names of a path that leads to a node are followed to a path of its place. -/
theorem follow_of_placeOf? (noDots : host.HasNoDots) {place : Location}
    (stands : host.placeOf? .target path = some place) :
    ∃ goal after, follow host.linkOf openLinks
        (if path.anchor = .relative then .here else ⟨.root, []⟩) .empty path.parts =
          (.reached goal, after) ∧
      IsSettled goal ∧ host.spot goal = place := by
  rw [placeOf?] at stands
  split at stands
  · rename_i other node found
    obtain rfl := Option.some.inj stands
    rcases query_eq_ok found with ⟨start, names, along, walked⟩ | ⟨_, gone⟩
    · obtain ⟨⟨left, passed⟩, _⟩ := FileSystem.walk_target_eq_found_iff.1 walked
      obtain ⟨count, within, reaches⟩ := (FileSystem.passes_of_pass passed).reaches
      have enough : count ≤ openLinks := Nat.le_trans within Platform.links_suffice
      have followed {first : Path} (settled : IsSettled first) (spot : host.spot first = start) :
          ∃ goal after, follow host.linkOf openLinks first .empty names = (.reached goal, after) ∧
            host.Arrives .empty other goal after :=
        follow_of_reaches noDots reaches settled spot enough recalls_empty outlasts_empty
      have way := wayOf?_of_route along
      rw [wayOf?] at way
      cases anchor : path.anchor with
      | relative =>
          rw [anchor] at way
          dsimp only at way
          split at way
          · rename_i alongFrom
            obtain ⟨rfl, rfl⟩ := Prod.mk.inj (Option.some.inj way)
            have spot : host.spot .here = host.directory.place := rfl
            obtain ⟨above, settled, there, same⟩ := follow_of_routeFrom noDots alongFrom
              (fun _ => List.not_mem_nil) spot
            obtain ⟨goal, after, reached, arrives⟩ := followed settled there
            exact ⟨goal, after, (same ..).trans reached, arrives.settled, arrives.spot⟩
          · cases way
      | root | doubleRoot =>
          rw [anchor] at way
          obtain ⟨rfl, rfl⟩ := Prod.mk.inj (Option.some.inj way)
          have settled : IsSettled ⟨.root, []⟩ := fun _ => List.not_mem_nil
          obtain ⟨goal, after, reached, arrives⟩ := followed settled rfl
          exact ⟨goal, after, reached, arrives.settled, arrives.spot⟩
    · cases gone
  · cases stands

/-- A path that leads to a node is resolved to a path of its place. -/
theorem target_of_placeOf? (noDots : host.HasNoDots) {place : Location}
    (stands : host.placeOf? .target path = some place) :
    ∃ goal, Resolution.target host.linkOf path = .ok goal ∧ IsSettled goal ∧
      host.spot goal = place := by
  obtain ⟨goal, after, followed, settled, spot⟩ := follow_of_placeOf? noDots stands
  exact ⟨goal, by rw [Resolution.target]; simp only [followed], settled, spot⟩

/-- An encoded path is the path itself. -/
theorem eq_of_encoded {plain : Path} (kept : encoded path = .ok plain) : path = plain := by
  rw [encoded] at kept
  split at kept
  · cases kept
  · exact Except.ok.inj kept

/-- A path that is not encoded has a character for a byte. -/
theorem fault_of_encoded {fault : Fault} (refused : encoded path = .error fault) :
    fault = .notEncoded := by
  rw [encoded] at refused
  split at refused
  · exact (Except.error.inj refused).symm
  · cases refused

/-- A resolved path is the absolute form of the path that links lead to. -/
theorem absolute_of_resolve {plain : Path} (resolved : host.resolve path = .ok plain) :
    path.parts.any (holds (Char.ofNat 0)) = false ∧
      ∃ goal, Resolution.target host.linkAt path = .ok goal ∧ host.absolute goal = .ok plain := by
  rw [resolve] at resolved
  split at resolved
  · cases resolved
  · rename_i clean
    refine ⟨Bool.eq_false_iff.2 clean, ?_⟩
    cases found : Resolution.target host.linkAt path with
    | error fault =>
        rw [found] at resolved
        cases resolved
    | ok goal =>
        rw [found] at resolved
        simp only [bind, Except.bind] at resolved
        refine ⟨goal, rfl, ?_⟩
        split at resolved
        · cases resolved
        · rename_i absolute
          split at resolved
          · cases resolved
          · obtain rfl := eq_of_encoded resolved
            exact absolute

/-- What a path is resolved to names the place where it leads. -/
theorem parts_of_resolve (noDots : host.HasNoDots)
    (met : Resolution.target host.linkAt path = Resolution.target host.linkOf path)
    {place : Location} {plain : Path} (stands : host.placeOf? .target path = some place)
    (resolved : host.resolve path = .ok plain) : plain.parts = place := by
  obtain ⟨goal, found, settled, spot⟩ := target_of_placeOf? noDots stands
  obtain ⟨-, other, isTarget, absolute⟩ := absolute_of_resolve resolved
  obtain rfl := Except.ok.inj (isTarget.symm.trans (met.trans found))
  rw [parts_of_absolute noDots settled absolute, spot]

end Host

end AnnotatedMake
