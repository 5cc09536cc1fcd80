import AnnotatedMake.Proofs.Completion.Narrowing
import AnnotatedMake.Proofs.Host.Resolved

namespace AnnotatedMake

/-- The last separator of a text parts it. -/
theorem append_cons_inj_of_absent {α : Type} {separator : α} {front back first second : List α}
    (inFirst : separator ∉ first) (inSecond : separator ∉ second) :
    front ++ separator :: first = back ++ separator :: second ↔ front = back ∧ first = second := by
  refine ⟨fun same => ?_, by rintro ⟨rfl, rfl⟩; rfl⟩
  rcases List.append_eq_append_iff.1 same with ⟨between, isBack, ends⟩ | ⟨between, isFront, ends⟩
  · cases between with
    | nil =>
        rw [List.append_nil] at isBack
        exact ⟨isBack.symm, (List.cons.inj ends).2⟩
    | cons _ between =>
        have inside : separator ∈ first := by
          rw [(List.cons.inj ends).2]
          simp
        exact absurd inside inFirst
  · cases between with
    | nil =>
        rw [List.append_nil] at isFront
        exact ⟨isFront, (List.cons.inj ends).2.symm⟩
    | cons _ between =>
        have inside : separator ∈ second := by
          rw [(List.cons.inj ends).2]
          simp
        exact absurd inside inSecond

namespace IndexCache

/-- A key tells the marker and the resolved path. -/
theorem keyText_eq_iff {marker other : String} {resolved path : Path} (proper : resolved.IsProper)
    (properToo : path.IsProper) :
    keyText marker resolved = keyText other path ↔ marker = other ∧ resolved = path := by
  have texts : resolved.text = path.text ↔ resolved = path := by
    refine ⟨fun same => ?_, congrArg Path.text⟩
    rw [← Path.ofString_text proper, same, Path.ofString_text properToo]
  have parted : marker.toList ++ Char.ofNat 0 :: resolved.text.toList =
        other.toList ++ Char.ofNat 0 :: path.text.toList ↔
      marker.toList = other.toList ∧ resolved.text.toList = path.text.toList :=
    append_cons_inj_of_absent proper.noNull_text properToo.noNull_text
  rw [← texts]
  simpa [keyText, ← String.toList_inj] using parted

variable [Platform]

variable {base : Path} {host later : Host} {source path resolved other : Path}
  {marker otherMarker : String}

/-- The cache file is named by the resolved source. -/
theorem run_pathFor {cache : IndexCache} (leads : host.resolve source = .ok resolved) :
    (cache.pathFor source).run host =
      (.ok (cache.directory.child (nameOf cache.marker resolved)), host) := by
  rw [pathFor, Program.bind_eq_bind, Program.run_bind, Program.run_resolve, leads]
  rfl

omit [Platform] in
/-- Names of cache files are told apart below a directory as by themselves. -/
theorem child_nameOf_eq_iff :
    base.child (nameOf marker resolved) = base.child (nameOf otherMarker other) ↔
      keyOf marker resolved = keyOf otherMarker other := by
  rw [Path.child_of_oneName base (isPlainName_nameOf marker resolved).toIsOneName,
    Path.child_of_oneName base (isPlainName_nameOf otherMarker other).toIsOneName]
  constructor
  · intro same
    exact keyOf_eq_of_nameOf (last_eq_of_concat_eq (Path.mk.inj same).2)
  · intro same
    rw [nameOf, nameOf, same]

/-- A path without slashes in its parts is resolved on a host without null characters in names. -/
structure IsResolved (host : Host) (source resolved : Path) : Prop where
  names : host.HasPlainNames
  noSlash : ∀ part ∈ source.parts, '/' ∉ part.toList
  leads : host.resolve source = .ok resolved

/-- A path leads to a place, and no link on the way is missed because its path is too long. -/
structure Meets (host : Host) (source : Path) (place : Location) : Prop where
  leads : host.placeOf? .target source = some place
  met : Resolution.target host.linkAt source = Resolution.target host.linkOf source

/-- A resolved path is proper. -/
theorem IsResolved.proper (isResolved : IsResolved host source resolved) : resolved.IsProper :=
  Host.isProper_resolve isResolved.names isResolved.noSlash isResolved.leads

/-- A resolved path is the path to the place it meets. -/
theorem IsResolved.eq_pathTo (isResolved : IsResolved host source resolved) {place : Location}
    (meets : Meets host source place) : resolved = Host.pathTo place :=
  Host.resolve_eq_pathTo isResolved.names isResolved.noSlash meets.met meets.leads isResolved.leads

/-- Cache files are told apart by markers and resolved paths unless digests collide. -/
theorem pathFor_eq_iff (isResolved : IsResolved host source resolved)
    (isResolvedToo : IsResolved later path other) (marker otherMarker : String) :
    (keyText marker resolved = keyText otherMarker other ↔
        marker = otherMarker ∧ resolved = other) ∧
      (∀ base enabled otherEnabled,
        (keyOf marker resolved = keyOf otherMarker other →
          keyText marker resolved = keyText otherMarker other) →
        let cache : IndexCache := ⟨base, marker, enabled⟩
        let otherCache : IndexCache := ⟨base, otherMarker, otherEnabled⟩
        (((cache.pathFor source).run host).1 = ((otherCache.pathFor path).run later).1 ↔
          marker = otherMarker ∧ resolved = other)) ∧
      ∀ place otherPlace, Meets host source place → Meets later path otherPlace →
        (resolved = other ↔ place = otherPlace) := by
  have keys : keyText marker resolved = keyText otherMarker other ↔
      marker = otherMarker ∧ resolved = other :=
    keyText_eq_iff isResolved.proper isResolvedToo.proper
  refine ⟨keys, ?_, ?_⟩
  · intro base enabled otherEnabled apart cache otherCache
    rw [run_pathFor isResolved.leads, run_pathFor isResolvedToo.leads, Except.ok.injEq,
      child_nameOf_eq_iff, ← keys]
    refine ⟨apart, fun same => ?_⟩
    rw [keyOf, keyOf, same]
  · intro place otherPlace meets meetsToo
    rw [isResolved.eq_pathTo meets, isResolvedToo.eq_pathTo meetsToo]
    simp [Host.pathTo]

end IndexCache

end AnnotatedMake

namespace AnnotatedMake.IndexCache

open Session

/-- The host of the Makefile behind the link, from within the directory of the Makefile. -/
def nearHost : Host := { linkedHost with directory := { place := ["d"] } }

/-- The path of the Makefile from there. -/
def nearSource : Path := ⟨.relative, ["Makefile"]⟩

/-- The near source ends in the directory behind the link. -/
theorem ends_nearSource : nearHost.Ends nearSource ["d"] "Makefile" where
  entry := isPlainName_makefile.toIsEntryName
  short := by decide
  along := ⟨["d"], [], by decide, FileSystem.enter_eq_ok_iff.2
    ⟨⟨_, (FileSystem.Passes.done _ _).pass_eq⟩, 0, node?_linkedDirectory⟩⟩

theorem target_nearSource {linkAt : Path → Option String} (none : linkAt nearSource = none) :
    Resolution.target linkAt nearSource = .ok nearSource := by
  have way : Resolution.below .here "Makefile" = nearSource := rfl
  have relative : nearSource.anchor = .relative := rfl
  rw [Resolution.target, relative, if_pos rfl, nearSource,
    Resolution.follow_below isPlainName_makefile.toIsEntryName none, way, Resolution.follow]
  rfl

theorem linkAt_nearSource : nearHost.linkAt nearSource = none :=
  ends_nearSource.linkAt node?_linkedFile (by simp)

/-- The near source resolves to the linked file. -/
theorem resolve_nearSource : nearHost.resolve nearSource = .ok linkedFile := by
  have noDots : nearHost.HasNoDots := by simp [Host.HasNoDots, nearHost]
  rw [Host.resolve_eq_absolute noDots (by decide) (target_nearSource linkAt_nearSource)]
  · rfl
  · exact fun rooted => absurd rfl rooted
  · exact isEntryName_linkedFile
  · exact node?_above_linkedFile

theorem links_linkedHost (place : Location) (target : String)
    (isLink : linkedHost.files.node? place = some (.link target)) :
    Char.ofNat 0 ∉ target.toList := by
  rw [node?_linkedHost] at isLink
  split at isLink
  · obtain rfl := Node.link.inj (Option.some.inj isLink)
    decide
  · split at isLink
    · simp at isLink
    · split at isLink
      · simp at isLink
      · split at isLink <;> simp at isLink

/-- The source through the link resolves to the same file. -/
theorem isResolved_linkedSource : IsResolved linkedHost linkedSource linkedFile where
  names := ⟨by simp [linkedHost], links_linkedHost⟩
  noSlash := fun part member => (isPlainName_linkedSource part member).noSlash
  leads := resolve_linkedSource

theorem isResolved_nearSource : IsResolved nearHost nearSource linkedFile where
  names := ⟨by simpa [nearHost] using isPlainName_d, links_linkedHost⟩
  noSlash := by decide
  leads := resolve_nearSource

theorem meets_linkedSource : Meets linkedHost linkedSource ["d", "Makefile"] where
  leads := placeOf?_linkedSource
  met := by
    have rooted {parts : List String} : linkedHost.spot ⟨.root, parts⟩ = parts :=
      Host.spot_of_rooted nofun
    rw [target_linkedSource, target_of_link]
    · exact Host.linkOf_eq_some (rooted ▸ node?_link)
    · exact Host.linkOf_eq_none (by simp [rooted, node?_linkedDirectory])
    · exact Host.linkOf_eq_none (by simp [linkedFile, rooted, node?_linkedFile])

theorem meets_nearSource : Meets nearHost nearSource ["d", "Makefile"] where
  leads := ends_nearSource.placeOf? node?_linkedFile (by simp) .target
  met := by
    have file : nearHost.files.node? (nearHost.spot nearSource) =
        some (.file (bytesOf "all:\n") 5) := node?_linkedFile
    rw [target_nearSource linkAt_nearSource, target_nearSource]
    exact Host.linkOf_eq_none (by simp [file])

/-- Through a link and from its own directory a Makefile has one cache file. -/
theorem pathFor_eq_iff_near :
    IsResolved linkedHost linkedSource linkedFile ∧ IsResolved nearHost nearSource linkedFile ∧
      Meets linkedHost linkedSource ["d", "Makefile"] ∧
      Meets nearHost nearSource ["d", "Makefile"] ∧
      ((rootCache.pathFor linkedSource).run linkedHost).1 =
        ((rootCache.pathFor nearSource).run nearHost).1 ∧
      keyText "##" linkedFile ≠ keyText "#" linkedFile := by
  obtain ⟨-, shared, placed⟩ :=
    pathFor_eq_iff isResolved_linkedSource isResolved_nearSource "##" "##"
  have one := (placed _ _ meets_linkedSource meets_nearSource).2 rfl
  have named := (shared rootCache.directory true true fun _ => rfl).2 ⟨rfl, one⟩
  obtain ⟨keys, -, -⟩ := pathFor_eq_iff isResolved_linkedSource isResolved_nearSource "##" "#"
  exact ⟨isResolved_linkedSource, isResolved_nearSource, meets_linkedSource, meets_nearSource,
    named, fun same => absurd (keys.1 same).1 (by decide)⟩

end AnnotatedMake.IndexCache
