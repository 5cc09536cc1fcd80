import AnnotatedMake.Proofs.Host.Lasting
import AnnotatedMake.Proofs.Host.Seeing

namespace AnnotatedMake.Host

open Resolution

variable {host middle after later : Host} {gone place : Location} {path goal : Path}
  {text : String} {content : Bytes} {time : Int} {node : Node}

/-- The host with nothing at a place. -/
def without (host : Host) (gone : Location) : Host :=
  { host with files := host.files.drop gone }

theorem node?_without (host : Host) (gone place : Location) :
    (host.without gone).files.node? place =
      if place = gone then none else host.files.node? place :=
  FileSystem.node?_drop ..

/-- What is seen alike stands at the same place. -/
theorem SeesAlike.placeOf? (alike : host.SeesAlike later path) :
    later.placeOf? .target path = host.placeOf? .target path := by
  rw [Host.placeOf?, Host.placeOf?, alike.query_eq _ alike.lookUp]

section Link

variable (isLink : host.files.node? gone = some (.link text))
include isLink

/-- Directories stay when a link is taken away. -/
theorem isOpen_without (isOpen : host.files.IsOpen place) :
    (host.without gone).files.IsOpen place := by
  intro front rest cut
  obtain ⟨time, isDirectory⟩ := isOpen front rest cut
  refine ⟨time, ?_⟩
  rw [node?_without, if_neg, isDirectory]
  rintro rfl
  cases isLink.symm.trans isDirectory

/-- A host is whole without a link. -/
theorem IsWhole.without (whole : host.IsWhole) : (host.without gone).IsWhole where
  current := whole.current
  starts path start names along := by
    rw [route_congr rfl] at along
    exact isOpen_without isLink (whole.starts path start names along)
  tree place name node present := by
    rw [node?_without] at present
    split at present
    · cases present
    · exact isOpen_without isLink (whole.tree place name node present)

end Link

/-- Nodes and links but the one that gave way to a file stay. -/
theorem lasts_of_filled (before : host.Lasts middle)
    (builds : middle.Builds after path fun place => place = gone) (behind : after.Lasts later)
    (filled : after.files.node? gone = some (.file content time)) :
    (host.without gone).Lasts later where
  directory := behind.directory.trans (builds.directory.trans before.directory)
  links place target := by
    rw [node?_without, ← behind.links]
    split
    · rename_i same
      rw [same, filled]
      simp
    · rename_i apart
      rw [before.links, (builds.alike place apart).link_iff]
  keeps place node present := by
    rw [node?_without] at present
    split at present
    · cases present
    · rename_i apart
      obtain ⟨first, there, kin⟩ := before.keeps place node present
      obtain ⟨second, found, further⟩ := (there ▸ builds.alike place apart).kin
      obtain ⟨last, still, onward⟩ := behind.keeps place second found
      exact ⟨last, still, (kin.trans further).trans onward⟩

/-- Under a name that a file was put at, in the place of a link or not, the file is found. -/
theorem placeOf?_of_filled {base : Path} {name : String} {home : Location} (one : IsOneName name)
    (leads : host.leads? base = some home) (directory : later.directory = host.directory)
    (links : ∀ other, other ≠ home ++ [name] → ∀ target,
      host.files.node? other = some (.link target) ↔ later.files.node? other = some (.link target))
    (filled : later.files.node? (home ++ [name]) = some (.file content time))
    (stands : later.placeOf? .target (base.child name) = some place) : place = home ++ [name] := by
  obtain ⟨_, _, left, _, along, passes, _⟩ := placeOf?_target_iff.1 stands
  obtain ⟨start, names, way, same⟩ := route_child one along
  obtain ⟨rfl, rfl⟩ := Route.along.inj same
  obtain ⟨between, middle, above, last⟩ := passes.of_append
  have ends : ∃ time, later.files.node? middle = some (.directory time) := by
    cases last with
    | stay isDirectory | up isDirectory | into isDirectory | link isDirectory =>
        exact ⟨_, isDirectory⟩
  have found := above.leads?_of_filled links filled ends
  rw [wayOf?_congr directory] at way
  rw [Host.leads?, way, Option.bind_some, found] at leads
  obtain rfl := Option.some.inj leads
  cases last with
  | stay _ here => exact absurd here (by simp [one.toIsEntryName.notHere])
  | up => exact absurd rfl one.toIsEntryName.notUp
  | into _ _ _ _ _ further =>
      cases further
      rfl
  | link _ _ _ isLink => cases filled.symm.trans isLink

variable [Platform]

/-- A path is looked up, and told by the links, as if nothing stood at a place. -/
structure GoesWithout (host : Host) (gone : Location) (path : Path) : Prop where
  seesAlike : host.SeesAlike (host.without gone) path
  target : Resolution.target (host.without gone).linkAt path = Resolution.target host.linkAt path

/-- A path that does not come by a link leads to the same place without it. -/
theorem GoesWithout.leadsTo (goes : host.GoesWithout gone path)
    (leads : host.LeadsTo path place goal) : (host.without gone).LeadsTo path place goal where
  stands := goes.seesAlike.placeOf?.trans leads.stands
  target := goes.target.trans leads.target
  settled := leads.settled
  spot := leads.spot

/-- What a path is resolved to lasts when a link that it does not come by gives way to a file. -/
theorem GoesWithout.resolve_later (goes : host.GoesWithout gone path)
    (isLink : host.files.node? gone = some (.link text)) (leads : host.LeadsTo path place goal)
    (whole : host.IsWhole) (present : host.files.node? place = some node)
    (notLink : ∀ target, node ≠ .link target) (lasts : (host.without gone).Lasts later) :
    later.resolve path = host.resolve path := by
  have apart : place ≠ gone := by
    rintro rfl
    exact notLink text (Option.some.inj (present.symm.trans isLink))
  have still : (host.without gone).files.node? place = some node := by
    rw [node?_without, if_neg apart, present]
  have wholeWithout := whole.without isLink
  rw [(goes.leadsTo leads).resolve_later wholeWithout still notLink lasts,
    (goes.leadsTo leads).resolve_eq wholeWithout still notLink,
    leads.resolve_eq whole present notLink]
  rfl

end AnnotatedMake.Host
