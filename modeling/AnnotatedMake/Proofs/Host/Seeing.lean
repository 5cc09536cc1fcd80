import AnnotatedMake.Proofs.Host.Looking
import AnnotatedMake.Proofs.IndexCache.Serving

namespace AnnotatedMake

namespace FileSystem

variable {files : FileSystem} {purpose : Purpose} {links : Nat} {place gone : Location}
  {names : List String} {content : Bytes} {time : Int}

/-- What is no file does not notice that a file is taken away. -/
theorem node?_drop_of_ne (file : files.node? gone = some (.file content time)) {other : Location}
    {found : Option Node} (stands : files.node? other = found)
    (differs : found ≠ some (.file content time)) : (files.drop gone).node? other = found := by
  have apart : other ≠ gone := by
    rintro rfl
    exact differs (stands.symm.trans file)
  rw [node?_drop, if_neg apart, stands]

/-- A walk that neither ends at a file nor breaks off at one is the same without the file. -/
theorem walk_drop (file : files.node? gone = some (.file content time))
    (apart : ∀ node, files.walk purpose links place names ≠ .ok (.found gone node))
    (passes : files.walk purpose links place names ≠ .error Fault.notDirectory) :
    (files.drop gone).walk purpose links place names = files.walk purpose links place names := by
  fun_induction files.walk purpose links place names with
  | case1 links place node present =>
      rw [walk, node?_drop, if_neg fun same => apart node (by rw [same]), present]
  | case2 links place nothing => rw [walk, node?_drop_of_ne file nothing (by simp)]
  | case3 links place name rest time isDirectory here ih =>
      rw [walk, node?_drop_of_ne file isDirectory (by simp)]
      simpa only [here, if_true] using ih apart passes
  | case4 links place rest time isDirectory here ih =>
      rw [walk, node?_drop_of_ne file isDirectory (by simp)]
      simpa only [here, if_true, if_false, Bool.false_eq_true] using ih apart passes
  | case5 links place name rest time isDirectory here up creates =>
      rw [walk, node?_drop_of_ne file isDirectory (by simp)]
      simp only [here, up, creates, if_true, if_false, Bool.false_eq_true]
  | case6 links place name rest time isDirectory here up creates long =>
      rw [walk, node?_drop_of_ne file isDirectory (by simp)]
      simp only [here, up, creates, long, if_true, if_false, Bool.false_eq_true]
  | case7 links place name rest time isDirectory here up creates short nothing last =>
      have vacant := node?_drop_of_ne file nothing (by simp)
      rw [walk, node?_drop_of_ne file isDirectory (by simp)]
      simp only [here, up, creates, short, vacant, last, if_true, if_false, Bool.false_eq_true]
  | case8 links place name rest time isDirectory here up creates short nothing last =>
      have vacant := node?_drop_of_ne file nothing (by simp)
      rw [walk, node?_drop_of_ne file isDirectory (by simp)]
      simp only [here, up, creates, short, vacant, last, if_false, Bool.false_eq_true]
  | case9 links place name rest time isDirectory here up creates short target isLink itself =>
      have link := node?_drop_of_ne file isLink (by simp)
      rw [walk, node?_drop_of_ne file isDirectory (by simp)]
      simp only [here, up, creates, short, link, itself, if_true, if_false, Bool.false_eq_true]
  | case10 place name rest time isDirectory here up creates short target isLink itself =>
      have link := node?_drop_of_ne file isLink (by simp)
      rw [walk, node?_drop_of_ne file isDirectory (by simp)]
      simp only [here, up, creates, short, link, itself, if_false, Bool.false_eq_true]
  | case11 place name rest time isDirectory here up creates short target isLink itself left ih =>
      have link := node?_drop_of_ne file isLink (by simp)
      rw [walk, node?_drop_of_ne file isDirectory (by simp)]
      simpa only [here, up, creates, short, link, itself, if_false, Bool.false_eq_true]
        using ih apart passes
  | case12 links place name rest time isDirectory here up creates short node notLink present ih =>
      have differs : place ++ [name] ≠ gone := by
        rintro same
        rw [same] at apart passes
        cases rest with
        | nil => exact apart _ (by rw [walk, file])
        | cons next rest => exact passes (by rw [walk, file])
      rw [walk, node?_drop_of_ne file isDirectory (by simp)]
      cases node with
      | link target => exact (notLink target rfl).elim
      | directory | file | sink =>
          simpa only [here, up, creates, short, node?_drop, if_neg differs, present, if_false,
            Bool.false_eq_true] using ih apart passes
  | case13 => exact absurd rfl passes
  | case14 links place name rest nothing => rw [walk, node?_drop_of_ne file nothing (by simp)]

/-- A name is looked up as the node under it, unless that is a link. -/
theorem lookUp_name {name : String} (isDirectory : files.node? place = some (.directory time))
    (entry : IsEntryName name) (short : isLongName name = false)
    (notLink : ∀ target, files.node? (place ++ [name]) ≠ some (.link target)) :
    files.lookUp .target place [name] =
      match files.node? (place ++ [name]) with
      | some node => .ok (.found (place ++ [name]) node)
      | none => .ok (.vacant place name) := by
  rw [lookUp, walk_last entry isDirectory, short]
  cases present : files.node? (place ++ [name]) with
  | none => rfl
  | some node =>
      cases node with
      | link target => exact absurd present (notLink target)
      | directory | file | sink => rfl

end FileSystem

/-- A name that is not in the root directory is not found. -/
theorem Host.absent_of_root {host : Host} {name : String} {time : Int}
    (root : host.files.node? [] = some (.directory time)) (plain : IsPlainName name)
    (short : FileSystem.isLongName name = false) (absent : host.files.node? [name] = none) :
    host.query ⟨.root, [name]⟩ (.ok (.directory 0)) host.files.nodeAt =
      .error (.system Fault.notFound) := by
  have missing : host.files.node? ([] ++ [name]) = none := absent
  have looked := FileSystem.lookUp_name root plain.toIsEntryName short (by rw [missing]; simp)
  rw [missing] at looked
  simp only [Host.query, host.route_of_root plain short, FileSystem.nodeAt, looked]

/-- Two hosts with one current directory look up alike where a path leads. -/
structure Host.SeesAlike (host other : Host) (path : Path) : Prop where
  directory : other.directory = host.directory
  lookUp : ∀ start names, host.route path = .ok (.along start names) →
    other.files.lookUp .target start names = host.files.lookUp .target start names

namespace Host.SeesAlike

variable {host other : Host} {path source file : Path}

theorem refl (host : Host) (path : Path) : host.SeesAlike host path := ⟨rfl, fun _ _ _ => rfl⟩

/-- A file that is taken away is not noticed by paths that go elsewhere. -/
theorem drop {gone : Location} {content : Bytes} {time : Int}
    (file : host.files.node? gone = some (.file content time))
    (apart : ∀ start names, host.route path = .ok (.along start names) →
      (∀ node, host.files.lookUp .target start names ≠ .ok (.found gone node)) ∧
        host.files.lookUp .target start names ≠ .error Fault.notDirectory) :
    host.SeesAlike { host with files := host.files.drop gone } path where
  directory := rfl
  lookUp start names along :=
    FileSystem.walk_drop file (apart start names along).1 (apart start names along).2

/-- The log does not count. -/
theorem logging (alike : host.SeesAlike other path) (first second : List Entry) :
    (host.logging first).SeesAlike (other.logging second) path :=
  ⟨alike.directory, alike.lookUp⟩

theorem query_eq {α : Type} (alike : host.SeesAlike other path) (removed : Except Nat α)
    {first second : Location → List String → Except Nat α}
    (same : ∀ start names, host.route path = .ok (.along start names) →
      second start names = first start names) :
    other.query path removed second = host.query path removed first := by
  rw [query, query, route_congr alike.directory]
  cases way : host.route path with
  | error fault => rfl
  | ok way' =>
      cases way' with
      | removed => rfl
      | along start names =>
          dsimp only
          rw [same start names way]

theorem read (alike : host.SeesAlike other path) (removed : Except Nat Bytes) :
    other.query path removed other.files.read = host.query path removed host.files.read :=
  alike.query_eq removed fun start names along => by
    rw [FileSystem.read, FileSystem.read, alike.lookUp start names along]

theorem nodeAt (alike : host.SeesAlike other path) (removed : Except Nat Node) :
    other.query path removed other.files.nodeAt = host.query path removed host.files.nodeAt :=
  alike.query_eq removed fun start names along => by
    rw [FileSystem.nodeAt, FileSystem.nodeAt, alike.lookUp start names along]

theorem nodeOf? (alike : host.SeesAlike other path) : other.nodeOf? path = host.nodeOf? path := by
  rw [Host.nodeOf?, Host.nodeOf?, alike.nodeAt]

theorem freshText? (sourceAlike : host.SeesAlike other source)
    (fileAlike : host.SeesAlike other file) :
    IndexCache.freshText? other source file = IndexCache.freshText? host source file := by
  rw [IndexCache.freshText?, IndexCache.freshText?, sourceAlike.nodeOf?, fileAlike.nodeOf?]

variable [Platform]

theorem isFile (alike : host.SeesAlike other path) :
    ((Program.isFile path).run other).1 = ((Program.isFile path).run host).1 := by
  rw [Program.isFile, Program.bind_eq_bind, Program.run_bind, Program.run_bind]
  cases told : host.query path (.ok (.directory 0)) host.files.nodeAt with
  | ok node =>
      rw [Program.run_statusOf?_of_ok told,
        Program.run_statusOf?_of_ok ((alike.nodeAt _).trans told)]
      rfl
  | error fault =>
      rw [Program.run_statusOf?_of_error told,
        Program.run_statusOf?_of_error ((alike.nodeAt _).trans told)]
      cases Program.isAbsence fault <;> rfl

end Host.SeesAlike

end AnnotatedMake
