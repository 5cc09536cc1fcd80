import AnnotatedMake.Proofs.Host.Walk

namespace AnnotatedMake

/-- A place has what stood there; directories may be touched or made. -/
inductive Alike : Option Node → Option Node → Prop where
  | same (node : Option Node) : Alike node node
  | changed (before after : Int) : Alike (some (.directory before)) (some (.directory after))
  | made (time : Int) : Alike none (some (.directory time))

namespace Alike

/-- What stands alike twice in turn stands alike. -/
theorem trans {first second third : Option Node} (before : Alike first second)
    (after : Alike second third) : Alike first third := by
  cases before with
  | same => exact after
  | changed =>
      cases after with
      | same => exact .changed ..
      | changed => exact .changed ..
  | made =>
      cases after with
      | same => exact .made _
      | changed => exact .made _

/-- Files stay as they are. -/
theorem file_iff {first second : Option Node} (alike : Alike first second) {content : Bytes}
    {time : Int} : first = some (.file content time) ↔ second = some (.file content time) := by
  cases alike <;> simp

/-- Links stay as they are. -/
theorem link_iff {first second : Option Node} (alike : Alike first second) {target : String} :
    first = some (.link target) ↔ second = some (.link target) := by
  cases alike <;> simp

/-- What is there stays there. -/
theorem present {first second : Option Node} (alike : Alike first second)
    (there : first ≠ none) : second ≠ none := by
  cases alike with
  | same => exact there
  | changed | made => simp

/-- A directory stays one. -/
theorem directory {second : Option Node} {time : Int}
    (alike : Alike (some (.directory time)) second) :
    ∃ other, second = some (.directory other) := by
  cases alike with
  | same => exact ⟨time, rfl⟩
  | changed _ other => exact ⟨other, rfl⟩

/-- What is there keeps its kind. -/
theorem kin {second : Option Node} {node : Node} (alike : Alike (some node) second) :
    ∃ other, second = some other ∧ node.Kin other := by
  cases alike with
  | same => exact ⟨node, rfl, .refl node⟩
  | changed => exact ⟨_, rfl, .directory ..⟩

end Alike

namespace FileSystem

variable {files later : FileSystem} {place other directory : Location} {node : Node} {time : Int}
  {start : Location} {names : List String} {name : String}

/-- The empty tree is its root. -/
theorem node?_empty (place : Location) :
    empty.node? place = if place = [] then some (.directory 0) else none := by
  rw [empty, node?, PlaceMap.get?_insert]
  cases place <;> rfl

/-- What is put at a place stands there. -/
theorem node?_put_self (files : FileSystem) (place : Location) (node : Node) :
    (files.put place node).node? place = some node := by
  rw [node?_put, if_pos rfl]

/-- A directory that is touched changes its time alone. -/
theorem node?_touch (files : FileSystem) (place : Location) (time : Int) (other : Location) :
    Alike (files.node? other) ((files.touch place time).node? other) := by
  rw [touch]
  split
  · rename_i before present
    rw [node?_put]
    split
    · rename_i same
      rw [same, present]
      exact .changed ..
    · exact .same _
  · exact .same _

/-- Other places are not touched. -/
theorem node?_touch_of_ne (files : FileSystem) {place other : Location} (differs : other ≠ place)
    (time : Int) : (files.touch place time).node? other = files.node? other := by
  rw [touch]
  split
  · rw [node?_put, if_neg differs]
  · rfl

/-- Touching neither makes nor removes a node. -/
theorem node?_touch_eq_none_iff {files : FileSystem} {place other : Location} {time : Int} :
    (files.touch place time).node? other = none ↔ files.node? other = none := by
  rw [touch]
  split
  · rename_i present
    rw [node?_put]
    split
    · rename_i same
      simp [same, present]
    · rfl
  · rfl

/-- Touching a directory loses nothing. -/
theorem keeps_touch (files : FileSystem) (place : Location) (time : Int) :
    files.Keeps (files.touch place time) := by
  intro other node present
  exact (present ▸ node?_touch files place time other).kin

/-- Putting a node of the same kind loses nothing. -/
theorem keeps_put (kin : ∀ held, files.node? place = some held → held.Kin node) :
    files.Keeps (files.put place node) := by
  intro other held present
  rw [node?_put]
  split
  · rename_i same
    exact ⟨node, rfl, kin held (same ▸ present)⟩
  · exact ⟨held, present, .refl held⟩

/-- What is added to a directory stands there. -/
theorem node?_add_self (files : FileSystem) (directory : Location) (name : String) (node : Node)
    (time : Int) :
    (files.add directory name node time).node? (directory ++ [name]) = some node := by
  rw [add, node?_touch_of_ne _ (by simp), node?_put, if_pos rfl]

/-- Adding a node leaves the others alike. -/
theorem node?_add_of_ne (differs : other ≠ directory ++ [name]) :
    Alike (files.node? other) ((files.add directory name node time).node? other) := by
  have touched := node?_touch (files.put (directory ++ [name]) node) directory time other
  rwa [node?_put, if_neg differs] at touched

/-- Adding a node makes no other. -/
theorem node?_add_eq_none_iff (differs : other ≠ directory ++ [name]) :
    (files.add directory name node time).node? other = none ↔ files.node? other = none := by
  rw [add, node?_touch_eq_none_iff, node?_put, if_neg differs]

/-- Adding under a vacant name loses nothing. -/
theorem keeps_add (vacant : files.node? (directory ++ [name]) = none) :
    files.Keeps (files.add directory name node time) := by
  have keptPut : files.Keeps (files.put (directory ++ [name]) node) := by
    apply keeps_put
    intro held present
    rw [vacant] at present
    cases present
  exact keptPut.trans (keeps_touch _ directory time)

/-- What is taken out is gone. -/
theorem node?_takeOut_self (files : FileSystem) (place : Location) (time : Int) :
    (files.takeOut place time).node? place = none := by
  have dropped : (files.drop place).node? place = none := by rw [node?_drop, if_pos rfl]
  rw [takeOut, touch]
  split
  · rename_i present
    rw [node?_put, dropped, if_neg]
    intro same
    rw [← same, dropped] at present
    cases present
  · exact dropped

/-- Taking a node out leaves the others alike. -/
theorem node?_takeOut_of_ne (differs : other ≠ place) :
    Alike (files.node? other) ((files.takeOut place time).node? other) := by
  have touched := node?_touch (files.drop place) place.dropLast time other
  rwa [node?_drop, if_neg differs] at touched

/-- Taking a node out loses no other. -/
theorem node?_takeOut_eq_none_iff (differs : other ≠ place) :
    (files.takeOut place time).node? other = none ↔ files.node? other = none := by
  rw [takeOut, node?_touch_eq_none_iff, node?_drop, if_neg differs]

/-- Only a file at the place is added to, and it stays a file. -/
theorem node?_extend (files : FileSystem) (place : Location) (content : Bytes) (time : Int)
    (other : Location) :
    (files.extend place content time).node? other = files.node? other ∨
      other = place ∧ ∃ old before, files.node? other = some (.file old before) ∧
        (files.extend place content time).node? other = some (.file (old ++ content) time) := by
  rw [extend]
  split
  · rename_i old before present
    rw [node?_put]
    split
    · rename_i same
      exact .inr ⟨same, old, before, same ▸ present, rfl⟩
    · exact .inl rfl
  · exact .inl rfl

/-- Nothing is changed but some places and the times of directories, and nothing is made. -/
def SameBut (files later : FileSystem) (changed : Location → Prop) : Prop :=
  ∀ place, ¬ changed place → Alike (files.node? place) (later.node? place) ∧
    (later.node? place = none ↔ files.node? place = none)

/-- Changes at some places add up. -/
theorem SameBut.trans {middle : FileSystem} {changed : Location → Prop}
    (first : files.SameBut middle changed) (second : middle.SameBut later changed) :
    files.SameBut later changed := by
  intro place spared
  have before := first place spared
  have after := second place spared
  exact ⟨before.1.trans after.1, after.2.trans before.2⟩

/-- More places may be named than are changed. -/
theorem SameBut.mono {changed more : Location → Prop} (same : files.SameBut later changed)
    (within : ∀ place, changed place → more place) : files.SameBut later more :=
  fun place spared => same place fun inside => spared (within place inside)

/-- Only directories are directories afterwards. -/
theorem SameBut.directory_of_later {changed : Location → Prop} (same : files.SameBut later changed)
    (spared : ¬ changed place) (now : later.node? place = some (.directory time)) :
    ∃ before, files.node? place = some (.directory before) := by
  obtain ⟨alike, vacant⟩ := same place spared
  rw [now] at alike vacant
  generalize files.node? place = held at alike vacant
  cases alike with
  | same => exact ⟨time, rfl⟩
  | changed before => exact ⟨before, rfl⟩
  | made => exact absurd (vacant.2 rfl) (by simp)

/-- A node is put at its place alone. -/
theorem sameBut_put (files : FileSystem) (place : Location) (node : Node) :
    files.SameBut (files.put place node) fun other => other = place := by
  intro other differs
  rw [node?_put, if_neg differs]
  exact ⟨.same _, Iff.rfl⟩

/-- A node is dropped from its place alone. -/
theorem sameBut_drop (files : FileSystem) (place : Location) :
    files.SameBut (files.drop place) fun other => other = place := by
  intro other differs
  rw [node?_drop, if_neg differs]
  exact ⟨.same _, Iff.rfl⟩

/-- A node is added at its place alone. -/
theorem sameBut_add (files : FileSystem) (directory : Location) (name : String) (node : Node)
    (time : Int) : files.SameBut (files.add directory name node time)
      fun other => other = directory ++ [name] :=
  fun _ differs => ⟨node?_add_of_ne differs, node?_add_eq_none_iff differs⟩

/-- A node is taken out of its place alone. -/
theorem sameBut_takeOut (files : FileSystem) (place : Location) (time : Int) :
    files.SameBut (files.takeOut place time) fun other => other = place :=
  fun _ differs => ⟨node?_takeOut_of_ne differs, node?_takeOut_eq_none_iff differs⟩

/-- A place in a directory is that directory and a name. -/
theorem eq_concat_of_named
    (named : (if place.dropLast = directory then place.getLast? else none) = some name) :
    place = directory ++ [name] := by
  split at named
  · rename_i above
    obtain ⟨front, rfl⟩ := List.getLast?_eq_some_iff.1 named
    rw [List.dropLast_concat] at above
    rw [above]
  · cases named

/-- Under every name in a directory something stands. -/
theorem node?_of_mem_namesIn (member : name ∈ files.namesIn directory) :
    files.node? (directory ++ [name]) ≠ none := by
  obtain ⟨place, isKey, named⟩ := List.mem_filterMap.1 member
  rw [← eq_concat_of_named named]
  exact Option.isSome_iff_ne_none.1 (PlaceMap.mem_keys_iff.1 isKey)

/-- The last name is the one behind the others. -/
theorem lastName?_concat (up : name ≠ "..") : lastName? (names ++ [name]) = some name := by
  simp [lastName?, up]

/-- A directory is made under a vacant name, the last one of its path. -/
theorem makeDirectory_eq_ok (made : files.makeDirectory start names time = .ok later) :
    ∃ front directory name, names = front ++ [name] ∧ name ≠ ".." ∧ isLongName name = false ∧
      files.enter start front = .ok directory ∧ files.node? (directory ++ [name]) = none ∧
      later = files.add directory name (.directory time) time := by
  rw [makeDirectory] at made
  split at made
  · cases made
  · cases made
  · rename_i directory name entered last
    split at made
    · cases made
    · rename_i short
      split at made
      · cases made
      · rename_i vacant
        obtain ⟨isLast, notUp⟩ := Option.filter_eq_some_iff.1 last
        obtain ⟨front, rfl⟩ := List.getLast?_eq_some_iff.1 isLast
        rw [List.dropLast_concat] at entered
        exact ⟨front, directory, name, rfl, of_decide_eq_true notUp, Bool.eq_false_iff.2 short,
          entered, vacant, (Except.ok.inj made).symm⟩

/-- A vacant name is one of the temporary names. -/
theorem vacantName?_eq_some {ending : String} {left count : Nat}
    (found : files.vacantName? directory ending left count = some name) :
    files.node? (directory ++ [name]) = none ∧
      ∃ number < count + left, name = temporaryName ending number := by
  induction left generalizing count with
  | zero => cases found
  | succ left ih =>
      rw [vacantName?] at found
      split at found
      · rename_i vacant
        obtain rfl := Option.some.inj found
        exact ⟨Option.isNone_iff_eq_none.1 vacant, count, by omega, rfl⟩
      · obtain ⟨vacant, number, below, named⟩ := ih found
        exact ⟨vacant, number, by omega, named⟩

/-- A directory that can be entered cannot be made. -/
theorem makeDirectory_of_enter {home : Location} (notHere : ∀ name ∈ names, isHere name = false)
    (entered : files.enter start names = .ok home) (time : Int) :
    files.makeDirectory start names time = .error Fault.alreadyThere := by
  rcases List.eq_nil_or_concat names with rfl | ⟨front, last, rfl⟩
  · have stays : files.enter start [].dropLast = .ok home := entered
    rw [makeDirectory, stays]
    rfl
  · rw [List.concat_eq_append] at entered notHere ⊢
    obtain ⟨⟨_, passed⟩, _⟩ := enter_eq_ok_iff.1 entered
    obtain ⟨between, middle, before, onward⟩ := (passes_of_pass passed).of_append
    have above {time : Int} (isDirectory : files.node? middle = some (.directory time)) :
        files.enter start front = .ok middle :=
      enter_eq_ok_iff.2 ⟨⟨between, before.pass_eq⟩, time, isDirectory⟩
    rw [makeDirectory, List.dropLast_concat]
    cases onward with
    | stay _ here => exact absurd here (by rw [notHere last (by simp)]; decide)
    | up isDirectory =>
        have none : lastName? (front ++ [".."]) = none := by simp [lastName?]
        rw [above isDirectory, none]
    | into isDirectory entry short present =>
        rw [above isDirectory, lastName?_concat entry.notUp]
        dsimp only
        rw [short, present]
        rfl
    | link isDirectory entry short isLink =>
        rw [above isDirectory, lastName?_concat entry.notUp]
        dsimp only
        rw [short, isLink]
        rfl

/-- A temporary file is made under a vacant name of the directory that is entered. -/
theorem createTemporary_eq_ok {ending : String}
    (made : files.createTemporary start names ending time = .ok (name, later)) :
    ∃ directory, files.enter start names = .ok directory ∧
      files.node? (directory ++ [name]) = none ∧
      (∃ number < temporaryLimit, name = temporaryName ending number) ∧
      later = files.add directory name (.file [] time) time := by
  rw [createTemporary] at made
  split at made
  · cases made
  · rename_i directory entered
    split at made
    · rename_i found
      obtain ⟨rfl, rfl⟩ := Prod.mk.inj (Except.ok.inj made)
      obtain ⟨vacant, number, below, named⟩ := vacantName?_eq_some found
      exact ⟨directory, entered, vacant, ⟨number, by omega, named⟩, rfl⟩
    · cases made

/-- A file that is moved goes from its directory onto the last name of its goal. -/
theorem rename_eq_ok {goalStart : Location} {goal : List String} {old new : String}
    (oldUp : old ≠ "..") (newUp : new ≠ "..")
    (moved : files.rename start (names ++ [old]) goalStart (goal ++ [new]) time = .ok later) :
    ∃ source into node, files.enter start names = .ok source ∧
      files.enter goalStart goal = .ok into ∧ files.node? (source ++ [old]) = some node ∧
      isLongName new = false ∧
      (∀ changed, files.node? (into ++ [new]) ≠ some (.directory changed)) ∧
      later = (files.takeOut (source ++ [old]) time).add into new node time := by
  rw [rename, lastName?_concat oldUp, lastName?_concat newUp, List.dropLast_concat,
    List.dropLast_concat] at moved
  split at moved
  · cases moved
  · cases moved
  · rename_i source into entered entered'
    dsimp only at moved
    split at moved
    · cases moved
    · rename_i node present
      split at moved
      · cases moved
      · rename_i short
        split at moved
        · cases moved
        · rename_i notDirectory
          exact ⟨source, into, node, entered, entered', present, Bool.eq_false_iff.2 short,
            notDirectory, (Except.ok.inj moved).symm⟩

end FileSystem

end AnnotatedMake
