import AnnotatedMake.Expansion
import AnnotatedMake.Proofs.Path

namespace AnnotatedMake

namespace Environment

variable [Platform]

variable {environment : Environment} {text : String} {path : Path}

/-- A home directory is a path that its text names. -/
theorem exists_of_homeOf {part : String} {directory : Path}
    (home : environment.homeOf part = .ok directory) : ∃ told, directory = .ofString told := by
  rw [homeOf] at home
  split at home
  · cases home
  · split at home
    · split at home
      · cases home
      · exact ⟨_, (Except.ok.inj home).symm⟩
    · cases home

/-- A home directory is lost when nothing is told of it, or when no user can have the name. -/
theorem fault_of_homeOf {part : String} {fault : Fault}
    (lost : environment.homeOf part = .error fault) :
    fault = .unknownHome ∨ fault = .nullByte := by
  rw [homeOf] at lost
  split at lost
  · exact .inr (Except.error.inj lost).symm
  · split at lost
    · split at lost
      · exact .inl (Except.error.inj lost).symm
      · cases lost
    · exact .inl (Except.error.inj lost).symm

/-- No part of a path holds a slash or stays here once its home directory is filled in. -/
theorem parts_of_expandHome (found : environment.expandHome (.ofString text) = .ok path) :
    ∀ part ∈ path.parts, '/' ∉ part.toList ∧ FileSystem.isHere part = false := by
  have plain {text : String} (part : String) (member : part ∈ (Path.ofString text).parts) :
      '/' ∉ part.toList ∧ FileSystem.isHere part = false :=
    ⟨fun inside => ((Path.of_mem_ofString member).2 _ inside).2 rfl,
      (Path.of_mem_ofString member).1⟩
  rw [expandHome] at found
  split at found
  · rename_i first rest relative whole
    have left (part : String) (member : part ∈ rest) :
        '/' ∉ part.toList ∧ FileSystem.isHere part = false := by
      apply @plain text
      rw [whole]
      exact List.mem_cons_of_mem first member
    split at found
    · cases home : environment.homeOf first with
      | error fault =>
          rw [home] at found
          cases found
      | ok directory =>
          rw [home] at found
          obtain rfl := Except.ok.inj found
          obtain ⟨told, rfl⟩ := exists_of_homeOf home
          intro part member
          rcases List.mem_append.1 member with inHome | inRest
          · exact plain part inHome
          · exact left part inRest
    · obtain rfl := Except.ok.inj found
      exact plain
  · obtain rfl := Except.ok.inj found
    exact plain

/-- No part of a path that a text names holds a slash or stays here. -/
theorem parts_of_pathOf (found : environment.pathOf text = .ok path) :
    ∀ part ∈ path.parts, '/' ∉ part.toList ∧ FileSystem.isHere part = false :=
  parts_of_expandHome found

/-- The path that a text names is proper when it holds no null characters. -/
theorem isProper_of_pathOf (found : environment.pathOf text = .ok path)
    (noNull : ∀ part ∈ path.parts, Char.ofNat 0 ∉ part.toList) : path.IsProper :=
  ⟨⟨fun part member => (parts_of_pathOf found part member).1, noNull⟩,
    fun part member => (parts_of_pathOf found part member).2⟩

/-- A home directory is not filled in when it is not known. -/
theorem fault_of_expandHome {fault : Fault} (failed : environment.expandHome path = .error fault) :
    fault = .unknownHome ∨ fault = .nullByte := by
  rw [expandHome] at failed
  split at failed
  · split at failed
    · rename_i part _ _ _ _
      cases home : environment.homeOf part with
      | error other =>
          rw [home] at failed
          obtain rfl := Except.error.inj failed
          exact fault_of_homeOf home
      | ok directory =>
          rw [home] at failed
          cases failed
    · cases failed
  · cases failed

/-- A text names no path when it begins with a home directory that is not known. -/
theorem fault_of_pathOf {fault : Fault} (failed : environment.pathOf text = .error fault) :
    fault = .unknownHome ∨ fault = .nullByte :=
  fault_of_expandHome failed

end Environment

end AnnotatedMake
