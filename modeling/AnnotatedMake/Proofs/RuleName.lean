import AnnotatedMake.Proofs.Collection
import AnnotatedMake.RuleName
import Mathlib.Data.Set.Subsingleton

namespace AnnotatedMake.RuleName

/-- A name is not empty and made of letters, digits, `_`, `.` and `-`. -/
def IsName (name : String) : Prop :=
  name ≠ "" ∧ ∀ c ∈ name.toList, c.isAlphanum ∨ c = '_' ∨ c = '.' ∨ c = '-'

/-- A line opens the rule of a name: the name, a colon and a rest that makes it no assignment. -/
def Opens (line name : String) : Prop :=
  IsName name ∧ ∃ rest, line = name ++ ":" ++ rest ∧
    ∀ more, rest ≠ "=" ++ more ∧ rest ≠ ":=" ++ more

theorem isNameCharacter_iff {c : Char} :
    isNameCharacter c = true ↔ c.isAlphanum ∨ c = '_' ∨ c = '.' ∨ c = '-' := by
  have letters : c.isAlphanum =
      (decide ('A' ≤ c ∧ c ≤ 'Z') || ('a' ≤ c && c ≤ 'z') || ('0' ≤ c && c ≤ '9')) := rfl
  simp only [isNameCharacter, letters, Bool.or_eq_true, Bool.and_eq_true, decide_eq_true_eq,
    or_assoc]

theorem isName_iff {name : List Char} :
    IsName (String.ofList name) ↔ name ≠ [] ∧ ∀ c ∈ name, isNameCharacter c = true := by
  simp only [IsName, isNameCharacter_iff, String.toList_ofList, ne_eq, ← String.toList_inj,
    String.toList_empty]

theorem opensAssignment_iff {rest : List Char} :
    opensAssignment rest = true ↔
      ∃ more, String.ofList rest = "=" ++ more ∨ String.ofList rest = ":=" ++ more := by
  simp only [← String.toList_inj, String.toList_append, String.toList_ofList]
  constructor
  · intro assigns
    unfold opensAssignment at assigns
    split at assigns
    · exact ⟨String.ofList ‹_›, .inl (by simp)⟩
    · exact ⟨String.ofList ‹_›, .inr (by simp)⟩
    · cases assigns
  · rintro ⟨more, rfl | rfl⟩ <;> rfl

/-- The longest run of name characters is the one that a colon ends. -/
theorem ofLine?_name_colon {name rest : List Char}
    (isName : ∀ c ∈ name, isNameCharacter c = true) :
    ofLine? (String.ofList (name ++ ':' :: rest)) =
      if name = [] || opensAssignment rest then none else some (String.ofList name) := by
  have taken : (name ++ ':' :: rest).takeWhile isNameCharacter = name := by
    rw [List.takeWhile_append_of_pos isName,
      List.takeWhile_cons_of_neg (by decide), List.append_nil]
  have dropped : (name ++ ':' :: rest).dropWhile isNameCharacter = ':' :: rest := by
    rw [List.dropWhile_append_of_pos isName, List.dropWhile_cons_of_neg (by decide)]
  simp only [ofLine?, String.toList_ofList, taken, dropped]

/-- The scanner finds a name on a line exactly when the line opens that rule. -/
theorem opens_iff {line name : String} : Opens line name ↔ ofLine? line = some name := by
  constructor
  · rintro ⟨isName, rest, rfl, free⟩
    rw [← String.ofList_toList (s := name), isName_iff] at isName
    have unassigned : ¬ opensAssignment rest.toList = true := by
      rw [opensAssignment_iff, String.ofList_toList]
      rintro ⟨more, equal | equal⟩
      · exact (free more).1 equal
      · exact (free more).2 equal
    have spelled : name ++ ":" ++ rest = String.ofList (name.toList ++ ':' :: rest.toList) := by
      simp [← String.toList_inj]
    rw [spelled, ofLine?_name_colon isName.2, if_neg (by simp [isName.1, unassigned]),
      String.ofList_toList]
  · intro found
    have cut := List.takeWhile_append_dropWhile (p := isNameCharacter) (l := line.toList)
    have isName : ∀ c ∈ line.toList.takeWhile isNameCharacter, isNameCharacter c = true :=
      List.all_eq_true.1 List.all_takeWhile
    simp only [ofLine?] at found
    split at found
    · rename_i rest colon
      split at found
      · cases found
      · rename_i accepted
        simp only [Bool.or_eq_true, decide_eq_true_eq, not_or] at accepted
        cases found
        rw [colon] at cut
        refine ⟨isName_iff.2 ⟨accepted.1, isName⟩, String.ofList rest, ?_, ?_⟩
        · rw [← String.toList_inj]
          simpa using cut.symm
        · intro more
          constructor <;> intro equal <;> apply accepted.2 <;> rw [opensAssignment_iff]
          · exact ⟨more, .inl equal⟩
          · exact ⟨more, .inr equal⟩
    · cases found

/-- Going through the lines, one opens the first name before any opens the second. -/
def ComesBefore (lines : List String) (first second : String) : Prop :=
  ∃ before line behind, lines = before ++ line :: behind ∧ Opens line first ∧
    ∀ earlier ∈ before ++ [line], ¬ Opens earlier second

/-- The names that lines open, each once and in the order of first appearance. -/
structure Lists (lines names : List String) : Prop where
  once : names.Nodup
  opened : ∀ name, name ∈ names ↔ ∃ line ∈ lines, Opens line name
  inOrder : names.Pairwise (ComesBefore lines)

theorem ComesBefore.asymm {lines : List String} {first second : String}
    (forth : ComesBefore lines first second) : ¬ ComesBefore lines second first := by
  rintro ⟨before', line', behind', cut', opens', free'⟩
  obtain ⟨before, line, behind, rfl, opens, free⟩ := forth
  obtain ⟨middle, rfl, -⟩ | ⟨middle, rfl, tail⟩ := List.append_eq_append_iff.1 cut'
  · cases middle with
    | nil => exact free' line (by simp_all) opens
    | cons _ _ => exact free' line (by simp_all) opens
  · cases middle with
    | nil => exact free' line (by simp_all) opens
    | cons _ _ => exact free line' (by simp_all) opens'

theorem lists_ofLines (lines : List String) : Lists lines (ofLines lines) where
  once := distinct_nodup _
  opened name := by
    simp only [ofLines, mem_distinct, List.mem_filterMap, opens_iff]
  inOrder := by
    refine (pairwise_distinct _).imp ?_
    rintro first second ⟨before, behind, cut, absent⟩
    obtain ⟨taken, others, rfl, rfl, found⟩ := List.filterMap_eq_append_iff.1 cut
    obtain ⟨skipped, line, rest, rfl, nothing, here, rfl⟩ := List.filterMap_eq_cons_iff.1 found
    refine ⟨taken ++ skipped, line, rest, by simp, opens_iff.2 here, ?_⟩
    intro earlier member opens
    rw [opens_iff] at opens
    apply absent
    have among : earlier ∈ taken ∨ earlier ∈ skipped ∨ earlier = line := by simpa using member
    obtain inTaken | inSkipped | rfl := among
    · exact List.mem_append_left _ (List.mem_filterMap.2 ⟨earlier, inTaken, opens⟩)
    · rw [nothing earlier inSkipped] at opens
      cases opens
    · rw [here] at opens
      simp [Option.some.inj opens]

/-- No other list of names is the list of the lines. -/
theorem Lists.unique {lines first second : List String} (one : Lists lines first)
    (other : Lists lines second) : first = second := by
  have permuted : first.Perm second := by
    rw [List.perm_ext_iff_of_nodup one.once other.once]
    intro name
    rw [one.opened, other.opened]
  exact permuted.eq_of_pairwise (fun _ _ _ _ forth back => (forth.asymm back).elim)
    one.inOrder other.inOrder

theorem ofLines_append (lines more : List String) :
    ofLines (lines ++ more) =
      ofLines lines ++ (ofLines more).filter fun name => name ∉ ofLines lines := by
  simp only [ofLines, List.filterMap_append, distinct_append, mem_distinct]

theorem Opens.subsingleton (line : String) : {name | Opens line name}.Subsingleton := by
  intro first opensFirst second opensSecond
  rw [Set.mem_ofPred_eq, opens_iff] at opensFirst opensSecond
  exact Option.some.inj (opensFirst.symm.trans opensSecond)

/-- The names of a Makefile are those that its lines open, at most one a line. -/
theorem ofLines_lists_exactly (lines : List String) :
    (∀ names, ofLines lines = names ↔ Lists lines names) ∧
      (∀ line, {name | Opens line name}.Subsingleton ∧ (ofLines [line]).length ≤ 1) ∧
      ∀ more, ofLines (lines ++ more) =
        ofLines lines ++ (ofLines more).filter fun name => name ∉ ofLines lines := by
  refine ⟨?_, ?_, ofLines_append lines⟩
  · intro names
    constructor
    · rintro rfl
      exact lists_ofLines lines
    · exact (lists_ofLines lines).unique
  · intro line
    refine ⟨Opens.subsingleton line, ?_⟩
    cases found : ofLine? line <;> simp [ofLines, distinct, found]

end AnnotatedMake.RuleName
