import AnnotatedMake.Completion.Candidate
import AnnotatedMake.Proofs.Declaration.Meaning
import AnnotatedMake.Proofs.ScopeIndex

namespace AnnotatedMake

/-- A named target with the lines up to the next one; its own line is the first. -/
structure TargetSection where
  target : String
  lines : List String
deriving DecidableEq

def isHeading (marker line : String) : Bool := (heading? marker line).isSome

/-- The lines before the first named target. -/
def opening (marker : String) (lines : List String) : List String :=
  lines.takeWhile fun line => !isHeading marker line

def sectionsOf (marker : String) : List String → List TargetSection
  | [] => []
  | line :: rest =>
    match heading? marker line with
    | some target => ⟨target, line :: opening marker rest⟩ :: sectionsOf marker rest
    | none => sectionsOf marker rest

/-- The opening lines and the sections of one target. -/
def keptFor (marker : String) (target : Option String) (lines : List String) : List String :=
  opening marker lines ++
    ((sectionsOf marker lines).filter fun part => target = some part.target).flatMap
      TargetSection.lines

/-- Whole sections, none of them of the target. -/
def IsForeign (marker : String) (target : Option String) (lines : List String) : Prop :=
  opening marker lines = [] ∧ ∀ part ∈ sectionsOf marker lines, target ≠ some part.target

/-- A target that has no section of its own to take parameters from. -/
def HasNoSection (marker : String) (lines : List String) : Option String → Prop
  | none => True
  | some target => target = "" ∨ target = globalScope ∨ fieldSeparator ∈ target.toList ∨
      ∀ part ∈ sectionsOf marker lines, part.target ≠ target

namespace Declared

/-- The scope that a line leaves. -/
def scopeBehind (marker : String) (scope : Option String) (line : String) : Option String :=
  match heading? marker line with
  | some name => sectionOf name
  | none => scope

/-- The declarations on lines that begin in a scope. -/
def ofLinesFrom (marker : String) : Option String → List String → List Declared
  | _, [] => []
  | scope, line :: rest =>
    (ofLine? marker scope line).toList ++ ofLinesFrom marker (scopeBehind marker scope line) rest

/-- The lines behind are read in the scope left by those before. -/
theorem ofLines_append (marker : String) (before after : List String) :
    ofLines marker (before ++ after) =
      ofLines marker before ++ ofLinesFrom marker (scopeAfter marker before) after := by
  induction after generalizing before with
  | nil => simp [ofLinesFrom]
  | cons line rest ih =>
      have cut : before ++ line :: rest = before ++ [line] ++ rest := by simp
      rw [cut, ih, ofLines_concat, scopeAfter_concat, List.append_assoc]
      rfl

/-- The lines are read from the global scope. -/
theorem ofLines_eq_ofLinesFrom (marker : String) (lines : List String) :
    ofLines marker lines = ofLinesFrom marker (some globalScope) lines :=
  ofLines_append marker [] lines

/-- The line of a named target declares nothing. -/
theorem ofLine?_of_heading {marker line name : String} (named : heading? marker line = some name)
    (scope : Option String) : ofLine? marker scope line = none := by
  unfold ofLine?
  split
  · rename_i annotated
    rw [heading?, annotated] at named
    simp at named
  · rfl

/-- A declaration has the scope of its line. -/
theorem scope_of_ofLine? {marker line : String} {scope : Option String} {declared : Declared}
    (found : ofLine? marker scope line = some declared) : scope = some declared.scope := by
  unfold ofLine? at found
  split at found
  · dsimp only at found
    split at found
    · cases found
    · obtain rfl := Option.some.inj found
      rfl
  · cases found

/-- Without a named target every declaration is made in the first scope. -/
theorem scope_of_mem_opening {marker : String} {scope : Option String} {lines : List String}
    {declared : Declared}
    (member : declared ∈ ofLinesFrom marker scope (opening marker lines)) :
    scope = some declared.scope := by
  induction lines with
  | nil => cases member
  | cons line rest ih =>
      rw [opening, List.takeWhile_cons] at member
      cases named : heading? marker line with
      | some name => simp [isHeading, named, ofLinesFrom] at member
      | none =>
          simp only [isHeading, named, Option.isSome_none, Bool.not_false, if_true] at member
          rw [ofLinesFrom, scopeBehind, named, List.mem_append, Option.mem_toList] at member
          rcases member with here | later
          · exact scope_of_ofLine? here
          · exact ih later

/-- What a section declares, whatever scope it is found in. -/
def ofSection (marker : String) (part : TargetSection) : List Declared :=
  ofLinesFrom marker none part.lines

/-- A heading opens the scope of the lines behind it. -/
theorem ofLinesFrom_heading {marker line name : String} (named : heading? marker line = some name)
    (scope : Option String) (rest : List String) :
    ofLinesFrom marker scope (line :: rest) = ofLinesFrom marker (sectionOf name) rest := by
  rw [ofLinesFrom, ofLine?_of_heading named, scopeBehind, named]
  rfl

/-- The declarations of some lines are those of their opening, then those of their sections. -/
theorem ofLinesFrom_eq (marker : String) (scope : Option String) (lines : List String) :
    ofLinesFrom marker scope lines =
      ofLinesFrom marker scope (opening marker lines) ++
        (sectionsOf marker lines).flatMap (ofSection marker) := by
  induction lines generalizing scope with
  | nil => rfl
  | cons line rest ih =>
      rw [sectionsOf, opening, List.takeWhile_cons]
      cases named : heading? marker line with
      | some name =>
          simp only [isHeading, named, Option.isSome_some, Bool.not_true, Bool.false_eq_true,
            if_false, List.flatMap_cons, ofSection]
          rw [ofLinesFrom_heading named, ofLinesFrom_heading named, ih]
          rfl
      | none =>
          simp only [isHeading, named, Option.isSome_none, Bool.not_false, if_true]
          rw [ofLinesFrom, ofLinesFrom, scopeBehind, named, ih, List.append_assoc]
          rfl

/-- Sections of a Makefile begin with their own target, and no other is named in them. -/
theorem heading_of_mem_sectionsOf {marker : String} {lines : List String} {part : TargetSection}
    (member : part ∈ sectionsOf marker lines) :
    ∃ line rest, part.lines = line :: opening marker rest ∧
      heading? marker line = some part.target := by
  induction lines with
  | nil => cases member
  | cons line rest ih =>
      rw [sectionsOf] at member
      cases named : heading? marker line with
      | some name =>
          rw [named] at member
          rcases List.mem_cons.1 member with rfl | later
          · exact ⟨line, rest, rfl, named⟩
          · exact ih later
      | none =>
          rw [named] at member
          exact ih member

/-- A section declares in the scope of its own target, and nothing when the name is reserved. -/
theorem scope_of_mem_ofSection {marker : String} {lines : List String} {part : TargetSection}
    (member : part ∈ sectionsOf marker lines) {declared : Declared}
    (declares : declared ∈ ofSection marker part) :
    sectionOf part.target = some declared.scope := by
  obtain ⟨line, rest, cut, named⟩ := heading_of_mem_sectionsOf member
  rw [ofSection, cut, ofLinesFrom_heading named] at declares
  exact scope_of_mem_opening declares

/-- The scope is carried over the lines in front. -/
theorem ofLinesFrom_append (marker : String) (scope : Option String)
    (before after : List String) :
    ofLinesFrom marker scope (before ++ after) =
      ofLinesFrom marker scope before ++
        ofLinesFrom marker (before.foldl (scopeBehind marker) scope) after := by
  induction before generalizing scope with
  | nil => rfl
  | cons line rest ih => simp only [List.cons_append, ofLinesFrom, ih, List.append_assoc,
      List.foldl_cons]

/-- Sections that are put together declare what each declares. -/
theorem ofLinesFrom_sections (marker : String) (lines : List String) {parts : List TargetSection}
    (taken : parts ⊆ sectionsOf marker lines) (scope : Option String) :
    ofLinesFrom marker scope (parts.flatMap TargetSection.lines) =
      parts.flatMap (ofSection marker) := by
  induction parts generalizing scope with
  | nil => rfl
  | cons part rest ih =>
      obtain ⟨line, behind, cut, named⟩ := heading_of_mem_sectionsOf (taken List.mem_cons_self)
      rw [List.flatMap_cons, List.flatMap_cons, ofLinesFrom_append,
        ih fun other member => taken (List.mem_cons_of_mem _ member), ofSection, cut,
        ofLinesFrom_heading named, ofLinesFrom_heading named]

/-- Whether a declaration counts for a target. -/
def isOpenTo (target : Option String) (declared : Declared) : Bool :=
  ScopeIndex.isOpenTo target declared.scope

/-- A section has the name of its target. -/
theorem eq_of_sectionOf {name scope : String} (opens : sectionOf name = some scope) :
    scope = name ∧ scope ≠ globalScope ∧ fieldSeparator ∉ scope.toList := by
  rw [sectionOf_eq] at opens
  split at opens
  · cases opens
  · rename_i unreserved
    obtain rfl := Option.some.inj opens
    exact ⟨rfl, not_or.1 unreserved⟩

/-- A section of another target declares nothing that counts for the target. -/
theorem filter_ofSection_eq_nil {marker : String} {target : Option String} {lines : List String}
    {part : TargetSection} (member : part ∈ sectionsOf marker lines)
    (other : target ≠ some part.target) :
    (ofSection marker part).filter (isOpenTo target) = [] := by
  rw [List.filter_eq_nil_iff]
  intro declared declares
  obtain ⟨same, notGlobal, _⟩ := eq_of_sectionOf (scope_of_mem_ofSection member declares)
  simp [isOpenTo, ScopeIndex.isOpenTo, notGlobal, same ▸ other]

/-- What is open to a target comes from its sections and the global one. -/
theorem filter_sections (marker : String) (target : Option String) (lines : List String)
    {parts : List TargetSection} (taken : parts ⊆ sectionsOf marker lines) :
    (parts.flatMap (ofSection marker)).filter (isOpenTo target) =
      ((parts.filter fun part => target = some part.target).flatMap
        (ofSection marker)).filter (isOpenTo target) := by
  induction parts with
  | nil => rfl
  | cons part rest ih =>
      have later := ih fun other member => taken (List.mem_cons_of_mem _ member)
      rw [List.flatMap_cons, List.filter_append, later]
      by_cases own : target = some part.target
      · simp [own]
      · simp [own, filter_ofSection_eq_nil (taken List.mem_cons_self) own]

/-- The declarations that count for a target are on the lines kept for it. -/
theorem filter_ofLines_keptFor (marker : String) (target : Option String) (lines : List String) :
    (ofLines marker (keptFor marker target lines)).filter (isOpenTo target) =
      (ofLines marker lines).filter (isOpenTo target) := by
  have all := filter_sections marker target lines (List.Subset.refl _)
  have taken : ((sectionsOf marker lines).filter fun part => target = some part.target) ⊆
      sectionsOf marker lines := fun _ member => (List.mem_filter.1 member).1
  have kept := ofLinesFrom_sections marker lines taken
  rw [ofLines_eq_ofLinesFrom, ofLines_eq_ofLinesFrom, keptFor, ofLinesFrom_append, kept,
    ofLinesFrom_eq marker _ lines, List.filter_append, List.filter_append, all]

/-- What is declared in foreign sections does not count. -/
theorem filter_foreign {marker : String} {target : Option String} {lines : List String}
    (foreign : IsForeign marker target lines) (scope : Option String) :
    (ofLinesFrom marker scope lines).filter (isOpenTo target) = [] := by
  obtain ⟨whole, others⟩ := foreign
  have none : (sectionsOf marker lines).filter (fun part => target = some part.target) = [] := by
    rw [List.filter_eq_nil_iff]
    intro part member
    simpa using others part member
  have sections := filter_sections marker target lines (List.Subset.refl _)
  rw [ofLinesFrom_eq, whole, List.filter_append, sections, none]
  rfl

/-- A target without a section is open to no section. -/
theorem isOpenTo_of_hasNoSection {marker : String} {target : Option String} {lines : List String}
    (without : HasNoSection marker lines target) {part : TargetSection}
    (member : part ∈ sectionsOf marker lines) {declared : Declared}
    (declares : declared ∈ ofSection marker part) : isOpenTo target declared = false := by
  obtain ⟨same, notGlobal, whole⟩ := eq_of_sectionOf (scope_of_mem_ofSection member declares)
  cases target with
  | none => simp [isOpenTo, ScopeIndex.isOpenTo, notGlobal]
  | some name =>
      rcases without with rfl | rfl | separated | others
      · simp [isOpenTo, ScopeIndex.isOpenTo, notGlobal]
      · simp [isOpenTo, ScopeIndex.isOpenTo, notGlobal, Ne.symm notGlobal]
      · have differs : name ≠ declared.scope := fun equal => whole (equal ▸ separated)
        simp [isOpenTo, ScopeIndex.isOpenTo, notGlobal, differs]
      · have differs : name ≠ declared.scope := fun equal => others part member (equal ▸ same.symm)
        simp [isOpenTo, ScopeIndex.isOpenTo, notGlobal, differs]

/-- For a target without a section only the opening counts. -/
theorem filter_opening {marker : String} {target : Option String} {lines : List String}
    (without : HasNoSection marker lines target) :
    (ofLines marker lines).filter (isOpenTo target) =
      (ofLines marker (opening marker lines)).filter (isOpenTo target) := by
  have none : ((sectionsOf marker lines).flatMap (ofSection marker)).filter (isOpenTo target) =
      [] := by
    rw [List.filter_eq_nil_iff]
    intro declared declares
    obtain ⟨part, member, inPart⟩ := List.mem_flatMap.1 declares
    simp [isOpenTo_of_hasNoSection without member inPart]
  rw [ofLines_eq_ofLinesFrom, ofLines_eq_ofLinesFrom, ofLinesFrom_eq, List.filter_append, none,
    List.append_nil]

/-- One run of foreign sections is as good as another. -/
theorem filter_exchange {marker : String} {target : Option String} (before : List String)
    {first second after : List String} (foreignFirst : IsForeign marker target first)
    (foreignSecond : IsForeign marker target second) (closed : opening marker after = []) :
    (ofLines marker (before ++ first ++ after)).filter (isOpenTo target) =
      (ofLines marker (before ++ second ++ after)).filter (isOpenTo target) := by
  have alike (scope other : Option String) :
      ofLinesFrom marker scope after = ofLinesFrom marker other after := by
    rw [ofLinesFrom_eq, ofLinesFrom_eq marker other, closed]
    rfl
  rw [ofLines_append, ofLines_append, ofLines_append, ofLines_append]
  simp only [List.filter_append, filter_foreign foreignFirst, filter_foreign foreignSecond]
  rw [alike]

end Declared

/-- The index of declarations. -/
def ScopeIndex.ofDeclared (all : List Declared) : ScopeIndex :=
  .ofDefinitions (Declarations.definitions ⟨none, .collect Declared.key Declared.amend all⟩) []

/-- The index of the lines is the index of their declarations. -/
theorem ScopeIndex.ofLines_eq_ofDeclared (marker : String) (lines : List String) :
    ofLines marker lines = ofDeclared (Declared.ofLines marker lines) := by
  rw [ofLines, definitionsOf, Declared.ofLines_eq_collect]
  rfl

/-- The definitions open to a target are what the declarations that count for it define. -/
theorem Declared.filter_definitions (all : List Declared) (target : Option String) :
    (Declarations.definitions ⟨none, .collect key amend all⟩).filter
        (fun definition => ScopeIndex.isOpenTo target definition.scope) =
      Declarations.definitions ⟨none, .collect key amend (all.filter (isOpenTo target))⟩ := by
  have table := OrderedMap.filter_collect key amend
    (fun key => ScopeIndex.isOpenTo target key.1) all
  rw [Declarations.definitions, List.filter_map]
  exact congrArg (fun map : OrderedMap (String × String) Parameter =>
    Declarations.definitions ⟨none, map⟩) table

/-- What is visible to a target is what the declarations that count for it define. -/
theorem ScopeIndex.visibleTo_ofDeclared (all : List Declared) (target : Option String) :
    (ofDeclared all).visibleTo target =
      (ofDeclared (all.filter (Declared.isOpenTo target))).definitions := by
  have scopes := OrderedMap.filter_collect Definition.scope place (isOpenTo target)
    (Declarations.definitions ⟨none, .collect Declared.key Declared.amend all⟩)
  rw [Declared.filter_definitions] at scopes
  rw [ofDeclared, ofDeclared, ofDefinitions_eq_collect, ofDefinitions_eq_collect, ← scopes]
  rfl

/-- Declarations open alike give the same candidates. -/
theorem candidates_congr {marker : String} {target : Option String} {lines others : List String}
    (same : (Declared.ofLines marker lines).filter (Declared.isOpenTo target) =
      (Declared.ofLines marker others).filter (Declared.isOpenTo target)) (word : String) :
    (ScopeIndex.ofLines marker lines).candidates target word .parameter =
      (ScopeIndex.ofLines marker others).candidates target word .parameter := by
  have visible : (ScopeIndex.ofLines marker lines).visibleTo target =
      (ScopeIndex.ofLines marker others).visibleTo target := by
    rw [ScopeIndex.ofLines_eq_ofDeclared, ScopeIndex.ofLines_eq_ofDeclared,
      ScopeIndex.visibleTo_ofDeclared, ScopeIndex.visibleTo_ofDeclared, same]
  simp only [ScopeIndex.candidates, ScopeIndex.assignments, visible]

/-- What is offered for a target depends on the opening and on its own sections. -/
theorem sections_isolated (marker : String) (target : Option String) (word : String)
    (lines : List String) :
    (ScopeIndex.ofLines marker lines).candidates target word .parameter =
        (ScopeIndex.ofLines marker (keptFor marker target lines)).candidates target word
          .parameter ∧
      (∀ before first second after, lines = before ++ first ++ after →
        IsForeign marker target first → IsForeign marker target second →
        opening marker after = [] →
        (ScopeIndex.ofLines marker lines).candidates target word .parameter =
          (ScopeIndex.ofLines marker (before ++ second ++ after)).candidates target word
            .parameter) ∧
      (HasNoSection marker lines target →
        (ScopeIndex.ofLines marker lines).candidates target word .parameter =
          (ScopeIndex.ofLines marker (opening marker lines)).candidates target word
            .parameter) := by
  refine ⟨?_, ?_, ?_⟩
  · exact candidates_congr (Declared.filter_ofLines_keptFor marker target lines).symm word
  · rintro before first second after rfl foreignFirst foreignSecond closed
    exact candidates_congr
      (Declared.filter_exchange before foreignFirst foreignSecond closed) word
  · intro without
    exact candidates_congr (Declared.filter_opening without) word

/-- A section with a reserved name in the place of a section that repeats a global name. -/
theorem sections_isolated_exchange :
    let before := ["## PARAM a: 1", "## TARGET go", "## PARAM b: 2"]
    let first := ["## TARGET other", "## PARAM a: 3"]
    let second := ["## TARGET x|y", "## PARAM b: 4"]
    let after := ["## TARGET go", "## PARAM a: 5"]
    (IsForeign "##" (some "go") first ∧ IsForeign "##" (some "go") second ∧
        opening "##" after = [] ∧ HasNoSection "##" (before ++ first ++ after) none) ∧
      (ScopeIndex.ofLines "##" (before ++ first ++ after)).candidates (some "go") "a" .parameter =
        (ScopeIndex.ofLines "##" (before ++ second ++ after)).candidates (some "go") "a"
          .parameter ∧
      (ScopeIndex.ofLines "##" (before ++ first ++ after)).candidates none "" .parameter =
        (ScopeIndex.ofLines "##" (opening "##" (before ++ first ++ after))).candidates none ""
          .parameter := by
  intro before first second after
  have foreignFirst : IsForeign "##" (some "go") first := by unfold IsForeign; decide
  have foreignSecond : IsForeign "##" (some "go") second := by unfold IsForeign; decide
  have closed : opening "##" after = [] := by decide
  exact ⟨⟨foreignFirst, foreignSecond, closed, trivial⟩,
    (sections_isolated "##" (some "go") "a" _).2.1 before first second after rfl foreignFirst
      foreignSecond closed,
    (sections_isolated "##" none "" _).2.2 trivial⟩

end AnnotatedMake
