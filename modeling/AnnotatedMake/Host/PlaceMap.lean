namespace AnnotatedMake

/-- The names from the root to a node. -/
abbrev Location := List String

/-- Branches by their names. A branch has a value of its own, or only leads to further branches. -/
inductive Branches (α : Type) : Type where
  | nil
  | branch (name : String) (value : Option α) (onward others : Branches α)
deriving DecidableEq, Repr

namespace Branches

variable {α : Type}

def names : Branches α → List String
  | nil => []
  | branch name _ _ others => name :: others.names

/-- No two branches that start at the same place have one name. -/
def Distinct : Branches α → Prop
  | nil => True
  | branch name _ onward others => name ∉ others.names ∧ onward.Distinct ∧ others.Distinct

/-- The value at the end of a name and the names behind it. -/
def get? : Branches α → String → Location → Option α
  | nil, _, _ => none
  | branch other value onward others, name, rest =>
    if name = other then
      match rest with
      | [] => value
      | next :: rest => onward.get? next rest
    else others.get? name rest

/-- A single branch with a value at its end. -/
def single (name : String) : Location → α → Branches α
  | [], value => branch name (some value) nil nil
  | next :: rest, value => branch name none (single next rest value) nil

def insert : Branches α → String → Location → α → Branches α
  | nil, name, rest, value => single name rest value
  | branch other held onward others, name, rest, value =>
    if name = other then
      match rest with
      | [] => branch other (some value) onward others
      | next :: rest => branch other held (onward.insert next rest value) others
    else branch other held onward (others.insert name rest value)

/-- A branch and others beside it; the branch is left out if it has no value and leads nowhere. -/
def graft (name : String) (value : Option α) (onward others : Branches α) : Branches α :=
  match value, onward with
  | none, nil => others
  | value, onward => branch name value onward others

def erase : Branches α → String → Location → Branches α
  | nil, _, _ => nil
  | branch other held onward others, name, rest =>
    if name = other then
      match rest with
      | [] => graft other none onward others
      | next :: rest => graft other held (onward.erase next rest) others
    else branch other held onward (others.erase name rest)

/-- The locations with their values, a place before what lies below it. -/
def entries : Branches α → List (Location × α)
  | nil => []
  | branch name value onward others =>
    (value.toList.map fun held => ([name], held)) ++
      (onward.entries.map fun entry => (name :: entry.1, entry.2)) ++ others.entries

/-- No value stands below a name that is no branch. -/
theorem get?_eq_none_of_not_mem {branches : Branches α} {name : String}
    (absent : name ∉ branches.names) (rest : Location) :
    branches.get? name rest = none := by
  induction branches with
  | nil => rfl
  | branch other value onward others _ ih =>
    simp only [names, List.mem_cons, not_or] at absent
    simp [get?, absent.1, ih absent.2]

/-- A single branch holds one value. -/
theorem get?_single (name : String) (rest : Location) (value : α) (other : String)
    (way : Location) :
    (single name rest value).get? other way =
      if other = name ∧ way = rest then some value else none := by
  induction rest generalizing name other way with
  | nil => cases way <;> by_cases same : other = name <;> simp [single, get?, same]
  | cons next rest ih =>
    cases way <;> by_cases same : other = name <;> simp [single, get?, same, ih]

/-- An insertion changes what stands at one place only. -/
theorem get?_insert (branches : Branches α) (name : String) (rest : Location) (value : α)
    (other : String) (way : Location) :
    (branches.insert name rest value).get? other way =
      if other = name ∧ way = rest then some value else branches.get? other way := by
  induction branches generalizing name rest other way with
  | nil => simp [insert, get?, get?_single]
  | branch held old onward others onwardIh othersIh =>
    by_cases same : name = held
    · subst same
      by_cases asked : other = name
      · cases rest <;> cases way <;> simp [insert, get?, asked, onwardIh]
      · cases rest <;> simp [insert, get?, asked]
    · by_cases asked : other = held
      · have differs : ¬ held = name := fun equal => same equal.symm
        simp [insert, get?, same, asked, differs]
      · simp [insert, get?, same, asked, othersIh]

/-- An insertion adds its name at most once. -/
theorem names_insert (branches : Branches α) (name : String) (rest : Location) (value : α) :
    (branches.insert name rest value).names =
      if name ∈ branches.names then branches.names else branches.names ++ [name] := by
  induction branches with
  | nil => cases rest <;> simp [insert, single, names]
  | branch held old onward others _ ih =>
    by_cases same : name = held
    · cases rest <;> simp [insert, names, same]
    · simp only [insert, same, if_false, names, ih, List.mem_cons, false_or]
      split <;> simp

/-- The branches of a single path have distinct names. -/
theorem distinct_single (name : String) (rest : Location) (value : α) :
    (single name rest value).Distinct := by
  induction rest generalizing name with
  | nil => simp [single, Distinct, names]
  | cons next rest ih => simp [single, Distinct, names, ih]

/-- An insertion keeps the names distinct. -/
theorem distinct_insert {branches : Branches α} (distinct : branches.Distinct) (name : String)
    (rest : Location) (value : α) : (branches.insert name rest value).Distinct := by
  induction branches generalizing name rest with
  | nil => exact distinct_single name rest value
  | branch held old onward others onwardIh othersIh =>
    obtain ⟨absent, below, beside⟩ := distinct
    by_cases same : name = held
    · subst same
      cases rest with
      | nil => simpa [insert, Distinct] using ⟨absent, below, beside⟩
      | cons next rest => simpa [insert, Distinct] using ⟨absent, onwardIh below next rest, beside⟩
    · have differs : ¬ held = name := fun equal => same equal.symm
      simp only [insert, same, if_false, Distinct]
      refine ⟨?_, below, othersIh beside name rest⟩
      rw [names_insert]
      split <;> simp [absent, differs]

/-- A graft reads as the branch it stands for. -/
theorem get?_graft {others : Branches α} {name : String} (absent : name ∉ others.names)
    (value : Option α) (onward : Branches α) (other : String) (way : Location) :
    (graft name value onward others).get? other way =
      (branch name value onward others).get? other way := by
  cases value with
  | some => rfl
  | none => cases onward with
    | branch => rfl
    | nil =>
      by_cases same : other = name
      · subst same
        cases way <;> simp [graft, get?, get?_eq_none_of_not_mem absent]
      · simp [graft, get?, same]

/-- A graft adds at most its own name. -/
theorem names_graft (name : String) (value : Option α) (onward others : Branches α) :
    (graft name value onward others).names.Sublist (name :: others.names) := by
  cases value <;> cases onward <;> simp [graft, names]

/-- A graft of a new name keeps the names distinct. -/
theorem distinct_graft {onward others : Branches α} {name : String}
    (absent : name ∉ others.names) (below : onward.Distinct) (beside : others.Distinct)
    (value : Option α) : (graft name value onward others).Distinct := by
  cases value <;> cases onward <;> simp_all [graft, Distinct]

/-- An erasure adds no name. -/
theorem names_erase (branches : Branches α) (name : String) (rest : Location) :
    (branches.erase name rest).names.Sublist branches.names := by
  induction branches with
  | nil => exact List.Sublist.refl _
  | branch held old onward others _ ih =>
    by_cases same : name = held
    · cases rest <;> simpa [erase, same, names] using names_graft ..
    · simpa [erase, same, names] using ih

/-- An erasure keeps the names distinct. -/
theorem distinct_erase {branches : Branches α} (distinct : branches.Distinct) (name : String)
    (rest : Location) : (branches.erase name rest).Distinct := by
  induction branches generalizing name rest with
  | nil => trivial
  | branch held old onward others onwardIh othersIh =>
    obtain ⟨absent, below, beside⟩ := distinct
    by_cases same : name = held
    · cases rest with
      | nil => simpa [erase, same] using distinct_graft absent below beside none
      | cons next rest =>
        simpa [erase, same] using distinct_graft absent (onwardIh below next rest) beside old
    · simp only [erase, same, if_false, Distinct]
      exact ⟨fun member => absent ((names_erase others name rest).subset member), below,
        othersIh beside name rest⟩

/-- An erasure changes what stands at one place only. -/
theorem get?_erase {branches : Branches α} (distinct : branches.Distinct) (name : String)
    (rest : Location) (other : String) (way : Location) :
    (branches.erase name rest).get? other way =
      if other = name ∧ way = rest then none else branches.get? other way := by
  induction branches generalizing name rest other way with
  | nil => simp [erase, get?]
  | branch held old onward others onwardIh othersIh =>
    obtain ⟨absent, below, beside⟩ := distinct
    by_cases same : name = held
    · subst same
      by_cases asked : other = name
      · subst asked
        cases rest <;> cases way <;> simp [erase, get?_graft absent, get?, onwardIh below]
      · cases rest <;> simp [erase, get?_graft absent, get?, asked]
    · by_cases asked : other = held
      · have differs : ¬ held = name := fun equal => same equal.symm
        simp [erase, get?, same, asked, differs]
      · simp [erase, get?, same, asked, othersIh beside]

/-- Each location with a value is listed with it, and nothing else is. -/
theorem mem_entries_iff {branches : Branches α} (distinct : branches.Distinct) {place : Location}
    {value : α} :
    (place, value) ∈ branches.entries ↔
      ∃ name rest, place = name :: rest ∧ branches.get? name rest = some value := by
  induction branches generalizing place with
  | nil => simp [entries, get?]
  | branch held old onward others onwardIh othersIh =>
    obtain ⟨absent, below, beside⟩ := distinct
    simp only [entries, List.mem_append, List.mem_map, Option.mem_toList, Prod.mk.injEq,
      Prod.exists, othersIh beside]
    constructor
    · rintro ((⟨found, present, rfl, rfl⟩ | ⟨way, found, member, rfl, rfl⟩) |
        ⟨name, rest, rfl, found⟩)
      · exact ⟨held, [], rfl, by simpa [get?] using present⟩
      · obtain ⟨next, rest, rfl, inside⟩ := (onwardIh below).1 member
        exact ⟨held, next :: rest, rfl, by simpa [get?] using inside⟩
      · refine ⟨name, rest, rfl, ?_⟩
        have differs : name ≠ held := by
          rintro rfl
          rw [get?_eq_none_of_not_mem absent] at found
          cases found
        simpa [get?, differs] using found
    · rintro ⟨name, rest, rfl, found⟩
      by_cases same : name = held
      · subst same
        cases rest with
        | nil => exact .inl (.inl ⟨value, by simpa [get?] using found, rfl, rfl⟩)
        | cons next rest =>
          refine .inl (.inr ⟨next :: rest, value, ?_, rfl, rfl⟩)
          exact (onwardIh below).2 ⟨next, rest, rfl, by simpa [get?] using found⟩
      · exact .inr ⟨name, rest, rfl, by simpa [get?, same] using found⟩

/-- Every listed location begins with the name of a branch. -/
theorem mem_names_of_mem_entries {branches : Branches α} {name : String} {rest : Location}
    {value : α} (member : (name :: rest, value) ∈ branches.entries) : name ∈ branches.names := by
  induction branches with
  | nil => simp [entries] at member
  | branch held old onward others _ ih =>
    simp only [entries, List.mem_append, List.mem_map, Prod.mk.injEq, List.cons.injEq] at member
    rcases member with (⟨_, _, ⟨same, _⟩, _⟩ | ⟨_, _, ⟨same, _⟩, _⟩) | member
    · simp [names, same]
    · simp [names, same]
    · simp [names, ih member]

/-- No location is listed twice. -/
theorem nodup_entries {branches : Branches α} (distinct : branches.Distinct) :
    (branches.entries.map Prod.fst).Nodup := by
  induction branches with
  | nil => simp [entries]
  | branch held old onward others onwardIh othersIh =>
    obtain ⟨absent, below, beside⟩ := distinct
    simp only [entries, List.map_append, List.map_map]
    refine List.nodup_append.2 ⟨List.nodup_append.2 ⟨?_, ?_, ?_⟩, othersIh beside, ?_⟩
    · cases old <;> simp
    · have shifted : (Prod.fst ∘ fun entry : Location × α => (held :: entry.1, entry.2)) =
          (fun place => held :: place) ∘ Prod.fst := rfl
      rw [shifted, ← List.map_map]
      refine List.pairwise_map.2 (List.Pairwise.imp ?_ (onwardIh below))
      exact fun differs equal => differs (List.cons.inj equal).2
    · intro first present second member equal
      obtain ⟨entry, _, rfl⟩ := List.mem_map.1 present
      obtain ⟨⟨way, value⟩, inside, rfl⟩ := List.mem_map.1 member
      obtain ⟨next, rest, rfl, _⟩ := (mem_entries_iff below).1 inside
      simp at equal
    · intro first present second member equal
      have starts : ∃ rest, first = held :: rest := by
        simp only [List.mem_append, List.mem_map] at present
        rcases present with ⟨_, _, rfl⟩ | ⟨_, _, rfl⟩ <;> exact ⟨_, rfl⟩
      obtain ⟨rest, rfl⟩ := starts
      obtain ⟨⟨way, value⟩, inside, rfl⟩ := List.mem_map.1 member
      subst equal
      exact absent (mem_names_of_mem_entries inside)

end Branches

/-- A map from locations: what the root has, and the branches below it. -/
structure PlaceMap (α : Type) where
  root : Option α := none
  branches : Branches α := .nil
  distinct : branches.Distinct := by trivial
deriving DecidableEq

namespace PlaceMap

variable {α : Type}

def empty : PlaceMap α := {}

instance : Inhabited (PlaceMap α) := ⟨empty⟩

def get? (map : PlaceMap α) : Location → Option α
  | [] => map.root
  | name :: rest => map.branches.get? name rest

def insert (map : PlaceMap α) (place : Location) (value : α) : PlaceMap α :=
  match place with
  | [] => { map with root := some value }
  | name :: rest =>
    ⟨map.root, map.branches.insert name rest value, Branches.distinct_insert map.distinct ..⟩

def erase (map : PlaceMap α) (place : Location) : PlaceMap α :=
  match place with
  | [] => { map with root := none }
  | name :: rest =>
    ⟨map.root, map.branches.erase name rest, Branches.distinct_erase map.distinct ..⟩

/-- The locations with their values, a place before what lies below it. -/
def entries (map : PlaceMap α) : List (Location × α) :=
  (map.root.toList.map fun value => ([], value)) ++ map.branches.entries

def keys (map : PlaceMap α) : List Location := map.entries.map Prod.fst

@[simp] theorem get?_empty (place : Location) : (empty : PlaceMap α).get? place = none := by
  cases place <;> rfl

/-- A place that is given a value holds it and the others are kept. -/
theorem get?_insert (map : PlaceMap α) (place : Location) (value : α) (other : Location) :
    (map.insert place value).get? other = if other = place then some value else map.get? other := by
  cases place <;> cases other <;> simp [insert, get?, Branches.get?_insert]

/-- An erased place holds nothing and the others are kept. -/
theorem get?_erase (map : PlaceMap α) (place other : Location) :
    (map.erase place).get? other = if other = place then none else map.get? other := by
  cases place <;> cases other <;> simp [erase, get?, Branches.get?_erase map.distinct]

/-- The entries are the places with their values. -/
theorem mem_entries_iff {map : PlaceMap α} {place : Location} {value : α} :
    (place, value) ∈ map.entries ↔ map.get? place = some value := by
  cases place with
  | nil => simp [entries, get?, Branches.mem_entries_iff map.distinct]
  | cons name rest =>
    simp only [entries, get?, List.mem_append, Branches.mem_entries_iff map.distinct]
    constructor
    · rintro (member | ⟨_, _, equal, found⟩)
      · simp at member
      · cases equal
        exact found
    · exact fun found => .inr ⟨name, rest, rfl, found⟩

/-- The keys are the places that hold a value. -/
theorem mem_keys_iff {map : PlaceMap α} {place : Location} :
    place ∈ map.keys ↔ (map.get? place).isSome := by
  simp [keys, mem_entries_iff, Option.isSome_iff_exists]

/-- No key is listed twice. -/
theorem keys_nodup (map : PlaceMap α) : map.keys.Nodup := by
  simp only [keys, entries, List.map_append, List.map_map]
  refine List.nodup_append.2 ⟨?_, Branches.nodup_entries map.distinct, ?_⟩
  · cases map.root <;> simp
  · intro first present second member equal
    obtain ⟨entry, _, rfl⟩ := List.mem_map.1 present
    obtain ⟨⟨way, value⟩, inside, rfl⟩ := List.mem_map.1 member
    obtain ⟨name, rest, rfl, _⟩ := (Branches.mem_entries_iff map.distinct).1 inside
    simp at equal

end PlaceMap

end AnnotatedMake
