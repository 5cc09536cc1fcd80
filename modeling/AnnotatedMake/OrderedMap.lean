namespace AnnotatedMake

/-- A list of keyed values in which no key occurs twice. -/
structure OrderedMap (α β : Type) where
  entries : List (α × β)
  distinct : (entries.map Prod.fst).Nodup

namespace OrderedMap

variable {α β γ : Type}

/-- A map is its entries. -/
theorem ext {first second : OrderedMap α β} (same : first.entries = second.entries) :
    first = second := by
  cases first; cases second; cases same; rfl

def empty : OrderedMap α β := ⟨[], List.nodup_nil⟩

instance : Inhabited (OrderedMap α β) := ⟨empty⟩

instance [DecidableEq α] [DecidableEq β] : DecidableEq (OrderedMap α β) := fun first second =>
  if same : first.entries = second.entries then isTrue (ext same)
  else isFalse fun equal => same (equal ▸ rfl)

def keys (map : OrderedMap α β) : List α := map.entries.map Prod.fst

def values (map : OrderedMap α β) : List β := map.entries.map Prod.snd

def size (map : OrderedMap α β) : Nat := map.entries.length

def isEmpty (map : OrderedMap α β) : Bool := map.entries.isEmpty

/-- No key occurs twice. -/
theorem keys_nodup (map : OrderedMap α β) : map.keys.Nodup := map.distinct

@[simp] theorem keys_empty : (empty : OrderedMap α β).keys = [] := rfl

section Lookup

variable [DecidableEq α]

/-- The value of the first entry under a key. -/
def find (key : α) : List (α × β) → Option β
  | [] => none
  | (other, value) :: rest => if key = other then some value else find key rest

def get? (map : OrderedMap α β) (key : α) : Option β := find key map.entries

def contains (map : OrderedMap α β) (key : α) : Bool := (map.get? key).isSome

def getD (map : OrderedMap α β) (key : α) (default : β) : β := (map.get? key).getD default

/-- Nothing is found under a key that does not occur. -/
theorem find_eq_none_iff {key : α} {entries : List (α × β)} :
    find key entries = none ↔ key ∉ entries.map Prod.fst := by
  induction entries with
  | nil => simp [find]
  | cons entry rest ih =>
      obtain ⟨other, value⟩ := entry
      by_cases same : key = other <;> simp [find, same, ih]

/-- A map has nothing under a key that it does not have. -/
theorem get?_eq_none_iff {map : OrderedMap α β} {key : α} :
    map.get? key = none ↔ key ∉ map.keys := find_eq_none_iff

/-- An entry is found under its key when no key occurs twice. -/
theorem find_of_mem {key : α} {value : β} {entries : List (α × β)}
    (distinct : (entries.map Prod.fst).Nodup) (member : (key, value) ∈ entries) :
    find key entries = some value := by
  induction entries with
  | nil => simp at member
  | cons entry rest ih =>
      obtain ⟨other, held⟩ := entry
      simp only [List.map_cons, List.nodup_cons] at distinct
      rcases List.mem_cons.1 member with equal | later
      · cases equal; simp [find]
      · have differs : key ≠ other := fun same =>
          distinct.1 (same ▸ List.mem_map_of_mem (f := Prod.fst) later)
        simp [find, differs, ih distinct.2 later]

/-- What is found is an entry. -/
theorem mem_of_find {key : α} {value : β} {entries : List (α × β)}
    (found : find key entries = some value) : (key, value) ∈ entries := by
  induction entries with
  | nil => simp [find] at found
  | cons entry rest ih =>
      obtain ⟨other, held⟩ := entry
      by_cases same : key = other
      · simp_all [find]
      · simp only [find, same, if_false] at found
        exact List.mem_cons_of_mem _ (ih found)

/-- What a map has under a key is its entry. -/
theorem get?_eq_some_iff {map : OrderedMap α β} {key : α} {value : β} :
    map.get? key = some value ↔ (key, value) ∈ map.entries :=
  ⟨mem_of_find, find_of_mem map.distinct⟩

end Lookup

section Update

variable [DecidableEq α]

/-- Changes the value under a key where it stands, or adds the key at the end. -/
def revise (key : α) (change : Option β → β) : List (α × β) → List (α × β)
  | [] => [(key, change none)]
  | (other, value) :: rest =>
    if key = other then (other, change (some value)) :: rest
    else (other, value) :: revise key change rest

/-- A revised key keeps its place or comes last. -/
theorem keys_revise (key : α) (change : Option β → β) (entries : List (α × β)) :
    (revise key change entries).map Prod.fst =
      if key ∈ entries.map Prod.fst then entries.map Prod.fst
      else entries.map Prod.fst ++ [key] := by
  induction entries with
  | nil => simp [revise]
  | cons entry rest ih =>
      obtain ⟨other, value⟩ := entry
      by_cases same : key = other
      · simp [revise, same]
      · simp only [revise, same, if_false, List.map_cons, ih, List.mem_cons, false_or]
        split <;> simp

/-- Revising doubles no key. -/
theorem nodup_revise (key : α) (change : Option β → β) {entries : List (α × β)}
    (distinct : (entries.map Prod.fst).Nodup) :
    ((revise key change entries).map Prod.fst).Nodup := by
  rw [keys_revise]
  split
  · exact distinct
  · rename_i absent
    rw [List.nodup_append]
    refine ⟨distinct, by simp, ?_⟩
    intro first member second last same
    simp only [List.mem_singleton] at last
    exact absent (last ▸ same ▸ member)

/-- Only what is found under the key is revised. -/
theorem find_revise (key : α) (change : Option β → β) (entries : List (α × β)) (other : α) :
    find other (revise key change entries) =
      if other = key then some (change (find key entries)) else find other entries := by
  induction entries with
  | nil => by_cases same : other = key <;> simp [revise, find, same]
  | cons entry rest ih =>
      obtain ⟨head, value⟩ := entry
      by_cases same : key = head
      · subst same
        by_cases asked : other = key <;> simp [revise, find, asked]
      · simp only [revise, same, if_false, find, ih]
        by_cases asked : other = head
        · have differs : ¬ head = key := fun equal => same equal.symm
          simp [asked, differs]
        · simp [asked]

/-- Replaces what stands under `key` by what `change` makes of it. -/
def update (map : OrderedMap α β) (key : α) (change : Option β → β) : OrderedMap α β :=
  ⟨revise key change map.entries, nodup_revise key change map.distinct⟩

def insert (map : OrderedMap α β) (key : α) (value : β) : OrderedMap α β :=
  map.update key fun _ => value

/-- Inserts the entries one after the other, so the last value under a key stays. -/
def ofList (entries : List (α × β)) : OrderedMap α β :=
  entries.foldl (fun map entry => map.insert entry.1 entry.2) empty

@[simp] theorem get?_empty (key : α) : (empty : OrderedMap α β).get? key = none := rfl

/-- An update changes what the map has under its key. -/
theorem get?_update (map : OrderedMap α β) (key : α) (change : Option β → β) (other : α) :
    (map.update key change).get? other =
      if other = key then some (change (map.get? key)) else map.get? other :=
  find_revise key change map.entries other

/-- An inserted value is found under its key, and the others as before. -/
theorem get?_insert (map : OrderedMap α β) (key : α) (value : β) (other : α) :
    (map.insert key value).get? other = if other = key then some value else map.get? other :=
  get?_update map key _ other

/-- An updated key keeps its place or comes last. -/
theorem keys_update (map : OrderedMap α β) (key : α) (change : Option β → β) :
    (map.update key change).keys = if key ∈ map.keys then map.keys else map.keys ++ [key] :=
  keys_revise key change map.entries

/-- An inserted key keeps its place or comes last. -/
theorem keys_insert (map : OrderedMap α β) (key : α) (value : β) :
    (map.insert key value).keys = if key ∈ map.keys then map.keys else map.keys ++ [key] :=
  keys_update map key _

end Update

section Removal

/-- Picking entries doubles no key. -/
theorem nodup_filter_keys {entries : List (α × β)} (keep : α × β → Bool)
    (distinct : (entries.map Prod.fst).Nodup) :
    ((entries.filter keep).map Prod.fst).Nodup :=
  distinct.sublist (List.filter_sublist.map Prod.fst)

/-- The entries that pass a test, in their order. -/
def filter (map : OrderedMap α β) (keep : α → β → Bool) : OrderedMap α β :=
  ⟨map.entries.filter fun entry => keep entry.1 entry.2, nodup_filter_keys _ map.distinct⟩

def erase [DecidableEq α] (map : OrderedMap α β) (key : α) : OrderedMap α β :=
  map.filter fun other _ => other ≠ key

/-- A filtered map has the entries that are kept. -/
theorem mem_filter {map : OrderedMap α β} {keep : α → β → Bool} {entry : α × β} :
    entry ∈ (map.filter keep).entries ↔ entry ∈ map.entries ∧ keep entry.1 entry.2 := by
  simp [filter]

/-- An erased key is gone, and the others stay. -/
theorem get?_erase [DecidableEq α] (map : OrderedMap α β) (key other : α) :
    (map.erase key).get? other = if other = key then none else map.get? other := by
  split
  · rename_i same
    subst same
    rw [get?_eq_none_iff]
    simp [keys, erase, filter]
  · rename_i differs
    cases held : map.get? other with
    | none =>
        rw [get?_eq_none_iff] at held ⊢
        intro member
        obtain ⟨entry, kept, name⟩ := List.mem_map.1 member
        exact held (List.mem_map.2 ⟨entry, (mem_filter.1 kept).1, name⟩)
    | some value =>
        rw [get?_eq_some_iff] at held ⊢
        exact mem_filter.2 ⟨held, by simpa using differs⟩

end Removal

/-- Equality of maps as sets of entries, whatever the order of insertion. -/
def sameEntries [DecidableEq α] (equal : β → γ → Bool) (first : OrderedMap α β)
    (second : OrderedMap α γ) : Bool :=
  first.size == second.size &&
    first.entries.all fun entry => (second.get? entry.1).any (equal entry.2)

end OrderedMap

end AnnotatedMake
