import AnnotatedMake.OrderedMap
import AnnotatedMake.Text.Distinct
import Mathlib.Data.List.Induction

namespace AnnotatedMake

section Distinct

variable {α : Type} [DecidableEq α]

/-- A last element is kept when it is new. -/
theorem distinct_concat (list : List α) (last : α) :
    distinct (list ++ [last]) =
      if last ∈ list then distinct list else distinct list ++ [last] := by
  induction list with
  | nil => simp [distinct]
  | cons first rest ih =>
      by_cases same : last = first
      · subst same
        by_cases member : last ∈ rest <;> simp [distinct, ih, member]
      · by_cases member : last ∈ rest <;> simp [distinct, ih, member, same]

/-- Filtering and dropping repetitions commute. -/
theorem distinct_filter (keep : α → Bool) (list : List α) :
    distinct (list.filter keep) = (distinct list).filter keep := by
  induction list with
  | nil => rfl
  | cons first rest ih =>
      by_cases kept : keep first
      · simp [distinct, kept, ih, List.filter_filter, Bool.and_comm]
      · have ignored : ((distinct rest).filter fun other => other ≠ first).filter keep =
            (distinct rest).filter keep := by
          rw [List.filter_filter]
          apply List.filter_congr
          intro other _
          by_cases same : other = first <;> simp [same, kept]
        rw [List.filter_cons_of_neg kept, ih, distinct, List.filter_cons_of_neg kept, ignored]

/-- Of a second list only what is new is kept. -/
theorem distinct_append (first second : List α) :
    distinct (first ++ second) =
      distinct first ++ (distinct second).filter fun element => element ∉ first := by
  induction first with
  | nil => exact (List.filter_eq_self.2 (by simp)).symm
  | cons element rest ih =>
      rw [List.cons_append, distinct, ih, distinct, List.filter_append, List.filter_filter,
        List.cons_append]
      congr 3
      funext other
      by_cases same : other = element <;> simp [same]

/-- An element stands before another one where it occurs before that one does. -/
theorem pairwise_distinct (list : List α) :
    (distinct list).Pairwise fun first second =>
      ∃ before behind, list = before ++ first :: behind ∧ second ∉ before ++ [first] := by
  induction list with
  | nil => exact List.Pairwise.nil
  | cons head rest ih =>
      rw [distinct, List.pairwise_cons]
      constructor
      · intro second member
        have differs : second ≠ head := by simpa using (List.mem_filter.1 member).2
        exact ⟨[], rest, rfl, by simpa using differs⟩
      · refine (ih.filter _).imp_of_mem ?_
        intro first second _ member later
        have differs : second ≠ head := by simpa using (List.mem_filter.1 member).2
        obtain ⟨before, behind, cut, absent⟩ := later
        exact ⟨head :: before, behind, by rw [cut, List.cons_append], by simp_all⟩

end Distinct

namespace OrderedMap

variable {α β γ ι : Type} [DecidableEq α]

/-- Maps with the same keys in the same order and the same values are equal. -/
theorem ext_get? {first second : OrderedMap α β} (sameKeys : first.keys = second.keys)
    (sameValues : ∀ key, first.get? key = second.get? key) : first = second := by
  apply ext
  apply List.ext_getElem?
  intro place
  have keyAt : (first.entries[place]?).map Prod.fst = (second.entries[place]?).map Prod.fst := by
    simpa [keys] using congrArg (fun names => names[place]?) sameKeys
  cases left : first.entries[place]? with
  | none => simpa [left] using keyAt.symm
  | some entry =>
      obtain ⟨other, right, same⟩ : ∃ other, second.entries[place]? = some other ∧
          entry.1 = other.1 := by
        rw [left] at keyAt
        obtain ⟨other, right, same⟩ := Option.map_eq_some_iff.1 keyAt.symm
        exact ⟨other, right, same.symm⟩
      have inFirst : first.get? entry.1 = some entry.2 :=
        get?_eq_some_iff.2 (List.mem_of_getElem? left)
      have inSecond : second.get? other.1 = some other.2 :=
        get?_eq_some_iff.2 (List.mem_of_getElem? right)
      rw [sameValues, same, inSecond] at inFirst
      rw [right]
      exact congrArg some (Prod.ext same (Option.some.inj inFirst).symm)

/-- Updates an empty map with each item of a list in turn, under the key of the item. -/
def collect (key : ι → α) (change : ι → Option β → β) (items : List ι) : OrderedMap α β :=
  items.foldl (fun map item => map.update (key item) (change item)) empty

/-- A last item updates the collection of those before. -/
theorem collect_concat (key : ι → α) (change : ι → Option β → β) (items : List ι) (item : ι) :
    collect key change (items ++ [item]) =
      (collect key change items).update (key item) (change item) := by
  simp [collect]

/-- The value that the items under one key add up to. -/
def gather (change : ι → Option β → β) (items : List ι) : Option β :=
  items.foldl (fun held item => some (change item held)) none

/-- A last item changes what was gathered before. -/
theorem gather_concat (change : ι → Option β → β) (items : List ι) (item : ι) :
    gather change (items ++ [item]) = some (change item (gather change items)) := by
  simp [gather]

/-- The keys stand in the order of their first items. -/
theorem keys_collect (key : ι → α) (change : ι → Option β → β) (items : List ι) :
    (collect key change items).keys = AnnotatedMake.distinct (items.map key) := by
  induction items using List.reverseRec with
  | nil => rfl
  | append_singleton items item ih =>
      rw [collect_concat, keys_update, ih, List.map_append, List.map_singleton, distinct_concat]
      simp only [mem_distinct]

/-- Under a key stands what its own items add up to. -/
theorem get?_collect (key : ι → α) (change : ι → Option β → β) (items : List ι) (name : α) :
    (collect key change items).get? name =
      gather change (items.filter fun item => key item = name) := by
  induction items using List.reverseRec with
  | nil => rfl
  | append_singleton items item ih =>
      rw [collect_concat, get?_update, List.filter_append]
      by_cases same : key item = name
      · simp [same, ih, gather_concat]
      · simp [same, Ne.symm same, ih]

/-- A map is its keys in order, each with the value under it. -/
theorem entries_eq_map {map : OrderedMap α β} {value : α → β}
    (held : ∀ key ∈ map.keys, map.get? key = some (value key)) :
    map.entries = map.keys.map fun key => (key, value key) := by
  rw [keys, List.map_map]
  refine (List.map_id map.entries).symm.trans (List.map_congr_left ?_)
  intro entry member
  have found := held entry.1 (List.mem_map_of_mem (f := Prod.fst) member)
  rw [get?_eq_some_iff.2 member] at found
  exact Prod.ext rfl (Option.some.inj found)

/-- A new key is entered at the end. -/
theorem entries_update_of_absent {map : OrderedMap α β} {key : α} (absent : map.get? key = none)
    (change : Option β → β) :
    (map.update key change).entries = map.entries ++ [(key, change none)] := by
  have missing := get?_eq_none_iff.1 absent
  rw [keys] at missing
  obtain ⟨entries, distinct⟩ := map
  change revise key change entries = entries ++ [(key, change none)]
  clear absent
  induction entries with
  | nil => rfl
  | cons entry rest ih =>
      simp only [List.map_cons, List.mem_cons, not_or] at missing
      rw [revise, if_neg missing.1, ih (List.nodup_cons.1 distinct).2 missing.2]
      rfl

/-- Items with keys of their own become the entries as they are. -/
theorem entries_collect_of_nodup (key : ι → α) (change : ι → Option β → β) {items : List ι}
    (once : (items.map key).Nodup) :
    (collect key change items).entries = items.map fun item => (key item, change item none) := by
  induction items using List.reverseRec with
  | nil => rfl
  | append_singleton items item ih =>
      rw [List.map_append, List.nodup_append] at once
      obtain ⟨before, _, apart⟩ := once
      have absent : (collect key change items).get? (key item) = none := by
        rw [get?_eq_none_iff, keys_collect, mem_distinct]
        exact fun member => apart _ member _ (by simp) rfl
      rw [collect_concat, entries_update_of_absent absent, ih before, List.map_append]
      rfl

omit [DecidableEq α] in
/-- Filtering by keys filters the keys. -/
theorem keys_filter (map : OrderedMap α β) (keep : α → Bool) :
    (map.filter fun key _ => keep key).keys = map.keys.filter keep := by
  simp [keys, filter, List.filter_map, Function.comp_def]

/-- A filtered map gives what passes the filter. -/
theorem get?_filter (map : OrderedMap α β) (keep : α → β → Bool) (name : α) :
    (map.filter keep).get? name = (map.get? name).filter (keep name) := by
  apply Option.ext
  intro value
  rw [get?_eq_some_iff, mem_filter, Option.filter_eq_some_iff, get?_eq_some_iff]

/-- Picking keys of the map or picking the items beforehand is the same. -/
theorem filter_collect (key : ι → α) (change : ι → Option β → β) (keep : α → Bool)
    (items : List ι) :
    (collect key change items).filter (fun name _ => keep name) =
      collect key change (items.filter fun item => keep (key item)) := by
  apply ext_get?
  · rw [keys_filter, keys_collect, keys_collect, ← distinct_filter, List.filter_map]
    rfl
  · intro name
    have picked (held : Option β) :
        held.filter (fun _ => keep name) = if keep name then held else none := by
      cases held <;> simp [Option.filter]
    rw [get?_filter, picked, get?_collect, get?_collect, List.filter_filter]
    by_cases kept : keep name
    · rw [if_pos kept]
      congr 1
      apply List.filter_congr
      intro item _
      by_cases same : key item = name <;> simp [same, kept]
    · rw [if_neg kept, List.filter_eq_nil_iff.2]
      · rfl
      · intro item _
        by_cases same : key item = name <;> simp [same, kept]

/-- The map with a function applied to every value. -/
def mapValues (change : β → γ) (map : OrderedMap α β) : OrderedMap α γ :=
  ⟨map.entries.map fun entry => (entry.1, change entry.2), by
    simpa [Function.comp_def] using map.distinct⟩

omit [DecidableEq α] in
/-- A map of values keeps the keys. -/
@[simp] theorem entries_mapValues (change : β → γ) (map : OrderedMap α β) :
    (map.mapValues change).entries = map.entries.map fun entry => (entry.1, change entry.2) := rfl

/-- Revising an entry and changing every value commute. -/
theorem map_revise {change : β → γ} {first : Option β → β} {second : Option γ → γ}
    (same : ∀ held, change (first held) = second (held.map change)) (key : α)
    (entries : List (α × β)) :
    (revise key first entries).map (fun entry => (entry.1, change entry.2)) =
      revise key second (entries.map fun entry => (entry.1, change entry.2)) := by
  induction entries with
  | nil => exact congrArg (fun value => [(key, value)]) (same none)
  | cons entry rest ih =>
      obtain ⟨other, value⟩ := entry
      by_cases equal : key = other
      · simp [revise, equal, same]
      · simp [revise, equal, ih]

/-- A function that turns one change into another passes through an update. -/
theorem mapValues_update {change : β → γ} {first : Option β → β} {second : Option γ → γ}
    (same : ∀ held, change (first held) = second (held.map change)) (map : OrderedMap α β)
    (key : α) :
    (map.update key first).mapValues change = (map.mapValues change).update key second :=
  ext (map_revise same key map.entries)

/-- Inserting and changing every value commute. -/
theorem mapValues_insert (change : β → γ) (map : OrderedMap α β) (key : α) (value : β) :
    (map.insert key value).mapValues change =
      (map.mapValues change).insert key (change value) := by
  have same (held : Option β) : change value = (fun _ => change value) (held.map change) := rfl
  exact mapValues_update same map key

end OrderedMap

end AnnotatedMake
