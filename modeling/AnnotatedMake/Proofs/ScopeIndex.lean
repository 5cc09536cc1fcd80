import AnnotatedMake.Proofs.Collection
import AnnotatedMake.ScopeIndex
import Mathlib.Data.List.Nodup

namespace AnnotatedMake

namespace OrderedMap

variable {α β : Type} [DecidableEq α]

/-- Two updates of a key are one. -/
theorem update_update (map : OrderedMap α β) (key : α) (first second : Option β → β) :
    (map.update key first).update key second =
      map.update key fun held => second (some (first held)) := by
  apply ext_get?
  · by_cases member : key ∈ map.keys <;> simp [keys_update, member]
  · intro name
    by_cases same : name = key <;> simp [get?_update, same]

/-- Inserting the entries of a map again gives the map. -/
theorem ofList_entries (map : OrderedMap α β) : ofList map.entries = map := by
  apply ext
  have collected := entries_collect_of_nodup Prod.fst (fun (entry : α × β) _ => entry.2)
    map.distinct
  exact collected.trans (List.map_id _)

end OrderedMap

namespace ScopeIndex

/-- Places a definition among the parameters of its scope. -/
def place (definition : Definition) (held : Option (OrderedMap String Parameter)) :
    OrderedMap String Parameter :=
  (held.getD .empty).insert definition.name definition.toParameter

/-- The definitions are collected by scope. -/
theorem ofDefinitions_eq_collect (definitions : List Definition) (targets : List String) :
    ofDefinitions definitions targets =
      ⟨.collect Definition.scope place definitions, targets⟩ := by
  induction definitions using List.reverseRec with
  | nil => rfl
  | append_singleton definitions last ih =>
      rw [OrderedMap.collect_concat, ofDefinitions, List.foldl_concat]
      rw [ofDefinitions] at ih
      rw [ih]
      rfl

/-- Every scope of the index has a parameter. -/
def NoEmptyScope (index : ScopeIndex) : Prop :=
  ∀ entry ∈ index.scopes.entries, entry.2.entries ≠ []

/-- An index of definitions has no empty scope. -/
theorem noEmptyScope_ofDefinitions (definitions : List Definition) (targets : List String) :
    (ofDefinitions definitions targets).NoEmptyScope := by
  intro entry member empty
  rw [ofDefinitions_eq_collect] at member
  have held := OrderedMap.get?_eq_some_iff.2 member
  rw [OrderedMap.get?_collect] at held
  rcases List.eq_nil_or_concat
    (definitions.filter fun definition => definition.scope = entry.1) with none | ⟨front, last, own⟩
  · simp [none, OrderedMap.gather] at held
  · rw [own, List.concat_eq_append, OrderedMap.gather_concat] at held
    have keys := congrArg OrderedMap.keys (Option.some.inj held)
    rw [place, OrderedMap.keys_insert] at keys
    have noKeys : entry.2.keys = [] := by rw [OrderedMap.keys, empty, List.map_nil]
    rw [noKeys] at keys
    split at keys
    · rename_i inside
      rw [keys] at inside
      cases inside
    · simp at keys

/-- Defining the parameters of a scope one after the other inserts them into that scope. -/
theorem foldl_define_definitionsIn (scope : String) (first : String × Parameter)
    (rest : List (String × Parameter)) (index : ScopeIndex) :
    ((first :: rest).map fun entry : String × Parameter =>
        ({ entry.2 with name := entry.1, scope } : Definition)).foldl define index =
      { index with
        scopes := index.scopes.update scope fun held =>
          (first :: rest).foldl (fun map entry => map.insert entry.1 entry.2)
            (held.getD .empty) } := by
  induction rest generalizing first index with
  | nil => rfl
  | cons second rest ih =>
      rw [List.map_cons, List.foldl_cons, ih second]
      simp only [define, OrderedMap.update_update]
      rfl

/-- The definitions of a scope are its entries under their names. -/
theorem definitionsIn_eq_map (scope : String) (parameters : OrderedMap String Parameter) :
    definitionsIn scope parameters =
      parameters.entries.map fun entry => { entry.2 with name := entry.1, scope } := rfl

/-- Defining a whole scope that was not there adds it at the end. -/
theorem entries_foldl_define {index : ScopeIndex} {scope : String}
    (absent : index.scopes.get? scope = none) {parameters : OrderedMap String Parameter}
    (some' : parameters.entries ≠ []) :
    ((definitionsIn scope parameters).foldl define index).scopes.entries =
      index.scopes.entries ++ [(scope, parameters)] := by
  obtain ⟨first, rest, cut⟩ := List.exists_cons_of_ne_nil some'
  rw [definitionsIn_eq_map, cut, foldl_define_definitionsIn, ← cut]
  dsimp only
  rw [OrderedMap.entries_update_of_absent absent]
  exact congrArg (fun map => index.scopes.entries ++ [(scope, map)])
    (OrderedMap.ofList_entries parameters)

/-- Defining parameters keeps the targets. -/
theorem targets_foldl_define (definitions : List Definition) (index : ScopeIndex) :
    (definitions.foldl define index).targets = index.targets := by
  induction definitions generalizing index with
  | nil => rfl
  | cons first rest ih => exact ih (index.define first)

/-- Scopes defined in turn are entered in turn. -/
theorem entries_foldl_flatMap {todo : List (String × OrderedMap String Parameter)}
    (distinct : (todo.map Prod.fst).Nodup) (some' : ∀ entry ∈ todo, entry.2.entries ≠ [])
    (index : ScopeIndex) (absent : ∀ entry ∈ todo, index.scopes.get? entry.1 = none) :
    ((todo.flatMap fun entry => definitionsIn entry.1 entry.2).foldl define index).scopes.entries =
      index.scopes.entries ++ todo := by
  induction todo generalizing index with
  | nil => simp
  | cons entry rest ih =>
      obtain ⟨apart, later⟩ := List.nodup_cons.1 distinct
      have added := entries_foldl_define (absent entry List.mem_cons_self)
        (some' entry List.mem_cons_self)
      rw [List.flatMap_cons, List.foldl_append,
        ih later (fun other member => some' other (List.mem_cons_of_mem _ member)), added,
        List.append_assoc, List.singleton_append]
      intro other member
      have differs : other.1 ≠ entry.1 := fun same =>
        apart (same ▸ List.mem_map_of_mem (f := Prod.fst) member)
      have missing := OrderedMap.get?_eq_none_iff.1 (absent other (List.mem_cons_of_mem _ member))
      rw [OrderedMap.get?_eq_none_iff, OrderedMap.keys, added, List.map_append, List.mem_append]
      exact not_or.2 ⟨missing, by simpa using differs⟩

/-- An index without empty scopes is found again from its definitions. -/
theorem ofDefinitions_definitions {index : ScopeIndex} (full : index.NoEmptyScope) :
    ofDefinitions index.definitions index.targets = index := by
  obtain ⟨scopes, targets⟩ := index
  have entries := entries_foldl_flatMap scopes.distinct full ⟨.empty, targets⟩ fun _ _ => rfl
  have sameTargets := targets_foldl_define (definitions ⟨scopes, targets⟩) ⟨.empty, targets⟩
  have sameScopes : (ofDefinitions (definitions ⟨scopes, targets⟩) targets).scopes = scopes :=
    OrderedMap.ext entries
  calc
    ofDefinitions (definitions ⟨scopes, targets⟩) targets =
        ⟨(ofDefinitions (definitions ⟨scopes, targets⟩) targets).scopes,
          (ofDefinitions (definitions ⟨scopes, targets⟩) targets).targets⟩ := rfl
    _ = ⟨scopes, targets⟩ := by rw [sameScopes]; exact congrArg _ sameTargets

/-- Each scope and name has one definition. -/
theorem nodup_keys_definitions (index : ScopeIndex) :
    (index.definitions.map fun definition => (definition.scope, definition.name)).Nodup := by
  rw [definitions, List.map_flatMap, List.nodup_flatMap]
  constructor
  · intro entry _
    have names := entry.2.distinct
    rw [definitionsIn, List.map_map]
    exact List.Nodup.of_map Prod.snd (by simpa [Function.comp_def] using names)
  · refine (List.pairwise_map.1 index.scopes.distinct).imp ?_
    intro first second differs
    apply List.disjoint_left.2
    intro key inFirst inSecond
    obtain ⟨one, ofFirst, rfl⟩ := List.mem_map.1 inFirst
    obtain ⟨two, ofSecond, same⟩ := List.mem_map.1 inSecond
    obtain ⟨_, _, rfl⟩ := List.mem_map.1 ofFirst
    obtain ⟨_, _, rfl⟩ := List.mem_map.1 ofSecond
    exact differs (congrArg Prod.fst same).symm

/-- A definition is listed when it is found under its own name. -/
theorem mem_definitions_iff {index : ScopeIndex} {definition : Definition} :
    definition ∈ index.definitions ↔
      index.get? definition.scope definition.name = some definition := by
  simp only [definitions, definitionsIn, List.mem_flatMap, List.mem_map, get?,
    Option.bind_eq_some_iff, Option.map_eq_some_iff, OrderedMap.get?_eq_some_iff]
  constructor
  · rintro ⟨⟨scope, parameters⟩, inIndex, ⟨name, parameter⟩, inScope, rfl⟩
    exact ⟨parameters, inIndex, parameter, inScope, rfl⟩
  · rintro ⟨parameters, inIndex, parameter, inScope, same⟩
    exact ⟨_, inIndex, _, inScope, same⟩

/-- Defining a parameter changes that one only. -/
theorem get?_define (index : ScopeIndex) (definition : Definition) (scope name : String) :
    (index.define definition).get? scope name =
      if definition.scope = scope ∧ definition.name = name then some definition
      else index.get? scope name := by
  rw [get?, define, OrderedMap.get?_update]
  by_cases sameScope : scope = definition.scope
  · subst sameScope
    rw [if_pos rfl, Option.bind_some, OrderedMap.get?_insert]
    by_cases sameName : name = definition.name
    · subst sameName
      simp
    · cases held : index.scopes.get? definition.scope <;>
        simp [sameName, Ne.symm sameName, get?, held]
  · simp [sameScope, Ne.symm sameScope, get?]

/-- Under a scope and name stands the last definition given for them. -/
theorem get?_ofDefinitions (definitions : List Definition) (targets : List String)
    (scope name : String) :
    (ofDefinitions definitions targets).get? scope name =
      (definitions.filter fun definition =>
        definition.scope = scope ∧ definition.name = name).getLast? := by
  induction definitions using List.reverseRec with
  | nil => rfl
  | append_singleton definitions last ih =>
      rw [ofDefinitions, List.foldl_concat, get?_define, List.filter_append]
      rw [ofDefinitions] at ih
      rw [ih]
      by_cases same : last.scope = scope ∧ last.name = name <;> simp [same]

/-- An index lists no definitions but those given. -/
theorem mem_of_mem_ofDefinitions {definitions : List Definition} {targets : List String}
    {definition : Definition}
    (member : definition ∈ (ofDefinitions definitions targets).definitions) :
    definition ∈ definitions := by
  rw [mem_definitions_iff, get?_ofDefinitions] at member
  exact (List.mem_filter.1 (List.mem_of_getLast? member)).1

end ScopeIndex

end AnnotatedMake
