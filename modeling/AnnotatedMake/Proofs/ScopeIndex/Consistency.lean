import AnnotatedMake.Proofs.CacheRecord.Lossless
import AnnotatedMake.Proofs.Candidate

namespace AnnotatedMake

/-- A way to make an index, of the current one or from nothing. -/
inductive IndexStep
  | build (definitions : List Definition) (targets : List String)
  | retarget (targets : List String)
  | rebuild
  | reread
deriving DecidableEq

/-- Definitions kept whole under a scope and a name, with the names of the rules. -/
structure Filing where
  scopes : OrderedMap String (OrderedMap String Definition) := .empty
  targets : List String := []

namespace ScopeIndex

/-- The index that a step makes. -/
def next (index : ScopeIndex) : IndexStep → ScopeIndex
  | .build definitions targets => ofDefinitions definitions targets
  | .retarget targets => index.withTargets targets
  | .rebuild => ofDefinitions index.definitions index.targets
  | .reread => CacheRecord.decodeIndex (CacheRecord.encodeIndex index)

/-- The index after a sequence of steps that starts with an empty one. -/
def after (steps : List IndexStep) : ScopeIndex := steps.foldl next {}

/-- The names of a scope, in their order. -/
def namesIn (index : ScopeIndex) (scope : String) : List String :=
  ((index.scopes.get? scope).getD .empty).keys

end ScopeIndex

namespace Filing

/-- Files a definition under its scope and name. -/
def file (filing : Filing) (definition : Definition) : Filing :=
  { filing with
    scopes := filing.scopes.update definition.scope fun held =>
      (held.getD .empty).insert definition.name definition }

def ofDefinitions (definitions : List Definition) (targets : List String) : Filing :=
  definitions.foldl file { targets }

/-- Every definition filed, scope by scope. -/
def definitions (filing : Filing) : List Definition :=
  filing.scopes.values.flatMap OrderedMap.values

/-- The filing that a step makes. -/
def next (filing : Filing) : IndexStep → Filing
  | .build definitions targets => ofDefinitions definitions targets
  | .retarget targets => { filing with targets }
  | .rebuild => ofDefinitions filing.definitions filing.targets
  | .reread =>
    let text := String.join (filing.definitions.map CacheRecord.encode)
    ofDefinitions (CacheRecord.definitionsIn text) []

/-- The filing after a sequence of steps that starts with an empty one. -/
def after (steps : List IndexStep) : Filing := steps.foldl next {}

/-- The index that leaves scopes and names to the keys. -/
def toIndex (filing : Filing) : ScopeIndex where
  scopes := filing.scopes.mapValues (OrderedMap.mapValues Definition.toParameter)
  targets := filing.targets

/-- Every definition has the scope and the name that it is filed under. -/
def IsInPlace (filing : Filing) : Prop :=
  ∀ scope inScope, filing.scopes.get? scope = some inScope →
    ∀ name definition, inScope.get? name = some definition →
      definition.scope = scope ∧ definition.name = name

end Filing

namespace Filing

/-- Filing a definition keeps every place. -/
theorem inPlace_file {filing : Filing} (inPlace : filing.IsInPlace) (definition : Definition) :
    (filing.file definition).IsInPlace := by
  intro scope inScope held name found present
  rw [file, OrderedMap.get?_update] at held
  split at held
  · rename_i sameScope
    obtain rfl := Option.some.inj held
    rw [OrderedMap.get?_insert] at present
    split at present
    · rename_i sameName
      obtain rfl := Option.some.inj present
      exact ⟨sameScope.symm, sameName.symm⟩
    · cases before : filing.scopes.get? definition.scope with
      | none => simp [before] at present
      | some parameters =>
          rw [before, Option.getD_some] at present
          exact sameScope ▸ inPlace definition.scope parameters before name found present
  · exact inPlace scope inScope held name found present

/-- A filing of definitions is in place. -/
theorem inPlace_ofDefinitions (definitions : List Definition) (targets : List String) :
    (ofDefinitions definitions targets).IsInPlace := by
  induction definitions using List.reverseRec with
  | nil => intro scope inScope held; cases held
  | append_singleton definitions last ih =>
      rw [ofDefinitions, List.foldl_concat]
      exact inPlace_file ih last

/-- A step keeps every place. -/
theorem inPlace_next {filing : Filing} (inPlace : filing.IsInPlace) (step : IndexStep) :
    (filing.next step).IsInPlace := by
  cases step with
  | build definitions targets => exact inPlace_ofDefinitions definitions targets
  | retarget targets => exact inPlace
  | rebuild => exact inPlace_ofDefinitions filing.definitions filing.targets
  | reread => exact inPlace_ofDefinitions _ _

/-- A sequence of steps keeps every place. -/
theorem inPlace_after (steps : List IndexStep) : (after steps).IsInPlace := by
  induction steps using List.reverseRec with
  | nil => intro scope inScope held; cases held
  | append_singleton steps step ih =>
      rw [after, List.foldl_concat]
      exact inPlace_next ih step

/-- Filing a definition defines it in the index. -/
theorem toIndex_file (filing : Filing) (definition : Definition) :
    (filing.file definition).toIndex = filing.toIndex.define definition := by
  have parameters (held : Option (OrderedMap String Definition)) :
      ((held.getD .empty).insert definition.name definition).mapValues Definition.toParameter =
        ((held.map (OrderedMap.mapValues Definition.toParameter)).getD .empty).insert
          definition.name definition.toParameter := by
    cases held <;> exact OrderedMap.mapValues_insert ..
  exact congrArg (ScopeIndex.mk · filing.targets)
    (OrderedMap.mapValues_update parameters filing.scopes _)

/-- A filing of definitions is the index of them. -/
theorem toIndex_ofDefinitions (definitions : List Definition) (targets : List String) :
    (ofDefinitions definitions targets).toIndex = .ofDefinitions definitions targets :=
  (List.foldl_hom toIndex fun filing definition => (toIndex_file filing definition).symm).symm

/-- What is filed under its own scope and name is what the index gives. -/
theorem definitions_toIndex {filing : Filing} (inPlace : filing.IsInPlace) :
    filing.toIndex.definitions = filing.definitions := by
  rw [ScopeIndex.definitions, toIndex, OrderedMap.entries_mapValues, List.flatMap_map,
    definitions, OrderedMap.values, List.flatMap_map]
  apply List.flatMap_congr
  rintro ⟨scope, inScope⟩ held
  rw [ScopeIndex.definitionsIn, OrderedMap.entries_mapValues, List.map_map, OrderedMap.values]
  apply List.map_congr_left
  rintro ⟨name, definition⟩ present
  obtain ⟨rfl, rfl⟩ := inPlace scope inScope (OrderedMap.get?_eq_some_iff.2 held) name definition
    (OrderedMap.get?_eq_some_iff.2 present)
  rfl

/-- A step on a filing is the step on its index. -/
theorem toIndex_next {filing : Filing} (inPlace : filing.IsInPlace) (step : IndexStep) :
    (filing.next step).toIndex = filing.toIndex.next step := by
  cases step with
  | build definitions targets => exact toIndex_ofDefinitions definitions targets
  | retarget targets => rfl
  | rebuild =>
      rw [next, toIndex_ofDefinitions, ScopeIndex.next, definitions_toIndex inPlace]
      rfl
  | reread =>
      rw [next, toIndex_ofDefinitions, ScopeIndex.next, CacheRecord.decodeIndex_eq,
        CacheRecord.encodeIndex, definitions_toIndex inPlace]

/-- A filing and an index that go through the same steps hold the same. -/
theorem toIndex_after (steps : List IndexStep) :
    (after steps).toIndex = ScopeIndex.after steps := by
  induction steps using List.reverseRec with
  | nil => rfl
  | append_singleton steps step ih =>
      rw [ScopeIndex.after, List.foldl_concat, after, List.foldl_concat]
      exact (toIndex_next (inPlace_after steps) step).trans (congrArg (ScopeIndex.next · step) ih)

end Filing

namespace ScopeIndex

/-- A step leaves no scope empty. -/
theorem noEmptyScope_next {index : ScopeIndex} (full : index.NoEmptyScope) (step : IndexStep) :
    (index.next step).NoEmptyScope := by
  cases step with
  | build definitions targets => exact noEmptyScope_ofDefinitions definitions targets
  | retarget targets => exact full
  | rebuild => exact noEmptyScope_ofDefinitions index.definitions index.targets
  | reread => exact noEmptyScope_ofDefinitions _ _

/-- A sequence of steps leaves no scope empty. -/
theorem noEmptyScope_after (steps : List IndexStep) : (after steps).NoEmptyScope := by
  induction steps using List.reverseRec with
  | nil => intro entry member; cases member
  | append_singleton steps step ih =>
      rw [after, List.foldl_concat]
      exact noEmptyScope_next ih step

/-- A scope that is listed has a definition. -/
theorem exists_mem_definitions {index : ScopeIndex} (full : index.NoEmptyScope) {scope : String}
    (listed : scope ∈ index.scopeNames) :
    ∃ definition ∈ index.definitions, definition.scope = scope := by
  obtain ⟨⟨own, parameters⟩, held, rfl⟩ := List.mem_map.1 listed
  obtain ⟨entry, present⟩ := List.exists_mem_of_ne_nil _ (full _ held)
  have given : { entry.2 with name := entry.1, scope := own } ∈ definitionsIn own parameters :=
    List.mem_map_of_mem present
  exact ⟨_, List.mem_flatMap.2 ⟨_, held, given⟩, rfl⟩

/-- A definition is listed under its own scope. -/
theorem scope_of_mem_definitionsIn {scope : String} {parameters : OrderedMap String Parameter}
    {definition : Definition} (member : definition ∈ definitionsIn scope parameters) :
    definition.scope = scope := by
  obtain ⟨_, _, rfl⟩ := List.mem_map.1 member
  rfl

/-- Picking the scopes that are open to a target is picking their definitions. -/
theorem visibleTo_eq_filter (index : ScopeIndex) (target : Option String) :
    index.visibleTo target =
      index.definitions.filter fun definition => isOpenTo target definition.scope := by
  have ofScope (scope : String) (parameters : OrderedMap String Parameter) :
      (definitionsIn scope parameters).filter (fun definition =>
          isOpenTo target definition.scope) =
        if isOpenTo target scope then definitionsIn scope parameters else [] := by
    split
    · rename_i isOpen
      rw [List.filter_eq_self]
      exact fun definition member => (scope_of_mem_definitionsIn member).symm ▸ isOpen
    · rename_i closed
      rw [List.filter_eq_nil_iff]
      exact fun definition member => (scope_of_mem_definitionsIn member).symm ▸ closed
  rw [visibleTo, definitions, List.filter_flatMap]
  induction index.scopes.entries with
  | nil => rfl
  | cons entry rest ih =>
      rw [List.filter_cons, List.flatMap_cons, ← ih, ofScope]
      split <;> rfl

/-- The definitions are those of each scope under each of its names. -/
theorem definitions_eq_flatMap (index : ScopeIndex) :
    index.definitions =
      index.scopeNames.flatMap fun scope => (index.namesIn scope).filterMap (index.get? scope) := by
  rw [definitions, scopeNames, OrderedMap.keys, List.flatMap_map]
  apply List.flatMap_congr
  rintro ⟨scope, parameters⟩ held
  have inIndex : index.scopes.get? scope = some parameters := OrderedMap.get?_eq_some_iff.2 held
  rw [namesIn, inIndex, Option.getD_some, OrderedMap.keys, List.filterMap_map, definitionsIn,
    ← List.filterMap_eq_map]
  apply List.filterMap_congr
  rintro ⟨name, parameter⟩ present
  have inScope : parameters.get? name = some parameter := OrderedMap.get?_eq_some_iff.2 present
  rw [Function.comp_apply, Function.comp_apply, get?, inIndex, Option.bind_some, inScope]
  rfl

/-- Names are gathered in the order of their first definition. -/
theorem keys_gather_place (definitions : List Definition) :
    ((OrderedMap.gather place definitions).getD .empty).keys =
      distinct (definitions.map Definition.name) := by
  induction definitions using List.reverseRec with
  | nil => rfl
  | append_singleton definitions last ih =>
      rw [OrderedMap.gather_concat, Option.getD_some, place, OrderedMap.keys_insert, ih,
        List.map_append, List.map_singleton, distinct_concat]
      simp only [mem_distinct]

/-- Scopes are listed in the order of their first definition. -/
theorem scopeNames_ofDefinitions (definitions : List Definition) (targets : List String) :
    (ofDefinitions definitions targets).scopeNames =
      distinct (definitions.map Definition.scope) := by
  rw [ofDefinitions_eq_collect, scopeNames, OrderedMap.keys_collect]

/-- A scope lists the names defined in it. -/
theorem namesIn_ofDefinitions (definitions : List Definition) (targets : List String)
    (scope : String) :
    (ofDefinitions definitions targets).namesIn scope =
      distinct ((definitions.filter fun definition => definition.scope = scope).map
        Definition.name) := by
  rw [ofDefinitions_eq_collect, namesIn, OrderedMap.get?_collect, keys_gather_place]

/-- The parts of an index tell the same. -/
structure IsConsistent (index : ScopeIndex) : Prop where
  filled : ∀ scope ∈ index.scopeNames, ∃ definition ∈ index.definitions, definition.scope = scope
  once : (index.definitions.map fun definition => (definition.scope, definition.name)).Nodup
  counted : index.size = index.definitions.length
  found : ∀ definition ∈ index.definitions,
    index.get? definition.scope definition.name = some definition
  visible : ∀ target : Option String, index.visibleTo target =
    index.definitions.filter fun definition =>
      definition.scope = globalScope ∨ target ≠ some "" ∧ target = some definition.scope
  rebuilt : ofDefinitions index.definitions index.targets = index

/-- An index without an empty scope is consistent. -/
theorem isConsistent_of_noEmptyScope {index : ScopeIndex} (full : index.NoEmptyScope) :
    index.IsConsistent where
  filled _ listed := exists_mem_definitions full listed
  once := nodup_keys_definitions index
  counted := (length_definitions index).symm
  found _ member := mem_definitions_iff.1 member
  visible target := by
    rw [visibleTo_eq_filter]
    simp only [isOpenTo, ← Bool.decide_and, ← Bool.decide_or]
  rebuilt := ofDefinitions_definitions full

end ScopeIndex

/-- After any steps each definition stands under its own scope and name. -/
theorem scopeIndex_after_isConsistent (steps : List IndexStep) :
    (ScopeIndex.after steps).IsConsistent ∧
      (Filing.after steps).IsInPlace ∧
      (Filing.after steps).toIndex = ScopeIndex.after steps ∧
      (Filing.after steps).definitions = (ScopeIndex.after steps).definitions ∧
      ∀ definitions targets,
        let built := ScopeIndex.after (steps ++ [.build definitions targets])
        let last (scope name : String) := (definitions.filter fun definition =>
          definition.scope = scope ∧ definition.name = name).getLast?
        let names (scope : String) := ((definitions.filter fun definition =>
          definition.scope = scope).map Definition.name).eraseDups
        (∀ scope name, built.get? scope name = last scope name) ∧
          built.scopeNames = (definitions.map Definition.scope).eraseDups ∧
          built.definitions = built.scopeNames.flatMap (fun scope =>
            (names scope).filterMap (last scope)) ∧
          built.targets = targets := by
  have inPlace := Filing.inPlace_after steps
  have same := Filing.toIndex_after steps
  refine ⟨ScopeIndex.isConsistent_of_noEmptyScope (ScopeIndex.noEmptyScope_after steps), inPlace,
    same, same ▸ (Filing.definitions_toIndex inPlace).symm, ?_⟩
  intro definitions targets built last names
  have made : built = .ofDefinitions definitions targets := by
    simp only [built, ScopeIndex.after, List.foldl_concat]
    rfl
  have lastGiven (scope name : String) : built.get? scope name = last scope name := by
    rw [made, ScopeIndex.get?_ofDefinitions]
  refine ⟨lastGiven, ?_, ?_, ?_⟩
  · rw [made, ScopeIndex.scopeNames_ofDefinitions, eraseDups_eq_distinct]
  · rw [ScopeIndex.definitions_eq_flatMap]
    apply List.flatMap_congr
    intro scope _
    rw [made, ScopeIndex.namesIn_ofDefinitions, ← made, funext (lastGiven scope)]
    simp only [names, eraseDups_eq_distinct]
  · rw [made]
    exact ScopeIndex.targets_foldl_define definitions { targets }

/-- The empty name stands for no target, so a definition in a scope of that name is visible to
none. -/
theorem visibleTo_empty_scope :
    let unnamed : Definition := { values := ["1"], name := "x", scope := "" }
    let index := ScopeIndex.after [.build [unnamed] []]
    index.visibleTo (some "") ≠ index.definitions.filter fun definition =>
      definition.scope = globalScope ∨ definition.scope = "" := by
  decide

end AnnotatedMake
