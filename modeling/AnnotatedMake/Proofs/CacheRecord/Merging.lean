import AnnotatedMake.Proofs.CacheRecord.Lossless

namespace AnnotatedMake

namespace ScopeIndex

/-- Placing a definition and keeping its record may change places. -/
theorem recorded_define (index : ScopeIndex) (definition : Definition) :
    (index.define definition).recorded = index.recorded.define definition.recorded := by
  have parameters (held : Option (OrderedMap String Parameter)) :
      ((held.getD .empty).insert definition.name definition.toParameter).mapValues
          Parameter.recorded =
        ((held.map (OrderedMap.mapValues Parameter.recorded)).getD .empty).insert
          definition.name definition.toParameter.recorded := by
    cases held <;> exact OrderedMap.mapValues_insert ..
  exact congrArg (ScopeIndex.mk · []) (OrderedMap.mapValues_update parameters index.scopes _)

/-- What records keep of an index is the index of what they keep of its definitions. -/
theorem recorded_ofDefinitions (definitions : List Definition) (targets : List String) :
    (ofDefinitions definitions targets).recorded =
      ofDefinitions (definitions.map Definition.recorded) [] := by
  rw [ofDefinitions, ofDefinitions, List.foldl_map]
  exact (List.foldl_hom recorded fun index definition =>
    (recorded_define index definition).symm).symm

end ScopeIndex

/-- A declaration as a definition of its own, with the values of its own line. -/
def Declared.alone (declared : Declared) : Definition :=
  { values := declared.words.filter isValue, scope := declared.scope, name := declared.name }

theorem Declared.recordable_alone {marker : String} {lines : List String} {declared : Declared}
    (member : declared ∈ ofLines marker lines) : declared.alone.Recordable := by
  obtain ⟨scope, name, words⟩ := fields_of_mem member
  refine ⟨name, scope, ?_⟩
  intro value inValues
  obtain ⟨inWords, isValue⟩ := List.mem_filter.1 inValues
  exact isValueWord_of_isValue (words value inWords) isValue

namespace CacheRecord

/-- One record for each declaration, in the order of the lines. -/
def declarationRecords (marker : String) (lines : List String) : String :=
  String.join ((Declared.ofLines marker lines).map fun declared => encode declared.alone)

/-- Records give one definition for each scope and name, with all values, in the first order. -/
theorem definitionsIn_records {definitions : List Definition}
    (fit : ∀ definition ∈ definitions, definition.Recordable) :
    definitionsIn (String.join (definitions.map encode)) =
      (distinct (definitions.map fun definition => (definition.scope, definition.name))).map
        fun key =>
          { values := (definitions.filter fun definition =>
              (definition.scope, definition.name) = key).flatMap fun definition =>
                definition.values
            scope := key.1, name := key.2 } := by
  rw [definitionsIn, ofLine?_records fit, entries_merge_eq, List.map_map, List.map_map]
  simp only [List.filter_map, List.flatMap_map]
  rfl

/-- The records of the declarations give what records keep of the merged definitions. -/
theorem definitionsIn_declarationRecords (marker : String) (lines : List String) :
    definitionsIn (declarationRecords marker lines) =
      (definitionsOf marker lines).map Definition.recorded := by
  have fit : ∀ definition ∈ (Declared.ofLines marker lines).map Declared.alone,
      definition.Recordable := by
    intro definition member
    obtain ⟨declared, present, rfl⟩ := List.mem_map.1 member
    exact Declared.recordable_alone present
  have read := definitionsIn_records fit
  rw [List.map_map] at read
  refine read.trans ?_
  rw [definitionsOf, Declarations.definitions, Declared.ofLines_eq_collect,
    Declared.entries_collect_amend, List.map_map, List.map_map, List.map_map]
  apply List.map_congr_left
  intro key _
  rw [List.filter_map, List.flatMap_map]
  simp only [Function.comp_apply, Definition.recorded, Parameter.recorded, Declared.parameterOf]
  -- the values of all words under the key are those of each of its lines
  rw [List.filter_flatMap]
  rfl

end CacheRecord

open CacheRecord in
/-- Merging the lines of a Makefile and merging the records of its declarations is the same. -/
theorem decodeIndex_declarationRecords (marker : String) (lines : List String) :
    decodeIndex (declarationRecords marker lines) =
      decodeIndex (encodeIndex (.ofLines marker lines)) := by
  have fit : ∀ definition ∈ (ScopeIndex.ofLines marker lines).definitions,
      definition.Recordable := fun definition member =>
    recordable_of_mem_definitionsOf (ScopeIndex.mem_of_mem_ofDefinitions member)
  calc
    decodeIndex (declarationRecords marker lines) =
        .ofDefinitions ((definitionsOf marker lines).map Definition.recorded) [] := by
      rw [decodeIndex_eq, definitionsIn_declarationRecords]
    _ = (ScopeIndex.ofLines marker lines).recorded :=
      (ScopeIndex.recorded_ofDefinitions _ []).symm
    _ = decodeIndex (encodeIndex (.ofLines marker lines)) :=
      (decodeIndex_encodeIndex (ScopeIndex.noEmptyScope_ofDefinitions _ _) fit).symm

end AnnotatedMake
