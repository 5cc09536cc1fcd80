import AnnotatedMake.CacheRecord
import AnnotatedMake.Proofs.Declaration.Meaning
import AnnotatedMake.Proofs.ScopeIndex

namespace AnnotatedMake

/-- A text that a field of a record gives back as it is. -/
structure IsField (text : String) : Prop where
  nonempty : text ≠ ""
  whole : fieldSeparator ∉ text.toList
  oneLine : ∀ c ∈ text.toList, Text.isLineBreak c = false
  trim : trimmed text = text

/-- A word that can stand among the values of a record. -/
structure IsValueWord (text : String) : Prop where
  word : Text.IsWord text.toList
  whole : fieldSeparator ∉ text.toList

/-- A definition whose name, scope and values fit into a record. -/
structure Definition.Recordable (definition : Definition) : Prop where
  name : IsField definition.name
  scope : IsField definition.scope
  values : ∀ value ∈ definition.values, IsValueWord value

/-- What a record keeps of a parameter: its values. -/
def Parameter.recorded (parameter : Parameter) : Parameter := { values := parameter.values }

/-- What a record keeps of a definition: its name, its scope and its values. -/
def Definition.recorded (definition : Definition) : Definition :=
  { definition.toParameter.recorded with name := definition.name, scope := definition.scope }

/-- What records keep of an index: the scopes and names in their order, with the values. -/
def ScopeIndex.recorded (index : ScopeIndex) : ScopeIndex where
  scopes := index.scopes.mapValues fun parameters => parameters.mapValues Parameter.recorded

theorem ScopeIndex.definitions_recorded (index : ScopeIndex) :
    index.recorded.definitions = index.definitions.map Definition.recorded := by
  simp [definitions, recorded, definitionsIn, List.flatMap_map, List.map_flatMap,
    Function.comp_def, Definition.recorded, Parameter.recorded]

theorem ScopeIndex.noEmptyScope_recorded {index : ScopeIndex} (full : index.NoEmptyScope) :
    index.recorded.NoEmptyScope := by
  intro entry member
  obtain ⟨original, present, rfl⟩ := List.mem_map.1 member
  simpa using full original present

theorem isField_of_word {text : String} (word : Text.IsWord text.toList)
    (whole : fieldSeparator ∉ text.toList) : IsField text where
  nonempty := by
    rintro rfl
    exact word.1 rfl
  whole := whole
  oneLine c inside := by
    cases ends : Text.isLineBreak c with
    | false => rfl
    | true => simpa [word.2 c inside] using Text.isBlank_of_isLineBreak ends
  trim := by rw [trimmed, Text.trim_of_dark word.2, String.ofList_toList]

namespace CacheRecord

/-- The characters of a record, its line feed left out. -/
def lineOf (definition : Definition) : List Char :=
  definition.name.toList ++ fieldSeparator :: (definition.scope.toList ++
    fieldSeparator :: [' '].intercalate (definition.values.map String.toList))

theorem toList_encode (definition : Definition) :
    (encode definition).toList = lineOf definition ++ ['\n'] := by
  simp [encode, lineOf, String.toList_intercalate]

theorem mem_intercalate {c : Char} {list : List (List Char)}
    (member : c ∈ [' '].intercalate list) : c = ' ' ∨ ∃ word ∈ list, c ∈ word := by
  induction list with
  | nil => cases member
  | cons first rest ih =>
      cases rest with
      | nil => exact .inr ⟨first, by simp, by simpa using member⟩
      | cons next rest =>
          rw [List.intercalate_cons_cons, List.append_assoc, List.singleton_append,
            List.mem_append, List.mem_cons] at member
          rcases member with inFirst | isSpace | later
          · exact .inr ⟨first, by simp, inFirst⟩
          · exact .inl isSpace
          · rcases ih later with isSpace | ⟨word, inRest, inside⟩
            · exact .inl isSpace
            · exact .inr ⟨word, List.mem_cons_of_mem _ inRest, inside⟩

theorem mem_values {definition : Definition} (fit : definition.Recordable) {c : Char}
    (member : c ∈ [' '].intercalate (definition.values.map String.toList)) :
    c ≠ fieldSeparator ∧ Text.isLineBreak c = false := by
  rcases mem_intercalate member with rfl | ⟨word, inWords, inside⟩
  · decide
  · obtain ⟨value, inValues, rfl⟩ := List.mem_map.1 inWords
    have fits := fit.values value inValues
    have isField := isField_of_word fits.word fits.whole
    exact ⟨fun same => fits.whole (same ▸ inside), isField.oneLine c inside⟩

theorem lineOf_oneLine {definition : Definition} (fit : definition.Recordable) :
    ∀ c ∈ lineOf definition, Text.isLineBreak c = false := by
  have separator : Text.isLineBreak fieldSeparator = false := by decide
  intro c inside
  simp only [lineOf, List.mem_append, List.mem_cons] at inside
  rcases inside with inName | rfl | inScope | rfl | inValues
  · exact fit.name.oneLine c inName
  · exact separator
  · exact fit.scope.oneLine c inScope
  · exact separator
  · exact (mem_values fit inValues).2

/-- A record is read back as its scope, name and values. -/
theorem ofLine?_lineOf {definition : Definition} (fit : definition.Recordable) :
    ofLine? (String.ofList (lineOf definition)) =
      some ((definition.scope, definition.name), definition.values) := by
  have values : fieldSeparator ∉ [' '].intercalate (definition.values.map String.toList) :=
    fun inside => (mem_values fit inside).1 rfl
  have pieces : piecesOf fieldSeparator (String.ofList (lineOf definition)) =
      [definition.name, definition.scope,
        String.ofList ([' '].intercalate (definition.values.map String.toList))] := by
    rw [piecesOf, String.toList_ofList, lineOf, Text.pieces_append fit.name.whole,
      Text.pieces_append fit.scope.whole, Text.pieces_of_absent values]
    simp
  have words : wordsOf (String.ofList ([' '].intercalate (definition.values.map String.toList))) =
      definition.values := by
    rw [wordsOf, String.toList_ofList, Text.words_intercalate]
    · simp
    · intro word member
      obtain ⟨value, inValues, rfl⟩ := List.mem_map.1 member
      exact (fit.values value inValues).word
  rw [ofLine?, pieces]
  simp [fit.name.trim, fit.scope.trim, fit.name.nonempty, fit.scope.nonempty, words]

theorem linesOf_records {definitions : List Definition}
    (fit : ∀ definition ∈ definitions, definition.Recordable) :
    linesOf (String.join (definitions.map encode)) = definitions.map fun definition =>
      String.ofList (lineOf definition) := by
  have text : (String.join (definitions.map encode)).toList =
      (definitions.map lineOf).flatMap fun line => line ++ ['\n'] := by
    simp [String.toList_join, List.flatMap_map, toList_encode]
  rw [linesOf, text, Text.lines_flatMap, List.map_map]
  · rfl
  · intro line member
    obtain ⟨definition, present, rfl⟩ := List.mem_map.1 member
    exact lineOf_oneLine (fit definition present)

/-- Records that are written one behind the other are read back one by one. -/
theorem ofLine?_records {definitions : List Definition}
    (fit : ∀ definition ∈ definitions, definition.Recordable) :
    (linesOf (String.join (definitions.map encode))).filterMap ofLine? =
      definitions.map fun definition =>
        ((definition.scope, definition.name), definition.values) := by
  rw [linesOf_records fit, List.filterMap_map, ← List.filterMap_eq_map]
  apply List.filterMap_congr
  intro definition present
  rw [Function.comp_apply, Function.comp_apply, ofLine?_lineOf (fit definition present)]

/-- Records of different scopes and names are merged into themselves. -/
theorem entries_merge {records : List ((String × String) × List String)}
    (once : (records.map Prod.fst).Nodup) : (merge records).entries = records := by
  have collected := OrderedMap.entries_collect_of_nodup Prod.fst
    (fun (record : (String × String) × List String) held => held.getD [] ++ record.2) once
  exact collected.trans (List.map_id _)

/-- An index of definitions that fit into records comes back with what the records keep. -/
theorem decodeIndex_encodeIndex {index : ScopeIndex} (full : index.NoEmptyScope)
    (fit : ∀ definition ∈ index.definitions, definition.Recordable) :
    decodeIndex (encodeIndex index) = index.recorded := by
  have records := ofLine?_records fit
  have once := index.nodup_keys_definitions
  calc
    decodeIndex (encodeIndex index) = .ofDefinitions index.recorded.definitions [] := by
      rw [decodeIndex, encodeIndex, records,
        entries_merge (by simpa [Function.comp_def] using once), List.map_map,
        ScopeIndex.definitions_recorded]
      rfl
    _ = index.recorded :=
      ScopeIndex.ofDefinitions_definitions (ScopeIndex.noEmptyScope_recorded full)

end CacheRecord

section Declared

theorem isWord_of_annotation {marker line keyword : String} {rest : List String}
    (found : annotation? marker line = some (keyword, rest)) :
    ∀ word ∈ rest, Text.IsWord word.toList := by
  rw [annotation?] at found
  split at found
  · split at found
    · split at found
      · rename_i words
        obtain ⟨rfl, rfl⟩ := Prod.mk.injEq .. ▸ Option.some.inj found
        intro word member
        apply isWord_of_mem_wordsOf
        rw [words]
        exact List.mem_cons_of_mem _ member
      · cases found
    · cases found
  · cases found

theorem isWord_of_heading {marker line name : String} (found : heading? marker line = some name) :
    Text.IsWord name.toList := by
  rw [heading?] at found
  split at found
  · rename_i annotated
    exact Option.some.inj found ▸ isWord_of_annotation annotated _ List.mem_cons_self
  · cases found

theorem isField_of_scopeAfter {marker : String} {earlier : List String} {scope : String}
    (found : scopeAfter marker earlier = some scope) : IsField scope := by
  rw [scopeAfter] at found
  split at found
  · obtain rfl := Option.some.inj found
    have dark : (globalScope.toList.all fun c => Text.isBlank c = false) = true := by decide
    exact isField_of_word ⟨by decide, by simpa using dark⟩ (by decide)
  · rename_i name last
    split at found
    · cases found
    · rename_i open'
      obtain rfl := Option.some.inj found
      obtain ⟨line, _, named⟩ := List.mem_filterMap.1 (List.mem_of_getLast? last)
      exact isField_of_word (isWord_of_heading named) (not_or.1 open').2

theorem isWord_lessColon {word : String} (isWord : Text.IsWord word.toList)
    (some' : lessColon word ≠ "") : Text.IsWord (lessColon word).toList := by
  refine ⟨fun none => some' (String.toList_inj.1 none), ?_⟩
  rw [lessColon]
  split
  · intro c inside
    rw [String.toList_ofList] at inside
    exact isWord.2 c (List.dropLast_subset _ inside)
  · exact isWord.2

/-- A declaration has a scope and a name that fit into a record, and words behind them. -/
theorem Declared.fields_of_ofLine? {marker line : String} {earlier : List String}
    {declared : Declared}
    (found : ofLine? marker (scopeAfter marker earlier) line = some declared) :
    IsField declared.scope ∧ IsField declared.name ∧
      ∀ word ∈ declared.words, Text.IsWord word.toList := by
  unfold ofLine? at found
  split at found
  · rename_i word words scope annotated inScope
    dsimp only at found
    split at found
    · cases found
    · rename_i fits
      obtain ⟨some', whole⟩ := not_or.1 fits
      obtain rfl := Option.some.inj found
      have isWord := isWord_of_annotation annotated
      exact ⟨isField_of_scopeAfter inScope,
        isField_of_word (isWord_lessColon (isWord _ List.mem_cons_self) some') whole,
        fun other member => isWord _ (List.mem_cons_of_mem _ member)⟩
  · cases found

theorem Declared.fields_of_mem {marker : String} {lines : List String} {declared : Declared}
    (member : declared ∈ ofLines marker lines) :
    IsField declared.scope ∧ IsField declared.name ∧
      ∀ word ∈ declared.words, Text.IsWord word.toList := by
  obtain ⟨entry, _, found⟩ := List.mem_filterMap.1 member
  exact fields_of_ofLine? found

/-- A word that is a value holds no separator. -/
theorem Declared.isValueWord_of_isValue {word : String} (isWord : Text.IsWord word.toList)
    (value : isValue word = true) : IsValueWord word := by
  refine ⟨isWord, ?_⟩
  simp only [isValue, holds, Bool.and_eq_true, Bool.not_eq_true', List.elem_eq_mem,
    decide_eq_false_iff_not] at value
  exact value.2

/-- Every definition of a Makefile fits into a record. -/
theorem recordable_of_mem_definitionsOf {marker : String} {lines : List String}
    {definition : Definition} (member : definition ∈ definitionsOf marker lines) :
    definition.Recordable := by
  rw [definitionsOf, Declarations.definitions, Declared.ofLines_eq_collect,
    Declared.entries_collect_amend, List.map_map, List.mem_map] at member
  obtain ⟨key, present, rfl⟩ := member
  rw [mem_distinct] at present
  obtain ⟨declared, declares, rfl⟩ := List.mem_map.1 present
  obtain ⟨scope, name, _⟩ := Declared.fields_of_mem declares
  refine ⟨name, scope, ?_⟩
  intro value inValues
  obtain ⟨inWords, isValue⟩ := List.mem_filter.1 inValues
  obtain ⟨other, declaresToo, inOther⟩ := List.mem_flatMap.1 inWords
  have words := (Declared.fields_of_mem (List.mem_filter.1 declaresToo).1).2.2
  exact Declared.isValueWord_of_isValue (words value inOther) isValue

end Declared

/-- The index of a Makefile comes back from its cache file with all names and values. -/
theorem decodeIndex_encodeIndex_ofLines (marker : String) (lines : List String) :
    CacheRecord.decodeIndex (CacheRecord.encodeIndex (.ofLines marker lines)) =
      (ScopeIndex.ofLines marker lines).recorded :=
  CacheRecord.decodeIndex_encodeIndex (ScopeIndex.noEmptyScope_ofDefinitions _ _)
    fun _ member => recordable_of_mem_definitionsOf (ScopeIndex.mem_of_mem_ofDefinitions member)

end AnnotatedMake
