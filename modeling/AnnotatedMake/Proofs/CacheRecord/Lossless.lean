import AnnotatedMake.Proofs.CacheRecord.RoundTrip

namespace AnnotatedMake

/-- A text that stands in a field of a record as it is. -/
def IsFieldText (text : String) : Prop :=
  text ≠ "" ∧ fieldSeparator ∉ text.toList ∧
    (∀ c ∈ text.toList, Text.isLineBreak c = false) ∧ Text.IsTight text.toList

instance (text : String) : Decidable (IsFieldText text) :=
  letI : Decidable (∀ c ∈ text.toList, Text.isLineBreak c = false) :=
    List.decidableBAll (fun c => Text.isLineBreak c = false) text.toList
  inferInstanceAs (Decidable (_ ∧ _ ∧ _ ∧ _))

/-- A definition that is nothing but its record. -/
structure Definition.IsRecord (definition : Definition) : Prop where
  name : IsFieldText definition.name
  scope : IsFieldText definition.scope
  values : ∀ value ∈ definition.values, value ≠ "" ∧ fieldSeparator ∉ value.toList ∧
    ∀ c ∈ value.toList, Text.isBlank c = false
  type : definition.type = none
  required : definition.required = false
  default : definition.default = none

instance (definition : Definition) : Decidable definition.IsRecord :=
  letI (value : String) : Decidable (∀ c ∈ value.toList, Text.isBlank c = false) :=
    List.decidableBAll (fun c => Text.isBlank c = false) value.toList
  decidable_of_iff (IsFieldText definition.name ∧ IsFieldText definition.scope ∧
      (∀ value ∈ definition.values, value ≠ "" ∧ fieldSeparator ∉ value.toList ∧
        ∀ c ∈ value.toList, Text.isBlank c = false) ∧
      definition.type = none ∧ definition.required = false ∧ definition.default = none)
    ⟨fun ⟨name, scope, values, type, required, default⟩ =>
        ⟨name, scope, values, type, required, default⟩,
      fun ⟨name, scope, values, type, required, default⟩ =>
        ⟨name, scope, values, type, required, default⟩⟩

theorem isField_iff {text : String} : IsField text ↔ IsFieldText text := by
  have tight : trimmed text = text ↔ Text.IsTight text.toList := by
    rw [trimmed, Text.isTight_iff, ← String.toList_inj, String.toList_ofList]
  constructor
  · rintro ⟨nonempty, whole, oneLine, trim⟩
    exact ⟨nonempty, whole, oneLine, tight.1 trim⟩
  · rintro ⟨nonempty, whole, oneLine, isTight⟩
    exact ⟨nonempty, whole, oneLine, tight.2 isTight⟩

theorem isValueWord_iff {text : String} : IsValueWord text ↔
    text ≠ "" ∧ fieldSeparator ∉ text.toList ∧ ∀ c ∈ text.toList, Text.isBlank c = false := by
  have nonempty : text.toList ≠ [] ↔ text ≠ "" := not_congr String.toList_eq_nil_iff
  constructor
  · rintro ⟨⟨some', dark⟩, whole⟩
    exact ⟨nonempty.1 some', whole, dark⟩
  · rintro ⟨some', whole, dark⟩
    exact ⟨⟨nonempty.2 some', dark⟩, whole⟩

theorem Definition.isRecord_iff {definition : Definition} : definition.IsRecord ↔
    definition.Recordable ∧ definition.toParameter.recorded = definition.toParameter := by
  have bare : definition.toParameter.recorded = definition.toParameter ↔
      definition.type = none ∧ definition.required = false ∧ definition.default = none := by
    obtain ⟨⟨values, type, required, default⟩, name, scope⟩ := definition
    simp [Parameter.recorded, eq_comm]
  rw [bare]
  constructor
  · rintro ⟨name, scope, values, type, required, default⟩
    exact ⟨⟨isField_iff.2 name, isField_iff.2 scope,
      fun value member => isValueWord_iff.2 (values value member)⟩, type, required, default⟩
  · rintro ⟨⟨name, scope, values⟩, type, required, default⟩
    exact ⟨isField_iff.1 name, isField_iff.1 scope,
      fun value member => isValueWord_iff.1 (values value member), type, required, default⟩

namespace CacheRecord

/-- A line gives fields that could be written to a record again. -/
theorem fields_of_ofLine? {text line : String} (inText : line ∈ linesOf text)
    {record : (String × String) × List String} (found : ofLine? line = some record) :
    IsField record.1.2 ∧ IsField record.1.1 ∧ ∀ value ∈ record.2, IsValueWord value := by
  have oneLine : ∀ c ∈ line.toList, Text.isLineBreak c = false := by
    obtain ⟨characters, cut, rfl⟩ := List.mem_map.1 inText
    intro c inside
    rw [String.toList_ofList] at inside
    exact Text.not_break_of_mem_lines cut inside
  have ofPiece {piece : String} (cut : piece ∈ piecesOf fieldSeparator line) {c : Char}
      (inside : c ∈ piece.toList) : Text.isLineBreak c = false ∧ c ≠ fieldSeparator := by
    obtain ⟨characters, inPieces, rfl⟩ := List.mem_map.1 cut
    rw [String.toList_ofList] at inside
    obtain ⟨inLine, differs⟩ := Text.mem_of_mem_pieces inPieces inside
    exact ⟨oneLine c inLine, differs⟩
  have field {piece : String} (cut : piece ∈ piecesOf fieldSeparator line)
      (some' : trimmed piece ≠ "") : IsField (trimmed piece) := by
    have kept {c : Char} (inside : c ∈ (trimmed piece).toList) : c ∈ piece.toList := by
      rw [trimmed, String.toList_ofList] at inside
      exact (Text.trim_infix piece.toList).subset inside
    refine ⟨some', fun inside => (ofPiece cut (kept inside)).2 rfl,
      fun c inside => (ofPiece cut (kept inside)).1, ?_⟩
    rw [trimmed, trimmed, String.toList_ofList, Text.trim_of_tight (Text.isTight_trim _)]
  rw [ofLine?] at found
  split at found
  · rename_i first second third pieces
    rw [pieces] at ofPiece field
    dsimp only at found
    split at found
    · cases found
    · rename_i named
      obtain rfl := Option.some.inj found
      simp only [Bool.or_eq_true, decide_eq_true_eq, not_or] at named
      refine ⟨field (by simp) named.1, field (by simp) named.2, ?_⟩
      intro value member
      refine ⟨isWord_of_mem_wordsOf member, ?_⟩
      obtain ⟨characters, inWords, rfl⟩ := List.mem_map.1 member
      intro inside
      rw [String.toList_ofList] at inside
      exact (ofPiece (by simp) (Text.mem_of_mem_words inWords inside)).2 rfl
  · cases found

/-- The values that records add up to. -/
theorem gather_values (records : List ((String × String) × List String)) :
    OrderedMap.gather
      (fun (record : (String × String) × List String) held => held.getD [] ++ record.2) records =
      if records = [] then none else some (records.flatMap Prod.snd) := by
  induction records using List.reverseRec with
  | nil => rfl
  | append_singleton records last ih =>
      rw [OrderedMap.gather_concat, ih]
      by_cases none : records = [] <;> simp [none]

/-- Each scope and name has the values of all its records, in the order of the first. -/
theorem entries_merge_eq (records : List ((String × String) × List String)) :
    (merge records).entries = (distinct (records.map Prod.fst)).map fun key =>
      (key, (records.filter fun record => record.1 = key).flatMap Prod.snd) := by
  have collected : merge records = .collect Prod.fst
    (fun (record : (String × String) × List String) held => held.getD [] ++ record.2) records := rfl
  have keys : (merge records).keys = distinct (records.map Prod.fst) := by
    rw [collected, OrderedMap.keys_collect]
  rw [← keys]
  apply OrderedMap.entries_eq_map
  intro key member
  rw [keys, mem_distinct] at member
  obtain ⟨record, present, rfl⟩ := List.mem_map.1 member
  have some' : (records.filter fun other => other.1 = record.1) ≠ [] :=
    List.ne_nil_of_mem (List.mem_filter.2 ⟨present, by simp⟩)
  rw [collected, OrderedMap.get?_collect, gather_values, if_neg some']

/-- The definitions in the text of a cache file, each merged from its records. -/
def definitionsIn (text : String) : List Definition :=
  (merge ((linesOf text).filterMap ofLine?)).entries.map fun entry =>
    { values := entry.2, scope := entry.1.1, name := entry.1.2 }

theorem decodeIndex_eq (text : String) :
    decodeIndex text = .ofDefinitions (definitionsIn text) [] := rfl

/-- Whatever a cache file holds, the definitions in it are plain. -/
theorem isRecord_of_mem_definitionsIn {text : String} {definition : Definition}
    (member : definition ∈ definitionsIn text) : definition.IsRecord := by
  rw [definitionsIn, entries_merge_eq, List.map_map, List.mem_map] at member
  obtain ⟨key, present, rfl⟩ := member
  rw [mem_distinct] at present
  have fields {record : (String × String) × List String}
      (read : record ∈ (linesOf text).filterMap ofLine?) :
      IsField record.1.2 ∧ IsField record.1.1 ∧ ∀ value ∈ record.2, IsValueWord value := by
    obtain ⟨line, inText, found⟩ := List.mem_filterMap.1 read
    exact fields_of_ofLine? inText found
  obtain ⟨record, read, rfl⟩ := List.mem_map.1 present
  obtain ⟨name, scope, _⟩ := fields read
  refine Definition.isRecord_iff.2 ⟨⟨name, scope, ?_⟩, rfl⟩
  intro value inValues
  obtain ⟨other, readToo, inOther⟩ := List.mem_flatMap.1 inValues
  exact (fields (List.mem_filter.1 readToo).1).2.2 value inOther

/-- An index of plain definitions comes back as it was. -/
theorem decodeIndex_encodeIndex_of_plain {definitions : List Definition}
    (plain : ∀ definition ∈ definitions, definition.IsRecord) :
    decodeIndex (encodeIndex (.ofDefinitions definitions [])) = .ofDefinitions definitions [] := by
  have full := ScopeIndex.noEmptyScope_ofDefinitions definitions []
  have targets : (ScopeIndex.ofDefinitions definitions []).targets = [] :=
    ScopeIndex.targets_foldl_define definitions _
  have within {definition : Definition} :
      definition ∈ (ScopeIndex.ofDefinitions definitions []).definitions →
        definition ∈ definitions := ScopeIndex.mem_of_mem_ofDefinitions
  generalize ScopeIndex.ofDefinitions definitions [] = index at full targets within ⊢
  have fit (definition : Definition) (member : definition ∈ index.definitions) :=
    Definition.isRecord_iff.1 (plain definition (within member))
  have same : index.recorded.definitions = index.definitions := by
    rw [ScopeIndex.definitions_recorded]
    refine (List.map_congr_left ?_).trans (List.map_id _)
    intro definition member
    have bare := (fit definition member).2
    obtain ⟨parameter, name, scope⟩ := definition
    exact congrArg (Definition.mk · name scope) bare
  calc
    decodeIndex (encodeIndex index) = index.recorded :=
      decodeIndex_encodeIndex full fun definition member => (fit definition member).1
    _ = .ofDefinitions index.recorded.definitions [] :=
      (ScopeIndex.ofDefinitions_definitions (ScopeIndex.noEmptyScope_recorded full)).symm
    _ = .ofDefinitions index.definitions index.targets := by rw [same, targets]
    _ = index := ScopeIndex.ofDefinitions_definitions full

/-- Definitions of different scopes and names all find their way into the index. -/
theorem mem_definitions_ofDefinitions {definitions : List Definition} (targets : List String)
    (once : (definitions.map fun definition => (definition.scope, definition.name)).Nodup)
    {definition : Definition} (member : definition ∈ definitions) :
    definition ∈ (ScopeIndex.ofDefinitions definitions targets).definitions := by
  rw [ScopeIndex.mem_definitions_iff, ScopeIndex.get?_ofDefinitions]
  have alone : ∀ other ∈ definitions.filter fun other =>
      other.scope = definition.scope ∧ other.name = definition.name, other = definition := by
    intro other kept
    obtain ⟨inList, same⟩ := List.mem_filter.1 kept
    obtain ⟨sameScope, sameName⟩ := of_decide_eq_true same
    exact List.inj_on_of_nodup_map once inList member (Prod.ext sameScope sameName)
  cases last : (definitions.filter fun other =>
      other.scope = definition.scope ∧ other.name = definition.name).getLast? with
  | none =>
      have none := List.getLast?_eq_none_iff.1 last
      exact absurd (List.mem_filter.2 ⟨member, by simp⟩) (none ▸ List.not_mem_nil)
  | some other => exact congrArg some (alone other (List.mem_of_getLast? last))

end CacheRecord

open CacheRecord in
/-- An index comes back from its cache file exactly when its definitions are plain. -/
theorem decodeIndex_encodeIndex_iff {definitions : List Definition}
    (once : (definitions.map fun definition => (definition.scope, definition.name)).Nodup) :
    ((decodeIndex (encodeIndex (.ofDefinitions definitions []))).scopeNames =
          (ScopeIndex.ofDefinitions definitions []).scopeNames ∧
        (decodeIndex (encodeIndex (.ofDefinitions definitions []))).definitions =
          (ScopeIndex.ofDefinitions definitions []).definitions ↔
      ∀ definition ∈ definitions, definition.IsRecord) ∧
    ∀ text, decodeIndex (encodeIndex (decodeIndex text)) = decodeIndex text := by
  refine ⟨⟨?_, ?_⟩, ?_⟩
  · rintro ⟨_, same⟩ definition member
    have inIndex := mem_definitions_ofDefinitions [] once member
    rw [← same, decodeIndex_eq] at inIndex
    exact isRecord_of_mem_definitionsIn (ScopeIndex.mem_of_mem_ofDefinitions inIndex)
  · intro plain
    rw [decodeIndex_encodeIndex_of_plain plain]
    exact ⟨rfl, rfl⟩
  · intro text
    rw [decodeIndex_eq text]
    exact decodeIndex_encodeIndex_of_plain fun _ => isRecord_of_mem_definitionsIn

/-- Definitions with a name that has a blank inside, and with a scope that is opened again. -/
def reopenedScope : List Definition := [
  { name := "a\tb", scope := "all", values := ["1", "1"] },
  { name := "c", scope := globalScope },
  { name := "d", scope := "all", values := ["x=y"] }]

open CacheRecord in
theorem decodeIndex_encodeIndex_reopened :
    (reopenedScope.map fun definition => (definition.scope, definition.name)).Nodup ∧
      (∀ definition ∈ reopenedScope, definition.IsRecord) ∧
      (decodeIndex (encodeIndex (.ofDefinitions reopenedScope []))).definitions =
        (ScopeIndex.ofDefinitions reopenedScope []).definitions := by
  have once : (reopenedScope.map fun definition =>
      (definition.scope, definition.name)).Nodup := by decide
  have plain : ∀ definition ∈ reopenedScope, definition.IsRecord := by decide
  exact ⟨once, plain, ((decodeIndex_encodeIndex_iff once).1.2 plain).2⟩

end AnnotatedMake
