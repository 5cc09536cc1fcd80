import AnnotatedMake.Proofs.Declaration.Isolation

namespace AnnotatedMake

section Distinct

variable {α : Type} [DecidableEq α]

theorem eraseDups_eq_distinct [BEq α] [LawfulBEq α] (list : List α) :
    list.eraseDups = distinct list := by
  induction list using List.reverseRec with
  | nil => rfl
  | append_singleton list last ih =>
      rw [List.eraseDups_append, ih, distinct_concat, List.removeAll]
      by_cases member : last ∈ list <;> simp [member, List.eraseDups_cons]

end Distinct

namespace ScopeIndex

/-- Definitions of one scope that is not there yet are added as they stand. -/
theorem definitions_foldl_define {index : ScopeIndex} {block : List Definition} {scope : String}
    (own : ∀ definition ∈ block, definition.scope = scope)
    (once : (block.map Definition.name).Nodup) (absent : index.scopes.get? scope = none) :
    (block.foldl define index).definitions = index.definitions ++ block := by
  by_cases none : block = []
  · rw [none, List.foldl_nil, List.append_nil]
  · let parameters : OrderedMap String Parameter :=
      .collect Definition.name (fun definition _ => definition.toParameter) block
    have entries : parameters.entries = block.map fun definition =>
        (definition.name, definition.toParameter) :=
      OrderedMap.entries_collect_of_nodup _ _ once
    have whole : definitionsIn scope parameters = block := by
      rw [definitionsIn, entries, List.map_map]
      refine (List.map_congr_left ?_).trans (List.map_id block)
      intro definition member
      rw [Function.comp_apply, ← own definition member]
      rfl
    have some' : parameters.entries ≠ [] := by
      rw [entries]
      exact fun empty => none (List.map_eq_nil_iff.1 empty)
    have added := entries_foldl_define absent some'
    rw [whole] at added
    rw [definitions, added, List.flatMap_append, List.flatMap_singleton, whole]
    rfl

theorem absent_ofDefinitions {definitions : List Definition} {scope : String}
    (others : ∀ definition ∈ definitions, definition.scope ≠ scope) (targets : List String) :
    (ofDefinitions definitions targets).scopes.get? scope = none := by
  rw [ofDefinitions_eq_collect, OrderedMap.get?_eq_none_iff, OrderedMap.keys_collect, mem_distinct]
  intro member
  obtain ⟨definition, present, same⟩ := List.mem_map.1 member
  exact others definition present same

/-- Definitions that stand scope by scope, in two scopes, are found again in their order. -/
theorem definitions_ofDefinitions_append {first second : List Definition} (scope other : String)
    (inFirst : ∀ definition ∈ first, definition.scope = scope)
    (inSecond : ∀ definition ∈ second, definition.scope = other ∧ other ≠ scope)
    (once : ((first ++ second).map fun definition => (definition.scope, definition.name)).Nodup)
    (targets : List String) :
    (ofDefinitions (first ++ second) targets).definitions = first ++ second := by
  have names {block : List Definition} {own : String}
      (onceIn : (block.map fun definition => (definition.scope, definition.name)).Nodup)
      (inBlock : ∀ definition ∈ block, definition.scope = own) :
      (block.map Definition.name).Nodup := by
    refine List.Nodup.of_map (fun name => (own, name)) ?_
    rw [List.map_map]
    refine (congrArg List.Nodup (List.map_congr_left ?_)).mp onceIn
    intro definition member
    rw [Function.comp_apply, inBlock definition member]
  rw [List.map_append] at once
  have onceFirst := names (List.nodup_append.1 once).1 inFirst
  have onceSecond := names (List.nodup_append.1 once).2.1 fun definition member =>
    (inSecond definition member).1
  have before : (first.foldl define { targets }).definitions = first :=
    definitions_foldl_define inFirst onceFirst rfl
  rw [ofDefinitions, List.foldl_append]
  cases second with
  | nil => rw [List.foldl_nil, before, List.append_nil]
  | cons definition rest =>
      have differs := (inSecond definition List.mem_cons_self).2
      have absent : (first.foldl define { targets }).scopes.get? other = none :=
        absent_ofDefinitions (fun held member => inFirst held member ▸ differs.symm) targets
      rw [definitions_foldl_define (fun held member => (inSecond held member).1) onceSecond absent,
        before]

end ScopeIndex

namespace Declared

theorem definitions_eq_merged (all : List Declared) :
    Declarations.definitions ⟨none, .collect key amend all⟩ =
      (distinct (all.map key)).map (merged all) := by
  rw [Declarations.definitions, entries_collect_amend, List.map_map]
  rfl

theorem keys_definitions (all : List Declared) :
    (Declarations.definitions ⟨none, .collect key amend all⟩).map
      (fun definition => (definition.scope, definition.name)) = distinct (all.map key) := by
  rw [definitions_eq_merged, List.map_map]
  exact List.map_id _

/-- Declarations in two scopes, one behind the other, define one scope behind the other. -/
theorem definitions_ofDeclared_append {first second : List Declared} (scope other : String)
    (inFirst : ∀ declared ∈ first, declared.scope = scope)
    (inSecond : ∀ declared ∈ second, declared.scope = other ∧ other ≠ scope) :
    (ScopeIndex.ofDeclared (first ++ second)).definitions =
      Declarations.definitions ⟨none, .collect key amend (first ++ second)⟩ := by
  have once := keys_definitions (first ++ second)
  rw [ScopeIndex.ofDeclared]
  rw [definitions_eq_merged, List.map_append, distinct_append, List.map_append] at once ⊢
  apply ScopeIndex.definitions_ofDefinitions_append scope other
  · intro definition member
    obtain ⟨_, present, rfl⟩ := List.mem_map.1 member
    obtain ⟨declared, inBlock, rfl⟩ := List.mem_map.1 (mem_distinct.1 present)
    exact inFirst declared inBlock
  · intro definition member
    obtain ⟨_, present, rfl⟩ := List.mem_map.1 member
    obtain ⟨declared, inBlock, rfl⟩ :=
      List.mem_map.1 (mem_distinct.1 (List.mem_filter.1 present).1)
    exact inSecond declared inBlock
  · rw [once, ← distinct_append]
    exact distinct_nodup _

end Declared

namespace ScopeIndex

/-- What is visible to a target are its definitions in the order of first declaration. -/
theorem visibleTo_ofLines (marker : String) (lines : List String) (target : Option String) :
    (ofLines marker lines).visibleTo target =
      (definitionsOf marker lines).filter fun definition => isOpenTo target definition.scope := by
  have cut : (Declared.ofLines marker lines).filter (Declared.isOpenTo target) =
      (Declared.ofLinesFrom marker (some globalScope) (opening marker lines)).filter
          (Declared.isOpenTo target) ++
        ((sectionsOf marker lines).flatMap (Declared.ofSection marker)).filter
          (Declared.isOpenTo target) := by
    rw [Declared.ofLines_eq_ofLinesFrom, Declared.ofLinesFrom_eq, List.filter_append]
  have defined : (definitionsOf marker lines).filter
      (fun definition => isOpenTo target definition.scope) =
        Declarations.definitions ⟨none, .collect Declared.key Declared.amend
          ((Declared.ofLines marker lines).filter (Declared.isOpenTo target))⟩ := by
    rw [definitionsOf, Declared.ofLines_eq_collect, ← Declared.filter_definitions]
    rfl
  rw [ofLines_eq_ofDeclared, visibleTo_ofDeclared, defined, cut]
  apply Declared.definitions_ofDeclared_append globalScope (target.getD "")
  · intro declared member
    have declares := (List.mem_filter.1 member).1
    exact (Option.some.inj (Declared.scope_of_mem_opening declares)).symm
  · intro declared member
    obtain ⟨inSections, isOpen⟩ := List.mem_filter.1 member
    obtain ⟨part, isPart, declares⟩ := List.mem_flatMap.1 inSections
    obtain ⟨_, notGlobal, _⟩ :=
      Declared.eq_of_sectionOf (Declared.scope_of_mem_ofSection isPart declares)
    rw [Declared.isOpenTo, isOpenTo, decide_eq_false notGlobal, Bool.false_or, Bool.and_eq_true,
      decide_eq_true_eq] at isOpen
    rw [of_decide_eq_true isOpen.2]
    exact ⟨rfl, notGlobal⟩

end ScopeIndex

section Narrowing

theorem startsText_iff {lead text : String} :
    startsText lead text = true ↔ lead.toList <+: text.toList := by
  rw [startsText, Text.beginsWith, Option.isSome_iff_exists]
  constructor
  · rintro ⟨rest, found⟩
    exact ⟨rest, (Text.after?_eq_some_iff.1 found).symm⟩
  · rintro ⟨rest, whole⟩
    exact ⟨rest, Text.after?_eq_some_iff.2 whole.symm⟩

theorem startsText_append {lead more text : String}
    (starts : startsText (lead ++ more) text = true) : startsText lead text = true := by
  rw [startsText_iff, String.toList_append] at starts
  exact startsText_iff.2 ((List.prefix_append _ _).trans starts)

/-- Typing on keeps the candidates that begin with the longer word, in their order. -/
theorem ScopeIndex.candidates_append (index : ScopeIndex) (target : Option String)
    (word more : String) (position : Position) :
    index.candidates target (word ++ more) position =
      (index.candidates target word position).filter (startsText (word ++ more)) := by
  simp only [candidates]
  rw [← distinct_filter, List.filter_filter]
  congr 1
  apply List.filter_congr
  intro candidate _
  cases starts : startsText (word ++ more) candidate with
  | false => rfl
  | true => rw [startsText_append starts, Bool.and_self]

end Narrowing

/-- A target is offered each candidate open to it once, in the order of declaration. -/
theorem candidates_ofLines_eq_eraseDups (marker : String) (lines : List String)
    (target : Option String) (word : String) :
    let open' := (definitionsOf marker lines).filter fun definition =>
      definition.scope = globalScope ∨ definition.scope ≠ "" ∧ target = some definition.scope
    let written := open'.flatMap fun definition =>
      definition.values.map fun value => definition.name ++ "=" ++ value
    let offered := (ScopeIndex.ofLines marker lines).candidates target word .parameter
    (definitionsOf marker lines).map (fun definition => (definition.scope, definition.name)) =
        ((Declared.ofLines marker lines).map Declared.key).eraseDups ∧
      offered = (written.filter fun candidate =>
        word.toList.isPrefixOf candidate.toList).eraseDups ∧
      offered.Nodup ∧
      ∀ candidate, candidate ∈ offered ↔
        word.toList <+: candidate.toList ∧ ∃ definition ∈ definitionsOf marker lines,
          (definition.scope = globalScope ∨
            definition.scope ≠ "" ∧ target = some definition.scope) ∧
          ∃ value ∈ definition.values, definition.name ++ "=" ++ value = candidate := by
  intro open' written offered
  have visible : (ScopeIndex.ofLines marker lines).visibleTo target = open' := by
    rw [ScopeIndex.visibleTo_ofLines]
    apply List.filter_congr
    intro definition _
    have nonempty : target ≠ some "" ∧ target = some definition.scope ↔
        definition.scope ≠ "" ∧ target = some definition.scope := by
      constructor
      · rintro ⟨differs, rfl⟩
        exact ⟨fun empty => differs (congrArg some empty), rfl⟩
      · rintro ⟨differs, rfl⟩
        exact ⟨fun empty => differs (Option.some.inj empty), rfl⟩
    simp only [ScopeIndex.isOpenTo, ← Bool.decide_and, ← Bool.decide_or, nonempty]
  have starts (candidate : String) :
      startsText word candidate = word.toList.isPrefixOf candidate.toList := by
    rw [Bool.eq_iff_iff, startsText_iff, List.isPrefixOf_iff_prefix]
  have all : offered = distinct (written.filter (startsText word)) := by
    simp only [offered, ScopeIndex.candidates, ScopeIndex.assignments, visible]
    rfl
  refine ⟨?_, ?_, all ▸ distinct_nodup _, ?_⟩
  · have keys := Declared.keys_definitions (Declared.ofLines marker lines)
    rw [definitionsOf, Declared.ofLines_eq_collect, eraseDups_eq_distinct, ← keys]
    rfl
  · rw [all, eraseDups_eq_distinct, funext starts]
  · intro candidate
    rw [all, mem_distinct, List.mem_filter, startsText_iff, And.comm]
    simp [written, open', and_assoc]

end AnnotatedMake
