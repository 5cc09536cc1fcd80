import AnnotatedMake.Proofs.Candidate
import AnnotatedMake.Proofs.ScopeIndex.Consistency

namespace AnnotatedMake

section Grouping

variable {ι α : Type}

/-- No item stands between two of another key. -/
def StandTogether (key : ι → α) (items : List ι) : Prop :=
  ∀ first middle last, [first, middle, last].Sublist items → key first = key last →
    key middle = key first

theorem StandTogether.append {key : ι → α} {front back : List ι}
    (inFront : StandTogether key front) (inBack : StandTogether key back)
    (apart : ∀ item ∈ front, ∀ other ∈ back, key item ≠ key other) :
    StandTogether key (front ++ back) := by
  intro first middle last among same
  obtain ⟨ahead, behind, cut, inAhead, inBehind⟩ := List.sublist_append_iff.1 among
  rcases ahead with _ | ⟨head, ahead⟩
  · rw [List.nil_append] at cut
    exact inBack first middle last (cut ▸ inBehind) same
  rcases List.eq_nil_or_concat behind with rfl | ⟨init, final, rfl⟩
  · rw [List.append_nil] at cut
    exact inFront first middle last (cut ▸ inAhead) same
  · have isHead : first = head := (List.cons.inj cut).1
    have isFinal : last = final := by
      have ends := congrArg List.getLast? cut
      rw [List.concat_eq_append, ← List.append_assoc, List.getLast?_concat] at ends
      exact Option.some.inj ends
    have headIn : head ∈ front := inAhead.subset List.mem_cons_self
    have finalIn : final ∈ back := inBehind.subset (by simp)
    exact absurd (isHead ▸ isFinal ▸ same) (apart head headIn final finalIn)

theorem standTogether_of_forall {key : ι → α} {items : List ι} {name : α}
    (own : ∀ item ∈ items, key item = name) : StandTogether key items := by
  intro first middle last among _
  have inItems := among.subset
  rw [own middle (inItems (by simp)), own first (inItems (by simp))]

variable [DecidableEq α]

/-- Items with one key behind the first of them, otherwise in their order. -/
def groupedBy (key : ι → α) (items : List ι) : List ι :=
  (distinct (items.map key)).flatMap fun name => items.filter fun item => key item = name

theorem groups_induction (key : ι → α) {motive : List ι → Prop} (nil : motive [])
    (cons : ∀ first rest, motive (rest.filter fun item => key item ≠ key first) →
      motive (first :: rest)) (items : List ι) : motive items := by
  induction size : items.length using Nat.strongRecOn generalizing items with
  | ind count ih =>
      cases items with
      | nil => exact nil
      | cons first rest =>
          have shorter : (rest.filter fun item => key item ≠ key first).length < count :=
            size ▸ Nat.lt_succ_of_le (List.length_filter_le ..)
          exact cons first rest (ih _ shorter _ rfl)

/-- The items with the key of the first one come first. -/
theorem groupedBy_cons (key : ι → α) (first : ι) (rest : List ι) :
    groupedBy key (first :: rest) =
      (first :: rest.filter fun item => key item = key first) ++
        groupedBy key (rest.filter fun item => key item ≠ key first) := by
  have others : (distinct (rest.map key)).filter (fun name => name ≠ key first) =
      distinct ((rest.filter fun item => key item ≠ key first).map key) := by
    rw [← distinct_filter, List.filter_map]
    rfl
  rw [groupedBy, List.map_cons, distinct, List.flatMap_cons, others, groupedBy]
  congr 1
  · simp
  · apply List.flatMap_congr
    intro name member
    obtain ⟨item, inRest, rfl⟩ := List.mem_map.1 (mem_distinct.1 member)
    have differs : key item ≠ key first := by simpa using (List.mem_filter.1 inRest).2
    rw [List.filter_cons_of_neg (by simpa using Ne.symm differs), List.filter_filter]
    apply List.filter_congr
    intro other _
    by_cases same : key other = key item <;> simp [same, differs]

theorem groupedBy_perm (key : ι → α) (items : List ι) : (groupedBy key items).Perm items := by
  induction items using groups_induction key with
  | nil => exact .nil
  | cons first rest ih =>
      have parts := List.filter_append_perm (fun item => decide (key item = key first)) rest
      rw [groupedBy_cons]
      refine .cons first ((ih.append_left _).trans ?_)
      simpa using parts

theorem standTogether_groupedBy (key : ι → α) (items : List ι) :
    StandTogether key (groupedBy key items) := by
  induction items using groups_induction key with
  | nil => intro first middle last among; cases among
  | cons first rest ih =>
      have own : ∀ item ∈ first :: rest.filter fun item => key item = key first,
          key item = key first := by simp
      rw [groupedBy_cons]
      refine (standTogether_of_forall own).append ih fun item member other inOthers => ?_
      have isOther := (groupedBy_perm key _).mem_iff.1 inOthers
      have differs : key other ≠ key first := by simpa using (List.mem_filter.1 isOther).2
      exact own item member ▸ differs.symm

/-- When items stand together, those with the key of the first one come before all others. -/
theorem StandTogether.cut {key : ι → α} {first : ι} {rest : List ι}
    (together : StandTogether key (first :: rest)) :
    (rest.filter fun item => key item = key first) ++
      (rest.filter fun item => key item ≠ key first) = rest := by
  induction rest with
  | nil => rfl
  | cons next rest ih =>
      by_cases same : key next = key first
      · have later := ih fun one two three among =>
          together one two three (among.trans (.cons_cons first (List.sublist_cons_self next rest)))
        simpa [same] using later
      · have noMore : ∀ item ∈ rest, key item ≠ key first := by
          intro item member again
          have among : [first, next, item].Sublist (first :: next :: rest) :=
            .cons_cons first (.cons_cons next (List.singleton_sublist.2 member))
          exact same (together first next item among again.symm)
        have none : (rest.filter fun item => key item = key first) = [] := by
          simpa using noMore
        have all : (rest.filter fun item => key item ≠ key first) = rest := by
          simpa using noMore
        rw [List.filter_cons_of_neg (by simpa using same), none,
          List.filter_cons_of_pos (by simpa using same), all, List.nil_append]

/-- Grouping leaves a list just when its groups stand together already. -/
theorem groupedBy_eq_self_iff {key : ι → α} {items : List ι} :
    groupedBy key items = items ↔ StandTogether key items := by
  refine ⟨fun same => same ▸ standTogether_groupedBy key items, fun together => ?_⟩
  induction items using groups_induction key with
  | nil => rfl
  | cons first rest ih =>
      have others := ih fun one two three among =>
        together one two three (among.trans (List.filter_sublist.cons first))
      rw [groupedBy_cons, others, List.cons_append, together.cut]

end Grouping

namespace ScopeIndex

theorem getD_gather_place (own : List Definition) :
    (OrderedMap.gather place own).getD .empty =
      .collect Definition.name (fun definition _ => definition.toParameter) own := by
  induction own using List.reverseRec with
  | nil => rfl
  | append_singleton own last ih =>
      rw [OrderedMap.gather_concat, Option.getD_some, place, ih, OrderedMap.collect_concat]
      rfl

/-- Definitions of different names in one scope stand in their order. -/
theorem definitionsIn_gather_place {scope : String} {own : List Definition}
    (inScope : ∀ definition ∈ own, definition.scope = scope)
    (once : (own.map fun definition => (definition.scope, definition.name)).Nodup) :
    definitionsIn scope ((OrderedMap.gather place own).getD .empty) = own := by
  have names : (own.map Definition.name).Nodup := by
    have keys : (own.map fun definition => (definition.scope, definition.name)) =
        (own.map Definition.name).map (Prod.mk scope) := by
      rw [List.map_map]
      exact List.map_congr_left fun definition member =>
        congrArg (·, definition.name) (inScope definition member)
    exact List.Nodup.of_map _ (keys ▸ once)
  rw [getD_gather_place, definitionsIn, OrderedMap.entries_collect_of_nodup _ _ names,
    List.map_map]
  refine (List.map_congr_left fun definition member => ?_).trans (List.map_id own)
  rw [Function.comp_apply, ← inScope definition member]
  rfl

/-- An index lists each of its scopes at the place of its first definition. -/
theorem definitions_ofDefinitions {definitions : List Definition}
    (once : (definitions.map fun definition => (definition.scope, definition.name)).Nodup)
    (targets : List String) :
    (ofDefinitions definitions targets).definitions = groupedBy Definition.scope definitions := by
  have held : ∀ scope ∈ (OrderedMap.collect Definition.scope place definitions).keys,
      (OrderedMap.collect Definition.scope place definitions).get? scope =
        some ((OrderedMap.gather place
          (definitions.filter fun definition => definition.scope = scope)).getD .empty) := by
    intro scope listed
    obtain ⟨⟨_, parameters⟩, present, rfl⟩ := List.mem_map.1 listed
    have found := OrderedMap.get?_eq_some_iff.2 present
    rw [← OrderedMap.get?_collect, found, Option.getD_some]
  rw [ScopeIndex.definitions, ofDefinitions_eq_collect, OrderedMap.entries_eq_map held,
    OrderedMap.keys_collect, List.flatMap_map, groupedBy]
  apply List.flatMap_congr
  intro scope _
  have inScope : ∀ definition ∈ definitions.filter fun definition => definition.scope = scope,
      definition.scope = scope := by simp
  exact definitionsIn_gather_place inScope (once.sublist (List.filter_sublist.map _))

/-- Every scope and name has one definition. -/
theorem nodup_keys_definitionsOf (marker : String) (lines : List String) :
    ((definitionsOf marker lines).map fun definition =>
      (definition.scope, definition.name)).Nodup := by
  have keys := Declared.keys_definitions (Declared.ofLines marker lines)
  rw [definitionsOf, Declared.ofLines_eq_collect]
  exact keys ▸ distinct_nodup _

end ScopeIndex

/-- The index lists scope by scope what the lines declare. -/
theorem definitions_ofLines (marker : String) (lines : List String) :
    let declared := definitionsOf marker lines
    let listed := (ScopeIndex.ofLines marker lines).definitions
    listed = groupedBy Definition.scope declared ∧ listed.Perm declared ∧
      (listed = declared ↔ StandTogether Definition.scope declared) := by
  intro declared listed
  have grouped : listed = groupedBy Definition.scope declared :=
    ScopeIndex.definitions_ofDefinitions (ScopeIndex.nodup_keys_definitionsOf marker lines) []
  exact ⟨grouped, grouped ▸ groupedBy_perm _ declared, grouped ▸ groupedBy_eq_self_iff⟩

/-- The section of `a` is opened again behind that of `b`. -/
example :
    let lines := ["## TARGET a", "## PARAM x: 1", "## TARGET b", "## PARAM y: 2", "## TARGET a",
      "## PARAM z: 3"]
    (definitionsOf "##" lines).map Definition.name = ["x", "y", "z"] ∧
      (ScopeIndex.ofLines "##" lines).definitions.map Definition.name = ["x", "z", "y"] := by
  decide

end AnnotatedMake
