import AnnotatedMake.Declaration
import AnnotatedMake.Proofs.Collection
import AnnotatedMake.Proofs.Text.Cutting
import Mathlib.Data.List.Basic

namespace AnnotatedMake

/-- The keyword of an annotation, behind the marker and a blank, and the words after it. -/
def annotation? (marker line : String) : Option (String × List String) :=
  match line.toList.drop marker.toList.length with
  | blank :: text =>
    if line.toList.take marker.toList.length = marker.toList ∧ Text.isBlank blank = true then
      match wordsOf (String.ofList text) with
      | keyword :: rest => some (keyword, rest)
      | [] => none
    else none
  | [] => none

/-- The target that an annotation names. -/
def heading? (marker line : String) : Option String :=
  match annotation? marker line with
  | some ("TARGET", name :: _) => some name
  | _ => none

/-- The scope behind some lines, or none when the last named target is reserved. -/
def scopeAfter (marker : String) (earlier : List String) : Option String :=
  match (earlier.filterMap (heading? marker)).getLast? with
  | none => some globalScope
  | some name => if name = globalScope ∨ fieldSeparator ∈ name.toList then none else some name

/-- A word less one colon at its end. -/
def lessColon (word : String) : String :=
  if word.toList.getLast? = some ':' then String.ofList word.toList.dropLast else word

/-- A declaration of a name in a scope, with the words after the name. -/
structure Declared where
  scope : String
  name : String
  words : List String
deriving DecidableEq

namespace Declared

def key (declared : Declared) : String × String := (declared.scope, declared.name)

/-- The declaration on a line in a scope. -/
def ofLine? (marker : String) (scope : Option String) (line : String) : Option Declared :=
  match annotation? marker line, scope with
  | some ("PARAM", word :: words), some scope =>
    let name := lessColon word
    if name = "" ∨ fieldSeparator ∈ name.toList then none else some ⟨scope, name, words⟩
  | _, _ => none

/-- The declarations on the lines, in order, each in the scope that the lines before it leave. -/
def ofLines (marker : String) (lines : List String) : List Declared :=
  lines.zipIdx.filterMap fun (line, place) =>
    ofLine? marker (scopeAfter marker (lines.take place)) line

/-- Whether a word behind a name is a value. -/
def isValue (word : String) : Bool :=
  word ≠ "REQUIRED" && !startsText "TYPE=" word && !startsText "DEFAULT=" word &&
    !holds fieldSeparator word

/-- The parameter that words behind a name describe. -/
def parameterOf (words : List String) : Parameter where
  values := words.filter isValue
  type := (words.filterMap (restAfter? "TYPE=")).getLast?
  required := words.contains "REQUIRED"
  default := (words.filterMap (restAfter? "DEFAULT=")).getLast?

/-- The definition under a scope and name, from all of its declarations. -/
def merged (all : List Declared) (key : String × String) : Definition :=
  { parameterOf ((all.filter fun declared => declared.key = key).flatMap words) with
    scope := key.1, name := key.2 }

/-- A last line adds what it declares in its scope. -/
theorem ofLines_concat (marker : String) (lines : List String) (line : String) :
    ofLines marker (lines ++ [line]) =
      ofLines marker lines ++ (ofLine? marker (scopeAfter marker lines) line).toList := by
  rw [ofLines, List.zipIdx_append, List.filterMap_append]
  congr 1
  · apply List.filterMap_congr
    intro entry member
    have inside := (List.mem_zipIdx' member).1
    dsimp only
    rw [List.take_append_of_le_length (Nat.le_of_lt inside)]
  · cases found : ofLine? marker (scopeAfter marker lines) line <;> simp [found]

end Declared

section Line

/-- What a line directs, told from its annotation. -/
theorem ofLine?_eq_annotation (marker line : String) :
    Directive.ofLine? marker line =
      (annotation? marker line).bind fun found => Directive.ofWords? (found.1 :: found.2) := by
  have cut : Text.after? marker.toList line.toList =
      if line.toList.take marker.toList.length = marker.toList then
        some (line.toList.drop marker.toList.length) else none := by
    split
    · rename_i same
      rw [Text.after?_eq_some_iff]
      exact (List.take_append_drop ..).symm.trans (congrArg (· ++ _) same)
    · rename_i differs
      rw [Option.eq_none_iff_forall_not_mem]
      intro rest found
      rw [Option.mem_def, Text.after?_eq_some_iff] at found
      exact differs (by rw [found]; simp)
  rw [Directive.ofLine?, Directive.wordsAfterMarker, annotation?, cut]
  by_cases marked : line.toList.take marker.toList.length = marker.toList
  · simp only [marked, if_true, true_and]
    cases behind : line.toList.drop marker.toList.length with
    | nil => rfl
    | cons blank text =>
        by_cases isBlank : Text.isBlank blank
        · simp only [isBlank, if_true, wordsOf, String.toList_ofList]
          cases (Text.words text).map String.ofList <;> rfl
        · simp [isBlank, Directive.ofWords?]
  · simp only [marked, if_false, false_and]
    cases line.toList.drop marker.toList.length <;> rfl

/-- A name opens a section unless it is reserved or holds the separator. -/
theorem sectionOf_eq (name : String) :
    sectionOf name =
      if name = globalScope ∨ fieldSeparator ∈ name.toList then none else some name := by
  simp only [sectionOf, holds, Bool.or_eq_true, List.elem_eq_mem, decide_eq_true_eq, or_comm]

/-- A last heading changes the scope. -/
theorem scopeAfter_concat (marker : String) (lines : List String) (line : String) :
    scopeAfter marker (lines ++ [line]) =
      match heading? marker line with
      | some name => sectionOf name
      | none => scopeAfter marker lines := by
  rw [scopeAfter, List.filterMap_append]
  cases found : heading? marker line with
  | none => simp [found, scopeAfter]
  | some name => simp [found, sectionOf_eq]

/-- A text before a colon is the text without it. -/
theorem before?_colon (text : List Char) :
    Text.before? [':'] text = if text.getLast? = some ':' then some text.dropLast else none := by
  rcases List.eq_nil_or_concat text with rfl | ⟨front, last, rfl⟩
  · rfl
  · by_cases colon : last = ':'
    · simp [Text.before?, Text.after?, colon]
    · simp [Text.before?, Text.after?, colon, Ne.symm colon]

/-- A word names a parameter unless it is empty or holds the separator. -/
theorem parameterName?_eq (word : String) :
    parameterName? word =
      if lessColon word = "" ∨ fieldSeparator ∈ (lessColon word).toList then none
      else some (lessColon word) := by
  have name : String.ofList ((Text.before? [':'] word.toList).getD word.toList) =
      lessColon word := by
    rw [before?_colon, lessColon]
    split <;> simp
  simp only [parameterName?, name, holds, Bool.or_eq_true, List.elem_eq_mem, decide_eq_true_eq]

end Line

namespace Declared

/-- What a declaration makes of the parameter that earlier ones left. -/
def amend (declared : Declared) (held : Option Parameter) : Parameter :=
  (declared.words.map Modifier.ofWord).foldl Parameter.amend (held.getD {})

/-- One more line changes what was read by the declaration on it, and by the target it names. -/
theorem followLine_eq (marker : String) (lines : List String) (line : String)
    (table : OrderedMap (String × String) Parameter) :
    Declarations.followLine marker ⟨scopeAfter marker lines, table⟩ line =
      ⟨scopeAfter marker (lines ++ [line]),
        (ofLine? marker (scopeAfter marker lines) line).elim table fun declared =>
          table.update declared.key declared.amend⟩ := by
  rw [Declarations.followLine, ofLine?_eq_annotation, scopeAfter_concat, heading?]
  unfold ofLine?
  generalize scopeAfter marker lines = current
  generalize annotation? marker line = annotated
  cases annotated with
  | none => rfl
  | some found =>
      obtain ⟨keyword, rest⟩ := found
      by_cases isTarget : keyword = "TARGET"
      · subst isTarget
        cases rest <;> simp [Directive.ofWords?, Declarations.follow]
      · by_cases isParameter : keyword = "PARAM"
        · subst isParameter
          cases rest with
          | nil => simp [Directive.ofWords?, Declarations.follow]
          | cons word words =>
              cases current with
              | none => simp [Directive.ofWords?, Declarations.follow]
              | some scope =>
                  simp only [Option.bind_some, Directive.ofWords?, Declarations.follow,
                    parameterName?_eq]
                  by_cases unfit : lessColon word = "" ∨ fieldSeparator ∈ (lessColon word).toList
                  · simp [unfit]
                  · simp [unfit, Declarations.declare, key]
                    rfl
        · simp [Directive.ofWords?, isTarget, isParameter]

/-- What was read behind some lines is the scope they leave and the declarations on them. -/
theorem ofLines_eq_collect (marker : String) (lines : List String) :
    Declarations.ofLines marker lines =
      ⟨scopeAfter marker lines, .collect key amend (ofLines marker lines)⟩ := by
  induction lines using List.reverseRec with
  | nil => rfl
  | append_singleton lines line ih =>
      rw [Declarations.ofLines] at ih ⊢
      rw [List.foldl_concat, ih, followLine_eq, ofLines_concat]
      cases ofLine? marker (scopeAfter marker lines) line with
      | none => simp
      | some declared => simp [OrderedMap.collect_concat]

/-- A word starts with a lead when something is left behind it. -/
theorem startsText_eq (lead word : String) :
    startsText lead word = (restAfter? lead word).isSome := by
  simp [startsText, Text.beginsWith, restAfter?]

/-- A type is no default. -/
theorem not_default_of_type {word text : String} (found : restAfter? "TYPE=" word = some text) :
    restAfter? "DEFAULT=" word = none := by
  obtain ⟨rest, after, _⟩ := Option.map_eq_some_iff.1 found
  rw [Text.after?_eq_some_iff] at after
  simp [restAfter?, after, Text.after?]

/-- A word is of one kind only, and changes that part of a parameter. -/
theorem amend_ofWord (held : Parameter) (word : String) :
    held.amend (Modifier.ofWord word) =
      { values := held.values ++ [word].filter isValue
        type := (restAfter? "TYPE=" word).or held.type
        required := held.required || decide ("REQUIRED" = word)
        default := (restAfter? "DEFAULT=" word).or held.default } := by
  by_cases isRequired : "REQUIRED" = word
  · subst isRequired
    have noType : restAfter? "TYPE=" "REQUIRED" = none := by decide
    have noDefault : restAfter? "DEFAULT=" "REQUIRED" = none := by decide
    simp [Modifier.ofWord, Parameter.amend, isValue, noType, noDefault]
  · have differs := Ne.symm isRequired
    cases isType : restAfter? "TYPE=" word with
    | some text =>
        have noDefault := not_default_of_type isType
        simp [Modifier.ofWord, Parameter.amend, isValue, isRequired, startsText_eq, isType,
          noDefault]
    | none =>
        cases isDefault : restAfter? "DEFAULT=" word with
        | some text =>
            simp [Modifier.ofWord, Parameter.amend, isValue, isRequired, differs, startsText_eq,
              isType, isDefault]
        | none =>
            cases separated : holds fieldSeparator word <;>
              simp [Modifier.ofWord, Parameter.amend, isValue, isRequired, differs, startsText_eq,
                isType, isDefault, separated]

/-- Modifiers amended in turn make the parameter of the words. -/
theorem foldl_amend (words : List String) :
    (words.map Modifier.ofWord).foldl Parameter.amend {} = parameterOf words := by
  induction words using List.reverseRec with
  | nil => rfl
  | append_singleton words word ih =>
      rw [List.map_append, List.foldl_append, ih, List.map_singleton, List.foldl_cons,
        List.foldl_nil, amend_ofWord]
      cases isType : restAfter? "TYPE=" word <;> cases isDefault : restAfter? "DEFAULT=" word <;>
        simp [parameterOf, isType, isDefault]

/-- Declarations of one key add up to the parameter that all their words describe. -/
theorem gather_amend {all : List Declared} (some' : all ≠ []) :
    OrderedMap.gather amend all = some (parameterOf (all.flatMap words)) := by
  induction all using List.reverseRec with
  | nil => exact absurd rfl some'
  | append_singleton all declared ih =>
      rw [OrderedMap.gather_concat, List.flatMap_append, ← foldl_amend, List.map_append,
        List.foldl_append]
      by_cases first : all = []
      · subst first
        simp [amend, OrderedMap.gather]
      · rw [ih first, amend, Option.getD_some, ← foldl_amend]
        simp

/-- Each name is collected with the words of all its declarations. -/
theorem entries_collect_amend (all : List Declared) :
    (OrderedMap.collect key amend all).entries =
      (distinct (all.map key)).map fun name =>
        (name, parameterOf ((all.filter fun declared => declared.key = name).flatMap words)) := by
  rw [← OrderedMap.keys_collect key amend]
  apply OrderedMap.entries_eq_map
  intro name member
  rw [OrderedMap.keys_collect, mem_distinct] at member
  obtain ⟨declared, present, same⟩ := List.mem_map.1 member
  rw [OrderedMap.get?_collect, gather_amend]
  exact List.ne_nil_of_mem (List.mem_filter.2 ⟨present, by simpa using same⟩)

end Declared

/-- The lines have one definition for each scope and name, merged from all declarations. -/
theorem definitionsOf_eq_merged (marker : String) (lines : List String) :
    definitionsOf marker lines =
      (distinct ((Declared.ofLines marker lines).map Declared.key)).map
        (Declared.merged (Declared.ofLines marker lines)) := by
  rw [definitionsOf, Declarations.definitions, Declared.ofLines_eq_collect,
    Declared.entries_collect_amend, List.map_map]
  rfl

end AnnotatedMake
