import AnnotatedMake.Proofs.Declaration.Meaning
import Mathlib.Logic.Relation

namespace AnnotatedMake

/-- A line that is passed over: it is no annotation, or one that names nothing usable. -/
inductive IsIdle (marker : String) : String → Prop
  | unmarked {line : String} (differs : ¬ marker.toList <+: line.toList) : IsIdle marker line
  | unspaced {text : String} (dark : ∀ c ∈ text.toList.head?, Text.isBlank c = false) :
      IsIdle marker (marker ++ text)
  | wordless {text : String} (cut : wordsOf text = []) : IsIdle marker (marker ++ text)
  | foreign {text keyword : String} {rest : List String} (cut : wordsOf text = keyword :: rest)
      (noTarget : keyword ≠ "TARGET") (noParameter : keyword ≠ "PARAM") :
      IsIdle marker (marker ++ text)
  | namelessTarget {text : String} (cut : wordsOf text = ["TARGET"]) :
      IsIdle marker (marker ++ text)
  | namelessParameter {text : String} (cut : wordsOf text = ["PARAM"]) :
      IsIdle marker (marker ++ text)
  | colon {text : String} {rest : List String} (cut : wordsOf text = "PARAM" :: ":" :: rest) :
      IsIdle marker (marker ++ text)
  | separated {text name : String} {rest : List String}
      (cut : wordsOf text = "PARAM" :: name :: rest) (inside : fieldSeparator ∈ name.toList) :
      IsIdle marker (marker ++ text)

/-- One change of the lines of a Makefile. -/
inductive Edit (marker : String) : List String → List String → Prop
  | pad (front back : List String) (line blanks : String)
      (allBlank : ∀ c ∈ blanks.toList, Text.isBlank c = true) :
      Edit marker (front ++ line :: back) (front ++ (line ++ blanks) :: back)
  | insert (front back : List String) (line : String) (idle : IsIdle marker line) :
      Edit marker (front ++ back) (front ++ line :: back)
  | delete (front back : List String) (line : String) (idle : IsIdle marker line) :
      Edit marker (front ++ line :: back) (front ++ back)
  | respace (front back : List String) (before held given behind : String)
      (someHeld : held ≠ "") (heldBlank : ∀ c ∈ held.toList, Text.isBlank c = true)
      (someGiven : given ≠ "") (givenBlank : ∀ c ∈ given.toList, Text.isBlank c = true) :
      Edit marker (front ++ (marker ++ before ++ held ++ behind) :: back)
        (front ++ (marker ++ before ++ given ++ behind) :: back)

theorem exists_append_of_prefix {lead text : String} (begins : lead.toList <+: text.toList) :
    ∃ rest, text = lead ++ rest := by
  obtain ⟨rest, whole⟩ := begins
  exact ⟨String.ofList rest, by rw [← String.toList_inj, ← whole]; simp⟩

namespace Directive

/-- Behind a marker there are words when a blank comes first. -/
theorem wordsAfterMarker_append (marker text : String) :
    wordsAfterMarker marker (marker ++ text) =
      if text.toList.head?.any Text.isBlank then wordsOf text else [] := by
  have found : Text.after? marker.toList (marker ++ text).toList = some text.toList :=
    Text.after?_eq_some_iff.2 (by simp)
  rw [wordsAfterMarker, found, wordsOf]
  cases text.toList with
  | nil => rfl
  | cons c rest =>
      by_cases isBlank : Text.isBlank c
      · have apart : Text.words (c :: rest) = Text.words rest :=
          Text.words_append_blank isBlank [] rest
        simp [isBlank, apart]
      · simp [isBlank]

theorem wordsAfterMarker_of_unmarked {marker line : String}
    (differs : ¬ marker.toList <+: line.toList) : wordsAfterMarker marker line = [] := by
  have missing : Text.after? marker.toList line.toList = none := by
    rw [Option.eq_none_iff_forall_not_mem]
    intro rest found
    exact differs ⟨rest, (Text.after?_eq_some_iff.1 found).symm⟩
  rw [wordsAfterMarker, missing]

/-- Text that only blanks make up has no words, also where the marker reaches into it. -/
theorem wordsAfterMarker_pad (marker line : String) {blanks : String}
    (allBlank : ∀ c ∈ blanks.toList, Text.isBlank c = true) :
    wordsAfterMarker marker (line ++ blanks) = wordsAfterMarker marker line := by
  by_cases marked : marker.toList <+: line.toList
  · obtain ⟨text, rfl⟩ := exists_append_of_prefix marked
    rw [String.append_assoc, wordsAfterMarker_append, wordsAfterMarker_append, wordsOf, wordsOf,
      String.toList_append, Text.words_append_blanks allBlank]
    cases text.toList with
    | nil => simp [Text.words]
    | cons c rest => rfl
  · rw [wordsAfterMarker_of_unmarked marked]
    by_cases reaches : marker.toList <+: (line ++ blanks).toList
    · obtain ⟨text, whole⟩ := exists_append_of_prefix reaches
      have inBlanks : ∀ c ∈ text.toList, Text.isBlank c = true := by
        rw [← String.toList_inj, String.toList_append, String.toList_append,
          List.append_eq_append_iff] at whole
        rcases whole with ⟨between, -, isBlanks⟩ | ⟨between, isLine, -⟩
        · intro c inside
          exact allBlank c (isBlanks ▸ List.mem_append_right _ inside)
        · exact absurd ⟨between, isLine.symm⟩ marked
      rw [whole, wordsAfterMarker_append, wordsOf, Text.words_eq_nil_of_blank inBlanks]
      simp
    · exact wordsAfterMarker_of_unmarked reaches

/-- A run of blanks behind a marker counts as one blank. -/
theorem wordsAfterMarker_run (marker before behind : String) {run : String} (someRun : run ≠ "")
    (allBlank : ∀ c ∈ run.toList, Text.isBlank c = true) :
    wordsAfterMarker marker (marker ++ before ++ run ++ behind) =
      if before.toList.head?.all Text.isBlank then wordsOf before ++ wordsOf behind else [] := by
  have nonempty : run.toList ≠ [] := fun empty => someRun (String.toList_eq_nil_iff.1 empty)
  rw [String.append_assoc, String.append_assoc, wordsAfterMarker_append, wordsOf, wordsOf,
    wordsOf, String.toList_append, String.toList_append, Text.words_append_run nonempty allBlank,
    List.map_append]
  cases before.toList with
  | nil =>
      obtain ⟨c, rest, cut⟩ := List.exists_cons_of_ne_nil nonempty
      simp [cut, allBlank c (cut ▸ List.mem_cons_self)]
  | cons c rest => rfl

end Directive

/-- A word is no name of a parameter when it is a colon alone or holds a separator. -/
theorem parameterName?_eq_none_iff {word : String} (nonempty : word ≠ "") :
    parameterName? word = none ↔ word = ":" ∨ fieldSeparator ∈ word.toList := by
  have unfit : parameterName? word = none ↔
      lessColon word = "" ∨ fieldSeparator ∈ (lessColon word).toList := by
    rw [parameterName?_eq]
    split <;> simp [*]
  rw [unfit, lessColon]
  by_cases ends : word.toList.getLast? = some ':'
  · obtain ⟨front, cut⟩ := List.getLast?_eq_some_iff.1 ends
    obtain rfl : word = String.ofList (front ++ [':']) := by rw [← cut, String.ofList_toList]
    simp [fieldSeparator]
  · have noColon : word ≠ ":" := fun same => ends (same ▸ by decide)
    simp [ends, nonempty, noColon]

namespace Declarations

theorem followLine_eq_elim (marker line : String) (read : Declarations) :
    followLine marker read line =
      (Directive.ofWords? (Directive.wordsAfterMarker marker line)).elim read read.follow := by
  rw [followLine, Directive.ofLine?]
  cases Directive.ofWords? (Directive.wordsAfterMarker marker line) <;> rfl

theorem followLine_congr {marker line other : String}
    (same : Directive.wordsAfterMarker marker line = Directive.wordsAfterMarker marker other)
    (read : Declarations) : followLine marker read line = followLine marker read other := by
  rw [followLine_eq_elim, followLine_eq_elim, same]

/-- A line with the marker is passed over when its words are. -/
theorem followLine_of_words {marker text : String} {read : Declarations}
    (passed : (Directive.ofWords? (wordsOf text)).elim read read.follow = read) :
    followLine marker read (marker ++ text) = read := by
  rw [followLine_eq_elim, Directive.wordsAfterMarker_append]
  split
  · exact passed
  · rfl

theorem follow_unnamed {word : String} (unnamed : parameterName? word = none)
    (rest : List String) (read : Declarations) :
    read.follow (.parameter (word :: rest)) = read := by
  rw [follow, unnamed]
  cases read.scope <;> rfl

/-- An idle line changes neither the section nor what was declared. -/
theorem followLine_of_isIdle {marker line : String} (idle : IsIdle marker line)
    (read : Declarations) : followLine marker read line = read := by
  cases idle with
  | unmarked differs =>
      rw [followLine_eq_elim, Directive.wordsAfterMarker_of_unmarked differs]
      rfl
  | @unspaced text dark =>
      rw [followLine_eq_elim, Directive.wordsAfterMarker_append, if_neg]
      · rfl
      · cases behind : text.toList.head? with
        | none => simp
        | some c => simp [dark c behind]
  | wordless cut | namelessTarget cut | namelessParameter cut =>
      apply followLine_of_words
      rw [cut]
      rfl
  | foreign cut noTarget noParameter =>
      apply followLine_of_words
      rw [cut, Directive.ofWords?, if_neg noTarget, if_neg noParameter]
      rfl
  | @colon text rest cut =>
      apply followLine_of_words
      rw [cut]
      exact follow_unnamed ((parameterName?_eq_none_iff (by decide)).2 (.inl rfl)) rest read
  | @separated text name rest cut inside =>
      apply followLine_of_words
      rw [cut]
      have nonempty : name ≠ "" := by
        rintro rfl
        cases inside
      exact follow_unnamed ((parameterName?_eq_none_iff nonempty).2 (.inr inside)) rest read

/-- Words that nothing is made of, whatever was read before them, are those of an idle line. -/
theorem isIdle_of_words {marker text : String}
    (stays : ∀ read : Declarations,
      (Directive.ofWords? (wordsOf text)).elim read read.follow = read) :
    IsIdle marker (marker ++ text) := by
  cases cut : wordsOf text with
  | nil => exact .wordless cut
  | cons keyword rest =>
      rw [cut] at stays
      by_cases isTarget : keyword = "TARGET"
      · subst isTarget
        cases rest with
        | nil => exact .namelessTarget cut
        | cons name others =>
            have opened : ∀ read : Declarations, sectionOf name = read.scope :=
              fun read => congrArg scope (stays read)
            exact absurd ((opened {}).symm.trans (opened { scope := none })) (by simp)
      · by_cases isParameter : keyword = "PARAM"
        · subst isParameter
          cases rest with
          | nil => exact .namelessParameter cut
          | cons word others =>
              have unnamed : parameterName? word = none := by
                cases named : parameterName? word with
                | none => rfl
                | some name =>
                    have declared := congrArg (fun read => read.table.keys) (stays {})
                    simp [Directive.ofWords?, follow, named, declare,
                      OrderedMap.keys_update] at declared
              have member : word ∈ wordsOf text := by simp [cut]
              have nonempty : word ≠ "" := by simpa using (isWord_of_mem_wordsOf member).1
              rcases (parameterName?_eq_none_iff nonempty).1 unnamed with rfl | inside
              · exact .colon cut
              · exact .separated cut inside
        · exact .foreign cut isTarget isParameter

/-- Every line that is not idle changes what some lines before it leave. -/
theorem isIdle_iff {marker line : String} :
    IsIdle marker line ↔ ∀ read, followLine marker read line = read := by
  refine ⟨followLine_of_isIdle, fun stays => ?_⟩
  by_cases marked : marker.toList <+: line.toList
  · obtain ⟨text, rfl⟩ := exists_append_of_prefix marked
    by_cases spaced : text.toList.head?.any Text.isBlank
    · apply isIdle_of_words
      intro read
      have kept := stays read
      rwa [followLine_eq_elim, Directive.wordsAfterMarker_append, if_pos spaced] at kept
    · refine .unspaced fun c first => ?_
      simpa [Option.mem_def.1 first] using spaced
  · exact .unmarked marked

/-- What is read stays when one line of many is followed alike. -/
theorem ofLines_congr {marker line other : String}
    (same : ∀ read, followLine marker read line = followLine marker read other)
    (front back : List String) :
    ofLines marker (front ++ line :: back) = ofLines marker (front ++ other :: back) := by
  rw [ofLines, ofLines, List.foldl_append, List.foldl_append, List.foldl_cons, List.foldl_cons,
    same]

theorem ofLines_insert {marker line : String} (idle : IsIdle marker line)
    (front back : List String) :
    ofLines marker (front ++ line :: back) = ofLines marker (front ++ back) := by
  rw [ofLines, ofLines, List.foldl_append, List.foldl_append, List.foldl_cons,
    followLine_of_isIdle idle]

theorem ofLines_edit {marker : String} {lines edited : List String}
    (edit : Edit marker lines edited) : ofLines marker edited = ofLines marker lines := by
  cases edit with
  | pad front back line blanks allBlank =>
      have same := Directive.wordsAfterMarker_pad marker line allBlank
      exact ofLines_congr (followLine_congr same) front back
  | insert front back line idle => exact ofLines_insert idle front back
  | delete front back line idle => exact (ofLines_insert idle front back).symm
  | respace front back before held given behind someHeld heldBlank someGiven givenBlank =>
      have same : Directive.wordsAfterMarker marker (marker ++ before ++ given ++ behind) =
          Directive.wordsAfterMarker marker (marker ++ before ++ held ++ behind) := by
        rw [Directive.wordsAfterMarker_run marker before behind someGiven givenBlank,
          Directive.wordsAfterMarker_run marker before behind someHeld heldBlank]
      exact ofLines_congr (followLine_congr same) front back

end Declarations

/-- A Makefile has the same index after any number of changes of its blanks and of its idle
lines. -/
theorem ofLines_of_edits {marker : String} {lines edited : List String}
    (edits : Relation.ReflTransGen (Edit marker) lines edited) :
    ScopeIndex.ofLines marker edited = ScopeIndex.ofLines marker lines := by
  have same : Declarations.ofLines marker edited = Declarations.ofLines marker lines := by
    induction edits with
    | refl => rfl
    | tail _ edit ih => exact (Declarations.ofLines_edit edit).trans ih
  rw [ScopeIndex.ofLines, ScopeIndex.ofLines, definitionsOf, definitionsOf, same]

/-- Edits of line ends, spaces and comments keep the declarations of some lines. -/
theorem ofLines_of_edits_lineEnd :
    let lines := ["#", "plain", "# \tPARAM x: 1 2"]
    let edited := ["# \r\n", "# \tTARGET", "# \tPARAM \tx: 1 2"]
    Relation.ReflTransGen (Edit "# ") lines edited ∧
      ScopeIndex.ofLines "# " edited = ScopeIndex.ofLines "# " lines ∧
      definitionsOf "# " lines =
        [{ name := "x", scope := globalScope, values := ["1", "2"] }] := by
  intro lines edited
  have edits : Relation.ReflTransGen (Edit "# ") lines edited := by
    refine .head (.pad [] ["plain", "# \tPARAM x: 1 2"] "#" " \r\n"
      (List.all_eq_true.1 (by decide))) ?_
    refine .head (.respace ["# \r\n", "plain"] [] "\tPARAM" " " " \t" "x: 1 2" (by decide)
      (List.all_eq_true.1 (by decide)) (by decide) (List.all_eq_true.1 (by decide))) ?_
    refine .head (.delete ["# \r\n"] ["# \tPARAM \tx: 1 2"] "plain" (.unmarked (by decide))) ?_
    exact .single (.insert ["# \r\n"] ["# \tPARAM \tx: 1 2"] "# \tTARGET"
      (@IsIdle.namelessTarget "# " "\tTARGET" (by decide)))
  exact ⟨edits, ofLines_of_edits edits, by decide⟩

end AnnotatedMake
