import AnnotatedMake.Completion.Session
import AnnotatedMake.Proofs.Text.Cutting
import Mathlib.Data.List.Infix

namespace AnnotatedMake

namespace Text

/-- The longest blank-free suffix of a text. -/
structure IsLastRun (text run : List Char) : Prop where
  suffix : run <:+ text
  dark : ∀ c ∈ run, isBlank c = false
  longest : ∀ other, other <:+ text → (∀ c ∈ other, isBlank c = false) → other <:+ run

/-- A text cut behind its last blank. -/
structure IsCut (text front run : List Char) : Prop where
  whole : text = front ++ run
  dark : ∀ c ∈ run, isBlank c = false
  ends : front = [] ∨ ∃ before blank, front = before ++ [blank] ∧ isBlank blank = true

theorem exists_isCut (text : List Char) : ∃ front run, IsCut text front run := by
  induction text using List.reverseRec with
  | nil => exact ⟨[], [], rfl, by simp, .inl rfl⟩
  | append_singleton text last ih =>
      cases isBlank' : isBlank last with
      | true => exact ⟨text ++ [last], [], by simp, by simp, .inr ⟨text, last, rfl, isBlank'⟩⟩
      | false =>
          obtain ⟨front, run, rfl, dark, ends⟩ := ih
          refine ⟨front, run ++ [last], by simp, ?_, ends⟩
          intro c inside
          rcases List.mem_append.1 inside with inRun | isLast
          · exact dark c inRun
          · exact List.mem_singleton.1 isLast ▸ isBlank'

section IsCut

variable {text front run : List Char}

theorem IsCut.isLastRun (cut : IsCut text front run) : IsLastRun text run := by
  obtain ⟨rfl, dark, ends⟩ := cut
  refine ⟨List.suffix_append front run, dark, ?_⟩
  intro other inText otherDark
  rcases ends with rfl | ⟨before, blank, rfl, isBlank'⟩
  · exact inText
  · have free : blank ∉ other := fun inside => by simp [otherDark blank inside] at isBlank'
    rw [List.append_assoc, List.singleton_append] at inText
    rcases List.suffix_or_suffix_of_suffix inText (List.suffix_append before (blank :: run)) with
      short | long
    · rcases List.suffix_cons_iff.1 short with rfl | inRun
      · exact absurd List.mem_cons_self free
      · exact inRun
    · exact absurd (long.subset List.mem_cons_self) free

theorem IsCut.words (cut : IsCut text front run) :
    words text = Text.words front ++ if run = [] then [] else [run] := by
  obtain ⟨rfl, dark, ends⟩ := cut
  have last : Text.words run = if run = [] then [] else [run] := by
    split
    · rename_i none
      rw [none, Text.words]
    · rename_i some'
      exact words_word ⟨some', dark⟩
  rw [← last]
  rcases ends with rfl | ⟨before, blank, rfl, isBlank'⟩
  · rfl
  · rw [List.append_assoc, List.singleton_append, words_append_blank isBlank',
      words_append_blank isBlank', Text.words, List.append_nil]

/-- Nothing stands behind the last blank of a text that is empty or ends with a blank. -/
theorem IsCut.run_eq_nil_iff (cut : IsCut text front run) :
    run = [] ↔ text = [] ∨ Query.endsBlank text = true := by
  obtain ⟨rfl, dark, ends⟩ := cut
  rcases List.eq_nil_or_concat run with rfl | ⟨body, last, rfl⟩
  · rcases ends with rfl | ⟨before, blank, rfl, isBlank'⟩
    · simp
    · simp [Query.endsBlank, isBlank']
  · simp [Query.endsBlank, ← List.append_assoc, dark last]

end IsCut

end Text

/-- The words of a line cut at the cursor, with an empty one behind a blank. -/
def wordsToCursor (line : String) : List String :=
  let runs := (line.toList.splitOnP Text.isBlank).filter fun run => run ≠ []
  runs.map String.ofList ++
    if line = "" ∨ Query.endsBlank line.toList = true then [""] else []

/-- The last word of a line cut at the cursor is what stands behind its last blank. -/
theorem wordsToCursor_of_isCut {line : String} {front run : List Char}
    (cut : Text.IsCut line.toList front run) :
    wordsToCursor line = (Text.words front).map String.ofList ++ [String.ofList run] := by
  rw [wordsToCursor, ← Text.words_eq_splitOnP, cut.words]
  simp only [← String.toList_eq_nil_iff, ← cut.run_eq_nil_iff]
  by_cases none : run = [] <;> simp [none]

/-- A line asks with its words up to the cursor, and the cursor on the last of them. -/
theorem Query.ofLine_eq (line : String) :
    Query.ofLine line = ⟨wordsToCursor line, (wordsToCursor line).length - 1⟩ := by
  obtain ⟨front, run, cut⟩ := Text.exists_isCut line.toList
  have words : wordsOf line =
      (Text.words front).map String.ofList ++ if run = [] then [] else [String.ofList run] := by
    rw [wordsOf, cut.words, List.map_append]
    split <;> rfl
  have isNew : (wordsOf line = [] || endsBlank line.toList) = decide (run = []) := by
    rw [Bool.eq_iff_iff, Bool.or_eq_true, decide_eq_true_eq, decide_eq_true_eq]
    constructor
    · rintro (none | blank)
      · by_contra some'
        simp [words, some'] at none
      · exact cut.run_eq_nil_iff.2 (.inr blank)
    · intro none
      refine (cut.run_eq_nil_iff.1 none).imp_left fun empty => ?_
      rw [wordsOf, empty]
      rfl
  rw [Query.ofLine, isNew, words, wordsToCursor_of_isCut cut]
  by_cases none : run = [] <;> simp [none]

namespace Session

variable [Platform]

/-- An answer depends on the words before the cursor and on the one at it. -/
theorem complete_congr (session : Session) (source : Option Path) {first second : List String}
    {place : Nat} (inFirst : place ≤ first.length) (inSecond : place ≤ second.length)
    (before : first.take place = second.take place)
    (here : (first[place]?).getD "" = (second[place]?).getD "") :
    session.complete ⟨first, place⟩ source = session.complete ⟨second, place⟩ source := by
  have onArgument (words : List String) (inWords : place ≤ words.length) :
      (Query.mk words place).isOnArgument = decide (1 ≤ (place : Int)) := by
    simp [Query.isOnArgument, inWords]
  rw [complete, complete, onArgument first inFirst, onArgument second inSecond]
  by_cases argument : 1 ≤ (place : Int)
  · have target : (Query.mk first place).target = (Query.mk second place).target := by
      by_cases isFirst : (place : Int) = 1
      · simp [Query.target, Query.position, isFirst]
      · have later : 1 < place := by omega
        have named := congrArg (fun words => words[1]?) before
        simpa [Query.target, Query.position, isFirst, List.getElem?_take, later] using named
    have candidates (index : ScopeIndex) :
        candidatesIn index ⟨first, place⟩ = candidatesIn index ⟨second, place⟩ := by
      rw [candidatesIn, candidatesIn, target]
      exact congrArg (index.candidates _ · _) here
    have reported (candidates : List String) :
        summary ⟨first, place⟩ candidates = summary ⟨second, place⟩ candidates := by
      rw [summary, summary, target]
      exact congrArg (fun word => _ ++ " " ++ quotedText word ++ _ ++ _ ++ _ ++ _ ++ _) here
    simp only [candidates, reported]
  · simp [argument]

/-- A line is answered like its words up to the cursor, whatever words follow. -/
theorem completeLine_eq_complete (session : Session) (source : Option Path) (line : String)
    (extra : List String) :
    let words := wordsToCursor line
    session.completeLine line source =
        session.complete ⟨words ++ extra, words.length - 1⟩ source ∧
      Text.IsLastRun line.toList
        (Query.mk (words ++ extra) (words.length - 1)).partialWord.toList ∧
      (∀ (before : List String) (word : String) (after : List String),
        session.complete ⟨before ++ word :: after, before.length⟩ source =
          session.complete ⟨before ++ [word], before.length⟩ source) ∧
      ∀ words : List String,
        session.complete ⟨words, words.length⟩ source =
          session.complete ⟨words ++ [""], words.length⟩ source := by
  have following (before : List String) (word : String) (after : List String) :
      session.complete ⟨before ++ word :: after, before.length⟩ source =
        session.complete ⟨before ++ [word], before.length⟩ source := by
    apply complete_congr <;> simp
  have behind (words : List String) :
      session.complete ⟨words, words.length⟩ source =
        session.complete ⟨words ++ [""], words.length⟩ source := by
    apply complete_congr <;> simp
  obtain ⟨front, run, cut⟩ := Text.exists_isCut line.toList
  have words := wordsToCursor_of_isCut cut
  generalize (Text.words front).map String.ofList = before at words
  have last : ((wordsToCursor line).length : Int) - 1 = before.length := by simp [words]
  refine ⟨?_, ?_, following, behind⟩
  · rw [completeLine, Query.ofLine_eq, last, words, List.append_assoc, List.singleton_append]
    exact (following before _ extra).symm
  · rw [last, words, List.append_assoc, List.singleton_append]
    simpa [Query.partialWord] using cut.isLastRun

end Session

end AnnotatedMake
