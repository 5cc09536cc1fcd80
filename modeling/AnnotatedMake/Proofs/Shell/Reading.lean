import AnnotatedMake.Proofs.Shell.Reader

namespace AnnotatedMake.Shell

/-- The characters that may do more than stand for themselves where nothing quotes them. -/
def isActive (c : Char) : Bool := "\n|&;<>()$`*?[]\x7b\x7d~#!^".toList.elem c

/-- How the next character of a command line is read. -/
inductive Quoting where
  | bare
  /-- Behind a backslash outside of quotes. -/
  | escaped
  | single
  | double
  /-- Behind a backslash between double quotes. -/
  | doubleEscaped
deriving DecidableEq

def step (reader : Reader Quoting) (c : Char) : Option (Reader Quoting) :=
  match reader.mode with
  | .bare =>
    if c = ' ' ∨ c = '\t' then some reader.parted
    else if c = '\\' then some (reader.into .escaped)
    else if c = '\'' then some (reader.opened .single)
    else if c = '"' then some (reader.opened .double)
    else if isActive c then none
    else some (reader.take c)
  | .escaped =>
    -- a line feed behind a backslash is left out
    if c = '\n' then some (reader.into .bare)
    else some ((reader.take c).into .bare)
  | .single =>
    if c = '\'' then some (reader.into .bare) else some (reader.take c)
  | .double =>
    if c = '"' then some (reader.into .bare)
    else if c = '\\' then some (reader.into .doubleEscaped)
    else if "$`".toList.elem c then none
    else some (reader.take c)
  | .doubleEscaped =>
    if c = '\n' then some (reader.into .double)
    else if "$`\"\\".toList.elem c then some ((reader.take c).into .double)
    else some (((reader.take '\\').take c).into .double)

/-- The words that a shell splits a text into, if nothing in it is active. -/
def wordsRead (text : String) : Option (List String) := Reader.wordsRead .bare step text

theorem isActive_of_isPlain {c : Char} (plain : isPlain c = true) : isActive c = false := by
  have quiet : ("\n|&;<>()$`*?[]\x7b\x7d~#!^".toList.all fun active => !isPlain active) = true := by
    decide
  rw [isActive, List.elem_eq_contains, List.contains_eq_mem, decide_eq_false_iff_not]
  intro member
  simpa [plain] using List.all_eq_true.1 quiet c member

section Words

variable (held : Option String) (words : List String)

theorem step_of_isPlain {c : Char} (plain : isPlain c = true) :
    step ⟨.bare, held, words⟩ c = some ⟨.bare, some ((held.getD "").push c), words⟩ := by
  have apart {other : Char} (special : isPlain other = false) : c ≠ other := by
    rintro rfl
    rw [special] at plain
    cases plain
  have notBlank : ¬ (c = ' ' ∨ c = '\t') :=
    not_or.2 ⟨apart (by decide), apart (by decide)⟩
  rw [step, if_neg notBlank, if_neg (apart (by decide)), if_neg (apart (by decide)),
    if_neg (apart (by decide)), if_neg (by simp [isActive_of_isPlain plain])]
  rfl

/-- A plain text is read as it stands. -/
theorem run_plain {text : List Char} (plain : ∀ c ∈ text, isPlain c = true) (nonempty : text ≠ []) :
    text.foldlM step ⟨.bare, held, words⟩ =
      some ⟨.bare, some (held.getD "" ++ String.ofList text), words⟩ := by
  induction text generalizing held with
  | nil => exact absurd rfl nonempty
  | cons c rest ih =>
      rw [List.foldlM_cons, step_of_isPlain held words (plain c List.mem_cons_self),
        Option.bind_eq_bind, Option.bind_some]
      by_cases last : rest = []
      · rw [last, List.foldlM_nil]
        simp
      · rw [ih (some ((held.getD "").push c)) (fun d inside => plain d (.tail c inside)) last,
          Option.getD_some, Reader.push_append]

/-- Between single quotes every text is read as it stands, single quotes of its own included. -/
theorem run_enclosed (text : List Char) (start : String) :
    (enclosed text).foldlM step ⟨.single, some start, words⟩ =
      some ⟨.bare, some (start ++ String.ofList text), words⟩ := by
  fun_induction enclosed text generalizing start with
  | case1 => simp [step, Reader.into]
  | case2 rest ih =>
      -- the quotes are closed, a quote comes between double quotes, and they are opened again
      have quoted : ("'\"'\"'".toList).foldlM step ⟨.single, some start, words⟩ =
          some ⟨.single, some (start.push '\''), words⟩ := rfl
      rw [List.foldlM_append, quoted, Option.bind_eq_bind, Option.bind_some, ih, Reader.push_append]
  | case3 c rest differs ih =>
      have kept : step ⟨.single, some start, words⟩ c =
          some ⟨.single, some (start.push c), words⟩ := if_neg (by simpa using differs)
      rw [List.foldlM_cons, kept, Option.bind_eq_bind, Option.bind_some, ih, Reader.push_append]

/-- The spelling of a text is read as that text, as one word that nothing follows yet. -/
theorem run_wordOf (text : String) :
    (wordOf text).toList.foldlM step ⟨.bare, none, words⟩ = some ⟨.bare, some text, words⟩ := by
  rw [wordOf, String.toList_ofList, word]
  split
  · rename_i plain
    simp only [Bool.and_eq_true, Bool.not_eq_true', List.isEmpty_eq_false_iff,
      List.all_eq_true] at plain
    rw [run_plain none words plain.2 plain.1, Option.getD_none, String.ofList_toList,
      String.empty_append]
  · have quote : step ⟨.bare, none, words⟩ '\'' = some ⟨.single, some "", words⟩ := rfl
    rw [List.foldlM_cons, quote, Option.bind_eq_bind, Option.bind_some, run_enclosed,
      String.ofList_toList, String.empty_append]

/-- Words that are spelled one behind the other, with a space between two, are read one by one. -/
theorem run_wordsOf (commands : List String) :
    ((" ".intercalate (commands.map wordOf)).toList.foldlM step ⟨.bare, none, words⟩).bind
        (Reader.finish .bare) =
      some (words ++ commands) := by
  rw [String.toList_intercalate, List.map_map]
  induction commands generalizing words with
  | nil => rfl
  | cons first rest ih =>
      have readFirst := run_wordOf words first
      cases rest with
      | nil =>
          rw [List.map_singleton, List.intercalate_singleton, Function.comp_apply, readFirst]
          rfl
      | cons next rest =>
          have parted : " ".toList.foldlM step ⟨.bare, some first, words⟩ =
              some ⟨.bare, none, words ++ [first]⟩ := rfl
          rw [List.map_cons, List.map_cons, List.intercalate_cons_cons, List.append_assoc,
            List.foldlM_append, Function.comp_apply, readFirst, Option.bind_eq_bind,
            Option.bind_some, List.foldlM_append, parted, Option.bind_eq_bind, Option.bind_some,
            ← List.map_cons, ih, List.append_assoc]
          rfl

end Words

theorem wordsRead_wordsOf (commands : List String) :
    wordsRead (" ".intercalate (commands.map wordOf)) = some commands :=
  run_wordsOf [] commands

example : wordsRead "make '' 'a b' 'it'\"'\"'s'" = some ["make", "", "a b", "it's"] := by decide

example : wordsRead "make $x" = none ∧ wordsRead "'make" = none := by decide

theorem wordsRead_binding (commands : List String) :
    wordsRead ("complete -o default -F _makecomp_complete " ++
        " ".intercalate (commands.map wordOf)) =
      some (["complete", "-o", "default", "-F", "_makecomp_complete"] ++ commands) := by
  have first : "complete -o default -F _makecomp_complete ".toList.foldlM step { mode := .bare } =
      some ⟨.bare, none, ["complete", "-o", "default", "-F", "_makecomp_complete"]⟩ := by
    decide
  rw [wordsRead, Reader.wordsRead, String.toList_append, List.foldlM_append, first,
    Option.bind_eq_bind, Option.bind_some, run_wordsOf]

/-- A script ends with its last lines. -/
theorem joinLines_of_suffix {lines ending : List String} (suffix : ending <:+ lines) :
    ∃ lead, joinLines lines = lead ++ joinLines ending := by
  obtain ⟨front, rfl⟩ := suffix
  refine ⟨joinLines front, ?_⟩
  rw [joinLines, List.map_append, String.join_append, joinLines, joinLines]

/-- The last line of the script for bash is read as binding each command as one word. -/
theorem bashScript_binds (program : String) (commands : List String) :
    ∃ lead text, bashScript program commands =
        lead ++ "\n" ++ "complete -o default -F _makecomp_complete " ++ text ++ "\n" ∧
      wordsRead text = some commands ∧
      wordsRead ("complete -o default -F _makecomp_complete " ++ text) =
        some (["complete", "-o", "default", "-F", "_makecomp_complete"] ++ commands) := by
  obtain ⟨lead, whole⟩ : ∃ lead, bashScript program commands = lead ++ joinLines ["",
      "complete -o default -F _makecomp_complete " ++ " ".intercalate (commands.map wordOf)] :=
    joinLines_of_suffix (List.suffix_iff_eq_drop.2 rfl)
  refine ⟨lead, " ".intercalate (commands.map wordOf), ?_, wordsRead_wordsOf commands,
    wordsRead_binding commands⟩
  rw [whole, ← String.toList_inj]
  simp [joinLines]

end AnnotatedMake.Shell
