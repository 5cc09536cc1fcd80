import AnnotatedMake.Proofs.Candidate
import AnnotatedMake.Proofs.Shell.FishReading
import AnnotatedMake.Proofs.Shell.Reading
import AnnotatedMake.Proofs.Text.Cutting

namespace AnnotatedMake.Shell

/-- The lines of a script, each of which a line feed ends. -/
def scriptLines (script : String) : List String := (piecesOf '\n' script).dropLast

def isComment (line : String) : Bool := startsText "#" line

def isBinding (line : String) : Bool := startsText "complete " line

/-- Whether a line is neither a comment nor binds commands. -/
def isCode (line : String) : Bool := !isComment line && !isBinding line

def codeLines (script : String) : List String := (scriptLines script).filter isCode

def bindingLines (script : String) : List String := (scriptLines script).filter isBinding

/-- The lines of code in a line that may hold line feeds. -/
def codeIn (line : String) : List String := (piecesOf '\n' line).filter isCode

/-- The lines of code that the line feeds in a line start. -/
def spilt (line : String) : List String := (piecesOf '\n' line).tail.filter isCode

/-- The comments that name commands. -/
def headings (shell : Shell) (commands : List String) : List String :=
  match shell with
  | bash => ["# Bash completion for " ++ listed commands]
  | zsh => ["#compdef " ++ " ".intercalate commands, "# Zsh completion for " ++ listed commands]
  | fish => ["# Fish completion for " ++ listed commands]

/-- The lines that bind commands. -/
def bindings (shell : Shell) (commands : List String) : List String :=
  match shell with
  | bash => ["complete -o default -F _makecomp_complete " ++ " ".intercalate (commands.map wordOf)]
  | zsh => []
  | fish => commands.map fishBinding

/-- The lines of a script are the pieces of its lines. -/
theorem scriptLines_joinLines (lines : List String) :
    scriptLines (joinLines lines) = lines.flatMap (piecesOf '\n') := by
  induction lines with
  | nil => rfl
  | cons line rest ih =>
      have cut : piecesOf '\n' (joinLines (line :: rest)) =
          piecesOf '\n' line ++ piecesOf '\n' (joinLines rest) := by
        have whole : (joinLines (line :: rest)).toList =
            line.toList ++ '\n' :: (joinLines rest).toList := by simp [joinLines]
        rw [piecesOf, whole, Text.pieces_append_separator, List.map_append, piecesOf, piecesOf]
      have more : piecesOf '\n' (joinLines rest) ≠ [] := by simp [piecesOf, Text.pieces_ne_nil]
      rw [scriptLines, cut, List.dropLast_append_of_ne_nil more, List.flatMap_cons, ← ih]
      rfl

/-- A text that holds no separator stands before the first piece of what follows it. -/
theorem pieces_absent_append {separator : Char} {front : List Char} (absent : separator ∉ front)
    (text : List Char) :
    ∃ first rest, Text.pieces separator text = first :: rest ∧
      Text.pieces separator (front ++ text) = (front ++ first) :: rest := by
  induction front with
  | nil =>
      obtain ⟨first, rest, cut⟩ := List.exists_cons_of_ne_nil (Text.pieces_ne_nil separator text)
      exact ⟨first, rest, cut, cut⟩
  | cons c front ih =>
      simp only [List.mem_cons, not_or] at absent
      obtain ⟨first, rest, cut, longer⟩ := ih absent.2
      refine ⟨first, rest, cut, ?_⟩
      rw [List.cons_append, Text.pieces, if_neg (Ne.symm absent.1), longer]
      rfl

/-- A line that begins as a comment or a binding holds the lines of code that its line feeds
start. -/
theorem codeIn_append {lead : String} (text : String) (marked : isCode lead = false)
    (noFeed : '\n' ∉ lead.toList) : codeIn (lead ++ text) = spilt (lead ++ text) := by
  obtain ⟨first, rest, -, cut⟩ := pieces_absent_append noFeed text.toList
  have within {mark : String} (begins : startsText mark lead = true) :
      startsText mark (String.ofList (lead.toList ++ first)) = true := by
    rw [startsText_iff, String.toList_ofList]
    exact (startsText_iff.1 begins).trans (List.prefix_append _ _)
  have stays : isCode (String.ofList (lead.toList ++ first)) = false := by
    rw [isCode, Bool.and_eq_false_iff, Bool.not_eq_false', Bool.not_eq_false'] at marked ⊢
    exact marked.imp within within
  rw [codeIn, spilt, piecesOf, String.toList_append, cut, List.map_cons, List.tail_cons,
    List.filter_cons_of_neg (by rw [stays]; decide)]

/-- The code in a binding is what a line feed spills. -/
theorem codeIn_fishBinding (command : String) :
    codeIn (fishBinding command) = spilt (fishBinding command) := by
  rw [fishBinding, String.append_assoc]
  exact codeIn_append _ (by decide) (by decide)

/-- The code of a script is the code of its lines. -/
theorem codeLines_joinLines (lines : List String) :
    codeLines (joinLines lines) = lines.flatMap codeIn := by
  rw [codeLines, scriptLines_joinLines, List.filter_flatMap]
  rfl

/-- A line of code stands in every script, or a line feed in a command starts it. -/
theorem codeLines_script (shell : Shell) (program : String) (commands : List String) :
    codeLines (shell.script program commands) =
      (headings shell commands).flatMap spilt ++ codeLines (shell.script program []) ++
        (bindings shell commands).flatMap spilt := by
  -- `List.nil_append` is applied by `rw`: as a rule of `simp` it holds by definition, and the
  -- kernel then reads every line of the script to see that.
  cases shell with
  | bash =>
      have named (text : String) : codeIn ("# Bash completion for " ++ text) =
          spilt ("# Bash completion for " ++ text) := codeIn_append text (by decide) (by decide)
      have bound (text : String) : codeIn ("complete -o default -F _makecomp_complete " ++ text) =
          spilt ("complete -o default -F _makecomp_complete " ++ text) :=
        codeIn_append text (by decide) (by decide)
      have unnamed : spilt ("# Bash completion for " ++ listed []) = [] := by decide
      have unbound : spilt ("complete -o default -F _makecomp_complete " ++
        " ".intercalate ([].map wordOf)) = [] := by decide
      rw [script, script, bashScript, bashScript, codeLines_joinLines, codeLines_joinLines,
        headings, bindings]
      simp only [List.flatMap_cons, List.flatMap_nil, named, bound, List.append_nil]
      rw [unnamed, unbound, List.nil_append, List.append_nil]
      simp only [List.append_assoc]
  | zsh =>
      have opened (text : String) : codeIn ("#compdef " ++ text) = spilt ("#compdef " ++ text) :=
        codeIn_append text (by decide) (by decide)
      have named (text : String) : codeIn ("# Zsh completion for " ++ text) =
          spilt ("# Zsh completion for " ++ text) := codeIn_append text (by decide) (by decide)
      have unopened : spilt ("#compdef " ++ " ".intercalate []) = [] := by decide
      have unnamed : spilt ("# Zsh completion for " ++ listed []) = [] := by decide
      rw [script, script, zshScript, zshScript, codeLines_joinLines, codeLines_joinLines,
        headings, bindings]
      simp only [List.flatMap_cons, List.flatMap_nil, opened, named, List.append_nil]
      rw [unopened, unnamed, List.nil_append, List.nil_append, List.append_assoc]
  | fish =>
      have named (text : String) : codeIn ("# Fish completion for " ++ text) =
          spilt ("# Fish completion for " ++ text) := codeIn_append text (by decide) (by decide)
      have unnamed : spilt ("# Fish completion for " ++ listed []) = [] := by decide
      rw [script, script, fishScript, fishScript, codeLines_joinLines, codeLines_joinLines,
        headings, bindings]
      simp only [List.flatMap_append, List.flatMap_cons, List.flatMap_nil, List.map_nil,
        List.flatMap_map, named, codeIn_fishBinding, List.append_nil]
      rw [unnamed, List.nil_append]

/-- A text that no line feed cuts. -/
def HasNoFeed (text : String) : Prop := '\n' ∉ text.toList

instance (text : String) : Decidable (HasNoFeed text) := inferInstanceAs (Decidable (_ ∉ _))

/-- A line without a line feed is one piece. -/
theorem piecesOf_of_hasNoFeed {line : String} (whole : HasNoFeed line) :
    piecesOf '\n' line = [line] := by
  rw [piecesOf, Text.pieces_of_absent whole, List.map_singleton, String.ofList_toList]

/-- A line without a line feed spills nothing. -/
theorem spilt_of_hasNoFeed {line : String} (whole : HasNoFeed line) : spilt line = [] := by
  rw [spilt, piecesOf_of_hasNoFeed whole]
  rfl

/-- Two texts without a line feed make one without it. -/
theorem HasNoFeed.append {front back : String} (first : HasNoFeed front) (last : HasNoFeed back) :
    HasNoFeed (front ++ back) := by
  rw [HasNoFeed, String.toList_append, List.mem_append]
  exact fun inside => inside.elim first last

/-- Texts and a separator without a line feed make one without it. -/
theorem hasNoFeed_intercalate {separator : String} (apart : HasNoFeed separator)
    {list : List String} (whole : ∀ text ∈ list, HasNoFeed text) :
    HasNoFeed (separator.intercalate list) := by
  induction list with
  | nil => exact List.not_mem_nil
  | cons first rest ih =>
      have wholeFirst := whole first List.mem_cons_self
      have wholeRest := ih fun text inside => whole text (List.mem_cons_of_mem _ inside)
      cases rest with
      | nil => rwa [String.intercalate_singleton]
      | cons second rest =>
          rw [String.intercalate_cons_cons]
          exact (wholeFirst.append apart).append wholeRest

/-- Enclosing adds quotes only. -/
theorem mem_of_mem_enclosed {c : Char} {text : List Char} (inside : c ∈ enclosed text) :
    c ∈ text ∨ c = '\'' ∨ c = '"' := by
  fun_induction enclosed text with
  | case1 => exact .inr (.inl (List.mem_singleton.1 inside))
  | case2 rest ih =>
      rcases List.mem_append.1 inside with marks | later
      · have quotes : ∀ mark ∈ ['\'', '"', '\'', '"', '\''], mark = '\'' ∨ mark = '"' := by simp
        exact .inr (quotes c marks)
      · exact (ih later).imp_left (List.mem_cons_of_mem _)
  | case3 d rest other ih =>
      rcases List.mem_cons.1 inside with rfl | later
      · exact .inl List.mem_cons_self
      · exact (ih later).imp_left (List.mem_cons_of_mem _)

/-- Quoting adds no line feed. -/
theorem HasNoFeed.wordOf {text : String} (whole : HasNoFeed text) : HasNoFeed (wordOf text) := by
  rw [HasNoFeed, Shell.wordOf, String.toList_ofList, word]
  split
  · exact whole
  · intro inside
    rcases List.mem_cons.1 inside with quote | inside
    · exact absurd quote (by decide)
    · rcases mem_of_mem_enclosed inside with inside | quote | quote
      · exact whole inside
      · exact absurd quote (by decide)
      · exact absurd quote (by decide)

/-- A command without a line feed is bound on one line. -/
theorem hasNoFeed_fishBinding {command : String} (whole : HasNoFeed command) :
    HasNoFeed (fishBinding command) := by
  have first : HasNoFeed "complete -c " := by decide
  exact (first.append whole).append (by decide)

/-- Commands without line feeds have headings of one line. -/
theorem hasNoFeed_heading {shell : Shell} {commands : List String}
    (whole : ∀ command ∈ commands, HasNoFeed command) {line : String}
    (member : line ∈ headings shell commands) : HasNoFeed line := by
  have comma : HasNoFeed (listed commands) := hasNoFeed_intercalate (by decide) whole
  have blank : HasNoFeed (" ".intercalate commands) := hasNoFeed_intercalate (by decide) whole
  cases shell with
  | bash =>
      rw [List.mem_singleton.1 member]
      exact HasNoFeed.append (by decide) comma
  | zsh =>
      rcases List.mem_cons.1 member with rfl | member
      · exact HasNoFeed.append (by decide) blank
      · rw [List.mem_singleton.1 member]
        exact HasNoFeed.append (by decide) comma
  | fish =>
      rw [List.mem_singleton.1 member]
      exact HasNoFeed.append (by decide) comma

/-- Commands without line feeds have bindings of one line. -/
theorem hasNoFeed_binding {shell : Shell} {commands : List String}
    (whole : ∀ command ∈ commands, HasNoFeed command) {line : String}
    (member : line ∈ bindings shell commands) : HasNoFeed line := by
  cases shell with
  | bash =>
      rw [List.mem_singleton.1 member]
      refine HasNoFeed.append (by decide) (hasNoFeed_intercalate (by decide) ?_)
      intro text inside
      obtain ⟨command, known, rfl⟩ := List.mem_map.1 inside
      exact (whole command known).wordOf
  | zsh => exact absurd member List.not_mem_nil
  | fish =>
      obtain ⟨command, known, rfl⟩ := List.mem_map.1 member
      exact hasNoFeed_fishBinding (whole command known)

/-- A line that parts with the words of a binding within its first characters binds nothing. -/
theorem isBinding_append {lead : String} (text : String)
    (parts : startsText "complete " lead = false ∧ startsText lead "complete " = false) :
    isBinding (lead ++ text) = false := by
  rw [isBinding, Bool.eq_false_iff, ne_eq, startsText_iff, String.toList_append]
  intro begins
  rcases List.prefix_or_prefix_of_prefix begins (List.prefix_append _ _) with front | front
  · exact Bool.eq_false_iff.1 parts.1 (startsText_iff.2 front)
  · exact Bool.eq_false_iff.1 parts.2 (startsText_iff.2 front)

/-- A binding is told by its front. -/
theorem isBinding_fishBinding (command : String) : isBinding (fishBinding command) = true := by
  rw [isBinding, startsText_iff, fishBinding, String.append_assoc, String.toList_append]
  exact List.IsPrefix.trans (by decide) (List.prefix_append _ _)

/-- The bindings of a script are those among its lines. -/
theorem bindingLines_joinLines {lines : List String} (whole : ∀ line ∈ lines, HasNoFeed line) :
    bindingLines (joinLines lines) = lines.filter isBinding := by
  have cut : lines.flatMap (piecesOf '\n') = lines := by
    rw [List.flatMap_congr fun line member => piecesOf_of_hasNoFeed (whole line member)]
    exact List.flatMap_singleton' lines
  rw [bindingLines, scriptLines_joinLines, cut]

/-- The script for fish binds every command on a line of its own. -/
theorem bindingLines_fishScript {program : String} (one : HasNoFeed program)
    {commands : List String} (whole : ∀ command ∈ commands, HasNoFeed command) :
    bindingLines (fishScript program commands) = commands.map fishBinding := by
  have named : HasNoFeed ("# Fish completion for " ++ listed commands) :=
    HasNoFeed.append (by decide) (hasNoFeed_intercalate (by decide) whole)
  have called : HasNoFeed ("    " ++ program ++
      " complete --cword (count $tokens) -- $tokens $current 2>/dev/null") :=
    (HasNoFeed.append (by decide) one).append (by decide)
  have bound : ∀ command ∈ commands, HasNoFeed (fishBinding command) := fun command known =>
    hasNoFeed_fishBinding (whole command known)
  have unnamed : isBinding ("# Fish completion for " ++ listed commands) = false :=
    isBinding_append _ (by decide)
  have uncalled : isBinding ("    " ++ program ++
      " complete --cword (count $tokens) -- $tokens $current 2>/dev/null") = false := by
    rw [String.append_assoc]
    exact isBinding_append _ (by decide)
  have kept : (commands.map fishBinding).filter isBinding = commands.map fishBinding := by
    refine List.filter_eq_self.2 fun line member => ?_
    obtain ⟨command, -, rfl⟩ := List.mem_map.1 member
    exact isBinding_fishBinding command
  rw [fishScript, bindingLines_joinLines]
  · simp +decide [kept, unnamed, uncalled]
  · simp +decide [called, named]
    exact bound

/-- The code of a script is kept when no line spills. -/
theorem codeLines_script_eq_iff {shell : Shell} {program : String} {commands : List String} :
    codeLines (shell.script program commands) = codeLines (shell.script program []) ↔
      ∀ line ∈ headings shell commands ++ bindings shell commands, spilt line = [] := by
  have counted : codeLines (shell.script program commands) = codeLines (shell.script program []) ↔
      (headings shell commands).flatMap spilt = [] ∧
        (bindings shell commands).flatMap spilt = [] := by
    rw [codeLines_script]
    constructor
    · intro same
      have lengths := congrArg List.length same
      rw [List.length_append, List.length_append] at lengths
      exact ⟨List.eq_nil_of_length_eq_zero (by omega), List.eq_nil_of_length_eq_zero (by omega)⟩
    · rintro ⟨above, below⟩
      rw [above, below, List.nil_append, List.append_nil]
  rw [counted, List.flatMap_eq_nil_iff, List.flatMap_eq_nil_iff, List.forall_mem_append]

/-- Commands add the code that their line feeds start, and for fish one binding for each. -/
theorem script_of_commands (shell : Shell) (program : String) (commands : List String) :
    codeLines (shell.script program commands) =
        (headings shell commands).flatMap spilt ++ codeLines (shell.script program []) ++
          (bindings shell commands).flatMap spilt ∧
      (codeLines (shell.script program commands) = codeLines (shell.script program []) ↔
        ∀ line ∈ headings shell commands ++ bindings shell commands, spilt line = []) ∧
      ((∀ command ∈ commands, HasNoFeed command) →
        codeLines (shell.script program commands) = codeLines (shell.script program []) ∧
          (HasNoFeed program →
            bindingLines (fish.script program commands) = commands.map fishBinding)) ∧
      ∀ dialect, ∀ command ∈ commands,
        Fish.wordsRead dialect (fishBinding command) =
            some ["complete", "-c", command, "-a", "(__makecomp_complete)"] ↔
          Fish.isBareWord dialect command.toList = true := by
  refine ⟨codeLines_script shell program commands, codeLines_script_eq_iff, ?_,
    fun dialect command _ => Fish.wordsRead_fishBinding_iff dialect command⟩
  intro whole
  refine ⟨codeLines_script_eq_iff.2 ?_, fun one => bindingLines_fishScript one whole⟩
  intro line member
  rcases List.mem_append.1 member with heading | binding
  · exact spilt_of_hasNoFeed (hasNoFeed_heading whole heading)
  · exact spilt_of_hasNoFeed (hasNoFeed_binding whole binding)

end AnnotatedMake.Shell
