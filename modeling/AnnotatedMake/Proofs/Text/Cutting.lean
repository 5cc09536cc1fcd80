import AnnotatedMake.Text.Line
import AnnotatedMake.Text.Piece

namespace AnnotatedMake.Text

/-- A word has characters, and none of them is blank. -/
def IsWord (text : List Char) : Prop := text ≠ [] ∧ ∀ c ∈ text, isBlank c = false

/-- The words of a text are words. -/
theorem mem_words {text word : List Char} (member : word ∈ words text) : IsWord word := by
  fun_induction words text generalizing word with
  | case1 => simp at member
  | case2 c rest blank ih => exact ih member
  | case3 c dark =>
      obtain rfl := List.mem_singleton.1 member
      exact ⟨by simp, by simpa using dark⟩
  | case4 c dark next rest blank ih =>
      rcases List.mem_cons.1 member with rfl | later
      · exact ⟨by simp, by simpa using dark⟩
      · exact ih later
  | case5 c dark next rest nextDark ih =>
      cases cut : words (next :: rest) with
      | nil =>
          rw [cut] at member
          obtain rfl := List.mem_singleton.1 member
          exact ⟨by simp, by simpa using dark⟩
      | cons first others =>
          rw [cut] at member
          have firstWord : IsWord first := ih (cut ▸ List.mem_cons_self)
          rcases List.mem_cons.1 member with rfl | later
          · refine ⟨by simp, ?_⟩
            intro d inside
            rcases List.mem_cons.1 inside with rfl | inFirst
            · simpa using dark
            · exact firstWord.2 d inFirst
          · exact ih (cut ▸ List.mem_cons_of_mem _ later)

/-- A word alone is its only word. -/
theorem words_word {word : List Char} (isWord : IsWord word) : words word = [word] := by
  obtain ⟨some, dark⟩ := isWord
  induction word with
  | nil => exact absurd rfl some
  | cons c rest ih =>
      have darkHere := dark c List.mem_cons_self
      cases rest with
      | nil => simp [words, darkHere]
      | cons next rest =>
          have darkNext := dark next (by simp)
          have cut := ih (by simp) fun d inside => dark d (List.mem_cons_of_mem _ inside)
          simp [words, darkHere, darkNext, prepend] at cut ⊢
          rw [cut]

/-- The words of a text are what is left of it between its blanks. -/
theorem words_eq_splitOnP (text : List Char) :
    words text = (text.splitOnP isBlank).filter fun run => run ≠ [] := by
  fun_induction words text with
  | case1 => rfl
  | case2 c rest blank ih => simp [List.splitOnP_cons_eq_if_modifyHead, blank, ih]
  | case3 c dark => simp [List.splitOnP_cons_eq_if_modifyHead, dark]
  | case4 c dark next rest blank ih =>
      simp [List.splitOnP_cons_eq_if_modifyHead, dark, blank] at ih ⊢
      exact ih
  | case5 c dark next rest nextDark ih =>
      have cut : (next :: rest).splitOnP isBlank =
          (rest.splitOnP isBlank).modifyHead (next :: ·) := by
        rw [List.splitOnP_cons_eq_if_modifyHead, if_neg nextDark]
      obtain ⟨run, others, cutRest⟩ :=
        List.exists_cons_of_ne_nil (List.splitOnP_ne_nil isBlank rest)
      rw [cutRest, List.modifyHead_cons] at cut
      rw [ih, List.splitOnP_cons_eq_if_modifyHead (x := c), if_neg dark, cut]
      rfl

/-- A blank parts the words before it from those behind it. -/
theorem words_append_blank {blank : Char} (isBlank' : isBlank blank = true)
    (front rest : List Char) : words (front ++ blank :: rest) = words front ++ words rest := by
  rw [words_eq_splitOnP, List.splitOnP_append_cons front rest isBlank', List.filter_append,
    words_eq_splitOnP, words_eq_splitOnP]

/-- Blanks alone hold no word. -/
theorem words_eq_nil_of_blank {text : List Char} (allBlank : ∀ c ∈ text, isBlank c = true) :
    words text = [] := by
  induction text with
  | nil => rfl
  | cons c rest ih =>
      rw [words.eq_def]
      simp only [allBlank c List.mem_cons_self, if_true]
      exact ih fun d inside => allBlank d (List.mem_cons_of_mem _ inside)

/-- A run of blanks parts the words before it from those behind it, whatever its length. -/
theorem words_append_run {run : List Char} (some : run ≠ [])
    (allBlank : ∀ c ∈ run, isBlank c = true) (front back : List Char) :
    words (front ++ (run ++ back)) = words front ++ words back := by
  induction run generalizing front with
  | nil => exact absurd rfl some
  | cons blank rest ih =>
      have blanks : ∀ c ∈ rest, isBlank c = true :=
        fun c inside => allBlank c (List.mem_cons_of_mem _ inside)
      rw [List.cons_append, words_append_blank (allBlank blank List.mem_cons_self)]
      by_cases last : rest = []
      · rw [last, List.nil_append]
      · have none : words (([] : List Char) ++ (rest ++ back)) = words [] ++ words back :=
          ih last blanks []
        rw [List.nil_append] at none
        rw [none, words, List.nil_append]

/-- Blanks at the end add no word. -/
theorem words_append_blanks {run : List Char} (allBlank : ∀ c ∈ run, isBlank c = true)
    (text : List Char) : words (text ++ run) = words text := by
  by_cases empty : run = []
  · rw [empty, List.append_nil]
  · have parted := words_append_run empty allBlank text []
    rwa [words, List.append_nil, List.append_nil] at parted

/-- A word with a blank behind it comes first. -/
theorem words_word_append {word : List Char} (isWord : IsWord word) {blank : Char}
    (isBlank' : isBlank blank = true) (rest : List Char) :
    words (word ++ blank :: rest) = word :: words rest := by
  rw [words_append_blank isBlank', words_word isWord, List.singleton_append]

/-- Words that are put together with spaces are found again. -/
theorem words_intercalate {list : List (List Char)} (allWords : ∀ word ∈ list, IsWord word) :
    words ([' '].intercalate list) = list := by
  induction list with
  | nil => rfl
  | cons first rest ih =>
      have firstWord := allWords first List.mem_cons_self
      have found := ih fun word later => allWords word (List.mem_cons_of_mem _ later)
      cases rest with
      | nil => simpa using words_word firstWord
      | cons next rest =>
          rw [List.intercalate_cons_cons, List.append_assoc, List.singleton_append,
            words_word_append firstWord (by decide), found]

/-- A piece has characters of the text alone, and no separator. -/
theorem mem_of_mem_pieces {separator : Char} {text piece : List Char}
    (member : piece ∈ pieces separator text) {c : Char} (inside : c ∈ piece) :
    c ∈ text ∧ c ≠ separator := by
  induction text generalizing piece with
  | nil =>
      obtain rfl := List.mem_singleton.1 member
      cases inside
  | cons first rest ih =>
      rw [pieces] at member
      split at member
      · rcases List.mem_cons.1 member with rfl | later
        · cases inside
        · obtain ⟨inRest, differs⟩ := ih later inside
          exact ⟨List.mem_cons_of_mem _ inRest, differs⟩
      · rename_i differs
        cases cut : pieces separator rest with
        | nil => exact absurd cut (pieces_ne_nil separator rest)
        | cons head others =>
            rw [cut] at ih member
            rcases List.mem_cons.1 member with rfl | later
            · rcases List.mem_cons.1 inside with rfl | inHead
              · exact ⟨List.mem_cons_self, differs⟩
              · obtain ⟨inRest, apart⟩ := ih List.mem_cons_self inHead
                exact ⟨List.mem_cons_of_mem _ inRest, apart⟩
            · obtain ⟨inRest, apart⟩ := ih (List.mem_cons_of_mem _ later) inside
              exact ⟨List.mem_cons_of_mem _ inRest, apart⟩

/-- A text without the separator is one piece. -/
theorem pieces_of_absent {separator : Char} {text : List Char} (absent : separator ∉ text) :
    pieces separator text = [text] := by
  induction text with
  | nil => rfl
  | cons c rest ih =>
      simp only [List.mem_cons, not_or] at absent
      rw [pieces, if_neg (Ne.symm absent.1), ih absent.2]
      rfl

/-- The piece up to the first separator comes first. -/
theorem pieces_append {separator : Char} {text : List Char} (absent : separator ∉ text)
    (rest : List Char) :
    pieces separator (text ++ separator :: rest) = text :: pieces separator rest := by
  induction text with
  | nil => simp [pieces]
  | cons c tail ih =>
      simp only [List.mem_cons, not_or] at absent
      rw [List.cons_append, pieces, if_neg (Ne.symm absent.1), ih absent.2]
      rfl

/-- Pieces that are put together with separators are found again. -/
theorem pieces_intercalate {separator : Char} {list : List (List Char)} (nonempty : list ≠ [])
    (absent : ∀ piece ∈ list, separator ∉ piece) :
    pieces separator ([separator].intercalate list) = list := by
  induction list with
  | nil => exact absurd rfl nonempty
  | cons first rest ih =>
      have inFirst := absent first List.mem_cons_self
      have found := fun some => ih some fun piece later => absent piece (.tail first later)
      cases rest with
      | nil => simpa using pieces_of_absent inFirst
      | cons next rest =>
          rw [List.intercalate_cons_cons, List.append_assoc, List.singleton_append,
            pieces_append inFirst, found (List.cons_ne_nil next rest)]

/-- Pieces that are left out leave their characters and separators out. -/
theorem intercalate_sublist (separator : Char) {some all : List (List Char)}
    (kept : some.Sublist all) :
    ([separator].intercalate some).Sublist ([separator].intercalate all) := by
  have longer (piece : List Char) (list : List (List Char)) :
      ([separator].intercalate list).Sublist ([separator].intercalate (piece :: list)) := by
    cases list with
    | nil => exact List.nil_sublist _
    | cons next rest =>
        rw [List.intercalate_cons_cons]
        exact List.sublist_append_right _ _
  induction kept with
  | slnil => exact List.Sublist.refl _
  | cons piece _ ih => exact ih.trans (longer piece _)
  | @cons_cons some all piece kept ih =>
      cases some with
      | nil =>
          cases all with
          | nil => exact List.Sublist.refl _
          | cons next rest =>
              rw [List.intercalate_singleton, List.intercalate_cons_cons, List.append_assoc]
              exact List.sublist_append_left _ _
      | cons first others =>
          cases all with
          | nil => cases kept
          | cons next rest =>
              rw [List.intercalate_cons_cons, List.intercalate_cons_cons]
              exact ih.append_left _

/-- At the start of a text the first occurrence is replaced. -/
theorem replaceFirst_append (old new rest : List Char) :
    replaceFirst old new (old ++ rest) = new ++ rest := by
  cases whole : old ++ rest with
  | nil =>
      obtain ⟨rfl, rfl⟩ := List.append_eq_nil_iff.1 whole
      simp [replaceFirst]
  | cons c tail => rw [replaceFirst, after?_eq_some_iff.2 whole.symm]

/-- Where there is no occurrence nothing is replaced. -/
theorem replaceFirst_of_absent {old text : List Char} (new : List Char)
    (absent : ¬ old <:+: text) : replaceFirst old new text = text := by
  induction text with
  | nil =>
      have some : old ≠ [] := fun none => absent (none ▸ List.infix_rfl)
      simp [replaceFirst, some]
  | cons c rest ih =>
      obtain ⟨apart, later⟩ := not_or.1 (mt List.infix_cons_iff.2 absent)
      cases found : after? old (c :: rest) with
      | some tail => exact absurd ⟨tail, (after?_eq_some_iff.1 found).symm⟩ apart
      | none => rw [replaceFirst, found, ih later]

/-- What occurs in a text is replaced at one place. -/
theorem exists_replaceFirst {old text : List Char} (new : List Char) (occurs : old <:+: text) :
    ∃ front back, text = front ++ (old ++ back) ∧
      replaceFirst old new text = front ++ (new ++ back) := by
  induction text with
  | nil =>
      obtain rfl := List.infix_nil.1 occurs
      exact ⟨[], [], rfl, by simp [replaceFirst]⟩
  | cons c rest ih =>
      cases found : after? old (c :: rest) with
      | some tail =>
          have whole : c :: rest = old ++ tail := after?_eq_some_iff.1 found
          exact ⟨[], tail, whole, by rw [replaceFirst, found]; rfl⟩
      | none =>
          have later : old <:+: rest := by
            refine (List.infix_cons_iff.1 occurs).resolve_left ?_
            rintro ⟨tail, whole⟩
            rw [after?_eq_some_iff.2 whole.symm] at found
            cases found
          obtain ⟨front, back, cut, replaced⟩ := ih later
          exact ⟨c :: front, back, by rw [cut]; rfl, by rw [replaceFirst, found, replaced]; rfl⟩

/-- A character that ends no line belongs to the first. -/
theorem lines_of_not_break {c : Char} (stays : isLineBreak c = false) (rest : List Char) :
    lines (c :: rest) = prepend c (lines rest) := by
  have differs : c ≠ '\r' := by
    rintro rfl
    exact absurd stays (by decide)
  rw [lines.eq_3 _ _ fun _ same => absurd same differs, if_neg (by simp [stays])]

/-- The line up to the first line feed comes first. -/
theorem lines_append {text : List Char} (stays : ∀ c ∈ text, isLineBreak c = false)
    (rest : List Char) : lines (text ++ '\n' :: rest) = text :: lines rest := by
  induction text with
  | nil => simp [lines, isLineBreak]
  | cons c tail ih =>
      rw [List.cons_append, lines_of_not_break (stays c List.mem_cons_self),
        ih fun d inside => stays d (List.mem_cons_of_mem _ inside)]
      rfl

/-- Lines that each end with a line feed are found again. -/
theorem lines_flatMap {list : List (List Char)}
    (stays : ∀ line ∈ list, ∀ c ∈ line, isLineBreak c = false) :
    lines (list.flatMap fun line => line ++ ['\n']) = list := by
  induction list with
  | nil => rfl
  | cons first rest ih =>
      rw [List.flatMap_cons, List.append_assoc, List.singleton_append,
        lines_append (stays first List.mem_cons_self),
        ih fun line later => stays line (List.mem_cons_of_mem _ later)]

/-- Without blanks there is nothing to trim. -/
theorem trim_of_dark {text : List Char} (dark : ∀ c ∈ text, isBlank c = false) :
    trim text = text := by
  have kept : ∀ list : List Char, (∀ c ∈ list, isBlank c = false) →
      list.dropWhile isBlank = list := by
    intro list allDark
    cases list with
    | nil => rfl
    | cons c rest => simp [allDark c List.mem_cons_self]
  rw [trim, trimStart, kept text dark, trimEnd, kept _ (by simpa using dark), List.reverse_reverse]

/-- Only the first piece is changed by a character in front. -/
theorem mem_prepend {c : Char} {list : List (List Char)} {piece : List Char}
    (member : piece ∈ prepend c list) :
    piece ∈ list ∨ piece = [c] ∨ ∃ rest ∈ list, piece = c :: rest := by
  cases list with
  | nil => exact .inr (.inl (List.mem_singleton.1 member))
  | cons first rest =>
      rcases List.mem_cons.1 member with isFirst | later
      · exact .inr (.inr ⟨first, List.mem_cons_self, isFirst⟩)
      · exact .inl (List.mem_cons_of_mem _ later)

/-- A word has characters of the text alone. -/
theorem mem_of_mem_words {text word : List Char} (member : word ∈ words text) {c : Char}
    (inside : c ∈ word) : c ∈ text := by
  fun_induction words text generalizing word with
  | case1 => cases member
  | case2 first rest blank ih => exact List.mem_cons_of_mem _ (ih member inside)
  | case3 first dark =>
      obtain rfl := List.mem_singleton.1 member
      exact inside
  | case4 first dark next rest blank ih =>
      rcases List.mem_cons.1 member with rfl | later
      · exact List.mem_singleton.1 inside ▸ List.mem_cons_self
      · exact List.mem_cons_of_mem _ (ih later inside)
  | case5 first dark next rest nextDark ih =>
      rcases mem_prepend member with later | rfl | ⟨tail, inWords, rfl⟩
      · exact List.mem_cons_of_mem _ (ih later inside)
      · exact List.mem_singleton.1 inside ▸ List.mem_cons_self
      · rcases List.mem_cons.1 inside with rfl | inTail
        · exact List.mem_cons_self
        · exact List.mem_cons_of_mem _ (ih inWords inTail)

/-- No line holds a line break. -/
theorem not_break_of_mem_lines {text line : List Char} (member : line ∈ lines text) {c : Char}
    (inside : c ∈ line) : isLineBreak c = false := by
  fun_induction lines text generalizing line with
  | case1 => cases member
  | case2 rest ih =>
      rcases List.mem_cons.1 member with rfl | later
      · cases inside
      · exact ih later inside
  | case3 first rest _ ends ih =>
      rcases List.mem_cons.1 member with rfl | later
      · cases inside
      · exact ih later inside
  | case4 first rest _ stays ih =>
      rcases mem_prepend member with later | rfl | ⟨tail, inLines, rfl⟩
      · exact ih later inside
      · exact List.mem_singleton.1 inside ▸ Bool.eq_false_iff.2 stays
      · rcases List.mem_cons.1 inside with rfl | inTail
        · exact Bool.eq_false_iff.2 stays
        · exact ih inLines inTail

/-- A text that neither begins nor ends with a blank. -/
def IsTight (text : List Char) : Prop :=
  (∀ c ∈ text.head?, isBlank c = false) ∧ ∀ c ∈ text.getLast?, isBlank c = false

-- Only the two ends are tried. A search for an instance may settle on trying every character.
instance (text : List Char) : Decidable (IsTight text) :=
  @instDecidableAnd _ _ text.head?.decidableForallMem text.getLast?.decidableForallMem

/-- No blank is dropped where none comes first. -/
theorem dropWhile_of_head {text : List Char} (dark : ∀ c ∈ text.head?, isBlank c = false) :
    text.dropWhile isBlank = text := by
  cases text with
  | nil => rfl
  | cons c rest => rw [List.dropWhile_cons_of_neg (by simp [dark c rfl])]

/-- What is left begins with no blank. -/
theorem head_dropWhile (text : List Char) :
    ∀ c ∈ (text.dropWhile isBlank).head?, isBlank c = false := by
  intro c first
  have dark := List.head?_dropWhile_not isBlank text
  rw [Option.mem_def.1 first] at dark
  exact dark

/-- A text without blanks at its ends stays. -/
theorem trim_of_tight {text : List Char} (tight : IsTight text) : trim text = text := by
  have last : ∀ c ∈ text.reverse.head?, isBlank c = false := by
    rw [List.head?_reverse]
    exact tight.2
  rw [trim, trimStart, dropWhile_of_head tight.1, trimEnd, dropWhile_of_head last,
    List.reverse_reverse]

/-- Trimming at the end keeps what comes first. -/
theorem trim_front (text : List Char) : trim text <+: trimStart text := by
  apply List.reverse_suffix.1
  rw [trim, trimEnd, List.reverse_reverse]
  exact List.dropWhile_suffix isBlank

/-- What is left of a text without the blanks at its ends is a piece of it. -/
theorem trim_infix (text : List Char) : trim text <:+: text :=
  (trim_front text).isInfix.trans (List.dropWhile_suffix isBlank).isInfix

/-- A trimmed text has no blanks at its ends. -/
theorem isTight_trim (text : List Char) : IsTight (trim text) := by
  constructor
  · intro c first
    obtain ⟨rest, whole⟩ := trim_front text
    apply head_dropWhile text c
    rw [← trimStart, ← whole, List.head?_append, Option.mem_def.1 first]
    rfl
  · rw [trim, trimEnd, List.getLast?_reverse]
    exact head_dropWhile _

/-- A text has no blanks at its ends when trimming keeps it. -/
theorem isTight_iff {text : List Char} : IsTight text ↔ trim text = text :=
  ⟨trim_of_tight, fun same => same ▸ isTight_trim text⟩

/-- A character in front changes the first piece alone. -/
theorem prepend_eq_modifyHead (c : Char) {list : List (List Char)} (nonempty : list ≠ []) :
    prepend c list = list.modifyHead (c :: ·) := by
  cases list with
  | nil => exact absurd rfl nonempty
  | cons first rest => rfl

/-- A character in front goes to the first piece, or to an empty one. -/
theorem prepend_eq_cons (c : Char) (list : List (List Char)) :
    prepend c list = (c :: list.headD []) :: list.tail := by
  cases list <;> rfl

/-- The pieces of a text are what is left of it between its separators. -/
theorem pieces_eq_splitOnP (separator : Char) (text : List Char) :
    pieces separator text = text.splitOnP fun c => c = separator := by
  induction text with
  | nil => rfl
  | cons c rest ih =>
      rw [pieces, List.splitOnP_cons_eq_if_modifyHead,
        prepend_eq_modifyHead c (pieces_ne_nil separator rest), ih]
      simp only [decide_eq_true_eq]

/-- A separator parts the pieces before it from those behind it. -/
theorem pieces_append_separator (separator : Char) (front back : List Char) :
    pieces separator (front ++ separator :: back) =
      pieces separator front ++ pieces separator back := by
  rw [pieces_eq_splitOnP, pieces_eq_splitOnP, pieces_eq_splitOnP,
    List.splitOnP_append_cons front back (by simp)]

/-- Blanks in front are trimmed. -/
theorem trim_blanks_append {blanks : List Char} (allBlank : ∀ c ∈ blanks, isBlank c = true)
    (text : List Char) : trim (blanks ++ text) = trim text := by
  rw [trim, trim, trimStart, trimStart, List.dropWhile_append_of_pos allBlank]

/-- Of blanks alone nothing is left. -/
theorem trim_eq_nil_of_blank {text : List Char} (allBlank : ∀ c ∈ text, isBlank c = true) :
    trim text = [] := by
  have none := trim_blanks_append allBlank []
  rwa [List.append_nil] at none

/-- Blanks at the end are trimmed. -/
theorem trim_append_blanks {blanks : List Char} (allBlank : ∀ c ∈ blanks, isBlank c = true)
    (text : List Char) : trim (text ++ blanks) = trim text := by
  have fromEnd (front : List Char) : trimEnd (front ++ blanks) = trimEnd front := by
    rw [trimEnd, trimEnd, List.reverse_append,
      List.dropWhile_append_of_pos (by simpa using allBlank)]
  rw [trim, trim, trimStart, trimStart, List.dropWhile_append]
  split
  · rename_i gone
    rw [List.isEmpty_iff.1 gone]
    exact trim_eq_nil_of_blank allBlank
  · exact fromEnd _

/-- A text is its trimmed text between blanks. -/
theorem exists_trim (text : List Char) :
    ∃ before behind, text = before ++ trim text ++ behind ∧
      (∀ c ∈ before, isBlank c = true) ∧ ∀ c ∈ behind, isBlank c = true := by
  have cutStart : text = text.takeWhile isBlank ++ trimStart text :=
    List.takeWhile_append_dropWhile.symm
  have cutEnd : trimStart text =
      trim text ++ ((trimStart text).reverse.takeWhile isBlank).reverse := by
    rw [trim, trimEnd, ← List.reverse_append, List.takeWhile_append_dropWhile,
      List.reverse_reverse]
  refine ⟨text.takeWhile isBlank, ((trimStart text).reverse.takeWhile isBlank).reverse, ?_,
    List.all_eq_true.1 List.all_takeWhile, ?_⟩
  · rw [List.append_assoc, ← cutEnd]
    exact cutStart
  · intro c inside
    exact List.all_eq_true.1 List.all_takeWhile c (List.mem_reverse.1 inside)

/-- Nothing is left of a text without the blanks at its ends when it has nothing else. -/
theorem trim_eq_nil_iff {text : List Char} : trim text = [] ↔ ∀ c ∈ text, isBlank c = true := by
  constructor
  · intro none
    obtain ⟨before, behind, cut, beforeBlank, behindBlank⟩ := exists_trim text
    rw [none, List.append_nil] at cut
    intro c inside
    rw [cut] at inside
    exact (List.mem_append.1 inside).elim (beforeBlank c) (behindBlank c)
  · exact trim_eq_nil_of_blank

/-- The blanks at the ends of a text belong to no word. -/
theorem words_trim (text : List Char) : words (trim text) = words text := by
  obtain ⟨before, behind, cut, beforeBlank, behindBlank⟩ := exists_trim text
  have started (rest : List Char) : words (before ++ rest) = words rest := by
    by_cases none : before = []
    · rw [none, List.nil_append]
    · exact words_append_run none beforeBlank [] rest
  calc
    words (trim text) = words (before ++ (trim text ++ behind)) := by
      rw [started, words_append_blanks behindBlank]
    _ = words text := by rw [← List.append_assoc, ← cut]

/-- There is one piece more than separators. -/
theorem length_pieces (separator : Char) (text : List Char) :
    (pieces separator text).length = text.count separator + 1 := by
  induction text with
  | nil => rfl
  | cons c rest ih =>
      rw [pieces]
      by_cases isSeparator : c = separator
      · rw [if_pos isSeparator, List.length_cons, ih, isSeparator, List.count_cons_self]
      · rw [if_neg isSeparator, prepend_eq_modifyHead c (pieces_ne_nil separator rest),
          List.length_modifyHead, ih, List.count_cons_of_ne isSeparator]

/-- The pieces of a text make it up again. -/
theorem intercalate_pieces (separator : Char) (text : List Char) :
    [separator].intercalate (pieces separator text) = text := by
  rw [pieces_eq_splitOnP]
  exact List.intercalate_splitOn separator

/-- Blanks in front of a text stand in front of its first piece. -/
theorem pieces_blanks_append {separator : Char} {blanks : List Char}
    (allBlank : ∀ c ∈ blanks, isBlank c = true) (apart : separator ∉ blanks) (text : List Char) :
    (pieces separator (blanks ++ text)).map trim = (pieces separator text).map trim := by
  induction blanks with
  | nil => rfl
  | cons blank rest ih =>
      simp only [List.mem_cons, not_or] at apart
      have tail := ih (fun c inside => allBlank c (.tail blank inside)) apart.2
      rw [List.cons_append, pieces, if_neg (Ne.symm apart.1),
        prepend_eq_modifyHead blank (pieces_ne_nil _ _), ← tail]
      cases pieces separator (rest ++ text) with
      | nil => rfl
      | cons first others =>
          have blankHere : ∀ c ∈ [blank], isBlank c = true := by simpa using allBlank blank
          exact congrArg (· :: others.map trim) (trim_blanks_append blankHere first)

/-- Text without a separator stands behind the last piece of what is before it. -/
theorem pieces_append_absent {separator : Char} {tail : List Char} (absent : separator ∉ tail)
    (text : List Char) :
    ∃ front last, pieces separator text = front ++ [last] ∧
      pieces separator (text ++ tail) = front ++ [last ++ tail] := by
  induction text with
  | nil => exact ⟨[], [], rfl, pieces_of_absent absent⟩
  | cons c rest ih =>
      obtain ⟨front, last, cut, cutLonger⟩ := ih
      by_cases isSeparator : c = separator
      · refine ⟨[] :: front, last, ?_, ?_⟩
        · rw [pieces, if_pos isSeparator, cut, List.cons_append]
        · rw [List.cons_append, pieces, if_pos isSeparator, cutLonger, List.cons_append]
      · rw [List.cons_append, pieces, if_neg isSeparator, pieces, if_neg isSeparator, cut,
          cutLonger]
        cases front with
        | nil => exact ⟨[], c :: last, rfl, rfl⟩
        | cons first others => exact ⟨(c :: first) :: others, last, rfl, rfl⟩

/-- Blanks at the end of a text change no trimmed piece. -/
theorem pieces_append_blanks {separator : Char} {blanks : List Char}
    (allBlank : ∀ c ∈ blanks, isBlank c = true) (apart : separator ∉ blanks) (text : List Char) :
    (pieces separator (text ++ blanks)).map trim = (pieces separator text).map trim := by
  obtain ⟨front, last, cut, cutLonger⟩ := pieces_append_absent apart text
  rw [cut, cutLonger, List.map_append, List.map_append, List.map_singleton, List.map_singleton,
    trim_append_blanks allBlank]

/-- Lists without empty lines agree when their heads and tails do. -/
theorem filter_congr_head_tail {list other : List (List Char)}
    (head : list.headD [] = other.headD [])
    (tail : list.tail.filter (fun line => line ≠ []) = other.tail.filter fun line => line ≠ []) :
    list.filter (fun line => line ≠ []) = other.filter fun line => line ≠ [] := by
  have cut (list : List (List Char)) : list.filter (fun line => line ≠ []) =
      [list.headD []].filter (fun line => line ≠ []) ++ list.tail.filter fun line => line ≠ [] := by
    cases list with
    | nil => rfl
    | cons first rest => exact List.filter_append [first] rest
  rw [cut list, cut other, head, tail]

/-- The lines of a text are what is left of it between its line breaks, but for empty lines. -/
theorem filter_lines (text : List Char) : (lines text).filter (fun line => line ≠ []) =
    (text.splitOnP isLineBreak).filter fun line => line ≠ [] := by
  suffices same : (lines text).headD [] = (text.splitOnP isLineBreak).headD [] ∧
      (lines text).tail.filter (fun line => line ≠ []) =
        (text.splitOnP isLineBreak).tail.filter fun line => line ≠ [] from
    filter_congr_head_tail same.1 same.2
  -- the first line is told apart, since the next character may still go in front of it
  fun_induction lines text with
  | case1 => exact ⟨rfl, rfl⟩
  | case2 rest ih =>
      have split : ('\r' :: '\n' :: rest).splitOnP isLineBreak =
          [] :: [] :: rest.splitOnP isLineBreak := by
        simp [List.splitOnP_cons_eq_if_modifyHead, isLineBreak]
      have rest := filter_congr_head_tail ih.1 ih.2
      rw [split]
      exact ⟨rfl, rest⟩
  | case3 first rest _ ends ih =>
      rw [List.splitOnP_cons_eq_if_modifyHead, if_pos ends]
      exact ⟨rfl, filter_congr_head_tail ih.1 ih.2⟩
  | case4 first rest _ stays ih =>
      rw [List.splitOnP_cons_eq_if_modifyHead, if_neg stays,
        ← prepend_eq_modifyHead first (List.splitOnP_ne_nil isLineBreak rest), prepend_eq_cons,
        prepend_eq_cons, ih.1]
      exact ⟨rfl, ih.2⟩

end AnnotatedMake.Text

namespace AnnotatedMake

/-- The words of a text have characters and no blanks. -/
theorem isWord_of_mem_wordsOf {text word : String} (member : word ∈ wordsOf text) :
    Text.IsWord word.toList := by
  obtain ⟨characters, cut, rfl⟩ := List.mem_map.1 member
  simpa using Text.mem_words cut

end AnnotatedMake
