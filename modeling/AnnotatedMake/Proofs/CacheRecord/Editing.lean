import AnnotatedMake.Proofs.CacheRecord.Lossless
import Mathlib.Logic.Relation

namespace AnnotatedMake.CacheRecord

/-- Blanks within a line. -/
def IsGap (text : String) : Prop :=
  ∀ c ∈ text.toList, Text.isBlank c = true ∧ Text.isLineBreak c = false

instance (text : String) : Decidable (IsGap text) :=
  List.decidableBAll (fun c => Text.isBlank c = true ∧ Text.isLineBreak c = false) text.toList

/-- Line breaks, at least one. -/
def IsBreak (text : String) : Prop :=
  text ≠ "" ∧ ∀ c ∈ text.toList, Text.isLineBreak c = true

instance (text : String) : Decidable (IsBreak text) :=
  @instDecidableAnd _ _ inferInstance
    (List.decidableBAll (fun c => Text.isLineBreak c = true) text.toList)

def IsOneLine (text : String) : Prop := ∀ c ∈ text.toList, Text.isLineBreak c = false

instance (text : String) : Decidable (IsOneLine text) :=
  List.decidableBAll (fun c => Text.isLineBreak c = false) text.toList

/-- What a field of a record may be. -/
def IsCell (text : String) : Prop := IsOneLine text ∧ fieldSeparator ∉ text.toList

instance (text : String) : Decidable (IsCell text) := inferInstanceAs (Decidable (_ ∧ _))

/-- A line starts behind the text. -/
def StartsLine (front : String) : Prop := ∀ c ∈ front.toList.getLast?, Text.isLineBreak c = true

instance (front : String) : Decidable (StartsLine front) :=
  front.toList.getLast?.decidableForallMem

/-- A line ends before the text. -/
def EndsLine (back : String) : Prop := ∀ c ∈ back.toList.head?, Text.isLineBreak c = true

instance (back : String) : Decidable (EndsLine back) := back.toList.head?.decidableForallMem

/-- A line with three fields. -/
def row (name scope values : String) : String :=
  name ++ String.singleton fieldSeparator ++ scope ++ String.singleton fieldSeparator ++ values

/-- A line without three fields, or whose name or scope is blank. -/
def IsSkipped (line : String) : Prop :=
  line.toList.count fieldSeparator ≠ 2 ∨
    ∃ name scope values, line = row name scope values ∧
      ((∀ c ∈ name.toList, Text.isBlank c = true) ∨ ∀ c ∈ scope.toList, Text.isBlank c = true)

/-- One change of the text of a cache file. -/
inductive Change : String → String → Prop
  | pad (front gap back : String) (isGap : IsGap gap)
      (atEdge : StartsLine front ∨ front.toList.getLast? = some fieldSeparator ∨
        back.toList.head? = some fieldSeparator ∨ EndsLine back) :
      Change (front ++ back) (front ++ gap ++ back)
  | respace (front name scope before held given behind back : String)
      (starts : StartsLine front) (ends : EndsLine back)
      (cells : ∀ cell ∈ [name, scope, before, behind], IsCell cell)
      (someHeld : held ≠ "") (heldGap : IsGap held)
      (someGiven : given ≠ "") (givenGap : IsGap given) :
      Change (front ++ row name scope (before ++ held ++ behind) ++ back)
        (front ++ row name scope (before ++ given ++ behind) ++ back)
  | insertBefore (front line breaks back : String) (starts : StartsLine front)
      (oneLine : IsOneLine line) (idle : IsSkipped line) (isBreak : IsBreak breaks) :
      Change (front ++ back) (front ++ line ++ breaks ++ back)
  | insertBehind (front breaks line back : String) (ends : EndsLine back)
      (oneLine : IsOneLine line) (idle : IsSkipped line) (isBreak : IsBreak breaks) :
      Change (front ++ back) (front ++ breaks ++ line ++ back)
  | split (front name scope values first breaks second back : String)
      (starts : StartsLine front) (ends : EndsLine back)
      (cells : ∀ cell ∈ [name, scope, values, first, second], IsCell cell)
      (parted : wordsOf values = wordsOf first ++ wordsOf second) (isBreak : IsBreak breaks) :
      Change (front ++ row name scope values ++ back)
        (front ++ row name scope first ++ breaks ++ row name scope second ++ back)

section Line

/-- Only what is left of the fields without the blanks at their ends counts. -/
theorem ofLine?_eq_trim (line : String) :
    ofLine? line = match (Text.pieces fieldSeparator line.toList).map Text.trim with
      | [name, scope, values] =>
        if name = [] || scope = [] then none
        else some ((String.ofList scope, String.ofList name),
          (Text.words values).map String.ofList)
      | _ => none := by
  rw [ofLine?, piecesOf]
  rcases Text.pieces fieldSeparator line.toList with
    _ | ⟨first, _ | ⟨second, _ | ⟨third, _ | ⟨fourth, rest⟩⟩⟩⟩
  case cons.cons.cons.nil =>
      simp only [List.map_cons, List.map_nil, trimmed, wordsOf, String.toList_ofList,
        String.ofList_eq_empty_iff, Text.words_trim]
  all_goals rfl

/-- Lines with the same trimmed fields are one record. -/
theorem ofLine?_congr {line other : String}
    (same : (Text.pieces fieldSeparator line.toList).map Text.trim =
      (Text.pieces fieldSeparator other.toList).map Text.trim) : ofLine? line = ofLine? other := by
  rw [ofLine?_eq_trim, ofLine?_eq_trim, same]

/-- A line with more or fewer than two separators is no record. -/
theorem ofLine?_eq_none_of_count {line : String} (count : line.toList.count fieldSeparator ≠ 2) :
    ofLine? line = none := by
  have length := Text.length_pieces fieldSeparator line.toList
  rw [ofLine?_eq_trim]
  split
  · rename_i three
    have isThree := congrArg List.length three
    rw [List.length_map, length] at isThree
    exact absurd (Nat.succ.inj isThree) count
  · rfl

/-- A row is its three fields between separators. -/
theorem toList_row (name scope values : String) : (row name scope values).toList =
    name.toList ++ fieldSeparator :: (scope.toList ++ fieldSeparator :: values.toList) := by
  simp [row]

/-- A row is a record when its name and scope are not blank. -/
theorem ofLine?_row {name scope values : String} (nameWhole : fieldSeparator ∉ name.toList)
    (scopeWhole : fieldSeparator ∉ scope.toList) (valuesWhole : fieldSeparator ∉ values.toList) :
    ofLine? (row name scope values) =
      if trimmed name = "" || trimmed scope = "" then none
      else some ((trimmed scope, trimmed name), wordsOf values) := by
  rw [ofLine?, piecesOf, toList_row, Text.pieces_append nameWhole, Text.pieces_append scopeWhole,
    Text.pieces_of_absent valuesWhole]
  simp only [List.map_cons, List.map_nil, String.ofList_toList]

/-- Nothing is left of a text when it is blank. -/
theorem trimmed_eq_empty_iff {text : String} :
    trimmed text = "" ↔ ∀ c ∈ text.toList, Text.isBlank c = true := by
  rw [trimmed, String.ofList_eq_empty_iff, Text.trim_eq_nil_iff]

/-- With two separators in a row its fields hold none. -/
theorem whole_of_count_row {name scope values : String}
    (count : (row name scope values).toList.count fieldSeparator = 2) :
    fieldSeparator ∉ name.toList ∧ fieldSeparator ∉ scope.toList ∧
      fieldSeparator ∉ values.toList := by
  simp only [toList_row, List.count_append, List.count_cons_self] at count
  simp only [← List.count_eq_zero]
  omega

/-- A line with two separators is a row. -/
theorem exists_row_of_count {line : String} (count : line.toList.count fieldSeparator = 2) :
    ∃ name scope values, line = row name scope values := by
  obtain ⟨name, scope, values, cut⟩ :
      ∃ name scope values, Text.pieces fieldSeparator line.toList = [name, scope, values] := by
    rw [← List.length_eq_three, Text.length_pieces, count]
  have joined := Text.intercalate_pieces fieldSeparator line.toList
  rw [cut] at joined
  refine ⟨String.ofList name, String.ofList scope, String.ofList values, ?_⟩
  rw [← String.toList_inj, toList_row, ← joined]
  simp

/-- Exactly the lines that are skipped hold no record. -/
theorem isSkipped_iff {line : String} : IsSkipped line ↔ ofLine? line = none := by
  by_cases count : line.toList.count fieldSeparator = 2
  · have unnamed {name scope values : String} (isRow : line = row name scope values) :
        ofLine? line = none ↔ (∀ c ∈ name.toList, Text.isBlank c = true) ∨
          ∀ c ∈ scope.toList, Text.isBlank c = true := by
      obtain ⟨nameWhole, scopeWhole, valuesWhole⟩ := whole_of_count_row (isRow ▸ count)
      rw [isRow, ofLine?_row nameWhole scopeWhole valuesWhole, ← trimmed_eq_empty_iff,
        ← trimmed_eq_empty_iff]
      split <;> simp_all
    constructor
    · rintro (differs | ⟨name, scope, values, isRow, blank⟩)
      · exact absurd count differs
      · exact (unnamed isRow).2 blank
    · intro none
      obtain ⟨name, scope, values, isRow⟩ := exists_row_of_count count
      exact .inr ⟨name, scope, values, isRow, (unnamed isRow).1 none⟩
  · exact ⟨fun _ => ofLine?_eq_none_of_count count, fun _ => .inl count⟩

instance (line : String) : Decidable (IsSkipped line) := decidable_of_iff _ isSkipped_iff.symm

/-- Blanks beside a separator or at an end of a line do not count. -/
theorem ofLine?_pad {front gap back : List Char} (allBlank : ∀ c ∈ gap, Text.isBlank c = true)
    (atEdge : front = [] ∨ front.getLast? = some fieldSeparator ∨
      back.head? = some fieldSeparator ∨ back = []) :
    ofLine? (String.ofList (front ++ gap ++ back)) = ofLine? (String.ofList (front ++ back)) := by
  have apart : fieldSeparator ∉ gap := fun inside => absurd (allBlank _ inside) (by decide)
  apply ofLine?_congr
  rw [String.toList_ofList, String.toList_ofList, List.append_assoc]
  rcases atEdge with rfl | ends | starts | rfl
  · exact Text.pieces_blanks_append allBlank apart back
  · obtain ⟨before, rfl⟩ := List.getLast?_eq_some_iff.1 ends
    rw [List.append_assoc, List.append_assoc, List.singleton_append, List.singleton_append,
      Text.pieces_append_separator, Text.pieces_append_separator, List.map_append,
      Text.pieces_blanks_append allBlank apart, List.map_append]
  · obtain ⟨behind, rfl⟩ := List.head?_eq_some_iff.1 starts
    rw [← List.append_assoc, Text.pieces_append_separator, Text.pieces_append_separator,
      List.map_append, Text.pieces_append_blanks allBlank apart, List.map_append]
  · rw [List.append_nil, List.append_nil]
    exact Text.pieces_append_blanks allBlank apart front

/-- A run of blanks parts the values before it from those behind it, whatever its length. -/
theorem wordsOf_gap {gap : String} (some' : gap ≠ "") (isGap : IsGap gap)
    (before behind : String) :
    wordsOf (before ++ gap ++ behind) = wordsOf before ++ wordsOf behind := by
  have nonempty : gap.toList ≠ [] := fun empty => some' (String.toList_eq_nil_iff.1 empty)
  rw [wordsOf, wordsOf, wordsOf, String.toList_append, String.toList_append, List.append_assoc,
    Text.words_append_run nonempty fun c inside => (isGap c inside).1, List.map_append]

end Line

section Text

/-- The records in a text, in the order of its lines. -/
def recordsIn (text : List Char) : List ((String × String) × List String) :=
  (Text.lines text).filterMap fun line => ofLine? (String.ofList line)

/-- Texts with the same merged records are one index. -/
theorem decodeIndex_congr {text other : String}
    (same : (merge (recordsIn text.toList)).entries = (merge (recordsIn other.toList)).entries) :
    decodeIndex text = decodeIndex other := by
  have read (text : String) : (linesOf text).filterMap ofLine? = recordsIn text.toList :=
    List.filterMap_map
  rw [decodeIndex_eq, decodeIndex_eq, definitionsIn, definitionsIn, read, read, same]

/-- Records are read line by line. -/
theorem recordsIn_eq_splitOnP (text : List Char) : recordsIn text =
    (text.splitOnP Text.isLineBreak).filterMap fun line => ofLine? (String.ofList line) := by
  have nothing : ofLine? (String.ofList []) = none := by decide
  have skipped (list : List (List Char)) :
      list.filterMap (fun line => ofLine? (String.ofList line)) =
        (list.filter fun line => line ≠ []).filterMap fun line =>
          ofLine? (String.ofList line) := by
    rw [List.filterMap_filter]
    congr 1
    funext line
    by_cases empty : line = [] <;> simp [empty, nothing]
  rw [recordsIn, skipped, Text.filter_lines, ← skipped]

/-- A line break parts the records before it from those behind it. -/
theorem recordsIn_append_break {c : Char} (ends : Text.isLineBreak c = true)
    (front back : List Char) :
    recordsIn (front ++ c :: back) = recordsIn front ++ recordsIn back := by
  rw [recordsIn_eq_splitOnP, List.splitOnP_append_cons front back ends, List.filterMap_append,
    ← recordsIn_eq_splitOnP, ← recordsIn_eq_splitOnP]

theorem recordsIn_nil : recordsIn [] = [] := rfl

/-- Records behind the start of a line are read on their own. -/
theorem recordsIn_append_of_startsLine {front : String} (starts : StartsLine front)
    (back : List Char) :
    recordsIn (front.toList ++ back) = recordsIn front.toList ++ recordsIn back := by
  cases last : front.toList.getLast? with
  | none => rw [List.getLast?_eq_none_iff.1 last, recordsIn_nil, List.nil_append, List.nil_append]
  | some c =>
      have ends := starts c last
      obtain ⟨before, cut⟩ := List.getLast?_eq_some_iff.1 last
      rw [cut, List.append_assoc, List.singleton_append, recordsIn_append_break ends,
        recordsIn_append_break ends, recordsIn_nil, List.append_nil]

/-- Records before the end of a line are read on their own. -/
theorem recordsIn_append_of_endsLine {back : String} (ends : EndsLine back) (front : List Char) :
    recordsIn (front ++ back.toList) = recordsIn front ++ recordsIn back.toList := by
  cases first : back.toList with
  | nil => rw [recordsIn_nil, List.append_nil, List.append_nil]
  | cons c behind =>
      have breaks : Text.isLineBreak c = true := ends c (by rw [first]; rfl)
      have alone : recordsIn (c :: behind) = recordsIn behind :=
        recordsIn_append_break breaks [] behind
      rw [recordsIn_append_break breaks, alone]

/-- A single line is one record at most. -/
theorem recordsIn_oneLine {line : String} (oneLine : IsOneLine line) :
    recordsIn line.toList = (ofLine? line).toList := by
  have whole : line.toList.splitOnP Text.isLineBreak = [line.toList] :=
    List.splitOnP_eq_singleton oneLine
  rw [recordsIn_eq_splitOnP, whole]
  cases found : ofLine? line <;> simp [found]

/-- A text holds the records before a line, the one on the line and those behind it. -/
theorem recordsIn_around {front line back : String} (starts : StartsLine front)
    (oneLine : IsOneLine line) (ends : EndsLine back) :
    recordsIn (front ++ line ++ back).toList =
      recordsIn front.toList ++ ((ofLine? line).toList ++ recordsIn back.toList) := by
  rw [String.toList_append, recordsIn_append_of_endsLine ends, String.toList_append,
    recordsIn_append_of_startsLine starts, recordsIn_oneLine oneLine, List.append_assoc]

/-- Line breaks alone hold no record. -/
theorem recordsIn_isBreak {breaks : String} (isBreak : IsBreak breaks) :
    recordsIn breaks.toList = [] := by
  have allEnd := isBreak.2
  generalize breaks.toList = characters at allEnd ⊢
  induction characters with
  | nil => rfl
  | cons c rest ih =>
      have alone : recordsIn (c :: rest) = recordsIn rest :=
        recordsIn_append_break (allEnd c List.mem_cons_self) [] rest
      rw [alone, ih fun d inside => allEnd d (.tail c inside)]

/-- Behind line breaks a line starts. -/
theorem IsBreak.startsLine {breaks : String} (isBreak : IsBreak breaks) : StartsLine breaks :=
  fun c last => isBreak.2 c (List.mem_of_getLast? last)

/-- Before line breaks a line ends. -/
theorem IsBreak.endsLine_append {breaks : String} (isBreak : IsBreak breaks) (back : String) :
    EndsLine (breaks ++ back) := by
  intro c first
  have some' : breaks.toList ≠ [] := fun empty => isBreak.1 (String.toList_eq_nil_iff.1 empty)
  obtain ⟨head, rest, cut⟩ := List.exists_cons_of_ne_nil some'
  rw [String.toList_append, cut] at first
  obtain rfl := Option.some.inj first
  exact isBreak.2 head (cut ▸ List.mem_cons_self)

/-- Behind a text with line breaks a line starts. -/
theorem IsBreak.startsLine_append {breaks : String} (isBreak : IsBreak breaks) (front : String) :
    StartsLine (front ++ breaks) := by
  intro c last
  have some' : breaks.toList ≠ [] := fun empty => isBreak.1 (String.toList_eq_nil_iff.1 empty)
  rw [String.toList_append, List.getLast?_append_of_ne_nil _ some'] at last
  exact isBreak.startsLine c last

/-- The line that a text ends on. -/
theorem exists_lineStart (front : String) :
    ∃ before line, front = before ++ line ∧ StartsLine before ∧ IsOneLine line := by
  suffices cut : ∀ front : List Char, ∃ before line, front = before ++ line ∧
      (∀ c ∈ before.getLast?, Text.isLineBreak c = true) ∧
      ∀ c ∈ line, Text.isLineBreak c = false by
    obtain ⟨before, line, whole, starts, oneLine⟩ := cut front.toList
    refine ⟨String.ofList before, String.ofList line, ?_, ?_, ?_⟩
    · rw [← String.toList_inj, whole]
      simp
    · rwa [StartsLine, String.toList_ofList]
    · rwa [IsOneLine, String.toList_ofList]
  intro front
  induction front using List.reverseRec with
  | nil => exact ⟨[], [], rfl, by simp, by simp⟩
  | append_singleton front c ih =>
      cases breaks : Text.isLineBreak c with
      | true => exact ⟨front ++ [c], [], (List.append_nil _).symm, by simp [breaks], by simp⟩
      | false =>
          obtain ⟨before, line, rfl, starts, oneLine⟩ := ih
          refine ⟨before, line ++ [c], List.append_assoc .., starts, ?_⟩
          simpa [or_imp, forall_and, breaks] using oneLine

/-- The line that a text begins on. -/
theorem exists_lineEnd (back : String) :
    ∃ line behind, back = line ++ behind ∧ IsOneLine line ∧ EndsLine behind := by
  suffices cut : ∀ back : List Char, ∃ line behind, back = line ++ behind ∧
      (∀ c ∈ line, Text.isLineBreak c = false) ∧
      ∀ c ∈ behind.head?, Text.isLineBreak c = true by
    obtain ⟨line, behind, whole, oneLine, ends⟩ := cut back.toList
    refine ⟨String.ofList line, String.ofList behind, ?_, ?_, ?_⟩
    · rw [← String.toList_inj, whole]
      simp
    · rwa [IsOneLine, String.toList_ofList]
    · rwa [EndsLine, String.toList_ofList]
  intro back
  induction back with
  | nil => exact ⟨[], [], rfl, by simp, by simp⟩
  | cons c rest ih =>
      cases breaks : Text.isLineBreak c with
      | true => exact ⟨[], c :: rest, rfl, by simp, by simp [breaks]⟩
      | false =>
          obtain ⟨line, behind, rfl, oneLine, ends⟩ := ih
          refine ⟨c :: line, behind, rfl, ?_, ends⟩
          simpa [breaks] using oneLine

/-- Blanks at the edge of a field change no record. -/
theorem recordsIn_pad {front gap back : String} (isGap : IsGap gap)
    (atEdge : StartsLine front ∨ front.toList.getLast? = some fieldSeparator ∨
      back.toList.head? = some fieldSeparator ∨ EndsLine back) :
    recordsIn (front ++ gap ++ back).toList = recordsIn (front ++ back).toList := by
  obtain ⟨before, left, rfl, starts, leftOneLine⟩ := exists_lineStart front
  obtain ⟨right, behind, rfl, rightOneLine, ends⟩ := exists_lineEnd back
  have onLine : left.toList = [] ∨ left.toList.getLast? = some fieldSeparator ∨
      right.toList.head? = some fieldSeparator ∨ right.toList = [] := by
    by_cases noLeft : left.toList = []
    · exact .inl noLeft
    by_cases noRight : right.toList = []
    · exact .inr (.inr (.inr noRight))
    rw [StartsLine, EndsLine, String.toList_append, String.toList_append,
      List.getLast?_append_of_ne_nil _ noLeft, List.head?_append_of_ne_nil _ noRight] at atEdge
    rcases atEdge with starts | last | first | ends
    · have last := List.getLast?_eq_some_getLast noLeft
      have stays := leftOneLine _ (List.getLast_mem noLeft)
      rw [starts _ last] at stays
      cases stays
    · exact .inr (.inl last)
    · exact .inr (.inr (.inl first))
    · have first := List.head?_eq_some_head noRight
      have stays := rightOneLine _ (List.head_mem noRight)
      rw [ends _ first] at stays
      cases stays
  have oneLine : IsOneLine (left ++ right) := by
    simpa [IsOneLine, or_imp, forall_and] using ⟨leftOneLine, rightOneLine⟩
  have paddedOneLine : IsOneLine (left ++ gap ++ right) := by
    have gapOneLine : IsOneLine gap := fun c inside => (isGap c inside).2
    simpa [IsOneLine, or_imp, forall_and] using ⟨leftOneLine, gapOneLine, rightOneLine⟩
  have same : ofLine? (left ++ gap ++ right) = ofLine? (left ++ right) := by
    have padded := ofLine?_pad (fun c inside => (isGap c inside).1) onLine
    rwa [← String.toList_append, ← String.toList_append, ← String.toList_append,
      String.ofList_toList, String.ofList_toList] at padded
  calc
    recordsIn (before ++ left ++ gap ++ (right ++ behind)).toList =
        recordsIn (before ++ (left ++ gap ++ right) ++ behind).toList := by
      simp only [String.append_assoc]
    _ = recordsIn (before ++ (left ++ right) ++ behind).toList := by
      rw [recordsIn_around starts paddedOneLine ends, recordsIn_around starts oneLine ends, same]
    _ = recordsIn (before ++ left ++ (right ++ behind)).toList := by
      simp only [String.append_assoc]

/-- A skipped line may be put before others. -/
theorem recordsIn_insertBefore {front line breaks back : String} (starts : StartsLine front)
    (oneLine : IsOneLine line) (idle : IsSkipped line) (isBreak : IsBreak breaks) :
    recordsIn (front ++ line ++ breaks ++ back).toList = recordsIn (front ++ back).toList := by
  rw [String.append_assoc, recordsIn_around starts oneLine (isBreak.endsLine_append back),
    isSkipped_iff.1 idle, String.toList_append, recordsIn_append_of_startsLine isBreak.startsLine,
    recordsIn_isBreak isBreak, String.toList_append, recordsIn_append_of_startsLine starts]
  rfl

/-- A skipped line may be put behind others. -/
theorem recordsIn_insertBehind {front breaks line back : String} (ends : EndsLine back)
    (oneLine : IsOneLine line) (idle : IsSkipped line) (isBreak : IsBreak breaks) :
    recordsIn (front ++ breaks ++ line ++ back).toList = recordsIn (front ++ back).toList := by
  have breaksEnd : EndsLine breaks := by
    have bare := isBreak.endsLine_append ""
    rwa [String.append_empty] at bare
  rw [recordsIn_around (isBreak.startsLine_append front) oneLine ends, isSkipped_iff.1 idle,
    String.toList_append, recordsIn_append_of_endsLine breaksEnd, recordsIn_isBreak isBreak,
    String.toList_append, recordsIn_append_of_endsLine ends, List.append_nil]
  rfl

end Text

/-- A row of fields without line breaks is one line. -/
theorem isOneLine_row {name scope values : String} (nameOneLine : IsOneLine name)
    (scopeOneLine : IsOneLine scope) (valuesOneLine : IsOneLine values) :
    IsOneLine (row name scope values) := by
  have separator : Text.isLineBreak fieldSeparator = false := by decide
  rw [IsOneLine, toList_row]
  simpa [or_imp, forall_and, separator] using ⟨nameOneLine, scopeOneLine, valuesOneLine⟩

/-- Blanks within a cell leave it a cell. -/
theorem IsCell.respaced {before gap behind : String} (beforeCell : IsCell before)
    (isGap : IsGap gap) (behindCell : IsCell behind) : IsCell (before ++ gap ++ behind) := by
  have apart : fieldSeparator ∉ gap.toList :=
    fun inside => absurd (isGap _ inside).1 (by decide)
  have gapOneLine : IsOneLine gap := fun c inside => (isGap c inside).2
  constructor
  · simpa [IsOneLine, or_imp, forall_and] using ⟨beforeCell.1, gapOneLine, behindCell.1⟩
  · simpa using ⟨beforeCell.2, apart, behindCell.2⟩

/-- The values of a record may be spread over two records of the same scope and name. -/
theorem entries_merge_split (front back : List ((String × String) × List String))
    (key : String × String) (first second : List String) :
    (merge (front ++ ([(key, first ++ second)] ++ back))).entries =
      (merge (front ++ ([(key, first)] ++ ([(key, second)] ++ back)))).entries := by
  have keys : distinct ((front ++ ([(key, first ++ second)] ++ back)).map Prod.fst) =
      distinct ((front ++ ([(key, first)] ++ ([(key, second)] ++ back))).map Prod.fst) := by
    simp [distinct_append, distinct]
  rw [entries_merge_eq, entries_merge_eq, keys]
  apply List.map_congr_left
  intro other _
  by_cases same : key = other <;> simp [same]

/-- One change of the text leaves the index. -/
theorem decodeIndex_edit {text edited : String} (edit : Change text edited) :
    decodeIndex text = decodeIndex edited := by
  apply decodeIndex_congr
  cases edit with
  | pad front gap back isGap atEdge => rw [recordsIn_pad isGap atEdge]
  | respace front name scope before held given behind back starts ends cells someHeld heldGap
      someGiven givenGap =>
      simp only [List.forall_mem_cons] at cells
      obtain ⟨nameCell, scopeCell, beforeCell, behindCell, -⟩ := cells
      have heldCell := beforeCell.respaced heldGap behindCell
      have givenCell := beforeCell.respaced givenGap behindCell
      rw [recordsIn_around starts (isOneLine_row nameCell.1 scopeCell.1 heldCell.1) ends,
        recordsIn_around starts (isOneLine_row nameCell.1 scopeCell.1 givenCell.1) ends,
        ofLine?_row nameCell.2 scopeCell.2 heldCell.2,
        ofLine?_row nameCell.2 scopeCell.2 givenCell.2, wordsOf_gap someHeld heldGap,
        wordsOf_gap someGiven givenGap]
  | insertBefore front line breaks back starts oneLine idle isBreak =>
      rw [recordsIn_insertBefore starts oneLine idle isBreak]
  | insertBehind front breaks line back ends oneLine idle isBreak =>
      rw [recordsIn_insertBehind ends oneLine idle isBreak]
  | split front name scope values first breaks second back starts ends cells parted isBreak =>
      simp only [List.forall_mem_cons] at cells
      obtain ⟨nameCell, scopeCell, valuesCell, firstCell, secondCell, -⟩ := cells
      have rowOneLine {values : String} (cell : IsCell values) :
          IsOneLine (row name scope values) := isOneLine_row nameCell.1 scopeCell.1 cell.1
      have secondRow : recordsIn (breaks ++ (row name scope second ++ back)).toList =
          (ofLine? (row name scope second)).toList ++ recordsIn back.toList := by
        rw [← String.append_assoc,
          recordsIn_around isBreak.startsLine (rowOneLine secondCell) ends,
          recordsIn_isBreak isBreak, List.nil_append]
      have bothRows : recordsIn (front ++ row name scope first ++ breaks ++
          row name scope second ++ back).toList =
            recordsIn front.toList ++ ((ofLine? (row name scope first)).toList ++
              ((ofLine? (row name scope second)).toList ++ recordsIn back.toList)) := by
        rw [String.append_assoc, String.append_assoc,
          recordsIn_around starts (rowOneLine firstCell) (isBreak.endsLine_append _), secondRow]
      rw [recordsIn_around starts (rowOneLine valuesCell) ends, bothRows,
        ofLine?_row nameCell.2 scopeCell.2 valuesCell.2,
        ofLine?_row nameCell.2 scopeCell.2 firstCell.2,
        ofLine?_row nameCell.2 scopeCell.2 secondCell.2, parted]
      split
      · rfl
      · exact entries_merge_split ..

/-- Layout, lines that are no records and the spread of values do not change the index. -/
theorem decodeIndex_of_edits {text edited : String} (edits : Relation.EqvGen Change text edited) :
    decodeIndex edited = decodeIndex text := by
  induction edits with
  | rel _ _ edit => exact (decodeIndex_edit edit).symm
  | refl => rfl
  | symm _ _ _ ih => exact ih.symm
  | trans _ _ _ _ _ first second => exact second.trans first

/-- Edits of each kind, with a separator that is no line end and a line that a form feed ends. -/
theorem decodeIndex_of_edits_formFeed :
    let text := "x|all|a b c\n"
    let edited := " |all|d\u000C\u001Fx|all|a\u2028\u001Fx|all|b c\n"
    Relation.EqvGen Change text edited ∧ decodeIndex edited = decodeIndex text := by
  intro text edited
  let padded := "\u001Fx|all|a b c\n"
  let respaced := "\u001Fx|all|a\u00A0\tb c\n"
  have pad : Change text padded := .pad "" "\u001F" text (by decide) (.inl (by decide))
  have respace : Change padded respaced :=
    .respace "" "\u001Fx" "all" "a" " " "\u00A0\t" "b c" "\n" (by decide) (by decide) (by decide)
      (by decide) (by decide) (by decide) (by decide)
  have insert : Change respaced (" |all|d\u000C" ++ respaced) :=
    .insertBefore "" " |all|d" "\u000C" respaced (by decide) (by decide) (by decide) (by decide)
  have split : Change (" |all|d\u000C" ++ respaced) edited :=
    .split " |all|d\u000C" "\u001Fx" "all" "a\u00A0\tb c" "a" "\u2028" "b c" "\n" (by decide)
      (by decide) (by decide) (by decide) (by decide)
  have edits : Relation.EqvGen Change text edited :=
    .trans _ _ _ (.rel _ _ pad) (.trans _ _ _ (.rel _ _ respace)
      (.trans _ _ _ (.rel _ _ insert) (.rel _ _ split)))
  exact ⟨edits, decodeIndex_of_edits edits⟩

end AnnotatedMake.CacheRecord
