import AnnotatedMake.Toml.Document

namespace AnnotatedMake.Toml

/-- A fault of the text that is read. -/
inductive IsOfText : Fault → Prop
  | notToml : IsOfText .notToml
  | tooNested : IsOfText .tooNested
  | longInteger (digits : Nat) : IsOfText (.longInteger digits)

/-- A reading gives a result, or ends with a fault of its text. -/
inductive IsReading {α : Type} : Except Fault α → Prop
  | ok (result : α) : IsReading (.ok result)
  | error {fault : Fault} (ofText : IsOfText fault) : IsReading (.error fault)

attribute [simp] IsReading.ok

section Reading

variable {α β : Type} {reply : Except Fault α}

/-- A result is no fault. -/
@[simp] theorem IsReading.pure (result : α) : IsReading (pure result : Except Fault α) := .ok result

/-- To refuse a text is a fault of reading. -/
@[simp] theorem IsReading.refuse : IsReading (refuse : Except Fault α) := .error .notToml

/-- Readers one behind the other have the faults of both. -/
theorem IsReading.bind {next : α → Except Fault β} (first : IsReading reply)
    (second : ∀ result, IsReading (next result)) : IsReading (reply >>= next) := by
  cases first with
  | ok result => exact second result
  | error ofText => exact .error ofText

/-- A choice of readers has the faults of both. -/
theorem IsReading.ite {test : Prop} [Decidable test] {other : Except Fault α}
    (first : IsReading reply) (second : IsReading other) :
    IsReading (if test then reply else other) := by
  split
  · exact first
  · exact second

/-- A changed result has the same faults. -/
theorem IsReading.map {change : α → β} (first : IsReading reply) :
    IsReading (reply.map change) := by
  cases first with
  | ok result => exact .ok _
  | error ofText => exact .error ofText

end Reading

section Text

variable (text : List Char)

theorem isReading_skipComment : IsReading (skipComment text) := by
  unfold skipComment
  split
  · split <;> simp
  · simp

/-- Blanks, comments and line ends are skipped without another fault. -/
theorem isReading_skipSpaceWithin (fuel : Nat) : IsReading (skipSpaceWithin fuel text) := by
  induction fuel generalizing text with
  | zero => simp [skipSpaceWithin]
  | succ fuel ih =>
      rw [skipSpaceWithin.eq_def]
      dsimp only
      split
      · rename_i rest _
        have further := (isReading_skipComment ('#' :: rest)).bind ih
        cases found : skipComment ('#' :: rest) <;> rwa [found] at further
      · simp

theorem isReading_skipSpace : IsReading (skipSpace text) := isReading_skipSpaceWithin text _

/-- The digits of a character are read without another fault. -/
theorem isReading_readCode (count : Nat) : IsReading (readCode count text) := by
  unfold readCode
  dsimp only
  split
  · split <;> simp
  · simp

/-- An escape is read without another fault. -/
theorem isReading_readEscape (multiline : Bool) : IsReading (readEscape multiline text) := by
  unfold readEscape
  split
  · simp
  · split
    · dsimp only
      split <;> simp
    · split
      · exact (isReading_readCode _ _).bind fun _ => .pure _
      · split <;> simp

/-- A text with escapes is read without another fault. -/
theorem isReading_readBasicWithin (multiline : Bool) (fuel : Nat) :
    IsReading (readBasicWithin multiline fuel text) := by
  induction fuel generalizing text with
  | zero => simp [readBasicWithin]
  | succ fuel ih =>
      rw [readBasicWithin.eq_def]
      dsimp only
      split
      · simp
      · split
        · simp
        · split
          · simp
          · exact (ih _).bind fun _ => .pure _
      · exact (isReading_readEscape _ _).bind fun _ => (ih _).bind fun _ => .pure _
      · refine .ite .refuse ?_
        exact (ih _).bind fun _ => .pure _

theorem isReading_readBasic (multiline : Bool) : IsReading (readBasic multiline text) :=
  isReading_readBasicWithin text multiline _

theorem isReading_readLiteral : IsReading (readLiteral text) := by
  unfold readLiteral
  dsimp only
  split
  · simp
  · split <;> simp

theorem isReading_readLiteralLines : IsReading (readLiteralLines text) := by
  induction text with
  | nil => simp [readLiteralLines]
  | cons c rest ih =>
      rw [readLiteralLines.eq_def]
      split
      · simp
      · simp
      · rename_i first others _ same
        obtain ⟨rfl, rfl⟩ := List.cons.inj same
        split
        · simp
        · exact ih.bind fun _ => .pure _

theorem isReading_readString : IsReading (readString text) := by
  unfold readString
  split
  · exact (isReading_readBasic _ _).bind fun _ => .pure _
  · exact isReading_readBasic _ _
  · exact (isReading_readLiteralLines _).bind fun _ => .pure _
  · exact isReading_readLiteral _
  · simp

theorem isReading_readKeyPart : IsReading (readKeyPart text) := by
  unfold readKeyPart
  split
  · exact (isReading_readBasic _ _).bind fun _ => .pure _
  · exact (isReading_readLiteral _).bind fun _ => .pure _
  · dsimp only
    split <;> simp

/-- The parts of a key are read without another fault. -/
theorem isReading_readKeyWithin (fuel : Nat) : IsReading (readKeyWithin fuel text) := by
  induction fuel generalizing text with
  | zero => simp [readKeyWithin]
  | succ fuel ih =>
      rw [readKeyWithin]
      refine (isReading_readKeyPart text).bind fun (_, _) => ?_
      dsimp only
      split
      · exact (ih _).bind fun _ => .pure _
      · simp

/-- A key is read without another fault. -/
theorem isReading_readKey : IsReading (readKey text) := isReading_readKeyWithin text _

end Text

section Value

variable (text : List Char)

/-- A decimal number ends with a fault of reading at most. -/
theorem isReading_readDecimal : IsReading (readDecimal text) := by
  unfold readDecimal
  dsimp only
  split
  · simp
  · split
    · simp
    · split
      · simp
      · split
        · exact .error (.longInteger _)
        · simp

/-- A scalar ends with a fault of reading at most. -/
theorem isReading_readScalar : IsReading (readScalar text) := by
  unfold readScalar
  split
  · split <;> simp
  · split
    · simp
    · split
      · simp
      · split
        · simp
        · exact isReading_readDecimal text

/-- A member of an inline table is defined or refused. -/
theorem isReading_defineInline (marks : List Mark) (members : Members) (key : List String)
    (value : Value) : IsReading (defineInline marks members key value) := by
  unfold defineInline
  split
  · simp
  · split
    · simp
    · split <;> simp

/-- Values, items and members are read with fuel of one measure, which the induction is on. -/
theorem isReading_readValue (fuel : Nat) :
    (∀ room text, IsReading (readValue fuel room text)) ∧
      (∀ room items text, IsReading (readItems fuel room items text)) ∧
      ∀ room marks members text, IsReading (readMembers fuel room marks members text) := by
  induction fuel with
  | zero => simp [readValue, readItems, readMembers]
  | succ fuel ih =>
      obtain ⟨values, items, members⟩ := ih
      refine ⟨fun room text => ?_, fun room held text => ?_, fun room marks held text => ?_⟩
      · rw [readValue.eq_def]
        dsimp only
        split
        · exact .error .tooNested
        · split
          · exact (isReading_readString _).bind fun _ => .pure _
          · exact (isReading_readString _).bind fun _ => .pure _
          · refine (isReading_skipSpace _).bind fun _ => ?_
            split
            · simp
            · exact items _ _ _
          · split
            · simp
            · exact members _ _ _ _
          · split
            · simp
            · exact isReading_readScalar _
      · rw [readItems]
        refine (values _ _).bind fun (_, _) => (isReading_skipSpace _).bind fun _ => ?_
        split
        · simp
        · refine (isReading_skipSpace _).bind fun _ => ?_
          split
          · simp
          · exact items _ _ _
        · simp
      · rw [readMembers]
        refine (isReading_readKey _).bind fun (_, _) => ?_
        dsimp only
        split
        · refine (values _ _).bind fun (_, _) => (isReading_defineInline _ _ _ _).bind fun _ => ?_
          dsimp only
          split
          · simp
          · exact members _ _ _ _
          · simp
        · simp

end Value

variable [Platform]

namespace Progress

variable (progress : Progress) (key : List String) (text : List Char)

omit [Platform] in
/-- A value is assigned or refused. -/
theorem isReading_assign (value : Value) : IsReading (progress.assign key value) := by
  unfold assign
  dsimp only
  split
  · simp
  · split
    · simp
    · split <;> simp

omit [Platform] in
/-- A table is opened or refused. -/
theorem isReading_openTable : IsReading (progress.openTable key) := by
  unfold openTable
  split
  · simp
  · split <;> simp

omit [Platform] in
/-- A table of a list is opened or refused. -/
theorem isReading_openItem : IsReading (progress.openItem key) := by
  unfold openItem
  split
  · simp
  · split
    · simp
    · split <;> simp

/-- An assignment ends with a fault of reading at most. -/
theorem isReading_readAssignment : IsReading (progress.readAssignment text) := by
  unfold readAssignment
  refine (isReading_readKey _).bind fun (_, _) => ?_
  dsimp only
  split
  · refine ((isReading_readValue _).1 _ _).bind fun (_, _) => ?_
    exact (isReading_assign _ _ _).bind fun _ => .pure _
  · simp

omit [Platform] in
/-- A header ends with a fault of reading at most. -/
theorem isReading_readHeader : IsReading (progress.readHeader text) := by
  unfold readHeader
  split
  · refine (isReading_readKey _).bind fun _ => (isReading_openItem _ _).bind fun _ => ?_
    split <;> simp
  · refine (isReading_readKey _).bind fun _ => (isReading_openTable _ _).bind fun _ => ?_
    split <;> simp

/-- A statement ends with a fault of reading at most. -/
theorem isReading_readStatement : IsReading (progress.readStatement text) := by
  unfold readStatement
  dsimp only
  split
  case' h_5 => split
  -- The end of its line follows on every statement.
  all_goals
    refine IsReading.bind ?_ fun _ => (isReading_skipComment _).bind fun _ => by split <;> simp
  · exact isReading_readAssignment _ _
  · exact .refuse
  · exact .ok _
  · exact isReading_readHeader _ _
  · exact .ok _
  · exact .ok _

/-- The statements end with a fault of reading at most. -/
theorem isReading_readStatements (fuel : Nat) : IsReading (readStatements fuel progress text) := by
  induction fuel generalizing progress text with
  | zero => simp [readStatements]
  | succ fuel ih =>
      rw [readStatements]
      split
      · simp
      · exact (isReading_readStatement _ _).bind fun _ => ih _ _

end Progress

/-- A document ends with a fault of reading at most. -/
theorem isReading_read (text : List Char) : IsReading (read text) :=
  (Progress.isReading_readStatements _ _ _).map

/-- A text is refused as no TOML, for its nesting or for an integer with too many digits. -/
theorem isOfText_of_read {text : List Char} {fault : Fault} (failed : read text = .error fault) :
    IsOfText fault := by
  cases failed ▸ isReading_read text with
  | error ofText => exact ofText

end AnnotatedMake.Toml
