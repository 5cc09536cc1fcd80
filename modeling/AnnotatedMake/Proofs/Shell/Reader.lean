import AnnotatedMake.Shell.Script

namespace AnnotatedMake.Shell

/-- A command line that has been read up to some place; a mode says how to go on. -/
structure Reader (Mode : Type) where
  mode : Mode
  /-- The word that is not finished yet. Quotes open one, so there may be nothing in it. -/
  held : Option String := none
  words : List String := []
deriving DecidableEq

namespace Reader

variable {Mode : Type}

/-- Adds a character to the word that is being read. -/
def take (reader : Reader Mode) (c : Char) : Reader Mode :=
  { reader with held := some ((reader.held.getD "").push c) }

/-- Goes on in another mode. -/
def into (reader : Reader Mode) (mode : Mode) : Reader Mode := { reader with mode }

/-- Goes on within quotes, which belong to a word. -/
def opened (reader : Reader Mode) (mode : Mode) : Reader Mode :=
  { reader with mode, held := some (reader.held.getD "") }

/-- Ends the word that is being read, if there is one. -/
def parted (reader : Reader Mode) : Reader Mode :=
  { reader with held := none, words := reader.words ++ reader.held.toList }

/-- The words at the end of a line, where a mode has to be left. -/
def finish [DecidableEq Mode] (bare : Mode) (reader : Reader Mode) : Option (List String) :=
  if reader.mode = bare then some (reader.words ++ reader.held.toList) else none

/-- The words of a line that is read step by step from a mode that it has to end in. -/
def wordsRead [DecidableEq Mode] (bare : Mode) (step : Reader Mode → Char → Option (Reader Mode))
    (text : String) : Option (List String) :=
  (text.toList.foldlM step { mode := bare }).bind (finish bare)

section Mode

variable (reader : Reader Mode)

@[simp]
theorem mode_take (c : Char) : (reader.take c).mode = reader.mode := rfl

@[simp]
theorem mode_into (mode : Mode) : (reader.into mode).mode = mode := rfl

@[simp]
theorem mode_opened (mode : Mode) : (reader.opened mode).mode = mode := rfl

@[simp]
theorem mode_parted : reader.parted.mode = reader.mode := rfl

end Mode

/-- The count of characters in the words that were read. -/
def length (reader : Reader Mode) : Nat :=
  ((reader.words ++ reader.held.toList).flatMap String.toList).length

section Length

variable (reader : Reader Mode)

/-- A character taken adds one to the length. -/
@[simp]
theorem length_take (c : Char) : (reader.take c).length = reader.length + 1 := by
  obtain ⟨_, held, _⟩ := reader
  cases held <;> simp [length, take, Nat.add_assoc]

@[simp]
theorem length_into (mode : Mode) : (reader.into mode).length = reader.length := rfl

/-- A quote opened adds nothing to the length. -/
@[simp]
theorem length_opened (mode : Mode) : (reader.opened mode).length = reader.length := by
  obtain ⟨_, held, _⟩ := reader
  cases held <;> simp [length, opened]

@[simp]
theorem length_parted : reader.parted.length = reader.length := by
  simp [length, parted]

end Length

/-- A character pushed stands before the rest. -/
theorem push_append (start : String) (c : Char) (rest : List Char) :
    start.push c ++ String.ofList rest = start ++ String.ofList (c :: rest) := by
  simp [← String.toList_inj]

end Reader

end AnnotatedMake.Shell
