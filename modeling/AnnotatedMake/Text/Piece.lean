import AnnotatedMake.Text.Blank

namespace AnnotatedMake.Text

/-- What follows `lead` in a text that begins with it. -/
def after? : List Char → List Char → Option (List Char)
  | [], text => some text
  | _ :: _, [] => none
  | first :: lead, c :: text => if first = c then after? lead text else none

theorem after?_eq_some_iff {lead text rest : List Char} :
    after? lead text = some rest ↔ text = lead ++ rest := by
  induction lead generalizing text with
  | nil => simp [after?]
  | cons first lead ih =>
      cases text with
      | nil => simp [after?]
      | cons c text =>
          by_cases same : first = c
          · simp [after?, same, ih]
          · simp [after?, same, Ne.symm same]

def beginsWith (lead text : List Char) : Bool := (after? lead text).isSome

/-- What precedes `ending` in a text that ends with it. -/
def before? (ending text : List Char) : Option (List Char) :=
  (after? ending.reverse text.reverse).map List.reverse

/-- The pieces of a text between the occurrences of a separator, one more than there are of it. -/
def pieces (separator : Char) : List Char → List (List Char)
  | [] => [[]]
  | c :: rest =>
    if c = separator then [] :: pieces separator rest else prepend c (pieces separator rest)

theorem pieces_ne_nil (separator : Char) (text : List Char) : pieces separator text ≠ [] := by
  cases text with
  | nil => simp [pieces]
  | cons c rest =>
      unfold pieces
      split
      · simp
      · cases pieces separator rest <;> simp [prepend]

/-- The text with the first occurrence of `old` replaced; an empty `old` occurs at the start. -/
def replaceFirst (old new : List Char) : List Char → List Char
  | [] => if old.isEmpty then new else []
  | c :: rest =>
    match after? old (c :: rest) with
    | some tail => new ++ tail
    | none => c :: replaceFirst old new rest

end AnnotatedMake.Text

namespace AnnotatedMake

/-- Whether `lead` is an initial piece of `text`, character by character. -/
def startsText (lead text : String) : Bool := Text.beginsWith lead.toList text.toList

/-- What follows `lead` in a text that begins with it. -/
def restAfter? (lead text : String) : Option String :=
  (Text.after? lead.toList text.toList).map String.ofList

def endsText (ending text : String) : Bool := (Text.before? ending.toList text.toList).isSome

/-- The pieces of a text between the occurrences of a separator. -/
def piecesOf (separator : Char) (text : String) : List String :=
  (Text.pieces separator text.toList).map String.ofList

def holds (c : Char) (text : String) : Bool := text.toList.elem c

end AnnotatedMake
