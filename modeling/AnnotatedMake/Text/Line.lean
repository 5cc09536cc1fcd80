import AnnotatedMake.Text.Blank

namespace AnnotatedMake.Text

/-- The characters that end a line; a carriage return with a line feed counts as one break. -/
def isLineBreak (c : Char) : Bool :=
  let point := c.toNat
  (10 ≤ point && point ≤ 13) || (0x1C ≤ point && point ≤ 0x1E) || point == 0x85 ||
    point == 0x2028 || point == 0x2029

theorem isBlank_of_isLineBreak {c : Char} (ends : isLineBreak c = true) : isBlank c = true := by
  simp only [isLineBreak, isBlank, Bool.or_eq_true, Bool.and_eq_true, decide_eq_true_eq,
    beq_iff_eq] at *
  omega

/-- The lines of a text; a break at the very end opens no further line. -/
def lines : List Char → List (List Char)
  | [] => []
  | '\r' :: '\n' :: rest => [] :: lines rest
  | c :: rest => if isLineBreak c then [] :: lines rest else prepend c (lines rest)

/-- Every line ending written as one line feed. -/
def unifyBreaks : List Char → List Char
  | [] => []
  | '\r' :: '\n' :: rest => '\n' :: unifyBreaks rest
  | c :: rest => (if c = '\r' then '\n' else c) :: unifyBreaks rest

end AnnotatedMake.Text

namespace AnnotatedMake

def linesOf (text : String) : List String := (Text.lines text.toList).map String.ofList

end AnnotatedMake
