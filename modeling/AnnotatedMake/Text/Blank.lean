namespace AnnotatedMake.Text

/-- The white space of all scripts, with the separators U+001C to U+001F. -/
def isBlank (c : Char) : Bool :=
  let point := c.toNat
  (9 ≤ point && point ≤ 13) || (0x1C ≤ point && point ≤ 0x20) || point == 0x85 ||
    point == 0xA0 || point == 0x1680 || (0x2000 ≤ point && point ≤ 0x200A) ||
    point == 0x2028 || point == 0x2029 || point == 0x202F || point == 0x205F || point == 0x3000

/-- Puts a character in front of the first of some pieces. -/
def prepend (c : Char) : List (List Char) → List (List Char)
  | [] => [[c]]
  | piece :: rest => (c :: piece) :: rest

/-- The maximal runs of characters that are not blank. -/
def words : List Char → List (List Char)
  | [] => []
  | c :: rest =>
    if isBlank c then words rest
    else match rest with
      | [] => [[c]]
      | next :: _ => if isBlank next then [c] :: words rest else prepend c (words rest)

def trimStart (text : List Char) : List Char := text.dropWhile isBlank

def trimEnd (text : List Char) : List Char := (text.reverse.dropWhile isBlank).reverse

/-- The text without the blanks at its two ends. -/
def trim (text : List Char) : List Char := trimEnd (trimStart text)

end AnnotatedMake.Text

namespace AnnotatedMake

/-- The maximal blank-free runs of a text, in order. -/
def wordsOf (text : String) : List String := (Text.words text.toList).map String.ofList

def trimmed (text : String) : String := String.ofList (Text.trim text.toList)

end AnnotatedMake
