import AnnotatedMake.Number.Binary64
import AnnotatedMake.Text.Blank
import AnnotatedMake.Text.Digit

namespace AnnotatedMake.Literal

/-- Blanks around a literal; the separators U+001C to U+001F do not count among them. -/
def isPadding (c : Char) : Bool :=
  let point := c.toNat
  (9 ≤ point && point ≤ 13) || point = 0x20 || (0x7F ≤ point && Text.isBlank c)

/-- The text between the blanks, with the digits of all scripts as ASCII digits. -/
def bare (text : List Char) : List Char :=
  let inner := ((text.dropWhile isPadding).reverse.dropWhile isPadding).reverse
  inner.map fun c =>
    match Text.digitValue? c with
    | some value => Char.ofNat (48 + value)
    | none => c

/-- The text without its underscores, when each of them stands between two digits. -/
def joined? : List Char → Option (List Char)
  | [] => some []
  | first :: '_' :: next :: rest =>
    if first.isDigit && next.isDigit then (joined? (next :: rest)).map (first :: ·) else none
  | c :: rest => if c = '_' then none else (joined? rest).map (c :: ·)

def digitsValue (digits : List Char) : Nat :=
  digits.foldl (fun value digit => 10 * value + (digit.toNat - 48)) 0

/-- A sign, if there is one, and what follows it. -/
def signed : List Char → Bool × List Char
  | '-' :: rest => (true, rest)
  | '+' :: rest => (false, rest)
  | text => (false, text)

/-- The greatest count of digits that a decimal integer may have. -/
def digitLimit : Nat := 4300

/-- The integer that a text stands for. -/
def integer? (text : String) : Option Int := do
  let (negative, digits) := signed (← joined? (bare text.toList))
  if digits.isEmpty || !digits.all Char.isDigit || digitLimit < digits.length then none
  else if negative then some (-(digitsValue digits : Int))
  else some (digitsValue digits)

/-- The power of ten behind a mantissa, zero when there is none. -/
def exponent? : List Char → Option Int
  | [] => some 0
  | mark :: rest =>
    let (negative, digits) := signed rest
    if (mark = 'e' || mark = 'E') && !digits.isEmpty && digits.all Char.isDigit then
      some (if negative then -(digitsValue digits : Int) else digitsValue digits)
    else none

/-- A mantissa with digits on at least one side of its point, and a power of ten. -/
def decimal? (negative : Bool) (text : List Char) : Option Binary64 := do
  let whole := text.takeWhile Char.isDigit
  let (part, rest) := match text.dropWhile Char.isDigit with
    | '.' :: rest => (rest.takeWhile Char.isDigit, rest.dropWhile Char.isDigit)
    | rest => ([], rest)
  if whole.isEmpty && part.isEmpty then none
  else some (.ofDecimal negative (digitsValue (whole ++ part)) ((← exponent? rest) - part.length))

/-- The number that a text stands for. -/
def number? (text : String) : Option Binary64 := do
  let (negative, rest) := signed (← joined? (bare text.toList))
  let name := String.ofList (rest.map Char.toLower)
  if name = "inf" || name = "infinity" then some (.infinite negative)
  else if name = "nan" then some .notANumber
  else decimal? negative rest

end AnnotatedMake.Literal
