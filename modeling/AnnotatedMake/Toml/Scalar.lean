import AnnotatedMake.Number.Literal
import AnnotatedMake.Setting.Value
import AnnotatedMake.Toml.Text

namespace AnnotatedMake.Toml

/-- The digits at the front of a text, with single underscores between them left out. -/
def digitRun (isDigit : Char → Bool) : List Char → List Char × List Char
  | [] => ([], [])
  | c :: '_' :: next :: rest =>
    if isDigit c && isDigit next then
      let (digits, left) := digitRun isDigit (next :: rest)
      (c :: digits, left)
    else if isDigit c then ([c], '_' :: next :: rest)
    else ([], c :: '_' :: next :: rest)
  | c :: rest =>
    if isDigit c then
      let (digits, left) := digitRun isDigit rest
      (c :: digits, left)
    else ([], c :: rest)

/-- Digits behind a mark such as `0x`, in a base. -/
def readBased (base : Nat) (text : List Char) : Option (Nat × List Char) :=
  let isDigit (c : Char) : Bool := (hexDigitValue? c).any fun value => value < base
  let (digits, left) := digitRun isDigit text
  if digits.isEmpty then none
  else
    some (digits.foldl (fun value c => base * value + (hexDigitValue? c).getD 0) 0, left)

def basedInteger? : List Char → Option (Nat × List Char)
  | '0' :: 'x' :: rest => readBased 16 rest
  | '0' :: 'b' :: rest => readBased 2 rest
  | '0' :: 'o' :: rest => readBased 8 rest
  | _ => none

/-- The digits of a decimal integer, which begins with a zero only if that is all of it. -/
def wholeDigits : List Char → List Char × List Char
  | '0' :: rest => (['0'], rest)
  | text => digitRun Char.isDigit text

/-- The digits behind a point. -/
def fractionDigits : List Char → List Char × List Char
  | '.' :: rest =>
    let (digits, left) := digitRun Char.isDigit rest
    if digits.isEmpty then ([], '.' :: rest) else (digits, left)
  | text => ([], text)

/-- The power of ten behind a mark. -/
def powerOfTen? : List Char → Option (Int × List Char)
  | mark :: rest =>
    let (negative, text) := Literal.signed rest
    let (digits, left) := digitRun Char.isDigit text
    if (mark = 'e' || mark = 'E') && !digits.isEmpty then
      let power : Int := Literal.digitsValue digits
      some (if negative then -power else power, left)
    else none
  | [] => none

/-- A decimal integer or number. -/
def readDecimal (text : List Char) : Except Fault (Value × List Char) :=
  let (negative, unsigned) := Literal.signed text
  let (whole, afterWhole) := wholeDigits unsigned
  let (part, afterPart) := fractionDigits afterWhole
  let number (power : Int) : Value :=
    .number (.ofDecimal negative (Literal.digitsValue (whole ++ part)) (power - part.length))
  if whole.isEmpty then refuse
  else match powerOfTen? afterPart with
    | some (power, left) => .ok (number power, left)
    | none =>
      if !part.isEmpty then .ok (number 0, afterPart)
      else if Literal.digitLimit < whole.length then .error (.longInteger whole.length)
      else
        let value : Int := Literal.digitsValue whole
        .ok (.integer (if negative then -value else value), afterWhole)

/-- The numbers that are written as words. -/
def wordNumber? (text : List Char) : Option (Value × List Char) :=
  let (negative, unsigned) := Literal.signed text
  match unsigned with
  | 'i' :: 'n' :: 'f' :: left => some (.number (.infinite negative), left)
  | 'n' :: 'a' :: 'n' :: left => some (.number .notANumber, left)
  | _ => none

/-- A number of two digits up to a limit. -/
def twoDigits? (least most : Nat) : List Char → Option (Nat × List Char)
  | a :: b :: rest =>
    let value := Literal.digitsValue [a, b]
    if a.isDigit && b.isDigit && least ≤ value && value ≤ most then some (value, rest) else none
  | _ => none

def expect? (c : Char) : List Char → Option (List Char)
  | first :: rest => if first = c then some rest else none
  | [] => none

/-- Digits behind the point of the seconds, cut to microseconds. -/
def microseconds (text : List Char) : Nat × List Char :=
  match text with
  | '.' :: rest =>
    let digits := rest.takeWhile Char.isDigit
    let kept := digits.take 6
    if digits.isEmpty then (0, text)
    else (Literal.digitsValue (kept ++ List.replicate (6 - kept.length) '0'),
      rest.dropWhile Char.isDigit)
  | _ => (0, text)

def readTime? (text : List Char) : Option (ClockTime × List Char) := do
  let (hour, text) ← twoDigits? 0 23 text
  let (minute, text) ← twoDigits? 0 59 (← expect? ':' text)
  let (second, text) ← twoDigits? 0 59 (← expect? ':' text)
  let (microsecond, text) := microseconds text
  return ({ hour, minute, second, microsecond }, text)

def readDate? (text : List Char) : Option (CalendarDate × List Char) := do
  let digits := text.take 4
  if digits.length ≠ 4 || !digits.all Char.isDigit then none
  else
    let (month, text) ← twoDigits? 1 12 (← expect? '-' (text.drop 4))
    let (day, text) ← twoDigits? 1 31 (← expect? '-' text)
    return ({ year := Literal.digitsValue digits, month, day }, text)

/-- The difference to universal time behind a time of day. -/
def readOffset? (text : List Char) : Option (ClockOffset × List Char) :=
  match text with
  | mark :: rest =>
    if mark = 'Z' || mark = 'z' then some (⟨false, 0⟩, rest)
    else if mark = '+' || mark = '-' then do
      let (hours, left) ← twoDigits? 0 23 rest
      let (minutes, left) ← twoDigits? 0 59 (← expect? ':' left)
      return (⟨mark = '-', 60 * hours + minutes⟩, left)
    else none
  | [] => none

/-- The time of day behind a date. -/
def readTimeOfDate? : List Char → Option (ClockTime × List Char)
  | mark :: rest => if mark = 'T' || mark = 't' || mark = ' ' then readTime? rest else none
  | [] => none

/-- A date with or without a time of day. -/
def moment? (text : List Char) : Option (CalendarDate × Value × List Char) := do
  let (day, afterDate) ← readDate? text
  match readTimeOfDate? afterDate with
  | none => return (day, .date day, afterDate)
  | some (clock, afterTime) =>
    match readOffset? afterTime with
    | none => return (day, .moment day clock none, afterTime)
    | some (offset, left) => return (day, .moment day clock (some offset), left)

/-- A number, a date or a time. A date and a time are looked for before a number. -/
def readScalar (text : List Char) : Except Fault (Value × List Char) :=
  match moment? text with
  | some (day, value, left) => if day.isValid then .ok (value, left) else refuse
  | none =>
    match readTime? text with
    | some (clock, left) => .ok (.time clock, left)
    | none =>
      match basedInteger? text with
      | some (value, left) => .ok (.integer value, left)
      | none =>
        match wordNumber? text with
        | some found => .ok found
        | none => readDecimal text

end AnnotatedMake.Toml
