import AnnotatedMake.Fault
import AnnotatedMake.Text.Piece

namespace AnnotatedMake.Toml

def refuse {α : Type} : Except Fault α := .error .notToml

def isInlineBlank (c : Char) : Bool := c = ' ' || c = '\t'

def isSpace (c : Char) : Bool := isInlineBlank c || c = '\n'

/-- The control characters that no comment and no string on one line may hold. -/
def isControl (c : Char) : Bool := (c.toNat < 0x20 && c ≠ '\t') || c.toNat = 0x7F

/-- The control characters that no string on several lines may hold. -/
def isControlInLines (c : Char) : Bool := isControl c && c ≠ '\n'

def skipBlanks (text : List Char) : List Char := text.dropWhile isInlineBlank

def isInLine (c : Char) : Bool := c ≠ '\n'

/-- Leaves out a comment up to the end of its line. -/
def skipComment : List Char → Except Fault (List Char)
  | '#' :: rest =>
    if (rest.takeWhile isInLine).any isControl then refuse else .ok (rest.dropWhile isInLine)
  | text => .ok text

/-- Leaves out blanks, line ends and comments, as often as there are any. -/
def skipSpaceWithin : Nat → List Char → Except Fault (List Char)
  | 0, text => .ok text
  | fuel + 1, text =>
    match text.dropWhile isSpace with
    | '#' :: rest =>
      match skipComment ('#' :: rest) with
      | .ok left => skipSpaceWithin fuel left
      | .error fault => .error fault
    | left => .ok left

def skipSpace (text : List Char) : Except Fault (List Char) :=
  skipSpaceWithin (text.length + 1) text

def hexDigitValue? (c : Char) : Option Nat :=
  if c.isDigit then some (c.toNat - 48)
  else if 'a' ≤ c && c ≤ 'f' then some (c.toNat - 87)
  else if 'A' ≤ c && c ≤ 'F' then some (c.toNat - 55)
  else none

/-- The character that a given count of hexadecimal digits names by its code point. -/
def readCode (count : Nat) (text : List Char) : Except Fault (Char × List Char) :=
  let digits := text.take count
  match digits.mapM hexDigitValue? with
  | some values =>
    let point := values.foldl (fun value digit => 16 * value + digit) 0
    if digits.length = count && (point < 0xD800 || (0xE000 ≤ point && point < 0x110000)) then
      .ok (Char.ofNat point, text.drop count)
    else refuse
  | none => refuse

/-- The character that a letter behind a backslash stands for. -/
def escaped? (c : Char) : Option Char :=
  if c = 'b' then some (Char.ofNat 8)
  else if c = 't' then some '\t'
  else if c = 'n' then some '\n'
  else if c = 'f' then some (Char.ofNat 12)
  else if c = 'r' then some '\r'
  else if c = '"' || c = '\\' then some c
  else none

/-- What a backslash and the text behind it stand for. -/
def readEscape (multiline : Bool) (text : List Char) : Except Fault (List Char × List Char) :=
  match text with
  | [] => refuse
  | c :: rest =>
    if multiline && isSpace c then
      let after := if c = '\n' then text else skipBlanks rest
      match after with
      | [] => .ok ([], [])
      | '\n' :: left => .ok ([], left.dropWhile isSpace)
      | _ => refuse
    else if c = 'u' || c = 'U' then do
      let (character, left) ← readCode (if c = 'u' then 4 else 8) rest
      return ([character], left)
    else match escaped? c with
      | some character => .ok ([character], rest)
      | none => refuse

/-- A string with escapes, from behind its opening quotes to behind its closing ones. -/
def readBasicWithin (multiline : Bool) : Nat → List Char → Except Fault (List Char × List Char)
  | 0, _ => refuse
  | fuel + 1, text =>
    match text with
    | [] => refuse
    | '"' :: rest =>
      if !multiline then .ok ([], rest)
      else match rest with
        | '"' :: '"' :: left => .ok ([], left)
        | _ => do
          let (content, left) ← readBasicWithin multiline fuel rest
          return ('"' :: content, left)
    | '\\' :: rest => do
      let (piece, left) ← readEscape multiline rest
      let (content, left) ← readBasicWithin multiline fuel left
      return (piece ++ content, left)
    | c :: rest =>
      if (if multiline then isControlInLines c else isControl c) then refuse
      else do
        let (content, left) ← readBasicWithin multiline fuel rest
        return (c :: content, left)

def readBasic (multiline : Bool) (text : List Char) : Except Fault (List Char × List Char) :=
  readBasicWithin multiline (text.length + 1) text

def isNotQuote (c : Char) : Bool := c ≠ '\''

/-- A string without escapes on one line, from behind its opening quote. -/
def readLiteral (text : List Char) : Except Fault (List Char × List Char) :=
  let content := text.takeWhile isNotQuote
  match text.dropWhile isNotQuote with
  | [] => refuse
  | _ :: rest => if content.any isControl then refuse else .ok (content, rest)

/-- A string without escapes on several lines, from behind its opening quotes. -/
def readLiteralLines : List Char → Except Fault (List Char × List Char)
  | [] => refuse
  | '\'' :: '\'' :: '\'' :: rest => .ok ([], rest)
  | c :: rest =>
    if isControlInLines c then refuse
    else do
      let (content, left) ← readLiteralLines rest
      return (c :: content, left)

/-- Up to two more quotes behind the closing ones belong to the string. -/
def withExtraQuotes (quote : Char) (content : List Char) : List Char → List Char × List Char
  | first :: second :: rest =>
    if first = quote then
      if second = quote then (content ++ [quote, quote], rest)
      else (content ++ [quote], second :: rest)
    else (content, first :: second :: rest)
  | [first] => if first = quote then (content ++ [quote], []) else (content, [first])
  | [] => (content, [])

def dropLineEnd : List Char → List Char
  | '\n' :: rest => rest
  | text => text

/-- A string of one of the four kinds; the text begins with its quote. -/
def readString (text : List Char) : Except Fault (List Char × List Char) :=
  match text with
  | '"' :: '"' :: '"' :: rest => do
    let (content, left) ← readBasic true (dropLineEnd rest)
    return withExtraQuotes '"' content left
  | '"' :: rest => readBasic false rest
  | '\'' :: '\'' :: '\'' :: rest => do
    let (content, left) ← readLiteralLines (dropLineEnd rest)
    return withExtraQuotes '\'' content left
  | '\'' :: rest => readLiteral rest
  | _ => refuse

def isBareKey (c : Char) : Bool := c.isAlphanum || c = '-' || c = '_'

/-- One name of a key, bare or as a string on one line. -/
def readKeyPart (text : List Char) : Except Fault (String × List Char) :=
  match text with
  | '"' :: rest => do
    let (content, left) ← readBasic false rest
    return (String.ofList content, left)
  | '\'' :: rest => do
    let (content, left) ← readLiteral rest
    return (String.ofList content, left)
  | _ =>
    let name := text.takeWhile isBareKey
    if name.isEmpty then refuse else .ok (String.ofList name, text.dropWhile isBareKey)

/-- Names joined by dots. -/
def readKeyWithin : Nat → List Char → Except Fault (List String × List Char)
  | 0, _ => refuse
  | fuel + 1, text => do
    let (part, left) ← readKeyPart text
    match skipBlanks left with
    | '.' :: rest => do
      let (parts, left) ← readKeyWithin fuel (skipBlanks rest)
      return (part :: parts, left)
    | left => return ([part], left)

/-- A key and the blanks behind it. -/
def readKey (text : List Char) : Except Fault (List String × List Char) :=
  readKeyWithin (text.length + 1) text

end AnnotatedMake.Toml
