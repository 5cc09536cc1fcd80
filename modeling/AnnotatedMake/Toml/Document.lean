import AnnotatedMake.Platform
import AnnotatedMake.Toml.Scalar
import AnnotatedMake.Toml.Table

namespace AnnotatedMake.Toml

/-- The words for flags. -/
def readFlag? : List Char → Option (Value × List Char)
  | 't' :: 'r' :: 'u' :: 'e' :: rest => some (.flag true, rest)
  | 'f' :: 'a' :: 'l' :: 's' :: 'e' :: rest => some (.flag false, rest)
  | _ => none

/-- Defines a member of an inline table. -/
def defineInline (marks : List Mark) (members : Members) (key : List String) (value : Value) :
    Except Fault Members :=
  match key.getLast? with
  | none => refuse
  | some name =>
    if isFrozen marks key then refuse
    else match changeAt false (define name value) key.dropLast members with
      | some changed => .ok changed
      | none => refuse

mutual

/-- A value; the fuel bounds what is read in turn, the room what may be nested in it. -/
def readValue : Nat → Nat → List Char → Except Fault (Value × List Char)
  | 0, _, _ => refuse
  | fuel + 1, room, text =>
    if room < 2 then .error .tooNested
    else match text with
    | '"' :: _ | '\'' :: _ => do
      let (content, left) ← readString text
      return (.text (String.ofList content), left)
    | '[' :: rest => do
      match ← skipSpace rest with
      | ']' :: left => return (.list [], left)
      | left => readItems fuel (room - 2) [] left
    | '{' :: rest =>
      match skipBlanks rest with
      | '}' :: left => .ok (.table [], left)
      | left => readMembers fuel (room - 3) [] [] left
    | _ =>
      match readFlag? text with
      | some found => .ok found
      | none => readScalar text

/-- The items of a list from the next one on; those before are given last one first. -/
def readItems : Nat → Nat → List Value → List Char → Except Fault (Value × List Char)
  | 0, _, _, _ => refuse
  | fuel + 1, room, items, text => do
    let (item, left) ← readValue fuel room text
    let items := item :: items
    match ← skipSpace left with
    | ']' :: left => return (.list items.reverse, left)
    | ',' :: rest =>
      match ← skipSpace rest with
      | ']' :: left => return (.list items.reverse, left)
      | left => readItems fuel room items left
    | _ => refuse

/-- The members of an inline table from the next one on. -/
def readMembers : Nat → Nat → List Mark → Members → List Char → Except Fault (Value × List Char)
  | 0, _, _, _, _ => refuse
  | fuel + 1, room, marks, members, text => do
    let (key, left) ← readKey text
    match left with
    | '=' :: rest => do
      let (value, left) ← readValue fuel room (skipBlanks rest)
      let members ← defineInline marks members key value
      match skipBlanks left with
      | '}' :: left => return (.table members, left)
      | ',' :: rest =>
        let marks := if isContainer value then .frozen key :: marks else marks
        readMembers fuel room marks members (skipBlanks rest)
      | _ => refuse
    | _ => refuse

end

variable [Platform]

/-- The room for the values nested in one assignment. -/
def nestingRoom : Nat := Platform.nesting

/-- A document as far as it is read. -/
structure Progress where
  root : Members := []
  marks : List Mark := []
  pending : List (List String) := []
  header : List String := []

namespace Progress

/-- The keys on the way from a table to a member, the member's own left out. -/
def keysBetween (header key : List String) : List (List String) :=
  (List.range (key.length - 1)).map fun count => header ++ key.take (count + 1)

/-- Defines a member of the open table by a dotted key. -/
def assign (progress : Progress) (key : List String) (value : Value) : Except Fault Progress :=
  let between := keysBetween progress.header key
  let above := progress.header ++ key.dropLast
  match key.getLast? with
  | none => refuse
  | some name =>
    if between.any (isDeclared progress.marks) || isFrozen progress.marks above then refuse
    else match changeAt true (define name value) above progress.root with
      | none => refuse
      | some root =>
        let frozen := if isContainer value then [.frozen (progress.header ++ key)] else []
        .ok { progress with
          root, marks := frozen ++ progress.marks, pending := between ++ progress.pending }

/-- Marks the keys that waited for the next table. -/
def settle (progress : Progress) : Progress :=
  { progress with marks := progress.pending.map .declared ++ progress.marks, pending := [] }

/-- Opens a table. -/
def openTable (progress : Progress) (key : List String) : Except Fault Progress :=
  if isDeclared progress.marks key || isFrozen progress.marks key then refuse
  else match changeAt true some key progress.root with
    | none => refuse
    | some root =>
      .ok { progress with root, marks := .declared key :: progress.marks, header := key }

/-- Opens a new table at the end of a list of tables. -/
def openItem (progress : Progress) (key : List String) : Except Fault Progress :=
  match key.getLast? with
  | none => refuse
  | some name =>
    if isFrozen progress.marks key then refuse
    else match changeAt true (addItem name) key.dropLast progress.root with
      | none => refuse
      | some root =>
        .ok { progress with
          root, marks := .declared key :: clearMarks progress.marks key, header := key }

/-- A member of the open table, with the rest of its line. -/
def readAssignment (progress : Progress) (text : List Char) :
    Except Fault (Progress × List Char) := do
  let (key, left) ← readKey text
  match left with
  | '=' :: rest => do
    let value := skipBlanks rest
    let (value, left) ← readValue (2 * value.length + 2) nestingRoom value
    return (← progress.assign key value, left)
  | _ => refuse

/-- The header of a table or of an item of a list of tables. -/
def readHeader (progress : Progress) (text : List Char) : Except Fault (Progress × List Char) := do
  match text with
  | '[' :: rest => do
    let (key, left) ← readKey (skipBlanks rest)
    let opened ← progress.settle.openItem key
    match left with
    | ']' :: ']' :: left => return (opened, left)
    | _ => refuse
  | _ => do
    let (key, left) ← readKey (skipBlanks text)
    let opened ← progress.settle.openTable key
    match left with
    | ']' :: left => return (opened, left)
    | _ => refuse

/-- A statement, a comment or nothing, up to the end of its line. -/
def readStatement (progress : Progress) (text : List Char) :
    Except Fault (Progress × List Char) := do
  let (progress, left) ←
    match text with
    | [] => Except.ok (progress, [])
    | '[' :: rest => progress.readHeader rest
    | '\n' :: _ | '#' :: _ => Except.ok (progress, text)
    | c :: _ =>
      if isBareKey c || c = '"' || c = '\'' then progress.readAssignment text else refuse
  match ← skipComment (skipBlanks left) with
  | [] => return (progress, [])
  | '\n' :: left => return (progress, left)
  | _ => refuse

/-- The statements of a document, one to a line. -/
def readStatements : Nat → Progress → List Char → Except Fault Progress
  | 0, progress, _ => .ok progress
  | fuel + 1, progress, text =>
    match skipBlanks text with
    | [] => .ok progress
    | text => do
      let (progress, left) ← progress.readStatement text
      readStatements fuel progress left

end Progress

/-- Line ends of two characters as one. -/
def joinLineEnds : List Char → List Char
  | [] => []
  | '\r' :: '\n' :: rest => '\n' :: joinLineEnds rest
  | c :: rest => c :: joinLineEnds rest

/-- The members of the document that a text holds. -/
def read (text : List Char) : Except Fault Members :=
  let source := joinLineEnds text
  (Progress.readStatements (source.length + 1) {} source).map Progress.root

end AnnotatedMake.Toml
