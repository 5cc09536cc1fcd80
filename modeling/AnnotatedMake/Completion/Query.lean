import AnnotatedMake.Completion.Candidate

namespace AnnotatedMake

/-- The first word is the command itself; the cursor may stand just behind the last word. -/
structure Query where
  words : List String
  cursor : Int
deriving DecidableEq, Repr

namespace Query

/-- Whether the last character of a text is blank. -/
def endsBlank (text : List Char) : Bool := text.getLast?.any Text.isBlank

/-- The query for a line cut at the cursor; behind a blank a new, empty word begins. -/
def ofLine (line : String) : Query :=
  let found := wordsOf line
  let words := if found = [] || endsBlank line.toList then found ++ [""] else found
  { words, cursor := words.length - 1 }

/-- The position that a cursor in the arguments asks about. -/
def position (query : Query) : Position := if query.cursor = 1 then .target else .parameter

/-- Whether the cursor stands on an argument or just behind the last word. -/
def isOnArgument (query : Query) : Bool :=
  decide (1 ≤ query.cursor) && decide (query.cursor ≤ query.words.length)

/-- The word at the cursor, which is empty behind the last word. -/
def partialWord (query : Query) : String := (query.words[query.cursor.toNat]?).getD ""

/-- The target that the first argument names, when a later word is completed. -/
def target (query : Query) : Option String :=
  match query.position with
  | .target => none
  | .parameter => query.words[1]?

end Query

end AnnotatedMake
