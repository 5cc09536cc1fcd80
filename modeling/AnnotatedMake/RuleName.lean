import AnnotatedMake.Text.Distinct
import AnnotatedMake.Text.Piece

namespace AnnotatedMake.RuleName

def isNameCharacter (c : Char) : Bool :=
  ('A' ≤ c && c ≤ 'Z') || ('a' ≤ c && c ≤ 'z') || ('0' ≤ c && c ≤ '9') ||
    c = '_' || c = '.' || c = '-'

/-- What follows the first colon of an assignment. -/
def opensAssignment : List Char → Bool
  | '=' :: _ => true
  | ':' :: '=' :: _ => true
  | _ => false

/-- The name of the rule that a line opens. -/
def ofLine? (line : String) : Option String :=
  let name := line.toList.takeWhile isNameCharacter
  match line.toList.dropWhile isNameCharacter with
  | ':' :: rest =>
    if name = [] || opensAssignment rest then none else some (String.ofList name)
  | _ => none

/-- The distinct rule names of a Makefile, in the order of their first appearance. -/
def ofLines (lines : List String) : List String := distinct (lines.filterMap ofLine?)

end AnnotatedMake.RuleName
