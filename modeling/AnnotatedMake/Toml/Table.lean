import AnnotatedMake.Setting.Value
import AnnotatedMake.Toml.Text

namespace AnnotatedMake.Toml

/-- The members of a table, in the order of their definition. -/
abbrev Members := List (String × Value)

def member? (members : Members) (name : String) : Option Value :=
  (members.find? fun member => member.1 = name).map Prod.snd

/-- Gives a member of a table another value where it stands. -/
def replaceMember (members : Members) (name : String) (value : Value) : Members :=
  members.map fun member => if member.1 = name then (name, value) else member

/-- Changes the table that a key leads to, in the last item where lists are entered. -/
def changeAt (enterLists : Bool) (change : Members → Option Members) :
    List String → Members → Option Members
  | [], members => change members
  | name :: rest, members =>
    match member? members name with
    | none => (changeAt enterLists change rest []).map fun inner =>
        members ++ [(name, .table inner)]
    | some (.table inner) => (changeAt enterLists change rest inner).map fun changed =>
        replaceMember members name (.table changed)
    | some (.list items) =>
      match enterLists, items.getLast? with
      | true, some (.table inner) => (changeAt enterLists change rest inner).map fun changed =>
          replaceMember members name (.list (items.dropLast ++ [.table changed]))
      | _, _ => none
    | some _ => none

/-- Defines a new member. -/
def define (name : String) (value : Value) (members : Members) : Option Members :=
  if (member? members name).isSome then none else some (members ++ [(name, value)])

/-- Adds an empty table to a list of tables, making the list if there is none. -/
def addItem (name : String) (members : Members) : Option Members :=
  match member? members name with
  | none => some (members ++ [(name, .list [.table []])])
  | some (.list items) => some (replaceMember members name (.list (items ++ [.table []])))
  | some _ => none

/-- A mark on a key: frozen keys stay as they are, declared ones stay closed. -/
inductive Mark where
  | frozen (key : List String)
  | declared (key : List String)
deriving DecidableEq, Repr

/-- Whether a key is another one, or lies below it. -/
def isAtOrBelow : List String → List String → Bool
  | [], _ => true
  | _ :: _, [] => false
  | first :: key, name :: below => first = name && isAtOrBelow key below

def isFrozen (marks : List Mark) (key : List String) : Bool :=
  marks.any fun
    | .frozen above => isAtOrBelow above key
    | .declared _ => false

def isDeclared (marks : List Mark) (key : List String) : Bool := marks.elem (.declared key)

def Mark.key : Mark → List String
  | frozen key => key
  | declared key => key

/-- Takes the marks off a key and all below it. -/
def clearMarks (marks : List Mark) (key : List String) : List Mark :=
  marks.filter fun mark => !isAtOrBelow key mark.key

def isContainer : Value → Bool
  | .list _ => true
  | .table _ => true
  | _ => false

end AnnotatedMake.Toml
