/-
This file resolves paths name by name from the targets of the links alone.
A link that is met again while its target is followed leads in a circle and is not followed.
-/

import AnnotatedMake.Fault
import AnnotatedMake.OrderedMap
import AnnotatedMake.Path
import AnnotatedMake.Platform

namespace AnnotatedMake.Resolution

/-- Where a text leads: to a path, in a circle, to a text of its own, or too deep. -/
inductive Lead where
  | reached (path : Path)
  | circle (text : String)
  | lost
deriving DecidableEq, Repr

/-- The links that were met, with the paths that the followed ones led to. -/
abbrev Known := OrderedMap Path (Option Path)

/-- The path one level up; at a root there is nothing above. -/
def up (path : Path) : Path := ⟨path.anchor, Path.collapseFrom path.anchor path.parts [".."]⟩

/-- The path of a name in the directory at a path. -/
def below (path : Path) (name : String) : Path := ⟨path.anchor, path.parts ++ [name]⟩

/-- The path that the target of a link starts from. -/
def startOf (path : Path) (target : String) : Path :=
  if startsText "/" target then ⟨.root, []⟩ else path

/-- A text with what was left of another one behind it, which stands alone if it begins with a
slash. -/
def continued (text : String) (left : List String) : String :=
  let rest := "/".intercalate left
  if startsText "/" rest then rest
  else if endsText "/" text then text ++ rest
  else text ++ "/" ++ rest

/-- Follows names from a path, with at most as many open links as the depth says. -/
def follow (linkAt : Path → Option String) (depth : Nat) (path : Path) (known : Known)
    (names : List String) : Lead × Known :=
  match names with
  | [] => (.reached path, known)
  | name :: rest =>
    if name = "" || name = "." then follow linkAt depth path known rest
    else if name = ".." then follow linkAt depth (up path) known rest
    else
      let next := below path name
      match linkAt next, known.get? next with
      | none, _ => follow linkAt depth next known rest
      | some _, some (some goal) => follow linkAt depth goal known rest
      | some _, some none => (.circle (continued next.text rest), known)
      | some target, none =>
        match depth with
        | 0 => (.lost, known)
        | left + 1 =>
          match follow linkAt left (startOf path target) (known.insert next none)
              (piecesOf '/' target) with
          | (.reached goal, known) =>
            follow linkAt (left + 1) goal (known.insert next (some goal)) rest
          | (.circle text, known) => (.circle (continued text rest), known)
          | (.lost, known) => (.lost, known)
termination_by (depth, names.length)

variable [Platform]

/-- How many links can be open at a time. -/
def openLinks : Nat := Platform.links

/-- The path that a path leads to, as far as links tell. -/
def target (linkAt : Path → Option String) (path : Path) : Except Fault Path :=
  let start : Path := if path.anchor = .relative then .here else ⟨.root, []⟩
  match (follow linkAt openLinks start .empty path.parts).1 with
  | .reached goal => .ok goal
  | .circle text => .ok (.ofString text)
  | .lost => .error .tooNested

end AnnotatedMake.Resolution
