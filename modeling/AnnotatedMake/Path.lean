import AnnotatedMake.Text.Piece

namespace AnnotatedMake

/-- Where a path starts; exactly two slashes are a root of their own. -/
inductive Anchor where
  | relative
  | root
  | doubleRoot
deriving DecidableEq, Repr

structure Path where
  anchor : Anchor
  parts : List String
deriving DecidableEq, Repr

namespace Path

/-- The path of the current directory. -/
def here : Path := ⟨.relative, []⟩

def anchorOf : List Char → Anchor
  | '/' :: '/' :: '/' :: _ => .root
  | '/' :: '/' :: _ => .doubleRoot
  | '/' :: _ => .root
  | _ => .relative

/-- The names of a path that lead somewhere. -/
def partsOf (text : String) : List String :=
  (piecesOf '/' text).filter fun part => part ≠ "" && part ≠ "."

def ofString (text : String) : Path := ⟨anchorOf text.toList, partsOf text⟩

def anchorText : Anchor → String
  | .relative => ""
  | .root => "/"
  | .doubleRoot => "//"

def text (path : Path) : String :=
  if path = here then "." else anchorText path.anchor ++ "/".intercalate path.parts

/-- A path below another one; a path with a root of its own replaces it. -/
def join (base path : Path) : Path :=
  match path.anchor with
  | .relative => ⟨base.anchor, base.parts ++ path.parts⟩
  | _ => path

/-- The path below a directory that a text names. -/
def child (base : Path) (name : String) : Path := base.join (ofString name)

/-- The directory that a path lies in; a root and the current directory lie in themselves. -/
def parent (path : Path) : Path := ⟨path.anchor, path.parts.dropLast⟩

/-- Drops each `..` together with the name before it; at a root there is nothing above. -/
def collapseFrom (anchor : Anchor) (kept : List String) : List String → List String
  | [] => kept
  | part :: rest =>
    if part ≠ ".." then collapseFrom anchor (kept ++ [part]) rest
    else match kept.getLast?, anchor with
      | none, .relative => collapseFrom anchor [".."] rest
      | none, _ => collapseFrom anchor [] rest
      | some last, _ =>
        if last = ".." then collapseFrom anchor (kept ++ [".."]) rest
        else collapseFrom anchor kept.dropLast rest

/-- The path without `..`, as far as its own text tells. -/
def collapsed (path : Path) : Path := ⟨path.anchor, collapseFrom path.anchor [] path.parts⟩

/-- The names up to the first null character in them. -/
def namesBeforeNull : List String → List String
  | [] => []
  | name :: rest =>
    if holds (Char.ofNat 0) name then
      [String.ofList (name.toList.takeWhile fun c => c ≠ Char.ofNat 0)]
    else name :: namesBeforeNull rest

/-- The path up to its first null character; an empty name behind a slash stays empty. -/
def beforeNull (path : Path) : Path := ⟨path.anchor, namesBeforeNull path.parts⟩

end Path

end AnnotatedMake
