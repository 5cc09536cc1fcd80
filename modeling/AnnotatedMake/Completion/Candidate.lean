import AnnotatedMake.ScopeIndex
import AnnotatedMake.Text.Distinct
import AnnotatedMake.Text.Piece

namespace AnnotatedMake

/-- The kind of word being completed: the first argument names a target, later ones set
parameters. -/
inductive Position where
  | target
  | parameter
deriving DecidableEq, Repr

def Position.label : Position → String
  | target => "target"
  | parameter => "param"

namespace ScopeIndex

def assignment (name value : String) : String := name ++ "=" ++ value

/-- Every `name=value` usable with a target. -/
def assignments (index : ScopeIndex) (target : Option String) : List String :=
  (index.visibleTo target).flatMap fun definition =>
    definition.values.map (assignment definition.name)

/-- The completions of a partial word, each once, in the order of the index. -/
def candidates (index : ScopeIndex) (target : Option String) (partialWord : String)
    (position : Position) : List String :=
  let all := match position with
    | .target => index.targets
    | .parameter => index.assignments target
  distinct (all.filter (startsText partialWord))

end ScopeIndex

end AnnotatedMake
