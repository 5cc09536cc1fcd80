namespace AnnotatedMake

/-- The scope of the parameters that every target accepts. -/
def globalScope : String := "__global__"

/-- The character that separates the fields of a cache record, so that no field may hold it. -/
def fieldSeparator : Char := '|'

/-- The values offered for a parameter, in the order of their declaration, and what is required. -/
structure Parameter where
  values : List String := []
  type : Option String := none
  required : Bool := false
  default : Option String := none
deriving DecidableEq, Inhabited

/-- A parameter with its name and the scope that accepts it: a target, or the global scope. -/
structure Definition extends Parameter where
  name : String
  scope : String
deriving DecidableEq

end AnnotatedMake
