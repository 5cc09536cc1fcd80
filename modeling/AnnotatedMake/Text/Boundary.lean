namespace AnnotatedMake.Text

/-- A number is inside when an odd count of the ascending boundaries lies at or below it. -/
def inside : List Nat → Nat → Bool
  | [], _ => false
  | boundary :: rest, point => if point < boundary then false else !inside rest point

end AnnotatedMake.Text
