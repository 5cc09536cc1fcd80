namespace AnnotatedMake

/-- What programs find where they run, beside the files and variables of their host. -/
class Platform where
  /-- The home directory of a user. -/
  homeOf? : String → Option String
  /-- The home directory of the user for whom a program runs. -/
  ownHome? : Option String
  /-- Whether a character stands for a byte in a name that is no text. -/
  isEscape : Char → Bool
  /-- How many directories can be made in one another, how deep values of a settings file may lie,
  and how many links can be open at a time: as much as the stack of a program holds. -/
  levels : Nat
  nesting : Nat
  links : Nat
  levels_pos : 0 < levels
  /-- The system follows no more links than these. -/
  links_suffice : 40 ≤ links

/-- No user is known, all names are texts, and a program starts on a stack of usual size. -/
instance Platform.plain : Platform where
  homeOf? _ := none
  ownHome? := none
  isEscape _ := false
  levels := 985
  nesting := 986
  links := 986
  levels_pos := by decide
  links_suffice := by decide

end AnnotatedMake
