namespace AnnotatedMake.Shell

/-- The characters that a shell takes as they are: ASCII letters and digits, and a few marks. -/
def isPlain (c : Char) : Bool := c.isAlphanum || "_@%+=:,./-".toList.elem c

/-- A text between single quotes; a single quote in it stands between double quotes of its own. -/
def enclosed : List Char → List Char
  | [] => ['\'']
  | '\'' :: rest => "'\"'\"'".toList ++ enclosed rest
  | c :: rest => c :: enclosed rest

/-- The spelling of a text as one word. -/
def word (text : List Char) : List Char :=
  if !text.isEmpty && text.all isPlain then text else '\'' :: enclosed text

/-- The spelling of a text as one word. -/
def wordOf (text : String) : String := String.ofList (word text.toList)

end AnnotatedMake.Shell
