import AnnotatedMake.CommandLine.Token

namespace AnnotatedMake.CommandLine

/-- An option, a run of words with the separator among them, or a word that is misplaced. -/
inductive Item where
  | option (name : String) (value : Option String)
  | words (run : List String)
  | unknownOption
  | faulty
deriving DecidableEq, Repr

/-- Puts a word at the front of the run that comes next. -/
def joinWord (word : String) : List Item → List Item
  | .words run :: rest => .words (word :: run) :: rest
  | items => .words [word] :: items

/-- The value in the word of an option; the separator stands for none. -/
def attachedValue (text : String) : Option String :=
  if text = separatorWord then none else some text

/-- The items of a command line. -/
def itemsOf : List Token → List Item
  | [] => []
  | .value text :: rest => joinWord text (itemsOf rest)
  | .separator :: rest => joinWord separatorWord (itemsOf rest)
  | .unknownOption :: rest => .unknownOption :: itemsOf rest
  | .option form attached :: rest =>
    match form.takesValue, attached, rest with
    | true, some text, rest => .option form.name (attachedValue text) :: itemsOf rest
    | true, none, .value text :: rest => .option form.name (some text) :: itemsOf rest
    | true, none, _ => [.faulty]
    | false, none, rest => .option form.name none :: itemsOf rest
    | false, some _, _ => [.faulty]

end AnnotatedMake.CommandLine
