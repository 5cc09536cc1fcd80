import AnnotatedMake.Text.Digit
import AnnotatedMake.Text.Piece

namespace AnnotatedMake.CommandLine

/-- Why a command line is not carried out: it asks for help, or it is wrong. -/
inductive Stop where
  | help
  | wrongUsage
deriving DecidableEq, Repr

/-- An option, and whether it takes a value. -/
structure OptionForm where
  name : String
  takesValue : Bool
deriving DecidableEq, Repr

inductive Token where
  | value (text : String)
  | separator
  | option (form : OptionForm) (attached : Option String)
  | unknownOption
deriving DecidableEq, Repr

/-- The word that ends the options. -/
def separatorWord : String := "--"

/-- The options that ask for help, which every command has. -/
def helpForms : List OptionForm := [⟨"-h", false⟩, ⟨"--help", false⟩]

/-- The digits of any script make up a number. -/
def areDigits (text : List Char) : Bool :=
  !text.isEmpty && text.all fun c => (Text.digitValue? c).isSome

/-- Digits alone, or digits behind a point with or without digits before it. -/
def isUnsigned (text : List Char) : Bool :=
  let digits := text.takeWhile fun c => c ≠ '.'
  match text.dropWhile fun c => c ≠ '.' with
  | [] => areDigits digits
  | _ :: fraction => (digits.isEmpty || areDigits digits) && areDigits fraction

/-- The text without one line feed at its end. -/
def withoutLineEnd (text : List Char) : List Char :=
  if text.getLast? = some '\n' then text.dropLast else text

def isNegativeNumber : List Char → Bool
  | '-' :: rest => isUnsigned (withoutLineEnd rest)
  | _ => false

def isNotEquals (c : Char) : Bool := c ≠ '='

/-- The text before the first equals sign, and the text behind it if there is one. -/
def splitValue (word : String) : String × Option String :=
  let name := word.toList.takeWhile isNotEquals
  match word.toList.dropWhile isNotEquals with
  | [] => (word, none)
  | _ :: value => (String.ofList name, some (String.ofList value))

/-- The options that a name with two dashes may stand for: itself, or those that it begins. -/
def meant (abbreviated : Bool) (forms : List OptionForm) (name : String) : List OptionForm :=
  match forms.find? fun form => form.name = name with
  | some form => [form]
  | none => if abbreviated then forms.filter fun form => startsText name form.name else []

/-- What a word stands for that no option is meant by. -/
def otherToken (word : String) : Token :=
  if isNegativeNumber word.toList || holds ' ' word then .value word else .unknownOption

/-- Whether each letter behind `-h` asks for help once more. -/
def asksAgain : List Char → Bool
  | '=' :: letters => !letters.isEmpty && letters.all fun c => c = 'h'
  | letters => letters.all fun c => c = 'h'

/-- What a word with one dash stands for; all else behind `-h` counts as a value. -/
def shortToken (word : String) : Token :=
  match restAfter? "-h" word with
  | some rest => .option ⟨"-h", false⟩ (if asksAgain rest.toList then none else some rest)
  | none => otherToken word

/-- What a word with two dashes stands for; it must not stand for several options. -/
def longToken (abbreviated : Bool) (forms : List OptionForm) (word : String) :
    Except Stop Token :=
  let (name, attached) := splitValue word
  match meant abbreviated forms name with
  | [] => .ok (otherToken word)
  | [form] => .ok (.option form attached)
  | _ => .error .wrongUsage

/-- What a word stands for; letters behind `-h` are no options, and `--` is no value. -/
def tokenOf (abbreviated : Bool) (forms : List OptionForm) (word : String) : Except Stop Token :=
  match word.toList with
  | ['-', '-'] => .ok .separator
  | '-' :: '-' :: _ => longToken abbreviated forms word
  | '-' :: _ :: _ => .ok (shortToken word)
  | _ => .ok (.value word)

/-- The tokens of a command line whose options may be abbreviated. -/
def tokensOf (forms : List OptionForm) : List String → Except Stop (List Token)
  | [] => .ok []
  | word :: rest => do
    match ← tokenOf true forms word with
    | .separator => return .separator :: rest.map .value
    | token => return token :: (← tokensOf forms rest)

end AnnotatedMake.CommandLine
