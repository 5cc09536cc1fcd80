import AnnotatedMake.Text.Quoted

namespace AnnotatedMake

/-- Why an operation ended without a result. -/
inductive Fault where
  | system (number : Nat)
  | nullByte
  | unknownHome
  | linkLoop (path : String)
  | notText
  | notEncoded
  | notToml
  | reported
  | unknownShell (name : String)
  | noCommand
  | longInteger (digits : Nat)
  | blankValue
  | tooNested
  | tooManyLevels
  | noScreen
deriving DecidableEq, Repr

namespace Fault

/-- The error numbers of the system calls. -/
def notFound : Nat := 2

def badHandle : Nat := 9

def noAccess : Nat := 13

def isBusy : Nat := 16

def alreadyThere : Nat := 17

def notDirectory : Nat := 20

def isDirectory : Nat := 21

def nameTooLong : Nat := 36

def tooManyLinks : Nat := 40

def systemText (number : Nat) : String := "[Errno " ++ toString number ++ "]"

/-- What a fault says of itself; a fault that was reported before says nothing. -/
def message : Fault → String
  | system number => systemText number
  | nullByte => "embedded null byte"
  | unknownHome => "Could not determine home directory."
  | linkLoop path => "Symlink loop from " ++ quotedText path
  | notText => ""
  | notEncoded => ""
  | notToml => ""
  | reported => ""
  | unknownShell name => quotedText name
  | noCommand => "list index out of range"
  | longInteger digits =>
    "Exceeds the limit (4300 digits) for integer string conversion: value has " ++
      toString digits ++ " digits; use sys.set_int_max_str_digits() to increase the limit"
  | blankValue => "an option has no value"
  | tooNested => "maximum recursion depth exceeded"
  | tooManyLevels => "maximum recursion depth exceeded while calling a Python object"
  | noScreen => "'NoneType' object has no attribute 'isatty'"

/-- How a fault is named inside another message. -/
def brief : Fault → String
  | notText => "UnicodeDecodeError"
  | notEncoded => "UnicodeEncodeError"
  | notToml => "TOMLDecodeError"
  | fault => fault.message

/-- How the kind of a fault is named in a trace. -/
def kind : Fault → String
  | system number =>
    if number = notFound then "FileNotFoundError"
    else if number = alreadyThere then "FileExistsError"
    else if number = notDirectory then "NotADirectoryError"
    else if number = isDirectory then "IsADirectoryError"
    else "OSError"
  | nullByte => "ValueError"
  | unknownHome => "RuntimeError"
  | linkLoop _ => "RuntimeError"
  | notText => "UnicodeDecodeError"
  | notEncoded => "UnicodeEncodeError"
  | notToml => "TOMLDecodeError"
  | reported => "MakecompError"
  | unknownShell _ => "KeyError"
  | noCommand => "IndexError"
  | longInteger _ => "ValueError"
  | blankValue => "TypeError"
  | tooNested => "RecursionError"
  | tooManyLevels => "RecursionError"
  | noScreen => "AttributeError"

/-- The trace of a fault: a headline, and the fault on a line of its own. -/
def trace (fault : Fault) : String :=
  "Traceback (most recent call last):\n" ++ fault.kind ++ ": " ++ fault.message

/-- Whether a fault comes from a system call. -/
def isSystem : Fault → Bool
  | system _ => true
  | _ => false

end Fault

end AnnotatedMake
