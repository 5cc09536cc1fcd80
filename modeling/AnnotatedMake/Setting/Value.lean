import AnnotatedMake.Number.Shortest
import AnnotatedMake.Setting.Moment
import AnnotatedMake.Text.Blank
import AnnotatedMake.Text.Quoted

namespace AnnotatedMake

inductive Value where
  | null
  | flag (value : Bool)
  | integer (value : Int)
  | number (value : Binary64)
  | text (value : String)
  | list (items : List Value)
  | table (members : List (String × Value))
  | moment (day : CalendarDate) (clock : ClockTime) (offset : Option ClockOffset)
  | date (day : CalendarDate)
  | time (clock : ClockTime)

namespace Value

instance : Inhabited Value := ⟨null⟩

mutual

/-- The text of a value inside another one, where texts are quoted. -/
def display : Value → String
  | null => "None"
  | flag value => if value then "True" else "False"
  | integer value => toString value
  | number value => value.text
  | text value => quotedText value
  | list items => "[" ++ ", ".intercalate (displayAll items) ++ "]"
  | table members => "\x7b" ++ ", ".intercalate (displayMembers members) ++ "\x7d"
  | moment day clock offset =>
    day.text ++ " " ++ clock.text ++ (offset.map ClockOffset.text).getD ""
  | date day => day.text
  | time clock => clock.text

def displayAll : List Value → List String
  | [] => []
  | item :: rest => display item :: displayAll rest

def displayMembers : List (String × Value) → List String
  | [] => []
  | (key, value) :: rest => (quotedText key ++ ": " ++ display value) :: displayMembers rest

end

/-- The text of a value on its own, where a text stands for itself. -/
def plain : Value → String
  | text value => value
  | value => display value

/-- The name of the kind of a value, for diagnostics. -/
def kindName : Value → String
  | null => "NoneType"
  | flag _ => "bool"
  | integer _ => "int"
  | number _ => "float"
  | text _ => "str"
  | list _ => "list"
  | table _ => "dict"
  | moment .. => "datetime"
  | date _ => "date"
  | time _ => "time"

def isText : Value → Bool
  | text _ => true
  | _ => false

/-- The words that stand for a set flag. -/
def yesWords : List String := ["true", "yes", "on", "1", "enabled"]

/-- The words that stand for a cleared flag. -/
def noWords : List String := ["false", "no", "off", "0", "disabled"]

/-- A text as it is compared with the words for flags: in lower case, without blanks around. -/
def flagWord (value : String) : String :=
  String.ofList (Text.trim (value.toList.map Char.toLower))

/-- A value as a flag: blank texts, words for a cleared flag, zero and empty values are false. -/
def toFlag (value : Value) (default : Bool) : Bool :=
  match value with
  | null => default
  | flag value => value
  | integer value => value ≠ 0
  | number value => !value.isZero
  | text value => trimmed value ≠ "" && !noWords.contains (flagWord value)
  | list items => !items.isEmpty
  | table members => !members.isEmpty
  | moment .. | date _ | time _ => true

end Value

end AnnotatedMake
