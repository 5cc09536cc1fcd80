import AnnotatedMake.Expansion
import AnnotatedMake.Setting.Schema

namespace AnnotatedMake

structure Settings where
  entries : OrderedMap String Value := .empty
  schema : Schema

namespace Settings

/-- The value of a setting: the one that is set, else the default, else a fallback. -/
def value (settings : Settings) (name : String) (fallback : Value) : Value :=
  match settings.entries.get? name with
  | some value => value
  | none => (settings.schema.default? name).getD fallback

def flag (settings : Settings) (name : String) (fallback : Bool) : Bool :=
  (settings.value name .null).toFlag fallback

def text (settings : Settings) (name : String) (fallback : String) : String :=
  match settings.value name .null with
  | .null => fallback
  | value => value.plain

/-- A list of texts; a text alone is a list of one, and what is no list gives way. -/
def texts (settings : Settings) (name : String) (fallback : List String) : List String :=
  match settings.value name .null with
  | .text value => [value]
  | .list items => items.map Value.plain
  | _ => fallback

/-- The warning about a setting that is read as a list and is none. -/
def listWarning? (settings : Settings) (name : String) : Option String :=
  match settings.value name .null with
  | .null | .text _ | .list _ => none
  | value => some ("Invalid list value for " ++ name ++ ": " ++ value.plain)

variable [Platform]

/-- A path, with variables and the home directory filled in. -/
def path (settings : Settings) (environment : Environment) (name : String) : Except Fault Path :=
  environment.pathOf (settings.text name "")

end Settings

end AnnotatedMake
