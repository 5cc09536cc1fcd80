import AnnotatedMake.Setting.Value

namespace AnnotatedMake

/-- A shape that the value of a setting may have. -/
inductive Shape where
  | text
  | flag
  | list
  | integer
  | number
  | table
deriving DecidableEq, Repr

namespace Shape

def name : Shape → String
  | text => "str"
  | flag => "bool"
  | list => "list"
  | integer => "int"
  | number => "float"
  | table => "dict"

/-- Flags, lists of texts and texts are recognised; a flag may be written as a word. -/
def accepts : Shape → Value → Bool
  | flag, .flag _ => true
  | flag, .text word =>
    Value.yesWords.contains (Value.flagWord word) || Value.noWords.contains (Value.flagWord word)
  | list, .list items => items.all Value.isText
  | text, .text _ => true
  | _, _ => false

end Shape

/-- A known setting; a null default is no default. -/
structure Field where
  name : String
  shapes : List Shape := [.text]
  default : Value := .null
  description : String := ""

namespace Field

/-- The shapes of a field, for diagnostics. -/
def shapeNames (field : Field) : String := " or ".intercalate (field.shapes.map Shape.name)

def accepts (field : Field) (value : Value) : Bool :=
  field.shapes.any fun shape => shape.accepts value

end Field

/-- The known settings, in the order in which they are listed. -/
abbrev Schema := List Field

namespace Schema

def names (schema : Schema) : List String := schema.map Field.name

def field? (schema : Schema) (name : String) : Option Field :=
  schema.find? fun field => field.name = name

/-- The default of a setting; of several fields of one name the last with a default decides. -/
def default? (schema : Schema) (name : String) : Option Value :=
  ((schema.filter fun field => field.name = name).reverse.map Field.default).find? fun value =>
    match value with
    | .null => false
    | _ => true

def texts (items : List String) : Value := .list (items.map .text)

/-- The marker of directives when none is set. -/
def defaultMarker : String := "##"

/-- The names of a Makefile, in the order in which they are looked up. -/
def defaultMakefiles : List String := ["GNUmakefile", "makefile", "Makefile"]

def defaultCommands : List String := ["make"]

/-- The settings of this program, with caches in `cacheDirectory` by default. -/
def standard (cacheDirectory : String) : Schema := [
  { name := "marker", default := .text defaultMarker
    description := "Comment sequence introducing an annotation" },
  { name := "cache_dir", default := .text cacheDirectory
    description := "Directory holding the index caches" },
  { name := "makefiles", shapes := [.list, .text], default := texts defaultMakefiles
    description := "Makefile names, in lookup order" },
  { name := "commands", shapes := [.list, .text], default := texts defaultCommands
    description := "Commands the shell scripts complete" },
  { name := "use_cache", shapes := [.flag], default := .flag true
    description := "Persist parsed annotations between completions" }]

end Schema

end AnnotatedMake
