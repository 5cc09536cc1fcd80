import AnnotatedMake.OrderedMap
import AnnotatedMake.Setting.Schema
import AnnotatedMake.Setting.Similarity

namespace AnnotatedMake

/-- The section of the settings file that this program reads. -/
def sectionName : String := "makecomp"

namespace Schema

/-- The warning about a name that the schema does not know. -/
def unknownWarning (schema : Schema) (name : String) : String :=
  "Unknown option '" ++ name ++ "' in [" ++ sectionName ++ "]" ++
    match Similarity.closest? name schema.names with
    | some known => if known = "" then "" else ", did you mean '" ++ known ++ "'?"
    | none => ""

/-- The warnings about unknown names, in the order of the section. -/
def unknownWarnings (schema : Schema) (entries : OrderedMap String Value) : List String :=
  (entries.keys.filter fun name => !schema.names.contains name).map schema.unknownWarning

/-- The known setting whose value has a wrong shape. -/
def misfit? (schema : Schema) (name : String) (value : Value) : Option Field :=
  (schema.field? name).filter fun field => !field.accepts value

/-- The names whose values are refused, in the order of the section. -/
def refused (schema : Schema) (entries : OrderedMap String Value) : List String :=
  (entries.entries.filter fun entry => (schema.misfit? entry.1 entry.2).isSome).map Prod.fst

def shapeError (field : Field) (name : String) (value : Value) : String :=
  "Config error for '" ++ name ++ "' (" ++ field.description ++ "): expected " ++
    field.shapeNames ++ ", got " ++ value.kindName ++ ", using the default"

/-- The errors about refused values, in the order of the section. -/
def shapeErrors (schema : Schema) (entries : OrderedMap String Value) : List String :=
  entries.entries.filterMap fun entry =>
    (schema.misfit? entry.1 entry.2).map fun field => shapeError field entry.1 entry.2

/-- The entries of a section that are not refused. -/
def accepted (schema : Schema) (entries : OrderedMap String Value) : OrderedMap String Value :=
  entries.filter fun name value => (schema.misfit? name value).isNone

end Schema

end AnnotatedMake
