import AnnotatedMake.Host.Program
import AnnotatedMake.Setting.Locations
import AnnotatedMake.Setting.Section
import AnnotatedMake.Setting.Settings
import AnnotatedMake.Toml.Document

namespace AnnotatedMake

namespace Settings

/-- The settings of an empty section. -/
def standard (locations : Locations) : Settings :=
  { schema := .standard locations.cacheDirectory.text }

/-- Reports why the settings cannot be used and ends the loading. -/
def refuse {α : Type} (reason : String) : Program α := do
  Program.report .critical reason
  throw .reported

variable [Platform]

/-- The document in a settings file. -/
def readDocument (path : Path) : Program Toml.Members := do
  match Utf8.decode? (← Program.contentOf path) with
  | some text => Program.ofReply (Toml.read text)
  | none => throw .notText

/-- The document in a settings file; a system fault or a fault in its text is reported. -/
def openDocument (path : Path) : Program Toml.Members :=
  (readDocument path).recover fun fault =>
    if fault.isSystem then refuse ("Cannot open " ++ path.text ++ ": " ++ fault.brief)
    else if fault = .notToml then refuse ("Problem reading " ++ path.text ++ ": " ++ fault.brief)
    else throw fault

/-- The section of a document for this program; a document without one has an empty section. -/
def sectionIn (path : Path) (document : Toml.Members) : Program (OrderedMap String Value) :=
  match Toml.member? document sectionName with
  | none => .done .empty
  | some (.table members) => .done (.ofList members)
  | some _ => refuse ("[" ++ sectionName ++ "] must be a table in " ++ path.text)

/-- The settings of a section, with a report on every unknown name and every refused value. -/
def ofSection (locations : Locations) (entries : OrderedMap String Value) : Program Settings := do
  let settings := standard locations
  Program.forEach (Program.report .warning) (settings.schema.unknownWarnings entries)
  Program.forEach (Program.report .error) (settings.schema.shapeErrors entries)
  return { settings with entries := settings.schema.accepted entries }

/-- The settings file that a text names; an empty text names the usual one. -/
def fileNamed (locations : Locations) (fileName : String) : Program Path :=
  if fileName = "" then .done locations.settingsFile else Program.pathOf fileName

/-- Loads the settings from the file that a text names. -/
def load (locations : Locations) (fileName : String) : Program Settings := do
  let path ← fileNamed locations fileName
  if ← Program.isThere path then
    Program.debug ("Loading " ++ path.text)
    let document ← openDocument path
    let entries ← sectionIn path document
    ofSection locations entries
  else
    if fileName ≠ "" then
      Program.report .warning ("Config file not found: " ++ path.text)
    return standard locations

end Settings

end AnnotatedMake
