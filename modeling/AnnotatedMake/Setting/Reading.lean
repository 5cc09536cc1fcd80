import AnnotatedMake.Host.Program
import AnnotatedMake.Setting.Settings

namespace AnnotatedMake

namespace Settings

/-- The list of texts of a setting, with a warning when it is no list. -/
def readTexts (settings : Settings) (name : String) (fallback : List String) :
    Program (List String) := do
  match settings.listWarning? name with
  | some warning => Program.report .warning warning
  | none => pure ()
  return settings.texts name fallback

variable [Platform]

/-- The path of a setting, with the variables and the home directory of the host filled in. -/
def readPath (settings : Settings) (name : String) : Program Path :=
  Program.pathOf (settings.text name "")

end Settings

end AnnotatedMake
