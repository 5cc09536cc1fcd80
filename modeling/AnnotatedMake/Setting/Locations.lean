import AnnotatedMake.Expansion

namespace AnnotatedMake

structure Locations where
  settingsFile : Path
  cacheDirectory : Path
deriving DecidableEq, Repr

namespace Locations

variable [Platform]

/-- The directory that a variable names, or one in the home directory if the variable is empty. -/
def baseOf (environment : Environment) (variableName fallback : String) : Except Fault Path :=
  match environment.getD variableName "" with
  | "" => environment.home.map fun home => home.child fallback
  | directory => .ok (Path.ofString directory)

/-- The locations that the environment of a user gives. -/
def ofEnvironment (environment : Environment) : Except Fault Locations := do
  let settings ← baseOf environment "XDG_CONFIG_HOME" ".config"
  let caches ← baseOf environment "XDG_CACHE_HOME" ".cache"
  return {
    settingsFile := (settings.child "makecomp").child "config.toml"
    cacheDirectory := caches.child "makecomp" }

end Locations

end AnnotatedMake
