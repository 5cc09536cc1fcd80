import AnnotatedMake.Completion.Query
import AnnotatedMake.IndexCache
import AnnotatedMake.Setting.Reading

namespace AnnotatedMake

structure Session where
  settings : Settings
  cache : IndexCache

namespace Session

variable [Platform]

/-- The session under given settings, with the cache that they describe. -/
def ofSettings (settings : Settings) : Program Session := do
  let directory ← settings.readPath "cache_dir"
  let cache : IndexCache :=
    { directory, marker := settings.text "marker" "", enabled := settings.flag "use_cache" true }
  return { settings, cache }

/-- The first of several names under which a directory holds a file. -/
def firstFile? (directory : Path) : List String → Program (Option Path)
  | [] => .done none
  | name :: rest => do
    if ← Program.isFile (directory.child name) then return some (directory.child name)
    else firstFile? directory rest

/-- The Makefile of a directory, which is the current one if none is given. -/
def findSource (session : Session) (directory : Option Path) : Program (Option Path) := do
  let base ← match directory with
    | some path => pure path
    | none => Program.currentDirectory
  firstFile? base (← session.settings.readTexts "makefiles" Schema.defaultMakefiles)

/-- The candidates that an index gives for a query. -/
def candidatesIn (index : ScopeIndex) (query : Query) : List String :=
  index.candidates query.target query.partialWord query.position

/-- What is reported about the answer to a query. -/
def summary (query : Query) (candidates : List String) : String :=
  query.position.label ++ " " ++ quotedText query.partialWord ++ " (target=" ++
    query.target.getD "None" ++ "): " ++ toString candidates.length ++ " candidates"

/-- Ends with nothing found when a fault keeps a Makefile from being read. -/
def orNothing {α : Type} (source : Option Path) (program : Program (Option α)) :
    Program (Option α) :=
  program.recover fun fault =>
    if fault.isSystem || fault = .notText then do
      Program.reportFault .error
        ("Completion failed for " ++ (source.map Path.text).getD "None") fault
      return none
    else throw fault

/-- The Makefile to read: the one given, else the one in the current directory. -/
def sourceFor (session : Session) : Option Path → Program (Option Path)
  | some path => .done (some path)
  | none => orNothing none do
    match ← session.findSource none with
    | some path => return some path
    | none =>
      Program.debug "No Makefile found"
      return none

/-- The index of the Makefile to read, none when there is none or it cannot be read. -/
def indexFor (session : Session) (source : Option Path) : Program (Option ScopeIndex) := do
  match ← session.sourceFor source with
  | some path =>
    orNothing (some path) ((session.cache.ensureFresh path none).bind fun index =>
      .done (some index))
  | none => return none

/-- The candidates for a query; none when the cursor is not on an argument or no Makefile can be
read. -/
def complete (session : Session) (query : Query) (source : Option Path) :
    Program (List String) := do
  if query.isOnArgument then
    match ← session.indexFor source with
    | some index =>
      let candidates := candidatesIn index query
      Program.debug (summary query candidates)
      return candidates
    | none => return []
  else return []

/-- The candidates for a line cut at the cursor. -/
def completeLine (session : Session) (line : String) (source : Option Path) :
    Program (List String) :=
  session.complete (.ofLine line) source

end Session

end AnnotatedMake
