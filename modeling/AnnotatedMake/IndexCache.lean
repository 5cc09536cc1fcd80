/-
This file keeps indexes of Makefiles in cache files, one for each marker and Makefile.
A cache file is used while it is not older than its Makefile, and is replaced in one step.
-/

import AnnotatedMake.CacheRecord
import AnnotatedMake.Digest
import AnnotatedMake.Host.Program
import AnnotatedMake.Remark
import AnnotatedMake.RuleName

namespace AnnotatedMake

/-- The ending of the names of cache files, those of temporary ones included. -/
def cacheEnding : String := ".cache"

/-- The text of a file with every line ending as one line feed, faulty bytes replaced. -/
def textOf (content : Bytes) : String :=
  String.ofList (Text.unifyBreaks (Utf8.decodeReplacing content))

/-- The text of a file without faulty bytes. -/
def textOf? (content : Bytes) : Option String :=
  (Utf8.decode? content).map fun text => String.ofList (Text.unifyBreaks text)

/-- The lines of a Makefile. -/
def sourceLines (content : Bytes) : List String := linesOf (textOf content)

/-- The index that the lines of a Makefile give, with its rule names. -/
def ScopeIndex.ofSource (marker : String) (lines : List String) : ScopeIndex :=
  (ScopeIndex.ofLines marker lines).withTargets (RuleName.ofLines lines)

/-- The lines of the Makefile at a path. -/
def readLines (path : Path) : Program (List String) := do
  return sourceLines (← Program.contentOf path)

/-- Reports the remarks on the lines of a Makefile. -/
def reportRemarks (marker : String) (lines : List String) : Program Unit :=
  Program.forEach (fun (number, remark) => Program.debug (remark.atLine number))
    (remarksOn marker lines)

/-- Where cache files are kept, for which marker, and whether they are used at all. -/
structure IndexCache where
  directory : Path
  marker : String := "##"
  enabled : Bool := true

namespace IndexCache

/-- The text whose digest names a cache file: the marker, a null character and the resolved path. -/
def keyText (marker : String) (resolved : Path) : String :=
  marker ++ String.singleton (Char.ofNat 0) ++ resolved.text

/-- The first 128 bits of the digest of a key. -/
def keyOf (marker : String) (resolved : Path) : String :=
  String.ofList ((Digest.hexOf (bytesOf (keyText marker resolved))).take 32)

/-- The path of the cache file of a Makefile. -/
def pathFor (cache : IndexCache) (source : Path) : Program Path := do
  let resolved ← Program.resolve source
  return cache.directory.child (keyOf cache.marker resolved ++ cacheEnding)

/-- When a path last changed; none when the system does not tell. -/
def changed? (path : Path) : Program (Option Int) :=
  ((Program.inspect path).bind fun status => .done (some status.changed)).recover fun fault =>
    if fault.isSystem then .done none else .fail fault

/-- Whether a cache file is there and not older than its Makefile. -/
def isFresh (source file : Path) : Program Bool := do
  match ← changed? file with
  | none => return false
  | some cached => return (← changed? source).any fun time => time ≤ cached

/-- The text of a cache file; a fault when it cannot be read as text. -/
def readText (file : Path) : Program String := do
  match textOf? (← Program.contentOf file) with
  | some text => return text
  | none => throw .notText

/-- The index in a cache file, none when the file cannot be read. -/
def load (file : Path) : Program (Option ScopeIndex) :=
  ((readText file).bind fun text => .done (some (CacheRecord.decodeIndex text))).recover
    fun fault =>
      if fault.isSystem || fault = .notText then do
        Program.report .info ("Ignoring unreadable cache " ++ file.text ++ ": " ++ fault.brief)
        return none
      else throw fault

/-- Removes a file that may be gone. -/
def discard (path : Path) : Program Unit :=
  (Program.remove path).recover fun fault =>
    if fault = .system Fault.notFound then .done () else .fail fault

variable [Platform]

/-- Writes the records to a temporary file and moves it onto the cache file. -/
def replace (index : ScopeIndex) (file : Path) : Program Unit := do
  Program.makeDirectories file.parent
  let temporary ← Program.createTemporary file.parent cacheEnding
  let fill := do
    Program.forEach (fun definition =>
      Program.append temporary (bytesOf (CacheRecord.encode definition))) index.definitions
    Program.rename temporary file
  fill.recover fun fault => do
    discard temporary
    throw fault

/-- Replaces a cache file; false when that fails. -/
def store (index : ScopeIndex) (file : Path) : Program Bool := do
  let written ← ((replace index file).bind fun _ => .done true).recover fun fault =>
    if fault.isSystem then do
      Program.report .warning ("Cannot write cache " ++ file.text ++ ": " ++ fault.brief)
      return false
    else throw fault
  if written then
    Program.debug ("Cache written to " ++ file.text)
  return written

/-- The index of lines that were just read, without a look at cache files. -/
def parse (cache : IndexCache) (lines : List String) : Program ScopeIndex := do
  reportRemarks cache.marker lines
  return .ofLines cache.marker lines

/-- The index in a cache file that is fresh and readable. -/
def loadFresh (source file : Path) : Program (Option ScopeIndex) := do
  if ← isFresh source file then load file else return none

/-- The index of a Makefile whose lines were just read. -/
def indexOf (cache : IndexCache) (source : Path) (file : Option Path) (lines : List String) :
    Program ScopeIndex := do
  let targets := RuleName.ofLines lines
  if cache.enabled then
    let file ← match file with
      | some path => pure path
      | none => cache.pathFor source
    match ← loadFresh source file with
    | some cached =>
      Program.debug ("Using cache " ++ file.text)
      return cached.withTargets targets
    | none =>
      Program.debug ("Parsing " ++ source.text)
      let index ← cache.parse lines
      let _ ← store index file
      return index.withTargets targets
  else
    return (← cache.parse lines).withTargets targets

/-- The lines of a Makefile, none when the system does not give them. -/
def sourceLines? (source : Path) : Program (Option (List String)) :=
  ((readLines source).bind fun lines => .done (some lines)).recover fun fault =>
    if fault.isSystem then do
      Program.debug ("Cannot read " ++ source.text ++ ": " ++ fault.brief)
      return none
    else throw fault

/-- The index of a Makefile, from its cache file when that is fresh; empty when the Makefile cannot
be read. -/
def ensureFresh (cache : IndexCache) (source : Path) (file : Option Path) : Program ScopeIndex := do
  match ← sourceLines? source with
  | some lines => cache.indexOf source file lines
  | none => return {}

/-- Removes the regular files among paths and counts them. -/
def removeFiles : List Path → Program Nat
  | [] => .done 0
  | path :: rest => do
    if ← Program.isFile path then
      Program.remove path
      return (← removeFiles rest) + 1
    else removeFiles rest

/-- Removes every cache file and counts them. -/
def clear (cache : IndexCache) : Program Nat := do
  if ← Program.isDirectory cache.directory then
    let names ← Program.list cache.directory
    removeFiles ((names.filter (endsText cacheEnding)).map cache.directory.child)
  else return 0

end IndexCache

end AnnotatedMake
