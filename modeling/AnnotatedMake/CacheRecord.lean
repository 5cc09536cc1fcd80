import AnnotatedMake.ScopeIndex
import AnnotatedMake.Text.Line
import AnnotatedMake.Text.Piece

namespace AnnotatedMake.CacheRecord

def encode (definition : Definition) : String :=
  let separator := String.singleton fieldSeparator
  definition.name ++ separator ++ definition.scope ++ separator ++
    " ".intercalate definition.values ++ "\n"

/-- The text of a cache file. -/
def encodeIndex (index : ScopeIndex) : String :=
  String.join (index.definitions.map encode)

/-- The scope, the name and the values on a line. -/
def ofLine? (line : String) : Option ((String × String) × List String) :=
  match piecesOf fieldSeparator line with
  | [first, second, third] =>
    let name := trimmed first
    let scope := trimmed second
    if name = "" || scope = "" then none else some ((scope, name), wordsOf third)
  | _ => none

/-- The values of each scope and name, in the order of the records. -/
def merge (records : List ((String × String) × List String)) :
    OrderedMap (String × String) (List String) :=
  records.foldl (fun table record => table.update record.1 fun held => held.getD [] ++ record.2)
    .empty

/-- The index that the text of a cache file holds, without rule names. -/
def decodeIndex (text : String) : ScopeIndex :=
  let table := merge ((linesOf text).filterMap ofLine?)
  .ofDefinitions
    (table.entries.map fun entry =>
      { values := entry.2, scope := entry.1.1, name := entry.1.2 }) []

end AnnotatedMake.CacheRecord
