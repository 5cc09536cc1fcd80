import AnnotatedMake.Directive
import AnnotatedMake.ScopeIndex

namespace AnnotatedMake

/-- The section being read, with no scope in a section of a reserved name, and what was declared. -/
structure Declarations where
  scope : Option String := some globalScope
  table : OrderedMap (String × String) Parameter := .empty

namespace Declarations

/-- Merges the modifiers of one line into what is declared under a scope and name. -/
def declare (read : Declarations) (scope name : String) (modifiers : List Modifier) :
    Declarations :=
  { read with
    table := read.table.update (scope, name) fun held =>
      modifiers.foldl Parameter.amend (held.getD {}) }

def follow (read : Declarations) : Directive → Declarations
  | .target none => read
  | .target (some name) => { read with scope := sectionOf name }
  | .parameter [] => read
  | .parameter (word :: rest) =>
    match read.scope, parameterName? word with
    | some scope, some name => read.declare scope name (rest.map Modifier.ofWord)
    | _, _ => read

def followLine (marker : String) (read : Declarations) (line : String) : Declarations :=
  match Directive.ofLine? marker line with
  | some directive => read.follow directive
  | none => read

def ofLines (marker : String) (lines : List String) : Declarations :=
  lines.foldl (followLine marker) {}

/-- The merged definitions, in the order of first declaration. -/
def definitions (read : Declarations) : List Definition :=
  read.table.entries.map fun entry => { entry.2 with scope := entry.1.1, name := entry.1.2 }

end Declarations

/-- The definitions that the lines of a Makefile declare. -/
def definitionsOf (marker : String) (lines : List String) : List Definition :=
  (Declarations.ofLines marker lines).definitions

/-- The index of the parameters that the lines of a Makefile declare, without its rule names. -/
def ScopeIndex.ofLines (marker : String) (lines : List String) : ScopeIndex :=
  .ofDefinitions (definitionsOf marker lines) []

end AnnotatedMake
