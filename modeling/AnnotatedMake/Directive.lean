import AnnotatedMake.Text.Piece
import AnnotatedMake.Definition

namespace AnnotatedMake

/-- What a line declares. -/
inductive Directive where
  | target (name : Option String)
  | parameter (words : List String)
deriving DecidableEq, Repr

namespace Directive

/-- The words after the marker, when it starts the line and a blank follows it. -/
def wordsAfterMarker (marker : String) (line : String) : List String :=
  match Text.after? marker.toList line.toList with
  | some (c :: rest) => if Text.isBlank c then (Text.words rest).map String.ofList else []
  | _ => []

def ofWords? : List String → Option Directive
  | [] => none
  | keyword :: rest =>
    if keyword = "TARGET" then some (target rest.head?)
    else if keyword = "PARAM" then some (parameter rest)
    else none

def ofLine? (marker : String) (line : String) : Option Directive :=
  ofWords? (wordsAfterMarker marker line)

end Directive

/-- A word after the name of a parameter. -/
inductive Modifier where
  | type (text : String)
  | required
  | default (text : String)
  | value (text : String)
deriving DecidableEq, Repr

namespace Modifier

def ofWord (word : String) : Modifier :=
  match restAfter? "TYPE=" word with
  | some text => type text
  | none =>
    if word = "REQUIRED" then required
    else match restAfter? "DEFAULT=" word with
      | some text => default text
      | none => value word

/-- The kind of a modifier and the text it carries. -/
def labelled : Modifier → String × String
  | type text => ("type", text)
  | required => ("required", "")
  | default text => ("default", text)
  | value text => ("value", text)

end Modifier

/-- A parameter with one more word of its declaration, unless that holds a separator. -/
def Parameter.amend (parameter : Parameter) : Modifier → Parameter
  | .type text => { parameter with type := some text }
  | .required => { parameter with required := true }
  | .default text => { parameter with default := some text }
  | .value text =>
    if holds fieldSeparator text then parameter
    else { parameter with values := parameter.values ++ [text] }

/-- The name that the first word of a declaration gives: the word less one colon at its end. -/
def parameterName? (word : String) : Option String :=
  let name := String.ofList ((Text.before? [':'] word.toList).getD word.toList)
  if name = "" || holds fieldSeparator name then none else some name

/-- The section that a target name opens; a reserved name opens one whose parameters are lost. -/
def sectionOf (name : String) : Option String :=
  if holds fieldSeparator name || name = globalScope then none else some name

end AnnotatedMake
