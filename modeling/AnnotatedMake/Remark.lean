import AnnotatedMake.Declaration
import AnnotatedMake.Text.Letter
import AnnotatedMake.Text.Quoted

namespace AnnotatedMake

inductive Remark where
  | targetWithoutName
  | reservedTarget (name : String)
  | parameterOfReservedTarget
  | parameterWithoutName
  | invalidName (word : String)
  | separatorInValue (value : String)
  | capitals (name value : String)
deriving DecidableEq, Repr

namespace Remark

def text : Remark → String
  | targetWithoutName => "TARGET without a name, ignored"
  | reservedTarget name =>
    "reserved target name " ++ quotedText name ++ ", its parameters are ignored"
  | parameterOfReservedTarget => "PARAM under an invalid TARGET, ignored"
  | parameterWithoutName => "PARAM without a name, ignored"
  | invalidName word => "invalid parameter name " ++ quotedText word ++ ", ignored"
  | separatorInValue value =>
    "value " ++ quotedText value ++ " contains " ++ quotedText (String.singleton fieldSeparator) ++
      ", ignored"
  | capitals name value => name ++ ": treating " ++ quotedText value ++ " as a value"

/-- A remark with the number of the line it is about. -/
def atLine (number : Nat) (remark : Remark) : String :=
  "line " ++ toString number ++ ": " ++ remark.text

/-- A value of the form `NAME=…` in capitals may be a misspelt modifier. -/
def looksLikeModifier (value : String) : Bool :=
  holds '=' value && Text.inCapitals (value.toList.takeWhile fun c => c ≠ '=')

def ofModifier (name : String) : Modifier → List Remark
  | .value text =>
    if holds fieldSeparator text then [separatorInValue text]
    else if looksLikeModifier text then [capitals name text]
    else []
  | _ => []

end Remark

namespace Declarations

/-- What there is to say about a directive that is met in this state. -/
def remarks (read : Declarations) : Directive → List Remark
  | .target none => [.targetWithoutName]
  | .target (some name) => if (sectionOf name).isNone then [.reservedTarget name] else []
  | .parameter words =>
    match read.scope, words with
    | none, _ => [.parameterOfReservedTarget]
    | some _, [] => [.parameterWithoutName]
    | some _, word :: rest =>
      match parameterName? word with
      | none => [.invalidName word]
      | some name => (rest.map Modifier.ofWord).flatMap (Remark.ofModifier name)

/-- The remarks on the lines that follow line `number`, each with the number of its line. -/
def remarksFrom (marker : String) (read : Declarations) (number : Nat) :
    List String → List (Nat × Remark)
  | [] => []
  | line :: rest =>
    let here := match Directive.ofLine? marker line with
      | some directive => (read.remarks directive).map fun remark => (number + 1, remark)
      | none => []
    here ++ remarksFrom marker (read.followLine marker line) (number + 1) rest

end Declarations

/-- The remarks on the lines of a Makefile, in order; lines are counted from one. -/
def remarksOn (marker : String) (lines : List String) : List (Nat × Remark) :=
  Declarations.remarksFrom marker {} 0 lines

end AnnotatedMake
