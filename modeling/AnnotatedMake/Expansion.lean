import AnnotatedMake.Fault
import AnnotatedMake.OrderedMap
import AnnotatedMake.Path
import AnnotatedMake.Platform

namespace AnnotatedMake

/-- The environment variables by name. -/
abbrev Environment := OrderedMap String String

namespace Environment

def isVariableCharacter (c : Char) : Bool :=
  ('A' ≤ c && c ≤ 'Z') || ('a' ≤ c && c ≤ 'z') || ('0' ≤ c && c ≤ '9') || c = '_'

/-- A name in braces goes on up to the closing brace. -/
def isInsideBraces (c : Char) : Bool := c ≠ '}'

/-- The value of a variable, or the text that named it. -/
def valueOr (environment : Environment) (name : List Char) (written : List Char) : List Char :=
  match environment.get? (String.ofList name) with
  | some value => value.toList
  | none => written

theorem length_dropWhile_le (test : Char → Bool) (text : List Char) :
    (text.dropWhile test).length ≤ text.length :=
  (List.dropWhile_sublist test).length_le

/-- Replaces `$NAME` and `$` with a name in braces by the values of the variables, once. -/
def expand (environment : Environment) : List Char → List Char
  | [] => []
  | '$' :: '{' :: rest =>
    let name := rest.takeWhile isInsideBraces
    let after := rest.dropWhile isInsideBraces
    if after.isEmpty then '$' :: expand environment ('{' :: rest)
    else environment.valueOr name ('$' :: '{' :: (name ++ ['}'])) ++ expand environment after.tail
  | '$' :: rest =>
    let name := rest.takeWhile isVariableCharacter
    if name.isEmpty then '$' :: expand environment rest
    else environment.valueOr name ('$' :: name) ++
      expand environment (rest.dropWhile isVariableCharacter)
  | c :: rest => c :: expand environment rest
termination_by text => text.length
decreasing_by
  all_goals simp_wf
  · have shorter := length_dropWhile_le isInsideBraces rest
    omega
  · have shorter := length_dropWhile_le isVariableCharacter rest
    omega

/-- The names that a text may take variables from: what follows its dollar signs. -/
def namesIn : List Char → List String
  | [] => []
  | '$' :: '{' :: rest => String.ofList (rest.takeWhile isInsideBraces) :: namesIn rest
  | '$' :: rest => String.ofList (rest.takeWhile isVariableCharacter) :: namesIn rest
  | _ :: rest => namesIn rest

def expanded (environment : Environment) (text : String) : String :=
  String.ofList (expand environment text.toList)

/-- A text without trailing slashes, or the root when nothing is left. -/
def trimmed (home : String) : String :=
  let kept := (home.toList.reverse.dropWhile fun c => c = '/').reverse
  if kept.isEmpty then "/" else String.ofList kept

section

variable [Platform]

/-- What is told of a home directory: by the variable `HOME`, then by the users. -/
def homeText? (environment : Environment) (part : String) : Option String :=
  if part = "~" then
    match environment.get? "HOME" with
    | some home => some home
    | none => Platform.ownHome?
  else Platform.homeOf? (String.ofList part.toList.tail)

/-- The directory that a first part such as `~` or `~user` stands for. -/
def homeOf (environment : Environment) (part : String) : Except Fault Path :=
  if holds (Char.ofNat 0) part then .error .nullByte
  else match environment.homeText? part with
    | some home =>
      if startsText "~" (trimmed home) then .error .unknownHome
      else .ok (Path.ofString (trimmed home))
    | none => .error .unknownHome

/-- A path with the home directory in place of a leading tilde. -/
def expandHome (environment : Environment) (path : Path) : Except Fault Path :=
  match path.anchor, path.parts with
  | .relative, part :: rest =>
    if startsText "~" part then
      (environment.homeOf part).map fun home => ⟨home.anchor, home.parts ++ rest⟩
    else .ok path
  | _, _ => .ok path

/-- The home directory as a path. -/
def home (environment : Environment) : Except Fault Path :=
  environment.expandHome (Path.ofString "~")

/-- The path that a text names once its variables and its home directory are filled in. -/
def pathOf (environment : Environment) (text : String) : Except Fault Path :=
  environment.expandHome (Path.ofString (environment.expanded text))

end

end Environment

end AnnotatedMake
