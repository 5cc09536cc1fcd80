import AnnotatedMake.Definition
import AnnotatedMake.Text.Quoted

namespace AnnotatedMake

/-- The JSON values that definitions are made of. -/
inductive Json where
  | null
  | flag (value : Bool)
  | text (value : String)
  | list (items : List Json)
  | object (members : List (String × Json))

namespace Json

/-- A unit of sixteen bits as an escape. -/
def escapeUnit (unit : Nat) : List Char := '\\' :: 'u' :: Text.hexText 4 unit

/-- A character within quotes. Beyond ASCII it is written in one unit or two. -/
def escape (c : Char) : List Char :=
  if c = '"' || c = '\\' then ['\\', c]
  else if c = '\n' then ['\\', 'n']
  else if c = '\r' then ['\\', 'r']
  else if c = '\t' then ['\\', 't']
  else if c = '\x08' then ['\\', 'b']
  else if c = '\x0c' then ['\\', 'f']
  else if 0x20 ≤ c.toNat && c.toNat ≤ 0x7E then [c]
  else if c.toNat < 0x10000 then escapeUnit c.toNat
  else
    let above := c.toNat - 0x10000
    escapeUnit (0xD800 + above / 0x400) ++ escapeUnit (0xDC00 + above % 0x400)

def quote (text : String) : String :=
  String.ofList ('"' :: (text.toList.flatMap escape ++ ['"']))

/-- Two spaces for each level. -/
def indent (depth : Nat) : String := String.ofList (List.replicate (2 * depth) ' ')

/-- Lines one level in, between brackets of their own. -/
def block (depth : Nat) (opening closing : String) (lines : List String) : String :=
  opening ++ "\n" ++ ",\n".intercalate (lines.map fun line => indent (depth + 1) ++ line) ++ "\n" ++
    indent depth ++ closing

mutual

/-- The text of a value at a depth. -/
def render (depth : Nat) : Json → String
  | null => "null"
  | flag value => if value then "true" else "false"
  | text value => quote value
  | list [] => "[]"
  | list (item :: rest) => block depth "[" "]" (renderItems (depth + 1) (item :: rest))
  | object [] => "\x7b\x7d"
  | object (member :: rest) =>
    block depth "\x7b" "\x7d" (renderMembers (depth + 1) (member :: rest))

def renderItems (depth : Nat) : List Json → List String
  | [] => []
  | item :: rest => render depth item :: renderItems depth rest

def renderMembers (depth : Nat) : List (String × Json) → List String
  | [] => []
  | (name, value) :: rest =>
    (quote name ++ ": " ++ render depth value) :: renderMembers depth rest

end

def ofText? : Option String → Json
  | some value => text value
  | none => null

end Json

/-- A definition as an object. -/
def Definition.json (definition : Definition) : Json := .object [
  ("name", .text definition.name),
  ("scope", .text definition.scope),
  ("values", .list (definition.values.map .text)),
  ("type", .ofText? definition.type),
  ("required", .flag definition.required),
  ("default", .ofText? definition.default)]

end AnnotatedMake
