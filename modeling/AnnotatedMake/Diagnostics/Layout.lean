import AnnotatedMake.Diagnostics.Entry
import AnnotatedMake.Expansion

namespace AnnotatedMake

/-- A diagnostic with its logger, the line that sent it and the fault that led to it. -/
structure Record where
  level : Int
  logger : String
  text : String
  place : String := ""
  line : Int := 0
  cause : Option Fault := none

/-- A layout shows where a diagnostic comes from, or only what it says; it may use colours. -/
structure Layout where
  detailed : Bool := false
  colored : Bool := false
deriving DecidableEq, Repr

/-- The name of this program, and of the logger above all others. -/
def mainLogger : String := "makecomp"

namespace Layout

/-- A text moved to the right end of a field of a given width. -/
def rightAligned (width : Nat) (text : String) : String :=
  String.ofList (List.replicate (width - text.length) ' ') ++ text

/-- What follows the last slash of a text. -/
def lastPiece (text : String) : String := (piecesOf '/' text).getLast?.getD text

/-- The colour of a level. -/
def style? (level : Int) : Option String :=
  if level = Level.warning.number then some "33;2"
  else if level = Level.error.number then some "31;2"
  else if level = Level.critical.number then some "31;1"
  else none

/-- The line of a diagnostic without colours. -/
def headline (layout : Layout) (record : Record) : String :=
  if layout.detailed then
    rightAligned 18 record.logger ++ " - " ++ record.text ++ " // " ++ lastPiece record.place ++
      ":" ++ toString record.line
  else mainLogger ++ ": " ++ record.text

/-- The text of a diagnostic without colours; the trace of a fault follows on lines of its own. -/
def plain (layout : Layout) (record : Record) : String :=
  match record.cause with
  | none => layout.headline record
  | some fault => layout.headline record ++ "\n" ++ fault.trace

/-- The text of a diagnostic. -/
def render (layout : Layout) (record : Record) : String :=
  match layout.colored, style? record.level with
  | true, some style => "\x1b[" ++ style ++ "m" ++ layout.plain record ++ "\x1b[0m"
  | _, _ => layout.plain record

/-- Whether no variable tells about colours. -/
def asksScreen (environment : Environment) : Bool :=
  environment.getD "NO_COLOR" "" = "" && environment.getD "FORCE_COLOR" "" = ""

/-- Colours are used on a terminal; variables can forbid them, or else ask for them. -/
def usesColor (environment : Environment) (isTerminal : Bool) : Bool :=
  environment.getD "NO_COLOR" "" = "" &&
    (environment.getD "FORCE_COLOR" "" ≠ "" || isTerminal)

end Layout

/-- The lines of an entry in the file that keeps the log. -/
def Entry.fileText (entry : Entry) : String :=
  let line := "[" ++ entry.level.name ++ "] " ++ mainLogger ++ " :: " ++ entry.text ++ "\n"
  match entry.cause with
  | none => line
  | some fault => line ++ fault.trace ++ "\n"

end AnnotatedMake
