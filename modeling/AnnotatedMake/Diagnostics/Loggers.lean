import AnnotatedMake.Diagnostics.Layout

namespace AnnotatedMake

/-- Where a handler sends diagnostics. -/
inductive Sink where
  | screen (layout : Layout)
  | file (path : String)
deriving DecidableEq, Repr

/-- No two handlers have the same number. -/
structure Handler where
  number : Nat
  sink : Sink
deriving DecidableEq, Repr

/-- A logger of level zero has the level of the nearest logger above it. -/
structure Logger where
  level : Int := 0
  handlers : List Handler := []
  propagates : Bool := true
deriving DecidableEq, Repr

/-- The loggers asked for so far, the handlers that they share, and the count of handlers made. -/
structure Loggers where
  debug : Bool := false
  shared : List Handler := []
  made : Nat := 0
  known : OrderedMap String Logger := .empty

namespace Loggers

def setDebug (loggers : Loggers) (debug : Bool) : Loggers := { loggers with debug }

/-- Shares no handlers any more; on demand debugging is switched on. -/
def emptied (loggers : Loggers) (force : Bool) : Loggers :=
  { loggers with debug := loggers.debug || force, shared := [] }

/-- Shares one more handler, which is new. -/
def share (loggers : Loggers) (sink : Sink) : Loggers :=
  { loggers with
    shared := loggers.shared ++ [⟨loggers.made, sink⟩]
    made := loggers.made + 1 }

/-- Shares one new handler in place of the ones before. -/
def setUp (loggers : Loggers) (force : Bool) (sinkFor : Bool → Sink) : Loggers :=
  let loggers := loggers.emptied force
  loggers.share (sinkFor loggers.debug)

/-- Sets up a handler for what was opened. When nothing could be opened, none is shared. -/
def setUpFor (loggers : Loggers) (force : Bool) : Option (Bool → Sink) → Loggers
  | some sinkFor => loggers.setUp force sinkFor
  | none => loggers.emptied force

/-- A handler on a screen, which is detailed while debugging. -/
def screen (colored : Bool) (debug : Bool) : Sink := .screen ⟨debug, colored⟩

/-- The full name of a logger, which begins with the name of the main one. -/
def fullName (name : String) : String :=
  if name = mainLogger || startsText (mainLogger ++ ".") name then name
  else mainLogger ++ "." ++ name

/-- The level of a logger for which none is given. -/
def usualLevel (loggers : Loggers) : Int :=
  if loggers.debug then Level.debug.number else Level.warning.number

/-- A logger with the shared handlers in place of those from before. -/
def refreshed (loggers : Loggers) (logger : Logger) : Logger :=
  let kept := logger.handlers.filter loggers.shared.elem
  let added := loggers.shared.filter fun handler => !kept.elem handler
  { logger with handlers := kept ++ added, propagates := false }

/-- The logger of a name, as it is after it was asked for. -/
def asked (loggers : Loggers) (name : String) (level : Option Int) : Logger :=
  let logger := (loggers.known.get? (fullName name)).getD {}
  { loggers.refreshed logger with level := level.getD loggers.usualLevel }

/-- Asks for a logger by name. -/
def ask (loggers : Loggers) (name : String) (level : Option Int) : Loggers :=
  { loggers with known := loggers.known.insert (fullName name) (loggers.asked name level) }

/-- The level that comes down to a name, given in reverse, from the nearest logger above. -/
def levelAbove (loggers : Loggers) : List Char → Int
  | [] => Level.warning.number
  | '.' :: above =>
    match loggers.known.get? (String.ofList above.reverse) with
    | some logger => if logger.level = 0 then loggers.levelAbove above else logger.level
    | none =>
      match above with
      | [] => Level.warning.number
      | _ :: rest => loggers.levelAbove rest
  | _ :: rest => loggers.levelAbove rest

/-- The level that decides what the logger of a full name lets through. -/
def effectiveLevel (loggers : Loggers) (name : String) (logger : Logger) : Int :=
  if logger.level = 0 then loggers.levelAbove name.toList.reverse else logger.level

/-- What a handler writes to the screen. -/
def screenText (record : Record) (handler : Handler) : String :=
  match handler.sink with
  | .screen layout => layout.render record ++ "\n"
  | .file _ => ""

/-- What a logger writes to the screen. Without handlers only grave diagnostics are written, in
their bare words. -/
def writtenBy (logger : Logger) (record : Record) : String :=
  if logger.handlers.isEmpty then
    if Level.warning.number ≤ record.level then record.text ++ "\n" else ""
  else String.join (logger.handlers.map (screenText record))

/-- What the logger of a name writes to the screen for a message. -/
def written (loggers : Loggers) (name : String) (level : Int) (text : String) : String :=
  let full := fullName name
  match loggers.known.get? full with
  | some logger =>
    if 0 < level && loggers.effectiveLevel full logger ≤ level then
      writtenBy logger { level, logger := full, text }
    else ""
  | none => ""

end Loggers

end AnnotatedMake
