import AnnotatedMake.Diagnostics.Layout

namespace AnnotatedMake.CommandLine

/-- Where a program prints. -/
structure Streams where
  /-- The characters that standard output can encode; while it is closed, printing does nothing. -/
  output : Option (Char → Bool) := some fun _ => true
  /-- Whether standard error is open, and whether it is a terminal. -/
  hasErrors : Bool := true
  isTerminal : Bool := false

namespace Streams

/-- Whether a text can be printed. -/
def accepts (streams : Streams) (text : String) : Bool :=
  match streams.output with
  | some encodes => text.toList.all encodes
  | none => true

/-- What is printed of texts that are printed in turn up to the first that cannot be. -/
def taken (streams : Streams) (texts : List String) : List String :=
  match streams.output with
  | some _ => texts.takeWhile streams.accepts
  | none => []

@[simp] theorem taken_nil (streams : Streams) : streams.taken [] = [] := by
  cases output : streams.output <;> simp [taken, output]

/-- The layout of diagnostics on the screen, or the fault of a closed one. -/
def layout (streams : Streams) (environment : Environment) : Except Fault Layout :=
  if Layout.asksScreen environment && !streams.hasErrors then .error .noScreen
  else .ok { colored := Layout.usesColor environment streams.isTerminal }

end Streams

end AnnotatedMake.CommandLine
