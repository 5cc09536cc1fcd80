import AnnotatedMake.Host.Program

namespace AnnotatedMake

namespace Call

/-- The reply to a call that the system refuses; none where it has no say. -/
def refusal? (number : Nat) : (request : Call) → Option request.Reply
  | .read _ | .inspect _ | .list _ | .makeDirectory _ | .createTemporary .. | .append .. | .write ..
  | .rename .. | .remove _ | .resolve _ | .currentDirectory | .openLog _ =>
    some (.error (.system number))
  | .environment _ | .report _ => none

/-- The paths that the system is given with a call. -/
def paths : Call → List Path
  | .read path | .inspect path | .list path | .makeDirectory path | .createTemporary path _
  | .append path _ | .write path _ | .remove path | .resolve path => [path]
  | .rename source goal => [source, goal]
  | .openLog _ | .currentDirectory | .environment _ | .report _ => []

/-- The number that a call is refused with, if it gets as far as the system. -/
def refusedWith (refuses : Call → Option Nat) (request : Call) : Option Nat :=
  if request.paths.any fun path => path.parts.any (holds (Char.ofNat 0)) then none
  else refuses request

/-- What a call is replied to, if it is not refused. -/
def granted {α : Type} (refuses : Call → Option Nat) (request : Call) (reply : Except Fault α) :
    Except Fault α :=
  match request.refusedWith refuses with
  | some number => .error (.system number)
  | none => reply

end Call

/-- The program where the system refuses calls, each with the number of a fault. -/
def Program.under {α : Type} (refuses : Call → Option Nat) : Program α → Program α
  | done result => done result
  | fail fault => fail fault
  | call request next =>
    match (request.refusedWith refuses).bind fun number => request.refusal? number with
    | some reply => (next reply).under refuses
    | none => call request fun reply => (next reply).under refuses

end AnnotatedMake
