import AnnotatedMake.Fault

namespace AnnotatedMake

inductive Level where
  | debug
  | info
  | warning
  | error
  | critical
deriving DecidableEq, Repr

namespace Level

def name : Level → String
  | debug => "DEBUG"
  | info => "INFO"
  | warning => "WARNING"
  | error => "ERROR"
  | critical => "CRITICAL"

/-- Levels are compared by number; the more grave has the greater one. -/
def number : Level → Int
  | debug => 10
  | info => 20
  | warning => 30
  | error => 40
  | critical => 50

end Level

/-- A message with its level, and the fault that led to it when that is worth a look. -/
structure Entry where
  level : Level
  text : String
  cause : Option Fault := none
deriving DecidableEq, Repr

end AnnotatedMake
