import HeaderBindings.Log

/-! What the front-end has to say about a header. -/

namespace HeaderBindings

inductive Severity where
  | ignored | note | warning | error | fatal
  deriving DecidableEq, Repr

namespace Severity

def name : Severity → String
  | .ignored => "Ignored"
  | .note => "Note"
  | .warning => "Warning"
  | .error => "Error"
  | .fatal => "Fatal"

def isError : Severity → Bool
  | .error | .fatal => true
  | .ignored | .note | .warning => false

/-- Green, purple or red, as the number of a terminal colour. -/
def colour : Severity → String
  | .ignored | .note => "32"
  | .warning => "35"
  | .error | .fatal => "31"

def level : Severity → Log.Level
  | .ignored | .note => .debug
  | .warning => .warn
  | .error | .fatal => .error

end Severity

structure Diagnostic where
  file : String
  line : Nat
  column : Nat
  severity : Severity
  message : String
  deriving DecidableEq, Repr

namespace Diagnostic

/-- The place, the severity in its colour, and the message on a line of its own. -/
def text (d : Diagnostic) : String :=
  s!"{d.file}:({d.line}, {d.column}) " ++
    s!"\x1b[{d.severity.colour}m{d.severity.name}\x1b[0m:\n{d.message}"

/-- The diagnostic in the log, at the level of its severity. -/
def record (d : Diagnostic) : Log.Record :=
  ⟨d.severity.level, .diagnostics, d.text⟩

end Diagnostic

end HeaderBindings
