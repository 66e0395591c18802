/-!
# Log lines

What the program tells its operator, line by line.
-/

namespace FlowTraffic

/-- How much a line matters. -/
inductive LogLevel
  | info
  | warn
  | error
  deriving DecidableEq, Repr

def LogLevel.name : LogLevel → String
  | info => "INFO"
  | warn => "WARN"
  | error => "ERROR"

structure LogLine where
  level : LogLevel
  text : String
  deriving DecidableEq, Repr

namespace LogLine

def info (text : String) : LogLine := ⟨.info, text⟩

def warn (text : String) : LogLine := ⟨.warn, text⟩

def error (text : String) : LogLine := ⟨.error, text⟩

def line (l : LogLine) : String := l.level.name ++ " " ++ l.text

end LogLine

end FlowTraffic
