namespace UptimeAlert

inductive LogLevel where
  | debug
  | info
  | warning
  | error
  | critical
  deriving DecidableEq, Repr

namespace LogLevel

/-- All levels, the least important first. -/
def all : List LogLevel := [.debug, .info, .warning, .error, .critical]

def name : LogLevel → String
  | .debug => "DEBUG"
  | .info => "INFO"
  | .warning => "WARNING"
  | .error => "ERROR"
  | .critical => "CRITICAL"

/-- The number of a level: the more important, the greater. -/
def number : LogLevel → Nat
  | .debug => 10
  | .info => 20
  | .warning => 30
  | .error => 40
  | .critical => 50

def ofName? (name : String) : Option LogLevel :=
  all.find? fun level => level.name == name

end LogLevel

structure LogEntry where
  level : LogLevel
  message : String
  deriving DecidableEq, Repr

namespace LogEntry

def above (level : LogLevel) (entries : List LogEntry) : List LogEntry :=
  entries.filter fun entry => level.number ≤ entry.level.number

end LogEntry

end UptimeAlert
