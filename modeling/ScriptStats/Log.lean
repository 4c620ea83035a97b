/-!
# Log records
-/

namespace ScriptStats

inductive LogLevel where
  | debug
  | info
  | warning
  deriving DecidableEq, Repr

namespace LogLevel

def name : LogLevel → String
  | debug => "DEBUG"
  | info => "INFO"
  | warning => "WARNING"

end LogLevel

/-- The parts of the program that write log records. -/
inductive LogSource where
  | analyzer
  | aggregator
  | session
  deriving DecidableEq, Repr

def LogSource.name : LogSource → String
  | .analyzer => "nanistats.analyzer"
  | .aggregator => "nanistats.aggregator"
  | .session => "nanistats.session"

structure LogRecord where
  source : LogSource
  level : LogLevel
  message : String
  deriving DecidableEq, Repr

namespace LogRecord

/-- As it stands on the console. -/
def consoleLine (r : LogRecord) : String :=
  "[" ++ r.source.name ++ "] " ++ r.level.name ++ " " ++ r.message

/-- As it stands in a log file, behind the time. -/
def fileLine (time : String) (r : LogRecord) : String :=
  time ++ " " ++ r.level.name ++ " " ++ r.source.name ++ ": " ++ r.message

/-- Debugging records are for those who ask for them. -/
def isShown (verbose : Bool) (r : LogRecord) : Bool :=
  verbose || r.level ≠ .debug

end LogRecord

end ScriptStats
