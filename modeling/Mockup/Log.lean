/-!
# Log records
-/

namespace Mockup

inductive Severity where
  | error
  | warn
  | info
  | debug
deriving DecidableEq, Repr

def Severity.name : Severity → String
  | error => "ERROR"
  | warn => "WARN"
  | info => "INFO"
  | debug => "DEBUG"

structure LogRecord where
  severity : Severity
  message : String
deriving DecidableEq, Repr

def LogRecord.text (r : LogRecord) : String :=
  r.severity.name ++ " " ++ r.message

end Mockup
