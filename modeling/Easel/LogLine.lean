/-! Lines for the log. -/
namespace Easel

inductive Severity where
  | info
  | warning

structure LogLine where
  severity : Severity
  text : String

def Severity.name : Severity → String
  | info => "INFO"
  | warning => "WARNING"

def LogLine.render (l : LogLine) : String := l.severity.name ++ " " ++ l.text

end Easel
