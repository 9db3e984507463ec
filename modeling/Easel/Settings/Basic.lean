import Easel.Settings.Numbers
import Easel.Text.LetterCase

/-! Settings, as the environment gives them. -/
namespace Easel

/-- The variables that are looked at; each may be missing. -/
structure Environment where
  host : Option String := none
  port : Option String := none
  converter : Option String := none
  timeout : Option String := none
  corsOrigins : Option String := none
  logLevel : Option String := none

structure Settings where
  host : String
  port : Int
  /-- The kind of converter, in lower case. It need not be a known one. -/
  converter : String
  timeout : Float
  corsOrigins : List String
  /-- In upper case; it need not be a known one. -/
  logLevel : String

inductive SettingsError where
  | port (e : IntegerFault)
  | timeout (given : String)

def SettingsError.message : SettingsError → String
  | port e => e.message
  | timeout given => unreadableNumberMessage given

/-- The trimmed items of a list with commas; empty ones do not count. -/
def commaItems (s : String) : List String :=
  let items := s.splitOn ","
  (items.map fun item => String.ofList (trimBy isBlank item.toList)).filter (· ≠ "")

/-- The settings of an environment. The port is read before the time limit. -/
def Settings.ofEnvironment (e : Environment) : Except SettingsError Settings :=
  match readInteger (e.port.getD "3200") with
  | .error fault => .error (.port fault)
  | .ok port =>
    match readNumber? (e.timeout.getD "60") with
    | none => .error (.timeout (e.timeout.getD "60"))
    | some timeout =>
      .ok { host := e.host.getD "0.0.0.0"
            port := port
            converter := lowerCase (e.converter.getD "auto")
            timeout := timeout
            corsOrigins := commaItems (e.corsOrigins.getD "*")
            logLevel := upperCase (e.logLevel.getD "INFO") }

end Easel
