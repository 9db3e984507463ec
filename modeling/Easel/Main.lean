import Easel.Gateway.Basic
import Easel.Settings.Launch

/-! The program on a terminal, which is its only client: each line of input is a message, and each
message to the client is a line of output. -/
namespace Easel.Terminal

def environment : IO Environment := do
  return { host := ← IO.getEnv "INGEST_HOST"
           port := ← IO.getEnv "INGEST_PORT"
           converter := ← IO.getEnv "MERMAID_CONVERTER"
           timeout := ← IO.getEnv "MERMAID_TIMEOUT"
           corsOrigins := ← IO.getEnv "CORS_ORIGINS"
           logLevel := ← IO.getEnv "LOG_LEVEL" }

/-- Whether a program is on the search path. -/
def isThere (program : String) : IO Bool := do
  let directories := ((← IO.getEnv "PATH").getD "").splitOn ":"
  directories.anyM fun d => do
    try
      let _ ← IO.FS.Handle.mk (d ++ "/" ++ program) .read
      return true
    catch _ => return false

def show' (sent : List (List Text)) : IO Unit :=
  for t in sent.flatten do
    IO.println (String.ofList (t.filterMap CodePoint.char?))

/-- Passes lines on until the input ends. -/
partial def talk (g : Gateway) : IO Unit := do
  let (g, sent) := g.settle
  show' sent
  let line ← (← IO.getStdin).getLine
  unless line.isEmpty do
    talk (g.receive 0 (.text (Text.ofString line)))

/-- No process can be started from here, so that a chosen converter always fails. -/
def gateway (s : Service) : Gateway where
  converter := s.converter.map fun c => c.converter (.notStarted "no processes on a terminal")
  cors := ⟨s.corsOrigins⟩

end Easel.Terminal

def main (args : List String) : IO UInt32 := do
  match Easel.launch (← Easel.Terminal.environment) args (← Easel.Terminal.isThere "npx") with
  | .misconfigured e =>
    IO.eprintln e.message
    return 1
  | .unexplained e | .unaddressed e =>
    IO.eprintln e.message
    return 1
  | .refuses e =>
    IO.eprint (Easel.Help.usage ++ "xander-draw: error: " ++ e.message ++ "\n")
    return 2
  | .prints t =>
    IO.print t
    return 0
  | .serves s lines =>
    for l in lines do
      IO.eprintln l.render
    Easel.Terminal.talk ((Easel.Terminal.gateway s).connect "terminal")
    return 0
