import Easel.Settings.Options
import Easel.Text.Template
import Easel.Text.Wrap

/-! The texts that explain the command line, for a screen of 80 columns. -/
namespace Easel.Help

def usage : String :=
  "usage: xander-draw [-h] [--host HOST] [--port PORT]\n" ++
  "                   [--mermaid-converter \x7bauto,npx,none\x7d]\n" ++
  "                   [--mermaid-timeout MERMAID_TIMEOUT]\n" ++
  "                   [--log-level \x7bDEBUG,INFO,WARNING,ERROR\x7d] [--version]\n"

def spaces (n : Nat) : String := String.ofList (List.replicate n ' ')

/-- An option and what it does, which stands from the 25th column on. A long option has its first
line for itself. -/
def row (option explanation : String) : String :=
  let lines := wrap 54 explanation
  let indented := lines.map fun l => spaces 24 ++ l ++ "\n"
  if option.length ≤ 20 then
    match lines with
    | [] => "  " ++ option ++ "\n"
    | first :: _ =>
      "  " ++ option ++ spaces (22 - option.length) ++ first ++ "\n" ++ String.join indented.tail
  else "  " ++ option ++ "\n" ++ String.join indented

/-- Runs of ASCII blanks become one space each. -/
def collapse (s : String) : String :=
  let rec go : (afterBlank : Bool) → List Char → List Char
    | _, [] => []
    | afterBlank, c :: rest =>
      if c.toNat ≤ 0x7f && isWhiteSpace c then
        if afterBlank then go true rest else ' ' :: go true rest
      else c :: go false rest
  String.ofList (go false s.toList)

def defaultNote (s : String) : String := "(default: " ++ s ++ ")"

/-- What explanations may refer to. -/
def facts (o : CliOption) (key type default explanation : String) (choices : Template.Value) :
    Template.Table :=
  [("option_strings", .list o.names), ("dest", .text key), ("nargs", .nothing),
   ("const", .nothing), ("default", .text default), ("type", .text type), ("choices", choices),
   ("required", .flag false), ("help", .text explanation), ("metavar", .nothing),
   ("prog", .text "xander-draw")]

/-- The explanation of the host. A setting in it may be a template itself. -/
def hostNote (s : Settings) : Except Template.Fault String :=
  let explanation := "Host to bind " ++ defaultNote s.host
  (Template.fill (facts .host "host" "str" s.host explanation .nothing) explanation).map collapse

@[inherit_doc hostNote]
def levelNote (s : Settings) : Except Template.Fault String :=
  let explanation := "Log level " ++ defaultNote s.logLevel
  let choices := .text (commaList logLevels)
  (Template.fill (facts .logLevel "log_level" "upper" s.logLevel explanation choices)
    explanation).map collapse

/-- The rows of all options, with the settings that hold where an option is not given. -/
def rows (s : Settings) (hostNote levelNote : String) : String :=
  row "-h, --help" "show this help message and exit" ++
  row "--host HOST" hostNote ++
  row "--port PORT" ("Port to listen on " ++ defaultNote (toString s.port)) ++
  row "--mermaid-converter \x7bauto,npx,none\x7d" "External Mermaid converter (default: auto)" ++
  row "--mermaid-timeout MERMAID_TIMEOUT"
    ("Seconds before the external converter is abandoned " ++
      defaultNote (renderDuration s.timeout)) ++
  row "--log-level \x7bDEBUG,INFO,WARNING,ERROR\x7d" levelNote ++
  row "--version" "show program's version number and exit"

/-- All of it, unless a setting is a template that cannot be filled. -/
def text (s : Settings) : Except Template.Fault String := do
  let hostNote ← hostNote s
  let levelNote ← levelNote s
  return usage ++ "\nLive diagram ingest server for a shared Excalidraw canvas\n\noptions:\n" ++
  rows s hostNote levelNote ++
  "\nExamples:\n  # Run on the default port (INGEST_PORT or 3200)\n  xander-draw\n\n" ++
  "  # Run on a custom port without the external Mermaid converter\n" ++
  "  xander-draw --port 4000 --mermaid-converter none\n\n" ++
  "Note: the npx converter requires Node.js with @excalidraw/mermaid-to-excalidraw\n" ++
  "installed. Without it, Mermaid input is handled by the built-in flowchart parser.\n"

def version : String := "xander-draw 0.1.0\n"

end Easel.Help
