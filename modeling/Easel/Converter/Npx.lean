import Easel.Converter.Basic
import Easel.LogLine
import Easel.Text.Blank
import Easel.Text.LetterCase
import Easel.Text.Quoted

/-! The converter that runs as a process of its own. It reads the text from one file and writes
the elements to another. -/
namespace Easel

/-- How to start the process, and how long it has. -/
structure Npx where
  timeout : TimeLimit
  program : String := "npx"
  /-- How many containers may stand inside one another in its output. -/
  room : Nat := 980

/-- How a process fares. -/
inductive Run where
  | notStarted (reason : String)
  /-- It does not end by itself; `gone` if it has ended when it is to be killed. -/
  | hangs (gone : Bool)
  | ends (code : Int) (errors : List UInt8) (output : Option (List UInt8))

/-- Where a process stands for the one that has started it. One that has ended is still there until
it has been waited for. -/
inductive Process where
  | running
  | ended
  | collected
  deriving DecidableEq

/-- How the process of a run stands when its output is complete, or its time is up. -/
def Run.process? : Run → Option Process
  | notStarted _ => none
  | hangs gone => some (if gone then .ended else .running)
  | ends _ _ _ => some .collected

/-- What can be done to be rid of a process. -/
inductive Removal where
  | kill
  | wait
  deriving DecidableEq

/-- To kill a process that has ended changes nothing; to wait for one that runs does not end it. -/
def Process.after : Process → Removal → Process
  | running, .kill => ended
  | ended, .wait => collected
  | p, _ => p

/-- A process that was started, and what has been done to be rid of it. -/
structure Child where
  process : Process
  removals : List Removal := []

namespace Child

def take (c : Child) (r : Removal) : Child := ⟨c.process.after r, c.removals ++ [r]⟩

/-- What is done at last, however the conversion ends: a process that has not been waited for is
killed, and then waited for. -/
def cleanUp (c : Child) : Child :=
  if c.process = .collected then c
  else
    let killed := c.take .kill
    killed.take .wait

end Child

/-- What is left of a conversion: its result, what was started on which text, and the process if one
was started. -/
structure Conversion where
  result : Except ConverterFailure (List Json)
  command : List String
  input : Text
  child : Option Child

namespace Conversion

def process (c : Conversion) : Option Process := c.child.map (·.process)

def removals (c : Conversion) : List Removal := c.child.elim [] (·.removals)

def killed (c : Conversion) : Bool := .kill ∈ c.removals

def waited (c : Conversion) : Bool := .wait ∈ c.removals

end Conversion

/-- Line ends in files are a line feed each, however they are written. -/
def unifyLineEnds : Text → Text
  | [] => []
  | .scalar '\r' :: .scalar '\n' :: rest => .scalar '\n' :: unifyLineEnds rest
  | .scalar '\r' :: rest => .scalar '\n' :: unifyLineEnds rest
  | c :: rest => c :: unifyLineEnds rest

/-- The elements in the output file. -/
def readOutput (room : Nat) (output : List UInt8) : Except ConverterFailure (List Json) :=
  match Utf8.decode output with
  | .error e => .error (.notUtf8 e)
  | .ok t =>
    match Json.parseMarked room (unifyLineEnds t) with
    | .error e => .error (.unreadable e)
    | .ok v =>
      match v.get? "elements" with
      | some (.array elements) => .ok elements
      | _ => .error .noElements

namespace Npx

def package : String := "@excalidraw/mermaid-to-excalidraw"

/-- The process is told not to install the package, and gets two files of a directory that is
made for it. -/
def command (c : Npx) (directory : String) : List String :=
  [c.program, "--no-install", package, directory ++ "/diagram.mmd", "-o",
   directory ++ "/diagram.excalidraw"]

/-- The elements that a run leaves. -/
def elementsOf (c : Npx) : Run → Except ConverterFailure (List Json)
  | .notStarted reason => .error (.notStarted c.program reason)
  | .hangs _ => .error (.timedOut c.timeout)
  | .ends code errors output =>
    if code ≠ 0 then .error (.exited code (Utf8.decodeLossy errors).trim)
    else match output with
      | none | some [] => .error .noOutput
      | some bytes => readOutput c.room bytes

/-- Converts a text by a process that fares as `run` says. -/
def convert (c : Npx) (directory : String) (definition : Text) (run : Run) : Conversion :=
  let encodable := definition.toString?.isSome
  { result := if encodable then c.elementsOf run else .error .unencodable
    command := c.command directory
    input := definition.trim
    child := (if encodable then run.process? else none).map fun p =>
      Child.cleanUp { process := p } }

/-- What is left of the process if the conversion is cancelled while it waits; `gone` if the process
has ended by then. A cancelled conversion has no result. -/
def cancelled (gone : Bool) : Child :=
  Child.cleanUp { process := if gone then .ended else .running }

/-- The converter as it works when its process always fares the same. -/
def converter (c : Npx) (run : Run) : Converter := fun definition =>
  (c.convert "" definition run).result.map .array

end Npx

/-- Chooses a converter by its kind, in letters of either case: none, the external one, or that
one if it is there. An unknown kind is shown in lower case. -/
def chooseConverter (kind : String) (timeout : TimeLimit) (available : Bool) :
    Except String (Option Npx) :=
  let kind := lowerCase kind
  if kind = "none" then .ok none
  else if kind = "npx" then .ok (some { timeout })
  else if kind = "auto" then .ok (if available then some { timeout } else none)
  else .error kind

def unknownConverterMessage (kind : String) : String :=
  "Unknown Mermaid converter: " ++ quoted kind ++ " (expected auto, npx or none)"

/-- A converter that is wanted and not there is worth a line in the log. -/
def choiceLines (kind : String) (available : Bool) : List LogLine :=
  if lowerCase kind = "auto" ∧ !available then
    [⟨.info, "npx not found, Mermaid conversion uses the local parser only"⟩]
  else []

end Easel
