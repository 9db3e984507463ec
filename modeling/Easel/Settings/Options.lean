import Easel.Settings.Basic

/-! Options on the command line. Names may be shortened as long as they stay clear, and values
follow their option or an equals sign. -/
namespace Easel

inductive CliOption where
  | help
  | host
  | port
  | converter
  | timeout
  | logLevel
  | version
  deriving DecidableEq

namespace CliOption

def names : CliOption → List String
  | help => ["-h", "--help"]
  | host => ["--host"]
  | port => ["--port"]
  | converter => ["--mermaid-converter"]
  | timeout => ["--mermaid-timeout"]
  | logLevel => ["--log-level"]
  | version => ["--version"]

def all : List CliOption := [help, host, port, converter, timeout, logLevel, version]

/-- All names, each with its option. -/
def spellings : List (String × CliOption) := all.flatMap fun o => o.names.map fun n => (n, o)

def ofName? (name : String) : Option CliOption := spellings.lookup name

def takesValue : CliOption → Bool
  | help | version => false
  | _ => true

/-- All names of an option, as messages show them. -/
def title (o : CliOption) : String := String.intercalate "/" o.names

end CliOption

/-- What an option is given: a value, or nothing where two hyphens and no more are attached. -/
inductive Given (α : Type) where
  | value (a : α)
  | nothing

/-- Nothing is shown as an empty list. -/
def Given.render {α : Type} (g : Given α) (text : α → String) : String :=
  match g with
  | value a => text a
  | nothing => "[]"

def logLevels : List String := ["DEBUG", "INFO", "WARNING", "ERROR"]

def converterKinds : List String := ["auto", "npx", "none"]

/-- Why a command line cannot be followed. -/
inductive UsageError where
  | ambiguous (given : String) (matching : List String)
  | missingValue (o : CliOption)
  | surplusValue (o : CliOption) (given : String)
  | badInteger (o : CliOption) (given : String)
  | badNumber (o : CliOption) (given : String)
  | badChoice (o : CliOption) (given : String) (choices : List String)
  | unrecognized (args : List String)
  | badLogLevel (given : Given String)
  | badConverter (given : Given String)

def commaList (items : List String) : String := String.intercalate ", " items

def UsageError.message : UsageError → String
  | ambiguous given matching =>
    "ambiguous option: " ++ given ++ " could match " ++ commaList matching
  | missingValue o => "argument " ++ o.title ++ ": expected one argument"
  | surplusValue o given =>
    "argument " ++ o.title ++ ": ignored explicit argument " ++ quoted given
  | badInteger o given => "argument " ++ o.title ++ ": invalid int value: " ++ quoted given
  | badNumber o given => "argument " ++ o.title ++ ": invalid float value: " ++ quoted given
  | badChoice o given choices =>
    "argument " ++ o.title ++ ": invalid choice: " ++ quoted given ++
      " (choose from " ++ commaList (choices.map quoted) ++ ")"
  | unrecognized args => "unrecognized arguments: " ++ String.intercalate " " args
  | badLogLevel given =>
    "invalid LOG_LEVEL " ++ given.render quoted ++ " (choose from " ++ commaList logLevels ++ ")"
  | badConverter given =>
    "invalid MERMAID_CONVERTER " ++ given.render quoted ++ " (choose from " ++
      commaList converterKinds ++ ")"

/-- What a word of the command line is, before values are looked for. -/
inductive Word where
  | plain
  | unknown
  /-- An option in one of its spellings, and what is attached to it. -/
  | option (o : CliOption) (isShort : Bool) (attached : Option String)

/-- Splits at the first equals sign. -/
def splitEquals (s : String) : String × Option String :=
  let cs := s.toList
  let before := cs.takeWhile (· != '=')
  match cs.drop before.length with
  | [] => (s, none)
  | _ :: after => (String.ofList before, some (String.ofList after))

/-- Whether a word is a negative number in plain notation. -/
def isNegativeNumber (s : String) : Bool :=
  match s.toList with
  | '-' :: rest =>
    let whole := rest.takeWhile isDigit
    match rest.drop whole.length with
    | [] => !whole.isEmpty
    | ['\n'] => !whole.isEmpty
    | '.' :: fraction =>
      let digits := fraction.takeWhile isDigit
      !digits.isEmpty && ["", "\n"].contains (String.ofList (fraction.drop digits.length))
    | _ => false
  | _ => false
where
  isDigit (c : Char) : Bool := (digitValue? c).isSome

/-- The options whose long names begin with what was given, or whose short name does. -/
def candidates (s : String) : List (String × Word) :=
  match s.toList with
  | '-' :: '-' :: _ =>
    let (start, attached) := splitEquals s
    (CliOption.spellings.filter fun n => start.toList.isPrefixOf n.1.toList).map fun n =>
      (n.1, .option n.2 false attached)
  | '-' :: c :: rest =>
    (CliOption.spellings.filter fun n => n.1.toList = ['-', c]).map fun n =>
      (n.1, .option n.2 true (some (String.ofList rest)))
  | _ => []

/-- Whether a name has a single hyphen. -/
def isShortName (name : String) : Bool := name.length = 2

/-- Classifies a word that stands before any `--`. -/
def Word.ofString (s : String) : Except UsageError Word :=
  if !s.startsWith "-" then .ok .plain
  else match CliOption.ofName? s with
    | some o => .ok (.option o (isShortName s) none)
    | none =>
      if s.length = 1 then .ok .plain
      else match splitEquals s with
        | (name, some attached) =>
          match CliOption.ofName? name with
          | some o => .ok (.option o (isShortName name) (some attached))
          | none => shortened s
        | (_, none) => shortened s
where
  shortened (s : String) : Except UsageError Word :=
    match candidates s with
    | [] => .ok (if isNegativeNumber s || s.toList.contains ' ' then .plain else .unknown)
    | [c] => .ok c.2
    | cs => .error (.ambiguous s (cs.map (·.1)))

/-- Classifies all words; after `--` they are all plain, and `--` itself is no value. -/
def classify : List String → Except UsageError (List (String × Word))
  | [] => .ok []
  | s :: rest =>
    if s = "--" then .ok ((s, .unknown) :: rest.map fun t => (t, .plain))
    else do
      let w ← Word.ofString s
      .ok ((s, w) :: (← classify rest))

/-- What the command line says; later words win. -/
structure Overrides where
  host : Option (Given String) := none
  port : Option (Given Int) := none
  converter : Option (Given String) := none
  timeout : Option (Given Float) := none
  logLevel : Option (Given String) := none

/-- Reads what an option is given, unless that is nothing. -/
def readGiven {α : Type} (given : String) (read : String → Except UsageError α) :
    Except UsageError (Option (Given α)) :=
  if given = "--" then .ok (some .nothing) else (read given).map fun a => some (.value a)

/-- Accepts a value that is among the choices. -/
def readChoice (o : CliOption) (choices : List String) (given : String) :
    Except UsageError String :=
  if choices.contains given then .ok given else .error (.badChoice o given choices)

/-- Takes the value of an option. -/
def Overrides.take (v : Overrides) (o : CliOption) (given : String) : Except UsageError Overrides :=
  match o with
  | .host => do return { v with host := ← readGiven given .ok }
  | .port => do
    return { v with port := ← readGiven given fun s =>
      (readInteger s).mapError fun _ => .badInteger o s }
  | .timeout => do
    return { v with timeout := ← readGiven given fun s =>
      (readNumber? s).elim (.error (.badNumber o s)) .ok }
  | .converter => do return { v with converter := ← readGiven given (readChoice o converterKinds) }
  | .logLevel => do
    return { v with logLevel := ← readGiven given fun s => readChoice o logLevels (upperCase s) }
  | .help | .version => .ok v

/-- What a command line asks for. -/
inductive Command where
  | help
  | version
  | serve (o : Overrides)

/-- What is wrong with characters attached to a short option without a value: each of them has to
be such an option again. -/
def clusterFault (o : CliOption) : List Char → Option UsageError
  | [] => none
  | c :: rest =>
    match CliOption.ofName? (String.ofList ['-', c]) with
    | some next => clusterFault next rest
    | none => some (.surplusValue o (String.ofList (c :: rest)))

/-- What is wrong with what is attached to an option without a value. -/
def attachedFault (o : CliOption) (isShort : Bool) : Option String → Option UsageError
  | none => none
  | some given =>
    if isShort && given ≠ "" then clusterFault o given.toList else some (.surplusValue o given)

/-- Follows the words one by one. What is neither an option nor a value is refused at the end;
help and version come at once. -/
def follow (v : Overrides) (extras : List String) : List (String × Word) → Except UsageError Command
  | [] => if extras.isEmpty then .ok (.serve v) else .error (.unrecognized extras)
  | (s, .plain) :: rest => follow v (extras ++ [s]) rest
  | (s, .unknown) :: rest => follow v (extras ++ [s]) rest
  | (_, .option o isShort attached) :: rest =>
    if o.takesValue then
      match attached, rest with
      | some given, rest => do follow (← v.take o given) extras rest
      | none, (given, .plain) :: rest => do follow (← v.take o given) extras rest
      | none, _ => .error (.missingValue o)
    else match attachedFault o isShort attached with
      | some e => .error e
      | none => .ok (if o = .help then .help else .version)

/-- Reads a command line. -/
def Command.ofArguments (args : List String) : Except UsageError Command := do
  follow {} [] (← classify args)

end Easel
