import Easel.Converter.Npx
import Easel.Settings.Help
import Easel.Settings.Options

/-! Starting the program: the environment first, then the command line, which wins. -/
namespace Easel

/-- What is served. -/
structure Service where
  host : Given String
  port : Given Int
  level : String
  corsOrigins : List String
  converter : Option Npx

/-- The kind of converter that is asked for. -/
def Overrides.kind (o : Overrides) (s : Settings) : Given String :=
  o.converter.getD (.value s.converter)

/-- The time that a conversion has. -/
def Overrides.limit (o : Overrides) (s : Settings) : TimeLimit :=
  match o.timeout.getD (.value s.timeout) with
  | .value x => .real x
  | .nothing => .missing

/-- Demands one of the choices. -/
def Given.demand (g : Given String) (choices : List String) (fault : Given String → UsageError) :
    Except UsageError String :=
  match g with
  | value a => if choices.contains a then .ok a else .error (fault g)
  | nothing => .error (fault g)

/-- The service of settings and what the command line changes in them. Unknown log levels and
converters in the environment are refused unless they are overridden. -/
def Service.ofSettings (s : Settings) (o : Overrides) (available : Bool) :
    Except UsageError Service := do
  let level ← (o.logLevel.getD (.value (upperCase s.logLevel))).demand logLevels .badLogLevel
  let kind ← (o.kind s).demand converterKinds .badConverter
  match chooseConverter kind (o.limit s) available with
  | .error kind => .error (.badConverter (.value kind))
  | .ok converter =>
    .ok { host := o.host.getD (.value s.host)
          port := o.port.getD (.value s.port)
          level := level
          corsOrigins := s.corsOrigins
          converter := converter }

/-- Where the service is to be found, if it has a port. -/
def Service.addressLine? (s : Service) : Option LogLine :=
  match s.port with
  | .nothing => none
  | .value port =>
    let address := s.host.render id ++ ":" ++ toString port
    some ⟨.info, s!"REST API: http://{address}/api, WebSocket: ws://{address}/ws"⟩

/-- How a start ends. -/
inductive Launch where
  | serves (s : Service) (lines : List LogLine)
  | prints (text : String)
  | refuses (e : UsageError)
  | misconfigured (e : SettingsError)
  /-- There is no help, as a setting spoils its text. -/
  | unexplained (e : Template.Fault)
  /-- No address can be told without a port. -/
  | unaddressed (e : Template.Fault)

/-- Starts with an environment and a command line; `available` tells whether the external
converter is there. -/
def launch (e : Environment) (args : List String) (available : Bool) : Launch :=
  match Settings.ofEnvironment e with
  | .error e => .misconfigured e
  | .ok s =>
    match Command.ofArguments args with
    | .error e => .refuses e
    | .ok .help =>
      match Help.text s with
      | .error e => .unexplained e
      | .ok text => .prints text
    | .ok .version => .prints Help.version
    | .ok (.serve o) =>
      match Service.ofSettings s o available with
      | .error e => .refuses e
      | .ok service =>
        match service.addressLine? with
        | none => .unaddressed (.notReal 'd' "list")
        | some line => .serves service (choiceLines ((o.kind s).render id) available ++ [line])

end Easel
