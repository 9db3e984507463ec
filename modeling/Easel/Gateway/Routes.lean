import Easel.Gateway.Http
import Easel.Text.Blank

/-! The paths that the gateway answers. -/
namespace Easel

inductive Endpoint where
  | health
  | draw
  | drawMermaid
  | auto
  | clear
  | replaceScene
  | exportScene
  deriving DecidableEq

structure Route where
  path : String
  method : String
  endpoint : Endpoint

def routes : List Route :=
  [⟨"/api/health", "GET", .health⟩, ⟨"/api/draw", "POST", .draw⟩,
   ⟨"/api/draw/mermaid", "POST", .drawMermaid⟩, ⟨"/api/auto", "POST", .auto⟩,
   ⟨"/api/clear", "POST", .clear⟩, ⟨"/api/scene", "POST", .replaceScene⟩,
   ⟨"/api/scene", "GET", .exportScene⟩]

/-- A line feed at the end of a path does no harm. -/
def Route.hasPath (route : Route) (path : String) : Bool :=
  path = route.path || path = route.path ++ "\n"

/-- What can be read can also be asked for its head. -/
def Route.hasMethod (route : Route) (method : String) : Bool :=
  method = route.method || (route.method = "GET" && method = "HEAD")

inductive Destination where
  | endpoint (e : Endpoint)
  /-- There is an endpoint without the slashes at the end of the path. -/
  | elsewhere
  | wrongMethod
  | unknown

def withoutSlashes (path : String) : String :=
  String.ofList (trimRightBy (· == '/') path.toList)

def destination (method path : String) : Destination :=
  match routes.filter (·.hasPath path) with
  | [] =>
    if path.toList.getLast? = some '/' ∧ routes.any (·.hasPath (withoutSlashes path)) then
      .elsewhere
    else .unknown
  | found =>
    match found.find? (·.hasMethod method) with
    | some route => .endpoint route.endpoint
    | none => .wrongMethod

end Easel
