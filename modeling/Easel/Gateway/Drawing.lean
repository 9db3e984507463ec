import Easel.Diagram
import Easel.Gateway.Http
import Easel.Json.Bytes
import Easel.Scene.Basic

/-! What the bodies of requests ask for. -/
namespace Easel

/-- Why a request is not carried out. -/
inductive RequestError where
  | unreadable (e : Json.BytesError)
  | notObject
  | badElements
  | badDefinition
  | badInput
  | badAppend
  | badSceneElements
  | badAppState
  | invalidShape (e : InvalidShape)
  | chart (e : ChartError)
  /-- The clients could not be told. -/
  | untold (e : Json.Limit)

namespace RequestError

/-- Where the server meets a limit of its own, or cannot draw a chart, the fault is with it. -/
def status : RequestError → Nat
  | unreadable (.text e) => if e.isMalformed then 400 else 500
  | chart _ | untold _ => 500
  | _ => 400

def message : RequestError → Text
  | unreadable (.encoding e) => .ofString ("Invalid JSON body: " ++ e.message)
  | unreadable (.text e) =>
    .ofString ((if e.isMalformed then "Invalid JSON body: " else "") ++ e.message)
  | notObject => .ofString "Request body must be a JSON object"
  | badElements => .ofString "elements must be an array of shape descriptors"
  | badDefinition => .ofString "definition must be a Mermaid syntax string"
  | badInput => .ofString "input must be a Mermaid string or an array of shape descriptors"
  | badAppend => .ofString "append must be a boolean"
  | badSceneElements => .ofString "elements must be an array"
  | badAppState => .ofString "appState must be an object"
  | invalidShape e => .ofString e.message
  | chart e => e.message
  | untold e => .ofString e.message

end RequestError

/-- The body of a request, which has to be an object. -/
def readBody (room : Nat) (body : List UInt8) : Except RequestError Fields :=
  match Json.ofBytes room body with
  | .error e => .error (.unreadable e)
  | .ok (.object fields) => .ok fields
  | .ok _ => .error .notObject

/-- Whether new elements are added to the old ones; they are unless it is denied. -/
def appendFlag (fields : Fields) : Except RequestError Bool :=
  match Fields.get? fields "append" with
  | none => .ok true
  | some (.bool b) => .ok b
  | some _ => .error .badAppend

/-- Elements to be drawn, and the ids that are left. -/
structure Drawing where
  elements : List Json
  ids : IdSupply
  append : Bool

namespace Drawing

variable (converter : Option Converter) (ids : IdSupply) (stamps : Stamps)

def ofShapes (raws : List Json) (append : Bool) : Except RequestError Drawing :=
  match compileDescriptors raws ids with
  | .error e => .error (.invalidShape e)
  | .ok (es, ids) => .ok ⟨stamps.write es, ids, append⟩

def ofDefinition (definition : Text) (append : Bool) : Except RequestError Drawing :=
  match Diagram.compile converter definition ids stamps with
  | .error e => .error (.chart e)
  | .ok (es, ids) => .ok ⟨es, ids, append⟩

/-- What a body with a list of descriptors asks for. -/
def ofElementsBody (fields : Fields) : Except RequestError Drawing :=
  match Fields.get? fields "elements" with
  | some (.array raws) => do ofShapes ids stamps raws (← appendFlag fields)
  | _ => .error .badElements

/-- What a body with the text of a diagram asks for. -/
def ofDefinitionBody (fields : Fields) : Except RequestError Drawing :=
  match Fields.get? fields "definition" with
  | some (.string t) => do ofDefinition converter ids stamps t (← appendFlag fields)
  | _ => .error .badDefinition

/-- What a body with either of them asks for, and the name of its kind. -/
def ofInputBody (fields : Fields) : Except RequestError (Drawing × String) := do
  let append ← appendFlag fields
  match Fields.get? fields "input" with
  | some (.string t) => do .ok (← ofDefinition converter ids stamps t append, "mermaid")
  | some (.array raws) => do .ok (← ofShapes ids stamps raws append, "shapes")
  | _ => .error .badInput

end Drawing

/-- The scene in a body. Elements and view may be missing or null. -/
def Scene.ofBody (fields : Fields) : Except RequestError Scene := do
  let elements ← match Fields.get? fields "elements" with
    | none | some .null => .ok []
    | some (.array elements) => .ok elements
    | some _ => .error .badSceneElements
  match Fields.get? fields "appState" with
  | none | some .null => .ok (.ofParts elements none)
  | some (.object state) => .ok (.ofParts elements (some state))
  | some _ => .error .badAppState

end Easel
