import Easel.Converter.Basic
import Easel.Flowchart.Shapes
import Easel.LogLine

/-! Diagrams from text: by a converter if there is one and it works, else as flowcharts. -/
namespace Easel

/-- What is worth a line in the log while a diagram is compiled. -/
inductive DiagramNotice where
  | converterFailed (e : ConverterFailure)
  | notList (v : Json)
  | droppedElement

/-- The kind of a JSON value, in the words of the log. -/
def Json.kindName : Json → String
  | null => "NoneType"
  | bool _ => "bool"
  | int _ => "int"
  | float _ => "float"
  | string _ => "str"
  | array _ => "list"
  | object _ => "dict"

def DiagramNotice.line : DiagramNotice → LogLine
  | converterFailed e =>
    ⟨.warning, "External Mermaid converter failed, using local parser: " ++
      String.ofList (e.message.filterMap CodePoint.char?)⟩
  | notList v =>
    ⟨.warning, "External Mermaid converter returned " ++ v.kindName ++ ", using local parser"⟩
  | droppedElement => ⟨.warning, "Dropping non-object element from converter output"⟩

/-- Gives an id to an object that has none or a falsy one. -/
def ensureId (fields : Fields) (ids : IdSupply) : Fields × IdSupply :=
  if (Fields.get? fields "id").any Json.isTruthy then (fields, ids)
  else (Fields.put fields (Text.ofString "id") (.string ids.next), ids.advance)

/-- The objects among the items of a list, each with an id. -/
def ensureIds : List Json → IdSupply → List Json × IdSupply
  | [], ids => ([], ids)
  | .object fields :: rest, ids =>
    let (fields, ids) := ensureId fields ids
    let (rest, ids) := ensureIds rest ids
    (.object fields :: rest, ids)
  | _ :: rest, ids => ensureIds rest ids

def isObject : Json → Bool
  | .object _ => true
  | _ => false

namespace Diagram

/-- What a converter makes of a text, if there is a converter. -/
def attempt (converter : Option Converter) (definition : Text) :
    Option (Except ConverterFailure Json) :=
  converter.map fun c => c definition

/-- The list that a converter gives for a text. -/
def converted? (converter : Option Converter) (definition : Text) : Option (List Json) :=
  match attempt converter definition with
  | some (.ok (.array items)) => some items
  | _ => none

/-- The elements of a diagram. -/
def compile (converter : Option Converter) (definition : Text) (ids : IdSupply) (stamps : Stamps) :
    Except ChartError (List Json × IdSupply) :=
  match converted? converter definition with
  | some items => .ok (ensureIds items ids)
  | none => (Flowchart.compile definition ids).map fun r => (stamps.write r.1, r.2)

def notices (converter : Option Converter) (definition : Text) : List DiagramNotice :=
  match attempt converter definition with
  | none => []
  | some (.error e) => [.converterFailed e]
  | some (.ok (.array items)) =>
    (items.filter fun v => !isObject v).map fun _ => .droppedElement
  | some (.ok v) => [.notList v]

end Diagram

end Easel
