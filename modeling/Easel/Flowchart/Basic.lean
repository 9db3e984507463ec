import Easel.Shape.Basic

/-! Flowcharts: named nodes and the edges between them. -/
namespace Easel

/-- How a node is drawn. A chart may ask for outlines for which there is no shape. -/
inductive Outline where
  | known (kind : ContainerKind)
  | unknown (name : Text)
  deriving DecidableEq

structure Node where
  id : Text
  label : Text
  outline : Outline := .known .rectangle
  deriving DecidableEq

structure Edge where
  source : Text
  target : Text
  label : Option Text := none
  deriving DecidableEq

structure Flowchart where
  nodes : List Node := []
  edges : List Edge := []
  /-- Whether levels run from left to right, and not downwards. -/
  horizontal : Bool := false

def Outline.name : Outline → Text
  | known kind => .ofString kind.name
  | unknown name => name

def Outline.ofName (name : Text) : Outline :=
  match ShapeKind.ofName? name with
  | some (.container kind) => known kind
  | _ => unknown name

/-- An edge without its label. -/
def Edge.ends (e : Edge) : Text × Text := (e.source, e.target)

def Node.toJson (n : Node) : Json :=
  .record [("id", .string n.id), ("label", .string n.label), ("shape", .string n.outline.name)]

def Edge.toJson (e : Edge) : Json :=
  .record [("source", .string e.source), ("target", .string e.target),
    ("label", e.label.elim .null .string)]

def Flowchart.toJson (c : Flowchart) : Json :=
  .record [("nodes", .array (c.nodes.map Node.toJson)), ("edges", .array (c.edges.map Edge.toJson)),
    ("horizontal", .bool c.horizontal)]

end Easel
