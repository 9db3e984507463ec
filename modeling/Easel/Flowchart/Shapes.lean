import Easel.Element.Batch
import Easel.Flowchart.Layout
import Easel.Flowchart.OfText

/-! Drawing flowcharts: a filled shape for each node, then an arrow for each edge. -/
namespace Easel

/-- Why a chart cannot be drawn. -/
inductive ChartError where
  | unknownOutline (name : Text)
  | unknownNode (id : Text)
  deriving DecidableEq

def ChartError.message : ChartError → Text
  | unknownOutline name => name
  | unknownNode id => id

namespace Flowchart

def nodeFill : Text := .ofString "#a5d8ff"

/-- The shape of a node at its place. -/
def nodeShape (n : Node) (p : Place) : Except ChartError Shape :=
  match n.outline with
  | .unknown name => .error (.unknownOutline name)
  | .known kind =>
    .ok (.container kind
      { id := some n.id, x := .ofNat p.x, y := .ofNat p.y, width := .ofNat nodeWidth,
        height := .ofNat nodeHeight, backgroundColor := nodeFill, fillStyle := .solid }
      { label := some n.label })

/-- The places where edges leave and enter a node: the middles of the sides across the levels. -/
def exitOf (horizontal : Bool) (p : Place) : Place :=
  if horizontal then ⟨p.x + nodeWidth, p.y + nodeHeight / 2⟩
  else ⟨p.x + nodeWidth / 2, p.y + nodeHeight⟩

@[inherit_doc exitOf]
def entryOf (horizontal : Bool) (p : Place) : Place :=
  if horizontal then ⟨p.x, p.y + nodeHeight / 2⟩ else ⟨p.x + nodeWidth / 2, p.y⟩

def span (start finish : Nat) : Float := .ofInt (Int.ofNat finish - Int.ofNat start)

/-- The arrow of an edge between two places. A loop has no length. -/
def edgeShape (horizontal : Bool) (e : Edge) (from' to' : Place) : Shape :=
  let start := exitOf horizontal from'
  let finish := if e.source = e.target then start else entryOf horizontal to'
  .arrow
    { x := .ofNat start.x, y := .ofNat start.y, width := span start.x finish.x,
      height := span start.y finish.y }
    { label := e.label } { startBinding := some e.source, endBinding := some e.target }

/-- The shapes of a chart. All nodes are looked at before the first edge. -/
def toShapes (c : Flowchart) : Except ChartError (List Shape) := do
  let places := c.places
  let find (id : Text) : Except ChartError Place :=
    match placeIn? places id with
    | some p => .ok p
    | none => .error (.unknownNode id)
  let boxes ← c.nodes.mapM fun n => do nodeShape n (← find n.id)
  let arrows ← c.edges.mapM fun e => do
    let source ← find e.source
    let target ← find e.target
    return edgeShape c.horizontal e source target
  .ok (boxes ++ arrows)

/-- The elements of the chart that a text describes. -/
def compile (definition : Text) (ids : IdSupply) : Except ChartError (List Element × IdSupply) :=
  (ofText definition).toShapes.map (compileShapes · ids)

end Flowchart

end Easel
