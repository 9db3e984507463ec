import Easel.Flowchart.Basic
import Easel.Graph.Levels

/-! Placing the nodes of a flowchart: one row for each level, or one column if it is horizontal. -/
namespace Easel

structure Place where
  x : Nat
  y : Nat
  deriving DecidableEq

namespace Flowchart

def nodeWidth : Nat := 180

def nodeHeight : Nat := 80

/-- The distance from one place to the next one to the right. -/
def spacingX : Nat := 250

/-- The distance from one place to the next one below. -/
def spacingY : Nat := 150

/-- Where the first place is, on both axes. -/
def origin : Nat := 100

/-- The place of a slot of a level. -/
def placeOf (horizontal : Bool) (level slot : Nat) : Place :=
  if horizontal then ⟨origin + level * spacingX, origin + slot * spacingY⟩
  else ⟨origin + slot * spacingX, origin + level * spacingY⟩

/-- How many earlier items each item of a list equals. -/
def slots : (earlier : List Nat) → List Nat → List Nat
  | _, [] => []
  | earlier, level :: rest => earlier.count level :: slots (level :: earlier) rest

/-- The levels of the nodes, in their order. -/
def rows (c : Flowchart) : List Nat :=
  let ids := c.nodes.map (·.id)
  let known := levels ids (c.edges.map Edge.ends)
  ids.map fun id => (known.lookup id).getD 0

/-- The places of the nodes, in their order. -/
def places (c : Flowchart) : List (Text × Place) :=
  let rows := c.rows
  (c.nodes.map (·.id)).zip ((rows.zip (slots [] rows)).map fun r => placeOf c.horizontal r.1 r.2)

/-- The place of a node. Where a name is listed twice the later place counts. -/
def placeIn? (places : List (Text × Place)) (id : Text) : Option Place := places.reverse.lookup id

end Flowchart

end Easel
