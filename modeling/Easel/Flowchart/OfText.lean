import Easel.Flowchart.Line

/-! Reading flowcharts: a header with the direction, then lines that each add their share. -/
namespace Easel

/-- What follows a word, which is given in lower-case letters and read in either case. -/
def Text.afterWord? (word : String) (t : Text) : Option Text :=
  if ofString word = (t.take word.length).map lower then some (t.drop word.length) else none
where
  lower : CodePoint → CodePoint
    | .scalar c => .scalar c.toLower
    | c => c

/-- The directions, and whether they are horizontal. -/
def directions : List (String × Bool) :=
  [("td", false), ("tb", false), ("lr", true), ("rl", true), ("bt", false)]

/-- Whether the direction in a header is horizontal; none if the line is no header. -/
def header? (line : Text) : Option Bool :=
  ["graph", "flowchart"].findSome? fun keyword =>
    (line.afterWord? keyword).bind fun rest =>
      if (rest.head?.map fun c => c.satisfies isBlank) = some true then
        directions.findSome? fun d =>
          (rest.skipBlanks.afterWord? d.1).bind fun after =>
            if (after.head?.map CodePoint.isWord) = some true then none else some d.2
      else none

/-- Adds a node, unless there is one of its name. -/
def declare (nodes : List Node) (n : Node) : List Node :=
  if nodes.any fun m => m.id = n.id then nodes else nodes ++ [n]

/-- The chart to which each of the lines adds its share. -/
def Flowchart.ofLines (horizontal : Bool) (lines : List Text) : Flowchart where
  nodes := (lines.flatMap fun l => (contribution l).nodes).foldl declare []
  edges := lines.flatMap fun l => (contribution l).edges
  horizontal := horizontal

/-- Reads a chart. Without a header it is vertical; what cannot be read is passed over. -/
def Flowchart.ofText (t : Text) : Flowchart :=
  match (t.lines.map Text.trim).filter (!·.isEmpty) with
  | [] => {}
  | first :: rest =>
    match header? first with
    | some horizontal => ofLines horizontal rest
    | none => ofLines false (first :: rest)

end Easel
