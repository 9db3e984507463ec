import Easel.Shape.Basic

/-! Drawing elements, as canvases keep them. -/
namespace Easel

structure Frame where
  x : Float
  y : Float
  width : Float
  height : Float

structure Style where
  strokeColor : Text
  backgroundColor : Text
  fillStyle : FillStyle
  strokeWidth : Float
  strokeStyle : StrokeStyle
  roughness : Float
  opacity : Float

/-- The height at which a text stands in its box. -/
inductive VerticalAlign where
  | top
  | middle

structure TextBody where
  text : Text
  fontSize : Float
  fontFamily : Int
  align : TextAlign
  verticalAlign : VerticalAlign
  /-- The element whose label this is. -/
  containerId : Option Text

/-- What the ends of an arrow are attached to, and how they are drawn. -/
structure Ends where
  startBinding : Option Text
  endBinding : Option Text
  startArrowhead : Option Text
  endArrowhead : Option Text

inductive Body where
  | container (kind : ContainerKind)
  | text (body : TextBody)
  | arrow (points : Path) (ends : Ends)
  | line (points : Path)

/-- An element that hangs on another: its label, or an arrow that is attached to it. -/
structure Dependent where
  isArrow : Bool
  id : Text
  deriving DecidableEq

structure Element where
  id : Text
  frame : Frame
  style : Style
  groups : List Text
  dependents : List Dependent
  body : Body

namespace Element

def kind (e : Element) : ShapeKind :=
  match e.body with
  | .container k => .container k
  | .text _ => .text
  | .arrow _ _ => .arrow
  | .line _ => .line

/-- The ids to which the ends of an arrow are attached, the start first. -/
def attachments (e : Element) : List Text :=
  match e.body with
  | .arrow _ ends => ends.startBinding.toList ++ ends.endBinding.toList
  | _ => []

end Element

def VerticalAlign.name : VerticalAlign → String
  | top => "top"
  | middle => "middle"

def Dependent.toJson (d : Dependent) : Json :=
  .record [("type", .ofString (if d.isArrow then "arrow" else "text")), ("id", .string d.id)]

def TextBody.fields (t : TextBody) : List (String × Json) :=
  [("text", .string t.text), ("originalText", .string t.text), ("fontSize", .float t.fontSize),
   ("fontFamily", .int t.fontFamily), ("textAlign", .ofString t.align.name),
   ("verticalAlign", .ofString t.verticalAlign.name), ("containerId", .ofText? t.containerId),
   ("autoResize", .bool true), ("lineHeight", .float 1.25)]

/-- An end is attached in the middle of the side that it meets, five units off. -/
def attachment : Option Text → Json
  | none => .null
  | some id => .record [("elementId", .string id), ("focus", .int 0), ("gap", .int 5)]

def Ends.fields (e : Ends) : List (String × Json) :=
  [("startBinding", attachment e.startBinding), ("endBinding", attachment e.endBinding),
   ("startArrowhead", .ofText? e.startArrowhead), ("endArrowhead", .ofText? e.endArrowhead)]

def Path.fields (p : Path) : List (String × Json) :=
  [("points", p.toJson), ("lastCommittedPoint", .null)]

/-- Closed shapes have round corners; polylines are smooth from three points on. -/
def Body.roundness : Body → Json
  | container _ => .record [("type", .int 3)]
  | text _ => .null
  | arrow points _ | line points =>
    if points.more.isEmpty then .null else .record [("type", .int 2)]

def Body.fields : Body → List (String × Json)
  | container _ => []
  | text body => body.fields
  | arrow points ends => points.fields ++ ends.fields ++ [("elbowed", .bool false)]
  | line points => points.fields ++ (Ends.mk none none none none).fields

/-- A number that is drawn at random. -/
structure Seed where
  value : Nat
  pos : 0 < value
  le : value ≤ 2_000_000_000

/-- The least of these numbers. -/
def Seed.least : Seed := ⟨1, by decide, by decide⟩

/-- What is new in every element: two numbers drawn at random, and the time in milliseconds. -/
structure Stamp where
  seed : Seed
  versionNonce : Seed
  updated : UInt64

/-- The element in the form in which canvases exchange it. A measure stands for its value: one that
is a whole number is written as the float that it equals, also where it is a default. -/
def Element.toJson (e : Element) (stamp : Stamp) : Json :=
  .record ([("id", .string e.id), ("type", .ofString e.kind.name), ("x", .float e.frame.x),
    ("y", .float e.frame.y), ("width", .float e.frame.width), ("height", .float e.frame.height),
    ("angle", .int 0), ("strokeColor", .string e.style.strokeColor),
    ("backgroundColor", .string e.style.backgroundColor),
    ("fillStyle", .ofString e.style.fillStyle.name), ("strokeWidth", .float e.style.strokeWidth),
    ("strokeStyle", .ofString e.style.strokeStyle.name), ("roughness", .float e.style.roughness),
    ("opacity", .float e.style.opacity), ("seed", .int (Int.ofNat stamp.seed.value)),
    ("version", .int 1), ("versionNonce", .int (Int.ofNat stamp.versionNonce.value)),
    ("isDeleted", .bool false), ("groupIds", .array (e.groups.map .string)), ("frameId", .null),
    ("roundness", e.body.roundness), ("boundElements", .array (e.dependents.map Dependent.toJson)),
    ("updated", .int (Int.ofNat stamp.updated.toNat)), ("link", .null),
    ("locked", .bool false)] ++ e.body.fields)

/-- What a batch of elements is stamped with: all of them with the time, and each with two of the
numbers that are drawn. -/
structure Stamps where
  updated : UInt64 := 0
  drawn : Nat → Seed := fun _ => .least

/-- Elements written out, each with its own stamp. -/
def Stamps.write (stamps : Stamps) (es : List Element) : List Json :=
  es.mapIdx fun i e => e.toJson ⟨stamps.drawn (2 * i), stamps.drawn (2 * i + 1), stamps.updated⟩

end Easel
