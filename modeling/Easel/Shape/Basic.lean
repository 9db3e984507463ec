import Easel.Json.Basic

/-! Shapes as clients describe them, once every field is known to be sound. -/
namespace Easel

inductive FillStyle where
  | hachure
  | crossHatch
  | solid
  | zigzag
  deriving DecidableEq

inductive StrokeStyle where
  | solid
  | dashed
  | dotted
  deriving DecidableEq

inductive TextAlign where
  | left
  | center
  | right
  deriving DecidableEq

/-- The closed shapes, which hold their label in a text of its own. -/
inductive ContainerKind where
  | rectangle
  | ellipse
  | diamond
  deriving DecidableEq

inductive ShapeKind where
  | container (kind : ContainerKind)
  | text
  | arrow
  | line
  deriving DecidableEq

def FillStyle.name : FillStyle → String
  | hachure => "hachure"
  | crossHatch => "cross-hatch"
  | solid => "solid"
  | zigzag => "zigzag"

def FillStyle.all : List FillStyle := [hachure, crossHatch, solid, zigzag]

def StrokeStyle.name : StrokeStyle → String
  | solid => "solid"
  | dashed => "dashed"
  | dotted => "dotted"

def StrokeStyle.all : List StrokeStyle := [solid, dashed, dotted]

def TextAlign.name : TextAlign → String
  | left => "left"
  | center => "center"
  | right => "right"

def TextAlign.all : List TextAlign := [left, center, right]

def ContainerKind.name : ContainerKind → String
  | rectangle => "rectangle"
  | ellipse => "ellipse"
  | diamond => "diamond"

def ShapeKind.name : ShapeKind → String
  | container kind => kind.name
  | text => "text"
  | arrow => "arrow"
  | line => "line"

def ShapeKind.all : List ShapeKind :=
  [container .rectangle, container .ellipse, container .diamond, text, arrow, line]

def ShapeKind.ofName? (t : Text) : Option ShapeKind := all.find? fun k => Text.ofString k.name = t

structure Point where
  x : Float
  y : Float

/-- A polyline; it has at least two points. -/
structure Path where
  first : Point
  second : Point
  more : List Point := []

def Path.toList (p : Path) : List Point := p.first :: p.second :: p.more

def Path.ofList? : List Point → Option Path
  | a :: b :: more => some ⟨a, b, more⟩
  | _ => none

def Path.last (p : Path) : Point := (p.second :: p.more).getLast (by simp)

theorem Path.toList_of_ofList? {ps : List Point} {p : Path} (h : Path.ofList? ps = some p) :
    p.toList = ps := by
  match ps, h with
  | a :: b :: more, h =>
    simp only [Path.ofList?, Option.some.injEq] at h
    subst h
    rfl

/-- What every shape has. -/
structure Attributes where
  id : Option Text := none
  x : Float := 0
  y : Float := 0
  width : Float := 100
  height : Float := 100
  strokeColor : Text := .ofString "#1e1e1e"
  backgroundColor : Text := .ofString "transparent"
  fillStyle : FillStyle := .hachure
  strokeWidth : Float := 2
  strokeStyle : StrokeStyle := .solid
  roughness : Float := 1
  opacity : Float := 100
  groupId : Option Text := none

/-- A label and its font. -/
structure Caption where
  label : Option Text := none
  fontSize : Float := 16
  fontFamily : Int := 5

/-- What a free-standing text shows: its text, or its label for want of one. -/
structure TextContent where
  text : Option Text := none
  label : Option Text := none
  fontSize : Float := 20
  fontFamily : Int := 5
  align : TextAlign := .left

/-- The course of an arrow and what it joins. -/
structure Connector where
  points : Option Path := none
  startBinding : Option Text := none
  endBinding : Option Text := none
  startArrowhead : Option Text := none
  endArrowhead : Option Text := some (.ofString "arrow")

inductive Shape where
  | container (kind : ContainerKind) (attributes : Attributes) (caption : Caption)
  | text (attributes : Attributes) (content : TextContent)
  | arrow (attributes : Attributes) (caption : Caption) (connector : Connector)
  | line (attributes : Attributes) (points : Option Path)

/-- Arrows and lines are level unless something else is said. -/
def Attributes.level : Attributes := { height := 0 }

namespace Shape

def kind : Shape → ShapeKind
  | container k _ _ => .container k
  | text _ _ => .text
  | arrow _ _ _ => .arrow
  | line _ _ => .line

def attributes : Shape → Attributes
  | container _ a _ => a
  | text a _ => a
  | arrow a _ _ => a
  | line a _ => a

end Shape

def Point.toJson (p : Point) : Json := .array [.float p.x, .float p.y]

def Path.toJson (p : Path) : Json := .array (p.toList.map Point.toJson)

def pathOrNull : Option Path → Json
  | none => .null
  | some p => p.toJson

def Attributes.fields (a : Attributes) : List (String × Json) :=
  [("id", .ofText? a.id), ("x", .float a.x), ("y", .float a.y), ("width", .float a.width),
   ("height", .float a.height), ("strokeColor", .string a.strokeColor),
   ("backgroundColor", .string a.backgroundColor), ("fillStyle", .ofString a.fillStyle.name),
   ("strokeWidth", .float a.strokeWidth), ("strokeStyle", .ofString a.strokeStyle.name),
   ("roughness", .float a.roughness), ("opacity", .float a.opacity),
   ("groupId", .ofText? a.groupId)]

def Caption.fields (c : Caption) : List (String × Json) :=
  [("label", .ofText? c.label), ("fontSize", .float c.fontSize),
   ("fontFamily", .int c.fontFamily)]

def TextContent.fields (t : TextContent) : List (String × Json) :=
  [("text", .ofText? t.text), ("label", .ofText? t.label), ("fontSize", .float t.fontSize),
   ("fontFamily", .int t.fontFamily), ("textAlign", .ofString t.align.name)]

def Connector.fields (c : Connector) : List (String × Json) :=
  [("points", pathOrNull c.points), ("startBinding", .ofText? c.startBinding),
   ("endBinding", .ofText? c.endBinding), ("startArrowhead", .ofText? c.startArrowhead),
   ("endArrowhead", .ofText? c.endArrowhead)]

/-- The shape as a complete descriptor: every field under its main name. -/
def Shape.toJson (s : Shape) : Json :=
  let own := match s with
    | container _ _ caption => caption.fields
    | text _ content => content.fields
    | arrow _ caption connector => caption.fields ++ connector.fields
    | line _ points => [("points", pathOrNull points)]
  .record (("type", .ofString s.kind.name) :: s.attributes.fields ++ own)

end Easel
