import Easel.Shape.NumberText

/-! Reading descriptors. A field has two spellings, numbers may be given as strings or truth
values, and unknown keys have no influence. -/
namespace Easel

/-- The main spelling of a field, and the one that counts only where that is absent. -/
structure FieldName where
  main : String
  other : String

namespace FieldName

def same (name : String) : FieldName := ⟨name, name⟩

/-- The value of a field and the spelling under which it stands. -/
def find? (name : FieldName) (fields : Fields) : Option (String × Json) :=
  match fields.get? name.main with
  | some v => some (name.main, v)
  | none => (fields.get? name.other).map (name.other, ·)

end FieldName

namespace Json

/-- A string; lone surrogates may occur in it. -/
def asText : Json → Verdict Text
  | .string t => .accepted t
  | _ => .fail .notString

def asText? : Json → Verdict (Option Text)
  | .null => .accepted none
  | v => some <$> v.asText

/-- A double: also from integers in its range, truth values and decimal strings. -/
def asNumber : Json → Verdict Float
  | .int n =>
    match floatOfInt? n with
    | some x => .accepted x
    | none => .fail .notNumber
  | .float x => .accepted x
  | .bool b => .accepted (if b then 1 else 0)
  | .string t =>
    if t.toString?.isNone then .fail .loneSurrogate
    else match t.describedFloat? with
      | some x => .accepted x
      | none => .fail .unreadableNumber
  | _ => .fail .notNumber

/-- A percentage: not-a-number is not at most a hundred. -/
def asPercentage (v : Json) : Verdict Float :=
  v.asNumber.andThen fun x =>
    if x ≤ 100 then if 0 ≤ x then .accepted x else .fail .belowZero
    else .fail .aboveHundred

/-- The integer that a double is, if it has no fraction and fits 64 bits. -/
def integerOfFloat (x : Float) : Verdict Int :=
  if x.isNaN || x.isInf then .fail .notFinite
  else if x.floor != x then .fail .fractionalInteger
  else if -9223372036854775808.0 < x && x < 9223372036854775808.0 then .accepted x.toInt64.toInt
  else .fail .oversizedInteger

def asInteger : Json → Verdict Int
  | .int n => .accepted n
  | .float x => integerOfFloat x
  | .bool b => .accepted (if b then 1 else 0)
  | .string t => if t.toString?.isNone then .fail .loneSurrogate else t.describedInteger
  | _ => .fail .notInteger

/-- One of finitely many names. -/
def asChoice {α : Type} (all : List α) (name : α → String) : Json → Verdict α
  | .string t =>
    if t.toString?.isNone then .fail .loneSurrogate
    else match all.find? fun a => Text.ofString (name a) = t with
      | some a => .accepted a
      | none => .fail (.notAmong (all.map name))
  | _ => .fail (.notAmong (all.map name))

/-- A pair of numbers; with more than two items nothing else is looked at. -/
def asPoint : Json → Verdict Point
  | .array [] => .rejected [⟨["0"], .missingItem⟩, ⟨["1"], .missingItem⟩]
  | .array [x] => .ap (Point.mk <$> x.asNumber.under "0") (.rejected [⟨["1"], .missingItem⟩])
  | .array [x, y] => Point.mk <$> x.asNumber.under "0" <*> y.asNumber.under "1"
  | .array items => .fail (.tooManyItems items.length)
  | _ => .fail .notPair

/-- The points of a polyline. Their number is looked at once each of them is sound. -/
def asPath? : Json → Verdict (Option Path)
  | .null => .accepted none
  | .array items =>
    (Verdict.all (items.mapIdx fun i v => v.asPoint.under (toString i))).andThen fun ps =>
      match Path.ofList? ps with
      | some p => .accepted (some p)
      | none => .fail (.tooFewItems ps.length)
  | _ => .fail .notList

end Json

/-- The value of a field, or the default where the field is absent. -/
def Fields.read {α : Type} (fields : Fields) (name : FieldName) (default : α)
    (as : Json → Verdict α) : Verdict α :=
  match name.find? fields with
  | none => .accepted default
  | some (key, v) => (as v).under key

def Attributes.ofFields (fields : Fields) (d : Attributes) : Verdict Attributes :=
  Attributes.mk
    <$> fields.read (.same "id") d.id Json.asText?
    <*> fields.read (.same "x") d.x Json.asNumber
    <*> fields.read (.same "y") d.y Json.asNumber
    <*> fields.read (.same "width") d.width Json.asNumber
    <*> fields.read (.same "height") d.height Json.asNumber
    <*> fields.read ⟨"strokeColor", "stroke_color"⟩ d.strokeColor Json.asText
    <*> fields.read ⟨"backgroundColor", "background_color"⟩ d.backgroundColor Json.asText
    <*> fields.read ⟨"fillStyle", "fill_style"⟩ d.fillStyle
      (Json.asChoice FillStyle.all FillStyle.name)
    <*> fields.read ⟨"strokeWidth", "stroke_width"⟩ d.strokeWidth Json.asNumber
    <*> fields.read ⟨"strokeStyle", "stroke_style"⟩ d.strokeStyle
      (Json.asChoice StrokeStyle.all StrokeStyle.name)
    <*> fields.read (.same "roughness") d.roughness Json.asNumber
    <*> fields.read (.same "opacity") d.opacity Json.asPercentage
    <*> fields.read ⟨"groupId", "group_id"⟩ d.groupId Json.asText?

def Caption.ofFields (fields : Fields) (d : Caption) : Verdict Caption :=
  Caption.mk
    <$> fields.read (.same "label") d.label Json.asText?
    <*> fields.read ⟨"fontSize", "font_size"⟩ d.fontSize Json.asNumber
    <*> fields.read ⟨"fontFamily", "font_family"⟩ d.fontFamily Json.asInteger

def TextContent.ofFields (fields : Fields) (d : TextContent) : Verdict TextContent :=
  TextContent.mk
    <$> fields.read (.same "text") d.text Json.asText?
    <*> fields.read (.same "label") d.label Json.asText?
    <*> fields.read ⟨"fontSize", "font_size"⟩ d.fontSize Json.asNumber
    <*> fields.read ⟨"fontFamily", "font_family"⟩ d.fontFamily Json.asInteger
    <*> fields.read ⟨"textAlign", "text_align"⟩ d.align
      (Json.asChoice TextAlign.all TextAlign.name)

def Connector.ofFields (fields : Fields) (d : Connector) : Verdict Connector :=
  Connector.mk
    <$> fields.read (.same "points") d.points Json.asPath?
    <*> fields.read ⟨"startBinding", "start_binding"⟩ d.startBinding Json.asText?
    <*> fields.read ⟨"endBinding", "end_binding"⟩ d.endBinding Json.asText?
    <*> fields.read ⟨"startArrowhead", "start_arrowhead"⟩ d.startArrowhead Json.asText?
    <*> fields.read ⟨"endArrowhead", "end_arrowhead"⟩ d.endArrowhead Json.asText?

/-- The shape of a given kind that the fields describe. -/
def Shape.ofFields (kind : ShapeKind) (fields : Fields) : Verdict Shape :=
  match kind with
  | .container k =>
    Shape.container k <$> Attributes.ofFields fields {} <*> Caption.ofFields fields {}
  | .text => Shape.text <$> Attributes.ofFields fields {} <*> TextContent.ofFields fields {}
  | .arrow =>
    Shape.arrow <$> Attributes.ofFields fields .level <*> Caption.ofFields fields {}
      <*> Connector.ofFields fields {}
  | .line =>
    Shape.line <$> Attributes.ofFields fields .level
      <*> fields.read (.same "points") none Json.asPath?

/-- A descriptor of a supported kind with unsound fields. -/
structure InvalidShape where
  kind : ShapeKind
  index : Int
  problems : List Problem
  deriving DecidableEq

def InvalidShape.message (e : InvalidShape) : String :=
  s!"Invalid {e.kind.name} shape at index {e.index}: " ++
    String.intercalate "; " (e.problems.map Problem.message)

/-- The fields of a descriptor of a supported kind. -/
def Json.describedKind? : Json → Option (ShapeKind × Fields)
  | .object fields =>
    match Fields.get? fields "type" with
    | some (.string t) => (ShapeKind.ofName? t).map (·, fields)
    | _ => none
  | _ => none

/-- Reads a descriptor; there is no shape in one of an unsupported kind. -/
def Shape.ofDescriptor? (index : Int) (raw : Json) : Except InvalidShape (Option Shape) :=
  match raw.describedKind? with
  | none => .ok none
  | some (kind, fields) =>
    match Shape.ofFields kind fields with
    | .accepted s => .ok (some s)
    | .rejected problems => .error ⟨kind, index, problems⟩

/-- Reads descriptors that are numbered from `index` on, and skips those of unsupported kinds. -/
def Shape.ofDescriptors (index : Nat) : List Json → Except InvalidShape (List Shape)
  | [] => .ok []
  | raw :: rest =>
    match Shape.ofDescriptor? index raw with
    | .error e => .error e
    | .ok none => Shape.ofDescriptors (index + 1) rest
    | .ok (some s) => (Shape.ofDescriptors (index + 1) rest).map (s :: ·)

end Easel
