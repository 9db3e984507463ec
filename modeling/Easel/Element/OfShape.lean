import Easel.Element.Basic
import Easel.Element.Ids

/-! Building the elements of a shape: one for the shape itself, and one for its label. -/
namespace Easel

/-- The greatest number; an earlier one stays unless a later one is greater. -/
def greatest (x : Float) (xs : List Float) : Float := xs.foldl (fun m y => if m < y then y else m) x

/-- The least number; an earlier one stays unless a later one is less. -/
def least (x : Float) (xs : List Float) : Float := xs.foldl (fun m y => if y < m then y else m) x

/-- The extent of a polyline along one axis. -/
def Path.extent (p : Path) (axis : Point → Float) : Float :=
  let rest := (p.second :: p.more).map axis
  greatest (axis p.first) rest - least (axis p.first) rest

/-- The course of a polyline: the given one, or the diagonal of its box. -/
def Attributes.course (a : Attributes) : Option Path → Path
  | some p => p
  | none => ⟨⟨0, 0⟩, ⟨a.width, a.height⟩, []⟩

def Attributes.frame (a : Attributes) : Frame := ⟨a.x, a.y, a.width, a.height⟩

/-- The frame of a polyline starts at the shape's place and has the extents of its course. -/
def Attributes.frameAlong (a : Attributes) (p : Path) : Frame :=
  ⟨a.x, a.y, p.extent Point.x, p.extent Point.y⟩

def Attributes.style (a : Attributes) : Style :=
  ⟨a.strokeColor, a.backgroundColor, a.fillStyle, a.strokeWidth, a.strokeStyle, a.roughness,
   a.opacity⟩

/-- A text that is there and not empty. -/
def nonempty? : Option Text → Option Text
  | none => none
  | some t => if t.isEmpty then none else some t

def Shape.body : Shape → Body
  | container kind _ _ => .container kind
  | text _ content =>
    .text ⟨content.text.getD (content.label.getD []), content.fontSize, content.fontFamily,
      content.align, .top, none⟩
  | arrow a _ c =>
    .arrow (a.course c.points)
      ⟨nonempty? c.startBinding, nonempty? c.endBinding, c.startArrowhead, c.endArrowhead⟩
  | line a points => .line (a.course points)

def Shape.frame : Shape → Frame
  | container _ a _ | text a _ => a.frame
  | arrow a _ c => a.frameAlong (a.course c.points)
  | line a points => a.frameAlong (a.course points)

/-- The caption that is shown in a text of its own. -/
def Shape.caption? : Shape → Option Caption
  | container _ _ caption | arrow _ caption _ => some caption
  | _ => none

/-- The element of the shape itself, without dependents. -/
def Shape.owner (s : Shape) (id : Text) : Element where
  id := id
  frame := s.frame
  style := s.attributes.style
  groups := (nonempty? s.attributes.groupId).toList
  dependents := []
  body := s.body

/-- Labels are 20 high. In a closed shape they leave 10 at both sides; on a polyline they are
centred between its ends, and 8 wide for each character. -/
def Element.labelFrame (owner : Element) (label : Text) : Frame :=
  let f := owner.frame
  match owner.body with
  | .arrow p _ | .line p =>
    let width := Float.ofNat (Nat.max (8 * label.length) 20)
    ⟨f.x + (p.first.x + p.last.x) / 2 - width / 2, f.y + (p.first.y + p.last.y) / 2 - 10, width, 20⟩
  | .container _ | .text _ =>
    ⟨f.x + 10, f.y + f.height / 2 - 10, if f.width - 20 < 0 then 0 else f.width - 20, 20⟩

/-- The text that shows the label of an owner. -/
def Element.labelText (owner : Element) (id label : Text) (caption : Caption) : Element where
  id := id
  frame := owner.labelFrame label
  style := ⟨owner.style.strokeColor, .ofString "transparent", .solid, 2, .solid, 1, 100⟩
  groups := owner.groups
  dependents := []
  body := .text ⟨label, caption.fontSize, caption.fontFamily, .center, .middle, some owner.id⟩

/-- The elements of a shape. The shape's own id is chosen before that of its label. -/
def Shape.elements (s : Shape) (ids : IdSupply) : List Element × IdSupply :=
  let (id, ids) := ids.choose s.attributes.id
  let owner := s.owner id
  match s.caption?, s.caption?.bind fun c => nonempty? c.label with
  | some caption, some label =>
    ([{ owner with dependents := [⟨false, ids.next⟩] }, owner.labelText ids.next label caption],
     ids.advance)
  | _, _ => ([owner], ids)

end Easel
