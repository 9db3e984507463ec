import Mathlib.Data.List.Forall2
import Easel.Proofs.Element.Blocks
import Easel.Proofs.Flowchart.Shapes

/-! What the elements of a chart are, and how they hang together. -/
namespace Easel

/-- An element without its place and its looks. -/
structure Sketch where
  id : Text
  type : Text
  text : Option Text := none
  containerId : Option Text := none
  startBinding : Option Text := none
  endBinding : Option Text := none
  dependents : List Dependent := []
  deriving DecidableEq

namespace Sketch

def attachments (s : Sketch) : List Text := s.startBinding.toList ++ s.endBinding.toList

def dependOn (s : Sketch) (ds : List Dependent) : Sketch :=
  { s with dependents := s.dependents ++ ds }

end Sketch

def Element.sketch (e : Element) : Sketch :=
  let plain : Sketch := { id := e.id, type := .ofString e.kind.name, dependents := e.dependents }
  match e.body with
  | .text body => { plain with text := some body.text, containerId := body.containerId }
  | .arrow _ ends =>
    { plain with startBinding := ends.startBinding, endBinding := ends.endBinding }
  | _ => plain

/-- Of a container, a sketch shows what depends on it, and no text of its own. -/
theorem sketch_of_container {e : Element} {kind : ContainerKind} (h : e.body = .container kind) :
    e.sketch = { id := e.id, type := .ofString kind.name, dependents := e.dependents } := by
  simp only [Element.sketch, Element.kind, h, ShapeKind.name]

/-- Of a text, it shows the words and whose label they are. -/
theorem sketch_of_text {e : Element} {body : TextBody} (h : e.body = .text body) :
    e.sketch =
      { id := e.id, type := .ofString "text", text := some body.text,
        containerId := body.containerId, dependents := e.dependents } := by
  simp only [Element.sketch, Element.kind, h, ShapeKind.name]

/-- Of an arrow, it shows to which elements its ends are bound. -/
theorem sketch_of_arrow {e : Element} {points : Path} {ends : Ends}
    (h : e.body = .arrow points ends) :
    e.sketch =
      { id := e.id, type := .ofString "arrow", startBinding := ends.startBinding,
        endBinding := ends.endBinding, dependents := e.dependents } := by
  simp only [Element.sketch, Element.kind, h, ShapeKind.name]

/-- The text of a label names its owner, and nothing depends on it. -/
theorem sketch_labelText (owner : Element) (id label : Text) (caption : Caption) :
    (owner.labelText id label caption).sketch =
      { id := id, type := .ofString "text", text := some label, containerId := some owner.id } := by
  have hbody : (owner.labelText id label caption).body =
      .text ⟨label, caption.fontSize, caption.fontFamily, .center, .middle, some owner.id⟩ := rfl
  rw [sketch_of_text hbody]
  rfl

theorem sketch_id (e : Element) : e.sketch.id = e.id := by
  unfold Element.sketch
  split <;> rfl

theorem sketch_attachments (e : Element) : e.sketch.attachments = e.attachments := by
  unfold Element.sketch Element.attachments
  cases e.body <;> rfl

/-- Registering dependents and sketching can be done in either order. -/
theorem sketch_dependOn (e : Element) (ds : List Dependent) :
    ({ e with dependents := e.dependents ++ ds } : Element).sketch = e.sketch.dependOn ds := by
  cases e with
  | mk id frame style groups dependents body => cases body <;> rfl

/-- An edge, and the ids of its arrow and of the label of the arrow. -/
structure Stroke where
  edge : Edge
  id : Text
  labelId : Text

/-- Only an edge with a label takes an id for it. -/
def strokesOf : IdSupply → List Edge → List Stroke
  | _, [] => []
  | ids, e :: edges =>
    ⟨e, ids.next, ids.advance.next⟩ ::
      strokesOf (if e.label.isSome then ids.advance.advance else ids.advance) edges

def Edge.touches (e : Edge) (id : Text) : Bool := e.source = id ∨ e.target = id

/-- One reference for each arrow that touches a node, in the order of the edges. -/
def referencesTo (strokes : List Stroke) (id : Text) : List Dependent :=
  (strokes.filter fun s => s.edge.touches id).map fun s => ⟨true, s.id⟩

/-- The container of a node and the text in it. -/
def Node.sketches (n : Node) (textId : Text) (arrows : List Dependent) : List Sketch :=
  [{ id := n.id, type := n.outline.name, dependents := ⟨false, textId⟩ :: arrows },
   { id := textId, type := .ofString "text", text := some n.label, containerId := some n.id }]

def Stroke.arrow (s : Stroke) (labels : List Dependent) : Sketch where
  id := s.id
  type := .ofString "arrow"
  startBinding := some s.edge.source
  endBinding := some s.edge.target
  dependents := labels

/-- The arrow of an edge, and the text on it if the edge has a label. -/
def Stroke.sketches (s : Stroke) : List Sketch :=
  match s.edge.label with
  | none => [s.arrow []]
  | some label =>
    [s.arrow [⟨false, s.labelId⟩],
     { id := s.labelId, type := .ofString "text", text := some label, containerId := some s.id }]

/-- The sketches of nodes, whose texts take an id each. -/
def boxSketches (arrows : Text → List Dependent) : IdSupply → List Node → List Sketch
  | _, [] => []
  | ids, n :: nodes => n.sketches ids.next (arrows n.id) ++ boxSketches arrows ids.advance nodes

def Flowchart.strokes (c : Flowchart) (ids : IdSupply) : List Stroke :=
  strokesOf (ids.skip c.nodes.length) c.edges

def Flowchart.sketches (c : Flowchart) (ids : IdSupply) : List Sketch :=
  boxSketches (referencesTo (c.strokes ids)) ids c.nodes ++ (c.strokes ids).flatMap Stroke.sketches

namespace Flowchart

/-- The box of a node takes one id, that of its label, and goes by the name of its node. -/
theorem sketch_box {c : Flowchart} {n : Node} {s : Shape} (hn : n.WellFormed) (hs : c.IsBox n s)
    (ids : IdSupply) :
    s.given? = some n.id ∧ (s.elements ids).2 = ids.advance ∧
      (s.elements ids).1.map Element.sketch = n.sketches ids.next [] := by
  obtain ⟨kind, a, caption, hkind, rfl, ha, hcaption⟩ := hs.parts
  have hid : nonempty? a.id = some n.id := by rw [ha, nonempty?_some hn.id_ne]
  have hlabel : (Shape.container kind a caption).label? = some n.label := by
    rw [← nonempty?_some hn.label_ne, ← hcaption]
    rfl
  obtain ⟨_, hsome, helements⟩ := elements_of_label_some hlabel ids
  obtain rfl := Option.some.inj hsome
  rw [helements]
  simp only [Shape.attributes, IdSupply.choose_of_some hid]
  refine ⟨hid, trivial, ?_⟩
  rw [List.map_cons, sketch_of_container rfl, List.map_singleton, sketch_labelText, Node.sketches,
    hkind]
  rfl

/-- An arrow takes an id for itself, and one more if it has a label. -/
theorem sketch_arrow {c : Flowchart} {e : Edge} {s : Shape} (he : e.label ≠ some [])
    (hsource : e.source ≠ []) (htarget : e.target ≠ []) (hs : c.IsArrow e s) (ids : IdSupply) :
    s.given? = none ∧
      (s.elements ids).2 = (if e.label.isSome then ids.advance.advance else ids.advance) ∧
      (s.elements ids).1.map Element.sketch =
        Stroke.sketches ⟨e, ids.next, ids.advance.next⟩ := by
  obtain ⟨a, caption, connector, rfl, ha, hcaption, hstart, hend⟩ := hs.parts
  have hid : nonempty? a.id = none := by rw [ha]; rfl
  have hbody : (Shape.arrow a caption connector).body =
      .arrow (a.course connector.points) ⟨some e.source, some e.target,
        connector.startArrowhead, connector.endArrowhead⟩ := by
    rw [← nonempty?_some hsource, ← nonempty?_some htarget, ← hstart, ← hend]
    rfl
  refine ⟨hid, ?_⟩
  cases hlabel : e.label with
  | none =>
    have hnone : (Shape.arrow a caption connector).label? = none := by
      simp only [Shape.label?, Shape.caption?, Option.bind_some, hcaption, hlabel]
      rfl
    rw [elements_of_label_none hnone]
    simp only [Shape.attributes, IdSupply.choose_of_none hid, Stroke.sketches, hlabel]
    refine ⟨rfl, ?_⟩
    rw [List.map_singleton, sketch_of_arrow hbody]
    rfl
  | some label =>
    have hne : label ≠ [] := fun h => he (h ▸ hlabel)
    have hsome : (Shape.arrow a caption connector).label? = some label := by
      simp only [Shape.label?, Shape.caption?, Option.bind_some, hcaption, hlabel]
      exact nonempty?_some hne
    obtain ⟨_, -, helements⟩ := elements_of_label_some hsome ids
    rw [helements]
    simp only [Shape.attributes, IdSupply.choose_of_none hid, Stroke.sketches, hlabel]
    refine ⟨rfl, ?_⟩
    rw [List.map_cons, sketch_of_arrow hbody, List.map_singleton, sketch_labelText]
    rfl

/-- The boxes of a chart take as many ids as there are nodes. -/
theorem sketch_boxes {c : Flowchart} {nodes : List Node} {boxes : List Shape}
    (hnodes : ∀ n ∈ nodes, n.WellFormed) (h : List.Forall₂ c.IsBox nodes boxes) (ids : IdSupply) :
    boxes.filterMap Shape.given? = nodes.map (·.id) ∧
      (elementsOf boxes ids).2 = ids.skip nodes.length ∧
      (elementsOf boxes ids).1.map Element.sketch = boxSketches (fun _ => []) ids nodes := by
  induction h generalizing ids with
  | nil => exact ⟨rfl, rfl, rfl⟩
  | @cons n s nodes boxes hs hrest ih =>
    obtain ⟨hid, hadvance, hsketch⟩ := sketch_box (hnodes n List.mem_cons_self) hs ids
    obtain ⟨hids, hskip, hsketches⟩ :=
      ih (fun m hm => hnodes m (List.mem_cons_of_mem n hm)) ids.advance
    rw [elementsOf_cons, hadvance]
    refine ⟨?_, ?_, ?_⟩
    · rw [List.filterMap_cons_some hid, hids, List.map_cons]
    · rw [hskip, IdSupply.advance_eq_skip, IdSupply.skip_skip, List.length_cons, Nat.add_comm]
    · rw [List.map_append, hsketch, hsketches, boxSketches]

/-- No arrow has an id of its own choice, so that each of them takes the next one. -/
theorem sketch_arrows {c : Flowchart} {edges : List Edge} {arrows : List Shape}
    (hlabels : ∀ e ∈ edges, e.label ≠ some [])
    (hends : ∀ e ∈ edges, e.source ≠ [] ∧ e.target ≠ [])
    (h : List.Forall₂ c.IsArrow edges arrows) (ids : IdSupply) :
    arrows.filterMap Shape.given? = [] ∧
      (elementsOf arrows ids).1.map Element.sketch =
        (strokesOf ids edges).flatMap Stroke.sketches := by
  induction h generalizing ids with
  | nil => exact ⟨rfl, rfl⟩
  | @cons e s edges arrows hs hrest ih =>
    obtain ⟨hsource, htarget⟩ := hends e List.mem_cons_self
    obtain ⟨hid, hadvance, hsketch⟩ :=
      sketch_arrow (hlabels e List.mem_cons_self) hsource htarget hs ids
    obtain ⟨hids, hsketches⟩ := ih (fun f hf => hlabels f (List.mem_cons_of_mem e hf))
      (fun f hf => hends f (List.mem_cons_of_mem e hf)) (s.elements ids).2
    refine ⟨?_, ?_⟩
    · rw [List.filterMap_cons_none hid, hids]
    · rw [elementsOf_cons, List.map_append, hsketch, hsketches, hadvance, strokesOf,
        List.flatMap_cons]

end Flowchart

end Easel
