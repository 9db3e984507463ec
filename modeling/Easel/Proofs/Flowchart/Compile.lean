import Easel.Proofs.Element.References
import Easel.Proofs.Flowchart.Sketch
import Easel.Proofs.Shape.ReadBack

/-! Every text is drawn: its chart has a sketch, and the elements of the chart agree with it. -/
namespace Easel

namespace Flowchart

/-- The arrows at an id, as the sketches of a batch show them. -/
def arrowsIn (sketches : List Sketch) (id : Text) : List Dependent :=
  (sketches.filter fun s => s.attachments.any fun t => t = id ∧ s.id ≠ id).map
    fun s => ⟨true, s.id⟩

/-- Which arrows end at an element can be told from sketches. -/
theorem arrowsTo_eq_arrowsIn (es : List Element) (id : Text) :
    arrowsTo es id = arrowsIn (es.map Element.sketch) id := by
  unfold arrowsTo arrowsIn
  rw [List.filter_map, List.map_map]
  simp only [Function.comp_def, sketch_id, sketch_attachments]

/-- Arrows are found part by part. -/
theorem arrowsIn_append (xs ys : List Sketch) (id : Text) :
    arrowsIn (xs ++ ys) id = arrowsIn xs id ++ arrowsIn ys id := by
  simp only [arrowsIn, List.filter_append, List.map_append]

theorem arrowsIn_of_no_ends {sketches : List Sketch} (h : ∀ s ∈ sketches, s.attachments = [])
    (id : Text) : arrowsIn sketches id = [] := by
  rw [arrowsIn, List.map_eq_nil_iff, List.filter_eq_nil_iff]
  intro s hs
  rw [h s hs]
  exact Bool.false_ne_true

/-- Boxes and their labels are bound to nothing. -/
theorem attachments_boxes {arrows : Text → List Dependent} {ids : IdSupply} {nodes : List Node}
    {s : Sketch} (h : s ∈ boxSketches arrows ids nodes) : s.attachments = [] := by
  induction nodes generalizing ids with
  | nil => cases h
  | cons n nodes ih =>
    rcases List.mem_append.mp h with h | h
    · rcases List.mem_cons.mp h with rfl | h
      · rfl
      · rw [List.mem_singleton.mp h]
        rfl
    · exact ih h

theorem mem_ends {e : Edge} {id : Text} : id ∈ [e.source, e.target] ↔ e.touches id = true := by
  simp only [Edge.touches, List.mem_cons, List.not_mem_nil, or_false, decide_eq_true_iff,
    eq_comm (a := id)]

theorem mem_attachments_arrow {s : Stroke} {labels : List Dependent} {id : Text} :
    id ∈ (s.arrow labels).attachments ↔ s.edge.touches id = true := mem_ends

@[simp] theorem id_arrow (s : Stroke) (labels : List Dependent) : (s.arrow labels).id = s.id := rfl

/-- An arrow refers to both its ends, and to one of them once if they are the same. -/
theorem arrowsIn_arrow {s : Stroke} {id : Text} (h : s.edge.touches id → s.id ≠ id)
    (labels : List Dependent) :
    arrowsIn [s.arrow labels] id = if s.edge.touches id then [⟨true, s.id⟩] else [] := by
  have hends : ((s.arrow labels).attachments.any fun t => t = id ∧ s.id ≠ id) =
      s.edge.touches id := by
    rw [Bool.eq_iff_iff, List.any_eq_true, ← @mem_attachments_arrow s labels id]
    constructor
    · rintro ⟨t, ht, hd⟩
      obtain ⟨rfl, -⟩ := of_decide_eq_true hd
      exact ht
    · intro ht
      exact ⟨id, ht, decide_eq_true ⟨rfl, h (mem_attachments_arrow.mp ht)⟩⟩
  rw [arrowsIn, List.filter_cons, id_arrow, hends]
  by_cases hs : s.edge.touches id
  · rw [if_pos hs, if_pos hs]
    rfl
  · rw [if_neg hs, if_neg hs]
    rfl

theorem arrowsIn_stroke {s : Stroke} {id : Text} (h : s.edge.touches id → s.id ≠ id) :
    arrowsIn s.sketches id = if s.edge.touches id then [⟨true, s.id⟩] else [] := by
  unfold Stroke.sketches
  cases s.edge.label with
  | none => exact arrowsIn_arrow h []
  | some label =>
    refine (arrowsIn_append [_] [_] id).trans ?_
    rw [arrowsIn_arrow h, List.append_right_eq_self]
    apply arrowsIn_of_no_ends
    intro t ht
    rw [List.mem_singleton.mp ht]
    rfl

/-- Nodes are touched by edges, and their boxes by the arrows for these, in order. -/
theorem arrowsIn_strokes (strokes : List Stroke) (id : Text)
    (h : ∀ s ∈ strokes, s.edge.touches id → s.id ≠ id) :
    arrowsIn (strokes.flatMap Stroke.sketches) id = referencesTo strokes id := by
  induction strokes with
  | nil => rfl
  | cons s strokes ih =>
    rw [List.flatMap_cons, arrowsIn_append, ih fun t ht => h t (List.mem_cons_of_mem s ht),
      arrowsIn_stroke (h s List.mem_cons_self)]
    unfold referencesTo
    by_cases hs : s.edge.touches id
    · rw [if_pos hs, List.filter_cons, if_pos hs]
      rfl
    · rw [if_neg hs, List.filter_cons, if_neg hs]
      rfl

/-- Arrows and their labels have ids of the supply. -/
theorem mem_strokesOf {ids : IdSupply} {edges : List Edge} {s : Stroke}
    (h : s ∈ strokesOf ids edges) :
    s.edge ∈ edges ∧ (∃ n, s.id = ids.name n) ∧ ∃ n, s.labelId = ids.name n := by
  induction edges generalizing ids with
  | nil => cases h
  | cons e edges ih =>
    rw [strokesOf, List.mem_cons] at h
    rcases h with rfl | h
    · exact ⟨List.mem_cons_self, ⟨_, rfl⟩, ⟨_, rfl⟩⟩
    · obtain ⟨he, hid, hlabel⟩ := ih h
      have hname : (if e.label.isSome then ids.advance.advance else ids.advance).name =
          ids.name := by
        split <;> rfl
      rw [hname] at hid hlabel
      exact ⟨List.mem_cons_of_mem e he, hid, hlabel⟩

theorem dependOn_nil (s : Sketch) : s.dependOn [] = s := by
  unfold Sketch.dependOn
  rw [List.append_nil]

/-- References to be added are only those to boxes. -/
theorem dependOn_boxes {arrows : Text → List Dependent} {ids : IdSupply}
    (h : ∀ n, arrows (ids.name n) = []) (nodes : List Node) :
    (boxSketches (fun _ => []) ids nodes).map (fun s => s.dependOn (arrows s.id)) =
      boxSketches arrows ids nodes := by
  induction nodes generalizing ids with
  | nil => rfl
  | cons n nodes ih =>
    have htail : ∀ k, arrows (ids.advance.name k) = [] := h
    rw [boxSketches, List.map_append, ih htail, boxSketches]
    unfold Node.sketches
    rw [List.map_cons, List.map_singleton]
    have htext : arrows ids.next = [] := h _
    simp only [htext, dependOn_nil]
    rfl

theorem dependOn_stroke {arrows : Text → List Dependent} {s : Stroke} (hid : arrows s.id = [])
    (hlabel : arrows s.labelId = []) :
    s.sketches.map (fun t => t.dependOn (arrows t.id)) = s.sketches := by
  unfold Stroke.sketches
  cases s.edge.label with
  | none => simp only [List.map_cons, List.map_nil, id_arrow, hid, dependOn_nil]
  | some label => simp only [List.map_cons, List.map_nil, id_arrow, hid, hlabel, dependOn_nil]

/-- Nothing is bound to an arrow, or to the label of one. -/
theorem dependOn_strokes {arrows : Text → List Dependent} {strokes : List Stroke}
    (h : ∀ s ∈ strokes, arrows s.id = [] ∧ arrows s.labelId = []) :
    (strokes.flatMap Stroke.sketches).map (fun t => t.dependOn (arrows t.id)) =
      strokes.flatMap Stroke.sketches := by
  induction strokes with
  | nil => rfl
  | cons s strokes ih =>
    obtain ⟨hid, hlabel⟩ := h s List.mem_cons_self
    rw [List.flatMap_cons, List.map_append, dependOn_stroke hid hlabel,
      ih fun t ht => h t (List.mem_cons_of_mem s ht)]

variable {c : Flowchart} {ids : IdSupply}

/-- Edges join nodes of the chart. -/
theorem WellFormed.mem_of_touches (h : c.WellFormed) {e : Edge} (he : e ∈ c.edges) {id : Text}
    (ht : e.touches id) : id ∈ c.nodes.map (·.id) := by
  obtain ⟨hs, ht'⟩ := h.closed e he
  rcases List.mem_cons.mp (mem_ends.mpr ht) with rfl | hid
  · exact hs
  · rwa [List.mem_singleton.mp hid]

/-- Generated ids are not touched by edges. -/
theorem WellFormed.referencesTo_name (h : c.WellFormed) (hfresh : ids.Fresh (c.nodes.map (·.id)))
    (n : Nat) : referencesTo (c.strokes ids) (ids.name n) = [] := by
  have hnone : (c.strokes ids).filter (fun s => s.edge.touches (ids.name n)) = [] := by
    rw [List.filter_eq_nil_iff]
    intro s hs htouches
    exact hfresh.apart n (h.mem_of_touches (mem_strokesOf hs).1 htouches)
  rw [referencesTo, hnone]
  rfl

theorem WellFormed.id_ne (h : c.WellFormed) {id : Text} (hid : id ∈ c.nodes.map (·.id)) :
    id ≠ [] := by
  obtain ⟨n, hn, rfl⟩ := List.mem_map.mp hid
  exact (h.nodes n hn).id_ne

theorem WellFormed.ends_ne (h : c.WellFormed) : ∀ e ∈ c.edges, e.source ≠ [] ∧ e.target ≠ [] :=
  fun e he => ⟨h.id_ne (h.closed e he).1, h.id_ne (h.closed e he).2⟩

theorem touches_of_mem_attachments {s : Stroke} {t : Sketch} {id : Text} (ht : t ∈ s.sketches)
    (hid : id ∈ t.attachments) : s.edge.touches id = true := by
  unfold Stroke.sketches at ht
  cases hlabel : s.edge.label with
  | none =>
    rw [hlabel] at ht
    rw [List.mem_singleton.mp ht] at hid
    exact mem_attachments_arrow.mp hid
  | some label =>
    rw [hlabel] at ht
    rcases List.mem_cons.mp ht with rfl | ht
    · exact mem_attachments_arrow.mp hid
    · rw [List.mem_singleton.mp ht] at hid
      cases hid

theorem id_mem_boxes {arrows : Text → List Dependent} {nodes : List Node} {id : Text}
    (h : id ∈ nodes.map (·.id)) : id ∈ (boxSketches arrows ids nodes).map (·.id) := by
  induction nodes generalizing ids with
  | nil => cases h
  | cons n nodes ih =>
    rw [boxSketches, List.map_append, List.mem_append]
    rcases List.mem_cons.mp h with rfl | h
    · exact .inl List.mem_cons_self
    · exact .inr (ih h)

/-- Arrows end at boxes of their chart. -/
theorem WellFormed.closed_sketches (h : c.WellFormed) {s : Sketch} (hs : s ∈ c.sketches ids)
    {id : Text} (hid : id ∈ s.attachments) : id ∈ (c.sketches ids).map (·.id) := by
  have hnode : id ∈ c.nodes.map (·.id) := by
    rcases List.mem_append.mp hs with hs | hs
    · rw [attachments_boxes hs] at hid
      cases hid
    · obtain ⟨t, ht, hs⟩ := List.mem_flatMap.mp hs
      exact h.mem_of_touches (mem_strokesOf ht).1 (touches_of_mem_attachments hs hid)
  rw [sketches, List.map_append]
  exact List.mem_append_left _ (id_mem_boxes hnode)

/-- The sketches of a chart as long as no arrow is registered. -/
def unreferred (c : Flowchart) (ids : IdSupply) : List Sketch :=
  boxSketches (fun _ => []) ids c.nodes ++ (c.strokes ids).flatMap Stroke.sketches

/-- The arrows at an id are the strokes that touch it: a stroke touches no generated id. -/
theorem WellFormed.arrowsIn_unreferred (h : c.WellFormed) (hfresh : ids.Fresh (c.nodes.map (·.id)))
    (id : Text) : arrowsIn (c.unreferred ids) id = referencesTo (c.strokes ids) id := by
  have hboxes := arrowsIn_of_no_ends
    (fun s (hs : s ∈ boxSketches (fun _ => []) ids c.nodes) => attachments_boxes hs) id
  rw [unreferred, arrowsIn_append, hboxes, List.nil_append]
  apply arrowsIn_strokes
  rintro s hs htouches rfl
  obtain ⟨he, ⟨n, hn⟩, -⟩ := mem_strokesOf hs
  exact hfresh.apart n (hn ▸ h.mem_of_touches he htouches)

/-- Ids of the supply are no names of nodes, so only boxes get dependents. -/
theorem WellFormed.dependOn_unreferred (h : c.WellFormed)
    (hfresh : ids.Fresh (c.nodes.map (·.id))) :
    (c.unreferred ids).map (fun s => s.dependOn (referencesTo (c.strokes ids) s.id)) =
      c.sketches ids := by
  have hstrokes : ∀ s ∈ c.strokes ids, referencesTo (c.strokes ids) s.id = [] ∧
      referencesTo (c.strokes ids) s.labelId = [] := by
    intro s hs
    obtain ⟨-, ⟨i, hi⟩, ⟨j, hj⟩⟩ := mem_strokesOf hs
    exact ⟨hi ▸ h.referencesTo_name hfresh i, hj ▸ h.referencesTo_name hfresh j⟩
  rw [unreferred, List.map_append, dependOn_boxes (h.referencesTo_name hfresh),
    dependOn_strokes hstrokes]
  rfl

/-- The shapes of a chart ask for the ids of its nodes, and their elements have its sketches. -/
theorem WellFormed.elementsOf_toShapes (h : c.WellFormed) (ids : IdSupply) :
    ∃ shapes, c.toShapes = .ok shapes ∧ shapes.filterMap Shape.given? = c.nodes.map (·.id) ∧
      (elementsOf shapes ids).1.map Element.sketch = c.unreferred ids := by
  obtain ⟨boxes, arrows, hshapes, hboxes, harrows⟩ := toShapes_of_wellFormed h
  obtain ⟨hboxIds, hskip, hboxSketches⟩ := sketch_boxes h.nodes hboxes ids
  obtain ⟨harrowIds, harrowSketches⟩ :=
    sketch_arrows h.labels h.ends_ne harrows (ids.skip c.nodes.length)
  refine ⟨boxes ++ arrows, hshapes, ?_, ?_⟩
  · rw [List.filterMap_append, hboxIds, harrowIds, List.append_nil]
  · rw [elementsOf_append, List.map_append, hboxSketches, hskip, harrowSketches]
    rfl

/-- The elements of a chart are those of its sketch, and their ids are distinct. -/
theorem WellFormed.compileShapes_sketches (h : c.WellFormed)
    (hfresh : ids.Fresh (c.nodes.map (·.id))) :
    ∃ shapes, c.toShapes = .ok shapes ∧
      (compileShapes shapes ids).1.map Element.sketch = c.sketches ids ∧
      ((compileShapes shapes ids).1.map (·.id)).Nodup := by
  obtain ⟨shapes, hshapes, hgiven, hsketches⟩ := h.elementsOf_toShapes ids
  have hnodup : ((elementsOf shapes ids).1.map (·.id)).Nodup :=
    nodup_ids_elementsOf (hgiven ▸ hfresh) (hgiven ▸ h.ids_nodup)
  have hregister : (compileShapes shapes ids).1 = (elementsOf shapes ids).1.map fun e =>
      { e with dependents := e.dependents ++ referencesTo (c.strokes ids) e.id } := by
    refine (registerArrows_of_nodup hnodup fun e he d hd =>
      isArrow_of_mem_elementsOf he hd).trans ?_
    simp only [arrowsTo_eq_arrowsIn, hsketches, h.arrowsIn_unreferred hfresh]
  refine ⟨shapes, hshapes, ?_, ?_⟩
  · have hdepend : (compileShapes shapes ids).1.map Element.sketch =
        ((elementsOf shapes ids).1.map Element.sketch).map
          fun s => s.dependOn (referencesTo (c.strokes ids) s.id) := by
      rw [hregister, List.map_map, List.map_map]
      simp only [Function.comp_def, sketch_dependOn, sketch_id]
    rw [hdepend, hsketches, h.dependOn_unreferred hfresh]
  · rw [hregister, List.map_map]
    exact hnodup

/-- A name contains no dash, so that ids with a dash are not names. -/
theorem WellFormed.fresh (h : c.WellFormed) (hinj : Function.Injective ids.name)
    (hdash : ∀ n, CodePoint.scalar '-' ∈ ids.name n) : ids.Fresh (c.nodes.map (·.id)) where
  injective := hinj
  apart := by
    intro n hn
    obtain ⟨m, hm, hid⟩ := List.mem_map.mp hn
    have hword := (h.nodes m hm).id_word (.scalar '-') (hid ▸ hdash n)
    revert hword
    decide +kernel

/-- Whatever the text, its chart is drawn: a container and its text for each node, then an arrow
for each edge and a text on it if the edge has a label. The shapes would pass as descriptors, no id
is used twice, and every arrow ends at elements that are there. -/
theorem compile_sketches (definition : Text) {ids : IdSupply}
    (hinj : Function.Injective ids.name) (hdash : ∀ n, CodePoint.scalar '-' ∈ ids.name n) :
    ∃ shapes es rest, (ofText definition).toShapes = .ok shapes ∧
      (∀ s ∈ shapes, ∀ index, Shape.ofDescriptor? index s.toJson = .ok (some s)) ∧
      compile definition ids = .ok (es, rest) ∧
      es.map Element.sketch = (ofText definition).sketches ids ∧
      (es.map (·.id)).Nodup ∧
      ∀ e ∈ es, ∀ id ∈ e.attachments, id ∈ es.map (·.id) := by
  have hwf := ofText_wellFormed definition
  obtain ⟨shapes, hshapes, hsketches, hnodup⟩ := hwf.compileShapes_sketches (hwf.fresh hinj hdash)
  refine ⟨shapes, (compileShapes shapes ids).1, (compileShapes shapes ids).2, hshapes, ?_, ?_,
    hsketches, hnodup, ?_⟩
  · obtain ⟨shapes', hshapes', hsound⟩ := isSound_of_toShapes hwf
    obtain rfl := Except.ok.inj (hshapes'.symm.trans hshapes)
    exact fun s hs => Shape.ofDescriptor?_toJson_of_isSound (hsound s hs)
  · rw [compile, hshapes]
    rfl
  · intro e he id hid
    have hmap : (compileShapes shapes ids).1.map (·.id) =
        ((ofText definition).sketches ids).map (·.id) := by
      rw [← hsketches, List.map_map]
      simp only [Function.comp_def, sketch_id]
    rw [hmap]
    refine hwf.closed_sketches (hsketches ▸ List.mem_map_of_mem he) ?_
    rwa [sketch_attachments]

deriving instance DecidableEq for Mention, Link

/-- A node with an arrow to itself that has a label. -/
def loop : Text := .ofString "A[Go]-->|x|A"

theorem ofText_loop :
    ofText loop =
      { nodes := [⟨.ofString "A", .ofString "Go", .known .rectangle⟩],
        edges := [⟨.ofString "A", .ofString "A", some (.ofString "x")⟩] } := by
  have hlines : (loop.lines.map Text.trim).filter (!·.isEmpty) = [loop] := by decide +kernel
  have hheader : header? loop = none := by decide +kernel
  have hdirective : isDirective loop = false := by decide +kernel
  have hmention : mention? loop =
      some (⟨.ofString "A", some (.rectangle, .ofString "Go")⟩, .ofString "-->|x|A") := by
    decide +kernel
  have hlink : link? (.ofString "-->|x|A") =
      some (⟨some (.ofString "x"), ⟨.ofString "A", none⟩⟩, []) := by
    decide +kernel
  have hend : link? [] = none := by decide +kernel
  have hlinks := links_of_some hlink
  rw [links_of_none hend] at hlinks
  have hcontribution : contribution loop =
      ⟨[⟨.ofString "A", .ofString "Go", .known .rectangle⟩,
        ⟨.ofString "A", .ofString "A", .known .rectangle⟩],
       [⟨.ofString "A", .ofString "A", some (.ofString "x")⟩]⟩ := by
    simp only [contribution, hdirective, hmention, hlinks]
    rfl
  simp only [ofText, hlines, hheader, ofLines, List.flatMap_singleton, hcontribution]
  rfl

theorem compile_sketches_loop :
    ∃ shapes es rest, (ofText loop).toShapes = .ok shapes ∧
      (∀ s ∈ shapes, ∀ index, Shape.ofDescriptor? index s.toJson = .ok (some s)) ∧
      compile loop .numbered = .ok (es, rest) ∧
      es.map Element.sketch =
        [{ id := .ofString "A", type := .ofString "rectangle",
           dependents := [⟨false, .ofString "gen-1"⟩, ⟨true, .ofString "gen-2"⟩] },
         { id := .ofString "gen-1", type := .ofString "text", text := some (.ofString "Go"),
           containerId := some (.ofString "A") },
         { id := .ofString "gen-2", type := .ofString "arrow",
           startBinding := some (.ofString "A"), endBinding := some (.ofString "A"),
           dependents := [⟨false, .ofString "gen-3"⟩] },
         { id := .ofString "gen-3", type := .ofString "text", text := some (.ofString "x"),
           containerId := some (.ofString "gen-2") }] ∧
      (es.map (·.id)).Nodup ∧
      ∀ e ∈ es, ∀ id ∈ e.attachments, id ∈ es.map (·.id) := by
  have h := compile_sketches loop IdSupply.numbered_injective IdSupply.dash_mem_numbered
  obtain ⟨shapes, es, rest, hshapes, haccepted, hcompile, hsketches, hrest⟩ := h
  rw [ofText_loop] at hsketches
  exact ⟨shapes, es, rest, hshapes, haccepted, hcompile, hsketches.trans (by decide +kernel), hrest⟩

end Flowchart

end Easel
