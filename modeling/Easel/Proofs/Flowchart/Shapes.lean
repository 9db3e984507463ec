import Mathlib.Data.List.Forall2
import Easel.Flowchart.Shapes
import Easel.Proofs.Flowchart.WellFormed

/-! Every well-formed chart has its shapes: a box for each node, and an arrow for each edge. -/
namespace Easel

/-- What succeeds for each item succeeds for the list. -/
theorem mapM_ok_of_forall {α β ε : Type} {f : α → Except ε β} {R : α → β → Prop} {xs : List α}
    (h : ∀ x ∈ xs, ∃ y, f x = .ok y ∧ R x y) :
    ∃ ys, xs.mapM f = .ok ys ∧ List.Forall₂ R xs ys := by
  induction xs with
  | nil => exact ⟨[], rfl, List.Forall₂.nil⟩
  | cons x xs ih =>
    obtain ⟨y, hy, hxy⟩ := h x List.mem_cons_self
    obtain ⟨ys, hys, hall⟩ := ih fun z hz => h z (List.mem_cons_of_mem x hz)
    refine ⟨y :: ys, ?_, List.Forall₂.cons hxy hall⟩
    rw [List.mapM_cons, hy, hys]
    rfl

namespace Flowchart

theorem length_slots (earlier rows : List Nat) : (slots earlier rows).length = rows.length := by
  induction rows generalizing earlier with
  | nil => rfl
  | cons row rows ih => rw [slots, List.length_cons, List.length_cons, ih]

theorem length_rows (c : Flowchart) : c.rows.length = c.nodes.length := by
  simp only [rows, List.length_map]

/-- Places are laid out in the order of the nodes, one for each. -/
theorem names_places (c : Flowchart) : c.places.map (·.1) = c.nodes.map (·.id) := by
  apply List.map_fst_zip
  simp only [List.length_map, List.length_zip, length_slots, length_rows, Nat.min_self, Nat.le_refl]

/-- A name that occurs among the places is found there. -/
theorem exists_placeIn? {places : List (Text × Place)} {id : Text} (h : id ∈ places.map (·.1)) :
    ∃ p, placeIn? places id = some p := by
  cases hp : placeIn? places id with
  | some p => exact ⟨p, rfl⟩
  | none =>
    obtain ⟨q, hq, rfl⟩ := List.mem_map.mp h
    have := List.lookup_eq_none_iff.mp hp q (List.mem_reverse.mpr hq)
    simp at this

theorem exists_place {c : Flowchart} {id : Text} (h : id ∈ c.nodes.map (·.id)) :
    ∃ p, placeIn? c.places id = some p := by
  apply exists_placeIn?
  rwa [names_places]

/-- The box of a node stands at the node's place. -/
def IsBox (c : Flowchart) (n : Node) (s : Shape) : Prop :=
  ∃ p, placeIn? c.places n.id = some p ∧ nodeShape n p = .ok s

/-- The arrow of an edge leads from the place of the source to that of the target. -/
def IsArrow (c : Flowchart) (e : Edge) (s : Shape) : Prop :=
  ∃ p q, placeIn? c.places e.source = some p ∧ placeIn? c.places e.target = some q ∧
    s = edgeShape c.horizontal e p q

/-- A well-formed node can be drawn wherever it is placed. -/
theorem nodeShape_of_wellFormed {n : Node} (h : n.WellFormed) (p : Place) :
    ∃ s, nodeShape n p = .ok s := by
  obtain ⟨kind, hkind⟩ := h.outline_known
  unfold nodeShape
  rw [hkind]
  exact ⟨_, rfl⟩

/-- A box goes by the name of its node and bears its label. -/
theorem IsBox.parts {c : Flowchart} {n : Node} {s : Shape} (h : c.IsBox n s) :
    ∃ kind a caption, n.outline = .known kind ∧ s = .container kind a caption ∧
      a.id = some n.id ∧ caption.label = some n.label := by
  obtain ⟨p, -, hs⟩ := h
  unfold nodeShape at hs
  cases hkind : n.outline with
  | unknown name =>
    rw [hkind] at hs
    cases hs
  | known kind =>
    rw [hkind] at hs
    exact ⟨kind, _, _, rfl, (Except.ok.inj hs).symm, rfl, rfl⟩

/-- An arrow has no id of its own, and is bound to the boxes at its two ends. -/
theorem IsArrow.parts {c : Flowchart} {e : Edge} {s : Shape} (h : c.IsArrow e s) :
    ∃ a caption connector, s = .arrow a caption connector ∧ a.id = none ∧
      caption.label = e.label ∧ connector.startBinding = some e.source ∧
      connector.endBinding = some e.target := by
  obtain ⟨p, q, -, -, rfl⟩ := h
  exact ⟨_, _, _, rfl, rfl, rfl, rfl, rfl⟩

/-- A well-formed chart is drawn: a box for each node, and then an arrow for each edge. -/
theorem toShapes_of_wellFormed {c : Flowchart} (h : c.WellFormed) :
    ∃ boxes arrows, c.toShapes = .ok (boxes ++ arrows) ∧
      List.Forall₂ c.IsBox c.nodes boxes ∧ List.Forall₂ c.IsArrow c.edges arrows := by
  unfold toShapes
  extract_lets places find
  have hfind : ∀ {id p}, placeIn? c.places id = some p → find id = .ok p := by
    intro id p hp
    simp only [find, places, hp]
  have hboxes : ∀ n ∈ c.nodes, ∃ s, (do nodeShape n (← find n.id)) = .ok s ∧ c.IsBox n s := by
    intro n hn
    obtain ⟨p, hp⟩ := exists_place (List.mem_map_of_mem (f := (·.id)) hn)
    obtain ⟨s, hs⟩ := nodeShape_of_wellFormed (h.nodes n hn) p
    refine ⟨s, ?_, p, hp, hs⟩
    rw [hfind hp]
    exact hs
  have harrows : ∀ e ∈ c.edges, ∃ s, (do
      let source ← find e.source
      let target ← find e.target
      return edgeShape c.horizontal e source target) = .ok s ∧ c.IsArrow e s := by
    intro e he
    obtain ⟨hs, ht⟩ := h.closed e he
    obtain ⟨p, hp⟩ := exists_place hs
    obtain ⟨q, hq⟩ := exists_place ht
    refine ⟨edgeShape c.horizontal e p q, ?_, p, q, hp, hq, rfl⟩
    rw [hfind hp, hfind hq]
    rfl
  obtain ⟨boxes, hbs, hb⟩ := mapM_ok_of_forall hboxes
  obtain ⟨arrows, has, ha⟩ := mapM_ok_of_forall harrows
  refine ⟨boxes, arrows, ?_, hb, ha⟩
  rw [hbs, has]
  rfl

end Flowchart

end Easel
