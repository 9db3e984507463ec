import Mathlib.Data.List.Nodup
import Easel.Proofs.Element.Written
import Easel.Proofs.Flowchart.Compile
import Easel.Proofs.Gateway.Posts
import Easel.Proofs.Scene.Updates

/-! The ids in a scene to which diagrams are added one after the other. Nodes have their names as
ids and all else gets new ids, so that ids repeat where diagrams share a name and only there. -/
namespace Easel

namespace Flowchart

/-- The names of the nodes that a text describes. -/
def names (definition : Text) : List Text := (ofText definition).nodes.map (·.id)

theorem nodup_names (definition : Text) : (names definition).Nodup :=
  (ofText_wellFormed definition).ids_nodup

/-- The ids of a diagram are the names of its nodes and those that are issued next. -/
theorem ids_compile (definition : Text) (ids : IdSupply) :
    ∃ es k, compile definition ids = .ok (es, ids.skip k) ∧
      (es.map (·.id)).Perm (names definition ++ ids.upcoming k) := by
  obtain ⟨shapes, hshapes, hgiven, -⟩ := (ofText_wellFormed definition).elementsOf_toShapes ids
  obtain ⟨k, hrest, hperm⟩ := ids_elementsOf shapes ids
  refine ⟨registerArrows (elementsOf shapes ids).1, k, ?_, ?_⟩
  · rw [compile, hshapes, ← hrest]
    rfl
  · rwa [ids_of_extends (extends_registerArrows _), names, ← hgiven]

/-- Ids with a dash are new to all diagrams, as no name has one. -/
theorem fresh_names {ids : IdSupply} (hinj : Function.Injective ids.name)
    (hdash : ∀ n, CodePoint.scalar '-' ∈ ids.name n) (definitions : List Text) :
    ids.Fresh (definitions.flatMap names) where
  injective := hinj
  apart n hn := by
    obtain ⟨definition, -, hn⟩ := List.mem_flatMap.mp hn
    exact ((ofText_wellFormed definition).fresh hinj hdash).apart n hn

end Flowchart

/-- What is under `id` in each element of a scene. -/
def Scene.ids (s : Scene) : List (Option Json) := s.elements.map (·.get? "id")

/-- The ids of a scene are texts. -/
def Scene.HasIds (s : Scene) (ids : List Text) : Prop :=
  s.ids = ids.map fun id => some (.string id)

theorem Scene.HasIds.nodup_iff {s : Scene} {ids : List Text} (h : s.HasIds ids) :
    s.ids.Nodup ↔ ids.Nodup := by
  rw [h]
  refine List.nodup_map_iff fun i j hij => ?_
  exact Json.string.inj (Option.some.inj hij)

theorem get?_id_toJson (e : Element) (stamp : Stamp) :
    (e.toJson stamp).get? "id" = some (.string e.id) := by
  rw [Element.toJson, List.cons_append, Json.get?_record_cons, if_pos rfl]

theorem Scene.HasIds.append {s : Scene} {ids : List Text} (h : s.HasIds ids) (stamps : Stamps)
    (es : List Element) : (s.append (stamps.write es)).HasIds (ids ++ es.map (·.id)) := by
  have hdrawn : (stamps.write es).map (·.get? "id") =
      (es.map (·.id)).map fun id => some (.string id) := by
    refine List.ext_getElem? fun i => ?_
    simp [Stamps.write, get?_id_toJson, Function.comp_def]
  rw [HasIds, List.map_append, ← h, ← hdrawn]
  exact List.map_append

/-- A request to add the diagram of a text to the scene. -/
structure Request.Adds (room : Nat) (r : Request) (definition : Text) : Prop where
  posts : r.Posts "/api/draw/mermaid"
  body : ∃ fields : Fields, Json.ofBytes room r.body = .ok (.object fields) ∧
    fields.get? "definition" = some (.string definition) ∧ Appends fields true

theorem readBody_of_adds {r : Request} {definition : Text} {room : Nat} (h : r.Adds room definition)
    {ids rest : IdSupply} (stamps : Stamps) {es : List Element}
    (hc : Flowchart.compile definition ids = .ok (es, rest)) :
    (readBody room r.body >>= Drawing.ofDefinitionBody none ids stamps) =
      .ok ⟨stamps.write es, rest, true⟩ := by
  obtain ⟨fields, hbody, hdefinition, happend⟩ := h.body
  have hdiagram : Diagram.compile none definition ids stamps = .ok (stamps.write es, rest) := by
    simp only [Diagram.compile, Diagram.converted?, Diagram.attempt, Option.map_none, hc]
    rfl
  have hdrawing : Drawing.ofDefinition none ids stamps definition true =
      .ok ⟨stamps.write es, rest, true⟩ := by
    rw [Drawing.ofDefinition, hdiagram]
  have hfields : Drawing.ofDefinitionBody none ids stamps fields =
      .ok ⟨stamps.write es, rest, true⟩ := by
    simp only [Drawing.ofDefinitionBody, hdefinition, appendFlag_of_appends happend]
    exact hdrawing
  rw [readBody_of_object hbody]
  exact hfields

namespace Gateway

variable {g : Gateway}

/-- Diagrams can be added: there is no converter, and the scene can be told. -/
structure DrawsCharts (g : Gateway) : Prop where
  converter : g.converter = none
  told : ∃ t, g.hub.scene.updateMessage g.limits.drawing = .ok t

/-- A diagram is added behind what is there, with new ids for all but its nodes. -/
theorem answer_of_adds {r : Request} {definition : Text} (hg : g.DrawsCharts)
    (hr : r.Adds g.limits.body definition) :
    ∃ (es : List Element) (k : Nat), (g.answer r).2.status = 200 ∧ (g.answer r).1.DrawsCharts ∧
      (g.answer r).1.limits = g.limits ∧ (g.answer r).1.ids = g.ids.skip k ∧
      (g.answer r).1.hub.scene = g.hub.scene.append ((g.stamps 0).write es) ∧
      (es.map (·.id)).Perm (Flowchart.names definition ++ g.ids.upcoming k) := by
  obtain ⟨es, k, hcompile, hperm⟩ := Flowchart.ids_compile definition g.ids
  have hfits := (g.stamps 0).fits_write (Flowchart.isShort_of_mem_compile hcompile)
  obtain ⟨t, ht⟩ := Scene.exists_updateMessage_append g.limits.roomy.1 hg.told hfits
  have hdraw : g.drawMermaid r.body =
      g.carryOut ⟨(g.stamps 0).write es, g.ids.skip k, true⟩ [] := by
    rw [drawMermaid, hg.converter, readBody_of_adds hr _ hcompile]
  have hdrawn : g.drawn ⟨(g.stamps 0).write es, g.ids.skip k, true⟩ =
      g.hub.scene.append ((g.stamps 0).write es) := rfl
  rw [answer_of_posted hr.posts rfl rfl, hdraw, carryOut_eq, hdrawn, Hub.put_eq_ok ht]
  exact ⟨es, k, rfl, ⟨hg.converter, t, ht⟩, rfl, rfl, rfl, hperm⟩

/-- Answers requests one after the other. -/
def answerAll (g : Gateway) : List Request → Gateway × List Response
  | [] => (g, [])
  | r :: rs =>
    let (g, a) := g.answer r
    let (g, as) := g.answerAll rs
    (g, a :: as)

theorem answerAll_cons (g : Gateway) (r : Request) (rs : List Request) :
    g.answerAll (r :: rs) =
      (((g.answer r).1.answerAll rs).1, (g.answer r).2 :: ((g.answer r).1.answerAll rs).2) := rfl

/-- After diagrams have been added the scene has the old ids, the names of all nodes, and those ids
that have been issued since. -/
theorem answerAll_of_adds (hg : g.DrawsCharts) {rs : List Request} {definitions : List Text}
    (hrs : List.Forall₂ (Request.Adds g.limits.body) rs definitions) {old : List Text}
    (hold : g.hub.scene.HasIds old) :
    ∃ new k, (∀ a ∈ (g.answerAll rs).2, a.status = 200) ∧
      (g.answerAll rs).1.hub.scene.HasIds (old ++ new) ∧
      new.Perm (definitions.flatMap Flowchart.names ++ g.ids.upcoming k) := by
  -- each answer leaves the limits as they were, so the next request is read as the first one was
  generalize hroom : g.limits.body = room at hrs
  induction hrs generalizing g old with
  | nil => exact ⟨[], 0, by simp [answerAll], by simpa [answerAll] using hold, .refl _⟩
  | @cons r definition rs definitions hr _ ih =>
    obtain ⟨es, j, hok, hdraws, hlimits, hids, hscene, hperm⟩ := answer_of_adds hg (hroom ▸ hr)
    obtain ⟨new, k, hall, hnew, hlater⟩ :=
      ih hdraws (hscene ▸ hold.append (g.stamps 0) es) (hlimits ▸ hroom)
    refine ⟨es.map (·.id) ++ new, j + k, ?_, ?_, ?_⟩
    · rw [answerAll_cons]
      exact List.forall_mem_cons.mpr ⟨hok, hall⟩
    · rwa [answerAll_cons, ← List.append_assoc]
    · rw [List.flatMap_cons, IdSupply.upcoming_add, ← hids]
      -- the ids issued for the first diagram move behind the names of the later ones
      have hboth := hperm.append hlater
      refine hboth.trans ?_
      simp only [List.append_assoc]
      exact (List.perm_append_comm_assoc _ _ _).append_left _

theorem nodup_names_and_upcoming {ids : IdSupply} {definitions : List Text}
    (hfresh : ids.Fresh (definitions.flatMap Flowchart.names)) (k : Nat) :
    (definitions.flatMap Flowchart.names ++ ids.upcoming k).Nodup ↔
      definitions.Pairwise fun d d' => (Flowchart.names d).Disjoint (Flowchart.names d') := by
  have hapart : (definitions.flatMap Flowchart.names).Disjoint (ids.upcoming k) := by
    intro id hname hnew
    obtain ⟨j, -, rfl⟩ := List.mem_map.mp hnew
    exact hfresh.apart _ hname
  constructor
  · intro h
    exact (List.nodup_flatMap.mp (List.nodup_append'.mp h).1).2
  · intro h
    have hnames := List.nodup_flatMap.mpr ⟨fun d _ => Flowchart.nodup_names d, h⟩
    exact List.nodup_append'.mpr ⟨hnames, IdSupply.nodup_upcoming hfresh.injective k, hapart⟩

/-- Diagrams can always be added to the empty scene, and then no id is in the scene twice if and
only if no two of the diagrams share the name of a node. -/
theorem nodup_ids_iff_disjoint_names (hg : g.DrawsCharts) (hempty : g.hub.scene.elements = [])
    {rs : List Request} {definitions : List Text}
    (hrs : List.Forall₂ (Request.Adds g.limits.body) rs definitions)
    (hfresh : g.ids.Fresh (definitions.flatMap Flowchart.names)) :
    (∀ a ∈ (g.answerAll rs).2, a.status = 200) ∧
    ((g.answerAll rs).1.hub.scene.ids.Nodup ↔
      definitions.Pairwise fun d d' => (Flowchart.names d).Disjoint (Flowchart.names d')) := by
  have hold : g.hub.scene.HasIds [] := by
    rw [Scene.HasIds, Scene.ids, hempty]
    rfl
  obtain ⟨new, k, hall, hids, hperm⟩ := answerAll_of_adds hg hrs hold
  refine ⟨hall, ?_⟩
  rw [hids.nodup_iff, List.nil_append, hperm.nodup_iff]
  exact nodup_names_and_upcoming hfresh k

def boxDefinition : Text := .ofString "A[a]"

def boxRequest : Request :=
  { method := "POST", path := "/api/draw/mermaid", arrival := "",
    body := "\x7b\"definition\": \"A[a]\"\x7d".toUTF8.toList }

def linkDefinition : Text := .ofString "B-->C"

def linkRequest : Request :=
  { method := "POST", path := "/api/draw/mermaid", arrival := "",
    body := "\x7b\"definition\": \"B-->C\", \"append\": true\x7d".toUTF8.toList }

theorem adds_boxRequest : boxRequest.Adds Limits.usual.body boxDefinition :=
  ⟨⟨rfl, rfl⟩, [(.ofString "definition", .string boxDefinition)], by with_unfolding_all rfl, rfl,
    .inr ⟨rfl, rfl⟩⟩

theorem adds_linkRequest : linkRequest.Adds Limits.usual.body linkDefinition :=
  ⟨⟨rfl, rfl⟩, [(.ofString "definition", .string linkDefinition), (.ofString "append", .bool true)],
    by with_unfolding_all rfl, rfl, .inl rfl⟩

theorem names_boxDefinition : Flowchart.names boxDefinition = [.ofString "A"] := by decide +kernel

theorem names_linkDefinition :
    Flowchart.names linkDefinition = [.ofString "B", .ofString "C"] := by
  decide +kernel

theorem drawsCharts_default : ({} : Gateway).DrawsCharts := ⟨rfl, _, rfl⟩

theorem nodup_ids_box_link :
    (∀ a ∈ (({} : Gateway).answerAll [boxRequest, linkRequest]).2, a.status = 200) ∧
    (({} : Gateway).answerAll [boxRequest, linkRequest]).1.hub.scene.ids.Nodup := by
  have hfresh := Flowchart.fresh_names IdSupply.numbered_injective IdSupply.dash_mem_numbered
    [boxDefinition, linkDefinition]
  have hapart : (Flowchart.names boxDefinition).Disjoint (Flowchart.names linkDefinition) := by
    rw [List.disjoint_iff_ne, names_boxDefinition, names_linkDefinition]
    decide +kernel
  obtain ⟨hall, hiff⟩ := nodup_ids_iff_disjoint_names drawsCharts_default rfl
    (.cons adds_boxRequest (.cons adds_linkRequest .nil)) hfresh
  exact ⟨hall, hiff.mpr (by simpa using hapart)⟩

/-- A diagram that is added twice has its names in the scene twice. -/
theorem repeated_ids_box :
    (∀ a ∈ (({} : Gateway).answerAll [boxRequest, boxRequest]).2, a.status = 200) ∧
    List.Forall₂ (Request.Adds Limits.usual.body) [boxRequest, boxRequest]
      [boxDefinition, boxDefinition] ∧
    IdSupply.numbered.Fresh ([boxDefinition, boxDefinition].flatMap Flowchart.names) ∧
    ¬ (({} : Gateway).answerAll [boxRequest, boxRequest]).1.hub.scene.ids.Nodup := by
  have hfresh := Flowchart.fresh_names IdSupply.numbered_injective IdSupply.dash_mem_numbered
    [boxDefinition, boxDefinition]
  have hadds : List.Forall₂ (Request.Adds Limits.usual.body) [boxRequest, boxRequest]
      [boxDefinition, boxDefinition] := .cons adds_boxRequest (.cons adds_boxRequest .nil)
  have hold : ({} : Gateway).hub.scene.HasIds [] := rfl
  obtain ⟨new, k, hall, hids, hperm⟩ := answerAll_of_adds drawsCharts_default hadds hold
  refine ⟨hall, hadds, hfresh, ?_⟩
  rw [hids.nodup_iff, List.nil_append, hperm.nodup_iff, nodup_names_and_upcoming hfresh]
  simp [names_boxDefinition]

end Gateway
end Easel
