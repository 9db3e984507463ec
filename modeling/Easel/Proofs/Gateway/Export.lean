import Easel.Proofs.Element.Written
import Easel.Proofs.Gateway.Pushes

/-! Showing the scene: a response holds it if all that has been put into it has an encoding and goes
down no further than the writer can follow. What is taken in is not looked at for that, so that a
scene can be stored that cannot be shown. -/
namespace Easel

theorem Scene.isShown_toJson {s : Scene} {room : Nat} :
    s.toJson.IsShown (room + 1) ↔
      (Json.array s.elements).IsShown room ∧ (Json.object s.appState).IsShown room := by
  have hencodable : s.toJson.isEncodable = true ↔ (Json.array s.elements).isEncodable = true ∧
      (Json.object s.appState).isEncodable = true := by
    simp only [toJson, Json.isEncodable_record, List.all_cons, List.all_nil, Bool.and_true,
      Bool.and_eq_true]
  have hfits : s.toJson.Fits (room + 1) ↔
      (Json.array s.elements).Fits room ∧ (Json.object s.appState).Fits room := by
    simp only [toJson, Json.fits_record, List.forall_mem_cons, List.not_mem_nil, false_implies,
      implies_true, and_true]
  constructor
  · rintro ⟨he, hf⟩
    exact ⟨⟨(hencodable.mp he).1, (hfits.mp hf).1⟩, ⟨(hencodable.mp he).2, (hfits.mp hf).2⟩⟩
  · rintro ⟨helements, hview⟩
    exact ⟨hencodable.mpr ⟨helements.encodable, hview.encodable⟩,
      hfits.mpr ⟨helements.fits, hview.fits⟩⟩

/-- A value that is given can be shown, and so can the defaults. -/
theorem MayGive.isShown {α : Type} {fields : Fields} {key : String} {value : α → Json}
    {x default : α} {room : Nat} (h : MayGive fields key value x default)
    (hdefault : (value default).IsShown room)
    (hgiven : ∀ v, fields.get? key = some v → v.IsShown room) : (value x).IsShown room := by
  rcases h with h | ⟨-, rfl⟩
  · exact hgiven _ h
  · exact hdefault

/-- Both parts of a scene in a body can be shown, as far as they are there. -/
def PartsShown (room : Nat) (fields : Fields) : Prop :=
  ∀ key v, key = "elements" ∨ key = "appState" → fields.get? key = some v → v.IsShown room

/-- A scene can be shown if what it is made of can be. -/
theorem GivesScene.isShown {fields : Fields} {s : Scene} {room : Nat} (h : GivesScene fields s)
    (hparts : PartsShown (room + 1) fields) : s.toJson.IsShown (room + 2) := by
  rw [Scene.isShown_toJson]
  exact ⟨h.elements.isShown ⟨rfl, rfl⟩ fun v => hparts _ v (.inl rfl),
    h.appState.isShown ⟨rfl, rfl⟩ fun v => hparts _ v (.inr rfl)⟩

/-- A request that reads from a path. -/
structure Request.Reads (r : Request) (path : String) : Prop where
  method : r.method = "GET"
  path : r.path = path

namespace Gateway

variable {g g' : Gateway} {r : Request} {room : Nat}

/-- The elements of these descriptors can be shown. -/
def ShapesShown (g : Gateway) (raws : List Json) : Prop :=
  ∀ es rest, compileDescriptors raws g.ids = .ok (es, rest) → ∀ e ∈ es, e.IsShown

/-- The elements of this diagram can be shown, wherever they come from. -/
def DiagramShown (g : Gateway) (definition : Text) : Prop :=
  match Diagram.converted? g.converter definition with
  | some items => ∀ v ∈ (ensureIds items g.ids).1, v.IsShown (g.limits.showing - 2)
  | none =>
    ∀ es rest, Flowchart.compile definition g.ids = .ok (es, rest) → ∀ e ∈ es, e.IsShown

/-- What a body for an endpoint puts into the scene can be shown. -/
def SuppliesShown (g : Gateway) (fields : Fields) : Endpoint → Prop
  | .draw => ∀ raws, fields.get? "elements" = some (.array raws) → g.ShapesShown raws
  | .drawMermaid => ∀ definition, fields.get? "definition" = some (.string definition) →
      g.DiagramShown definition
  | .auto =>
    (∀ raws, fields.get? "input" = some (.array raws) → g.ShapesShown raws) ∧
    ∀ definition, fields.get? "input" = some (.string definition) → g.DiagramShown definition
  | .replaceScene => PartsShown (g.limits.showing - 1) fields
  | .clear | .health | .exportScene => True

/-- If the request changes the scene, what it puts there can be shown. -/
def TakesShown (g : Gateway) (r : Request) : Prop :=
  (g.answer r).1.hub.scene ≠ g.hub.scene → ∀ e fields,
    destination r.method r.path = .endpoint e →
    Json.ofBytes g.limits.body r.body = .ok (.object fields) → g.SuppliesShown fields e

/-- If the frame changes the scene, what it puts there can be shown. -/
def HearsShown (g : Gateway) (client : Nat) (f : Frame) : Prop :=
  (g.receive client f).hub.scene ≠ g.hub.scene →
    ∀ payload, f.Carries payload → PartsShown (g.limits.showing - 1) payload

theorem exists_showing (g : Gateway) : ∃ room, g.limits.showing = room + 3 + 2 := by
  have hroomy := g.limits.roomy.2
  exact ⟨g.limits.showing - 5, by omega⟩

/-- The elements of shapes can be shown if their numbers, texts and fonts can. -/
theorem isShown_write {es : List Element} (h : ∀ e ∈ es, e.IsShown) :
    ∀ v ∈ (g.stamps 0).write es, v.IsShown (g.limits.showing - 2) := by
  obtain ⟨room, hroom⟩ := g.exists_showing
  intro v hv
  exact ((g.stamps 0).isShown_write h v hv).mono (by omega)

/-- What a diagram is compiled to can be shown if its texts can, or what the converter gives. -/
theorem isShown_of_diagramShown {definition : Text} {elements : List Json} {rest : IdSupply}
    (h : g.DiagramShown definition)
    (hc : Diagram.compile g.converter definition g.ids (g.stamps 0) = .ok (elements, rest)) :
    ∀ v ∈ elements, v.IsShown (g.limits.showing - 2) := by
  unfold DiagramShown at h
  unfold Diagram.compile at hc
  split at hc
  · rename_i items hitems
    rw [hitems] at h
    obtain rfl := congrArg Prod.fst (Except.ok.inj hc)
    exact h
  · rename_i hnone
    rw [hnone] at h
    obtain ⟨⟨es, rest'⟩, hes, hwritten⟩ := except_map_eq_ok.mp hc
    obtain rfl := congrArg Prod.fst hwritten
    exact isShown_write (h es rest' hes)

/-- Whichever way elements are described, they are checked before they are compiled. -/
theorem isShown_of_describes {path : String} {e : Endpoint} {fields : Fields} {elements : List Json}
    (hpath : (path, e) ∈
      [("/api/draw", .draw), ("/api/draw/mermaid", .drawMermaid), ("/api/auto", Endpoint.auto)])
    (h : g.SuppliesShown fields e) (hd : g.Describes fields path elements) :
    ∀ v ∈ elements, v.IsShown (g.limits.showing - 2) := by
  simp only [List.mem_cons, Prod.mk.injEq, List.not_mem_nil, or_false] at hpath
  cases hd with
  | @shapes raws es rest hf hc =>
    obtain rfl : e = .draw := by simpa using hpath
    exact isShown_write (h raws hf es rest hc)
  | diagram hf hc =>
    obtain rfl : e = .drawMermaid := by simpa using hpath
    exact isShown_of_diagramShown (h _ hf) hc
  | @inputShapes raws es rest hf hc =>
    obtain rfl : e = .auto := by simpa using hpath
    exact isShown_write (h.1 raws hf es rest hc)
  | inputDiagram hf hc =>
    obtain rfl : e = .auto := by simpa using hpath
    exact isShown_of_diagramShown (h.2 _ hf) hc

/-- Elements that are drawn stand beside those that were there, or in their place. -/
theorem isShown_of_draws {path : String} {e : Endpoint} {body : List UInt8} {c : Content}
    (hpath : (path, e) ∈
      [("/api/draw", .draw), ("/api/draw/mermaid", .drawMermaid), ("/api/auto", Endpoint.auto)])
    (h : g.Draws path body g' c) (hg : g.hub.scene.toJson.IsShown g.limits.showing)
    (htaken : ∀ fields, Json.ofBytes g.limits.body body = .ok (.object fields) →
      g.SuppliesShown fields e) :
    g'.hub.scene.toJson.IsShown g.limits.showing := by
  obtain ⟨fields, elements, append, hbody, hd, -, helements, -⟩ := h.drawn
  have hnew := isShown_of_describes hpath (htaken fields hbody) hd
  obtain ⟨room, hroom⟩ := g.exists_showing
  rw [hroom, Nat.add_sub_cancel] at hnew
  rw [hroom, Scene.isShown_toJson, Json.isShown_array] at hg ⊢
  rw [helements, h.appState]
  refine ⟨?_, hg.2⟩
  split
  · exact List.forall_mem_append.mpr ⟨hg.1, hnew⟩
  · exact hnew

theorem isShown_of_fulfils {e : Endpoint} {body : List UInt8} {c : Content}
    (h : g.Fulfils body e g' c) (hg : g.hub.scene.toJson.IsShown g.limits.showing)
    (htaken : ∀ fields, Json.ofBytes g.limits.body body = .ok (.object fields) →
      g.SuppliesShown fields e) :
    g'.hub.scene.toJson.IsShown g.limits.showing := by
  cases e with
  | draw | drawMermaid | auto => exact isShown_of_draws (by simp) h hg htaken
  | replaceScene =>
    obtain ⟨fields, hbody, hs⟩ := h.given
    obtain ⟨room, hroom⟩ := g.exists_showing
    have hparts : PartsShown (g.limits.showing - 1) fields := htaken fields hbody
    rw [hroom] at hparts ⊢
    exact hs.isShown hparts
  | clear =>
    have hempty : g'.hub.scene = {} := h
    obtain ⟨room, hroom⟩ := g.exists_showing
    rw [hempty, hroom]
    exact ⟨rfl, rfl⟩
  | health | exportScene =>
    have hsame : g' = g := h
    rwa [hsame]

/-- A request that changes the scene has been carried out, whether this has been told or not. -/
theorem fulfils_of_answer (g : Gateway) (r : Request) :
    (g.answer r).1.hub = g.hub ∨ ∃ e c, destination r.method r.path = .endpoint e ∧
      g.Fulfils r.body e (g.answer r).1 c := by
  cases g.answers_answer r with
  | idle hub _ => exact .inl hub
  | done post hdest _ _ fulfilled => exact .inr ⟨_, _, post ▸ hdest, fulfilled⟩
  | untold post hdest _ left =>
    obtain ⟨c, fulfilled⟩ := left.asked
    exact .inr ⟨_, c, post ▸ hdest, fulfilled⟩

/-- What a request preserves. -/
theorem isShown_of_answer (hg : g.hub.scene.toJson.IsShown g.limits.showing)
    (hr : g.TakesShown r) : (g.answer r).1.hub.scene.toJson.IsShown g.limits.showing := by
  by_cases hscene : (g.answer r).1.hub.scene = g.hub.scene
  · rwa [hscene]
  rcases g.fulfils_of_answer r with hsame | ⟨e, c, hdest, fulfilled⟩
  · exact (hscene (by rw [hsame])).elim
  · exact isShown_of_fulfils fulfilled hg fun fields => hr hscene e fields hdest

/-- What a frame preserves. -/
theorem isShown_of_receive {client : Nat} {f : Frame}
    (hg : g.hub.scene.toJson.IsShown g.limits.showing) (hf : g.HearsShown client f) :
    (g.receive client f).hub.scene.toJson.IsShown g.limits.showing := by
  by_cases hscene : (g.receive client f).hub.scene = g.hub.scene
  · rwa [hscene]
  rcases g.scene_receive client f with hsame | ⟨payload, hcarries, hpush⟩
  · exact (hscene hsame).elim
  · obtain ⟨room, hroom⟩ := g.exists_showing
    have hparts := hf hscene payload hcarries
    rw [hroom] at hparts ⊢
    exact (givesScene_of_pushedScene hpush).isShown hparts

theorem limits_answer (g : Gateway) (r : Request) : (g.answer r).1.limits = g.limits := by
  have hdispatch : (g.dispatch r).1.limits = g.limits := by
    unfold dispatch
    split
    · rfl
    · unfold draw
      split <;> rfl
    · unfold drawMermaid
      split <;> rfl
    · unfold auto
      split <;> rfl
    · rfl
    · unfold replaceScene
      split <;> rfl
    all_goals rfl
  unfold answer
  split
  · rfl
  · split <;> simp_all

/-- The states to which a gateway comes as long as all that is taken in can be shown. -/
inductive ReachableShown : Gateway → Prop where
  | start {scene : Scene} {limits : Limits} (hs : scene.toJson.IsShown limits.showing)
      (maxPending : Int) (ids : IdSupply) (stamps : Nat → Stamps) (converter : Option Converter)
      (cors : Cors) :
      ReachableShown ⟨Hub.start scene maxPending, ids, stamps, converter, cors, limits⟩
  | answered {g : Gateway} {r : Request} (hr : g.TakesShown r) :
      ReachableShown g → ReachableShown (g.answer r).1
  | connected {g : Gateway} (name : String) (transport : Transport) :
      ReachableShown g →
      ReachableShown { g with hub := (g.hub.subscribe name transport g.limits.greeting).1 }
  | received {g : Gateway} {client : Nat} {f : Frame} (hf : g.HearsShown client f) :
      ReachableShown g → ReachableShown (g.receive client f)
  | disconnected {g : Gateway} (client : Nat) :
      ReachableShown g → ReachableShown (g.disconnect client)
  | pumped {g : Gateway} (client : Nat) (outcome : Outcome) :
      ReachableShown g → ReachableShown { g with hub := g.hub.act (.pump client outcome) }

/-- These are states that the service can come to. -/
theorem ReachableShown.reachable (hg : g.ReachableShown) : g.Reachable := by
  induction hg with
  | start _ maxPending ids stamps converter cors =>
    exact .start _ maxPending ids stamps converter cors _
  | answered _ _ ih => exact .answered _ ih
  | connected name transport _ ih => exact .connected name transport ih
  | received _ _ ih => exact .received _ _ ih
  | disconnected client _ ih => exact .disconnected client ih
  | pumped client outcome _ ih => exact .pumped client outcome ih

/-- By induction on how the state has come about. -/
theorem ReachableShown.isShown (hg : g.ReachableShown) :
    g.hub.scene.toJson.IsShown g.limits.showing := by
  induction hg with
  | start hs => exact hs
  | @answered g r hr _ ih =>
    rw [limits_answer]
    exact isShown_of_answer ih hr
  | @connected g name transport _ ih =>
    have hscene := Hub.scene_act (h := g.hub) (a := .subscribe name transport g.limits.greeting)
    exact hscene.symm ▸ ih
  | @received g client f hf _ ih =>
    rw [limits_receive]
    exact isShown_of_receive ih hf
  | disconnected client _ ih => rwa [scene_disconnect]
  | @pumped g client outcome _ ih =>
    have hscene := Hub.scene_act (h := g.hub) (a := .pump client outcome)
    exact hscene.symm ▸ ih

/-- Asking for the scene changes nothing, and gives it if it can be shown and a fault if not. -/
theorem answer_of_reads (g : Gateway) (hr : r.Reads "/api/scene") :
    (g.answer r).1 = g ∧
    (g.hub.scene.toJson.IsShown g.limits.showing →
      (g.answer r).2.status = 200 ∧ (g.answer r).2.content = .json g.hub.scene.toJson) ∧
    (¬ g.hub.scene.toJson.IsShown g.limits.showing →
      (g.answer r).2.status = 500 ∧ (g.answer r).2.content = .text "Internal Server Error") := by
  have hpreflight : Cors.isPreflight r = false := by simp [Cors.isPreflight, hr.method]
  have hdispatch : g.dispatch r = (g, g.exportScene) := by
    have hdest : destination r.method r.path = .endpoint .exportScene := by
      rw [hr.method, hr.path]
      rfl
    rw [dispatch, hdest]
  by_cases hs : g.hub.scene.toJson.IsShown g.limits.showing
  · have hexport : g.exportScene = some ⟨200, .json g.hub.scene.toJson, []⟩ :=
      if_pos ⟨hs.encodable, hs.fits⟩
    simp [answer, hpreflight, hdispatch, hexport, hs]
  · have hexport : g.exportScene = none := if_neg fun h => hs ⟨h.1, h.2⟩
    simp [answer, hpreflight, hdispatch, hexport, hs]

/-- As long as all that is taken in can be shown, the scene can be shown as it is. -/
theorem exports_scene (hg : g.ReachableShown) (hr : r.Reads "/api/scene") :
    (g.answer r).1 = g ∧ (g.answer r).2.status = 200 ∧
      (g.answer r).2.content = .json (.record [("elements", .array g.hub.scene.elements),
        ("appState", .object g.hub.scene.appState)]) := by
  obtain ⟨hsame, hshown, -⟩ := g.answer_of_reads hr
  exact ⟨hsame, hshown hg.isShown⟩

def sceneRequest : Request := { method := "GET", path := "/api/scene", arrival := "" }

/-- The descriptors in `drawingRequest`. -/
def drawingDescriptors : List Json :=
  [.record [("type", .ofString "text"), ("text", .ofString "a")]]

theorem shapesShown_drawingDescriptors : ({} : Gateway).ShapesShown drawingDescriptors := by
  have hdrawn : (match compileDescriptors drawingDescriptors .numbered with
      | .ok r => r.1.all fun e => e.numbers.all Float.isFinite && e.texts.all Text.isEncodable &&
          e.integers.all fun k => decide ((digitsOf k.natAbs).length ≤ maxIntegerDigits)
      | .error _ => true) = true := by
    decide +kernel
  intro es rest hc e he
  have hcompiled : compileDescriptors drawingDescriptors .numbered = _ := hc
  rw [hcompiled, List.all_eq_true] at hdrawn
  have hall := hdrawn e he
  simp only [Bool.and_eq_true, List.all_eq_true, decide_eq_true_eq] at hall
  exact ⟨hall.1.1, hall.1.2, hall.2⟩

theorem takesShown_drawingRequest : ({} : Gateway).TakesShown drawingRequest := by
  intro _ e fields hdest hbody
  have hread : Json.ofBytes Limits.usual.body drawingRequest.body =
      .ok (.object [(.ofString "elements", .array drawingDescriptors)]) := by
    with_unfolding_all rfl
  obtain rfl := Json.object.inj (Except.ok.inj (hread.symm.trans hbody))
  obtain rfl : Endpoint.draw = e := Destination.endpoint.inj hdest
  intro raws hraws
  obtain rfl : drawingDescriptors = raws := Json.array.inj (Option.some.inj hraws)
  exact shapesShown_drawingDescriptors

theorem exports_scene_drawing :
    (({} : Gateway).answer drawingRequest).2.status = 200 ∧
    ((({} : Gateway).answer drawingRequest).1.answer sceneRequest).2.status = 200 := by
  have hempty : ({} : Scene).toJson.IsShown Limits.usual.showing := ⟨rfl, rfl⟩
  have hstart : ReachableShown {} := .start hempty 256 .numbered (fun _ => {}) none {}
  have hdrawn := ReachableShown.answered takesShown_drawingRequest hstart
  exact ⟨by decide +kernel, (exports_scene hdrawn ⟨rfl, rfl⟩).2.1⟩

/-- Half of a surrogate pair, as it stands at the end of a text that has been cut. -/
def halfRequest : Request :=
  { method := "POST", path := "/api/scene", arrival := "",
    body := "\x7b\"elements\": [\x7b\"text\": \"\\ud83d\"\x7d]\x7d".toUTF8.toList }

theorem unexportable_half :
    (({} : Gateway).answer halfRequest).2.status = 200 ∧
    (({} : Gateway).answer halfRequest).1.Reachable ∧
    sceneRequest.Reads "/api/scene" ∧
    ((({} : Gateway).answer halfRequest).1.answer sceneRequest).2.status = 500 :=
  ⟨by decide +kernel, .answered halfRequest (.start {} 256 .numbered (fun _ => {}) none {} {}),
    ⟨rfl, rfl⟩, by decide +kernel⟩

end Gateway

end Easel
