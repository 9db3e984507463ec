import Easel.Gateway.Basic
import Easel.Proofs.Element.Blocks
import Easel.Proofs.Result
import Easel.Proofs.Scene.Run

/-! What a request does: one that is refused changes nothing, and one that is carried out puts one
new scene for all clients. In between stands a request whose scene has been put when it turns out
that the message about it cannot be written. -/
namespace Easel

theorem RequestError.status_ne_ok (e : RequestError) : e.status ≠ 200 := by
  unfold status
  split
  · split <;> decide
  all_goals decide

theorem readBody_eq_ok {room : Nat} {body : List UInt8} {fields : Fields}
    (h : readBody room body = .ok fields) : Json.ofBytes room body = .ok (.object fields) := by
  unfold readBody at h
  split at h
  · cases h
  · cases h
    assumption
  · cases h

/-- Whether a body asks for new elements to be added to the old ones: unless it denies it. -/
def Appends (fields : Fields) (append : Bool) : Prop :=
  fields.get? "append" = some (.bool append) ∨ fields.get? "append" = none ∧ append = true

theorem appends_of_appendFlag {fields : Fields} {append : Bool}
    (h : appendFlag fields = .ok append) : Appends fields append := by
  unfold appendFlag at h
  split at h
  · cases h
    exact .inr ⟨‹_›, rfl⟩
  · cases h
    exact .inl ‹_›
  · cases h

theorem appendFlag_of_appends {fields : Fields} {append : Bool} (h : Appends fields append) :
    appendFlag fields = .ok append := by
  unfold appendFlag
  rcases h with h | ⟨h, rfl⟩ <;> rw [h]

/-- The elements that the body of a request to a path for drawing describes. -/
inductive Gateway.Describes (g : Gateway) (fields : Fields) : String → List Json → Prop where
  | shapes {raws : List Json} {es : List Element} {rest : IdSupply}
      (hf : fields.get? "elements" = some (.array raws))
      (hc : compileDescriptors raws g.ids = .ok (es, rest)) :
      Describes g fields "/api/draw" ((g.stamps 0).write es)
  | diagram {definition : Text} {elements : List Json} {rest : IdSupply}
      (hf : fields.get? "definition" = some (.string definition))
      (hc : Diagram.compile g.converter definition g.ids (g.stamps 0) = .ok (elements, rest)) :
      Describes g fields "/api/draw/mermaid" elements
  | inputShapes {raws : List Json} {es : List Element} {rest : IdSupply}
      (hf : fields.get? "input" = some (.array raws))
      (hc : compileDescriptors raws g.ids = .ok (es, rest)) :
      Describes g fields "/api/auto" ((g.stamps 0).write es)
  | inputDiagram {definition : Text} {elements : List Json} {rest : IdSupply}
      (hf : fields.get? "input" = some (.string definition))
      (hc : Diagram.compile g.converter definition g.ids (g.stamps 0) = .ok (elements, rest)) :
      Describes g fields "/api/auto" elements

namespace Drawing

variable {ids : IdSupply} {stamps : Stamps} {converter : Option Converter} {fields : Fields}
  {append : Bool} {d : Drawing}

theorem ofShapes_eq_ok {raws : List Json} (h : ofShapes ids stamps raws append = .ok d) :
    ∃ es rest, compileDescriptors raws ids = .ok (es, rest) ∧
      d = ⟨stamps.write es, rest, append⟩ := by
  unfold ofShapes at h
  split at h
  · cases h
  · rename_i es rest hc
    cases h
    exact ⟨es, rest, hc, rfl⟩

theorem ofDefinition_eq_ok {definition : Text}
    (h : ofDefinition converter ids stamps definition append = .ok d) :
    ∃ elements rest, Diagram.compile converter definition ids stamps = .ok (elements, rest) ∧
      d = ⟨elements, rest, append⟩ := by
  unfold ofDefinition at h
  split at h
  · cases h
  · rename_i elements rest hc
    cases h
    exact ⟨elements, rest, hc, rfl⟩

end Drawing

namespace Gateway

variable {g : Gateway} {fields : Fields} {d : Drawing}

theorem describes_ofElementsBody (h : Drawing.ofElementsBody g.ids (g.stamps 0) fields = .ok d) :
    g.Describes fields "/api/draw" d.elements ∧ Appends fields d.append := by
  unfold Drawing.ofElementsBody at h
  split at h
  · rename_i raws hf
    obtain ⟨append, happend, h⟩ := bind_eq_ok h
    obtain ⟨es, rest, hc, rfl⟩ := Drawing.ofShapes_eq_ok h
    exact ⟨.shapes hf hc, appends_of_appendFlag happend⟩
  · cases h

theorem describes_ofDefinitionBody
    (h : Drawing.ofDefinitionBody g.converter g.ids (g.stamps 0) fields = .ok d) :
    g.Describes fields "/api/draw/mermaid" d.elements ∧ Appends fields d.append := by
  unfold Drawing.ofDefinitionBody at h
  split at h
  · rename_i definition hf
    obtain ⟨append, happend, h⟩ := bind_eq_ok h
    obtain ⟨elements, rest, hc, rfl⟩ := Drawing.ofDefinition_eq_ok h
    exact ⟨.diagram hf hc, appends_of_appendFlag happend⟩
  · cases h

theorem describes_ofInputBody {format : String}
    (h : Drawing.ofInputBody g.converter g.ids (g.stamps 0) fields = .ok (d, format)) :
    g.Describes fields "/api/auto" d.elements ∧ Appends fields d.append := by
  unfold Drawing.ofInputBody at h
  obtain ⟨append, happend, h⟩ := bind_eq_ok h
  have hflag := appends_of_appendFlag happend
  split at h
  · rename_i definition hf
    obtain ⟨d', hd, h⟩ := bind_eq_ok h
    cases h
    obtain ⟨elements, rest, hc, rfl⟩ := Drawing.ofDefinition_eq_ok hd
    exact ⟨.inputDiagram hf hc, hflag⟩
  · rename_i raws hf
    obtain ⟨d', hd, h⟩ := bind_eq_ok h
    cases h
    obtain ⟨es, rest, hc, rfl⟩ := Drawing.ofShapes_eq_ok hd
    exact ⟨.inputShapes hf hc, hflag⟩
  · cases h

end Gateway

/-- A body gives a value under a key, or the default where the key is missing or null. -/
def MayGive {α : Type} (fields : Fields) (key : String) (value : α → Json) (x default : α) : Prop :=
  fields.get? key = some (value x) ∨
  (fields.get? key = none ∨ fields.get? key = some .null) ∧ x = default

/-- The scene that a body gives. -/
structure GivesScene (fields : Fields) (s : Scene) : Prop where
  elements : MayGive fields "elements" .array s.elements []
  appState : MayGive fields "appState" .object s.appState []

/-- Reading a scene from a body is reading its elements and then its view. -/
theorem ofBody_eq (fields : Fields) :
    Scene.ofBody fields =
      (match fields.get? "elements" with
        | none | some .null => .ok []
        | some (.array elements) => .ok elements
        | some _ => .error .badSceneElements) >>= fun elements =>
      match fields.get? "appState" with
        | none | some .null => .ok (.ofParts elements none)
        | some (.object state) => .ok (.ofParts elements (some state))
        | some _ => .error .badAppState := by
  unfold Scene.ofBody
  cases fields.get? "elements" with
  | none => rfl
  | some v => cases v <;> rfl

theorem givesScene_ofBody {fields : Fields} {s : Scene} (h : Scene.ofBody fields = .ok s) :
    GivesScene fields s := by
  rw [ofBody_eq] at h
  obtain ⟨elements, helements, hview⟩ := bind_eq_ok h
  have hgiven : MayGive fields "elements" .array elements [] := by
    split at helements
    · cases helements
      exact .inr ⟨.inl ‹_›, rfl⟩
    · cases helements
      exact .inr ⟨.inr ‹_›, rfl⟩
    · cases helements
      exact .inl ‹_›
    · cases helements
  split at hview
  · cases hview
    exact ⟨hgiven, .inr ⟨.inl ‹_›, rfl⟩⟩
  · cases hview
    exact ⟨hgiven, .inr ⟨.inr ‹_›, rfl⟩⟩
  · cases hview
    exact ⟨hgiven, .inl ‹_›⟩
  · cases hview

theorem ofBody_eq_ok_iff {fields : Fields} {s : Scene} :
    Scene.ofBody fields = .ok s ↔ GivesScene fields s := by
  refine ⟨givesScene_ofBody, fun h => ?_⟩
  obtain ⟨elements, appState⟩ := s
  obtain ⟨helements, hview⟩ := h
  rw [ofBody_eq]
  rcases helements with he | ⟨he | he, hnil⟩ <;> rcases hview with hv | ⟨hv | hv, hnone⟩ <;>
    simp_all [bind, Except.bind, Scene.ofParts]

/-- What a scene is written as gives this scene. -/
theorem Scene.givesScene_toJson (s : Scene) :
    ∃ fields : Fields, s.toJson = .object fields ∧
      fields.get? "elements" = some (.array s.elements) ∧
      fields.get? "appState" = some (.object s.appState) :=
  ⟨_, rfl, by simp [Fields.get?], by simp [Fields.get?, Text.ofString]⟩

theorem Json.get?_record_cons (k key : String) (v : Json) (rest : List (String × Json)) :
    (Json.record ((k, v) :: rest)).get? key =
      if k = key then some v else (Json.record rest).get? key := by
  by_cases hk : k = key
  · simp [record, get?, Fields.get?, hk]
  · have hne : Text.ofString k ≠ Text.ofString key := fun h => hk (Text.ofString_injective h)
    simp [record, get?, Fields.get?, hk, hne]

/-- What a response says under a key. -/
def Content.field? (c : Content) (key : String) : Option Json :=
  match c with
  | .json v => v.get? key
  | .text _ => none

/-- That a response gives a number under a key. -/
def Content.Counts (c : Content) (key : String) (n : Nat) : Prop :=
  c.field? key = some (.int (Int.ofNat n))

namespace Gateway

variable {g g' : Gateway} {c : Content} {path : String} {body : List UInt8} {fields : Fields}
  {e : Endpoint}

/-- What a request to a path for drawing does if it is carried out, and what is said about it. -/
structure Draws (g : Gateway) (path : String) (body : List UInt8) (g' : Gateway) (c : Content) :
    Prop where
  drawn : ∃ fields elements append, Json.ofBytes g.limits.body body = .ok (.object fields) ∧
    g.Describes fields path elements ∧ Appends fields append ∧
    g'.hub.scene.elements = (if append then g.hub.scene.elements ++ elements else elements) ∧
    c.Counts "elementsAdded" elements.length
  appState : g'.hub.scene.appState = g.hub.scene.appState
  total : c.Counts "totalElements" g'.hub.scene.elements.length

/-- What a request to replace the scene does if it is carried out. -/
structure Replaces (g : Gateway) (body : List UInt8) (g' : Gateway) (c : Content) : Prop where
  given : ∃ fields, Json.ofBytes g.limits.body body = .ok (.object fields) ∧
    GivesScene fields g'.hub.scene
  total : c.Counts "totalElements" g'.hub.scene.elements.length

/-- What a request to an endpoint does if it is carried out. -/
def Fulfils (g : Gateway) (body : List UInt8) : Endpoint → Gateway → Content → Prop
  | .draw => g.Draws "/api/draw" body
  | .drawMermaid => g.Draws "/api/draw/mermaid" body
  | .auto => g.Draws "/api/auto" body
  | .replaceScene => g.Replaces body
  | .clear => fun g' _ => g'.hub.scene = {}
  | .health | .exportScene => fun g' _ => g' = g

/-- The room for the message about the scene that an endpoint puts, if it puts one. -/
def telling? (g : Gateway) : Endpoint → Option Nat
  | .draw | .drawMermaid | .auto => some g.limits.drawing
  | .replaceScene => some g.limits.replacing
  | .clear => some g.limits.clearing
  | .health | .exportScene => none

/-- A new scene has been put for all clients, and they have been told. -/
def Tells (g : Gateway) (e : Endpoint) (h : Hub) : Prop :=
  ∃ room t, g.telling? e = some room ∧ h.scene.updateMessage room = .ok t ∧
    h = ({ g.hub with scene := h.scene }.tell t none).1

/-- A scene has been put as the body asks, but the message about it cannot be written: nobody has
been told, and all clients are as they were. -/
structure LeavesUntold (g : Gateway) (body : List UInt8) (e : Endpoint) (g' : Gateway) : Prop where
  unwritable : ∃ room limit, g.telling? e = some room ∧
    g'.hub.scene.updateMessage room = .error limit
  hub : g'.hub = { g.hub with scene := g'.hub.scene }
  asked : ∃ c, g.Fulfils body e g' c

/-- The outcome of a request to change the scene. -/
inductive Settles (g : Gateway) (body : List UInt8) (e : Endpoint) : Gateway × Response → Prop where
  | refused (why : RequestError) : Settles g body e (g, failed why)
  | done {x : Gateway × Response} (ok : x.2.status = 200) (told : g.Tells e x.1.hub)
      (fulfilled : g.Fulfils body e x.1 x.2.content) : Settles g body e x
  | untold {x : Gateway × Response} (status : x.2.status = 500)
      (left : g.LeavesUntold body e x.1) : Settles g body e x

/-- What comes of putting a scene is decided by whether the message about it can be written. -/
theorem settles_put {room : Nat} {s : Scene} {x : Gateway × Response}
    {fields : List (String × Json)} (he : g.telling? e = some room)
    (hhub : x.1.hub = (g.hub.put s none room).1)
    (hanswer : x.2 = concluded (g.hub.put s none room).2 fields)
    (hfulfilled : x.1.hub.scene = s → g.Fulfils body e x.1 (succeeded fields).content) :
    g.Settles body e x := by
  have hscene : x.1.hub.scene = s := by rw [hhub, Hub.scene_put]
  cases hm : s.updateMessage room with
  | ok t =>
    rw [Hub.put_eq_ok hm] at hhub hanswer
    refine .done (by rw [hanswer]; rfl) ⟨room, t, he, by rw [hscene, hm], by rw [hscene, hhub]⟩ ?_
    rw [hanswer]
    exact hfulfilled hscene
  | error limit =>
    rw [Hub.put_eq_error hm] at hhub hanswer
    refine .untold (by rw [hanswer]; rfl) ⟨⟨room, limit, he, by rw [hscene, hm]⟩, ?_, ?_⟩
    · rw [hscene, hhub]
    · exact ⟨_, hfulfilled hscene⟩

/-- The scene that is drawn. -/
def drawn (g : Gateway) (d : Drawing) : Scene :=
  if d.append then g.hub.scene.append d.elements else g.hub.scene.withElements d.elements

/-- What is said about a drawing that has been carried out. -/
def drawnFields (g : Gateway) (d : Drawing) (extra : List (String × Json)) :
    List (String × Json) :=
  [("elementsAdded", .int (Int.ofNat d.elements.length)),
    ("totalElements", .int (Int.ofNat (g.drawn d).elements.length))] ++ extra

theorem carryOut_eq (d : Drawing) (extra : List (String × Json)) :
    g.carryOut d extra =
      ({ g with
          hub := (g.hub.put (g.drawn d) none g.limits.drawing).1
          ids := d.ids
          stamps := fun n => g.stamps (n + 1) },
        concluded (g.hub.put (g.drawn d) none g.limits.drawing).2 (g.drawnFields d extra)) := by
  have htotal : total (g.hub.put (g.drawn d) none g.limits.drawing).1 =
      ("totalElements", .int (Int.ofNat (g.drawn d).elements.length)) := by
    rw [total, Hub.scene_put]
  rw [drawnFields, ← htotal]
  unfold carryOut drawn
  cases d.append <;> rfl

/-- The drawing that a body describes is carried out in one step. -/
theorem settles_carryOut {d : Drawing} (hbody : readBody g.limits.body body = .ok fields)
    (hd : g.Describes fields path d.elements) (happend : Appends fields d.append)
    (extra : List (String × Json)) (he : g.telling? e = some g.limits.drawing)
    (hpath : g.Fulfils body e = g.Draws path body) :
    g.Settles body e (g.carryOut d extra) := by
  rw [carryOut_eq]
  refine settles_put he rfl rfl fun hscene => ?_
  have helements : (g.drawn d).elements =
      if d.append then g.hub.scene.elements ++ d.elements else d.elements := by
    unfold drawn
    split <;> rfl
  have hview : (g.drawn d).appState = g.hub.scene.appState := by
    unfold drawn
    split <;> rfl
  rw [hpath]
  simp only at hscene ⊢
  refine ⟨⟨fields, d.elements, d.append, readBody_eq_ok hbody, hd, happend, ?_, ?_⟩, ?_, ?_⟩
  · rw [hscene, helements]
  · simp [Content.Counts, Content.field?, succeeded, drawnFields, Json.get?_record_cons]
  · rw [hscene, hview]
  · rw [hscene]
    simp [Content.Counts, Content.field?, succeeded, drawnFields, Json.get?_record_cons]

theorem settles_draw (g : Gateway) (body : List UInt8) :
    g.Settles body .draw (g.draw body) := by
  unfold draw
  split
  · exact .refused _
  · rename_i d h
    obtain ⟨fields, hbody, hd⟩ := bind_eq_ok h
    obtain ⟨hd, happend⟩ := describes_ofElementsBody hd
    exact settles_carryOut hbody hd happend [] rfl rfl

theorem settles_drawMermaid (g : Gateway) (body : List UInt8) :
    g.Settles body .drawMermaid (g.drawMermaid body) := by
  unfold drawMermaid
  split
  · exact .refused _
  · rename_i d h
    obtain ⟨fields, hbody, hd⟩ := bind_eq_ok h
    obtain ⟨hd, happend⟩ := describes_ofDefinitionBody hd
    exact settles_carryOut hbody hd happend [] rfl rfl

theorem settles_auto (g : Gateway) (body : List UInt8) :
    g.Settles body .auto (g.auto body) := by
  unfold auto
  split
  · exact .refused _
  · rename_i d format h
    obtain ⟨fields, hbody, hd⟩ := bind_eq_ok h
    obtain ⟨hd, happend⟩ := describes_ofInputBody hd
    exact settles_carryOut hbody hd happend _ rfl rfl

theorem settles_replaceScene (g : Gateway) (body : List UInt8) :
    g.Settles body .replaceScene (g.replaceScene body) := by
  unfold replaceScene
  split
  · exact .refused _
  · rename_i s h
    obtain ⟨fields, hbody, hs⟩ := bind_eq_ok h
    refine settles_put rfl rfl rfl fun hscene => ?_
    refine ⟨⟨fields, readBody_eq_ok hbody, ?_⟩, ?_⟩
    · rw [hscene]
      exact givesScene_ofBody hs
    · simp [Content.Counts, Content.field?, succeeded, total, Json.get?_record_cons]

theorem settles_clear (g : Gateway) (body : List UInt8) : g.Settles body .clear g.clear :=
  settles_put rfl rfl rfl fun hscene => hscene

theorem hasMethod_of_destination {method path : String} {e : Endpoint}
    (h : destination method path = .endpoint e) :
    ∃ route ∈ routes, route.hasMethod method = true ∧ route.endpoint = e := by
  unfold destination at h
  split at h
  · split at h <;> cases h
  · split at h
    · rename_i route hfind
      cases h
      have hmem := List.mem_of_find?_eq_some hfind
      have hmethod : route.hasMethod method = true := by simpa using List.find?_some hfind
      exact ⟨route, (List.mem_filter.mp hmem).1, hmethod, rfl⟩
    · cases h

/-- Endpoints that change the scene are for posting, the others are for reading. -/
theorem post_iff_of_destination {method path : String} {e : Endpoint}
    (h : destination method path = .endpoint e) :
    method = "POST" ↔ e ≠ .health ∧ e ≠ .exportScene := by
  obtain ⟨route, hroute, hmethod, rfl⟩ := hasMethod_of_destination h
  simp only [routes, List.mem_cons, List.not_mem_nil, or_false] at hroute
  have hread : ∀ route : Route, route.method = "GET" → route.hasMethod method = true →
      method ≠ "POST" := by
    rintro route hget hmethod rfl
    simp [Route.hasMethod, hget] at hmethod
  rcases hroute with rfl | rfl | rfl | rfl | rfl | rfl | rfl
  · simpa using hread _ rfl hmethod
  · simpa [Route.hasMethod] using hmethod
  · simpa [Route.hasMethod] using hmethod
  · simpa [Route.hasMethod] using hmethod
  · simpa [Route.hasMethod] using hmethod
  · simpa [Route.hasMethod] using hmethod
  · simpa using hread _ rfl hmethod

/-- The outcome of a request: nothing is changed, and a post does not succeed; or an endpoint for
posting has carried it out; or it has put a scene and could not tell it. -/
inductive Answers (g : Gateway) (r : Request) : Gateway × Response → Prop where
  | idle {x : Gateway × Response} (hub : x.1.hub = g.hub)
      (post : r.method = "POST" → x.2.status ≠ 200) : Answers g r x
  | done {x : Gateway × Response} {e : Endpoint} (post : r.method = "POST")
      (destination : destination "POST" r.path = .endpoint e) (ok : x.2.status = 200)
      (told : g.Tells e x.1.hub) (fulfilled : g.Fulfils r.body e x.1 x.2.content) : Answers g r x
  | untold {x : Gateway × Response} {e : Endpoint} (post : r.method = "POST")
      (destination : destination "POST" r.path = .endpoint e) (status : x.2.status = 500)
      (left : g.LeavesUntold r.body e x.1) : Answers g r x

theorem answers_of_settles {r : Request} {e : Endpoint} {x : Gateway × Response}
    (hpost : r.method = "POST") (hd : destination r.method r.path = .endpoint e)
    (hx : g.Settles r.body e x) : g.Answers r x := by
  cases hx with
  | refused why => exact .idle rfl fun _ => why.status_ne_ok
  | done ok told fulfilled => exact .done hpost (hpost ▸ hd) ok told fulfilled
  | untold status left => exact .untold hpost (hpost ▸ hd) status left

/-- What is added to the headers does not matter. -/
theorem answers_withHeaders {r : Request} {x : Gateway × Response} (hx : g.Answers r x)
    (headers : Headers) : g.Answers r (x.1, { x.2 with headers }) := by
  cases hx with
  | idle hub post => exact .idle hub post
  | done post destination ok told fulfilled => exact .done post destination ok told fulfilled
  | untold post destination status left => exact .untold post destination status left

theorem answers_dispatch (g : Gateway) (r : Request) :
    match g.dispatch r with
    | (g', some a) => g.Answers r (g', a)
    | (g', none) => g' = g ∧ r.method ≠ "POST" := by
  have hread : ∀ e, destination r.method r.path = .endpoint e → e = .health ∨ e = .exportScene →
      r.method ≠ "POST" := by
    rintro e hd (rfl | rfl) hpost <;> simpa using (post_iff_of_destination hd).mp hpost
  have hwrite : ∀ e, destination r.method r.path = .endpoint e → e ≠ .health ∧ e ≠ .exportScene →
      r.method = "POST" := fun e hd he => (post_iff_of_destination hd).mpr he
  unfold dispatch
  cases hd : destination r.method r.path with
  | endpoint e =>
    cases e with
    | health => exact .idle rfl fun h => (hread _ hd (.inl rfl) h).elim
    | draw => exact answers_of_settles (hwrite _ hd (by decide)) hd (g.settles_draw r.body)
    | drawMermaid =>
      exact answers_of_settles (hwrite _ hd (by decide)) hd (g.settles_drawMermaid r.body)
    | auto => exact answers_of_settles (hwrite _ hd (by decide)) hd (g.settles_auto r.body)
    | clear => exact answers_of_settles (hwrite _ hd (by decide)) hd (g.settles_clear r.body)
    | replaceScene =>
      exact answers_of_settles (hwrite _ hd (by decide)) hd (g.settles_replaceScene r.body)
    | exportScene =>
      have hpost := hread _ hd (.inr rfl)
      cases hs : g.exportScene with
      | none => exact ⟨rfl, hpost⟩
      | some a => exact .idle rfl fun h => (hpost h).elim
  | elsewhere => exact .idle rfl fun _ => (by decide : 307 ≠ 200)
  | wrongMethod => exact .idle rfl fun _ => (by decide : 405 ≠ 200)
  | unknown => exact .idle rfl fun _ => (by decide : 404 ≠ 200)

theorem answers_answer (g : Gateway) (r : Request) : g.Answers r (g.answer r) := by
  have hdispatch := g.answers_dispatch r
  unfold answer
  split
  · rename_i hpreflight
    refine .idle rfl fun hpost => ?_
    simp [Cors.isPreflight, hpost] at hpreflight
  · split
    · rename_i g' a heq
      rw [heq] at hdispatch
      exact answers_withHeaders hdispatch _
    · rename_i g' heq
      rw [heq] at hdispatch
      exact .idle (by rw [hdispatch.1]) fun hpost => (hdispatch.2 hpost).elim

end Gateway
end Easel
