import Easel.Proofs.Gateway.AllOrNothing
import Easel.Proofs.Gateway.Posts

/-! One path takes shapes and diagrams alike. It does what the path for the one or the other does,
and adds to the answer the format that it has found. -/
namespace Easel

/-- A body for the path of one format that asks for the same as a body with an `input`. -/
inductive Fields.Counterpart (fields : Fields) : (format path : String) → Fields → Prop where
  | shapes {said : Fields} {raws : List Json}
      (input : fields.get? "input" = some (.array raws))
      (given : said.get? "elements" = some (.array raws))
      (append : fields.get? "append" = said.get? "append") :
      Counterpart fields "shapes" "/api/draw" said
  | diagram {said : Fields} {definition : Text}
      (input : fields.get? "input" = some (.string definition))
      (given : said.get? "definition" = some (.string definition))
      (append : fields.get? "append" = said.get? "append") :
      Counterpart fields "mermaid" "/api/draw/mermaid" said

/-- The input of a body is a list of descriptors or the text of a diagram. -/
def Fields.HasInput (fields : Fields) : Prop :=
  (∃ raws, fields.get? "input" = some (.array raws)) ∨
  ∃ definition, fields.get? "input" = some (.string definition)

theorem appendFlag_congr {fields said : Fields}
    (h : fields.get? "append" = said.get? "append") : appendFlag fields = appendFlag said := by
  rw [appendFlag, appendFlag, h]

theorem appendFlag_error {fields : Fields} {e : RequestError} (h : appendFlag fields = .error e) :
    e = .badAppend := by
  unfold appendFlag at h
  split at h
  · cases h
  · cases h
  · cases h
    rfl

namespace Drawing

variable {converter : Option Converter} {ids : IdSupply} {stamps : Stamps} {fields said : Fields}

theorem ofInputBody_of_shapes {raws : List Json} (hinput : fields.get? "input" = some (.array raws))
    (hgiven : said.get? "elements" = some (.array raws))
    (happend : fields.get? "append" = said.get? "append") :
    ofInputBody converter ids stamps fields =
      (ofElementsBody ids stamps said).map fun d => (d, "shapes") := by
  simp only [ofInputBody, ofElementsBody, hinput, hgiven, appendFlag_congr happend]
  exact bind_bind_ok _ _ _

theorem ofInputBody_of_diagram {definition : Text}
    (hinput : fields.get? "input" = some (.string definition))
    (hgiven : said.get? "definition" = some (.string definition))
    (happend : fields.get? "append" = said.get? "append") :
    ofInputBody converter ids stamps fields =
      (ofDefinitionBody converter ids stamps said).map fun d => (d, "mermaid") := by
  simp only [ofInputBody, ofDefinitionBody, hinput, hgiven, appendFlag_congr happend]
  exact bind_bind_ok _ _ _

/-- Without an input nothing is drawn, whether or not the body says well how to append. -/
theorem ofInputBody_of_not_hasInput (converter : Option Converter) (ids : IdSupply)
    (stamps : Stamps) (h : ¬ fields.HasInput) :
    ofInputBody converter ids stamps fields = .error .badAppend ∨
    ofInputBody converter ids stamps fields = .error .badInput := by
  unfold ofInputBody
  cases happend : appendFlag fields with
  | error e =>
    obtain rfl := appendFlag_error happend
    exact .inl rfl
  | ok append =>
    right
    simp only [bind, Except.bind]
    split
    · exact (h (.inr ⟨_, ‹_›⟩)).elim
    · exact (h (.inl ⟨_, ‹_›⟩)).elim
    · rfl

end Drawing

/-- A request that posts an object to a path; `room` tells how far the reader goes down. -/
structure Request.PostsObject (r : Request) (room : Nat) (path : String) (fields : Fields) :
    Prop where
  posts : r.Posts path
  body : Json.ofBytes room r.body = .ok (.object fields)

namespace Gateway

variable {g : Gateway} {r q : Request} {fields said : Fields} {format path : String}

/-- What is answered and done is the same, but that a success is told with its format. -/
structure AgreesAs (format : String) (x y : Gateway × Response) : Prop where
  state : x.1 = y.1
  status : x.2.status = y.2.status
  refused : y.2.status ≠ 200 → x.2.content = y.2.content
  accepted : y.2.status = 200 → ∃ told : List (String × Json), y.2.content = .json (.record told) ∧
    x.2.content = .json (.record (told ++ [("format", .ofString format)]))

/-- Draws what a body asks for, or tells why it is not drawn. -/
def finish (g : Gateway) (x : Except RequestError Drawing) (extra : List (String × Json)) :
    Gateway × Response :=
  match x with
  | .error e => (g, failed e)
  | .ok d => g.carryOut d extra

theorem agreesAs_finish (g : Gateway) (format : String) (x : Except RequestError Drawing) :
    AgreesAs format (g.finish x [("format", .ofString format)]) (g.finish x []) := by
  cases x with
  | error e => exact ⟨rfl, rfl, fun _ => rfl, fun ok => (e.status_ne_ok ok).elim⟩
  | ok d =>
    simp only [finish, carryOut_eq]
    cases (g.hub.put (g.drawn d) none g.limits.drawing).2 with
    | error limit =>
      exact ⟨rfl, rfl, fun _ => rfl, fun ok => ((RequestError.untold limit).status_ne_ok ok).elim⟩
    | ok notices => exact ⟨rfl, rfl, fun refused => (refused rfl).elim, fun _ => ⟨_, rfl, rfl⟩⟩

/-- What is added to the headers does not matter. -/
theorem AgreesAs.withHeaders {x y : Gateway × Response} (h : AgreesAs format x y)
    (hx hy : Headers) :
    AgreesAs format (x.1, { x.2 with headers := hx }) (y.1, { y.2 with headers := hy }) :=
  ⟨h.state, h.status, h.refused, h.accepted⟩

theorem auto_eq_finish {body : List UInt8} {x : Except RequestError Drawing}
    (hread : readBody g.limits.body body = .ok fields)
    (hx : Drawing.ofInputBody g.converter g.ids (g.stamps 0) fields = x.map fun d => (d, format)) :
    g.auto body = g.finish x [("format", .ofString format)] := by
  have hbind : (readBody g.limits.body body >>=
      Drawing.ofInputBody g.converter g.ids (g.stamps 0)) = x.map fun d => (d, format) := by
    rw [hread]
    exact hx
  rw [auto, hbind]
  cases x <;> rfl

theorem draw_eq_finish {body : List UInt8} (hread : readBody g.limits.body body = .ok said) :
    g.draw body = g.finish (Drawing.ofElementsBody g.ids (g.stamps 0) said) [] := by
  rw [draw, hread]
  rfl

theorem drawMermaid_eq_finish {body : List UInt8}
    (hread : readBody g.limits.body body = .ok said) :
    g.drawMermaid body =
      g.finish (Drawing.ofDefinitionBody g.converter g.ids (g.stamps 0) said) [] := by
  rw [drawMermaid, hread]
  rfl

theorem agreesAs_answer (hr : r.PostsObject g.limits.body "/api/auto" fields)
    (hsame : fields.Counterpart format path said) (hq : q.PostsObject g.limits.body path said) :
    AgreesAs format (g.answer r) (g.answer q) := by
  have hread := readBody_of_object hr.body
  have hread' := readBody_of_object hq.body
  rw [answer_of_posted (e := .auto) hr.posts rfl rfl]
  cases hsame with
  | shapes input given append =>
    have hauto := auto_eq_finish (g := g) hread (Drawing.ofInputBody_of_shapes input given append)
    rw [answer_of_posted (e := .draw) hq.posts rfl rfl, hauto, draw_eq_finish hread']
    exact (g.agreesAs_finish _ _).withHeaders _ _
  | diagram input given append =>
    have hauto := auto_eq_finish (g := g) hread (Drawing.ofInputBody_of_diagram input given append)
    rw [answer_of_posted (e := .drawMermaid) hq.posts rfl rfl, hauto, drawMermaid_eq_finish hread']
    exact (g.agreesAs_finish _ _).withHeaders _ _

theorem answer_of_not_hasInput (hr : r.PostsObject g.limits.body "/api/auto" fields)
    (h : ¬ fields.HasInput) :
    (g.answer r).1 = g ∧ (g.answer r).2.status = 400 := by
  have hread := readBody_of_object hr.body
  have hrefuse : ∀ e, Drawing.ofInputBody g.converter g.ids (g.stamps 0) fields = .error e →
      g.auto r.body = (g, failed e) := by
    intro e he
    have hdrawing : (readBody g.limits.body r.body >>=
        Drawing.ofInputBody g.converter g.ids (g.stamps 0)) = .error e := by
      rw [hread]
      exact he
    rw [auto, hdrawing]
  rw [answer_of_posted (e := .auto) hr.posts rfl rfl]
  rcases Drawing.ofInputBody_of_not_hasInput g.converter g.ids (g.stamps 0) h with he | he
  · rw [hrefuse _ he]
    exact ⟨rfl, rfl⟩
  · rw [hrefuse _ he]
    exact ⟨rfl, rfl⟩

/-- A body with a list of descriptors or the text of a diagram as its input has the same effect as
one for the path of its format, and is answered the same but for the format of what is drawn. A
body with any other input is refused and changes nothing. -/
theorem auto_agrees (g : Gateway) {r : Request} {fields : Fields}
    (hr : r.PostsObject g.limits.body "/api/auto" fields) :
    (∀ (format path : String) (said : Fields) (q : Request),
      fields.Counterpart format path said → q.PostsObject g.limits.body path said →
        AgreesAs format (g.answer r) (g.answer q)) ∧
    (¬ fields.HasInput → (g.answer r).1 = g ∧ (g.answer r).2.status = 400) :=
  ⟨fun _ _ _ _ hsame hq => agreesAs_answer hr hsame hq, answer_of_not_hasInput hr⟩

/-- The descriptors of `drawingRequest`. -/
def drawnText : Json := .array [.record [("type", .ofString "text"), ("text", .ofString "a")]]

/-- A request to draw them that leaves it to the gateway to find out what they are. -/
def autoRequest : Request :=
  { method := "POST", path := "/api/auto", arrival := "",
    body := "\x7b\"input\": [\x7b\"type\": \"text\", \"text\": \"a\"\x7d]\x7d".toUTF8.toList }

theorem auto_agrees_drawing :
    (twoClients.answer autoRequest).2.status = 200 ∧
    AgreesAs "shapes" (twoClients.answer autoRequest) (twoClients.answer drawingRequest) := by
  have hauto : autoRequest.PostsObject Limits.usual.body "/api/auto"
      [(.ofString "input", drawnText)] := ⟨⟨rfl, rfl⟩, by with_unfolding_all rfl⟩
  have hdraw : drawingRequest.PostsObject Limits.usual.body "/api/draw"
      [(.ofString "elements", drawnText)] := ⟨⟨rfl, rfl⟩, by with_unfolding_all rfl⟩
  have hsame : Fields.Counterpart [(.ofString "input", drawnText)] "shapes" "/api/draw"
      [(.ofString "elements", drawnText)] := .shapes rfl rfl rfl
  exact ⟨by decide +kernel, (auto_agrees twoClients hauto).1 _ _ _ _ hsame hdraw⟩

end Gateway

end Easel
