import Easel.Proofs.Gateway.AllOrNothing
import Easel.Proofs.Json.Rooms

/-! A client that pushes a scene and a request that posts one come to the same. Only the client
itself tells them apart: it is told of what is posted, and not of its own push. This is so where
neither of the two goes down too far; a push stops short of what a post can still do. -/
namespace Easel

theorem pushedAppState?_eq_some {v : Option Json} {given : Option Fields}
    (h : pushedAppState? v = some given) :
    v = some (.object (given.getD [])) ∨ (v = none ∨ v = some .null) ∧ given.getD [] = [] := by
  unfold pushedAppState? at h
  split at h
  · obtain rfl := Option.some.inj h
    exact .inr ⟨.inl rfl, rfl⟩
  · obtain rfl := Option.some.inj h
    exact .inr ⟨.inr rfl, rfl⟩
  · obtain rfl := Option.some.inj h
    exact .inl rfl
  · cases h

theorem pushedScene_eq_ok_iff {payload : Fields} {s : Scene} :
    pushedScene (some (.object payload)) = .ok s ↔
      payload.get? "elements" = some (.array s.elements) ∧
        MayGive payload "appState" .object s.appState [] := by
  constructor
  · intro h
    simp only [pushedScene] at h
    split at h
    · rename_i elements he
      split at h
      · rename_i given hview
        cases h
        exact ⟨he, pushedAppState?_eq_some hview⟩
      · cases h
    · cases h
  · obtain ⟨elements, appState⟩ := s
    rintro ⟨he, hview⟩
    simp only [pushedScene, he]
    rcases hview with hv | ⟨hv | hv, hnil⟩ <;> simp_all [pushedAppState?, Scene.ofParts]

theorem givesScene_of_pushedScene {payload : Fields} {s : Scene}
    (h : pushedScene (some (.object payload)) = .ok s) : GivesScene payload s := by
  obtain ⟨helements, hview⟩ := pushedScene_eq_ok_iff.mp h
  exact ⟨.inl helements, hview⟩

/-- A payload is a scene for a push if it is one for a post and its elements are given. -/
theorem pushedScene_iff_ofBody {payload : Fields} (hnull : payload.get? "elements" ≠ some .null)
    {s : Scene} :
    pushedScene (some (.object payload)) = .ok s ↔
      (payload.get? "elements").isSome ∧ Scene.ofBody payload = .ok s := by
  rw [pushedScene_eq_ok_iff, ofBody_eq_ok_iff]
  constructor
  · rintro ⟨helements, hview⟩
    exact ⟨by rw [helements]; rfl, .inl helements, hview⟩
  · rintro ⟨hsome, helements | ⟨hnone | hnil, -⟩, hview⟩
    · exact ⟨helements, hview⟩
    · rw [hnone] at hsome
      cases hsome
    · exact (hnull hnil).elim

theorem payload_of_pushedScene {payload : Option Json} {s : Scene}
    (h : pushedScene payload = .ok s) : ∃ fields, payload = some (.object fields) := by
  unfold pushedScene at h
  split at h
  · exact ⟨_, rfl⟩
  · cases h

theorem breaksOff?_of_pushedScene {payload : Option Json} {why : Refusal}
    (h : pushedScene payload = .error why) : why.breaksOff? = none := by
  unfold pushedScene at h
  split at h
  · split at h
    · split at h
      · cases h
      · cases h
        rfl
    · cases h
      rfl
  · cases h
    rfl

theorem payload_of_ofPush {room : Nat} {raw : Text} {s : Scene}
    (h : Scene.ofPush room raw = .ok s) :
    ∃ message payload : Fields, Json.parseMarked room raw = .ok (.object message) ∧
      message.get? "type" = some (.string (.ofString "scene:update")) ∧
      message.get? "payload" = some (.object payload) ∧
      pushedScene (some (.object payload)) = .ok s := by
  unfold Scene.ofPush at h
  split at h
  · cases h
  · rename_i message hread
    split at h
    · rename_i t htype
      split at h
      · rename_i hupdate
        obtain ⟨payload, hpayload⟩ := payload_of_pushedScene h
        rw [hpayload] at h
        exact ⟨message, payload, hread, hupdate ▸ htype, hpayload, h⟩
      · cases h
    · cases h
  · cases h

namespace Gateway

/-- A frame that is an update of the scene with the given payload, for a reader that goes down far
enough. -/
structure Frame.Carries (f : Frame) (payload : Fields) : Prop where
  update : ∃ (raw : Text) (message : Fields) (room : Nat), f.text? = some raw ∧
    Json.parseMarked room raw = .ok (.object message) ∧
    message.get? "type" = some (.string (.ofString "scene:update")) ∧
    message.get? "payload" = some (.object payload)

/-- A frame whose text goes down further than there is room. -/
def Frame.TooDeep (f : Frame) (room : Nat) : Prop :=
  ∃ raw innermost, f.text? = some raw ∧ Json.parseMarked room raw = .error (.tooDeep innermost)

theorem Frame.Carries.ofPush {f : Frame} {payload : Fields} (h : f.Carries payload) {room : Nat}
    (hdeep : ¬ f.TooDeep room) :
    ∃ raw, f.text? = some raw ∧ Scene.ofPush room raw = pushedScene (some (.object payload)) := by
  obtain ⟨raw, message, room', hf, hread, htype, hpayload⟩ := h.update
  rcases Json.parseMarked_of_parseMarked hread room with hsame | ⟨innermost, hstop⟩
  · refine ⟨raw, hf, ?_⟩
    simp only [Scene.ofPush, hsame, htype, hpayload, if_pos]
  · exact (hdeep ⟨raw, innermost, hf, hstop⟩).elim

variable {g : Gateway} {client : Nat} {p : Peer} {f : Frame} {payload : Fields} {r : Request}
  {raw t : Text} {s : Scene}

/-- Whether a frame from a client is taken as a change of the scene. -/
def applies (g : Gateway) (client : Nat) (f : Frame) : Bool :=
  f.text?.any fun raw => g.hub.applies client raw g.limits.pushing

/-- What a member's frame comes to is decided by what the hub makes of its text. -/
theorem receive_of_text (hp : g.hub.peers[client]? = some p) (hjoined : p.joined = true)
    (hf : f.text? = some raw) : g.receive client f =
      match g.hub.receive client raw g.limits.pushing with
      | (hub, .ok _) => { g with hub }
      | (hub, .error _) => { g with hub }.disconnect client := by
  have hmember : (g.hub.peers[client]?).any (·.joined) = true := by simp [hp, hjoined]
  rcases h : g.hub.receive client raw g.limits.pushing with ⟨hub, _ | _⟩ <;>
    simp only [receive, hf, hmember, h]

theorem applies_of_text (hf : f.text? = some raw) :
    g.applies client f = g.hub.applies client raw g.limits.pushing := by
  simp only [applies, hf, Option.any_some]

/-- A scene that is pushed is told to the others, if it can be. -/
theorem receive_of_said (hp : g.hub.peers[client]? = some p) (hjoined : p.joined = true)
    (hf : f.text? = some raw) (hs : Scene.ofPush g.limits.pushing.reading raw = .ok s)
    (ht : s.updateMessage g.limits.pushing.writing = .ok t) :
    g.applies client f = true ∧
      g.receive client f =
        { g with hub := ({ g.hub with scene := s }.tell t (some client)).1 } := by
  rw [receive_of_text hp hjoined hf, applies_of_text hf]
  constructor
  · simp only [Hub.applies, Hub.receive, hs, Hub.put_eq_ok ht, Except.map]
  · simp only [Hub.receive, hs, Hub.put_eq_ok ht, Except.map]

/-- If it cannot be told, the scene is replaced all the same, and the connection ends. -/
theorem receive_of_unsaid (hp : g.hub.peers[client]? = some p) (hjoined : p.joined = true)
    (hf : f.text? = some raw) (hs : Scene.ofPush g.limits.pushing.reading raw = .ok s)
    {limit : Json.Limit} (ht : s.updateMessage g.limits.pushing.writing = .error limit) :
    g.applies client f = false ∧
      g.receive client f =
        ({ g with hub := { g.hub with scene := s } } : Gateway).disconnect client := by
  rw [receive_of_text hp hjoined hf, applies_of_text hf]
  constructor
  · simp only [Hub.applies, Hub.receive, hs, Hub.put_eq_error ht, Except.map]
  · simp only [Hub.receive, hs, Hub.put_eq_error ht, Except.map]

/-- What is refused changes nothing, if the reader could follow it. -/
theorem receive_of_refused (hp : g.hub.peers[client]? = some p) (hjoined : p.joined = true)
    (hf : f.text? = some raw) {why : Refusal}
    (hs : Scene.ofPush g.limits.pushing.reading raw = .error why) (hwhy : why.breaksOff? = none) :
    g.applies client f = false ∧ g.receive client f = g := by
  rw [receive_of_text hp hjoined hf, applies_of_text hf]
  constructor
  · simp only [Hub.applies, Hub.receive, hs, hwhy]
  · simp only [Hub.receive, hs, hwhy]

/-- A text that goes down too far ends the connection, as if the client had left. -/
theorem receive_of_tooDeep (hp : g.hub.peers[client]? = some p) (hjoined : p.joined = true)
    (hf : f.TooDeep g.limits.pushing.reading) :
    g.applies client f = false ∧ g.receive client f = g.disconnect client := by
  obtain ⟨raw, innermost, hraw, hread⟩ := hf
  have hs : Scene.ofPush g.limits.pushing.reading raw =
      .error (.unreadable (.tooDeep innermost)) := by
    simp only [Scene.ofPush, hread]
  rw [receive_of_text hp hjoined hraw, applies_of_text hraw]
  constructor
  · simp only [Hub.applies, Hub.receive, hs, Refusal.breaksOff?]
  · simp only [Hub.receive, hs, Refusal.breaksOff?]

/-- What becomes of an update from a member. -/
inductive Receives (g : Gateway) (client : Nat) (f : Frame) (payload : Fields) : Prop where
  | tooDeep (hf : f.TooDeep g.limits.pushing.reading) (applies : g.applies client f = false)
      (left : g.receive client f = g.disconnect client) : Receives g client f payload
  | dropped {why : Refusal} (hs : pushedScene (some (.object payload)) = .error why)
      (applies : g.applies client f = false) (left : g.receive client f = g) :
      Receives g client f payload
  | said {s : Scene} {t : Text} (hs : pushedScene (some (.object payload)) = .ok s)
      (ht : s.updateMessage g.limits.pushing.writing = .ok t)
      (applies : g.applies client f = true)
      (left : g.receive client f =
        { g with hub := ({ g.hub with scene := s }.tell t (some client)).1 }) :
      Receives g client f payload
  | unsaid {s : Scene} {limit : Json.Limit} (hs : pushedScene (some (.object payload)) = .ok s)
      (ht : s.updateMessage g.limits.pushing.writing = .error limit)
      (applies : g.applies client f = false)
      (left : g.receive client f =
        ({ g with hub := { g.hub with scene := s } } : Gateway).disconnect client) :
      Receives g client f payload

theorem receives_of_carries (hp : g.hub.peers[client]? = some p) (hjoined : p.joined = true)
    (hf : f.Carries payload) : g.Receives client f payload := by
  by_cases hdeep : f.TooDeep g.limits.pushing.reading
  · obtain ⟨happlies, hleft⟩ := receive_of_tooDeep hp hjoined hdeep
    exact .tooDeep hdeep happlies hleft
  · obtain ⟨raw, hraw, hpush⟩ := hf.ofPush hdeep
    cases hs : pushedScene (some (.object payload)) with
    | error why =>
      obtain ⟨happlies, hleft⟩ :=
        receive_of_refused hp hjoined hraw (hpush.trans hs) (breaksOff?_of_pushedScene hs)
      exact .dropped hs happlies hleft
    | ok s =>
      cases ht : s.updateMessage g.limits.pushing.writing with
      | ok t =>
        obtain ⟨happlies, hleft⟩ := receive_of_said hp hjoined hraw (hpush.trans hs) ht
        exact .said hs ht happlies hleft
      | error limit =>
        obtain ⟨happlies, hleft⟩ := receive_of_unsaid hp hjoined hraw (hpush.trans hs) ht
        exact .unsaid hs ht happlies hleft

theorem carries_of_ofPush {room : Nat} (hf : f.text? = some raw)
    (h : Scene.ofPush room raw = .ok s) :
    ∃ payload, f.Carries payload ∧ pushedScene (some (.object payload)) = .ok s := by
  obtain ⟨message, payload, hread, htype, hpayload, hs⟩ := payload_of_ofPush h
  exact ⟨payload, ⟨raw, message, room, hf, hread, htype, hpayload⟩, hs⟩

theorem scene_disconnect (g : Gateway) (client : Nat) :
    (g.disconnect client).hub.scene = g.hub.scene :=
  Hub.scene_act (h := g.hub) (a := .unsubscribe client)

theorem limits_receive (g : Gateway) (client : Nat) (f : Frame) :
    (g.receive client f).limits = g.limits := by
  unfold receive
  split
  · split <;> rfl
  · rfl

/-- A frame has the effect of its message on the scene, or none. -/
theorem scene_receive_text (g : Gateway) (client : Nat) {f : Frame} {raw : Text}
    (hf : f.text? = some raw) :
    (g.receive client f).hub.scene = g.hub.scene ∨
    (g.receive client f).hub.scene =
      (g.hub.receive client raw g.limits.pushing).1.scene := by
  unfold receive
  rw [hf]
  split
  · rename_i t heq _
    obtain rfl := Option.some.inj heq
    refine .inr ?_
    split
    · rename_i heq
      rw [heq]
    · rename_i heq
      rw [heq, scene_disconnect]
  · exact .inl rfl

/-- A frame that changes the scene is an update with the new scene in its payload. -/
theorem scene_receive (g : Gateway) (client : Nat) (f : Frame) :
    (g.receive client f).hub.scene = g.hub.scene ∨
    ∃ payload, f.Carries payload ∧
      pushedScene (some (.object payload)) = .ok (g.receive client f).hub.scene := by
  cases hf : f.text? with
  | none =>
    refine .inl ?_
    simp only [receive, hf]
  | some raw =>
    rcases g.scene_receive_text client hf with hscene | hscene
    · exact .inl hscene
    · have hafter : (g.hub.receive client raw g.limits.pushing).1.scene =
          g.hub.scene.after (.receive client raw g.limits.pushing) :=
        Hub.scene_act (a := .receive client raw g.limits.pushing)
      rw [hafter, Scene.after, Action.put?] at hscene
      cases hs : Scene.ofPush g.limits.pushing.reading raw with
      | error why =>
        refine .inl (hscene.trans ?_)
        rw [hs]
        rfl
      | ok s =>
        obtain ⟨payload, hcarries, hpush⟩ := carries_of_ofPush hf hs
        have hnew : (g.receive client f).hub.scene = s := by
          rw [hscene, hs]
          rfl
        exact .inr ⟨payload, hcarries, hnew ▸ hpush⟩

end Gateway

/-- A request whose body is the given payload, for a reader that goes down far enough. -/
def Request.Carries (r : Request) (payload : Fields) : Prop :=
  ∃ room, Json.ofBytes room r.body = .ok (.object payload)

/-- A request whose body goes down further than there is room. -/
def Request.TooDeep (r : Request) (room : Nat) : Prop :=
  ∃ innermost, Json.ofBytes room r.body = .error (.text (.tooDeep innermost))

namespace Gateway

variable {g : Gateway} {client : Nat} {p : Peer} {f : Frame} {payload : Fields} {r : Request}

/-- What becomes of a posted payload. -/
inductive Posts (g : Gateway) (r : Request) (payload : Fields) : Prop where
  | tooDeep (hr : r.TooDeep g.limits.body) (status : (g.answer r).2.status = 500)
      (left : (g.answer r).1 = g) : Posts g r payload
  | refused {why : RequestError} (hs : Scene.ofBody payload = .error why)
      (status : (g.answer r).2.status ≠ 200) (left : (g.answer r).1 = g) : Posts g r payload
  | said {s : Scene} {t : Text} (hs : Scene.ofBody payload = .ok s)
      (ht : s.updateMessage g.limits.replacing = .ok t) (status : (g.answer r).2.status = 200)
      (left : (g.answer r).1.hub = ({ g.hub with scene := s }.tell t none).1) : Posts g r payload
  | unsaid {s : Scene} {limit : Json.Limit} (hs : Scene.ofBody payload = .ok s)
      (ht : s.updateMessage g.limits.replacing = .error limit)
      (status : (g.answer r).2.status = 500)
      (left : (g.answer r).1.hub = { g.hub with scene := s }) : Posts g r payload

theorem posts_of_carries (hr : r.Posts "/api/scene") (hbody : r.Carries payload) :
    g.Posts r payload := by
  obtain ⟨room, hbody⟩ := hbody
  have hanswer := answer_of_posted (g := g) hr (e := .replaceScene) rfl rfl
  rcases Json.ofBytes_of_ofBytes hbody g.limits.body with hsame | ⟨innermost, hstop⟩
  · have hread := readBody_of_object hsame
    cases hs : Scene.ofBody payload with
    | error why =>
      have hreplace : (readBody g.limits.body r.body >>= Scene.ofBody) = .error why := by
        rw [hread]
        exact hs
      simp only [replaceScene, hreplace] at hanswer
      exact .refused hs (by rw [hanswer]; exact why.status_ne_ok) (by rw [hanswer])
    | ok s =>
      have hreplace : (readBody g.limits.body r.body >>= Scene.ofBody) = .ok s := by
        rw [hread]
        exact hs
      simp only [replaceScene, hreplace] at hanswer
      cases ht : s.updateMessage g.limits.replacing with
      | ok t =>
        simp only [Hub.put_eq_ok ht] at hanswer
        exact .said hs ht (by rw [hanswer]; rfl) (by rw [hanswer])
      | error limit =>
        simp only [Hub.put_eq_error ht] at hanswer
        exact .unsaid hs ht (by rw [hanswer]; rfl) (by rw [hanswer])
  · have hreplace : (readBody g.limits.body r.body >>= Scene.ofBody) =
        .error (.unreadable (.text (.tooDeep innermost))) := by
      rw [readBody, hstop]
      rfl
    simp only [replaceScene, hreplace] at hanswer
    exact .tooDeep ⟨innermost, hstop⟩ (by rw [hanswer]; rfl) (by rw [hanswer])

end Gateway

/-- What a push by a client and a post of the same payload make of a hub; `t` is the message about
the new scene. -/
structure Hub.Agree (h : Hub) (client : Nat) (payload : Fields) (t : Text) (pushed posted : Hub) :
    Prop where
  given : GivesScene payload pushed.scene
  scene : posted.scene = pushed.scene
  message : ∃ room, pushed.scene.updateMessage room = .ok t
  others : ∀ i ≠ client, posted.peers[i]? = pushed.peers[i]?
  heard : ∀ i ≠ client, ∀ p, h.peers[i]? = some p → p.joined = true →
    ∃ p', pushed.peers[i]? = some p' ∧ p.Hears h.maxPending t p'
  spared : pushed.peers[client]? = h.peers[client]?
  told : ∀ p, h.peers[client]? = some p → p.joined = true →
    ∃ p', posted.peers[client]? = some p' ∧ p.Hears h.maxPending t p'

theorem Hub.agree_tell (h : Hub) (client : Nat) {payload : Fields} {s : Scene} {t : Text}
    {room : Nat} (hs : GivesScene payload s) (ht : s.updateMessage room = .ok t) :
    h.Agree client payload t ({ h with scene := s }.tell t (some client)).1
      ({ h with scene := s }.tell t none).1 where
  given := hs
  scene := rfl
  message := ⟨room, ht⟩
  others i hi := by
    rw [getElem?_tell, getElem?_tell]
    simp [hi.symm]
  heard i hi p hp hjoined := by
    rw [getElem?_tell, hp, Option.map_some, if_pos (by simp [hjoined, hi.symm])]
    exact ⟨_, rfl, p.hears_enqueue h.maxPending t⟩
  spared := by
    rw [getElem?_tell]
    simp
  told p hp hjoined := by
    rw [getElem?_tell, hp, Option.map_some, if_pos (by simp [hjoined])]
    exact ⟨_, rfl, p.hears_enqueue h.maxPending t⟩

namespace Gateway

variable {g : Gateway} {client : Nat} {p : Peer} {f : Frame} {payload : Fields} {r : Request}

/-- A frame or a request with the payload cannot be read, or the message about the scene in it
cannot be written. -/
inductive Obstructed (g : Gateway) (f : Frame) (r : Request) (payload : Fields) : Prop where
  | frame (h : f.TooDeep g.limits.pushing.reading) : Obstructed g f r payload
  | body (h : r.TooDeep g.limits.body) : Obstructed g f r payload
  | pushed {s : Scene} {limit : Json.Limit} (hs : pushedScene (some (.object payload)) = .ok s)
      (h : s.updateMessage g.limits.pushing.writing = .error limit) : Obstructed g f r payload
  | posted {s : Scene} {limit : Json.Limit} (hs : Scene.ofBody payload = .ok s)
      (h : s.updateMessage g.limits.replacing = .error limit) : Obstructed g f r payload

/-- A push and a post of one payload come to the same. -/
structure AgreesWithPost (g : Gateway) (client : Nat) (f : Frame) (r : Request) (payload : Fields) :
    Prop where
  applied : g.applies client f = true ↔
    (payload.get? "elements").isSome = true ∧ (g.answer r).2.status = 200
  alike : g.applies client f = true →
    ∃ t, g.hub.Agree client payload t (g.receive client f).hub (g.answer r).1.hub
  dropped : g.applies client f = false → g.receive client f = g

theorem agreesWithPost (hp : g.hub.peers[client]? = some p) (hjoined : p.joined = true)
    (hf : f.Carries payload) (hnull : payload.get? "elements" ≠ some .null)
    (hr : r.Posts "/api/scene") (hbody : r.Carries payload)
    (hclear : ¬ g.Obstructed f r payload) : g.AgreesWithPost client f r payload := by
  cases g.receives_of_carries hp hjoined hf with
  | tooDeep hdeep _ _ => exact (hclear (.frame hdeep)).elim
  | unsaid hs ht _ _ => exact (hclear (.pushed hs ht)).elim
  | @said s t hs ht happlies hleft =>
    obtain ⟨hsome, hgiven⟩ := (pushedScene_iff_ofBody hnull).mp hs
    cases g.posts_of_carries hr hbody with
    | tooDeep hdeep _ _ => exact (hclear (.body hdeep)).elim
    | unsaid hs' ht' _ _ => exact (hclear (.posted hs' ht')).elim
    | refused hs' _ _ => cases hgiven.symm.trans hs'
    | said hs' ht' hok hposted =>
      obtain rfl := Except.ok.inj (hgiven.symm.trans hs')
      -- the text does not depend on the room in which it is written
      obtain rfl := (Scene.updateMessage_eq_ok_iff.mp ht).2.symm.trans
        (Scene.updateMessage_eq_ok_iff.mp ht').2
      refine ⟨iff_of_true happlies ⟨hsome, hok⟩, fun _ => ⟨t, ?_⟩, by simp [happlies]⟩
      rw [hleft, hposted]
      exact g.hub.agree_tell client (givesScene_ofBody hgiven) ht
  | dropped hs happlies hleft =>
    refine ⟨iff_of_false (by simp [happlies]) ?_, by simp [happlies], fun _ => hleft⟩
    rintro ⟨hsome, hok⟩
    cases g.posts_of_carries hr hbody with
    | tooDeep hdeep _ _ => exact (hclear (.body hdeep)).elim
    | unsaid hs' ht' _ _ => exact (hclear (.posted hs' ht')).elim
    | refused _ hstatus _ => exact hstatus hok
    | said hs' _ _ _ => cases hs.symm.trans ((pushedScene_iff_ofBody hnull).mpr ⟨hsome, hs'⟩)

/-- A client's push of a payload is applied if and only if the payload has elements and posting it
succeeds. Then both make the same of the scene and of all other clients, and only a post is told
to the client; and a push that is dropped changes nothing. This fails where something goes down too
far. A frame that cannot be read costs the client its connection; a push that the others cannot be
told does so too, and its scene stays. -/
theorem push_agrees_with_post (hp : g.hub.peers[client]? = some p)
    (hjoined : p.joined = true) (hf : f.Carries payload)
    (hnull : payload.get? "elements" ≠ some .null) (hr : r.Posts "/api/scene")
    (hbody : r.Carries payload) :
    (¬ g.Obstructed f r payload → g.AgreesWithPost client f r payload) ∧
    (f.TooDeep g.limits.pushing.reading →
      g.applies client f = false ∧ g.receive client f = g.disconnect client) ∧
    (∀ s limit, ¬ f.TooDeep g.limits.pushing.reading →
      pushedScene (some (.object payload)) = .ok s →
      s.updateMessage g.limits.pushing.writing = .error limit →
      g.applies client f = false ∧ g.receive client f =
        ({ g with hub := { g.hub with scene := s } } : Gateway).disconnect client) := by
  refine ⟨agreesWithPost hp hjoined hf hnull hr hbody, receive_of_tooDeep hp hjoined,
    fun s limit hdeep hs ht => ?_⟩
  obtain ⟨raw, hraw, hpush⟩ := hf.ofPush hdeep
  exact receive_of_unsaid hp hjoined hraw (hpush.trans hs) ht

/-- One element, and no view. -/
def oneElement : Fields := [(.ofString "elements", .array [.null])]

def pushFrame : Frame :=
  .text (.ofString "\x7b\"type\": \"scene:update\", \"payload\": \x7b\"elements\": [null]\x7d\x7d")

def postRequest : Request :=
  { method := "POST", path := "/api/scene", arrival := "",
    body := "\x7b\"elements\": [null]\x7d".toUTF8.toList }

theorem parse_pushFrame :
    ∃ (raw : Text) (message : Fields), pushFrame.text? = some raw ∧
      Json.parseMarked Limits.usual.pushing.reading raw = .ok (.object message) ∧
      message.get? "type" = some (.string (.ofString "scene:update")) ∧
      message.get? "payload" = some (.object oneElement) :=
  ⟨_, [(.ofString "type", .ofString "scene:update"), (.ofString "payload", .object oneElement)],
    rfl, by with_unfolding_all rfl, rfl, rfl⟩

theorem carries_pushFrame : pushFrame.Carries oneElement := by
  obtain ⟨raw, message, hraw, hread, htype, hpayload⟩ := parse_pushFrame
  exact ⟨raw, message, _, hraw, hread, htype, hpayload⟩

theorem not_tooDeep_pushFrame : ¬ pushFrame.TooDeep Limits.usual.pushing.reading := by
  rintro ⟨raw', innermost, hraw', hstop⟩
  obtain ⟨raw, message, hraw, hread, -⟩ := parse_pushFrame
  obtain rfl := Option.some.inj (hraw.symm.trans hraw')
  cases hread.symm.trans hstop

theorem ofBytes_postRequest : Json.ofBytes Limits.usual.body postRequest.body =
    .ok (.object oneElement) := by
  with_unfolding_all rfl

theorem not_obstructed_oneElement : ¬ twoClients.Obstructed pushFrame postRequest oneElement := by
  have hscene : Scene.ofBody oneElement = .ok ⟨[.null], []⟩ := rfl
  have hpushed : pushedScene (some (.object oneElement)) = .ok ⟨[.null], []⟩ := rfl
  rintro (hdeep | ⟨innermost, hstop⟩ | ⟨hs, ht⟩ | ⟨hs, ht⟩)
  · exact not_tooDeep_pushFrame hdeep
  · cases ofBytes_postRequest.symm.trans hstop
  · obtain rfl := Except.ok.inj (hpushed.symm.trans hs)
    cases ht
  · obtain rfl := Except.ok.inj (hscene.symm.trans hs)
    cases ht

/-- The client that pushes reads along; the other one has fallen behind, and either way is given
up. -/
theorem push_agrees_with_post_behind :
    twoClients.applies 0 pushFrame = true ∧
    (twoClients.receive 0 pushFrame).hub.peers.map (·.alive) = [true, false] ∧
    (twoClients.answer postRequest).1.hub.peers.map (·.queue.length) = [1, 1] ∧
    ∃ t, twoClients.hub.Agree 0 oneElement t (twoClients.receive 0 pushFrame).hub
      (twoClients.answer postRequest).1.hub := by
  have hnull : oneElement.get? "elements" ≠ some .null := by
    intro h
    cases h
  obtain ⟨p, hp, hjoined⟩ : ∃ p, twoClients.hub.peers[0]? = some p ∧ p.joined = true :=
    ⟨_, rfl, rfl⟩
  obtain ⟨hagree, -⟩ :=
    push_agrees_with_post hp hjoined carries_pushFrame hnull ⟨rfl, rfl⟩ ⟨_, ofBytes_postRequest⟩
  obtain ⟨happlied, halike, -⟩ := hagree not_obstructed_oneElement
  have happlies := happlied.mpr ⟨rfl, by decide +kernel⟩
  exact ⟨happlies, by decide +kernel, by decide +kernel, halike happlies⟩

/-- A push of a scene of arrays inside one another. -/
def towerFrame (n : Nat) : Frame := .text ((towerScene n).envelope "scene:update").render

theorem parse_towerFrame {room n : Nat} (h : n + 3 ≤ room) :
    Json.parseMarked room ((towerScene n).envelope "scene:update").render =
      .ok ((towerScene n).envelope "scene:update") := by
  refine Json.parseMarked_render ((plain_towerScene n).envelope _) ?_
  rw [Scene.nesting_envelope, nesting_towerScene]
  exact h

theorem carries_towerFrame {n : Nat} (hs : (towerScene n).toJson = .object payload) :
    (towerFrame n).Carries payload := by
  refine ⟨_, _, n + 3, rfl, parse_towerFrame (Nat.le_refl _), ?_, ?_⟩
  · simp [Fields.get?, Json.ofString]
  · simp [Fields.get?, Text.ofString, hs]

/-- A scene that can be read and not be told is put, and costs its sender the connection. -/
theorem receive_towerFrame {n : Nat} (hp : g.hub.peers[client]? = some p)
    (hjoined : p.joined = true) (hread : n + 3 ≤ g.limits.pushing.reading)
    (hwrite : g.limits.pushing.writing < n + 3) :
    g.applies client (towerFrame n) = false ∧ g.receive client (towerFrame n) =
      ({ g with hub := { g.hub with scene := towerScene n } } : Gateway).disconnect client := by
  have htold : ¬ ∃ t, (towerScene n).updateMessage g.limits.pushing.writing = .ok t := by
    rw [(plain_towerScene n).updateMessage_iff, nesting_towerScene]
    omega
  obtain ⟨payload, hs, helements, hview⟩ := (towerScene n).givesScene_toJson
  have hdeep : ¬ (towerFrame n).TooDeep g.limits.pushing.reading := by
    rintro ⟨raw, innermost, hraw, hstop⟩
    obtain rfl := Option.some.inj hraw
    cases (parse_towerFrame hread).symm.trans hstop
  obtain ⟨raw, hraw, hpush⟩ := (carries_towerFrame hs).ofPush hdeep
  have hpushed := pushedScene_eq_ok_iff.mpr ⟨helements, .inl hview⟩
  cases ht : (towerScene n).updateMessage g.limits.pushing.writing with
  | ok t => exact (htold ⟨t, ht⟩).elim
  | error limit => exact receive_of_unsaid hp hjoined hraw (hpush.trans hpushed) ht

/-- A scene that can be read and told is posted with success. -/
theorem status_towerRequest {n : Nat} (hread : n + 2 ≤ g.limits.body)
    (hwrite : n + 3 ≤ g.limits.replacing) : (g.answer (towerRequest n)).2.status = 200 := by
  obtain ⟨payload, hs, helements, hview⟩ := (towerScene n).givesScene_toJson
  have hbody := ofBytes_towerRequest hread
  have hgiven : Scene.ofBody payload = .ok (towerScene n) :=
    ofBody_eq_ok_iff.mpr ⟨.inl helements, .inl hview⟩
  cases g.posts_of_carries ⟨rfl, rfl⟩ ⟨_, hs ▸ hbody⟩ with
  | said _ _ hok _ => exact hok
  | tooDeep hdeep _ _ =>
    obtain ⟨innermost, hstop⟩ := hdeep
    cases hbody.symm.trans hstop
  | refused hs' _ _ => cases hgiven.symm.trans hs'
  | unsaid hs' ht' _ _ =>
    obtain rfl := Except.ok.inj (hgiven.symm.trans hs')
    rw [← nesting_towerScene] at hwrite
    obtain ⟨t, ht⟩ := (plain_towerScene n).updateMessage_iff.mpr hwrite
    cases ht.symm.trans ht'

/-- One array more than may stand in the element of a pushed scene for the message about it to be
written; a post has room for as many. -/
def deeperThanPushed : Nat := Limits.usual.pushing.writing - 2

/-- A scene that can be posted: the same client's push of it is dropped, and is not without
effect. -/
theorem dropped_tower :
    ∃ payload : Fields, (towerFrame deeperThanPushed).Carries payload ∧
      (towerRequest deeperThanPushed).Carries payload ∧
      payload.get? "elements" = some (.array [tower deeperThanPushed]) ∧
      ((({} : Gateway).connect "a").answer (towerRequest deeperThanPushed)).2.status = 200 ∧
      (({} : Gateway).connect "a").applies 0 (towerFrame deeperThanPushed) = false ∧
      ((({} : Gateway).connect "a").receive 0 (towerFrame deeperThanPushed)).hub.scene =
        towerScene deeperThanPushed ∧
      ((({} : Gateway).connect "a").receive 0
        (towerFrame deeperThanPushed)).hub.clientCount = 0 := by
  obtain ⟨payload, hs, helements, -⟩ := (towerScene deeperThanPushed).givesScene_toJson
  obtain ⟨p, hp, hjoined⟩ :
      ∃ p, (({} : Gateway).connect "a").hub.peers[0]? = some p ∧ p.joined = true := ⟨_, rfl, rfl⟩
  obtain ⟨happlies, hleft⟩ :=
    receive_towerFrame (n := deeperThanPushed) hp hjoined (by decide) (by decide)
  have hbody : Json.ofBytes Limits.usual.body (towerRequest deeperThanPushed).body =
      .ok (towerScene deeperThanPushed).toJson := ofBytes_towerRequest (by decide)
  refine ⟨payload, carries_towerFrame hs, ⟨_, hs ▸ hbody⟩, helements,
    status_towerRequest (by decide) (by decide), happlies, ?_, ?_⟩
  · rw [hleft, scene_disconnect]
  · rw [hleft]
    rfl

end Gateway

end Easel
