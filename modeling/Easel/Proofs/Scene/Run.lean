import Easel.Scene.Hub

/-! Runs of a hub: actions in any order, and what each of them does to one client. -/
namespace Easel

/-- What may happen to a hub. Each pump moves one step at a time, and each call has its own room for
the texts that it reads and writes. -/
inductive Action where
  | subscribe (name : String) (transport : Transport) (room : Nat)
  | unsubscribe (i : Nat)
  | append (elements : List Json) (origin : Option Nat) (room : Nat)
  | replaceElements (elements : List Json) (origin : Option Nat) (room : Nat)
  | replace (elements : List Json) (appState : Option Fields) (origin : Option Nat) (room : Nat)
  | clear (origin : Option Nat) (room : Nat)
  | broadcast (origin : Option Nat) (room : Nat)
  | receive (i : Nat) (raw : Text) (room : Json.Room)
  | pump (i : Nat) (outcome : Outcome)

/-- A scene to be put in the place of the old one, and whom the message about it leaves out. -/
structure Put where
  scene : Scene
  origin : Option Nat
  room : Nat

/-- The message about the scene, if it can be written. -/
def Put.text? (p : Put) : Option Text := (p.scene.updateMessage p.room).toOption

theorem Put.updateMessage_of_text {p : Put} {t : Text} (ht : p.text? = some t) :
    p.scene.updateMessage p.room = .ok t := by
  unfold text? at ht
  cases hm : p.scene.updateMessage p.room with
  | error e => simp [hm, Except.toOption] at ht
  | ok t' => simpa [hm, Except.toOption] using ht

theorem Put.updateMessage_of_text_none {p : Put} (ht : p.text? = none) :
    ∃ e, p.scene.updateMessage p.room = .error e := by
  unfold text? at ht
  cases hm : p.scene.updateMessage p.room with
  | error e => exact ⟨e, rfl⟩
  | ok t => simp [hm, Except.toOption] at ht

/-- What an action puts in the place of the scene `s`, if anything. A push leaves out its sender. -/
def Action.put? (s : Scene) : Action → Option Put
  | append elements origin room => some ⟨s.append elements, origin, room⟩
  | replaceElements elements origin room => some ⟨s.withElements elements, origin, room⟩
  | replace elements appState origin room => some ⟨.ofParts elements appState, origin, room⟩
  | clear origin room => some ⟨{}, origin, room⟩
  | broadcast origin room => some ⟨s, origin, room⟩
  | receive i raw room =>
    (Scene.ofPush room.reading raw).toOption.map fun s => ⟨s, some i, room.writing⟩
  | subscribe _ _ _ | unsubscribe _ | pump _ _ => none

/-- The broadcast that an action makes: its message, and whom it leaves out. There is none where the
message cannot be written. -/
def Action.broadcast? (s : Scene) (a : Action) : Option (Text × Option Nat) := do
  let put ← a.put? s
  let t ← put.text?
  some (t, put.origin)

/-- The scene that an action leaves. -/
def Scene.after (s : Scene) (a : Action) : Scene := (a.put? s).elim s Put.scene

namespace Hub

variable {h : Hub} {a : Action} {acts : List Action} {i j : Nat} {p p' : Peer} {α : Type}
  {put : Put} {t : Text} {origin : Option Nat}

/-- A hub to which no client has come. -/
def start (scene : Scene) (maxPending : Int) : Hub := { scene, maxPending }

def act (h : Hub) : Action → Hub
  | .subscribe name transport room => (h.subscribe name transport room).1
  | .unsubscribe i => (h.unsubscribe i).1
  | .append elements origin room => (h.append elements origin room).1
  | .replaceElements elements origin room => (h.replaceElements elements origin room).1
  | .replace elements appState origin room => (h.replace elements appState origin room).1
  | .clear origin room => (h.clear origin room).1
  | .broadcast origin room => (h.broadcast origin room).1
  | .receive i raw room => (h.receive i raw room).1
  | .pump i outcome => h.update i fun p => (p.step outcome).1

def run (h : Hub) (acts : List Action) : Hub := acts.foldl act h

/-- Whether a message from a client is taken as a change of the scene. -/
def applies (h : Hub) (i : Nat) (raw : Text) (room : Json.Room) : Bool :=
  match (h.receive i raw room).2 with
  | .ok (applied, _) => applied
  | .error _ => false

/-- What the actions of a run yield, each in the state that it meets. -/
def gather (f : Hub → Action → List α) : Hub → List Action → List α
  | _, [] => []
  | h, a :: rest => f h a ++ gather f (h.act a) rest

/-- Whether a client is there and alive. -/
def isLive (h : Hub) (i : Nat) : Bool := (h.peers[i]?).any (·.alive)

/-- The message that a client accepts in an action, if any. -/
def accepts (i : Nat) (h : Hub) : Action → List Text
  | .pump j outcome =>
    if j = i then ((h.peers[i]?).bind fun p => (p.step outcome).2.1).toList else []
  | _ => []

/-- The messages that a client accepts in a run. -/
def accepted (h : Hub) (i : Nat) (acts : List Action) : List Text := gather (accepts i) h acts

theorem run_cons : h.run (a :: acts) = (h.act a).run acts := rfl

/-- Runs are taken apart from their ends, since that is where clients stand. -/
theorem run_snoc : h.run (acts ++ [a]) = (h.run acts).act a := by
  simp [run]

theorem gather_snoc (f : Hub → Action → List α) :
    gather f h (acts ++ [a]) = gather f h acts ++ f (h.run acts) a := by
  induction acts generalizing h with
  | nil => simp [gather, run]
  | cons b rest ih =>
    rw [List.cons_append, gather, gather, ih, run_cons, List.append_assoc]

theorem act_of_put (ha : a.put? h.scene = some put) :
    h.act a = (h.put put.scene put.origin put.room).1 := by
  cases a with
  | receive i raw room =>
    cases hs : Scene.ofPush room.reading raw with
    | error why => simp [Action.put?, hs, Except.toOption] at ha
    | ok s =>
      simp only [Action.put?, hs, Except.toOption, Option.map_some, Option.some.injEq] at ha
      subst ha
      simp [act, receive, hs]
  | subscribe | unsubscribe | pump => cases ha
  | append | replaceElements | replace | clear | broadcast =>
    cases ha
    rfl

theorem act_receive_of_refused {raw : Text} {room : Json.Room}
    (ha : (Action.receive i raw room).put? h.scene = none) : h.act (.receive i raw room) = h := by
  cases hs : Scene.ofPush room.reading raw with
  | error why =>
    simp only [act, receive, hs]
    split <;> rfl
  | ok s => simp [Action.put?, hs, Except.toOption] at ha

/-- A scene that can be told is put and told. -/
theorem put_eq_ok {s : Scene} {room : Nat} (ht : s.updateMessage room = .ok t) :
    h.put s origin room =
      (({ h with scene := s }.tell t origin).1, .ok ({ h with scene := s }.tell t origin).2) := by
  simp only [Hub.put, broadcast, ht]

/-- The scene is replaced even if nobody can be told. -/
theorem put_eq_error {s : Scene} {room : Nat} {limit : Json.Limit}
    (ht : s.updateMessage room = .error limit) :
    h.put s origin room = ({ h with scene := s }, .error limit) := by
  simp only [Hub.put, broadcast, ht]

/-- One that cannot be told is put all the same. -/
theorem put_of_text_none (ht : put.text? = none) :
    (h.put put.scene put.origin put.room).1 = { h with scene := put.scene } := by
  obtain ⟨e, hm⟩ := put.updateMessage_of_text_none ht
  rw [put_eq_error hm]

theorem put_of_text (ht : put.text? = some t) :
    (h.put put.scene put.origin put.room).1 =
      ({ h with scene := put.scene }.tell t put.origin).1 := by
  rw [put_eq_ok (put.updateMessage_of_text ht)]

/-- A broadcast is a scene that is put together with the message about it. -/
theorem broadcast?_eq_some {s : Scene} : a.broadcast? s = some (t, origin) ↔
    ∃ put, a.put? s = some put ∧ put.text? = some t ∧ put.origin = origin := by
  constructor
  · intro h
    obtain ⟨put, hput, h⟩ := Option.bind_eq_some_iff.mp h
    obtain ⟨t', ht, h⟩ := Option.bind_eq_some_iff.mp h
    cases h
    exact ⟨put, hput, ht, rfl⟩
  · rintro ⟨put, hput, ht, rfl⟩
    simp only [Action.broadcast?, hput, ht, Option.bind_eq_bind, Option.bind_some]

/-- A put makes a broadcast if the message about it can be written. -/
theorem isSome_broadcast?_iff {s : Scene} (ha : a.put? s = some put) :
    (a.broadcast? s).isSome = true ↔ ∃ t, put.scene.updateMessage put.room = .ok t := by
  simp only [Action.broadcast?, ha, Put.text?, Option.bind_eq_bind, Option.bind_some]
  cases put.scene.updateMessage put.room <;> simp [Except.toOption]

/-- Either way the scene is the new one. -/
theorem scene_put (h : Hub) (s : Scene) (origin : Option Nat) (room : Nat) :
    (h.put s origin room).1.scene = s := by
  unfold Hub.put broadcast
  split <;> rfl

/-- A client that comes, with its first message unless not even that may wait. -/
def newcomer (h : Hub) (name : String) (transport : Transport) (first : Text) : Peer :=
  { (({ name, transport } : Peer).enqueue h.maxPending first).1 with joined := true }

/-- What an action can make of a hub. -/
inductive Effect (h : Hub) : Action → Hub → Prop where
  | told {a : Action} {put : Put} {t : Text} (ha : a.put? h.scene = some put)
      (ht : put.text? = some t) : Effect h a ({ h with scene := put.scene }.tell t put.origin).1
  | unsaid {a : Action} {put : Put} (ha : a.put? h.scene = some put) (ht : put.text? = none) :
      Effect h a { h with scene := put.scene }
  | refused {i : Nat} {raw : Text} {room : Json.Room}
      (ha : (Action.receive i raw room).put? h.scene = none) : Effect h (.receive i raw room) h
  | joined {name : String} {transport : Transport} {room : Nat} {first : Text}
      (ht : h.scene.initMessage room = .ok first) :
      Effect h (.subscribe name transport room)
        { h with peers := h.peers ++ [h.newcomer name transport first] }
  | keptOut {name : String} {transport : Transport} {room : Nat} {e : Json.Limit}
      (ht : h.scene.initMessage room = .error e) : Effect h (.subscribe name transport room) h
  | left {i : Nat} :
      Effect h (.unsubscribe i)
        (h.update i fun p => { p.close h.maxPending with joined := false })
  | pumped {i : Nat} {outcome : Outcome} :
      Effect h (.pump i outcome) (h.update i fun p => (p.step outcome).1)

theorem act_unsubscribe :
    h.act (.unsubscribe i) =
      h.update i fun p => { p.close h.maxPending with joined := false } := by
  simp only [act, unsubscribe]
  split
  · rename_i hp
    have hlen := List.getElem?_eq_none_iff.mp hp
    rw [update, List.modify_eq_self hlen]
  · rfl

theorem act_subscribe_of_ok {name : String} {transport : Transport} {room : Nat} {first : Text}
    (ht : h.scene.initMessage room = .ok first) :
    h.act (.subscribe name transport room) =
      { h with peers := h.peers ++ [h.newcomer name transport first] } := by
  simp only [act, subscribe, ht, newcomer]

theorem act_subscribe_of_error {name : String} {transport : Transport} {room : Nat}
    {e : Json.Limit} (ht : h.scene.initMessage room = .error e) :
    h.act (.subscribe name transport room) = h := by
  simp only [act, subscribe, ht]

/-- All that an action can do to the hub as a whole. -/
theorem effect_act (h : Hub) (a : Action) : Effect h a (h.act a) := by
  cases ha : a.put? h.scene with
  | some put =>
    rw [act_of_put ha]
    cases ht : put.text? with
    | some t =>
      rw [put_of_text ht]
      exact .told ha ht
    | none =>
      rw [put_of_text_none ht]
      exact .unsaid ha ht
  | none =>
    cases a with
    | receive i raw room =>
      rw [act_receive_of_refused ha]
      exact .refused ha
    | subscribe name transport room =>
      cases ht : h.scene.initMessage room with
      | ok first =>
        rw [act_subscribe_of_ok ht]
        exact .joined ht
      | error e =>
        rw [act_subscribe_of_error ht]
        exact .keptOut ht
    | unsubscribe i =>
      rw [act_unsubscribe]
      exact .left
    | pump i outcome => exact .pumped
    | append | replaceElements | replace | clear | broadcast => cases ha

/-- Whether an action changes the scene does not depend on the clients. -/
theorem scene_act : (h.act a).scene = h.scene.after a := by
  have he := effect_act h a
  generalize h.act a = h' at he ⊢
  cases he with
  | told ha _ | unsaid ha _ => simp [Scene.after, ha, tell]
  | refused ha => simp [Scene.after, ha]
  | joined | keptOut | left | pumped => rfl

theorem maxPending_act : (h.act a).maxPending = h.maxPending := by
  have he := effect_act h a
  generalize h.act a = h' at he ⊢
  cases he with
  | told | unsaid | refused | joined | keptOut | left | pumped => rfl

/-- Members but the origin are told, and nobody else. -/
theorem getElem?_tell : (h.tell t origin).1.peers[i]? = (h.peers[i]?).map fun p =>
    if p.joined && origin != some i then (p.enqueue h.maxPending t).1 else p := by
  simp only [tell, List.getElem?_map, List.getElem?_mapIdx, Option.map_map]
  congr 1
  funext p
  simp only [Function.comp_apply, afterBroadcast]
  split <;> rfl

theorem getElem?_update (f : Peer → Peer) :
    (h.update j f).peers[i]? = if j = i then (h.peers[i]?).map f else h.peers[i]? := by
  rw [update, List.getElem?_modify]
  split <;> simp

theorem getElem?_append_peer (q : Peer) :
    ({ h with peers := h.peers ++ [q] } : Hub).peers[i]? =
      if h.peers.length = i then some q else h.peers[i]? := by
  change (h.peers ++ [q])[i]? = _
  split
  · rename_i hi
    subst hi
    simp
  · rename_i hi
    rcases Nat.lt_or_gt_of_ne hi with hlt | hlt
    · rw [List.getElem?_eq_none (by simp; omega), List.getElem?_eq_none (by omega)]
    · rw [List.getElem?_append_left hlt]

theorem getElem?_unsubscribe :
    (h.act (.unsubscribe j)).peers[i]? =
      if j = i then (h.peers[i]?).map fun p => { p.close h.maxPending with joined := false }
      else h.peers[i]? := by
  rw [act_unsubscribe, getElem?_update]

theorem getElem?_pump (outcome : Outcome) :
    (h.act (.pump j outcome)).peers[i]? =
      if j = i then (h.peers[i]?).map fun p => (p.step outcome).1 else h.peers[i]? :=
  getElem?_update _

/-- What an action can do to a client that is there. -/
inductive Change (h : Hub) (i : Nat) : Action → Peer → Peer → Prop where
  | told {a : Action} {t : Text} {origin : Option Nat} {p : Peer}
      (ha : a.broadcast? h.scene = some (t, origin)) (ho : origin ≠ some i)
      (hj : p.joined = true) : Change h i a p (p.enqueue h.maxPending t).1
  | dismissed {p : Peer} :
      Change h i (.unsubscribe i) p { p.close h.maxPending with joined := false }
  | pumped {outcome : Outcome} {p : Peer} : Change h i (.pump i outcome) p (p.step outcome).1
  | spared {a : Action} {p : Peer}
      (ha : ∀ t origin, a.broadcast? h.scene = some (t, origin) →
        origin = some i ∨ p.joined = false)
      (hp : ∀ outcome, a ≠ .pump i outcome) : Change h i a p p

theorem broadcast?_of_put_none {s : Scene} (ha : a.put? s = none) : a.broadcast? s = none := by
  simp [Action.broadcast?, ha]

theorem broadcast?_of_text_none {s : Scene} (ha : a.put? s = some put) (ht : put.text? = none) :
    a.broadcast? s = none := by
  simp [Action.broadcast?, ha, ht]

theorem broadcast?_of_text {s : Scene} (ha : a.put? s = some put) (ht : put.text? = some t) :
    a.broadcast? s = some (t, put.origin) := broadcast?_eq_some.mpr ⟨put, ha, ht, rfl⟩

/-- An action that puts a scene moves no pump. -/
theorem ne_pump_of_put {s : Scene} (ha : a.put? s = some put) (outcome : Outcome) :
    a ≠ .pump i outcome := by
  rintro rfl
  cases ha

/-- A message is taken as a change if it pushes a scene of which the others can be told. -/
theorem applies_eq {raw : Text} {room : Json.Room} :
    h.applies i raw room = ((Action.receive i raw room).broadcast? h.scene).isSome := by
  cases hs : Scene.ofPush room.reading raw with
  | error why =>
    have hput : (Action.receive i raw room).put? h.scene = none := by
      simp [Action.put?, hs, Except.toOption]
    rw [broadcast?_of_put_none hput]
    simp only [applies, receive, hs]
    cases why.breaksOff? <;> rfl
  | ok s =>
    have hput : (Action.receive i raw room).put? h.scene = some ⟨s, some i, room.writing⟩ := by
      simp [Action.put?, hs, Except.toOption]
    simp only [applies, receive, hs, Hub.put, broadcast, Action.broadcast?, hput, Put.text?,
      Option.bind_eq_bind, Option.bind_some]
    cases s.updateMessage room.writing <;> rfl

/-- All that an action can do to one client, whoever it is meant for. -/
theorem change_act (hp : h.peers[i]? = some p) (a : Action) :
    ∃ p', (h.act a).peers[i]? = some p' ∧ Change h i a p p' := by
  have he := effect_act h a
  generalize h.act a = h' at he ⊢
  cases he with
  | @told _ put t ha ht =>
    have hb := broadcast?_of_text ha ht
    rw [getElem?_tell, hp, Option.map_some]
    refine ⟨_, rfl, ?_⟩
    by_cases hj : (p.joined && put.origin != some i) = true
    · rw [if_pos hj]
      simp only [Bool.and_eq_true, bne_iff_ne] at hj
      exact .told hb hj.2 hj.1
    · rw [if_neg hj]
      refine .spared (fun t' o ho => ?_) (ne_pump_of_put ha)
      obtain ⟨-, rfl⟩ : t = t' ∧ put.origin = o := by simpa [hb] using ho
      by_cases hoi : put.origin = some i
      · exact .inl hoi
      · simp_all
  | unsaid ha ht =>
    exact ⟨p, hp, .spared (by simp [broadcast?_of_text_none ha ht]) (ne_pump_of_put ha)⟩
  | refused ha => exact ⟨p, hp, .spared (by simp [broadcast?_of_put_none ha]) (by simp)⟩
  | joined =>
    have hi := Nat.ne_of_gt (List.getElem?_eq_some_iff.mp hp).1
    rw [getElem?_append_peer, if_neg hi]
    exact ⟨p, hp, .spared (by simp [Action.broadcast?, Action.put?]) (by simp)⟩
  | keptOut => exact ⟨p, hp, .spared (by simp [Action.broadcast?, Action.put?]) (by simp)⟩
  | @left j =>
    rw [getElem?_update]
    by_cases hj : j = i
    · subst j
      exact ⟨_, by simp [hp], .dismissed⟩
    · exact ⟨p, by simp [hp, hj], .spared (by simp [Action.broadcast?, Action.put?]) (by simp)⟩
  | @pumped j outcome =>
    rw [getElem?_update]
    by_cases hj : j = i
    · subst j
      exact ⟨_, by simp [hp], .pumped⟩
    · exact ⟨p, by simp [hp, hj],
        .spared (by simp [Action.broadcast?, Action.put?]) (by simp [hj])⟩

/-- A client comes only by subscribing, and is known by how many came before it. -/
theorem newcomer_of_act (hp : h.peers[i]? = none) (hp' : (h.act a).peers[i]? = some p') :
    ∃ name transport room first, a = .subscribe name transport room ∧ h.peers.length = i ∧
      h.scene.initMessage room = .ok first ∧ p' = h.newcomer name transport first := by
  have he := effect_act h a
  generalize h.act a = h' at he hp'
  cases he with
  | told => simp [getElem?_tell, hp] at hp'
  | unsaid | refused | keptOut => simp [hp] at hp'
  | @joined name transport room first ht =>
    rw [getElem?_append_peer] at hp'
    by_cases hi : h.peers.length = i
    · rw [if_pos hi] at hp'
      exact ⟨name, transport, room, first, rfl, hi, ht, (Option.some.inj hp').symm⟩
    · simp [hi, hp] at hp'
  | left | pumped => simp [getElem?_update, hp] at hp'

/-- A client comes in an action: it subscribes, and its first message can be written. -/
def arrives (h : Hub) : Action → Bool
  | .subscribe _ _ room => (h.scene.initMessage room).toOption.isSome
  | _ => false

/-- Nobody is ever taken off the list. -/
theorem length_act : (h.act a).peers.length = h.peers.length + (h.arrives a).toNat := by
  have he := effect_act h a
  generalize h.act a = h' at he ⊢
  cases he with
  | told ha _ | unsaid ha _ =>
    have hno : h.arrives a = false := by cases a <;> first | rfl | cases ha
    simp [tell, hno]
  | refused => rfl
  | joined ht => simp [arrives, ht, Except.toOption]
  | keptOut ht => simp [arrives, ht, Except.toOption]
  | left | pumped => simp [update, arrives]

theorem update_congr {f g : Peer → Peer} (hp : h.peers[i]? = some p) (hfg : f p = g p) :
    h.update i f = h.update i g := by
  have hmodify : h.peers.modify i f = h.peers.modify i g := by
    apply List.ext_getElem?
    intro k
    rw [List.getElem?_modify, List.getElem?_modify]
    by_cases hk : i = k
    · subst k
      simp [hp, hfg]
    · simp [hk]
  rw [update, update, hmodify]

theorem update_of_getElem? (hp : h.peers[i]? = some p) : (h.update i fun _ => p) = h := by
  have hkept : (h.update i fun _ => p) = h.update i id := update_congr hp rfl
  rw [hkept, update, List.modify_id]

/-- Letting a pump work until it is idle is a run of its steps. -/
theorem drain_isRun (h : Hub) (i : Nat) :
    ∃ outcomes : List Outcome, (h.drain i).1 = h.run (outcomes.map (.pump i)) ∧
      (h.drain i).2.1 = h.accepted i (outcomes.map (.pump i)) := by
  cases hp : h.peers[i]? with
  | none => exact ⟨[], by simp [drain, hp, run], by simp [drain, hp, accepted, gather]⟩
  | some p =>
    simp only [drain, hp]
    fun_induction Peer.drain p generalizing h with
    | case1 p hidle => exact ⟨[], update_of_getElem? hp, rfl⟩
    | case2 p hbusy s r ih =>
      let outcome := p.transport.outcome
      have hp' : (h.act (.pump i outcome)).peers[i]? = some s.1 := by
        rw [getElem?_pump, if_pos rfl, hp]
        rfl
      obtain ⟨outcomes, hrun, hacc⟩ := ih _ hp'
      refine ⟨outcome :: outcomes, ?_, ?_⟩
      · rw [List.map_cons, run_cons, ← hrun]
        simp only [act, update, List.modify_modify_eq]
        rfl
      · have hfirst : accepts i h (.pump i outcome) = s.2.1.toList := by
          simp [accepts, hp, s, outcome]
        rw [List.map_cons, accepted, gather, hfirst]
        exact congrArg _ hacc

end Hub

end Easel
