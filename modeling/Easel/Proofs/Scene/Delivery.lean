import Easel.Proofs.Scene.Outstanding
import Easel.Proofs.Scene.Run
import Mathlib.Data.List.Induction

/-! What a client is owed is what it gets, in this order, as long as it is alive; a dead client
has got a first part of it. -/
namespace Easel

namespace Peer

variable {p : Peer} {accepted owed : List Text}

/-- What a client has accepted, and has still to accept, agrees with what it is owed. -/
structure Faithful (p : Peer) (accepted owed : List Text) : Prop where
  promised : accepted ++ p.outstanding <+: owed
  complete : p.alive = true → p.Open ∧ accepted ++ p.outstanding = owed

/-- A client that is given up keeps what it has accepted, and gets nothing more. -/
theorem faithful_abandon (hp : p.Faithful accepted owed) (more : List Text) :
    p.abandon.Faithful accepted (owed ++ more) := by
  refine ⟨?_, by simp [abandon]⟩
  rw [outstanding_abandon]
  have h := (List.prefix_append_right_inj accepted).mpr (inFlight_prefix_outstanding (p := p))
  exact (h.trans hp.promised).trans (List.prefix_append owed more)

/-- Queueing a message settles what a living client is owed by it. -/
theorem faithful_enqueue (hp : p.Faithful accepted owed) (maxPending : Int) (t : Text) :
    (p.enqueue maxPending t).1.Faithful accepted (owed ++ if p.alive then [t] else []) := by
  rcases p.enqueue_cases maxPending t with ⟨halive, he⟩ | ⟨halive, he⟩ | ⟨halive, he⟩
  · simpa [he, halive] using hp
  · rw [he]
    exact faithful_abandon hp _
  · obtain ⟨hopen, howed⟩ := hp.complete halive
    have heq : accepted ++ outstanding { p with queue := p.queue ++ [.text t] } = owed ++ [t] := by
      rw [outstanding_append_text hopen, ← howed, List.append_assoc]
    rw [he, halive, if_pos rfl]
    refine ⟨heq ▸ List.prefix_refl _, fun _ => ⟨⟨hopen.joined, hopen.running, ?_⟩, heq⟩⟩
    simpa using hopen.unclosed

theorem faithful_close (hp : p.Faithful accepted owed) (maxPending : Int) :
    Faithful { p.close maxPending with joined := false } accepted owed := by
  simp only [close]
  split
  · have h := faithful_abandon hp []
    rw [List.append_nil] at h
    exact ⟨h.promised, by simp [abandon]⟩
  · have h := hp.promised
    rw [← outstanding_append_close] at h
    exact ⟨h, by simp⟩

/-- A step of the pump moves messages on, and loses what it leaves behind only with the client. -/
theorem faithful_step (hp : p.Faithful accepted owed) (outcome : Outcome) :
    (p.step outcome).1.Faithful (accepted ++ (p.step outcome).2.1.toList) owed := by
  rcases p.step_cases outcome with ⟨halive, hout⟩ | ⟨hdead, hnone, hout⟩
  · refine ⟨by rw [List.append_assoc, hout]; exact hp.promised, fun ha => ?_⟩
    obtain ⟨hopen, howed⟩ := hp.complete (halive ▸ ha)
    exact ⟨open_step hopen ha, by rw [List.append_assoc, hout, howed]⟩
  · refine ⟨?_, by simp [hdead]⟩
    simpa [hnone, hout] using (List.prefix_append accepted _).trans hp.promised

end Peer

namespace Hub

variable {h : Hub} {a : Action} {acts : List Action} {i : Nat} {p p' : Peer}

/-- What a client is owed for an action: the scene that it finds when it comes, and the new scene
of each broadcast that is made while it is alive and does not leave it out. -/
def owes (i : Nat) (h : Hub) (a : Action) : List Text :=
  match a, a.broadcast? h.scene with
  | .subscribe _ _ room, _ =>
    if h.peers.length = i then (h.scene.initMessage room).toOption.toList else []
  | _, some (t, origin) => if h.isLive i ∧ origin ≠ some i then [t] else []
  | _, none => []

/-- What a client is owed for a run. -/
def owed (h : Hub) (i : Nat) (acts : List Action) : List Text := gather (owes i) h acts

theorem accepted_snoc :
    h.accepted i (acts ++ [a]) = h.accepted i acts ++ accepts i (h.run acts) a :=
  gather_snoc _

theorem owed_snoc : h.owed i (acts ++ [a]) = h.owed i acts ++ owes i (h.run acts) a :=
  gather_snoc _

/-- A change is owed to the living clients but the one that made it. -/
theorem owes_of_broadcast {t : Text} {origin : Option Nat}
    (ha : a.broadcast? h.scene = some (t, origin)) :
    owes i h a = if h.isLive i ∧ origin ≠ some i then [t] else [] := by
  cases a with
  | subscribe | unsubscribe | pump => cases ha
  | receive | append | replaceElements | replace | clear | broadcast => simp only [owes, ha]

theorem owes_subscribe {name : String} {transport : Transport} {room : Nat} :
    owes i h (.subscribe name transport room) =
      if h.peers.length = i then (h.scene.initMessage room).toOption.toList else [] := rfl

/-- Without a broadcast nothing is owed but to a client that comes. -/
theorem owes_of_no_broadcast (ha : a.broadcast? h.scene = none)
    (hnew : ∀ name transport room, a = .subscribe name transport room → h.peers.length ≠ i) :
    owes i h a = [] := by
  cases a with
  | subscribe name transport room => rw [owes_subscribe, if_neg (hnew name transport room rfl)]
  | receive | append | replaceElements | replace | clear | broadcast | unsubscribe | pump =>
    simp only [owes, ha]

theorem isLive_of_getElem? (hp : h.peers[i]? = some p) : h.isLive i = p.alive := by
  simp [isLive, hp]

/-- A client accepts messages only while its own pump moves. -/
theorem accepts_of_ne_pump {a : Action} (ha : ∀ outcome, a ≠ .pump i outcome) :
    accepts i h a = [] := by
  cases a with
  | pump j outcome =>
    have hj : j ≠ i := fun he => ha outcome (by rw [he])
    simp [accepts, hj]
  | _ => rfl

/-- The account of a client that is there stays true in every action. -/
theorem faithful_change {accepted owed : List Text} (hp : h.peers[i]? = some p)
    (hc : Change h i a p p') (hf : p.Faithful accepted owed) :
    p'.Faithful (accepted ++ accepts i h a) (owed ++ owes i h a) := by
  have hlen := (List.getElem?_eq_some_iff.mp hp).1
  cases hc with
  | @told _ t origin _ ha ho hj =>
    have hacc : accepts i h a = [] := by cases a <;> first | rfl | cases ha
    rw [hacc, List.append_nil, owes_of_broadcast ha, isLive_of_getElem? hp]
    simpa [ho] using Peer.faithful_enqueue hf h.maxPending t
  | dismissed =>
    have howe : owes i h (.unsubscribe i) = [] := rfl
    rw [howe, List.append_nil]
    simpa [accepts] using Peer.faithful_close hf h.maxPending
  | @pumped outcome =>
    have hacc : accepts i h (.pump i outcome) = (p.step outcome).2.1.toList := by
      simp [accepts, hp]
    have howe : owes i h (.pump i outcome) = [] := rfl
    rw [hacc, howe, List.append_nil]
    exact Peer.faithful_step hf outcome
  | spared ha hpump =>
    have hacc : accepts i h a = [] := accepts_of_ne_pump hpump
    have howe : owes i h a = [] := by
      cases ho : a.broadcast? h.scene with
      | some broadcast =>
        obtain ⟨t, origin⟩ := broadcast
        rw [owes_of_broadcast ho, isLive_of_getElem? hp]
        rcases ha t origin ho with he | hj
        · simp [he]
        · cases halive : p.alive with
          | false => simp
          | true => exact absurd (hf.complete halive).1.joined (by simp [hj])
      | none => exact owes_of_no_broadcast ho fun _ _ _ _ => Nat.ne_of_gt hlen
    simpa [hacc, howe] using hf

/-- A client that has just come is owed the scene that it finds. -/
theorem faithful_newcomer (name : String) (transport : Transport) (first : Text) :
    (h.newcomer name transport first).Faithful [] [first] := by
  simp only [newcomer, Peer.enqueue]
  split
  · rename_i hdead
    simp at hdead
  · split
    · exact ⟨by simp [Peer.abandon, Peer.outstanding, Peer.inFlight, Packet.texts],
        by simp [Peer.abandon]⟩
    · refine ⟨?_, fun _ => ⟨⟨rfl, by simp, by simp⟩, ?_⟩⟩ <;>
        simp [Peer.outstanding, Peer.inFlight, Packet.texts]

/-- The account of one client after a run: one that has not come has accepted nothing and is owed
nothing. -/
def Accounted (h : Hub) (i : Nat) (accepted owed : List Text) : Prop :=
  match h.peers[i]? with
  | none => accepted = [] ∧ owed = []
  | some p => p.Faithful accepted owed

/-- What one action preserves: clients are owed what is told, and accept it in order. -/
theorem accounted_act {accepted owed : List Text} (ha : h.Accounted i accepted owed) (a : Action) :
    (h.act a).Accounted i (accepted ++ accepts i h a) (owed ++ owes i h a) := by
  unfold Accounted at ha
  cases hp : h.peers[i]? with
  | some p =>
    rw [hp] at ha
    obtain ⟨p', hp', hc⟩ := change_act hp a
    simpa [Accounted, hp'] using faithful_change hp hc ha
  | none =>
    rw [hp] at ha
    obtain ⟨rfl, rfl⟩ := ha
    have hacc : accepts i h a = [] := by
      cases a <;> simp [accepts, hp]
    cases hp' : (h.act a).peers[i]? with
    | some p' =>
      obtain ⟨name, transport, room, first, rfl, hi, hfirst, rfl⟩ := newcomer_of_act hp hp'
      simpa [Accounted, hp', hacc, owes_subscribe, hi, hfirst, Except.toOption] using
        faithful_newcomer name transport first
    | none =>
      have howe : owes i h a = [] := by
        cases ho : a.broadcast? h.scene with
        | some broadcast => simp [owes_of_broadcast ho, isLive, hp]
        | none =>
          cases a with
          | subscribe name transport room =>
            -- where the place of the next client stays empty, it could not be shown the scene
            rw [owes_subscribe]
            cases hm : h.scene.initMessage room with
            | error e => simp [Except.toOption]
            | ok first =>
              rw [act_subscribe_of_ok hm, getElem?_append_peer] at hp'
              by_cases hi : h.peers.length = i
              · simp [hi] at hp'
              · rw [if_neg hi]
          | receive | append | replaceElements | replace | clear | broadcast | unsubscribe
          | pump => exact owes_of_no_broadcast ho fun _ _ _ he => by cases he
      simp [Accounted, hp', hacc, howe]

/-- By induction on the run. -/
theorem accounted_run (scene : Scene) (maxPending : Int) (acts : List Action) (i : Nat) :
    ((start scene maxPending).run acts).Accounted i ((start scene maxPending).accepted i acts)
      ((start scene maxPending).owed i acts) := by
  induction acts using List.reverseRecOn with
  | nil => simp [Accounted, start, run, accepted, owed, gather]
  | append_singleton acts a ih =>
    rw [run_snoc, accepted_snoc, owed_snoc]
    exact accounted_act ih a

/-- Once a client is there it is owed nothing but changes. -/
theorem owes_updates (hp : h.peers[i]? = some p) (a : Action) :
    ∀ t ∈ owes i h a, ∃ (s : Scene) (room : Nat), s.updateMessage room = .ok t := by
  intro t ht
  have hlen := (List.getElem?_eq_some_iff.mp hp).1
  cases ha : a.broadcast? h.scene with
  | some broadcast =>
    obtain ⟨t', origin⟩ := broadcast
    obtain ⟨put, -, hput, -⟩ := broadcast?_eq_some.mp ha
    rw [owes_of_broadcast ha] at ht
    split at ht
    · obtain rfl := List.mem_singleton.mp ht
      exact ⟨put.scene, put.room, put.updateMessage_of_text hput⟩
    · cases ht
  | none =>
    rw [owes_of_no_broadcast ha fun _ _ _ _ => Nat.ne_of_gt hlen] at ht
    cases ht

/-- What a client is owed begins with the scene that it found, and goes on with changes. -/
theorem owed_of_present {scene : Scene} {maxPending : Int}
    (hp : ((start scene maxPending).run acts).peers[i]? = some p) :
    ∃ before name transport room rest first updates,
      acts = before ++ .subscribe name transport room :: rest ∧
      ((start scene maxPending).run before).peers.length = i ∧
      ((start scene maxPending).run before).scene.initMessage room = .ok first ∧
      (start scene maxPending).owed i acts = first :: updates ∧
      ∀ t ∈ updates, ∃ (s : Scene) (room : Nat), s.updateMessage room = .ok t := by
  induction acts using List.reverseRecOn generalizing p with
  | nil => simp [start, run] at hp
  | append_singleton acts a ih =>
    rw [run_snoc] at hp
    cases hq : ((start scene maxPending).run acts).peers[i]? with
    | some q =>
      obtain ⟨before, name, transport, room, rest, first, updates, rfl, hi, hfirst, howed, hup⟩ :=
        ih hq
      refine ⟨before, name, transport, room, rest ++ [a], first, updates ++ owes i _ a, by simp, hi,
        hfirst, by rw [owed_snoc, howed, List.cons_append], ?_⟩
      intro t ht
      rcases List.mem_append.mp ht with ht | ht
      · exact hup t ht
      · exact owes_updates hq a t ht
    | none =>
      obtain ⟨name, transport, room, first, rfl, hi, hfirst, rfl⟩ := newcomer_of_act hq hp
      have hnone := accounted_run scene maxPending acts i
      rw [Accounted, hq] at hnone
      refine ⟨acts, name, transport, room, [], first, [], rfl, hi, hfirst, ?_, by simp⟩
      simp [owed_snoc, hnone.2, owes_subscribe, hi, hfirst, Except.toOption]

end Hub

/-- The types of messages differ in their seventeenth character. -/
theorem Scene.initMessage_ne_updateMessage {s s' : Scene} {room room' : Nat} {t : Text}
    (h : s.initMessage room = .ok t) : s'.updateMessage room' ≠ .ok t := by
  intro h'
  have hi : (s.envelope "scene:init").render[16]? = some (.scalar 'i') := rfl
  have hu : (s'.envelope "scene:update").render[16]? = some (.scalar 'u') := rfl
  rw [(initMessage_eq_ok_iff.mp h).2] at hi
  rw [(updateMessage_eq_ok_iff.mp h').2, hi] at hu
  simp at hu

namespace Hub

/-- A client accepts a first part of what it is owed, and while it is alive the rest is on its way
in the same order. The first message shows the scene that the client found, and no other message
is of this type. -/
theorem exact_delivery (scene : Scene) (maxPending : Int) (acts : List Action) (i : Nat) :
    (start scene maxPending).accepted i acts <+: (start scene maxPending).owed i acts ∧
    ∀ p, ((start scene maxPending).run acts).peers[i]? = some p →
      (p.alive = true →
        ((start scene maxPending).accepted i acts ++ p.inFlight).map .text ++ p.queue =
          ((start scene maxPending).owed i acts).map .text) ∧
      ∃ before name transport room rest first updates,
        acts = before ++ .subscribe name transport room :: rest ∧
        ((start scene maxPending).run before).peers.length = i ∧
        ((start scene maxPending).run before).scene.initMessage room = .ok first ∧
        (start scene maxPending).owed i acts = first :: updates ∧
        ∀ t ∈ updates, ∀ (s : Scene) (room : Nat), s.initMessage room ≠ .ok t := by
  have hacc := accounted_run scene maxPending acts i
  unfold Accounted at hacc
  refine ⟨?_, fun p hp => ⟨fun halive => ?_, ?_⟩⟩
  · split at hacc
    · simp [hacc.1, hacc.2]
    · exact (List.prefix_append _ _).trans hacc.promised
  · rw [hp] at hacc
    obtain ⟨hopen, howed⟩ := hacc.complete halive
    simp only [← howed, hopen.outstanding_eq, List.map_append, Packet.map_texts hopen.unclosed,
      List.append_assoc]
  · obtain ⟨before, name, transport, room, rest, first, updates, heq, hi, hfirst, howed, hup⟩ :=
      owed_of_present hp
    refine ⟨before, name, transport, room, rest, first, updates, heq, hi, hfirst, howed,
      fun t ht s room hinit => ?_⟩
    obtain ⟨s', room', hupdate⟩ := hup t ht
    exact Scene.initMessage_ne_updateMessage hinit hupdate

/-- A client with a message in flight and two behind it, one change of its own among those made. -/
theorem exact_delivery_behind :
    ∃ p, ((start {} 256).run [.subscribe "a" {} 9, .subscribe "b" {} 9, .pump 0 .sent,
        .pump 0 .sent, .append [.null] none 9, .clear (some 0) 9, .append [.bool true] (some 1) 9,
        .pump 0 .sent, .pump 0 .blocked, .clear none 9]).peers[0]? = some p ∧
      p.alive = true ∧ p.inFlight.length = 1 ∧ p.queue.length = 2 ∧
      ((start {} 256).accepted 0 [.subscribe "a" {} 9, .subscribe "b" {} 9, .pump 0 .sent,
        .pump 0 .sent, .append [.null] none 9, .clear (some 0) 9, .append [.bool true] (some 1) 9,
        .pump 0 .sent, .pump 0 .blocked, .clear none 9] ++ p.inFlight).map .text ++ p.queue =
      ((start {} 256).owed 0 [.subscribe "a" {} 9, .subscribe "b" {} 9, .pump 0 .sent,
        .pump 0 .sent, .append [.null] none 9, .clear (some 0) 9, .append [.bool true] (some 1) 9,
        .pump 0 .sent, .pump 0 .blocked, .clear none 9]).map .text :=
  ⟨_, rfl, rfl, rfl, rfl, ((exact_delivery {} 256 _ 0).2 _ rfl).1 rfl⟩

end Hub

end Easel
