import Easel.Proofs.Scene.Delivery

/-! Queues are bounded, and never get a packet that they have no room for: the one place more than
messages may wait is enough for the end of a queue, in whatever order clients fall behind, leave,
leave again and are sent to. A dead client stays dead, and its pump comes to its end. -/
namespace Easel

namespace Peer

variable {p p' : Peer} {maxPending : Int} {t : Text}

/-- Puts a packet into a queue, which fails if the queue is full. -/
def put? (maxPending : Int) (packet : Packet) (p : Peer) : Option Peer :=
  if p.isFull maxPending then none else some { p with queue := p.queue ++ [packet] }

/-- Empties the queue of a client that is given up, and puts its end there. -/
def abandon? (maxPending : Int) (p : Peer) : Option Peer :=
  ({ p with alive := false, queue := [] } : Peer).put? maxPending .close

def enqueue? (maxPending : Int) (t : Text) (p : Peer) : Option Peer :=
  if !p.alive then some p
  else if maxPending ≤ p.queue.length then p.abandon? maxPending
  else p.put? maxPending (.text t)

def close? (maxPending : Int) (p : Peer) : Option Peer :=
  if p.isFull maxPending then p.abandon? maxPending
  else ({ p with alive := false } : Peer).put? maxPending .close

/-- A queue has one place more than messages may wait in it. -/
theorem put?_of_le (h : p.queue.length ≤ maxPending) (packet : Packet) :
    p.put? maxPending packet = some { p with queue := p.queue ++ [packet] } := by
  have hroom : p.isFull maxPending = false := by
    simp only [isFull, decide_eq_false_iff_not]
    omega
  rw [put?, hroom, if_neg Bool.false_ne_true]

theorem abandon?_eq (h : 0 ≤ maxPending) (p : Peer) : p.abandon? maxPending = some p.abandon :=
  put?_of_le (p := { p with alive := false, queue := [] }) h .close

/-- So none of the three ways to put something in a queue finds it full. -/
theorem enqueue?_eq (h : 0 ≤ maxPending) (t : Text) (p : Peer) :
    p.enqueue? maxPending t = some (p.enqueue maxPending t).1 := by
  unfold enqueue? enqueue
  cases halive : p.alive with
  | false => rfl
  | true =>
    simp only [Bool.not_true, Bool.false_eq_true, if_false]
    split
    · exact abandon?_eq h p
    · rename_i hroom
      rw [put?_of_le (by omega), halive]

theorem close?_eq (h : 0 ≤ maxPending) (p : Peer) :
    p.close? maxPending = some (p.close maxPending) := by
  unfold close? close
  split
  · exact abandon?_eq h p
  · rename_i hroom
    exact if_neg hroom

/-- A queue within its bounds. While the client is alive only messages are in it, and no more than
may wait; once the client is dead its pump has finished or finds the end of the queue. -/
structure Orderly (maxPending : Int) (p : Peer) : Prop where
  bounded : p.queue.length ≤ maxPending + 1
  living : p.alive = true → p.Open ∧ p.queue.length ≤ maxPending
  ending : p.alive = false → p.pump = .finished ∨ .close ∈ p.queue

/-- What can be done to a client, and the message that it accepts thereby. -/
inductive Handled (maxPending : Int) (p : Peer) : List Text → Peer → Prop where
  | told (t : Text) : Handled maxPending p [] (p.enqueue maxPending t).1
  | dismissed : Handled maxPending p [] { p.close maxPending with joined := false }
  | pumped (outcome : Outcome) :
      Handled maxPending p (p.step outcome).2.1.toList (p.step outcome).1
  | spared : Handled maxPending p [] p

theorem orderly_abandon (h : 0 ≤ maxPending) (p : Peer) : p.abandon.Orderly maxPending where
  bounded := by
    simp only [abandon, List.length_singleton]
    omega
  living halive := by cases halive
  ending _ := .inr List.mem_cons_self

/-- A queue that is full is emptied for its end. -/
theorem orderly_enqueue (h : 0 ≤ maxPending) (hp : p.Orderly maxPending) (t : Text) :
    (p.enqueue maxPending t).1.Orderly maxPending := by
  unfold enqueue
  cases halive : p.alive with
  | false => exact hp
  | true =>
    simp only [Bool.not_true, Bool.false_eq_true, if_false]
    split
    · exact orderly_abandon h p
    · rename_i hroom
      obtain ⟨⟨hjoined, hrunning, hunclosed⟩, -⟩ := hp.living halive
      have hlen : ((p.queue ++ [Packet.text t]).length : Int) ≤ maxPending := by
        rw [List.length_append, List.length_singleton]
        omega
      have hmessages : .close ∉ p.queue ++ [Packet.text t] := by simpa using hunclosed
      refine ⟨Int.le_trans hlen (by omega), fun _ => ⟨⟨hjoined, hrunning, hmessages⟩, hlen⟩,
        fun hdead => ?_⟩
      cases hdead

theorem orderly_close (h : 0 ≤ maxPending) (p : Peer) :
    Orderly maxPending { p.close maxPending with joined := false } := by
  unfold close
  split
  · obtain ⟨hbounded, -, hending⟩ := orderly_abandon h p
    refine ⟨hbounded, fun halive => ?_, hending⟩
    cases halive
  · rename_i hroom
    simp only [isFull, decide_eq_true_eq] at hroom
    refine ⟨?_, fun halive => ?_, fun _ => .inr (by simp)⟩
    · rw [List.length_append, List.length_singleton]
      omega
    · cases halive

theorem queue_step_suffix (p : Peer) (outcome : Outcome) :
    (p.step outcome).1.queue <:+ p.queue := by
  obtain ⟨name, queue, alive, joined, pump, transport⟩ := p
  cases pump with
  | finished => exact List.suffix_rfl
  | ready =>
    match queue with
    | [] => exact List.suffix_rfl
    | .close :: rest => exact List.suffix_cons _ _
    | .text t :: rest => exact List.suffix_cons _ _
  | sending t => cases outcome <;> exact List.suffix_rfl

/-- A pump that leaves a dead client has finished, or has the end of the queue before it. -/
theorem ending_step (hp : p.Orderly maxPending) {outcome : Outcome}
    (hdead : (p.step outcome).1.alive = false) :
    (p.step outcome).1.pump = .finished ∨ .close ∈ (p.step outcome).1.queue := by
  have hending := hp.ending
  obtain ⟨name, queue, alive, joined, pump, transport⟩ := p
  cases pump with
  | finished => exact hending hdead
  | ready =>
    match queue with
    | [] => exact hending hdead
    | .close :: rest => exact .inl rfl
    | .text t :: rest => exact .inr (by simpa [step] using hending hdead)
  | sending t =>
    cases outcome with
    | blocked => exact hending hdead
    | sent => exact .inr (by simpa [step] using hending hdead)
    | failed => exact .inl rfl

/-- Pumps take from the queue, and put nothing in it. -/
theorem orderly_step (hp : p.Orderly maxPending) (outcome : Outcome) :
    (p.step outcome).1.Orderly maxPending := by
  have hlen := (p.queue_step_suffix outcome).length_le
  have hbounded := hp.bounded
  refine ⟨by omega, fun halive => ?_, ending_step hp⟩
  obtain ⟨hopen, hmessages⟩ := hp.living (p.alive_of_step halive)
  exact ⟨open_step hopen halive, by omega⟩

/-- Whatever becomes of a client, its queue stays within bounds. -/
theorem orderly_handled {accepted : List Text} (h : 0 ≤ maxPending)
    (hp : p.Orderly maxPending) (hc : p.Handled maxPending accepted p') :
    p'.Orderly maxPending := by
  cases hc with
  | told t => exact orderly_enqueue h hp t
  | dismissed => exact orderly_close h p
  | pumped outcome => exact orderly_step hp outcome
  | spared => exact hp

/-- The dead stay dead, whatever is done to them. -/
theorem alive_of_handled {accepted : List Text} (hc : p.Handled maxPending accepted p')
    (hdead : p.alive = false) : p'.alive = false := by
  cases hc with
  | told t => simp [enqueue, hdead]
  | dismissed =>
    simp only [close]
    split <;> rfl
  | pumped outcome =>
    rcases p.step_cases outcome with ⟨hsame, -⟩ | ⟨hdead, -⟩
    · rwa [hsame]
    · exact hdead
  | spared => exact hdead

/-- Nothing is added to what is on its way to a dead client. -/
theorem faithful_handled {now before owed : List Text} (hc : p.Handled maxPending now p')
    (hdead : p.alive = false) (hp : p.Faithful before owed) : p'.Faithful (before ++ now) owed := by
  cases hc with
  | told t => simpa [hdead] using faithful_enqueue hp maxPending t
  | dismissed => simpa using faithful_close hp maxPending
  | pumped outcome => exact faithful_step hp outcome
  | spared => simpa using hp

/-- A message makes a client die exactly if as many wait as may, and these are lost with it. -/
def DiesFull (maxPending : Nat) (p : Peer) : Prop :=
  ∀ t, ((p.enqueue maxPending t).1.alive = false ↔ p.queue.length = maxPending) ∧
    (p.queue.length = maxPending → (p.enqueue maxPending t).1.queue = [.close])

theorem diesFull_of_le {maxPending : Nat} (halive : p.alive = true)
    (hlen : p.queue.length ≤ maxPending) : p.DiesFull maxPending := by
  intro t
  simp only [enqueue, halive, Bool.not_true, Bool.false_eq_true, if_false, Int.ofNat_le]
  by_cases hfull : p.queue.length = maxPending
  · simp [abandon, hfull]
  · have hroom : ¬ maxPending ≤ p.queue.length := by omega
    simp [hroom, hfull]

end Peer

/-- What may happen to a hub when its queues can be reached from outside, too. -/
inductive Move where
  | act (a : Action)
  | enqueue (i : Nat) (t : Text)

namespace Hub

variable {h : Hub} {m : Move} {moves : List Move} {i : Nat} {p p' : Peer} {maxPending : Int}

def move (h : Hub) : Move → Hub
  | .act a => h.act a
  | .enqueue i t => (h.enqueue i t).1

def play (h : Hub) (moves : List Move) : Hub := moves.foldl move h

/-- Whether a client comes by a move. -/
def admits (h : Hub) : Move → Bool
  | .act a => h.arrives a
  | .enqueue _ _ => false

/-- How many clients come in the course of some moves. -/
def arrivals : Hub → List Move → Nat
  | _, [] => 0
  | h, m :: rest => (h.admits m).toNat + arrivals (h.move m) rest

/-- The messages that a client accepts in a move. -/
def takes (i : Nat) (h : Hub) : Move → List Text
  | .act a => accepts i h a
  | .enqueue _ _ => []

/-- The messages that a client accepts in the course of some moves. -/
def taken (i : Nat) : Hub → List Move → List Text
  | _, [] => []
  | h, m :: rest => takes i h m ++ taken i (h.move m) rest

theorem play_cons : h.play (m :: moves) = (h.move m).play moves := rfl

theorem maxPending_move : (h.move m).maxPending = h.maxPending := by
  cases m with
  | act a => exact maxPending_act
  | enqueue i t =>
    simp only [move, enqueue]
    split <;> rfl

theorem move_enqueue (t : Text) :
    h.move (.enqueue i t) = h.update i fun p => (p.enqueue h.maxPending t).1 := by
  simp only [move, enqueue]
  split
  · rename_i hp
    rw [update, List.modify_eq_self (List.getElem?_eq_none_iff.mp hp)]
  · rename_i p hp
    exact update_congr hp rfl

/-- What a move does to a client that is there. -/
theorem handled_move (hp : h.peers[i]? = some p) (m : Move) :
    ∃ p', (h.move m).peers[i]? = some p' ∧ p.Handled h.maxPending (takes i h m) p' := by
  cases m with
  | enqueue j t =>
    rw [move_enqueue, getElem?_update]
    by_cases hj : j = i
    · subst j
      exact ⟨_, by simp [hp], .told t⟩
    · exact ⟨p, by simp [hp, hj], .spared⟩
  | act a =>
    obtain ⟨p', hp', hc⟩ := change_act hp a
    refine ⟨p', hp', ?_⟩
    cases hc with
    | told ha ho hj =>
      have hpump : ∀ outcome, a ≠ .pump i outcome := by
        rintro outcome rfl
        cases ha
      rw [takes, accepts_of_ne_pump hpump]
      exact .told _
    | dismissed => exact .dismissed
    | @pumped outcome =>
      have htakes : takes i h (.act (.pump i outcome)) = (p.step outcome).2.1.toList := by
        simp [takes, accepts, hp]
      rw [htakes]
      exact .pumped outcome
    | spared ha hpump =>
      rw [takes, accepts_of_ne_pump hpump]
      exact .spared

/-- Changes one client, if that is possible. -/
def update? (h : Hub) (i : Nat) (f : Peer → Option Peer) : Option Hub :=
  match h.peers[i]? with
  | none => some h
  | some p => (f p).map fun p' => h.update i fun _ => p'

def tell? (h : Hub) (t : Text) (origin : Option Nat) : Option Hub :=
  let after := h.peers.mapIdx fun i p =>
    if p.joined && origin != some i then p.enqueue? h.maxPending t else some p
  (after.mapM id).map fun peers => { h with peers }

def put? (h : Hub) (put : Put) : Option Hub :=
  let h := { h with scene := put.scene }
  match put.text? with
  | some t => h.tell? t put.origin
  | none => some h

def subscribe? (h : Hub) (name : String) (transport : Transport) (room : Nat) : Option Hub :=
  match h.scene.initMessage room with
  | .ok first =>
    (({ name, transport } : Peer).enqueue? h.maxPending first).map fun p =>
      { h with peers := h.peers ++ [{ p with joined := true }] }
  | .error _ => some h

def unsubscribe? (h : Hub) (i : Nat) : Option Hub :=
  h.update? i fun p => (p.close? h.maxPending).map ({ · with joined := false })

/-- A move of a hub whose queues are bounded: it fails if a packet is put into a full queue. -/
def move? (h : Hub) : Move → Option Hub
  | .enqueue i t => h.update? i (Peer.enqueue? h.maxPending t)
  | .act a =>
    match a.put? h.scene, a with
    | some put, _ => h.put? put
    | none, .subscribe name transport room => h.subscribe? name transport room
    | none, .unsubscribe i => h.unsubscribe? i
    | none, a => some (h.act a)

def play? (h : Hub) (moves : List Move) : Option Hub := moves.foldlM move? h

theorem update?_eq {f? : Peer → Option Peer} {f : Peer → Peer} (hf : ∀ p, f? p = some (f p))
    (i : Nat) : h.update? i f? = some (h.update i f) := by
  unfold update?
  cases hp : h.peers[i]? with
  | none => rw [update, List.modify_eq_self (List.getElem?_eq_none_iff.mp hp)]
  | some p =>
    simp only [hf, Option.map_some, Option.some.injEq]
    exact update_congr hp rfl

theorem tell?_eq (h0 : 0 ≤ h.maxPending) (t : Text) (origin : Option Nat) :
    h.tell? t origin = some (h.tell t origin).1 := by
  have hone : ∀ i p, (if p.joined && origin != some i then p.enqueue? h.maxPending t
      else some p) = some (h.afterBroadcast t origin i p).1 := by
    intro i p
    unfold afterBroadcast
    split
    · exact Peer.enqueue?_eq h0 _ p
    · rfl
  have hall : ∀ ps : List Peer, (ps.map some).mapM id = some ps := by
    intro ps
    rw [List.mapM_map]
    exact List.mapM_pure.trans (by simp)
  have hafter : (h.peers.mapIdx fun i p => some (h.afterBroadcast t origin i p).1) =
      ((h.peers.mapIdx (h.afterBroadcast t origin)).map (·.1)).map some := by
    apply List.ext_getElem?
    intro k
    simp [List.getElem?_mapIdx, Function.comp_def]
  simp only [tell?, tell, hone, hafter, hall, Option.map_some]

theorem put?_eq (h0 : 0 ≤ h.maxPending) (put : Put) :
    h.put? put = some (h.put put.scene put.origin put.room).1 := by
  unfold put?
  cases ht : put.text? with
  | some t =>
    rw [put_of_text ht]
    exact tell?_eq (h := { h with scene := put.scene }) h0 t put.origin
  | none => rw [put_of_text_none ht]

theorem subscribe?_eq (h0 : 0 ≤ h.maxPending) (name : String) (transport : Transport)
    (room : Nat) :
    h.subscribe? name transport room = some (h.act (.subscribe name transport room)) := by
  unfold subscribe?
  cases ht : h.scene.initMessage room with
  | ok first =>
    rw [act_subscribe_of_ok ht]
    simp only [Peer.enqueue?_eq h0, Option.map_some, newcomer]
  | error e => rw [act_subscribe_of_error ht]

theorem unsubscribe?_eq (h0 : 0 ≤ h.maxPending) (i : Nat) :
    h.unsubscribe? i = some (h.act (.unsubscribe i)) := by
  rw [act_unsubscribe]
  exact update?_eq (fun p => by rw [Peer.close?_eq h0]; rfl) i

/-- No packet is put into a full queue in a move. -/
theorem move?_eq (h0 : 0 ≤ h.maxPending) (m : Move) : h.move? m = some (h.move m) := by
  cases m with
  | enqueue i t =>
    rw [move_enqueue]
    exact update?_eq (Peer.enqueue?_eq h0 t) i
  | act a =>
    cases ha : a.put? h.scene with
    | some put =>
      simp only [move?, ha]
      rw [move, act_of_put ha, put?_eq h0]
    | none =>
      cases a with
      | subscribe name transport room => exact subscribe?_eq h0 name transport room
      | unsubscribe i => exact unsubscribe?_eq h0 i
      | receive | append | replaceElements | replace | clear | broadcast | pump =>
        simp only [move?, ha, move]

/-- By induction on the moves: with queues that could be full, a run does what it does without. -/
theorem play?_eq (h0 : 0 ≤ h.maxPending) (moves : List Move) :
    h.play? moves = some (h.play moves) := by
  induction moves generalizing h with
  | nil => rfl
  | cons m rest ih =>
    have h0' : 0 ≤ (h.move m).maxPending := by rwa [maxPending_move]
    rw [play?, List.foldlM_cons, move?_eq h0]
    exact ih h0'

theorem newcomer_of_move (hp : h.peers[i]? = none) (hp' : (h.move m).peers[i]? = some p') :
    ∃ name transport first, p' = h.newcomer name transport first := by
  cases m with
  | act a =>
    obtain ⟨name, transport, _, first, -, -, -, hnew⟩ := newcomer_of_act hp hp'
    exact ⟨name, transport, first, hnew⟩
  | enqueue j t =>
    rw [move_enqueue, getElem?_update] at hp'
    simp [hp] at hp'

theorem newcomer_eq (name : String) (transport : Transport) (first : Text) :
    h.newcomer name transport first =
      (({ name, transport, joined := true } : Peer).enqueue h.maxPending first).1 := by
  simp only [newcomer, Peer.enqueue]
  split
  · rfl
  · split <;> rfl

theorem orderly_newcomer (h0 : 0 ≤ h.maxPending) (name : String) (transport : Transport)
    (first : Text) : (h.newcomer name transport first).Orderly h.maxPending := by
  have hfresh : Peer.Orderly h.maxPending { name, transport, joined := true } := by
    have hrunning : Pump.ready ≠ .finished := by decide
    refine ⟨?_, fun _ => ⟨⟨rfl, hrunning, List.not_mem_nil⟩, h0⟩, fun hdead => ?_⟩
    · simp only [List.length_nil]
      omega
    · cases hdead
  rw [newcomer_eq]
  exact Peer.orderly_enqueue h0 hfresh _

/-- What one move preserves for all clients. -/
theorem orderly_move (h0 : 0 ≤ h.maxPending) (ho : ∀ p ∈ h.peers, p.Orderly h.maxPending)
    (m : Move) : ∀ p ∈ (h.move m).peers, p.Orderly (h.move m).maxPending := by
  rw [maxPending_move]
  intro p' hmem
  obtain ⟨i, hp'⟩ := List.mem_iff_getElem?.mp hmem
  cases hp : h.peers[i]? with
  | some p =>
    obtain ⟨q, hq, hc⟩ := handled_move hp m
    obtain rfl : q = p' := Option.some.inj (hq.symm.trans hp')
    exact Peer.orderly_handled h0 (ho p (List.mem_of_getElem? hp)) hc
  | none =>
    obtain ⟨name, transport, first, rfl⟩ := newcomer_of_move hp hp'
    exact orderly_newcomer h0 name transport first

/-- By induction on the moves. -/
theorem orderly_play (h0 : 0 ≤ h.maxPending) (ho : ∀ p ∈ h.peers, p.Orderly h.maxPending)
    (moves : List Move) : ∀ p ∈ (h.play moves).peers, p.Orderly h.maxPending := by
  induction moves generalizing h with
  | nil => exact ho
  | cons m rest ih =>
    have h0' : 0 ≤ (h.move m).maxPending := by rwa [maxPending_move]
    have hrest := ih h0' (orderly_move h0 ho m)
    rwa [maxPending_move] at hrest

/-- A dead client stays dead, and accepts at most what is on its way to it. -/
theorem dead_play {before owed : List Text} (hp : h.peers[i]? = some p) (hdead : p.alive = false)
    (hf : p.Faithful before owed) (moves : List Move) :
    ∃ p', (h.play moves).peers[i]? = some p' ∧ p'.alive = false ∧
      p'.Faithful (before ++ h.taken i moves) owed := by
  -- What is owed stays as it is, and what is accepted move by move comes out of it.
  induction moves generalizing h p before with
  | nil => exact ⟨p, hp, hdead, by simpa [taken] using hf⟩
  | cons m rest ih =>
    obtain ⟨q, hq, hc⟩ := handled_move hp m
    have hqf := Peer.faithful_handled hc hdead hf
    obtain ⟨p', hp', hdead', hf'⟩ := ih hq (Peer.alive_of_handled hc hdead) hqf
    refine ⟨p', hp', hdead', ?_⟩
    rwa [taken, ← List.append_assoc]

theorem length_move : (h.move m).peers.length = h.peers.length + (h.admits m).toNat := by
  cases m with
  | enqueue i t =>
    rw [move_enqueue]
    simp [update, admits]
  | act a => exact length_act

theorem length_play : (h.play moves).peers.length = h.peers.length + h.arrivals moves := by
  induction moves generalizing h with
  | nil => rfl
  | cons m rest ih =>
    rw [play_cons, ih, length_move, arrivals]
    omega

/-- The clients that are counted are those that are alive. -/
theorem clientCount_eq (ho : ∀ p ∈ h.peers, p.Orderly maxPending) :
    h.clientCount = h.peers.countP (·.alive) := by
  refine List.countP_congr fun p hp => ?_
  have hliving := (ho p hp).living
  cases halive : p.alive with
  | false => simp
  | true => simp [(hliving halive).1.joined]

/-- Whatever moves are made, no packet is put into a full queue, and the clients that count are
those of all who came that are alive. While a client is alive no more messages wait than may, with
no end behind them, and one that is told too much loses them all. Once it is dead it stays so and
accepts nothing but what was on its way, and its pump has finished or does not wait for the end. -/
theorem queues_safe (scene : Scene) (maxPending : Nat) (moves : List Move) :
    ∃ h, (start scene maxPending).play? moves = some h ∧
      (start scene maxPending).play moves = h ∧
      h.clientCount = h.peers.countP (·.alive) ∧
      h.peers.length = (start scene maxPending).arrivals moves ∧
      (∀ name transport, Peer.DiesFull maxPending { name, transport }) ∧
      ∀ i p, h.peers[i]? = some p → p.queue.length ≤ maxPending + 1 ∧
        (p.alive = true →
          p.queue.length ≤ maxPending ∧ .close ∉ p.queue ∧ p.DiesFull maxPending) ∧
        (p.alive = false →
          (p.pump = .finished ∨ .close ∈ p.queue) ∧ ¬ (p.pump = .ready ∧ p.queue = []) ∧
          (∀ t, (p.enqueue maxPending t).1 = p) ∧
          ∀ more, ∃ p', (h.play more).peers[i]? = some p' ∧ p'.alive = false ∧
            h.taken i more ++ p'.outstanding <+: p.outstanding) := by
  have h0 : 0 ≤ (start scene maxPending).maxPending := Int.natCast_nonneg maxPending
  have hall := orderly_play h0 (by simp [start]) moves
  refine ⟨_, play?_eq h0 moves, rfl, clientCount_eq hall, ?_, ?_, fun i p hp => ⟨?_, ?_, ?_⟩⟩
  · rw [length_play, start, List.length_nil, Nat.zero_add]
  · exact fun name transport => Peer.diesFull_of_le rfl (Nat.zero_le _)
  · exact Int.ofNat_le.mp (hall p (List.mem_of_getElem? hp)).bounded
  · intro halive
    obtain ⟨hopen, hlen⟩ := (hall p (List.mem_of_getElem? hp)).living halive
    have hmessages : p.queue.length ≤ maxPending := Int.ofNat_le.mp hlen
    exact ⟨hmessages, hopen.unclosed, Peer.diesFull_of_le halive hmessages⟩
  · intro hdead
    have hending := (hall p (List.mem_of_getElem? hp)).ending hdead
    have hfaithful : p.Faithful [] p.outstanding := ⟨List.prefix_rfl, by simp [hdead]⟩
    refine ⟨hending, ?_, fun t => by simp [Peer.enqueue, hdead], fun more => ?_⟩
    · rintro ⟨hready, hempty⟩
      simp [hready, hempty] at hending
    · obtain ⟨p', hp', hdead', hf⟩ := dead_play hp hdead hfaithful more
      exact ⟨p', hp', hdead', hf.promised⟩

/-- Four clients: to the first a send fails, the second falls behind, the third leaves twice with
messages in its queue, and the last is alive. -/
def disorder : List Move :=
  [.act (.subscribe "a" {} 9), .act (.subscribe "b" {} 9), .act (.subscribe "c" {} 9),
   .act (.pump 0 .sent), .act (.clear none 9), .enqueue 1 (.ofString "x"), .act (.unsubscribe 2),
   .act (.unsubscribe 2), .act (.pump 0 .failed), .act (.subscribe "d" {} 9)]

theorem queues_safe_disorder :
    (start {} 2).play? disorder = some ((start {} 2).play disorder) ∧
    ((start {} 2).play disorder).clientCount = 1 ∧
    (∃ p, ((start {} 2).play disorder).peers[1]? = some p ∧ p.queue = [.close] ∧
      ∀ more, ∃ p', (((start {} 2).play disorder).play more).peers[1]? = some p' ∧
        p'.alive = false ∧ ((start {} 2).play disorder).taken 1 more = []) ∧
    ∃ p, ((start {} 2).play disorder).peers[3]? = some p ∧ p.alive = true ∧
      p.queue.length ≤ 2 ∧ .close ∉ p.queue ∧ p.DiesFull 2 := by
  obtain ⟨_, hchecked, rfl, -, -, -, hpeers⟩ := queues_safe {} 2 disorder
  refine ⟨hchecked, rfl, ⟨_, rfl, rfl, fun more => ?_⟩, _, rfl, rfl, (hpeers 3 _ rfl).2.1 rfl⟩
  obtain ⟨-, -, -, hmore⟩ := (hpeers 1 _ rfl).2.2 rfl
  obtain ⟨p', hp', hdead, hnothing⟩ := hmore more
  exact ⟨p', hp', hdead, (List.append_eq_nil_iff.mp (List.prefix_nil.mp hnothing)).1⟩

end Hub

end Easel
