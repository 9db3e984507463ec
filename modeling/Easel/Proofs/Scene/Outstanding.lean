import Easel.Scene.Peer

/-! What is on its way to a client: the message in flight and those in its queue. -/
namespace Easel

/-- The messages of a queue up to its end. -/
def Packet.texts : List Packet → List Text
  | .text t :: rest => t :: texts rest
  | .close :: _ | [] => []

theorem Packet.texts_append_close (q : List Packet) : texts (q ++ [.close]) = texts q := by
  induction q with
  | nil => rfl
  | cons packet rest ih => cases packet <;> simp [texts, ih]

/-- What is queued comes after all that is queued already. -/
theorem Packet.texts_append_text {q : List Packet} (hq : .close ∉ q) (t : Text) :
    texts (q ++ [.text t]) = texts q ++ [t] := by
  induction q with
  | nil => rfl
  | cons packet rest ih => cases packet <;> simp_all [texts]

theorem Packet.map_texts {q : List Packet} (hq : .close ∉ q) : (texts q).map .text = q := by
  induction q with
  | nil => rfl
  | cons packet rest ih => cases packet <;> simp_all [texts]

namespace Peer

variable {p : Peer} {maxPending : Int} {t : Text} {outcome : Outcome}

/-- The message that is being sent. -/
def inFlight (p : Peer) : List Text :=
  match p.pump with
  | .sending t => [t]
  | .ready | .finished => []

/-- What the pump has still to send. -/
def outstanding (p : Peer) : List Text :=
  match p.pump with
  | .finished => []
  | .ready | .sending _ => p.inFlight ++ Packet.texts p.queue

/-- A client that gets all broadcasts: neither its queue nor its pump has come to an end. -/
structure Open (p : Peer) : Prop where
  joined : p.joined = true
  running : p.pump ≠ .finished
  unclosed : .close ∉ p.queue

theorem Open.outstanding_eq (hp : p.Open) : p.outstanding = p.inFlight ++ Packet.texts p.queue := by
  have hrun := hp.running
  cases hpump : p.pump <;> simp_all [outstanding]

/-- Whoever is given up still gets what is in flight, and no more. -/
theorem outstanding_abandon : p.abandon.outstanding = p.inFlight := by
  cases hp : p.pump <;> simp [outstanding, inFlight, abandon, hp, Packet.texts]

theorem inFlight_prefix_outstanding : p.inFlight <+: p.outstanding := by
  cases hp : p.pump <;> simp [outstanding, inFlight, hp]

/-- The end of a queue is no message. -/
theorem outstanding_append_close :
    outstanding { p with alive := false, queue := p.queue ++ [.close] } = p.outstanding := by
  cases hp : p.pump <;> simp [outstanding, inFlight, hp, Packet.texts_append_close]

theorem outstanding_append_text (hp : p.Open) (t : Text) :
    outstanding { p with queue := p.queue ++ [.text t] } = p.outstanding ++ [t] := by
  have hq : Open { p with queue := p.queue ++ [.text t] } :=
    ⟨hp.joined, hp.running, by simpa using hp.unclosed⟩
  rw [hp.outstanding_eq, hq.outstanding_eq, Packet.texts_append_text hp.unclosed,
    ← List.append_assoc]
  rfl

/-- A message finds a client dead, or is too much for it, or is the last of what is outstanding. -/
theorem enqueue_cases (p : Peer) (maxPending : Int) (t : Text) :
    (p.alive = false ∧ (p.enqueue maxPending t).1 = p) ∨
    (p.alive = true ∧ (p.enqueue maxPending t).1 = p.abandon) ∨
    (p.alive = true ∧ (p.enqueue maxPending t).1 = { p with queue := p.queue ++ [.text t] }) := by
  unfold enqueue
  cases halive : p.alive with
  | false => exact .inl ⟨rfl, rfl⟩
  | true =>
    rw [Bool.not_true, if_neg Bool.false_ne_true]
    split
    · exact .inr (.inl ⟨rfl, rfl⟩)
    · exact .inr (.inr ⟨rfl, by simp⟩)

/-- Nothing brings a client back to life. -/
theorem alive_of_enqueue {maxPending : Int} {t : Text} (p : Peer)
    (halive : (p.enqueue maxPending t).1.alive = true) : p.alive = true := by
  rcases p.enqueue_cases maxPending t with ⟨-, he⟩ | ⟨hl, -⟩ | ⟨hl, -⟩
  · exact he ▸ halive
  · exact hl
  · exact hl

/-- The pump passes the first outstanding message on, unless it loses all with the client. -/
theorem step_cases (p : Peer) (outcome : Outcome) :
    ((p.step outcome).1.alive = p.alive ∧
      (p.step outcome).2.1.toList ++ (p.step outcome).1.outstanding = p.outstanding) ∨
    ((p.step outcome).1.alive = false ∧ (p.step outcome).2.1 = none ∧
      (p.step outcome).1.outstanding = []) := by
  obtain ⟨name, queue, alive, joined, pump, transport⟩ := p
  cases pump with
  | finished => exact .inl ⟨rfl, rfl⟩
  | ready =>
    match queue with
    | [] => exact .inl ⟨rfl, rfl⟩
    | .close :: rest => exact .inl ⟨rfl, rfl⟩
    | .text t :: rest => exact .inl ⟨rfl, rfl⟩
  | sending t =>
    cases outcome with
    | blocked => exact .inl ⟨rfl, rfl⟩
    | sent => exact .inl ⟨rfl, rfl⟩
    | failed => exact .inr ⟨rfl, rfl, rfl⟩

theorem alive_of_step (p : Peer) (halive : (p.step outcome).1.alive = true) : p.alive = true := by
  rcases p.step_cases outcome with ⟨he, -⟩ | ⟨hdead, -⟩
  · exact he ▸ halive
  · simp [hdead] at halive

/-- A pump that goes on has not come to the end of the queue. -/
theorem open_step (hp : p.Open) (halive : (p.step outcome).1.alive = true) :
    (p.step outcome).1.Open := by
  obtain ⟨name, queue, alive, joined, pump, transport⟩ := p
  obtain ⟨hj, hrun, hclose⟩ := hp
  cases pump with
  | finished => exact absurd rfl hrun
  | ready =>
    match queue with
    | [] => exact ⟨hj, hrun, hclose⟩
    | .close :: rest => exact absurd List.mem_cons_self hclose
    | .text t :: rest => exact ⟨hj, by simp [step], fun h => hclose (List.mem_cons_of_mem _ h)⟩
  | sending t =>
    cases outcome with
    | blocked => exact ⟨hj, hrun, hclose⟩
    | sent => exact ⟨hj, by simp [step], hclose⟩
    | failed => cases halive

end Peer

end Easel
