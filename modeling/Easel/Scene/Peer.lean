import Easel.Scene.Notice

/-! One client and its queue of outgoing messages. A client that falls too far behind, or to
which sending fails, is dead; it gets nothing more. -/
namespace Easel

/-- An entry of a queue: a message, or the sign that nothing more follows. -/
inductive Packet where
  | text (t : Text)
  | close
  deriving DecidableEq

/-- The task that empties a queue. -/
inductive Pump where
  | ready
  | sending (t : Text)
  | finished
  deriving DecidableEq

/-- What becomes of a message that is being sent. -/
inductive Outcome where
  | sent
  | blocked
  | failed
  deriving DecidableEq

/-- The way to a client. -/
structure Transport where
  /-- How many messages it still accepts before every send fails; none if it never fails. -/
  quota : Option Nat := none
  /-- Whether sends wait. -/
  stalled : Bool := false

def Transport.outcome (t : Transport) : Outcome :=
  if t.stalled then .blocked else if t.quota = some 0 then .failed else .sent

def Transport.spend (t : Transport) : Transport := { t with quota := t.quota.map (· - 1) }

structure Peer where
  name : String
  queue : List Packet := []
  alive : Bool := true
  /-- Whether broadcasts go to this client. -/
  joined : Bool := false
  pump : Pump := .ready
  transport : Transport := {}

namespace Peer

/-- Gives the client up: what it has not got is discarded. -/
def abandon (p : Peer) : Peer := { p with alive := false, queue := [.close] }

/-- Queues a message, unless that many messages wait already. -/
def enqueue (maxPending : Int) (t : Text) (p : Peer) : Peer × List Notice :=
  if !p.alive then (p, [])
  else if maxPending ≤ p.queue.length then (p.abandon, [.behind p.name p.queue.length])
  else ({ p with queue := p.queue ++ [.text t] }, [])

/-- A queue has room for one packet more than the messages that may wait; where that leaves no
number above zero it has no bound. -/
def isFull (maxPending : Int) (p : Peer) : Bool :=
  0 < maxPending + 1 ∧ maxPending + 1 ≤ p.queue.length

/-- Ends the queue after what is in it. -/
def close (maxPending : Int) (p : Peer) : Peer :=
  if p.isFull maxPending then p.abandon
  else { p with alive := false, queue := p.queue ++ [.close] }

/-- One step of the pump, and the message that was accepted in it. -/
def step (outcome : Outcome) (p : Peer) : Peer × Option Text × List Notice :=
  match p.pump with
  | .finished => (p, none, [])
  | .ready =>
    match p.queue with
    | [] => (p, none, [])
    | .close :: rest => ({ p with queue := rest, pump := .finished }, none, [])
    | .text t :: rest => ({ p with queue := rest, pump := .sending t }, none, [])
  | .sending t =>
    match outcome with
    | .blocked => (p, none, [])
    | .sent => ({ p with pump := .ready, transport := p.transport.spend }, some t, [])
    | .failed => ({ p with alive := false, pump := .finished }, none, [.sendFailed p.name])

/-- Whether the pump has nothing to do for now. -/
def isIdle (p : Peer) : Bool :=
  match p.pump with
  | .finished => true
  | .ready => p.queue.isEmpty
  | .sending _ => p.transport.outcome = .blocked

/-- How many steps the pump can make before it is idle. -/
def load (p : Peer) : Nat :=
  2 * p.queue.length + match p.pump with
    | .sending _ => 1
    | _ => 0

theorem load_step_lt {p : Peer} (h : p.isIdle = false) :
    (p.step p.transport.outcome).1.load < p.load := by
  obtain ⟨name, queue, alive, joined, pump, transport⟩ := p
  cases pump with
  | finished => simp [isIdle] at h
  | ready =>
    match queue with
    | [] => simp [isIdle] at h
    | .close :: rest => simp [step, load]
    | .text t :: rest => simp [step, load]; omega
  | sending t => cases ho : transport.outcome <;> simp_all [isIdle, step, load]

/-- Lets the pump work until it is idle. -/
def drain (p : Peer) : Peer × List Text × List Notice :=
  if _h : p.isIdle = true then (p, [], [])
  else
    let s := p.step p.transport.outcome
    let r := drain s.1
    (r.1, s.2.1.toList ++ r.2.1, s.2.2 ++ r.2.2)
termination_by p.load
decreasing_by exact load_step_lt (by simpa using _h)

/-- Starts the pump again if it has finished. -/
def restart (p : Peer) : Peer := if p.pump = .finished then { p with pump := .ready } else p

end Peer

end Easel
