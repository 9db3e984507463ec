import Easel.Scene.Peer

/-! The scene and its clients. Each change is queued for all clients but the one that made it, if
the message about it can be written. -/
namespace Easel

/-- Clients are known by the order in which they came; those who left are kept. -/
structure Hub where
  scene : Scene := {}
  maxPending : Int := 256
  peers : List Peer := []

namespace Hub

/-- How many clients get broadcasts, dead ones included. -/
def joinedCount (h : Hub) : Nat := h.peers.countP (·.joined)

/-- How many of these are alive. -/
def clientCount (h : Hub) : Nat := h.peers.countP fun p => p.joined && p.alive

/-- Changes one client. -/
def update (h : Hub) (i : Nat) (f : Peer → Peer) : Hub := { h with peers := h.peers.modify i f }

/-- The client as it is after a broadcast of `t`. -/
def afterBroadcast (h : Hub) (t : Text) (origin : Option Nat) (i : Nat) (p : Peer) :
    Peer × List Notice :=
  if p.joined && origin != some i then p.enqueue h.maxPending t else (p, [])

/-- Queues a message for every client but the origin. -/
def tell (h : Hub) (t : Text) (origin : Option Nat) : Hub × List Notice :=
  let after := h.peers.mapIdx (h.afterBroadcast t origin)
  ({ h with peers := after.map (·.1) }, after.flatMap (·.2))

/-- Tells every client but the origin the scene. The call breaks off before anything is queued if
the message cannot be written. -/
def broadcast (h : Hub) (origin : Option Nat) (room : Nat) :
    Hub × Except Json.Limit (List Notice) :=
  match h.scene.updateMessage room with
  | .error e => (h, .error e)
  | .ok t =>
    let (h, notices) := h.tell t origin
    (h, .ok notices)

/-- Takes a new scene and tells the clients. The scene stays even if they cannot be told. -/
def put (h : Hub) (s : Scene) (origin : Option Nat) (room : Nat) :
    Hub × Except Json.Limit (List Notice) :=
  { h with scene := s }.broadcast origin room

def append (h : Hub) (elements : List Json) (origin : Option Nat) (room : Nat) :
    Hub × Except Json.Limit (List Notice) :=
  h.put (h.scene.append elements) origin room

def replaceElements (h : Hub) (elements : List Json) (origin : Option Nat) (room : Nat) :
    Hub × Except Json.Limit (List Notice) :=
  h.put (h.scene.withElements elements) origin room

def replace (h : Hub) (elements : List Json) (appState : Option Fields) (origin : Option Nat)
    (room : Nat) : Hub × Except Json.Limit (List Notice) :=
  h.put (.ofParts elements appState) origin room

def clear (h : Hub) (origin : Option Nat) (room : Nat) : Hub × Except Json.Limit (List Notice) :=
  h.put {} origin room

/-- A new client gets the scene before any broadcast. Nobody joins if that message cannot be
written. -/
def subscribe (h : Hub) (name : String) (transport : Transport) (room : Nat) :
    Hub × Except Json.Limit (List Notice) :=
  match h.scene.initMessage room with
  | .error e => (h, .error e)
  | .ok t =>
    let (p, notices) := ({ name, transport } : Peer).enqueue h.maxPending t
    let h' := { h with peers := h.peers ++ [{ p with joined := true }] }
    (h', .ok (notices ++ [.connected name h'.joinedCount]))

/-- A client leaves; one that has left before only has its queue ended once more. -/
def unsubscribe (h : Hub) (i : Nat) : Hub × List Notice :=
  match h.peers[i]? with
  | none => (h, [])
  | some p =>
    let h' := h.update i fun p => { p.close h.maxPending with joined := false }
    (h', if p.joined then [.disconnected p.name h'.joinedCount] else [])

/-- Queues a message for one client alone. -/
def enqueue (h : Hub) (i : Nat) (t : Text) : Hub × List Notice :=
  match h.peers[i]? with
  | none => (h, [])
  | some p =>
    let (p, notices) := p.enqueue h.maxPending t
    (h.update i fun _ => p, notices)

/-- Takes a message from a client, and tells whether it changed the scene. The call breaks off if
the message cannot be read, or if the others cannot be told of the scene that it has pushed. -/
def receive (h : Hub) (i : Nat) (raw : Text) (room : Json.Room) :
    Hub × Except Json.Limit (Bool × List Notice) :=
  match Scene.ofPush room.reading raw with
  | .ok s =>
    let (h, told) := h.put s (some i) room.writing
    (h, told.map fun notices => (true, notices))
  | .error why =>
    match why.breaksOff? with
    | some e => (h, .error e)
    | none => (h, .ok (false, (h.peers[i]?).toList.map fun p => .refused p.name why))

/-- Lets the pump of a client work until it is idle. -/
def drain (h : Hub) (i : Nat) : Hub × List Text × List Notice :=
  match h.peers[i]? with
  | none => (h, [], [])
  | some p =>
    let (p, sent, notices) := p.drain
    (h.update i fun _ => p, sent, notices)

end Hub

end Easel
