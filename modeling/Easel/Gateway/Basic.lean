import Easel.Gateway.Cors
import Easel.Gateway.Drawing
import Easel.Gateway.Routes
import Easel.Scene.Hub

/-! The gateway: requests change the scene or show it, and clients follow it over sockets. -/
namespace Easel

/-- How many containers may stand inside one another in the texts of a gateway. What is left of the
stack differs from call to call, and so do the limits. -/
structure Limits where
  /-- In the body of a request. -/
  body : Nat := 980
  /-- In the message about what a request has drawn. -/
  drawing : Nat := 978
  /-- In the message about the scene that a request has put in the place of the old one. -/
  replacing : Nat := 979
  /-- In the message about an empty scene. -/
  clearing : Nat := 979
  /-- In a scene that is shown. -/
  showing : Nat := 980
  /-- In the first message to a client. -/
  greeting : Nat := 979
  /-- In a frame from a client, and in the message about what it pushes. -/
  pushing : Json.Room := ⟨980, 977⟩
  /-- An element that is drawn goes down three containers; it can always be told and shown. -/
  roomy : 6 ≤ drawing ∧ 5 ≤ showing := by decide

/-- Limits of calls that are about twenty deep when they begin to read or write. -/
def Limits.usual : Limits := {}

structure Gateway where
  hub : Hub := {}
  ids : IdSupply := .numbered
  /-- What each drawing to come is stamped with. -/
  stamps : Nat → Stamps := fun _ => {}
  converter : Option Converter := none
  cors : Cors := {}
  limits : Limits := .usual

namespace Gateway

def failed (e : RequestError) : Response :=
  ⟨e.status, .json (.record [("error", .string e.message)]), []⟩

def succeeded (fields : List (String × Json)) : Response :=
  ⟨200, .json (.record (("success", .bool true) :: fields)), []⟩

def total (h : Hub) : String × Json := ("totalElements", .int (Int.ofNat h.scene.elements.length))

/-- The answer to a request that has changed the scene: a success, unless the clients could not be
told. -/
def concluded (told : Except Json.Limit (List Notice)) (fields : List (String × Json)) : Response :=
  match told with
  | .error e => failed (.untold e)
  | .ok _ => succeeded fields

/-- Draws what a request asks for. -/
def carryOut (g : Gateway) (d : Drawing) (extra : List (String × Json)) : Gateway × Response :=
  let (h, told) := if d.append then g.hub.append d.elements none g.limits.drawing
    else g.hub.replaceElements d.elements none g.limits.drawing
  ({ g with hub := h, ids := d.ids, stamps := fun n => g.stamps (n + 1) },
   concluded told ([("elementsAdded", .int (Int.ofNat d.elements.length)), total h] ++ extra))

def draw (g : Gateway) (body : List UInt8) : Gateway × Response :=
  match readBody g.limits.body body >>= Drawing.ofElementsBody g.ids (g.stamps 0) with
  | .error e => (g, failed e)
  | .ok d => g.carryOut d []

def drawMermaid (g : Gateway) (body : List UInt8) : Gateway × Response :=
  match readBody g.limits.body body >>=
    Drawing.ofDefinitionBody g.converter g.ids (g.stamps 0) with
  | .error e => (g, failed e)
  | .ok d => g.carryOut d []

def auto (g : Gateway) (body : List UInt8) : Gateway × Response :=
  match readBody g.limits.body body >>= Drawing.ofInputBody g.converter g.ids (g.stamps 0) with
  | .error e => (g, failed e)
  | .ok (d, format) => g.carryOut d [("format", .ofString format)]

def clear (g : Gateway) : Gateway × Response :=
  let (h, told) := g.hub.clear none g.limits.clearing
  ({ g with hub := h }, concluded told [("message", .ofString "Canvas cleared")])

def replaceScene (g : Gateway) (body : List UInt8) : Gateway × Response :=
  match readBody g.limits.body body >>= Scene.ofBody with
  | .error e => (g, failed e)
  | .ok s =>
    let (h, told) := g.hub.put s none g.limits.replacing
    ({ g with hub := h }, concluded told [total h])

def health (g : Gateway) (time : String) : Response :=
  ⟨200, .json (.record [("status", .ofString "ok"),
    ("clients", .int (Int.ofNat g.hub.clientCount)),
    ("elements", .int (Int.ofNat g.hub.scene.elements.length)),
    ("timestamp", .ofString time)]), []⟩

/-- Shows the scene, if the content of a response can hold it. -/
def exportScene (g : Gateway) : Option Response :=
  if g.hub.scene.toJson.isEncodable ∧ g.hub.scene.toJson.obstacle? g.limits.showing = none then
    some ⟨200, .json g.hub.scene.toJson, []⟩
  else none

/-- Carries out a request; there is no response if a fault was met on the way. -/
def dispatch (g : Gateway) (r : Request) : Gateway × Option Response :=
  let some' (a : Gateway × Response) : Gateway × Option Response := (a.1, some a.2)
  match destination r.method r.path with
  | .endpoint .health => (g, some (g.health r.arrival))
  | .endpoint .draw => some' (g.draw r.body)
  | .endpoint .drawMermaid => some' (g.drawMermaid r.body)
  | .endpoint .auto => some' (g.auto r.body)
  | .endpoint .clear => some' g.clear
  | .endpoint .replaceScene => some' (g.replaceScene r.body)
  | .endpoint .exportScene => (g, g.exportScene)
  | .elsewhere => (g, some ⟨307, .text "", []⟩)
  | .wrongMethod => (g, some ⟨405, .text "Method Not Allowed", []⟩)
  | .unknown => (g, some ⟨404, .text "Not Found", []⟩)

/-- Answers a request. The answer to a fault has no headers for pages of other origins. -/
def answer (g : Gateway) (r : Request) : Gateway × Response :=
  if Cors.isPreflight r then (g, g.cors.preflight r)
  else match g.dispatch r with
    | (g, some a) => (g, { a with headers := a.headers ++ g.cors.headersFor r })
    | (g, none) => (g, ⟨500, .text "Internal Server Error", []⟩)

/-- What a client sends in one frame. -/
inductive Frame where
  | text (t : Text)
  | bytes (bs : List UInt8)
  | empty

/-- The text of a frame; bytes that are no UTF-8 are replaced. -/
def Frame.text? : Frame → Option Text
  | .text t => some t
  | .bytes bs => some (Utf8.decodeLossy bs)
  | .empty => none

/-- A client connects. The connection ends at once if the client cannot be shown the scene. -/
def connect (g : Gateway) (name : String) : Gateway :=
  { g with hub := (g.hub.subscribe name {} g.limits.greeting).1 }

/-- A client disconnects. What is being sent to it is lost. -/
def disconnect (g : Gateway) (client : Nat) : Gateway :=
  { g with hub := (g.hub.unsubscribe client).1.update client fun p => { p with pump := .finished } }

/-- A frame from a client; a client that has disconnected sends none. Where the call breaks off that
takes the frame, so does the connection. -/
def receive (g : Gateway) (client : Nat) (f : Frame) : Gateway :=
  match f.text?, (g.hub.peers[client]?).any (·.joined) with
  | some t, true =>
    match g.hub.receive client t g.limits.pushing with
    | (hub, .ok _) => { g with hub }
    | (hub, .error _) => { g with hub }.disconnect client
  | _, _ => g

/-- Lets all pumps work until they are idle, and gives what each client got. -/
def settle (g : Gateway) : Gateway × List (List Text) :=
  let after := g.hub.peers.map Peer.drain
  ({ g with hub := { g.hub with peers := after.map (·.1) } }, after.map (·.2.1))

end Gateway

end Easel
