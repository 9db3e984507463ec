import Easel.Proofs.Gateway.Posts
import Easel.Proofs.Gateway.Reachable
import Easel.Proofs.Json.Ascii
import Easel.Proofs.Scene.Updates
import Mathlib.Data.List.Forall2

/-! A request either changes nothing or is carried out as a whole: its scene is put, the answer
counts it, and every living client is told once. The one exception is a scene that is put and then
turns out to go down too far for the message about it. -/
namespace Easel

/-- What becomes of a client that is told something: one that is alive gets it as its next message,
unless as many messages as may wait already do. -/
inductive Peer.Hears (maxPending : Int) (t : Text) (p : Peer) : Peer → Prop where
  | dead (halive : p.alive = false) : Hears maxPending t p p
  | behind (halive : p.alive = true) (hq : maxPending ≤ p.queue.length) :
      Hears maxPending t p { p with alive := false, queue := [.close] }
  | told (halive : p.alive = true) (hq : p.queue.length < maxPending) :
      Hears maxPending t p { p with queue := p.queue ++ [.text t] }

theorem Peer.hears_enqueue (p : Peer) (maxPending : Int) (t : Text) :
    p.Hears maxPending t (p.enqueue maxPending t).1 := by
  unfold enqueue
  cases halive : p.alive with
  | false => exact .dead halive
  | true =>
    rw [Bool.not_true, if_neg Bool.false_ne_true]
    split
    · rename_i hq
      exact .behind halive hq
    · rename_i hq
      simpa [halive] using Hears.told (t := t) halive (Int.not_le.mp hq)

namespace Hub

variable {h : Hub}

theorem peers_tell_none (h : Hub) (t : Text) :
    (h.tell t none).1.peers = h.peers.map fun p =>
      if p.joined then (p.enqueue h.maxPending t).1 else p := by
  apply List.ext_getElem?
  intro i
  rw [getElem?_tell, List.getElem?_map]
  simp

theorem hears_tell (hh : h.ReachesLiving) (t : Text) :
    List.Forall₂ (Peer.Hears h.maxPending t) h.peers (h.tell t none).1.peers := by
  rw [peers_tell_none, List.forall₂_map_right_iff, List.forall₂_same]
  intro p hp
  obtain ⟨i, hi⟩ := List.mem_iff_getElem?.mp hp
  split
  · exact p.hears_enqueue h.maxPending t
  · rename_i hjoined
    refine .dead (Bool.eq_false_iff.mpr fun halive => ?_)
    exact hjoined (hh i p hi halive)

end Hub

namespace Gateway

/-- The paths to which drawings are posted. -/
def drawingPaths : List String := ["/api/draw", "/api/draw/mermaid", "/api/auto"]

/-- What the outcome `g'` of a request and its answer may be. -/
structure AllOrNothing (g : Gateway) (r : Request) (g' : Gateway) (a : Response) : Prop where
  refused : a.status ≠ 200 → g'.hub = g.hub ∨ a.status = 500 ∧ r.method = "POST" ∧
    ∃ e, destination "POST" r.path = .endpoint e ∧ g.LeavesUntold r.body e g'
  unposted : r.method ≠ "POST" → g'.hub = g.hub
  drawn : a.status = 200 → r.method = "POST" → r.path ∈ drawingPaths →
    g.Draws r.path r.body g' a.content
  replaced : a.status = 200 → r.method = "POST" → r.path = "/api/scene" →
    g.Replaces r.body g' a.content
  cleared : a.status = 200 → r.method = "POST" → r.path = "/api/clear" → g'.hub.scene = {}
  told : a.status = 200 → r.method = "POST" →
    r.path ∈ drawingPaths ++ ["/api/scene", "/api/clear"] →
    ∃ room t, g'.hub.scene.updateMessage room = .ok t ∧
      List.Forall₂ (Peer.Hears g.hub.maxPending t) g.hub.peers g'.hub.peers

variable {g : Gateway}

/-- Whatever state the gateway has come to, a request is carried out as a whole or not at all,
unless the message about the scene that it has put cannot be written. -/
theorem answer_all_or_nothing (hg : g.Reachable) (r : Request) :
    g.AllOrNothing r (g.answer r).1 (g.answer r).2 := by
  cases g.answers_answer r with
  | idle hub post =>
    exact ⟨fun _ => .inl hub, fun _ => hub, fun ok hpost => (post hpost ok).elim,
      fun ok hpost => (post hpost ok).elim, fun ok hpost => (post hpost ok).elim,
      fun ok hpost => (post hpost ok).elim⟩
  | untold post hdest status left =>
    have hnot : (g.answer r).2.status ≠ 200 := by
      rw [status]
      decide
    exact ⟨fun _ => .inr ⟨status, post, _, hdest, left⟩, fun h => (h post).elim,
      fun ok => (hnot ok).elim, fun ok => (hnot ok).elim, fun ok => (hnot ok).elim,
      fun ok => (hnot ok).elim⟩
  | done post hdest ok told fulfilled =>
    rename_i e
    -- which endpoint has carried the request out is decided by its path
    have hends : ∀ path e', destination "POST" path = .endpoint e' → r.path = path → e' = e := by
      rintro _ e' hd rfl
      rw [hdest] at hd
      exact (Destination.endpoint.inj hd).symm
    refine ⟨fun h => (h ok).elim, fun h => (h post).elim, fun _ _ hpath => ?_, fun _ _ hpath => ?_,
      fun _ _ hpath => ?_, fun _ _ _ => ?_⟩
    · simp only [drawingPaths, List.mem_cons, List.not_mem_nil, or_false] at hpath
      rcases hpath with hpath | hpath | hpath
      · cases hends _ .draw rfl hpath
        rwa [hpath]
      · cases hends _ .drawMermaid rfl hpath
        rwa [hpath]
      · cases hends _ .auto rfl hpath
        rwa [hpath]
    · cases hends _ .replaceScene rfl hpath
      exact fulfilled
    · cases hends _ .clear rfl hpath
      exact fulfilled
    · obtain ⟨room, t, -, ht, hub⟩ := told
      refine ⟨room, t, ht, ?_⟩
      have hliving : Hub.ReachesLiving { g.hub with scene := (g.answer r).1.hub.scene } :=
        hg.reachesLiving
      have hears := Hub.hears_tell hliving t
      rwa [← hub] at hears

/-- Two clients of which one message may wait for each; the first has taken its own. -/
def twoClients : Gateway :=
  let g : Gateway := { hub := Hub.start {} 1 }
  let g := { g with hub := (g.hub.subscribe "quick" {} g.limits.greeting).1 }
  let g := { g with hub := (g.hub.subscribe "slow" {} g.limits.greeting).1 }
  { g with hub := g.hub.act (.pump 0 .sent) }

theorem reachable_twoClients : twoClients.Reachable :=
  .pumped 0 .sent (.connected "slow" {} (.connected "quick" {}
    (.start {} 1 .numbered (fun _ => {}) none {} {})))

/-- A request to draw a text. -/
def drawingRequest : Request :=
  { method := "POST", path := "/api/draw", arrival := "",
    body := "\x7b\"elements\": [\x7b\"type\": \"text\", \"text\": \"a\"\x7d]\x7d".toUTF8.toList }

theorem answer_all_or_nothing_drawing :
    (twoClients.answer drawingRequest).2.status = 200 ∧
    (twoClients.answer drawingRequest).1.hub.peers.map (·.alive) = [true, false] ∧
    twoClients.AllOrNothing drawingRequest (twoClients.answer drawingRequest).1
      (twoClients.answer drawingRequest).2 :=
  ⟨by decide +kernel, by decide +kernel, answer_all_or_nothing reachable_twoClients drawingRequest⟩

/-- Arrays inside one another. -/
def tower : Nat → Json
  | 0 => .null
  | n + 1 => .array [tower n]

theorem plain_tower (n : Nat) : (tower n).Plain := by
  induction n with
  | zero => exact .null
  | succ n ih => exact .array (by simpa using ih)

theorem nesting_tower (n : Nat) : (tower n).nesting = n := by
  induction n with
  | zero => rfl
  | succ n ih => simp [tower, Json.nesting, Json.nestingOfItems, ih]

def towerScene (n : Nat) : Scene := ⟨[tower n], []⟩

theorem plain_towerScene (n : Nat) : (towerScene n).Plain := by
  have hview : (Json.object []).Plain := .object (by simp) (by simp) (by simp)
  exact ⟨by simpa [towerScene] using plain_tower n, hview⟩

theorem nesting_towerScene (n : Nat) : (towerScene n).nesting = n + 3 := by
  simp [towerScene, Scene.nesting, Json.nestingOfItems, Json.nestingOfFields, nesting_tower]

/-- A request to put such a scene. -/
def towerRequest (n : Nat) : Request :=
  { method := "POST", path := "/api/scene", arrival := "",
    body := (towerScene n).toJson.render.asciiBytes }

theorem ofBytes_towerRequest {room n : Nat} (h : n + 2 ≤ room) :
    Json.ofBytes room (towerRequest n).body = .ok (towerScene n).toJson := by
  refine Json.ofBytes_render (plain_towerScene n).toJson ?_
  have hnesting := (towerScene n).nesting_toJson
  rw [nesting_towerScene] at hnesting
  omega

/-- A scene that can be read and not be told takes the place of the old one, and the answer blames
the server. -/
theorem answer_towerRequest {n : Nat} (hread : n + 2 ≤ g.limits.body)
    (hwrite : g.limits.replacing < n + 3) :
    (g.answer (towerRequest n)).2.status = 500 ∧
      (g.answer (towerRequest n)).1.hub = { g.hub with scene := towerScene n } := by
  have hbody : (readBody g.limits.body (towerRequest n).body >>= Scene.ofBody) =
      .ok (towerScene n) := by
    obtain ⟨fields, hfields, helements, hview⟩ := (towerScene n).givesScene_toJson
    rw [readBody_of_object (hfields ▸ ofBytes_towerRequest hread)]
    exact ofBody_eq_ok_iff.mpr ⟨.inl helements, .inl hview⟩
  have htold : ¬ ∃ t, (towerScene n).updateMessage g.limits.replacing = .ok t := by
    rw [(plain_towerScene n).updateMessage_iff, nesting_towerScene]
    omega
  rw [answer_of_posted ⟨rfl, rfl⟩ rfl rfl]
  cases hm : (towerScene n).updateMessage g.limits.replacing with
  | ok t => exact (htold ⟨t, hm⟩).elim
  | error limit =>
    rw [replaceScene, hbody]
    dsimp only
    rw [Hub.put_eq_error hm]
    exact ⟨rfl, rfl⟩

/-- How many arrays may stand inside one another in the element of a body: the body and the list of
its elements go around them. -/
def deepestPosted : Nat := Limits.usual.body - 2

/-- A request that is answered with a fault, and has changed the scene. -/
theorem replaced_by_tower :
    (({} : Gateway).connect "a").Reachable ∧
    ((({} : Gateway).connect "a").answer (towerRequest deepestPosted)).2.status = 500 ∧
    (({} : Gateway).connect "a").hub.scene = {} ∧
    ((({} : Gateway).connect "a").answer (towerRequest deepestPosted)).1.hub.scene =
      towerScene deepestPosted ∧
    ((({} : Gateway).connect "a").answer (towerRequest deepestPosted)).1.hub.peers =
      (({} : Gateway).connect "a").hub.peers := by
  obtain ⟨hstatus, hhub⟩ := answer_towerRequest (g := ({} : Gateway).connect "a")
    (n := deepestPosted) (by decide) (by decide)
  refine ⟨.connected "a" {} (.start {} 256 .numbered (fun _ => {}) none {} {}), hstatus, rfl,
    ?_, ?_⟩
  · rw [hhub]
  · rw [hhub]

end Gateway

end Easel
