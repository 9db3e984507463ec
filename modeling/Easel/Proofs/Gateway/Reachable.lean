import Easel.Proofs.Gateway.Requests
import Easel.Proofs.Scene.Outstanding
import Easel.Proofs.Scene.Run

/-! The states that a gateway can come to, and that in each of them every living client is one to
which broadcasts go. -/
namespace Easel

namespace Gateway

/-- The states to which requests, clients and pumps can bring a gateway, in any order. -/
inductive Reachable : Gateway → Prop where
  | start (scene : Scene) (maxPending : Int) (ids : IdSupply) (stamps : Nat → Stamps)
      (converter : Option Converter) (cors : Cors) (limits : Limits) :
      Reachable ⟨Hub.start scene maxPending, ids, stamps, converter, cors, limits⟩
  | answered {g : Gateway} (r : Request) : Reachable g → Reachable (g.answer r).1
  | connected {g : Gateway} (name : String) (transport : Transport) :
      Reachable g →
      Reachable { g with hub := (g.hub.subscribe name transport g.limits.greeting).1 }
  | received {g : Gateway} (client : Nat) (f : Frame) : Reachable g → Reachable (g.receive client f)
  | disconnected {g : Gateway} (client : Nat) : Reachable g → Reachable (g.disconnect client)
  | pumped {g : Gateway} (client : Nat) (outcome : Outcome) :
      Reachable g → Reachable { g with hub := g.hub.act (.pump client outcome) }

end Gateway

namespace Peer

variable {p : Peer} {maxPending : Int} {t : Text} {outcome : Outcome}

/-- Broadcasts go to the client as long as it is alive. -/
def Reached (p : Peer) : Prop := p.alive = true → p.joined = true

theorem reached_enqueue (hp : p.Reached) : (p.enqueue maxPending t).1.Reached := by
  rcases p.enqueue_cases maxPending t with ⟨-, he⟩ | ⟨-, he⟩ | ⟨-, he⟩
  · rwa [he]
  · rw [he]
    intro halive
    cases halive
  · rw [he]
    exact hp

/-- Nobody who is dismissed is alive. -/
theorem alive_close : (p.close maxPending).alive = false := by
  unfold close
  split <;> rfl

/-- A pump has its client give up or go on, and does not have it join or leave. -/
theorem reached_step (hp : p.Reached) : (p.step outcome).1.Reached := by
  unfold step
  split
  · exact hp
  · split <;> exact hp
  · split
    · exact hp
    · exact hp
    · intro halive
      cases halive

end Peer

namespace Hub

variable {h : Hub} {a : Action} {i : Nat} {p p' : Peer}

/-- Broadcasts go to every client that is alive. -/
def ReachesLiving (h : Hub) : Prop :=
  ∀ (i : Nat) (p : Peer), h.peers[i]? = some p → p.Reached

/-- Whatever happens to a client, it is not alive afterwards without being a member. -/
theorem reached_change (hp : p.Reached) (hc : Change h i a p p') : p'.Reached := by
  cases hc with
  | told => exact Peer.reached_enqueue hp
  | dismissed =>
    intro halive
    rw [Peer.alive_close] at halive
    cases halive
  | pumped => exact Peer.reached_step hp
  | spared => exact hp

/-- No action leaves behind a living client that is not a member. -/
theorem reachesLiving_act (hh : h.ReachesLiving) (a : Action) : (h.act a).ReachesLiving := by
  intro i p' hp'
  cases hp : h.peers[i]? with
  | some p =>
    obtain ⟨q, hq, hc⟩ := change_act hp a
    rw [hp'] at hq
    cases hq
    exact reached_change (hh i p hp) hc
  | none =>
    obtain ⟨name, transport, room, first, -, -, -, rfl⟩ := newcomer_of_act hp hp'
    intro _
    rfl

theorem reachesLiving_tell (hh : h.ReachesLiving) (t : Text) (origin : Option Nat) :
    (h.tell t origin).1.ReachesLiving := by
  intro i p' hp'
  rw [getElem?_tell] at hp'
  obtain ⟨p, hp, rfl⟩ := Option.map_eq_some_iff.mp hp'
  split
  · exact Peer.reached_enqueue (hh i p hp)
  · exact hh i p hp

theorem reachesLiving_finish (hh : h.ReachesLiving) (client : Nat) :
    (h.update client fun p => { p with pump := .finished }).ReachesLiving := by
  intro i p' hp'
  rw [getElem?_update] at hp'
  split at hp'
  · obtain ⟨p, hp, rfl⟩ := Option.map_eq_some_iff.mp hp'
    exact hh i p hp
  · exact hh i p' hp'

end Hub

namespace Gateway

variable {g : Gateway}

theorem reachesLiving_disconnect (hg : g.hub.ReachesLiving) (client : Nat) :
    (g.disconnect client).hub.ReachesLiving :=
  Hub.reachesLiving_finish (Hub.reachesLiving_act hg (.unsubscribe client)) client

/-- Whoever is alive in a state that the service can come to is a member, and so is told of
changes. -/
theorem Reachable.reachesLiving (hg : g.Reachable) : g.hub.ReachesLiving := by
  induction hg with
  | start =>
    intro i p hp
    cases hp
  | @answered g r _ ih =>
    cases g.answers_answer r with
    | idle hub _ => rwa [hub]
    | done _ _ _ told _ =>
      obtain ⟨room, t, -, -, hub⟩ := told
      rw [hub]
      exact Hub.reachesLiving_tell ih t none
    | untold _ _ _ left =>
      rw [left.hub]
      exact ih
  | @connected g name transport _ ih =>
    exact Hub.reachesLiving_act ih (.subscribe name transport g.limits.greeting)
  | @received g client f _ ih =>
    unfold receive
    split
    · rename_i t _ _
      have hreceive : (g.hub.receive client t g.limits.pushing).1.ReachesLiving :=
        Hub.reachesLiving_act ih (.receive client t g.limits.pushing)
      split
      · rename_i hub _ heq
        rw [heq] at hreceive
        exact hreceive
      · rename_i hub _ heq
        rw [heq] at hreceive
        exact reachesLiving_disconnect hreceive client
    · exact ih
  | disconnected client _ ih => exact reachesLiving_disconnect ih client
  | pumped client outcome _ ih => exact Hub.reachesLiving_act ih (.pump client outcome)

end Gateway

end Easel
