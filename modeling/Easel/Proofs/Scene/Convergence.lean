import Easel.Proofs.Scene.Delivery

/-! What clients show once nothing is on its way. A client shows the scene unless its own push
overtook an older message, or the message about the last change could not be written. -/
namespace Easel

/-- An action of the service: requests leave nobody out, and clients push what they changed. -/
def Action.External : Action → Prop
  | append _ origin _ | replaceElements _ origin _ | replace _ _ origin _ | clear origin _
  | broadcast origin _ => origin = none
  | subscribe _ _ _ | unsubscribe _ | receive _ _ _ | pump _ _ => True

/-- What replaces the scene that a client shows: a message that it accepts, or its own push. -/
inductive Event where
  | accepted (t : Text)
  | pushed (s : Scene)

/-- Whether a client shows a scene after an event. -/
def Event.Shows (s : Scene) : Event → Prop
  | accepted t => ∃ room, s.initMessage room = .ok t ∨ s.updateMessage room = .ok t
  | pushed s' => s' = s

namespace Hub

variable {h : Hub} {a b : Action} {acts before : List Action} {i : Nat} {p p' : Peer}
  {put put' : Put} {scene : Scene} {maxPending : Int}

/-- What an action does to what a client shows. -/
def happens (i : Nat) (h : Hub) : Action → List Event
  | .receive j raw room =>
    if j = i ∧ h.applies j raw room then [.pushed (h.scene.after (.receive j raw room))] else []
  | a => (accepts i h a).map .accepted

def events (h : Hub) (i : Nat) (acts : List Action) : List Event := gather (happens i) h acts

/-- A client shows the scene that the hub has. -/
def UpToDate (h : Hub) (i : Nat) (acts : List Action) : Prop :=
  ∃ e, (h.events i acts).getLast? = some e ∧ e.Shows (h.run acts).scene

/-- The last event once all that is on its way has been accepted. -/
def heading (events : List Event) (p : Peer) : Option Event :=
  (events ++ p.outstanding.map Event.accepted).getLast?

/-- The client shows the scene now, or will when nothing is on its way any more. -/
def Heads (s : Scene) (events : List Event) (p : Peer) : Prop :=
  ∃ e, heading events p = some e ∧ e.Shows s

/-- The last action of a run that puts a scene, and the actions before it. -/
structure LastChange (h : Hub) (acts before : List Action) (a : Action) (put : Put) : Prop where
  made : a.put? (h.run before).scene = some put
  last : ∃ after, acts = before ++ a :: after ∧ ∀ b ∈ after, ∀ s, b.put? s = none

/-- The last change is a push of the client, made while messages were on their way to it of which
the last one carries another scene. -/
def Overtaken (h : Hub) (i : Nat) (acts : List Action) : Prop :=
  ∃ before raw room put p t, h.LastChange acts before (.receive i raw room) put ∧
    put.text?.isSome ∧ (h.run before).peers[i]? = some p ∧ p.outstanding.getLast? = some t ∧
    ¬ (Event.accepted t).Shows put.scene

/-- The message about the last change could not be written, and the client was heading for another
scene. -/
def Missed (h : Hub) (i : Nat) (acts : List Action) : Prop :=
  ∃ before a put p, h.LastChange acts before a put ∧ put.text? = none ∧
    (h.run before).peers[i]? = some p ∧ ¬ Heads put.scene (h.events i before) p

theorem events_snoc : h.events i (acts ++ [a]) = h.events i acts ++ happens i (h.run acts) a :=
  gather_snoc _

/-- Whether an action puts a scene does not depend on the one that is there. -/
theorem put?_eq_none_congr {s : Scene} (ha : a.put? s = none) (s' : Scene) : a.put? s' = none := by
  cases a with
  | receive | subscribe | unsubscribe | pump => exact ha
  | append | replaceElements | replace | clear | broadcast => cases ha

/-- What stands in a run with one more action: that action, or one from the run before. -/
theorem snoc_eq_split {after : List Action} (heq : acts ++ [a] = before ++ b :: after) :
    after = [] ∧ before = acts ∧ b = a ∨
      ∃ rest, after = rest ++ [a] ∧ acts = before ++ b :: rest := by
  rcases after.eq_nil_or_concat with rfl | ⟨rest, c, rfl⟩
  · obtain ⟨rfl, hab⟩ := List.append_inj' heq rfl
    exact .inl ⟨rfl, rfl, (List.cons.inj hab).1.symm⟩
  · rw [List.concat_eq_append, ← List.cons_append, ← List.append_assoc] at heq
    obtain ⟨rfl, hac⟩ := List.append_inj' heq rfl
    exact .inr ⟨rest, by rw [(List.cons.inj hac).1, List.concat_eq_append], rfl⟩

/-- An action that puts no scene leaves the last change what it was. -/
theorem lastChange_snoc_of_quiet {s : Scene} (ha : a.put? s = none) :
    h.LastChange (acts ++ [a]) before b put ↔ h.LastChange acts before b put := by
  constructor
  · rintro ⟨made, after, heq, hquiet⟩
    rcases snoc_eq_split heq with ⟨-, -, rfl⟩ | ⟨rest, rfl, hacts⟩
    · cases (put?_eq_none_congr ha _).symm.trans made
    · exact ⟨made, rest, hacts, fun c hc => hquiet c (List.mem_append_left _ hc)⟩
  · rintro ⟨made, after, rfl, hquiet⟩
    refine ⟨made, after ++ [a], by simp, fun c hc s' => ?_⟩
    rcases List.mem_append.mp hc with hc | hc
    · exact hquiet c hc s'
    · obtain rfl := List.mem_singleton.mp hc
      exact put?_eq_none_congr ha s'

/-- One that does is the last change. -/
theorem lastChange_snoc_of_put (ha : a.put? (h.run acts).scene = some put) :
    h.LastChange (acts ++ [a]) before b put' ↔ before = acts ∧ b = a ∧ put' = put := by
  constructor
  · rintro ⟨made, after, heq, hquiet⟩
    rcases snoc_eq_split heq with ⟨-, rfl, rfl⟩ | ⟨rest, rfl, -⟩
    · exact ⟨rfl, rfl, Option.some.inj (made.symm.trans ha)⟩
    · cases (hquiet a (by simp) _).symm.trans ha
  · rintro ⟨rfl, rfl, rfl⟩
    exact ⟨ha, [], by simp, by simp⟩

theorem overtaken_snoc_of_quiet {s : Scene} (ha : a.put? s = none) :
    h.Overtaken i (acts ++ [a]) ↔ h.Overtaken i acts := by
  simp only [Overtaken, lastChange_snoc_of_quiet ha]

theorem missed_snoc_of_quiet {s : Scene} (ha : a.put? s = none) :
    h.Missed i (acts ++ [a]) ↔ h.Missed i acts := by
  simp only [Missed, lastChange_snoc_of_quiet ha]

/-- Only a push of the client's own overtakes what is on its way to it. -/
theorem not_overtaken_snoc (ha : a.put? (h.run acts).scene = some put)
    (ho : put.origin ≠ some i) : ¬ h.Overtaken i (acts ++ [a]) := by
  rintro ⟨before, raw, room, put', p, t, hlast, -⟩
  obtain ⟨-, rfl, rfl⟩ := (lastChange_snoc_of_put ha).mp hlast
  obtain ⟨s, -, rfl⟩ := Option.map_eq_some_iff.mp ha
  exact ho rfl

/-- What cannot be told overtakes nothing: the client still shows what it headed for. -/
theorem not_overtaken_snoc_of_unsaid (ha : a.put? (h.run acts).scene = some put)
    (ht : put.text? = none) : ¬ h.Overtaken i (acts ++ [a]) := by
  rintro ⟨before, raw, room, put', p, t, hlast, hsaid, -⟩
  obtain ⟨-, -, rfl⟩ := (lastChange_snoc_of_put ha).mp hlast
  simp [ht] at hsaid

theorem not_missed_snoc_of_said {t : Text} (ha : a.put? (h.run acts).scene = some put)
    (ht : put.text? = some t) : ¬ h.Missed i (acts ++ [a]) := by
  rintro ⟨before, b, put', p, hlast, hnone, -⟩
  obtain ⟨-, -, rfl⟩ := (lastChange_snoc_of_put ha).mp hlast
  cases ht.symm.trans hnone

/-- A message that cannot be written is missed by all clients that do not head for its scene
anyhow. -/
theorem missed_snoc_of_unsaid (ha : a.put? (h.run acts).scene = some put)
    (ht : put.text? = none) (hp : (h.run acts).peers[i]? = some p) :
    h.Missed i (acts ++ [a]) ↔ ¬ Heads put.scene (h.events i acts) p := by
  constructor
  · rintro ⟨before, b, put', p', hlast, -, hp', hheads⟩
    obtain ⟨rfl, -, rfl⟩ := (lastChange_snoc_of_put ha).mp hlast
    obtain rfl := Option.some.inj (hp.symm.trans hp')
    exact hheads
  · intro hheads
    exact ⟨acts, a, put, p, (lastChange_snoc_of_put ha).mpr ⟨rfl, rfl, rfl⟩, ht, hp, hheads⟩

/-- Whether a push overtakes anything is decided by what is on its way to the client by then. -/
theorem overtaken_snoc_push {raw : Text} {room : Json.Room} {t : Text}
    (ha : (Action.receive i raw room).put? (h.run acts).scene = some put)
    (ht : put.text? = some t) (hp : (h.run acts).peers[i]? = some p) :
    h.Overtaken i (acts ++ [.receive i raw room]) ↔
      ∃ t, p.outstanding.getLast? = some t ∧ ¬ (Event.accepted t).Shows put.scene := by
  constructor
  · rintro ⟨before, raw', room', put', p', t', hlast, -, hp', ht', hne⟩
    obtain ⟨rfl, -, rfl⟩ := (lastChange_snoc_of_put ha).mp hlast
    obtain rfl := Option.some.inj (hp.symm.trans hp')
    exact ⟨t', ht', hne⟩
  · rintro ⟨t', ht', hne⟩
    exact ⟨acts, raw, room, put, p, t', (lastChange_snoc_of_put ha).mpr ⟨rfl, rfl, rfl⟩,
      by simp [ht], hp, ht', hne⟩

/-- Clients stay, so whoever is not there at the end was not there at any change. -/
theorem length_le_run (h : Hub) (acts : List Action) :
    h.peers.length ≤ (h.run acts).peers.length := by
  induction acts generalizing h with
  | nil => exact Nat.le_refl _
  | cons a rest ih =>
    rw [run_cons]
    refine Nat.le_trans ?_ (ih _)
    rw [length_act]
    exact Nat.le_add_right _ _

theorem LastChange.absent (hl : h.LastChange acts before a put)
    (hp : (h.run acts).peers[i]? = none) : (h.run before).peers[i]? = none := by
  obtain ⟨after, rfl, -⟩ := hl.last
  have hrun : h.run (before ++ a :: after) = (h.run before).run (a :: after) := by
    simp only [run, List.foldl_append]
  have hle := length_le_run (h.run before) (a :: after)
  rw [List.getElem?_eq_none_iff] at hp ⊢
  rw [hrun] at hp
  exact Nat.le_trans hle hp

theorem not_overtaken_of_absent (hp : (h.run acts).peers[i]? = none) : ¬ h.Overtaken i acts := by
  rintro ⟨before, raw, room, put, p, t, hlast, -, hbefore, -⟩
  cases (hlast.absent hp).symm.trans hbefore

theorem not_missed_of_absent (hp : (h.run acts).peers[i]? = none) : ¬ h.Missed i acts := by
  rintro ⟨before, a, put, p, hlast, -, hbefore, -⟩
  cases (hlast.absent hp).symm.trans hbefore

/-- A client heads for what the last message on its way to it carries. -/
theorem heads_of_last {s : Scene} {events : List Event} {t : Text}
    (ht : p.outstanding.getLast? = some t) :
    Heads s events p ↔ (Event.accepted t).Shows s := by
  have hlast : heading events p = some (.accepted t) := by
    simp [heading, List.getLast?_append, ht]
  simp [Heads, hlast]

/-- If nothing is on its way to it, it heads for what it shows. -/
theorem heads_of_outstanding_nil {s : Scene} {events : List Event} (hp : p.outstanding = []) :
    Heads s events p ↔ ∃ e, events.getLast? = some e ∧ e.Shows s := by
  simp [Heads, heading, hp]

/-- Whoever is told of a scene heads for it. -/
theorem heads_told {s : Scene} {events : List Event} (hp : p.Open) (t : Text)
    (halive : (p.enqueue maxPending t).1.alive = true) :
    Heads s events (p.enqueue maxPending t).1 ↔ (Event.accepted t).Shows s := by
  apply heads_of_last
  rcases p.enqueue_cases maxPending t with ⟨hdead, he⟩ | ⟨-, he⟩ | ⟨-, he⟩
  · simp [he, hdead] at halive
  · simp [he, Peer.abandon] at halive
  · simp [he, Peer.outstanding_append_text hp]

/-- A pump brings messages to the client in order, so the last one stays the last. -/
theorem heads_step {s : Scene} {events : List Event} {outcome : Outcome}
    (halive : (p.step outcome).1.alive = true) :
    Heads s (events ++ (p.step outcome).2.1.toList.map .accepted) (p.step outcome).1 ↔
      Heads s events p := by
  rcases p.step_cases outcome with ⟨-, hout⟩ | ⟨hdead, -⟩
  · simp only [Heads, heading, ← hout, List.map_append, List.append_assoc]
  · simp [hdead] at halive

/-- A client that pushes a scene heads for it unless the last message on its way carries another. -/
theorem heads_pushed {s : Scene} {events : List Event} :
    Heads s (events ++ [.pushed s]) p ↔
      ¬ ∃ t, p.outstanding.getLast? = some t ∧ ¬ (Event.accepted t).Shows s := by
  cases ht : p.outstanding.getLast? with
  | some t => simp [heads_of_last ht]
  | none =>
    have hnil : p.outstanding = [] := List.getLast?_eq_none_iff.mp ht
    simp [heads_of_outstanding_nil hnil, Event.Shows]

theorem happens_of_no_broadcast (ha : a.broadcast? h.scene = none)
    (hp : ∀ outcome, a ≠ .pump i outcome) : happens i h a = [] := by
  cases a with
  | receive j raw room => simp [happens, applies_eq, ha]
  | pump j outcome =>
    have hj : j ≠ i := fun he => hp outcome (by rw [he])
    simp [happens, accepts, hj]
  | subscribe | unsubscribe | append | replaceElements | replace | clear | broadcast => rfl

theorem happens_push {raw : Text} {room : Json.Room} {t : Text}
    (ha : (Action.receive i raw room).put? h.scene = some put) (ht : put.text? = some t) :
    happens i h (.receive i raw room) = [.pushed put.scene] := by
  have happlies : h.applies i raw room = true := by
    rw [applies_eq, broadcast?_of_text ha ht]
    rfl
  simp [happens, happlies, Scene.after, ha]

/-- Only its own push leaves out a client. -/
theorem push_of_origin (hext : a.External) {s : Scene} (ha : a.put? s = some put)
    (ho : put.origin = some i) : ∃ raw room, a = .receive i raw room := by
  cases a with
  | receive j raw room =>
    obtain ⟨s', -, rfl⟩ := Option.map_eq_some_iff.mp ha
    obtain rfl : j = i := Option.some.inj ho
    exact ⟨raw, room, rfl⟩
  | subscribe | unsubscribe | pump => cases ha
  | append | replaceElements | replace | clear | broadcast =>
    cases ha
    exact (Option.some_ne_none i (ho.symm.trans hext)).elim

/-- Who is told of the last change heads for its scene. -/
theorem heads_change_told {t : Text} (hopen : p.Open) (hput : a.put? (h.run acts).scene = some put)
    (ht : put.text? = some t) (ho : put.origin ≠ some i)
    (halive : (p.enqueue (h.run acts).maxPending t).1.alive = true) :
    Heads (h.run (acts ++ [a])).scene (h.events i (acts ++ [a]))
        (p.enqueue (h.run acts).maxPending t).1 ↔
      ¬ h.Overtaken i (acts ++ [a]) ∧ ¬ h.Missed i (acts ++ [a]) := by
  have hshows : (Event.accepted t).Shows put.scene :=
    ⟨put.room, .inr (put.updateMessage_of_text ht)⟩
  rw [run_snoc, scene_act, heads_told hopen t halive, Scene.after, hput]
  exact iff_of_true hshows ⟨not_overtaken_snoc hput ho, not_missed_snoc_of_said hput ht⟩

/-- A step of its pump leaves a client heading for what it headed for. -/
theorem heads_change_pumped {outcome : Outcome} (hp : (h.run acts).peers[i]? = some p)
    (halive : (p.step outcome).1.alive = true) :
    (Heads (h.run (acts ++ [.pump i outcome])).scene (h.events i (acts ++ [.pump i outcome]))
        (p.step outcome).1 ↔
      ¬ h.Overtaken i (acts ++ [.pump i outcome]) ∧ ¬ h.Missed i (acts ++ [.pump i outcome])) ↔
    (Heads (h.run acts).scene (h.events i acts) p ↔ ¬ h.Overtaken i acts ∧ ¬ h.Missed i acts) := by
  have hstep : happens i (h.run acts) (.pump i outcome) =
      (p.step outcome).2.1.toList.map .accepted := by
    simp [happens, accepts, hp]
  have hquiet : (Action.pump i outcome).put? (h.run acts).scene = none := rfl
  rw [run_snoc, scene_act, events_snoc, hstep, heads_step halive, overtaken_snoc_of_quiet hquiet,
    missed_snoc_of_quiet hquiet]
  rfl

/-- So does an action that puts no scene and is no such step. -/
theorem heads_change_quiet (hput : a.put? (h.run acts).scene = none)
    (hpump : ∀ outcome, a ≠ .pump i outcome) :
    (Heads (h.run (acts ++ [a])).scene (h.events i (acts ++ [a])) p ↔
      ¬ h.Overtaken i (acts ++ [a]) ∧ ¬ h.Missed i (acts ++ [a])) ↔
    (Heads (h.run acts).scene (h.events i acts) p ↔ ¬ h.Overtaken i acts ∧ ¬ h.Missed i acts) := by
  rw [run_snoc, scene_act, events_snoc,
    happens_of_no_broadcast (broadcast?_of_put_none hput) hpump, List.append_nil, Scene.after, hput,
    overtaken_snoc_of_quiet hput, missed_snoc_of_quiet hput]
  rfl

/-- If nobody can be told of the last change, a client heads for what it headed for before. -/
theorem heads_change_unsaid (hp : (h.run acts).peers[i]? = some p)
    (hput : a.put? (h.run acts).scene = some put) (ht : put.text? = none) :
    Heads (h.run (acts ++ [a])).scene (h.events i (acts ++ [a])) p ↔
      ¬ h.Overtaken i (acts ++ [a]) ∧ ¬ h.Missed i (acts ++ [a]) := by
  rw [run_snoc, scene_act, events_snoc,
    happens_of_no_broadcast (broadcast?_of_text_none hput ht) (ne_pump_of_put hput),
    List.append_nil, Scene.after, hput, missed_snoc_of_unsaid hput ht hp, not_not]
  exact (and_iff_right (not_overtaken_snoc_of_unsaid hput ht)).symm

/-- A client heads for the scene of its own push unless this has overtaken another. -/
theorem heads_change_pushed {raw : Text} {room : Json.Room} {t : Text}
    (hp : (h.run acts).peers[i]? = some p)
    (hput : (Action.receive i raw room).put? (h.run acts).scene = some put)
    (ht : put.text? = some t) :
    Heads (h.run (acts ++ [.receive i raw room])).scene
        (h.events i (acts ++ [.receive i raw room])) p ↔
      ¬ h.Overtaken i (acts ++ [.receive i raw room]) ∧
        ¬ h.Missed i (acts ++ [.receive i raw room]) := by
  rw [run_snoc, scene_act, events_snoc, Scene.after, hput, happens_push hput ht, Option.elim_some,
    heads_pushed, overtaken_snoc_push hput ht hp]
  exact (and_iff_left (not_missed_snoc_of_said hput ht)).symm

/-- What an action does to the scene that a living client heads for. -/
theorem heads_change (hext : a.External) (hp : (h.run acts).peers[i]? = some p)
    (hopen : p.alive = true → p.Open) (hc : Change (h.run acts) i a p p')
    (halive : p'.alive = true)
    (ih : p.alive = true →
      (Heads (h.run acts).scene (h.events i acts) p ↔
        ¬ h.Overtaken i acts ∧ ¬ h.Missed i acts)) :
    Heads (h.run (acts ++ [a])).scene (h.events i (acts ++ [a])) p' ↔
      ¬ h.Overtaken i (acts ++ [a]) ∧ ¬ h.Missed i (acts ++ [a]) := by
  cases hc with
  | told ha ho hj =>
    obtain ⟨put, hput, ht, rfl⟩ := broadcast?_eq_some.mp ha
    exact heads_change_told (hopen (p.alive_of_enqueue halive)) hput ht ho halive
  | dismissed =>
    simp only [Peer.close] at halive
    split at halive
    · simp [Peer.abandon] at halive
    · simp at halive
  | pumped => exact (heads_change_pumped hp halive).mpr (ih (p.alive_of_step halive))
  | spared ha hpump =>
    cases hput : a.put? (h.run acts).scene with
    | none => exact (heads_change_quiet hput hpump).mpr (ih halive)
    | some put =>
      cases ht : put.text? with
      | none => exact heads_change_unsaid hp hput ht
      | some t =>
        rcases ha t put.origin (broadcast?_of_text hput ht) with ho | hj
        · obtain ⟨raw, room, rfl⟩ := push_of_origin hext hput ho
          exact heads_change_pushed hp hput ht
        · exact absurd (hopen halive).joined (by simp [hj])

/-- A newcomer is told of the scene as it is. -/
theorem heads_newcomer {events : List Event} {name : String} {transport : Transport} {room : Nat}
    {first : Text} (hfirst : h.scene.initMessage room = .ok first)
    (halive : (h.newcomer name transport first).alive = true) :
    Heads h.scene events (h.newcomer name transport first) := by
  apply (heads_of_last (t := first) ?_).mpr ⟨room, .inl hfirst⟩
  simp only [newcomer] at halive ⊢
  rcases ({ name, transport } : Peer).enqueue_cases h.maxPending first with
    ⟨hdead, -⟩ | ⟨-, he⟩ | ⟨-, he⟩
  · cases hdead
  · simp [he, Peer.abandon] at halive
  · simp [he, Peer.outstanding, Peer.inFlight, Packet.texts]

/-- In every state a living client heads for the scene, unless its own push overtook a message or
it could not be told of the last change. -/
theorem heads_run (hext : ∀ a ∈ acts, a.External)
    (hp : ((start scene maxPending).run acts).peers[i]? = some p) (halive : p.alive = true) :
    Heads ((start scene maxPending).run acts).scene ((start scene maxPending).events i acts) p ↔
      ¬ (start scene maxPending).Overtaken i acts ∧ ¬ (start scene maxPending).Missed i acts := by
  induction acts using List.reverseRecOn generalizing p with
  | nil => simp [start, run] at hp
  | append_singleton acts a ih =>
    have hrest : ∀ b ∈ acts, b.External := fun b hb => hext b (List.mem_append_left _ hb)
    cases hq : ((start scene maxPending).run acts).peers[i]? with
    | some q =>
      have hacc := accounted_run scene maxPending acts i
      rw [Accounted, hq] at hacc
      obtain ⟨p', hp', hc⟩ := change_act hq a
      obtain rfl : p' = p := by simpa [run_snoc, hp'] using hp
      exact heads_change (hext a (by simp)) hq (fun hl => (hacc.complete hl).1) hc halive
        (ih hrest hq)
    | none =>
      rw [run_snoc] at hp
      obtain ⟨name, transport, room, first, rfl, -, hfirst, rfl⟩ := newcomer_of_act hq hp
      have hquiet : (Action.subscribe name transport room).put?
          ((start scene maxPending).run acts).scene = none := rfl
      rw [overtaken_snoc_of_quiet hquiet, missed_snoc_of_quiet hquiet, run_snoc, scene_act]
      exact iff_of_true (heads_newcomer hfirst halive)
        ⟨not_overtaken_of_absent hq, not_missed_of_absent hq⟩

/-- Once nothing is on its way to a living client, it shows the scene unless the last change is
its own push, made while an older message with another scene was on its way, or the message about
the last change could not be written, and the client was not heading for the new scene anyhow. -/
theorem upToDate_iff_not_overtaken_not_missed (scene : Scene) (maxPending : Int)
    (acts : List Action) (i : Nat) (p : Peer) (hext : ∀ a ∈ acts, a.External)
    (hp : ((start scene maxPending).run acts).peers[i]? = some p) (halive : p.alive = true)
    (hqueue : p.queue = []) (hflight : p.inFlight = []) :
    (start scene maxPending).UpToDate i acts ↔
      ¬ (start scene maxPending).Overtaken i acts ∧ ¬ (start scene maxPending).Missed i acts := by
  have hout : p.outstanding = [] := by
    unfold Peer.outstanding
    split <;> simp [hflight, hqueue, Packet.texts]
  rw [← heads_run hext hp halive, heads_of_outstanding_nil hout]
  rfl

/-- A push that empties the scene. -/
def emptyingPush : Text :=
  .ofString "\x7b\"type\": \"scene:update\", \"payload\": \x7b\"elements\": []\x7d\x7d"

theorem ofPush_emptyingPush : Scene.ofPush 9 emptyingPush = .ok {} := by
  have h : ((Scene.ofPush 9 emptyingPush).toOption.any fun s =>
      s.elements.isEmpty && s.appState.isEmpty) = true := by decide +kernel
  cases hs : Scene.ofPush 9 emptyingPush with
  | error why => simp [hs, Except.toOption] at h
  | ok s =>
    obtain ⟨elements, appState⟩ := s
    simpa [hs, Except.toOption] using h

theorem put?_emptyingPush (s : Scene) (i : Nat) :
    (Action.receive i emptyingPush ⟨9, 9⟩).put? s = some ⟨{}, some i, 9⟩ := by
  simp [Action.put?, ofPush_emptyingPush, Except.toOption]

theorem act_emptyingPush (h : Hub) (i : Nat) :
    h.act (.receive i emptyingPush ⟨9, 9⟩) = (h.put {} (some i) 9).1 :=
  act_of_put (put?_emptyingPush h.scene i)

theorem happens_emptyingPush (h : Hub) (i : Nat) :
    happens i h (.receive i emptyingPush ⟨9, 9⟩) = [.pushed {}] :=
  happens_push (put?_emptyingPush h.scene i) (t := (Scene.envelope {} "scene:update").render) rfl

/-- A client that has read all messages before it pushes its own change. -/
theorem upToDate_iff_not_overtaken_not_missed_read :
    let acts : List Action := [.subscribe "a" {} 9, .subscribe "b" {} 9, .append [.null] none 9,
      .pump 0 .sent, .pump 0 .sent, .pump 0 .sent, .pump 0 .sent, .receive 0 emptyingPush ⟨9, 9⟩]
    ∃ p, (∀ a ∈ acts, a.External) ∧ ((start {} 256).run acts).peers[0]? = some p ∧
      p.alive = true ∧ p.queue = [] ∧ p.inFlight = [] ∧
      ((start {} 256).UpToDate 0 acts ↔
        ¬ (start {} 256).Overtaken 0 acts ∧ ¬ (start {} 256).Missed 0 acts) := by
  intro acts
  have hext : ∀ a ∈ acts, a.External := by simp [acts, Action.External]
  have hpeer : ∃ p, ((start {} 256).run acts).peers[0]? = some p ∧ p.alive = true ∧
      p.queue = [] ∧ p.inFlight = [] := by
    simp only [acts, run, List.foldl_cons, List.foldl_nil, act_emptyingPush]
    exact ⟨_, rfl, rfl, rfl, rfl⟩
  obtain ⟨p, hp, halive, hqueue, hflight⟩ := hpeer
  exact ⟨p, hext, hp, halive, hqueue, hflight,
    upToDate_iff_not_overtaken_not_missed {} 256 acts 0 p hext hp halive hqueue hflight⟩

/-- The client empties the scene while a message about a new element is on its way to it. When all
is quiet it still shows that element. -/
theorem stale_view :
    let acts : List Action := [.subscribe "a" {} 9, .pump 0 .sent, .pump 0 .sent,
      .append [.null] none 9, .receive 0 emptyingPush ⟨9, 9⟩, .pump 0 .sent, .pump 0 .sent]
    (∀ a ∈ acts, a.External) ∧ ∃ p, ((start {} 256).run acts).peers = [p] ∧ p.alive = true ∧
      p.queue = [] ∧ p.inFlight = [] ∧ ¬ (start {} 256).UpToDate 0 acts := by
  intro acts
  have hscene : ((start {} 256).run acts).scene = {} := by
    simp only [acts, run, List.foldl_cons, List.foldl_nil, act_emptyingPush]
    rfl
  obtain ⟨t, ht⟩ : ∃ t, Scene.updateMessage ⟨[.null], []⟩ 9 = .ok t := ⟨_, rfl⟩
  have hlast : ((start {} 256).events 0 acts).getLast? = some (.accepted t) := by
    obtain rfl := (Scene.updateMessage_eq_ok_iff.mp ht).2
    simp only [acts, events, gather, act_emptyingPush, happens_emptyingPush]
    rfl
  refine ⟨by simp [acts, Action.External], ?_⟩
  have hpeers : ∃ p, ((start {} 256).run acts).peers = [p] ∧ p.alive = true ∧
      p.queue = [] ∧ p.inFlight = [] := by
    simp only [acts, run, List.foldl_cons, List.foldl_nil, act_emptyingPush]
    exact ⟨_, rfl, rfl, rfl, rfl⟩
  obtain ⟨p, hp, halive, hqueue, hflight⟩ := hpeers
  refine ⟨p, hp, halive, hqueue, hflight, ?_⟩
  rintro ⟨e, he, hshows⟩
  rw [hlast, Option.some.injEq] at he
  subst he
  rw [hscene] at hshows
  obtain ⟨room, hinit | hupdate⟩ := hshows
  · exact Scene.initMessage_ne_updateMessage hinit ht
  · have hempty := (Scene.updateMessage_eq_ok_iff.mp hupdate).2
    rw [← (Scene.updateMessage_eq_ok_iff.mp ht).2] at hempty
    revert hempty
    decide

end Hub

end Easel
