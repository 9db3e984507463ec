import Easel.Proofs.Gateway.Pushes
import Easel.Proofs.Json.Limits

/-! Whatever a client sends, it stays connected, and only an update changes anything. Two things end
a connection: a text that goes down further than the reader can follow, and a scene that can be read
and not be told. -/
namespace Easel

theorem tooDeep_of_breaksOff? {room : Nat} {raw : Text} {why : Refusal} {limit : Json.Limit}
    (h : Scene.ofPush room raw = .error why) (hwhy : why.breaksOff? = some limit) :
    ∃ innermost, Json.parseMarked room raw = .error (.tooDeep innermost) := by
  unfold Scene.ofPush at h
  split at h
  · rename_i e hread
    cases h
    cases e with
    | tooDeep innermost => exact ⟨innermost, hread⟩
    | malformed => cases hwhy
    | longInteger => cases hwhy
  · split at h
    · split at h
      · cases (breaksOff?_of_pushedScene h).symm.trans hwhy
      · cases h
        cases hwhy
    · cases h
      cases hwhy
  · cases h
    cases hwhy

namespace Peer

variable {p : Peer} {maxPending : Int} {t : Text}

/-- Whoever is told something keeps its name and its place. -/
theorem identity_enqueue : ((p.enqueue maxPending t).1.name, (p.enqueue maxPending t).1.joined) =
    (p.name, p.joined) := by
  rcases p.enqueue_cases maxPending t with ⟨-, he⟩ | ⟨-, he⟩ | ⟨-, he⟩
  · rw [he]
  · rw [he]
    rfl
  · rw [he]

end Peer

theorem Hub.identities_tell (h : Hub) (t : Text) (origin : Option Nat) :
    ((h.tell t origin).1.peers.map fun p => (p.name, p.joined)) =
      h.peers.map fun p => (p.name, p.joined) := by
  refine List.ext_getElem? fun i => ?_
  rw [List.getElem?_map, List.getElem?_map, getElem?_tell, Option.map_map]
  congr 1
  funext p
  simp only [Function.comp_apply]
  split
  · exact Peer.identity_enqueue
  · rfl

namespace Gateway

variable {g : Gateway} {client : Nat} {p : Peer} {f : Frame} {raw t : Text} {s : Scene} {room : Nat}

/-- A frame that pushes a scene: an update whose payload has a list of elements, and a view that is
an object, or null, or missing. -/
def Frame.Pushes (f : Frame) (s : Scene) : Prop :=
  ∃ payload, f.Carries payload ∧ payload.get? "elements" = some (.array s.elements) ∧
    MayGive payload "appState" .object s.appState []

/-- A frame that pushes a scene of which there is no telling. -/
def Frame.PushesUnsaid (f : Frame) (room : Nat) (s : Scene) : Prop :=
  f.Pushes s ∧ ∃ limit, s.updateMessage room = .error limit

theorem Frame.pushes_iff (hf : f.text? = some raw) (hdeep : ¬ f.TooDeep room) :
    f.Pushes s ↔ Scene.ofPush room raw = .ok s := by
  constructor
  · rintro ⟨payload, hcarries, hparts⟩
    obtain ⟨raw', hraw, hpush⟩ := hcarries.ofPush hdeep
    obtain rfl := Option.some.inj (hf.symm.trans hraw)
    exact hpush.trans (pushedScene_eq_ok_iff.mpr hparts)
  · intro hs
    obtain ⟨payload, hcarries, hpush⟩ := carries_of_ofPush hf hs
    exact ⟨payload, hcarries, pushedScene_eq_ok_iff.mp hpush⟩

theorem Frame.not_pushes_of_none (hf : f.text? = none) : ¬ f.Pushes s := by
  rintro ⟨payload, ⟨raw, message, room, hraw, -⟩, -⟩
  rw [hf] at hraw
  cases hraw

/-- What a client does with a frame: it stays as it is, nobody comes or goes, the scene is the one
that is pushed if there is one, and nothing at all changes if there is none. -/
structure Undisturbed (g : Gateway) (client : Nat) (f : Frame) (g' : Gateway) : Prop where
  sender : g'.hub.peers[client]? = g.hub.peers[client]?
  clients : (g'.hub.peers.map fun p => (p.name, p.joined)) =
    g.hub.peers.map fun p => (p.name, p.joined)
  applied : g.applies client f = true ↔ ∃ s, f.Pushes s
  scene : ∀ s, f.Pushes s → g'.hub.scene = s
  dropped : g.applies client f = false → g' = g

theorem undisturbed_of_said (hp : g.hub.peers[client]? = some p) (hjoined : p.joined = true)
    (hf : f.text? = some raw) (hdeep : ¬ f.TooDeep g.limits.pushing.reading)
    (hs : Scene.ofPush g.limits.pushing.reading raw = .ok s)
    (ht : s.updateMessage g.limits.pushing.writing = .ok t) :
    g.Undisturbed client f (g.receive client f) := by
  obtain ⟨happlies, hreceive⟩ := receive_of_said hp hjoined hf hs ht
  have hpushes := fun s' => Frame.pushes_iff (s := s') hf hdeep
  rw [hreceive]
  refine ⟨?_, Hub.identities_tell _ t (some client), ?_, fun s' hs' => ?_, by simp [happlies]⟩
  · simp [Hub.getElem?_tell, hp]
  · exact iff_of_true happlies ⟨s, (hpushes s).mpr hs⟩
  · exact Except.ok.inj (hs.symm.trans ((hpushes s').mp hs'))

theorem undisturbed_of_not_pushes (happlies : g.applies client f = false)
    (hreceive : g.receive client f = g) (hs : ∀ s, ¬ f.Pushes s) :
    g.Undisturbed client f (g.receive client f) := by
  rw [hreceive]
  refine ⟨rfl, rfl, ?_, fun s h => (hs s h).elim, fun _ => rfl⟩
  exact iff_of_false (by simp [happlies]) fun ⟨s, h⟩ => hs s h

theorem undisturbed_of_told (hp : g.hub.peers[client]? = some p) (hjoined : p.joined = true)
    (hdeep : ¬ f.TooDeep g.limits.pushing.reading)
    (htold : ∀ s, ¬ f.PushesUnsaid g.limits.pushing.writing s) :
    g.Undisturbed client f (g.receive client f) := by
  cases hf : f.text? with
  | none =>
    exact undisturbed_of_not_pushes (by simp [applies, hf]) (by simp only [receive, hf])
      fun s => Frame.not_pushes_of_none hf
  | some raw =>
    have hpushes := fun s => Frame.pushes_iff (s := s) hf hdeep
    cases hs : Scene.ofPush g.limits.pushing.reading raw with
    | ok s =>
      cases ht : s.updateMessage g.limits.pushing.writing with
      | ok t => exact undisturbed_of_said hp hjoined hf hdeep hs ht
      | error limit => exact (htold s ⟨(hpushes s).mpr hs, limit, ht⟩).elim
    | error why =>
      have hwhy : why.breaksOff? = none := by
        rw [Option.eq_none_iff_forall_ne_some]
        intro limit hlimit
        obtain ⟨innermost, hread⟩ := tooDeep_of_breaksOff? hs hlimit
        exact hdeep ⟨raw, innermost, hf, hread⟩
      obtain ⟨happlies, hreceive⟩ := receive_of_refused hp hjoined hf hs hwhy
      refine undisturbed_of_not_pushes happlies hreceive fun s h => ?_
      cases hs.symm.trans ((hpushes s).mp h)

/-- No frame disturbs a client or its connection, unless something goes down too far. A frame that
the reader cannot follow, which takes a great many brackets, ends the connection; and so does a
scene that is pushed and cannot be told, which stays. -/
theorem receive_undisturbed (hp : g.hub.peers[client]? = some p) (hjoined : p.joined = true)
    (f : Frame) :
    (¬ f.TooDeep g.limits.pushing.reading →
      (∀ s, ¬ f.PushesUnsaid g.limits.pushing.writing s) →
      g.Undisturbed client f (g.receive client f)) ∧
    (f.TooDeep g.limits.pushing.reading →
      (∃ raw, f.text? = some raw ∧ g.limits.pushing.reading < raw.countP Json.isOpening) ∧
      g.applies client f = false ∧ g.receive client f = g.disconnect client) ∧
    (∀ s, ¬ f.TooDeep g.limits.pushing.reading → f.PushesUnsaid g.limits.pushing.writing s →
      g.applies client f = false ∧ g.receive client f =
        ({ g with hub := { g.hub with scene := s } } : Gateway).disconnect client) := by
  refine ⟨undisturbed_of_told hp hjoined,
    fun hdeep => ⟨?_, receive_of_tooDeep hp hjoined hdeep⟩, ?_⟩
  · obtain ⟨raw, innermost, hf, hread⟩ := hdeep
    exact ⟨raw, hf, Json.lt_countP_of_parseMarked hread⟩
  · rintro s hdeep ⟨⟨payload, hcarries, hparts⟩, limit, ht⟩
    obtain ⟨raw, hraw, hpush⟩ := hcarries.ofPush hdeep
    exact receive_of_unsaid hp hjoined hraw (hpush.trans (pushedScene_eq_ok_iff.mpr hparts)) ht

theorem pushes_pushFrame : pushFrame.Pushes ⟨[.null], []⟩ :=
  ⟨oneElement, carries_pushFrame, rfl, .inr ⟨.inl rfl, rfl⟩⟩

theorem eq_of_pushes_pushFrame (h : pushFrame.Pushes s) : s = ⟨[.null], []⟩ := by
  obtain ⟨raw, -, hraw, -⟩ := parse_pushFrame
  have hpushes := fun s => Frame.pushes_iff (s := s) hraw not_tooDeep_pushFrame
  exact Except.ok.inj (((hpushes s).mp h).symm.trans ((hpushes _).mp pushes_pushFrame))

/-- A push of the client that has been given up. -/
theorem receive_undisturbed_behind :
    ∃ p, (twoClients.receive 0 pushFrame).hub.peers[1]? = some p ∧ p.alive = false ∧
      p.joined = true ∧ ¬ pushFrame.TooDeep Limits.usual.pushing.reading ∧
      (twoClients.receive 0 pushFrame).applies 1 pushFrame = true ∧
      (twoClients.receive 0 pushFrame).Undisturbed 1 pushFrame
        ((twoClients.receive 0 pushFrame).receive 1 pushFrame) := by
  obtain ⟨p, hp, halive, hjoined⟩ : ∃ p, (twoClients.receive 0 pushFrame).hub.peers[1]? = some p ∧
      p.alive = false ∧ p.joined = true := by
    have hslow : ((twoClients.receive 0 pushFrame).hub.peers[1]?.map fun p => (p.alive, p.joined)) =
        some (false, true) := by decide +kernel
    obtain ⟨p, hp, hstate⟩ := Option.map_eq_some_iff.mp hslow
    exact ⟨p, hp, (Prod.mk.inj hstate).1, (Prod.mk.inj hstate).2⟩
  have htold : ∀ s, ¬ pushFrame.PushesUnsaid Limits.usual.pushing.writing s := by
    rintro s ⟨hs, limit, ht⟩
    obtain rfl := eq_of_pushes_pushFrame hs
    cases ht
  obtain ⟨hundisturbed, -⟩ := receive_undisturbed hp hjoined pushFrame
  rw [limits_receive] at hundisturbed
  have hall := hundisturbed not_tooDeep_pushFrame htold
  have happlied := hall.applied.mpr ⟨_, pushes_pushFrame⟩
  exact ⟨p, hp, halive, hjoined, not_tooDeep_pushFrame, happlied, hall⟩

def brackets (n : Nat) : Text := List.replicate n (.scalar '[')

theorem begins_brackets {n : Nat} (h : 0 < n) : Json.Begins (brackets n) := by
  obtain ⟨k, rfl⟩ := Nat.exists_eq_succ_of_ne_zero (Nat.ne_of_gt h)
  exact ⟨'[', brackets k, rfl, by decide, by decide, by decide, by decide⟩

theorem readValue_brackets {room n : Nat} (h : room < n) :
    (Json.readValue room (brackets n)).map Json.Reading.parts = .error (.tooDeep .array) := by
  -- Each bracket takes up room for one container, and leaves one bracket less.
  induction room generalizing n with
  | zero =>
    obtain ⟨k, rfl⟩ := Nat.exists_eq_succ_of_ne_zero (Nat.ne_of_gt h)
    change (Json.readValue 0 (.scalar '[' :: brackets k)).map Json.Reading.parts = _
    rw [Json.readValue]
    rfl
  | succ room ih =>
    obtain ⟨k, rfl⟩ := Nat.exists_eq_succ_of_ne_zero (Nat.ne_zero_of_lt h)
    have hk : room < k := Nat.lt_of_succ_lt_succ h
    have hbegins := begins_brackets (Nat.zero_lt_of_lt hk)
    change (Json.readValue (room + 1) (.scalar '[' :: brackets k)).map Json.Reading.parts = _
    rw [Json.parts_readValue_array, hbegins.skipGaps, Json.parts_readItems, ih hk]
    · rfl
    · rw [hbegins.skipGaps]
      exact hbegins.not_close (.inl rfl)

theorem tooDeep_brackets {n : Nat} (h : room < n) : (Frame.text (brackets n)).TooDeep room := by
  have hbegins := begins_brackets (Nat.zero_lt_of_lt h)
  refine ⟨brackets n, .array, rfl, ?_⟩
  rw [hbegins.parseMarked, Json.parse_eq, hbegins.skipGaps, readValue_brackets h]
  rfl

/-- Opening brackets, and nothing else, end a connection. -/
theorem disconnected_by_brackets :
    (({} : Gateway).connect "a").Reachable ∧
    (({} : Gateway).connect "a").hub.peers.map (·.joined) = [true] ∧
    ((({} : Gateway).connect "a").receive 0 (.text (brackets 5000))).hub.peers.map (·.joined) =
      [false] := by
  obtain ⟨p, hp, hjoined⟩ : ∃ p, (({} : Gateway).connect "a").hub.peers[0]? = some p ∧
      p.joined = true := ⟨_, rfl, rfl⟩
  have hdeep : (Frame.text (brackets 5000)).TooDeep
      (({} : Gateway).connect "a").limits.pushing.reading := tooDeep_brackets (by decide)
  refine ⟨.connected "a" {} (.start {} 256 .numbered (fun _ => {}) none {} {}), rfl, ?_⟩
  rw [(receive_of_tooDeep hp hjoined hdeep).2]
  rfl

end Gateway

end Easel
