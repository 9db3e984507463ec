import Easel.Proofs.Scene.Run

/-! Slow and broken clients do not touch the others: what one client gets is the same however the
pumps of the others work. -/
namespace Easel

/-- Whether an action is more to a client than a step of somebody else's pump. -/
def Action.concerns (i : Nat) : Action → Bool
  | .pump j _ => j = i
  | _ => true

namespace Hub

variable {h h₁ h₂ : Hub} {a : Action} {acts acts₁ acts₂ : List Action} {i : Nat}

/-- Hubs that differ at most in what became of the other clients. -/
structure Alike (i : Nat) (h₁ h₂ : Hub) : Prop where
  scene : h₁.scene = h₂.scene
  maxPending : h₁.maxPending = h₂.maxPending
  count : h₁.peers.length = h₂.peers.length
  peer : h₁.peers[i]? = h₂.peers[i]?

theorem Alike.refl (h : Hub) : Alike i h h := ⟨rfl, rfl, rfl, rfl⟩

theorem Alike.newcomer (hh : Alike i h₁ h₂) (name : String) (transport : Transport)
    (first : Text) : h₁.newcomer name transport first = h₂.newcomer name transport first := by
  simp only [Hub.newcomer, hh.maxPending]

theorem Alike.arrives (hh : Alike i h₁ h₂) (a : Action) : h₁.arrives a = h₂.arrives a := by
  cases a <;> simp only [Hub.arrives, hh.scene]

/-- What a client is after an action is decided by what it was, the scene, and how many came. -/
theorem Alike.peer_act (hh : Alike i h₁ h₂) (a : Action) :
    (h₁.act a).peers[i]? = (h₂.act a).peers[i]? := by
  cases hput₂ : a.put? h₂.scene with
  | some put =>
    have hput₁ : a.put? h₁.scene = some put := by rw [hh.scene, hput₂]
    rw [act_of_put hput₁, act_of_put hput₂]
    cases ht : put.text? with
    | some t =>
      rw [put_of_text ht, put_of_text ht, getElem?_tell, getElem?_tell]
      simp only [hh.peer, hh.maxPending]
    | none =>
      rw [put_of_text_none ht, put_of_text_none ht]
      exact hh.peer
  | none =>
    have hput₁ : a.put? h₁.scene = none := by rw [hh.scene, hput₂]
    cases a with
    | receive j raw room =>
      rw [act_receive_of_refused hput₁, act_receive_of_refused hput₂, hh.peer]
    | subscribe name transport room =>
      cases ht₂ : h₂.scene.initMessage room with
      | ok first =>
        have ht₁ : h₁.scene.initMessage room = .ok first := by rw [hh.scene, ht₂]
        rw [act_subscribe_of_ok ht₁, act_subscribe_of_ok ht₂, getElem?_append_peer,
          getElem?_append_peer, hh.count, hh.peer, hh.newcomer]
      | error e =>
        have ht₁ : h₁.scene.initMessage room = .error e := by rw [hh.scene, ht₂]
        rw [act_subscribe_of_error ht₁, act_subscribe_of_error ht₂, hh.peer]
    | unsubscribe j => rw [getElem?_unsubscribe, getElem?_unsubscribe, hh.peer, hh.maxPending]
    | pump j outcome => rw [getElem?_pump, getElem?_pump, hh.peer]
    | append | replaceElements | replace | clear | broadcast => cases hput₂

/-- What one action preserves, whoever it concerns. -/
theorem alike_act (hh : Alike i h₁ h₂) (a : Action) : Alike i (h₁.act a) (h₂.act a) where
  scene := by rw [scene_act, scene_act, hh.scene]
  maxPending := by rw [maxPending_act, maxPending_act, hh.maxPending]
  count := by rw [length_act, length_act, hh.count, hh.arrives]
  peer := hh.peer_act a

/-- A step of somebody else's pump leaves no trace. -/
theorem alike_act_of_not_concerns (hh : Alike i h₁ h₂) (ha : a.concerns i = false) :
    Alike i (h₁.act a) h₂ := by
  cases a with
  | pump j outcome =>
    have hj : j ≠ i := by simpa [Action.concerns] using ha
    refine ⟨by rw [← hh.scene]; rfl, by rw [← hh.maxPending]; rfl, ?_, ?_⟩
    · exact length_act.trans hh.count
    · rw [getElem?_pump, if_neg hj, hh.peer]
  | _ => cases ha

theorem accepts_eq (hh : Alike i h₁ h₂) (a : Action) : accepts i h₁ a = accepts i h₂ a := by
  cases a <;> simp [accepts, hh.peer]

/-- A client accepts nothing while its pump rests. -/
theorem accepts_of_not_concerns (ha : a.concerns i = false) : accepts i h a = [] := by
  cases a <;> simp_all [accepts, Action.concerns]

/-- A run agrees with the same run without the steps of the other pumps. -/
theorem alike_run_filter (hh : Alike i h₁ h₂) (acts : List Action) :
    Alike i (h₁.run acts) (h₂.run (acts.filter (·.concerns i))) ∧
      h₁.accepted i acts = h₂.accepted i (acts.filter (·.concerns i)) := by
  induction acts generalizing h₁ h₂ with
  | nil => exact ⟨hh, rfl⟩
  | cons a rest ih =>
    cases ha : a.concerns i with
    | true =>
      obtain ⟨hrun, hacc⟩ := ih (alike_act hh a)
      rw [List.filter_cons_of_pos ha]
      refine ⟨hrun, ?_⟩
      simp only [accepted, gather, accepts_eq hh a] at hacc ⊢
      rw [hacc]
    | false =>
      obtain ⟨hrun, hacc⟩ := ih (alike_act_of_not_concerns hh ha)
      rw [List.filter_cons_of_neg (by simp [ha])]
      refine ⟨hrun, ?_⟩
      simp only [accepted, gather, accepts_of_not_concerns ha, List.nil_append] at hacc ⊢
      rw [hacc]

/-- Two runs with the same actions but for the steps of other pumps show a client the same: the
scene, its queue, its life, the message in flight, and all that it has accepted. -/
theorem isolation (h : Hub) (i : Nat) (acts₁ acts₂ : List Action)
    (hsame : acts₁.filter (·.concerns i) = acts₂.filter (·.concerns i)) :
    (h.run acts₁).scene = (h.run acts₂).scene ∧
      (h.run acts₁).peers[i]? = (h.run acts₂).peers[i]? ∧
      h.accepted i acts₁ = h.accepted i acts₂ := by
  obtain ⟨hrun₁, hacc₁⟩ := alike_run_filter (Alike.refl (i := i) h) acts₁
  obtain ⟨hrun₂, hacc₂⟩ := alike_run_filter (Alike.refl (i := i) h) acts₂
  rw [hsame] at hrun₁ hacc₁
  exact ⟨hrun₁.scene.trans hrun₂.scene.symm, hrun₁.peer.trans hrun₂.peer.symm,
    hacc₁.trans hacc₂.symm⟩

/-- The other client falls behind in the first run and reads along in the second. -/
theorem isolation_from_overflow :
    let first : List Action := [.subscribe "a" {} 9, .subscribe "b" {} 9, .pump 0 .sent,
      .pump 0 .sent, .append [.null] none 9, .pump 0 .sent, .pump 0 .blocked, .clear (some 1) 9]
    let second : List Action := [.subscribe "a" {} 9, .subscribe "b" {} 9, .pump 1 .sent,
      .pump 0 .sent, .pump 1 .sent, .pump 0 .sent, .append [.null] none 9, .pump 0 .sent,
      .pump 1 .sent, .pump 0 .blocked, .pump 1 .sent, .clear (some 1) 9]
    first.filter (·.concerns 0) = second.filter (·.concerns 0) ∧
      ((start {} 1).run first).isLive 1 = false ∧ ((start {} 1).run second).isLive 1 = true ∧
      ((start {} 1).run first).scene = ((start {} 1).run second).scene ∧
      ((start {} 1).run first).peers[0]? = ((start {} 1).run second).peers[0]? ∧
      (start {} 1).accepted 0 first = (start {} 1).accepted 0 second :=
  ⟨rfl, rfl, rfl, isolation (start {} 1) 0 _ _ rfl⟩

end Hub

end Easel
