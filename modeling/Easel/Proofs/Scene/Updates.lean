import Easel.Proofs.Element.Blocks
import Easel.Proofs.Element.Encodable
import Easel.Proofs.Json.ReadBack
import Easel.Proofs.Scene.Run

/-! An update that is handed back as a push gives the scene that it was made of. -/
namespace Easel

theorem Json.Plain.record {fields : List (String × Json)} (hkeys : (fields.map (·.1)).Nodup)
    (hvalues : ∀ f ∈ fields, f.2.Plain) : (Json.record fields).Plain := by
  have hnames : ((fields.map fun f => (Text.ofString f.1, f.2)).map (·.1)).Nodup := by
    have hmapped := hkeys.map Text.ofString_injective
    rw [List.map_map] at hmapped ⊢
    exact hmapped
  refine .object hnames (List.forall_mem_map.mpr fun f _ => ?_) (List.forall_mem_map.mpr hvalues)
  exact Text.isEncodable_ofString f.1

namespace Scene

variable {s : Scene} {room : Nat} {t : Text}

/-- A scene of plain values. -/
structure Plain (s : Scene) : Prop where
  elements : ∀ v ∈ s.elements, v.Plain
  appState : (Json.object s.appState).Plain

/-- How many containers stand inside one another in a message that carries the scene. -/
def nesting (s : Scene) : Nat :=
  max (Json.nestingOfItems s.elements) (Json.nestingOfFields s.appState) + 3

theorem Plain.toJson (hs : s.Plain) : s.toJson.Plain := by
  refine .record (by simp) ?_
  simpa using ⟨.array hs.elements, hs.appState⟩

theorem Plain.envelope (hs : s.Plain) (type : String) : (s.envelope type).Plain := by
  have htype : (Json.ofString type).Plain := .string (Text.isEncodable_ofString _)
  refine .record (by simp) ?_
  simpa using ⟨htype, hs.toJson⟩

theorem nesting_toJson (s : Scene) : s.toJson.nesting + 1 = s.nesting := by
  simp [toJson, nesting, Json.record, Json.nesting, Json.nestingOfFields]

theorem nesting_envelope (s : Scene) (type : String) : (s.envelope type).nesting = s.nesting := by
  rw [← nesting_toJson]
  simp [envelope, Json.record, Json.ofString, Json.nesting, Json.nestingOfFields]

theorem fits_toJson : s.toJson.Fits (room + 2) ↔
    (∀ v ∈ s.elements, v.Fits room) ∧ (Json.object s.appState).Fits (room + 1) := by
  simp [toJson]

theorem exists_updateMessage_iff :
    (∃ t, s.updateMessage room = .ok t) ↔ (s.envelope "scene:update").Fits room := by
  constructor
  · rintro ⟨t, ht⟩
    exact (updateMessage_eq_ok_iff.mp ht).1
  · intro hfits
    exact ⟨_, updateMessage_eq_ok_iff.mpr ⟨hfits, rfl⟩⟩

theorem exists_updateMessage_succ_iff :
    (∃ t, s.updateMessage (room + 1) = .ok t) ↔ s.toJson.Fits room := by
  rw [exists_updateMessage_iff]
  simp [envelope]

/-- Elements that go down three containers at most do not stand in the way of a message. -/
theorem exists_updateMessage_append {es : List Json} (hroom : 6 ≤ room)
    (hs : ∃ t, s.updateMessage room = .ok t) (hes : ∀ v ∈ es, v.Fits 3) :
    ∃ t, (s.append es).updateMessage room = .ok t := by
  obtain ⟨n, rfl⟩ : ∃ n, room = n + 2 + 1 := ⟨room - 3, by omega⟩
  rw [exists_updateMessage_succ_iff, fits_toJson] at hs ⊢
  obtain ⟨helements, hview⟩ := hs
  refine ⟨List.forall_mem_append.mpr ⟨helements, fun v hv => ?_⟩, hview⟩
  exact (hes v hv).mono (by omega)

/-- Only its depth stands in the way of a message that carries plain values. -/
theorem Plain.updateMessage_iff (hs : s.Plain) :
    (∃ t, s.updateMessage room = .ok t) ↔ s.nesting ≤ room := by
  rw [← nesting_envelope s "scene:update", ← (hs.envelope _).obstacle?_eq_none_iff]
  exact exists_updateMessage_iff

theorem ofPush_updateMessage (hs : s.Plain) (ht : s.updateMessage room = .ok t) {reading : Nat}
    (h : s.nesting ≤ reading) : ofPush reading t = .ok s := by
  have hread : Json.parseMarked reading t = .ok (s.envelope "scene:update") := by
    rw [← (updateMessage_eq_ok_iff.mp ht).2]
    rw [← nesting_envelope s "scene:update"] at h
    exact Json.parseMarked_render (hs.envelope _) h
  simp [ofPush, hread, envelope, toJson, Json.record, Json.ofString, Fields.get?, Text.ofString,
    pushedScene, pushedAppState?, ofParts]

/-- An update that goes down too far cannot be read. -/
theorem ofPush_updateMessage_of_lt_nesting (hs : s.Plain) (ht : s.updateMessage room = .ok t)
    {reading : Nat} (h : reading < s.nesting) :
    ∃ innermost, ofPush reading t = .error (.unreadable (.tooDeep innermost)) := by
  rw [← nesting_envelope s "scene:update"] at h
  obtain ⟨innermost, hread⟩ := Json.parseMarked_render_of_lt_nesting (hs.envelope _) h
  rw [(updateMessage_eq_ok_iff.mp ht).2] at hread
  exact ⟨innermost, by simp only [ofPush, hread]⟩

end Scene

namespace Hub

variable {s : Scene}

/-- Only depth stands in the way of an update. Its message can be made where there is room for it.
A client that hands it back has it applied if the call has room to read the message and to write it
once more, and then the scene is the one of which the message was made. A client that hands back
the message about the last change changes nothing. -/
theorem receive_updateMessage (hs : s.Plain) (room : Nat) (h : Hub) (i : Nat) (call : Json.Room) :
    ((∃ t, s.updateMessage room = .ok t) ↔ s.nesting ≤ room) ∧
    ∀ t, s.updateMessage room = .ok t →
      (h.applies i t call = true ↔ s.nesting ≤ call.reading ∧ s.nesting ≤ call.writing) ∧
      (h.receive i t call).1.scene = (if s.nesting ≤ call.reading then s else h.scene) ∧
      ∀ origin room', ((h.put s origin room').1.receive i t call).1.scene = s := by
  refine ⟨hs.updateMessage_iff, fun t ht => ?_⟩
  have hafter : ∀ h : Hub, (h.receive i t call).1.scene = h.scene.after (.receive i t call) :=
    fun h => scene_act (a := .receive i t call)
  have hput : ∀ origin room', (h.put s origin room').1.scene = s :=
    fun origin room' => scene_put h s origin room'
  rw [applies_eq]
  rcases Nat.lt_or_ge call.reading s.nesting with hlt | hle
  · obtain ⟨innermost, hpush⟩ := Scene.ofPush_updateMessage_of_lt_nesting hs ht hlt
    have hnone : ∀ old : Scene, (Action.receive i t call).put? old = none := by
      simp [Action.put?, hpush, Except.toOption]
    refine ⟨iff_of_false ?_ fun hfits => Nat.not_le.mpr hlt hfits.1, ?_, fun origin room' => ?_⟩
    · simp [broadcast?_of_put_none (hnone _)]
    · rw [hafter, Scene.after, hnone, if_neg (Nat.not_le.mpr hlt), Option.elim_none]
    · rw [hafter, Scene.after, hnone, Option.elim_none, hput]
  · have hpush := Scene.ofPush_updateMessage hs ht hle
    have hsome : ∀ old : Scene,
        (Action.receive i t call).put? old = some ⟨s, some i, call.writing⟩ := by
      simp [Action.put?, hpush, Except.toOption]
    refine ⟨?_, ?_, fun origin room' => ?_⟩
    · rw [and_iff_right hle, ← hs.updateMessage_iff]
      exact isSome_broadcast?_iff (hsome _)
    · rw [hafter, Scene.after, hsome, if_pos hle, Option.elim_some]
    · rw [hafter, Scene.after, hsome, Option.elim_some]

/-- A label with an escape of each kind beside a negative number, and a view. -/
def labelled : Scene :=
  { elements := [.record [("text", .ofString "a \"\\\n\x07é😀"), ("x", .int (-40))],
      .array [.null, .bool true, .array []]]
    appState := [(.ofString "theme", .ofString "dark")] }

theorem plain_labelled : labelled.Plain := by
  have hstring : ∀ t, (Json.ofString t).Plain := fun t => .string (Text.isEncodable_ofString t)
  have hint : (Json.int (-40)).Plain := .int (by decide)
  have hrecord : (Json.record [("text", .ofString "a \"\\\n\x07é😀"), ("x", .int (-40))]).Plain :=
    .record (by simp) (by simpa using ⟨hstring _, hint⟩)
  have harray : (Json.array [.null, .bool true, .array []]).Plain :=
    .array (by simpa using ⟨.null, .bool true, .array (by simp)⟩)
  have hview : (Json.record [("theme", .ofString "dark")]).Plain :=
    .record (by simp) (by simpa using hstring _)
  exact ⟨by simpa [labelled] using ⟨hrecord, harray⟩, hview⟩

theorem receive_updateMessage_labelled :
    ∃ t, labelled.Plain ∧ labelled.updateMessage 9 = .ok t ∧
      Hub.applies (Hub.subscribe {} "a" {} 9).1 0 t ⟨9, 9⟩ = true ∧
      ((Hub.subscribe {} "a" {} 9).1.receive 0 t ⟨9, 9⟩).1.scene = labelled := by
  have hnesting : labelled.nesting = 5 := by rfl
  obtain ⟨hmade, htaken⟩ :=
    receive_updateMessage plain_labelled 9 (Hub.subscribe {} "a" {} 9).1 0 ⟨9, 9⟩
  rw [hnesting] at hmade htaken
  obtain ⟨t, ht⟩ := hmade.mpr (by decide)
  obtain ⟨happlied, hscene, -⟩ := htaken t ht
  exact ⟨t, plain_labelled, ht, happlied.mpr (by decide), hscene⟩

end Hub

end Easel
