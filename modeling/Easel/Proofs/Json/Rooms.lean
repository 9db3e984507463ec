import Easel.Proofs.Json.Limits
import Easel.Proofs.Json.ReadBack

/-! What readers with different rooms make of one text: the same, unless one of them has stopped
inside too many containers. -/
namespace Easel.Json

variable {α β : Type} {x y : Except Stop α} {room room' : Nat} {s t : Text}

/-- A reader has stopped inside too many containers. -/
def Stop.IsTooDeep : Stop → Prop
  | tooDeep _ => True
  | fault _ _ | longInteger _ => False

/-- Two readers come to the same, unless one of them has gone down too far. -/
def Agree (x y : Except Stop α) : Prop :=
  x = y ∨ (∃ e, x = .error e ∧ e.IsTooDeep) ∨ ∃ e, y = .error e ∧ e.IsTooDeep

theorem Agree.refl (x : Except Stop α) : Agree x x := .inl rfl

theorem agree_tooDeep_left (innermost : Container) (y : Except Stop α) :
    Agree (.error (.tooDeep innermost)) y := .inr (.inl ⟨_, rfl, trivial⟩)

theorem agree_tooDeep_right (x : Except Stop α) (innermost : Container) :
    Agree x (.error (.tooDeep innermost)) := .inr (.inr ⟨_, rfl, trivial⟩)

/-- Two readers that agree go on from the same value, or one of them has stopped. -/
theorem Agree.bind (h : Agree x y) {f g : α → Except Stop β}
    (hfg : ∀ a, x = .ok a → Agree (f a) (g a)) : Agree (x.bind f) (y.bind g) := by
  rcases h with rfl | ⟨e, rfl, he⟩ | ⟨e, rfl, he⟩
  · cases x with
    | error e => exact .refl _
    | ok a => exact hfg a rfl
  · exact .inr (.inl ⟨e, rfl, he⟩)
  · exact .inr (.inr ⟨e, rfl, he⟩)

theorem Agree.map (h : Agree x y) (f : α → β) : Agree (x.map f) (y.map f) := by
  rcases h with rfl | ⟨e, rfl, he⟩ | ⟨e, rfl, he⟩
  · exact .refl _
  · exact .inr (.inl ⟨e, rfl, he⟩)
  · exact .inr (.inr ⟨e, rfl, he⟩)

/-- Readers of a container agree if they do whenever both have room for it. -/
theorem agree_of_entered {x : Nat → Except Stop α} (innermost : Container)
    (hshut : x 0 = .error (.tooDeep innermost))
    (h : ∀ room room', Agree (x (room + 1)) (x (room' + 1))) (room room' : Nat) :
    Agree (x room) (x room') := by
  match room, room' with
  | 0, _ =>
    rw [hshut]
    exact agree_tooDeep_left _ _
  | _ + 1, 0 =>
    rw [hshut]
    exact agree_tooDeep_right _ _
  | room + 1, room' + 1 => exact h room room'

/-- Readers of further items have to agree only on what is shorter. -/
theorem agree_restAfter {close : Char} {more more' : Text → Except Stop (List α × Text)} (a : α)
    {rest : Text} (h : ∀ t : Text, t.length < rest.length → Agree (more t) (more' t)) :
    Agree (restAfter close more a rest) (restAfter close more' a rest) := by
  have hless := length_skipGaps_le rest
  unfold restAfter
  split
  · exact .refl _
  · rename_i p after hgaps
    rw [hgaps, List.length_cons] at hless
    have hafter := length_skipGaps_le after
    split
    · exact .refl _
    · split
      · exact (h _ (by omega)).map _
      · exact .refl _

theorem length_of_parts {x : Except Stop (Reading α s)} {r : α × Text}
    (h : x.map Reading.parts = .ok r) : r.2.length < s.length := by
  cases x with
  | error e => cases h
  | ok reading =>
    cases h
    exact reading.shorter

/-- Room matters to containers only. -/
theorem readValue_word {p : CodePoint} (hstring : p ≠ .scalar '"') (harray : p ≠ .scalar '[')
    (hobject : p ≠ .scalar '\x7b') (room room' : Nat) (rest : Text) :
    readValue room (p :: rest) = readValue room' (p :: rest) := by
  rw [readValue, readValue] <;> assumption

/-- An array that is closed at once takes up no more room than its own. -/
theorem readValue_closedArray {after : Text} (hs : skipGaps s = .scalar ']' :: after)
    (room room' : Nat) :
    readValue (room + 1) (.scalar '[' :: s) = readValue (room' + 1) (.scalar '[' :: s) := by
  rw [readValue, readValue]
  split
  · rfl
  · rename_i h
    exact (h _ hs).elim

theorem readValue_closedObject {after : Text} (hs : skipGaps s = .scalar '\x7d' :: after)
    (room room' : Nat) :
    readValue (room + 1) (.scalar '\x7b' :: s) = readValue (room' + 1) (.scalar '\x7b' :: s) := by
  rw [readValue, readValue]
  split
  · rfl
  · rename_i h
    exact (h _ hs).elim

theorem readFields_unquoted {p : CodePoint} (hquote : p ≠ .scalar '"') (room room' : Nat)
    (rest : Text) : readFields room (p :: rest) = readFields room' (p :: rest) := by
  rw [readFields, readFields] <;> simp [hquote]

mutual

/-- By the recursion of the three readers: with other room they come to the same, or one of them
stops for want of room. -/
theorem agree_readValue (room room' : Nat) (s : Text) :
    Agree ((readValue room s).map Reading.parts) ((readValue room' s).map Reading.parts) := by
  match s with
  | [] =>
    rw [readValue_nil, readValue_nil]
    exact .refl _
  | p :: rest =>
    by_cases hstring : p = .scalar '"'
    · rw [hstring, parts_readValue_string, parts_readValue_string]
      exact .refl _
    by_cases harray : p = .scalar '['
    · rw [harray]
      refine agree_of_entered (x := fun room => (readValue room (.scalar '[' :: rest)).map _) .array
        (by rw [readValue]; rfl) (fun room room' => ?_) room room'
      have hless := length_skipGaps_le rest
      by_cases hclose : ∃ after, skipGaps rest = .scalar ']' :: after
      · obtain ⟨after, hclose⟩ := hclose
        rw [readValue_closedArray hclose room room']
        exact .refl _
      · have hopen := not_exists.mp hclose
        rw [parts_readValue_array room hopen, parts_readValue_array room' hopen]
        exact (agree_readItems room room' (skipGaps rest)).map _
    by_cases hobject : p = .scalar '\x7b'
    · rw [hobject]
      refine agree_of_entered
        (x := fun room => (readValue room (.scalar '\x7b' :: rest)).map _) .object
        (by rw [readValue]; rfl) (fun room room' => ?_) room room'
      have hless := length_skipGaps_le rest
      by_cases hclose : ∃ after, skipGaps rest = .scalar '\x7d' :: after
      · obtain ⟨after, hclose⟩ := hclose
        rw [readValue_closedObject hclose room room']
        exact .refl _
      · have hopen := not_exists.mp hclose
        rw [parts_readValue_object room hopen, parts_readValue_object room' hopen]
        exact (agree_readFields room room' (skipGaps rest)).map _
    rw [readValue_word hstring harray hobject room room']
    exact .refl _
termination_by 2 * s.length

theorem agree_readItems (room room' : Nat) (s : Text) :
    Agree ((readItems room s).map Reading.parts) ((readItems room' s).map Reading.parts) := by
  rw [parts_readItems, parts_readItems]
  refine (agree_readValue room room' s).bind fun r hr => ?_
  have hless := length_of_parts hr
  exact agree_restAfter r.1 fun t ht => agree_readItems room room' t
termination_by 2 * s.length + 1

theorem agree_readFields (room room' : Nat) (s : Text) :
    Agree ((readFields room s).map Reading.parts) ((readFields room' s).map Reading.parts) := by
  match s with
  | [] =>
    rw [readFields, readFields]
    · exact .refl _
    all_goals simp
  | p :: rest =>
    by_cases hquote : p = .scalar '"'
    · rw [hquote, parts_readFields, parts_readFields]
      refine (Agree.refl _).bind fun r hr => ?_
      have hkey := length_of_parts hr
      unfold fieldAfter
      split
      · rename_i after hcolon
        have hafter := length_after_gaps hcolon
        refine (agree_readValue room room' (skipGaps after)).bind fun v hv => ?_
        have hvalue := length_of_parts hv
        exact agree_restAfter _ fun t ht => agree_readFields room room' t
      · exact .refl _
    · rw [readFields_unquoted hquote room room']
      exact .refl _
termination_by 2 * s.length + 1

end

/-- A text that holds a value for one reader holds the same value for any other, or is too deep for
it. -/
theorem parse_of_parse {v : Json} (h : parse room s = .ok v) (room' : Nat) :
    parse room' s = .ok v ∨ ∃ innermost, parse room' s = .error (.tooDeep innermost) := by
  rw [parse_eq] at h
  rw [parse_eq]
  rcases agree_readValue room room' (skipGaps s) with hsame | ⟨e, hstop, -⟩ | ⟨e, hstop, he⟩
  · rw [← hsame]
    exact .inl h
  · rw [hstop] at h
    cases h
  · cases e with
    | tooDeep innermost => exact .inr ⟨innermost, by rw [hstop]; rfl⟩
    | fault | longInteger => exact he.elim

/-- A text that can be read gives the same value to any reader with room for it. -/
theorem parseMarked_of_parseMarked {v : Json} (h : parseMarked room s = .ok v) (room' : Nat) :
    parseMarked room' s = .ok v ∨
      ∃ innermost, parseMarked room' s = .error (.tooDeep innermost) := by
  unfold parseMarked at h ⊢
  split at h
  · cases h
  · rename_i hmark
    rw [if_neg hmark]
    exact parse_of_parse h room'

/-- And so do bytes, which are decoded before there is a question of room. -/
theorem ofBytes_of_ofBytes {v : Json} {bytes : List UInt8} (h : ofBytes room bytes = .ok v)
    (room' : Nat) :
    ofBytes room' bytes = .ok v ∨
      ∃ innermost, ofBytes room' bytes = .error (.text (.tooDeep innermost)) := by
  unfold ofBytes at h
  split at h
  · cases h
  · rename_i t hdecode
    split at h
    · cases h
    · rename_i v' hparse
      cases h
      rcases parse_of_parse hparse room' with hsame | ⟨innermost, hstop⟩
      · exact .inl (by simp only [ofBytes, hdecode, hsame])
      · exact .inr ⟨innermost, by simp only [ofBytes, hdecode, hstop]⟩

end Easel.Json
