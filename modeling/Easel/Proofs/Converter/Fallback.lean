import Easel.Converter.Npx
import Easel.Diagram
import Easel.Proofs.Gateway.SceneIds

/-! Whatever becomes of a converter, a diagram is compiled: from the list that the converter gives,
or else as a flowchart. -/
namespace Easel

namespace Fields

variable {fields : Fields} {key : Text} {value : Json}

theorem get?_put_self (fields : Fields) (key : String) (value : Json) :
    (fields.put (Text.ofString key) value).get? key = some value := by
  induction fields with
  | nil => simp [put, get?]
  | cons f rest ih =>
    rw [put]
    by_cases hf : f.1 = Text.ofString key
    · rw [if_pos hf]
      simp [get?]
    · rw [if_neg hf]
      simpa [get?, hf] using ih

/-- The fields under other keys. -/
def except (fields : Fields) (key : String) : Fields :=
  fields.filter fun f => f.1 ≠ Text.ofString key

/-- A field that is put changes no other one. -/
theorem except_put (fields : Fields) (key : String) (value : Json) :
    (fields.put (Text.ofString key) value).except key = fields.except key := by
  induction fields with
  | nil => simp [put, except]
  | cons f rest ih =>
    rw [put]
    by_cases hf : f.1 = Text.ofString key
    · rw [if_pos hf]
      simp [except, hf]
    · rw [if_neg hf]
      simpa [except, hf] using ih

/-- An object has an id of its own if it has one that is not empty, null or the like. -/
def isNamed (fields : Fields) : Bool := (fields.get? "id").any Json.isTruthy

/-- An element that has an id keeps it. -/
theorem ensureId_of_isNamed {ids : IdSupply} (h : fields.isNamed = true) :
    ensureId fields ids = (fields, ids) := if_pos h

theorem ensureId_of_not_isNamed {ids : IdSupply} (h : fields.isNamed = false) :
    ensureId fields ids =
      (fields.put (Text.ofString "id") (.string ids.next), ids.advance) :=
  if_neg (Bool.eq_false_iff.mp h)

end Fields

/-- The fields of a value, if it is an object. -/
def Json.fields? : Json → Option Fields
  | .object fields => some fields
  | _ => none

/-- The objects in a list. -/
def objectsIn (items : List Json) : List Fields := items.filterMap Json.fields?

/-- How many objects have no id of their own. -/
def unnamedCount (objects : List Fields) : Nat := objects.countP fun fields => !fields.isNamed

/-- What the objects of a list become, in their order. One that has an id of its own is kept; to
another one the next id is issued, and all else in it is kept. -/
structure Mended (objects : List Fields) (ids : IdSupply) (out : List Json) (rest : IdSupply) :
    Prop where
  length : out.length = objects.length
  kept : ∀ (i : Nat) (fields : Fields), objects[i]? = some fields → fields.isNamed = true →
    out[i]? = some (Json.object fields)
  issued : ∀ (i : Nat) (fields : Fields), objects[i]? = some fields → fields.isNamed = false →
    ∃ fields' : Fields, out[i]? = some (Json.object fields') ∧
      fields'.get? "id" =
        some (.string (ids.name (ids.issued + unnamedCount (objects.take i)))) ∧
      fields'.except "id" = fields.except "id"
  supply : rest = ids.skip (unnamedCount objects)

namespace Mended

variable {objects : List Fields} {fields : Fields} {ids rest : IdSupply} {out : List Json}

theorem nil (ids : IdSupply) : Mended [] ids [] ids where
  length := rfl
  kept i fields h := by cases h
  issued i fields h := by cases h
  supply := rfl

theorem cons_named (hnamed : fields.isNamed = true) (h : Mended objects ids out rest) :
    Mended (fields :: objects) ids (.object fields :: out) rest := by
  have hcount : ∀ xs, unnamedCount (fields :: xs) = unnamedCount xs := by
    intro xs
    simp [unnamedCount, hnamed]
  refine ⟨congrArg (· + 1) h.length, fun i f hf hn => ?_, fun i f hf hn => ?_, ?_⟩
  · cases i with
    | zero =>
      obtain rfl := Option.some.inj hf
      rfl
    | succ i => exact h.kept i f hf hn
  · cases i with
    | zero =>
      obtain rfl := Option.some.inj hf
      rw [hnamed] at hn
      cases hn
    | succ i =>
      rw [List.take_succ_cons, hcount]
      exact h.issued i f hf hn
  · rw [hcount]
    exact h.supply

/-- One that has none takes the next of the supply. -/
theorem cons_unnamed (hunnamed : fields.isNamed = false)
    (h : Mended objects ids.advance out rest) :
    Mended (fields :: objects) ids
      (.object (fields.put (Text.ofString "id") (.string ids.next)) :: out) rest := by
  have hcount : ∀ xs, unnamedCount (fields :: xs) = unnamedCount xs + 1 := by
    intro xs
    simp [unnamedCount, hunnamed]
  refine ⟨congrArg (· + 1) h.length, fun i f hf hn => ?_, fun i f hf hn => ?_, ?_⟩
  · cases i with
    | zero =>
      obtain rfl := Option.some.inj hf
      rw [hunnamed] at hn
      cases hn
    | succ i => exact h.kept i f hf hn
  · cases i with
    | zero =>
      obtain rfl := Option.some.inj hf
      exact ⟨_, rfl, fields.get?_put_self "id" _, fields.except_put "id" _⟩
    | succ i =>
      obtain ⟨fields', hout, hid, hrest⟩ := h.issued i f hf hn
      refine ⟨fields', hout, ?_, hrest⟩
      rw [hid, List.take_succ_cons, hcount]
      simp only [IdSupply.advance, Nat.add_assoc, Nat.add_comm 1]
  · rw [hcount, h.supply, IdSupply.advance_eq_skip, IdSupply.skip_skip, Nat.add_comm]

end Mended

theorem ensureIds_object (fields : Fields) (items : List Json) (ids : IdSupply) :
    ensureIds (.object fields :: items) ids =
      (.object (ensureId fields ids).1 :: (ensureIds items (ensureId fields ids).2).1,
        (ensureIds items (ensureId fields ids).2).2) := rfl

/-- By induction on the items, of which those that are no objects are left out. -/
theorem mended_ensureIds (items : List Json) (ids : IdSupply) :
    Mended (objectsIn items) ids (ensureIds items ids).1 (ensureIds items ids).2 := by
  induction items generalizing ids with
  | nil => exact .nil ids
  | cons v items ih =>
    cases v with
    | object fields =>
      rw [ensureIds_object]
      cases hnamed : Fields.isNamed fields with
      | true =>
        rw [Fields.ensureId_of_isNamed hnamed]
        exact (ih ids).cons_named hnamed
      | false =>
        rw [Fields.ensureId_of_not_isNamed hnamed]
        exact (ih ids.advance).cons_unnamed hnamed
    | null | bool | int | float | string | array => exact ih ids

/-- A run leaves a list of elements: it has ended in time and well, and its output is the JSON text
of an object with that list; `room` tells how far the reader goes down. -/
inductive Run.Delivers (room : Nat) : Run → List Json → Prop where
  | intro {errors output : List UInt8} {text : Text} {fields : Fields} {items : List Json}
      (nonempty : output ≠ []) (utf8 : Utf8.decode output = .ok text)
      (json : Json.parseMarked room (unifyLineEnds text) = .ok (.object fields))
      (elements : fields.get? "elements" = some (.array items)) :
      Delivers room (.ends 0 errors (some output)) items

/-- An output is accepted if it is an object in UTF-8 with a list of elements. -/
theorem readOutput_eq_ok_iff {room : Nat} {output : List UInt8} {items : List Json} :
    readOutput room output = .ok items ↔
      ∃ text fields, Utf8.decode output = .ok text ∧
        Json.parseMarked room (unifyLineEnds text) = .ok (.object fields) ∧
        Fields.get? fields "elements" = some (.array items) := by
  constructor
  · intro h
    unfold readOutput at h
    split at h
    · cases h
    · rename_i text hdecode
      split at h
      · cases h
      · rename_i v hparse
        split at h
        · rename_i found helements
          cases h
          cases v with
          | object fields => exact ⟨text, fields, hdecode, hparse, helements⟩
          | null | bool | int | float | string | array => cases helements
        · cases h
  · rintro ⟨text, fields, hdecode, hparse, helements⟩
    have hget : (Json.object fields).get? "elements" = some (.array items) := helements
    simp only [readOutput, hdecode, hparse, hget]

namespace Npx

variable {c : Npx} {run : Run} {items : List Json}

theorem elementsOf_eq_ok_iff : c.elementsOf run = .ok items ↔ run.Delivers c.room items := by
  constructor
  · intro h
    cases run with
    | notStarted => cases h
    | hangs => cases h
    | ends code errors output =>
      by_cases hcode : code = 0
      · subst hcode
        match output with
        | none => cases h
        | some [] => cases h
        | some (b :: bs) =>
          obtain ⟨text, fields, hdecode, hparse, helements⟩ := readOutput_eq_ok_iff.mp h
          exact .intro (List.cons_ne_nil b bs) hdecode hparse helements
      · simp [elementsOf, hcode] at h
  · rintro ⟨hne, hdecode, hparse, helements⟩
    rename_i output text fields
    have hread := readOutput_eq_ok_iff.mpr ⟨text, fields, hdecode, hparse, helements⟩
    cases output with
    | nil => exact (hne rfl).elim
    | cons b bs => exact hread

theorem converter_eq_ok_iff (definition : String) :
    c.converter run (Text.ofString definition) = .ok (.array items) ↔
      run.Delivers c.room items := by
  have hresult : c.converter run (Text.ofString definition) = (c.elementsOf run).map .array := by
    simp [converter, convert, Text.toString?_ofString]
  rw [hresult, ← elementsOf_eq_ok_iff (c := c)]
  cases c.elementsOf run with
  | error e => simp [Except.map]
  | ok found => simp [Except.map]

end Npx

namespace Diagram

variable {converter : Option Converter} {definition : Text} {ids rest : IdSupply}
  {items out : List Json} {es : List Element}

/-- What a text is compiled to: the list that its converter gives, where every element has an id,
or else the elements of its flowchart. -/
inductive Compiled (converter : Option Converter) (definition : Text) (ids : IdSupply)
    (stamps : Stamps) : List Json × IdSupply → Prop where
  | converted {items out : List Json} {rest : IdSupply}
      (list : attempt converter definition = some (.ok (.array items)))
      (mended : Mended (objectsIn items) ids out rest) :
      Compiled converter definition ids stamps (out, rest)
  | drawn {es : List Element} {rest : IdSupply}
      (unlisted : ∀ items, attempt converter definition ≠ some (.ok (.array items)))
      (chart : Flowchart.compile definition ids = .ok (es, rest)) :
      Compiled converter definition ids stamps (stamps.write es, rest)

/-- Only a list is taken from a converter. -/
theorem converted?_eq_some :
    converted? converter definition = some items ↔
      attempt converter definition = some (.ok (.array items)) := by
  unfold converted?
  split
  · rename_i found hattempt
    rw [hattempt]
    simp
  · rename_i hnone
    refine iff_of_false (by simp) (hnone items)

/-- Whatever the converter does, the elements are its own or those of the chart. -/
theorem compiled (converter : Option Converter) (definition : Text) (ids : IdSupply)
    (stamps : Stamps) : ∃ r, compile converter definition ids stamps = .ok r ∧
      Compiled converter definition ids stamps r := by
  unfold compile
  cases hlist : converted? converter definition with
  | some items =>
    exact ⟨_, rfl, .converted (converted?_eq_some.mp hlist) (mended_ensureIds items ids)⟩
  | none =>
    obtain ⟨es, k, hchart, -⟩ := Flowchart.ids_compile definition ids
    refine ⟨(stamps.write es, ids.skip k), ?_, .drawn (fun items hitems => ?_) hchart⟩
    · rw [hchart]
      rfl
    · rw [converted?_eq_some.mpr hitems] at hlist
      cases hlist

/-- Whatever the converter does, the text is compiled, and only a list from the converter takes the
place of the flowchart. A converter that runs a process gives a list exactly if the process ends in
time and well, with a list of elements as its output. -/
theorem compile_despite_converter (converter : Option Converter) (definition : String)
    (ids : IdSupply) (stamps : Stamps) :
    (∃ r, compile converter (.ofString definition) ids stamps = .ok r ∧
      Compiled converter (.ofString definition) ids stamps r) ∧
    ∀ (c : Npx) (run : Run) (items : List Json),
      attempt (some (c.converter run)) (.ofString definition) = some (.ok (.array items)) ↔
        run.Delivers c.room items := by
  refine ⟨compiled converter (.ofString definition) ids stamps, fun c run items => ?_⟩
  rw [← Npx.converter_eq_ok_iff (c := c) definition]
  exact Option.some_inj

end Diagram

end Easel
