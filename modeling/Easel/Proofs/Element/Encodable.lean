import Easel.Element.Basic
import Easel.Gateway.Http

/-! Which values and which elements have an encoding, so that a response can hold them. -/
namespace Easel

/-- Strings are made of characters, and halves of pairs are none. -/
theorem Text.isEncodable_ofString (s : String) : (Text.ofString s).isEncodable = true := by
  rw [isEncodable, List.all_eq_true]
  intro c hc
  obtain ⟨c, -, rfl⟩ := List.mem_map.mp hc
  rfl

namespace Json

@[simp] theorem isEncodable_null : null.isEncodable = true := rfl

@[simp] theorem isEncodable_bool (b : Bool) : (bool b).isEncodable = true := rfl

@[simp] theorem isEncodable_int (n : Int) : (int n).isEncodable = true := rfl

@[simp] theorem isEncodable_float (x : Float) : (float x).isEncodable = x.isFinite := rfl

@[simp] theorem isEncodable_string (t : Text) : (string t).isEncodable = t.isEncodable := rfl

@[simp] theorem isEncodable_ofString (s : String) : (ofString s).isEncodable = true :=
  Text.isEncodable_ofString s

/-- A value has an encoding if all its parts have one. -/
@[simp] theorem isEncodable_array (items : List Json) :
    (array items).isEncodable = items.all isEncodable := by
  rw [isEncodable]
  induction items with
  | nil => rfl
  | cons v rest ih => rw [areEncodable, ih, List.all_cons]

@[simp] theorem isEncodable_object (fields : Fields) :
    (object fields).isEncodable = fields.all fun f => f.1.isEncodable && f.2.isEncodable := by
  rw [isEncodable]
  induction fields with
  | nil => rfl
  | cons f rest ih => rw [areFieldsEncodable, ih, List.all_cons]

@[simp] theorem isEncodable_record (fields : List (String × Json)) :
    (record fields).isEncodable = fields.all fun f => f.2.isEncodable := by
  simp only [record, isEncodable_object, List.all_map, Function.comp_def,
    Text.isEncodable_ofString, Bool.true_and]

end Json

def Path.numbers (p : Path) : List Float := p.toList.flatMap fun q => [q.x, q.y]

def Body.numbers : Body → List Float
  | .container _ => []
  | .text body => [body.fontSize]
  | .arrow points _ | .line points => points.numbers

def Ends.texts (e : Ends) : List Text :=
  e.startBinding.toList ++ e.endBinding.toList ++ e.startArrowhead.toList ++ e.endArrowhead.toList

def Body.texts : Body → List Text
  | .container _ | .line _ => []
  | .text body => body.text :: body.containerId.toList
  | .arrow _ ends => ends.texts

/-- All numbers in an element that are not the same in every element. -/
def Element.numbers (e : Element) : List Float :=
  [e.frame.x, e.frame.y, e.frame.width, e.frame.height, e.style.strokeWidth, e.style.roughness,
    e.style.opacity] ++ e.body.numbers

@[inherit_doc Element.numbers]
def Element.texts (e : Element) : List Text :=
  [e.id, e.style.strokeColor, e.style.backgroundColor] ++ e.groups ++ e.dependents.map (·.id) ++
    e.body.texts

@[simp] theorem isEncodable_ofText? (t : Option Text) :
    (Json.ofText? t).isEncodable = t.toList.all Text.isEncodable := by
  cases t <;> simp [Json.ofText?]

theorem isEncodable_attachment (t : Option Text) :
    (attachment t).isEncodable = t.toList.all Text.isEncodable := by
  cases t <;> simp [attachment]

@[simp] theorem Path.isEncodable_toJson (p : Path) :
    p.toJson.isEncodable = p.numbers.all Float.isFinite := by
  simp [toJson, numbers, Point.toJson, Function.comp_def]

theorem Dependent.isEncodable_toJson (d : Dependent) :
    d.toJson.isEncodable = d.id.isEncodable := by
  simp [toJson]

/-- Of the ends of an arrow, only the ids of its targets are free. -/
theorem Ends.all_isEncodable_fields (e : Ends) :
    (e.fields.all fun f => f.2.isEncodable) = e.texts.all Text.isEncodable := by
  simp [fields, texts, isEncodable_attachment]

theorem Body.isEncodable_roundness (b : Body) : b.roundness.isEncodable = true := by
  unfold roundness
  split
  · simp
  · simp
  · split <;> simp
  · split <;> simp

/-- What kinds of elements have of their own are numbers, texts, and names out of a fixed list. -/
theorem Body.all_isEncodable_fields (b : Body) :
    (b.fields.all fun f => f.2.isEncodable) =
      (b.numbers.all Float.isFinite && b.texts.all Text.isEncodable) := by
  cases b with
  | container kind => rfl
  | text body =>
    have hheight : (1.25 : Float).isFinite = true := by decide +kernel
    simp only [fields, TextBody.fields, numbers, texts, List.all_cons, List.all_nil,
      Json.isEncodable_string, Json.isEncodable_float, Json.isEncodable_int, Json.isEncodable_bool,
      Json.isEncodable_ofString, isEncodable_ofText?, hheight, Bool.and_true, Bool.true_and,
      Bool.and_self_left]
    ac_rfl
  | arrow points ends =>
    simp [fields, Path.fields, Ends.all_isEncodable_fields, numbers, texts]
  | line points =>
    simp [fields, Path.fields, Ends.all_isEncodable_fields, numbers, texts, Ends.texts]

/-- An element has an encoding exactly if its numbers are finite and its texts have one. -/
theorem Element.isEncodable_toJson (e : Element) (stamp : Stamp) :
    (e.toJson stamp).isEncodable =
      (e.numbers.all Float.isFinite && e.texts.all Text.isEncodable) := by
  have hgroups : (Json.array (e.groups.map .string)).isEncodable =
      e.groups.all Text.isEncodable := by
    simp [Function.comp_def]
  have hdependents : (Json.array (e.dependents.map Dependent.toJson)).isEncodable =
      (e.dependents.map (·.id)).all Text.isEncodable := by
    simp [Function.comp_def, Dependent.isEncodable_toJson]
  rw [toJson, Json.isEncodable_record, List.all_append, Body.all_isEncodable_fields]
  simp only [List.all_cons, List.all_nil, Json.isEncodable_string, Json.isEncodable_float,
    Json.isEncodable_int, Json.isEncodable_bool, Json.isEncodable_ofString, Json.isEncodable_null,
    hgroups, hdependents, Body.isEncodable_roundness, numbers, texts, List.all_append,
    Bool.and_true, Bool.true_and]
  ac_rfl

end Easel
