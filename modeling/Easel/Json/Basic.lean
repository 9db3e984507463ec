import Easel.Text.Basic

/-! JSON values. Integers are exact and apart from doubles; objects keep the order of their keys. -/
namespace Easel

inductive Json where
  | null
  | bool (b : Bool)
  | int (n : Int)
  | float (x : Float)
  | string (t : Text)
  | array (items : List Json)
  | object (fields : List (Text × Json))

abbrev Fields := List (Text × Json)

namespace Fields

/-- The value under a key. -/
def get? (fields : Fields) (key : String) : Option Json :=
  (fields.find? fun f => f.1 = Text.ofString key).map (·.2)

/-- Sets a key: in its old place if it is there, else at the end. -/
def put (fields : Fields) (key : Text) (value : Json) : Fields :=
  match fields with
  | [] => [(key, value)]
  | f :: rest => if f.1 = key then (key, value) :: rest else f :: put rest key value

/-- Keys that are written twice keep their first place and their last value. -/
def ofPairs (pairs : List (Text × Json)) : Fields :=
  pairs.foldl (fun fields p => put fields p.1 p.2) []

theorem put_of_not_mem {fields : Fields} {key : Text} {value : Json}
    (h : key ∉ fields.map (·.1)) : fields.put key value = fields ++ [(key, value)] := by
  induction fields with
  | nil => rfl
  | cons f rest ih =>
    simp only [List.map_cons, List.mem_cons, not_or] at h
    simp [put, Ne.symm h.1, ih h.2]

end Fields

namespace Json

def ofString (s : String) : Json := .string (Text.ofString s)

/-- An object with the given keys, in this order. -/
def record (fields : List (String × Json)) : Json :=
  .object (fields.map fun f => (Text.ofString f.1, f.2))

/-- An optional string, absence being null. -/
def ofText? : Option Text → Json
  | none => null
  | some t => .string t

def get? : Json → String → Option Json
  | .object fields, key => Fields.get? fields key
  | _, _ => none

/-- Null, false, zeros, and empty strings, arrays and objects are falsy. -/
def isTruthy : Json → Bool
  | null => false
  | bool b => b
  | int n => n != 0
  | float x => x != 0.0
  | string t => !t.isEmpty
  | array items => !items.isEmpty
  | object fields => !fields.isEmpty

end Json

end Easel
