import Easel.Json.Basic

/-! Requests and responses. -/
namespace Easel

abbrev Headers := List (String × String)

/-- Looks a header up; the letters of its name may be of either case. -/
def Headers.value? (headers : Headers) (name : String) : Option String :=
  (headers.find? fun h => h.1.toLower = name).map (·.2)

structure Request where
  method : String
  path : String
  headers : Headers := []
  body : List UInt8 := []
  /-- The time of its arrival. -/
  arrival : String

inductive Content where
  | json (v : Json)
  | text (s : String)

structure Response where
  status : Nat
  content : Content
  headers : Headers := []

/-- Whether a text has an encoding. -/
def Text.isEncodable (t : Text) : Bool := t.all fun c => c.char?.isSome

mutual

/-- Whether a value can be the content of a response: numbers have to be finite, and no lone
surrogate may occur in it. -/
def Json.isEncodable : Json → Bool
  | .null | .bool _ | .int _ => true
  | .float x => x.isFinite
  | .string t => t.isEncodable
  | .array items => areEncodable items
  | .object fields => areFieldsEncodable fields

def Json.areEncodable : List Json → Bool
  | [] => true
  | v :: rest => v.isEncodable && areEncodable rest

def Json.areFieldsEncodable : List (Text × Json) → Bool
  | [] => true
  | (k, v) :: rest => k.isEncodable && v.isEncodable && areFieldsEncodable rest

end

end Easel
