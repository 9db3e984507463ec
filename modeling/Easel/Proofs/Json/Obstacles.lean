import Mathlib.Data.Nat.Digits.Defs
import Easel.Json.Writer

/-! What stands in the way of writing a value: it goes down too far, or an integer in it has too
many digits. -/
namespace Easel.Json

mutual

/-- How many containers stand inside one another. -/
def nesting : Json → Nat
  | null | bool _ | int _ | float _ | string _ => 0
  | array items => nestingOfItems items + 1
  | object fields => nestingOfFields fields + 1

def nestingOfItems : List Json → Nat
  | [] => 0
  | v :: rest => max v.nesting (nestingOfItems rest)

def nestingOfFields : List (Text × Json) → Nat
  | [] => 0
  | (_, v) :: rest => max v.nesting (nestingOfFields rest)

end

mutual

/-- The number of digits of the longest integer in a value. -/
def digits : Json → Nat
  | int n => (digitsOf n.natAbs).length
  | null | bool _ | float _ | string _ => 0
  | array items => digitsInItems items
  | object fields => digitsInFields fields

def digitsInItems : List Json → Nat
  | [] => 0
  | v :: rest => max v.digits (digitsInItems rest)

def digitsInFields : List (Text × Json) → Nat
  | [] => 0
  | (_, v) :: rest => max v.digits (digitsInFields rest)

end

variable {room n : Nat} {items more : List Json} {fields : Fields}

/-- A list goes down as far as its deepest item. -/
theorem nestingOfItems_le_iff : nestingOfItems items ≤ n ↔ ∀ v ∈ items, v.nesting ≤ n := by
  induction items with
  | nil => simp [nestingOfItems]
  | cons v rest ih => rw [nestingOfItems, Nat.max_le, ih, List.forall_mem_cons]

theorem nestingOfFields_le_iff : nestingOfFields fields ≤ n ↔ ∀ f ∈ fields, f.2.nesting ≤ n := by
  induction fields with
  | nil => simp [nestingOfFields]
  | cons f rest ih => rw [nestingOfFields, Nat.max_le, ih, List.forall_mem_cons]

/-- The longest integer of a list is the longest one of an item. -/
theorem digitsInItems_le_iff : digitsInItems items ≤ n ↔ ∀ v ∈ items, v.digits ≤ n := by
  induction items with
  | nil => simp [digitsInItems]
  | cons v rest ih => rw [digitsInItems, Nat.max_le, ih, List.forall_mem_cons]

theorem digitsInFields_le_iff : digitsInFields fields ≤ n ↔ ∀ f ∈ fields, f.2.digits ≤ n := by
  induction fields with
  | nil => simp [digitsInFields]
  | cons f rest ih => rw [digitsInFields, Nat.max_le, ih, List.forall_mem_cons]

mutual

/-- A value can be written if it goes down no further than there is room, and no integer in it has
more digits than can be written. -/
theorem obstacle?_eq_none_iff (room : Nat) (v : Json) :
    v.obstacle? room = none ↔ v.nesting ≤ room ∧ v.digits ≤ maxIntegerDigits := by
  cases v with
  | null | bool | float | string => simp [obstacle?, nesting, digits]
  | int k => simp [obstacle?, nesting, digits]
  | array items =>
    cases room with
    | zero => simp [obstacle?, nesting]
    | succ room => simpa [obstacle?, nesting, digits] using obstacleInItems?_eq_none_iff room items
  | object fields =>
    cases room with
    | zero => simp [obstacle?, nesting]
    | succ room =>
      simpa [obstacle?, nesting, digits] using obstacleInFields?_eq_none_iff room fields

/-- By the recursion of the writer over values, items and fields: only depth and digits are in its
way. -/
theorem obstacleInItems?_eq_none_iff (room : Nat) (items : List Json) :
    obstacleInItems? room items = none ↔
      nestingOfItems items ≤ room ∧ digitsInItems items ≤ maxIntegerDigits := by
  cases items with
  | nil => simp [obstacleInItems?, nestingOfItems, digitsInItems]
  | cons v rest =>
    rw [obstacleInItems?, Option.or_eq_none_iff, obstacle?_eq_none_iff room v,
      obstacleInItems?_eq_none_iff room rest, nestingOfItems, digitsInItems, Nat.max_le, Nat.max_le,
      and_and_and_comm]

theorem obstacleInFields?_eq_none_iff (room : Nat) (fields : List (Text × Json)) :
    obstacleInFields? room fields = none ↔
      nestingOfFields fields ≤ room ∧ digitsInFields fields ≤ maxIntegerDigits := by
  match fields with
  | [] => simp [obstacleInFields?, nestingOfFields, digitsInFields]
  | (k, v) :: rest =>
    rw [obstacleInFields?, Option.or_eq_none_iff, obstacle?_eq_none_iff room v,
      obstacleInFields?_eq_none_iff room rest, nestingOfFields, digitsInFields, Nat.max_le,
      Nat.max_le, and_and_and_comm]

end

/-- A writer with this room meets no limit in the value. -/
def Fits (room : Nat) (v : Json) : Prop := v.obstacle? room = none

/-- A value can be written if it goes down no further than there is room, and has no integer that is
too long. -/
theorem fits_iff {v : Json} : v.Fits room ↔ v.nesting ≤ room ∧ v.digits ≤ maxIntegerDigits :=
  obstacle?_eq_none_iff room v

/-- More room does not hurt. -/
theorem Fits.mono {v : Json} (hv : v.Fits room) (h : room ≤ n) : v.Fits n := by
  rw [fits_iff] at hv ⊢
  exact ⟨Nat.le_trans hv.1 h, hv.2⟩

/-- An integer that can be written. -/
def IsShort (k : Int) : Prop := (digitsOf k.natAbs).length ≤ maxIntegerDigits

@[simp] theorem fits_null : null.Fits room := rfl

@[simp] theorem fits_bool (b : Bool) : (bool b).Fits room := rfl

@[simp] theorem fits_float (x : Float) : (float x).Fits room := rfl

@[simp] theorem fits_string (t : Text) : (string t).Fits room := rfl

@[simp] theorem fits_ofString (s : String) : (ofString s).Fits room := rfl

@[simp] theorem fits_ofText? (t : Option Text) : (ofText? t).Fits room := by
  cases t <;> rfl

@[simp] theorem fits_int {k : Int} : (int k).Fits room ↔ IsShort k := by
  simp [fits_iff, nesting, digits, IsShort]

/-- An array takes up room for itself, and its items have what is left. -/
@[simp] theorem fits_array : (array items).Fits (room + 1) ↔ ∀ v ∈ items, v.Fits room := by
  simp only [fits_iff, nesting, digits, Nat.add_le_add_iff_right, nestingOfItems_le_iff,
    digitsInItems_le_iff, forall_and]

@[simp] theorem fits_object : (object fields).Fits (room + 1) ↔ ∀ f ∈ fields, f.2.Fits room := by
  simp only [fits_iff, nesting, digits, Nat.add_le_add_iff_right, nestingOfFields_le_iff,
    digitsInFields_le_iff, forall_and]

@[simp] theorem fits_record {fields : List (String × Json)} :
    (record fields).Fits (room + 1) ↔ ∀ f ∈ fields, f.2.Fits room := by
  rw [record, fits_object, List.forall_mem_map]

/-- The limit is far beyond any integer of a machine. -/
theorem isShort_of_lt {k : Nat} (h : k < 10 ^ 20) : IsShort (Int.ofNat k) :=
  Nat.le_trans (Nat.toDigits_length 10 k 20 (by decide) h) (by decide)

end Easel.Json
