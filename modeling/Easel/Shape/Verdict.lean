import Easel.Shape.Basic

/-! Verdicts on the fields of a descriptor: all problems are kept, in the order of the fields. -/
namespace Easel

/-- What can be wrong with the value of a field. -/
inductive FieldFault where
  | notNumber
  | unreadableNumber
  | notInteger
  | fractionalInteger
  | unreadableInteger
  | oversizedInteger
  | notFinite
  | notString
  | loneSurrogate
  | notAmong (names : List String)
  | belowZero
  | aboveHundred
  | notList
  | tooFewItems (count : Nat)
  | notPair
  | missingItem
  | tooManyItems (count : Nat)
  deriving DecidableEq

/-- A fault and the way to it: a key, then places in lists. -/
structure Problem where
  path : List String
  fault : FieldFault
  deriving DecidableEq

def Problem.under (step : String) (p : Problem) : Problem := { p with path := step :: p.path }

inductive Verdict (α : Type) where
  | accepted (a : α)
  | rejected (problems : List Problem)

namespace Verdict

variable {α β : Type}

def fail (fault : FieldFault) : Verdict α := .rejected [⟨[], fault⟩]

def map (f : α → β) : Verdict α → Verdict β
  | accepted a => accepted (f a)
  | rejected ps => rejected ps

/-- Applies what the first accepts to what the second accepts, or joins their problems. -/
def ap : Verdict (α → β) → Verdict α → Verdict β
  | accepted f, v => v.map f
  | rejected ps, accepted _ => rejected ps
  | rejected ps, rejected qs => rejected (ps ++ qs)

/-- A further demand on an accepted value. -/
def andThen (v : Verdict α) (f : α → Verdict β) : Verdict β :=
  match v with
  | accepted a => f a
  | rejected ps => rejected ps

/-- Says where the problems were found. -/
def under (step : String) : Verdict α → Verdict α
  | accepted a => accepted a
  | rejected ps => rejected (ps.map (.under step))

/-- Accepts a list if each item is accepted. -/
def all : List (Verdict α) → Verdict (List α)
  | [] => accepted []
  | v :: vs => ap (v.map List.cons) (all vs)

def problems : Verdict α → List Problem
  | accepted _ => []
  | rejected ps => ps

instance : Functor Verdict := ⟨map, fun a v => map (fun _ => a) v⟩

instance : Seq Verdict := ⟨fun f v => ap f (v ())⟩

@[simp] theorem map_eq (f : α → β) (v : Verdict α) : f <$> v = v.map f := rfl

@[simp] theorem seq_eq (f : Verdict (α → β)) (v : Verdict α) : f <*> v = f.ap v := rfl

theorem problems_ap (f : Verdict (α → β)) (v : Verdict α) :
    (f.ap v).problems = f.problems ++ v.problems := by
  cases f <;> cases v <;> simp [ap, map, problems]

theorem problems_map (f : α → β) (v : Verdict α) : (v.map f).problems = v.problems := by
  cases v <;> rfl

end Verdict

def FieldFault.message : FieldFault → String
  | notNumber => "Input should be a valid number"
  | unreadableNumber => "Input should be a valid number, unable to parse string as a number"
  | notInteger => "Input should be a valid integer"
  | fractionalInteger => "Input should be a valid integer, got a number with a fractional part"
  | unreadableInteger => "Input should be a valid integer, unable to parse string as an integer"
  | oversizedInteger => "Unable to parse input string as an integer, exceeded maximum size"
  | notFinite => "Input should be a finite number"
  | notString => "Input should be a valid string"
  | loneSurrogate => "Input should be a valid string, unable to parse raw data as a unicode string"
  | notAmong names => "Input should be " ++ alternatives (names.map fun n => "'" ++ n ++ "'")
  | belowZero => "Input should be greater than or equal to 0"
  | aboveHundred => "Input should be less than or equal to 100"
  | notList => "Input should be a valid list"
  | tooFewItems count => s!"List should have at least 2 items after validation, not {count}"
  | notPair => "Input should be a valid tuple"
  | missingItem => "Field required"
  | tooManyItems count => s!"Tuple should have at most 2 items after validation, not {count}"
where
  /-- Commas between all but the last two. -/
  alternatives : List String → String
    | [] => ""
    | [a] => a
    | [a, b] => a ++ " or " ++ b
    | a :: b :: c :: rest => a ++ ", " ++ alternatives (b :: c :: rest)

def Problem.message (p : Problem) : String :=
  String.intercalate "." p.path ++ ": " ++ p.fault.message

end Easel
