/-! Text as a list of code points. A surrogate that stands alone is a code point of its own. -/
namespace Easel

/-- A code point: a Unicode scalar value, or the lone surrogate `0xd800 + offset`. -/
inductive CodePoint where
  | scalar (c : Char)
  | surrogate (offset : Fin 0x800)
  deriving DecidableEq

instance : Coe Char CodePoint := ⟨.scalar⟩

namespace CodePoint

def value : CodePoint → Nat
  | scalar c => c.toNat
  | surrogate u => 0xd800 + u.val

instance : Hashable CodePoint := ⟨fun c => hash c.value⟩

/-- The code point of a number; numbers past the last plane have none. -/
def ofNat? (n : Nat) : Option CodePoint :=
  if h : n.isValidChar then some (scalar (Char.ofNatAux n h))
  else if n < 0x110000 then some (surrogate (Fin.ofNat 0x800 (n - 0xd800)))
  else none

def char? : CodePoint → Option Char
  | scalar c => some c
  | surrogate _ => none

/-- Lifts a property of characters; a lone surrogate has none of them. -/
def satisfies (p : Char → Bool) : CodePoint → Bool
  | scalar c => p c
  | surrogate _ => false

/-- The number an ASCII digit stands for. -/
def digit? : CodePoint → Option Nat
  | scalar c => if '0' ≤ c ∧ c ≤ '9' then some (c.toNat - '0'.toNat) else none
  | surrogate _ => none

end CodePoint

abbrev Text := List CodePoint

namespace Text

def ofString (s : String) : Text := s.toList.map .scalar

/-- The text as a string of scalar values, if no surrogate stands alone in it. -/
def toString? (t : Text) : Option String := (t.mapM CodePoint.char?).map String.ofList

/-- Joins the parts with the separator between them. -/
def join (separator : Text) : List Text → Text
  | [] => []
  | [t] => t
  | t :: u :: rest => t ++ separator ++ join separator (u :: rest)

theorem toString?_ofString (s : String) : (ofString s).toString? = some s := by
  have h : ∀ cs : List Char, (cs.map CodePoint.scalar).mapM CodePoint.char? = some cs := by
    intro cs
    induction cs with
    | nil => rfl
    | cons c cs ih => simp [List.mapM_cons, CodePoint.char?, ih]
  simp [toString?, ofString, h]

end Text

/-- Inclusive ranges of numbers, in ascending order. -/
abbrev Ranges := List (Nat × Nat)

def Ranges.contains (table : Ranges) (n : Nat) : Bool :=
  table.any fun r => r.1 ≤ n && n ≤ r.2

end Easel
