import Easel.Text.Basic

/-! Supplies of new ids. -/
namespace Easel

/-- A sequence of ids, of which the first `issued` are taken. -/
structure IdSupply where
  name : Nat → Text
  issued : Nat

namespace IdSupply

/-- Numbered ids, counted from 1. -/
def numbered : IdSupply := ⟨fun n => .ofString s!"gen-{n + 1}", 0⟩

def next (ids : IdSupply) : Text := ids.name ids.issued

def advance (ids : IdSupply) : IdSupply := { ids with issued := ids.issued + 1 }

/-- The given id, or a new one where there is none or only an empty one. -/
def choose (ids : IdSupply) : Option Text → Text × IdSupply
  | none => (ids.next, ids.advance)
  | some id => if id.isEmpty then (ids.next, ids.advance) else (id, ids)

end IdSupply

end Easel
