import Easel.Decimal.Binary

/-! The shortest decimal that reads back as a given double, and the nearest of the shortest. -/
namespace Easel

/-- The number `digits * 10 ^ power`. -/
structure Decimal where
  digits : Nat
  power : Int

namespace Binary

/-- A number in quarters of the last binary place, that is, of `2 ^ (exponent - 2)`. -/
def inQuarters (b : Binary) (d : Decimal) : Ratio :=
  Ratio.scale (Ratio.scale ⟨d.digits, 1⟩ 10 d.power) 2 (2 - b.exponent)

/-- Whether a decimal reads back as the double: it lies between the midpoints to the two
neighbours, and on a midpoint only if the mantissa is even. -/
def accepts (b : Binary) (d : Decimal) : Bool :=
  let x := b.inQuarters d
  let low := (4 * b.mantissa - if b.atPower then 1 else 2) * x.den
  let high := (4 * b.mantissa + 2) * x.den
  if b.mantissa % 2 = 0 then low ≤ x.num && x.num ≤ high else low < x.num && x.num < high

/-- Of the two multiples of `10 ^ power` around the double, the nearer one that reads back; the
even one if both are as near. -/
def onGrid? (b : Binary) (power : Int) : Option Decimal :=
  let exact := b.ratio.scale 10 (-power)
  let below : Decimal := ⟨exact.floor, power⟩
  let above : Decimal := ⟨exact.floor + 1, power⟩
  let nearest : Decimal := ⟨exact.round, power⟩
  if b.accepts nearest then some nearest
  else if b.accepts below then some below
  else if b.accepts above then some above
  else none

/-- Tries the grids from coarse to fine; seventeen digits always read back. -/
def shortest (b : Binary) : Decimal :=
  if b.mantissa = 0 then ⟨0, 0⟩
  else
    let top := b.ratio.leadingPower + 1
    ((List.range 18).findSome? fun i => b.onGrid? (top - Int.ofNat i)).getD ⟨b.mantissa, 0⟩

end Binary

end Easel
