/-! Doubles as exact numbers: an integer times a power of two, and comparison with powers of ten. -/
namespace Easel

/-- The exact value `mantissa * 2 ^ exponent` of a finite double without its sign; `atPower` holds
when the next smaller double is only half as far away as the next larger one. -/
structure Binary where
  mantissa : Nat
  exponent : Int
  atPower : Bool

/-- What a double stands for. -/
inductive FloatView where
  | nan
  | infinity (negative : Bool)
  | finite (negative : Bool) (value : Binary)

/-- Reads the sign, exponent and fraction fields of the 64 bits. Above the smallest exponent the
mantissa has one bit more, which is hidden. -/
def FloatView.ofBits (bits : Nat) : FloatView :=
  let hidden := 0x10000000000000
  let negative := bits / 0x8000000000000000 % 2 == 1
  let field := bits / hidden % 0x800
  let fraction := bits % hidden
  if field = 2047 then if fraction = 0 then .infinity negative else .nan
  else if field = 0 then .finite negative ⟨fraction, -1074, false⟩
  else .finite negative ⟨hidden + fraction, Int.ofNat field - 1075, fraction == 0 && field != 1⟩

def floatView (x : Float) : FloatView := .ofBits x.toBits.toNat

/-- A nonnegative rational number. -/
structure Ratio where
  num : Nat
  den : Nat

namespace Ratio

/-- The number times `base ^ power`. -/
def scale (r : Ratio) (base : Nat) (power : Int) : Ratio :=
  match power with
  | .ofNat n => ⟨r.num * Nat.pow base n, r.den⟩
  | .negSucc n => ⟨r.num, r.den * Nat.pow base (n + 1)⟩

def floor (r : Ratio) : Nat := r.num / r.den

/-- The nearest integer; a half goes to the even neighbour. -/
def round (r : Ratio) : Nat :=
  let q := r.num / r.den
  let twice := 2 * (r.num % r.den)
  if twice < r.den then q
  else if r.den < twice then q + 1
  else if q % 2 = 0 then q else q + 1

/-- The power of ten of the leading digit of a positive number, guessed from its size in bits and
then corrected by one step either way. -/
def leadingPower (r : Ratio) : Int :=
  let bits : Int := Int.ofNat r.num.log2 - Int.ofNat r.den.log2
  let guess := (bits * 30103).fdiv 100000
  if 0 < (r.scale 10 (-(guess + 1))).floor then guess + 1
  else if 0 < (r.scale 10 (-guess)).floor then guess
  else guess - 1

end Ratio

def Binary.ratio (b : Binary) : Ratio := Ratio.scale ⟨b.mantissa, 1⟩ 2 b.exponent

end Easel
