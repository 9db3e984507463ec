import Easel.Decimal.Shortest

/-! How a decimal number is written: where positional notation ends and how exponents look. -/
namespace Easel

/-- The decisions of one number format. -/
structure NumberFormat where
  /-- the least power of ten of a leading digit that is written positionally -/
  leastPositional : Int
  /-- the power of ten of a leading digit from which on an exponent is written -/
  firstExponential : Int
  /-- whether an integral number in positional notation ends in `.0` -/
  pointZero : Bool
  nan : String
  infinity : String

/-- Digits of a natural number, the highest first. -/
def digitsOf (n : Nat) : List Char := Nat.toDigits 10 n

/-- Drops the zeros at the end, and keeps at least one digit. -/
def dropTrailingZeros (ds : List Char) : List Char :=
  match (ds.reverse.dropWhile (· == '0')).reverse with
  | [] => ['0']
  | kept => kept

namespace NumberFormat

/-- An exponent has its sign and at least two digits. -/
def exponentPart (e : Int) : List Char :=
  let ds := digitsOf e.natAbs
  'e' :: (if e < 0 then '-' else '+') :: (if ds.length < 2 then '0' :: ds else ds)

/-- Writes the significant digits `ds`, the first of which stands for `10 ^ lead`. -/
def place (f : NumberFormat) (ds : List Char) (lead : Int) : List Char :=
  if lead < f.leastPositional ∨ f.firstExponential ≤ lead then
    match ds with
    | [] => []
    | [d] => d :: exponentPart lead
    | d :: more => d :: '.' :: more ++ exponentPart lead
  else if lead < 0 then
    '0' :: '.' :: List.replicate (lead.natAbs - 1) '0' ++ ds
  else
    let whole := lead.toNat + 1
    if ds.length ≤ whole then
      ds ++ List.replicate (whole - ds.length) '0' ++ (if f.pointZero then ['.', '0'] else [])
    else ds.take whole ++ '.' :: ds.drop whole

def decimal (f : NumberFormat) (d : Decimal) : List Char :=
  if d.digits = 0 then f.place ['0'] 0
  else
    let ds := digitsOf d.digits
    f.place (dropTrailingZeros ds) (d.power + Int.ofNat ds.length - 1)

/-- Writes a double after choosing its decimal; infinities and zeros keep their sign. -/
def render (f : NumberFormat) (choose : Binary → Decimal) (x : Float) : List Char :=
  match floatView x with
  | .nan => f.nan.toList
  | .infinity negative => (if negative then ['-'] else []) ++ f.infinity.toList
  | .finite negative value => (if negative then ['-'] else []) ++ f.decimal (choose value)

end NumberFormat

/-- A double rounded to six significant digits. -/
def Binary.sixDigits (b : Binary) : Decimal :=
  if b.mantissa = 0 then ⟨0, 0⟩
  else
    let power := b.ratio.leadingPower - 5
    ⟨(b.ratio.scale 10 (-power)).round, power⟩

/-- Durations are shown to six significant digits, without a point where none is needed. -/
def durationFormat : NumberFormat := ⟨-4, 6, false, "nan", "inf"⟩

def renderDuration (seconds : Float) : String :=
  String.ofList (durationFormat.render Binary.sixDigits seconds)

end Easel
