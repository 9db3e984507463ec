import Easel.Text.Blank
import Easel.Decimal.Layout

/-! Decimal numerals: digits with an optional sign, fraction and exponent, and their values. -/
namespace Easel

/-- A numeral's digits, as numbers below ten, and its exponent. -/
structure Numeral where
  negative : Bool
  whole : List Nat
  fraction : List Nat
  exponent : Int

def natOfDigits (ds : List Nat) : Nat := ds.foldl (fun n d => 10 * n + d) 0

/-- The double nearest to `n * 10 ^ power`, where `n` has `size` digits. Past both ends of the
range the answer is known without the power. -/
def nearestFloat (n size : Nat) (power : Int) : Float :=
  if n = 0 ∨ Int.ofNat size + power ≤ -330 then 0.0
  else if 310 < Int.ofNat size + power then 1.0 / 0.0
  else Float.ofScientific n (power < 0) power.natAbs

namespace Numeral

def toFloat (n : Numeral) : Float :=
  let ds := (n.whole ++ n.fraction).dropWhile (· == 0)
  let x := nearestFloat (natOfDigits ds) ds.length (n.exponent - Int.ofNat n.fraction.length)
  if n.negative then -x else x

end Numeral

/-- Doubles of integers; none for an integer that rounds past the largest double. -/
def floatOfInt? (n : Int) : Option Float :=
  if Nat.pow 2 1024 - Nat.pow 2 970 ≤ n.natAbs then none
  else
    let x := Float.ofNat n.natAbs
    some (if n < 0 then -x else x)

namespace Text

/-- Splits off the ASCII digits in front. -/
def spanDigits : Text → List Nat × Text
  | [] => ([], [])
  | c :: rest =>
    match c.digit? with
    | some d => (d :: (spanDigits rest).1, (spanDigits rest).2)
    | none => ([], c :: rest)

theorem length_spanDigits (t : Text) :
    (spanDigits t).1.length + (spanDigits t).2.length = t.length := by
  fun_induction spanDigits t <;> simp_all
  omega

/-- Splits off a sign. -/
def spanSign : Text → Bool × Text
  | .scalar '-' :: rest => (true, rest)
  | .scalar '+' :: rest => (false, rest)
  | t => (false, t)

/-- An exponent, if the text begins with one; without digits it is none. -/
def spanExponent? (t : Text) : Option (Int × Text) :=
  match t with
  | .scalar 'e' :: rest | .scalar 'E' :: rest =>
    let (negative, digits) := spanSign rest
    match spanDigits digits with
    | ([], _) => none
    | (ds, after) =>
      some (if negative then -Int.ofNat (natOfDigits ds) else Int.ofNat (natOfDigits ds), after)
  | _ => none

/-- An unsigned decimal float that takes up the whole text: digits on either side of the point,
and a complete exponent if any. -/
def unsignedDecimal? (t : Text) (negative : Bool) : Option Numeral :=
  let (whole, afterWhole) := spanDigits t
  let (fraction, afterFraction) := match afterWhole with
    | .scalar '.' :: rest => spanDigits rest
    | _ => ([], afterWhole)
  if whole.isEmpty && fraction.isEmpty then none
  else match afterFraction with
    | [] => some ⟨negative, whole, fraction, 0⟩
    | rest => match spanExponent? rest with
      | some (e, []) => some ⟨negative, whole, fraction, e⟩
      | _ => none

/-- Compares with a lower-case ASCII word, the letters in either case. -/
def isWordAnyCase (word : String) (t : Text) : Bool :=
  t.map (fun c => match c with
    | .scalar c => CodePoint.scalar c.toLower
    | c => c) == ofString word

/-- The double named by a text: an infinity, not-a-number, or a decimal float. -/
def float? (t : Text) : Option Float :=
  let (negative, body) := spanSign t
  if isWordAnyCase "inf" body || isWordAnyCase "infinity" body then
    some (if negative then -(1.0 / 0.0) else 1.0 / 0.0)
  else if isWordAnyCase "nan" body then some (0.0 / 0.0)
  else (unsignedDecimal? body negative).map Numeral.toFloat

/-- A number between white space. -/
def trimNumber (t : Text) : Text := trimBy (CodePoint.satisfies isWhiteSpace) t

end Text

/-- The most digits an integer numeral may have. -/
def maxIntegerDigits : Nat := 4300

def longIntegerMessage (digits : Nat) : String :=
  s!"Exceeds the limit (4300 digits) for integer string conversion: value has {digits} digits; " ++
    "use sys.set_int_max_str_digits() to increase the limit"

end Easel
