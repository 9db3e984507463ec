import Easel.Shape.Verdict
import Easel.Decimal.Numeral

/-! Numbers that a descriptor gives as strings. They are read as they stand, and where that fails
once more without what may be added to them: white space, zeros in front, and underscores that
stand alone between other characters. -/
namespace Easel.Text

/-- Whether no underscore stands at an end or beside another one; `barred` tells whether one would
be out of place right here. -/
def areUnderscoresSingle (barred : Bool) : Text → Bool
  | [] => !barred
  | c :: rest =>
    if c = '_' then !barred && areUnderscoresSingle true rest else areUnderscoresSingle false rest

/-- Removes all underscores, if they are single. -/
def dropUnderscores (t : Text) : Text :=
  if areUnderscoresSingle true t then t.filter (· != CodePoint.scalar '_') else t

/-- A double, between white space or with single underscores, but not both. -/
def describedFloat? (t : Text) : Option Float := t.trimNumber.float?.or t.dropUnderscores.float?

/-- How reading an integer ends. -/
inductive IntegerReading where
  | integer (n : Int)
  | oversized
  | unreadable

/-- An integer in the only form that needs no mending: no plus, and no zero before a digit. What
follows too many digits is not looked at. -/
def plainInteger (t : Text) : IntegerReading :=
  let (negative, body) : Bool × Text := match t with
    | .scalar '-' :: rest => (true, rest)
    | _ => (false, t)
  match spanDigits body with
  | ([], _) | (0 :: _ :: _, _) => .unreadable
  | (ds, rest) =>
    if maxIntegerDigits < ds.length then .oversized
    else if rest.isEmpty then
      let n := Int.ofNat (natOfDigits ds)
      .integer (if negative then -n else n)
    else .unreadable

/-- What stands from `last` on, once all zeros and underscores that follow it are skipped. The
last character before a point or the end stays, and a second sign may follow the zeros. -/
def skipZeros? (last : CodePoint) : Text → Option Text
  | [] => some [last]
  | c :: rest =>
    if c = '0' ∨ c = '_' then skipZeros? c rest
    else if c = '.' then some (last :: c :: rest)
    else if c = '-' ∨ c.digit?.isSome then some (c :: rest)
    else none

/-- Removes the zeros in front; the text has to begin with a digit. -/
def dropLeadingZeros? : Text → Option Text
  | [] => none
  | c :: rest =>
    if c = '0' then skipZeros? c rest else if c.digit?.isSome then some (c :: rest) else none

/-- Removes a fraction that is all zeros, and has one at least. -/
def dropZeroFraction (t : Text) : Text :=
  let whole := t.takeWhile (· != CodePoint.scalar '.')
  match t.drop whole.length with
  | _ :: zero :: zeros =>
    if (zero :: zeros).all (· == CodePoint.scalar '0') then whole else t
  | _ => t

/-- The plain form of an integer with additions. -/
def mendInteger? (t : Text) : Option Text :=
  let (negative, body) := t.trimNumber.spanSign
  (dropLeadingZeros? body).map fun digits =>
    (if negative then [CodePoint.scalar '-'] else []) ++ digits.dropZeroFraction.dropUnderscores

/-- The integer that a string names. Only one that needed no mending can be too long. -/
def describedInteger (t : Text) : Verdict Int :=
  match t.plainInteger with
  | .integer n => .accepted n
  | .oversized => .fail .oversizedInteger
  | .unreadable =>
    match t.mendInteger?.map plainInteger with
    | some (.integer n) => .accepted n
    | _ => .fail .unreadableInteger

end Easel.Text
