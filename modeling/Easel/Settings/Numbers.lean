import Easel.Decimal.Numeral
import Easel.Text.Digit
import Easel.Text.Quoted

/-! Numbers in settings. Digits may be of any script, white space around them does not count, and
an underscore may stand between two of them. -/
namespace Easel

/-- Why a setting is not an integer. -/
inductive IntegerFault where
  | unreadable (given : String)
  | tooLong (digits : Nat)

/-- A message shows no more than 200 characters of what was given. -/
def IntegerFault.message : IntegerFault → String
  | unreadable given =>
    "invalid literal for int() with base 10: " ++ String.ofList ((quoted given).toList.take 200)
  | tooLong digits => longIntegerMessage digits

/-- The text of a number with ASCII digits, and without the white space around it. -/
def numberText (s : String) : Text := Text.trimNumber (Text.ofString (s.map asciiDigit))

namespace Text

def beginsWithDigit (t : Text) : Bool := (t.head?.bind CodePoint.digit?).isSome

/-- Splits off the digits in front and the underscores between them; none if an underscore there
has no digit on one of its sides. -/
def spanGrouped? (afterDigit : Bool) : Text → Option (List Nat × Text)
  | [] => some ([], [])
  | c :: rest =>
    match c.digit? with
    | some d => (spanGrouped? true rest).map fun r => (d :: r.1, r.2)
    | none =>
      if c = '_' then if afterDigit && beginsWithDigit rest then spanGrouped? false rest else none
      else some ([], c :: rest)

/-- Removes the underscores, if each one stands between two digits. -/
def ungroup? (afterDigit : Bool) : Text → Option Text
  | [] => some []
  | c :: rest =>
    if c = '_' then if afterDigit && beginsWithDigit rest then ungroup? false rest else none
    else (ungroup? c.digit?.isSome rest).map (c :: ·)

end Text

/-- Too many digits are a fault of their own, whatever follows them. -/
def readInteger (s : String) : Except IntegerFault Int :=
  let (negative, body) := Text.spanSign (numberText s)
  match Text.spanGrouped? false body with
  | some (d :: ds, rest) =>
    if maxIntegerDigits < (d :: ds).length then .error (.tooLong (d :: ds).length)
    else if rest.isEmpty then
      let n := Int.ofNat (natOfDigits (d :: ds))
      .ok (if negative then -n else n)
    else .error (.unreadable s)
  | _ => .error (.unreadable s)

def readNumber? (s : String) : Option Float :=
  (Text.ungroup? false (numberText s)).bind Text.float?

def unreadableNumberMessage (given : String) : String :=
  "could not convert string to float: " ++ quoted given

end Easel
