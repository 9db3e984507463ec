import Easel.Json.Basic

/-! The limits at which a call breaks off that reads or writes JSON. Readers and writers go down
into containers on the stack of calls, so that each call has only so much room for this. -/
namespace Easel.Json

/-- What holds other values. -/
inductive Container where
  | array
  | object
  deriving DecidableEq

/-- Why a call breaks off. -/
inductive Limit where
  /-- A text that is read goes down too far. -/
  | readDepth (innermost : Container)
  /-- A value that is written goes down too far. -/
  | writeDepth
  /-- An integer that is written has too many digits. -/
  | writeDigits
  deriving DecidableEq

def Limit.message : Limit → String
  | readDepth .array =>
    "maximum recursion depth exceeded while decoding a JSON array from a unicode string"
  | readDepth .object =>
    "maximum recursion depth exceeded while decoding a JSON object from a unicode string"
  | writeDepth => "maximum recursion depth exceeded while encoding a JSON object"
  | writeDigits =>
    "Exceeds the limit (4300 digits) for integer string conversion; " ++
      "use sys.set_int_max_str_digits() to increase the limit"

/-- How many containers may stand inside one another in the texts of a call. -/
structure Room where
  /-- In a text that is read. -/
  reading : Nat
  /-- In a text that is written because of it. -/
  writing : Nat

end Easel.Json
