import Easel.Text.Basic
import Easel.Text.Hex

/-! UTF-8 in bytes: strict decoding, decoding that lets surrogates pass, and lossy decoding. -/
namespace Easel

inductive DecodeFault where
  | invalidStart
  | invalidContinuation
  | unexpectedEnd
  | truncated
  | outOfRange

/-- Bytes at a place that an encoding cannot hold. -/
structure DecodeError where
  encoding : String
  start : Nat
  bytes : List UInt8
  fault : DecodeFault

def DecodeFault.message : DecodeFault → String
  | invalidStart => "invalid start byte"
  | invalidContinuation => "invalid continuation byte"
  | unexpectedEnd => "unexpected end of data"
  | truncated => "truncated data"
  | outOfRange => "code point not in range(0x110000)"

/-- A single byte is shown; of several only the places of the first and the last. -/
def DecodeError.message (e : DecodeError) : String :=
  let which := match e.bytes with
    | [b] => s!"byte 0x{String.ofList (hexDigits 2 b.toNat)} in position {e.start}"
    | bs => s!"bytes in position {e.start}-{e.start + bs.length - 1}"
  s!"'{e.encoding}' codec can't decode {which}: {e.fault.message}"

namespace Utf8

/-- What a first byte contributes, and the range that each byte after it must lie in. -/
def lead? (b : Nat) : Option (Nat × List (Nat × Nat)) :=
  let tail := (0x80, 0xbf)
  if b < 0x80 then some (b, [])
  else if b < 0xc2 then none
  else if b < 0xe0 then some (b % 32, [tail])
  else if b = 0xe0 then some (0, [(0xa0, 0xbf), tail])
  else if b = 0xed then some (13, [(0x80, 0x9f), tail])
  else if b < 0xf0 then some (b % 16, [tail, tail])
  else if b = 0xf0 then some (0, [(0x90, 0xbf), tail, tail])
  else if b < 0xf4 then some (b % 8, [tail, tail, tail])
  else if b = 0xf4 then some (4, [(0x80, 0x8f), tail, tail])
  else none

/-- A code point, or why there is none, and how many bytes after the first one it takes up. -/
structure Chunk where
  point : Except DecodeFault Nat
  extra : Nat

/-- Takes the continuation bytes that are still owed; a byte out of range stays where it is. -/
def finish (value taken : Nat) : List (Nat × Nat) → List UInt8 → Chunk
  | [], _ => ⟨.ok value, taken⟩
  | _ :: _, [] => ⟨.error .unexpectedEnd, taken⟩
  | (low, high) :: owed, b :: rest =>
    if low ≤ b.toNat ∧ b.toNat ≤ high then
      finish (value * 64 + b.toNat % 64) (taken + 1) owed rest
    else ⟨.error .invalidContinuation, taken⟩

def chunk (b : UInt8) (rest : List UInt8) : Chunk :=
  match lead? b.toNat with
  | none => ⟨.error .invalidStart, 0⟩
  | some (value, owed) => finish value 0 owed rest

/-- A surrogate written in three bytes, which strict UTF-8 does not have. -/
def surrogate? (b : UInt8) : List UInt8 → Option CodePoint
  | c :: d :: _ =>
    if b.toNat = 0xed ∧ 0xa0 ≤ c.toNat ∧ c.toNat ≤ 0xbf ∧ 0x80 ≤ d.toNat ∧ d.toNat ≤ 0xbf then
      CodePoint.ofNat? (0xd000 + c.toNat % 64 * 64 + d.toNat % 64)
    else none
  | _ => none

def point (n : Nat) : CodePoint := (CodePoint.ofNat? n).getD (.scalar '\ufffd')

/-- Decodes from the byte at `place` on; surrogates may be let pass. -/
def decodeFrom (surrogates : Bool) (place : Nat) : List UInt8 → Except DecodeError Text
  | [] => .ok []
  | b :: rest =>
    match chunk b rest with
    | ⟨.ok n, extra⟩ =>
      (decodeFrom surrogates (place + extra + 1) (rest.drop extra)).map (point n :: ·)
    | ⟨.error fault, extra⟩ =>
      match if surrogates then surrogate? b rest else none with
      | some p => (decodeFrom surrogates (place + 3) (rest.drop 2)).map (p :: ·)
      | none => .error ⟨"utf-8", place, b :: rest.take extra, fault⟩
termination_by bytes => bytes.length
decreasing_by all_goals (simp only [List.length_drop, List.length_cons]; omega)

def decode (bytes : List UInt8) : Except DecodeError Text := decodeFrom false 0 bytes

/-- Each longest run of bytes that begins no character becomes one replacement character. -/
def decodeLossy : List UInt8 → Text
  | [] => []
  | b :: rest =>
    let c := chunk b rest
    (match c.point with
      | .ok n => point n
      | .error _ => .scalar '\ufffd') :: decodeLossy (rest.drop c.extra)
termination_by bytes => bytes.length
decreasing_by simp only [List.length_drop, List.length_cons]; omega

end Utf8

end Easel
