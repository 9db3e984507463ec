import Easel.Text.Utf8

/-! UTF-16 and UTF-32 in bytes of either order; surrogates that stand alone are let pass. -/
namespace Easel

inductive ByteOrder where
  | little
  | big

def ByteOrder.suffix : ByteOrder → String
  | little => "le"
  | big => "be"

/-- The number written in the bytes. -/
def ByteOrder.number : ByteOrder → List UInt8 → Nat
  | little, bytes => bytes.foldr (fun b n => n * 256 + b.toNat) 0
  | big, bytes => bytes.foldl (fun n b => n * 256 + b.toNat) 0

namespace Utf16

/-- The units of UTF-16, from the byte at `place` on. -/
def units (order : ByteOrder) (place : Nat) : List UInt8 → Except DecodeError (List Nat)
  | [] => .ok []
  | [b] => .error ⟨s!"utf-16-{order.suffix}", place, [b], .truncated⟩
  | a :: b :: rest => (units order (place + 2) rest).map (order.number [a, b] :: ·)

def join : List Nat → Text
  | [] => []
  | [n] => [Utf8.point n]
  | n :: m :: rest =>
    if 0xd800 ≤ n ∧ n < 0xdc00 ∧ 0xdc00 ≤ m ∧ m < 0xe000 then
      Utf8.point (0x10000 + (n - 0xd800) * 0x400 + (m - 0xdc00)) :: join rest
    else Utf8.point n :: join (m :: rest)

def decodeFrom (order : ByteOrder) (place : Nat) (bytes : List UInt8) : Except DecodeError Text :=
  (units order place bytes).map join

end Utf16

namespace Utf32

def decodeFrom (order : ByteOrder) (place : Nat) : List UInt8 → Except DecodeError Text
  | [] => .ok []
  | a :: b :: c :: d :: rest =>
    let n := order.number [a, b, c, d]
    if n < 0x110000 then (decodeFrom order (place + 4) rest).map (Utf8.point n :: ·)
    else .error ⟨s!"utf-32-{order.suffix}", place, [a, b, c, d], .outOfRange⟩
  | bytes => .error ⟨s!"utf-32-{order.suffix}", place, bytes, .truncated⟩

end Utf32

end Easel
