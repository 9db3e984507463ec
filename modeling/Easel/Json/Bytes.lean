import Easel.Json.Reader
import Easel.Text.WideUnits

/-! JSON in bytes. The encoding is told by a byte order mark, or by which of the first bytes are
zero, as a JSON text begins with an ASCII character. -/
namespace Easel.Json

inductive BytesError where
  | encoding (e : DecodeError)
  | text (e : ReadError)

/-- Decodes a JSON text in UTF-8, UTF-16 or UTF-32. -/
def decode (bytes : List UInt8) : Except DecodeError Text :=
  if List.isPrefixOf [0xff, 0xfe, 0, 0] bytes then Utf32.decodeFrom .little 4 (bytes.drop 4)
  else if List.isPrefixOf [0, 0, 0xfe, 0xff] bytes then Utf32.decodeFrom .big 4 (bytes.drop 4)
  else if List.isPrefixOf [0xff, 0xfe] bytes then Utf16.decodeFrom .little 2 (bytes.drop 2)
  else if List.isPrefixOf [0xfe, 0xff] bytes then Utf16.decodeFrom .big 2 (bytes.drop 2)
  else if List.isPrefixOf [0xef, 0xbb, 0xbf] bytes then Utf8.decodeFrom true 0 (bytes.drop 3)
  else match bytes with
    | a :: b :: c :: d :: _ =>
      if a = 0 then
        if b = 0 then Utf32.decodeFrom .big 0 bytes else Utf16.decodeFrom .big 0 bytes
      else if b = 0 then
        if c = 0 ∧ d = 0 then Utf32.decodeFrom .little 0 bytes
        else Utf16.decodeFrom .little 0 bytes
      else Utf8.decodeFrom true 0 bytes
    | [a, b] =>
      if a = 0 then Utf16.decodeFrom .big 0 bytes
      else if b = 0 then Utf16.decodeFrom .little 0 bytes
      else Utf8.decodeFrom true 0 bytes
    | _ => Utf8.decodeFrom true 0 bytes

/-- Bytes that begin with another byte than a mark do not begin with the mark. -/
theorem not_isPrefixOf_of_ne {a b : UInt8} (h : a ≠ b) (mark rest : List UInt8) :
    ¬ List.isPrefixOf (b :: mark) (a :: rest) = true := by
  rw [List.isPrefixOf_cons_cons, beq_false_of_ne h.symm, Bool.false_and]
  exact Bool.false_ne_true

/-- Without a zero or the start of a byte order mark, bytes are taken for UTF-8. -/
theorem decode_of_unmarked {bytes : List UInt8}
    (h : ∀ b ∈ bytes, b ≠ 0 ∧ b ≠ 0xff ∧ b ≠ 0xfe ∧ b ≠ 0xef) :
    decode bytes = Utf8.decodeFrom true 0 bytes := by
  cases bytes with
  | nil => rfl
  | cons a rest =>
    obtain ⟨⟨ha, hff, hfe, hef⟩, hrest⟩ := List.forall_mem_cons.mp h
    unfold decode
    rw [if_neg (not_isPrefixOf_of_ne hff _ _), if_neg (not_isPrefixOf_of_ne ha _ _),
      if_neg (not_isPrefixOf_of_ne hff _ _), if_neg (not_isPrefixOf_of_ne hfe _ _),
      if_neg (not_isPrefixOf_of_ne hef _ _)]
    split
    · rename_i b c d more heq
      obtain ⟨rfl, rfl⟩ := List.cons.inj heq
      obtain ⟨⟨hb, -⟩, -⟩ := List.forall_mem_cons.mp hrest
      rw [if_neg ha, if_neg hb]
    · rename_i b heq
      obtain ⟨rfl, rfl⟩ := List.cons.inj heq
      obtain ⟨⟨hb, -⟩, -⟩ := List.forall_mem_cons.mp hrest
      rw [if_neg ha, if_neg hb]
    · rfl

/-- The value that bytes hold, in which no more than `room` containers stand inside one another. -/
def ofBytes (room : Nat) (bytes : List UInt8) : Except BytesError Json :=
  match decode bytes with
  | .error e => .error (.encoding e)
  | .ok t =>
    match parse room t with
    | .error e => .error (.text e)
    | .ok v => .ok v

end Easel.Json
