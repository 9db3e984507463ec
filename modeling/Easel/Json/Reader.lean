import Easel.Json.Depth
import Easel.Text.Hex
import Easel.Decimal.Numeral

/-! Reading JSON text. Beside standard JSON, `NaN` and infinities are numbers, and a surrogate
escape may stand alone. Every refusal names its cause and place. -/
namespace Easel

/-- A place in a text: lines and columns count from one, code points from zero. -/
structure Location where
  offset : Nat
  line : Nat
  column : Nat

/-- Lines end at line feeds only. -/
def Location.ofOffset (t : Text) (offset : Nat) : Location :=
  let before := t.take offset
  ⟨offset, before.count (CodePoint.scalar '\n') + 1,
    (before.reverse.takeWhile (· != CodePoint.scalar '\n')).length + 1⟩

namespace Json

inductive Fault where
  | expectedValue
  | expectedName
  | expectedColon
  | expectedComma
  | unterminatedString
  | controlCharacter
  | badEscape
  | badUnicodeEscape
  | extraData
  | byteOrderMark

inductive ReadError where
  | malformed (fault : Fault) (location : Location)
  | longInteger (digits : Nat)
  /-- A container stands inside too many others. -/
  | tooDeep (innermost : Container)

/-- Why reading stopped; a place is told by how much of the text was left. -/
inductive Stop where
  | fault (fault : Fault) (left : Nat)
  | longInteger (digits : Nat)
  | tooDeep (innermost : Container)

/-- Something read off the front of `s`, and the text after it, which is shorter. -/
structure Reading (α : Type) (s : Text) where
  value : α
  rest : Text
  shorter : rest.length < s.length

variable {α β : Type} {s t : Text}

def Reading.map (f : α → β) (r : Reading α s) : Reading β s := ⟨f r.value, r.rest, r.shorter⟩

/-- Carries a reading over to a longer text. -/
def Reading.within (r : Reading α s) (h : s.length ≤ t.length) : Reading α t :=
  ⟨r.value, r.rest, Nat.lt_of_lt_of_le r.shorter h⟩

def isGap : CodePoint → Bool
  | .scalar c => c = ' ' || c = '\t' || c = '\n' || c = '\r'
  | .surrogate _ => false

def skipGaps (s : Text) : Text := s.dropWhile isGap

theorem length_skipGaps_le (s : Text) : (skipGaps s).length ≤ s.length :=
  (List.dropWhile_sublist isGap).length_le

/-- The value of four hexadecimal digits, and what follows them. -/
def hex4? : Text → Option (Nat × Text)
  | .scalar a :: .scalar b :: .scalar c :: .scalar d :: rest => do
    let a ← hexValue? a
    let b ← hexValue? b
    let c ← hexValue? c
    let d ← hexValue? d
    return (((a * 16 + b) * 16 + c) * 16 + d, rest)
  | _ => none

theorem length_of_hex4? {n : Nat} (h : hex4? s = some (n, t)) : t.length + 4 = s.length := by
  unfold hex4? at h
  split at h
  · simp only [Option.pure_def, Option.bind_eq_bind, Option.bind_eq_some_iff,
      Option.some.injEq, Prod.mk.injEq] at h
    obtain ⟨_, _, _, _, _, _, _, _, _, rfl⟩ := h
    simp
  · cases h

/-- What stands at the front of a string's body: its closing quote, or a code point. -/
inductive Piece (s : Text) where
  | close (rest : Text) (shorter : rest.length < s.length)
  | point (p : CodePoint) (rest : Text) (shorter : rest.length < s.length)

/-- The character that a one-letter escape stands for. -/
def escaped? : Char → Option Char
  | '"' => some '"'
  | '\\' => some '\\'
  | '/' => some '/'
  | 'b' => some '\x08'
  | 'f' => some '\x0c'
  | 'n' => some '\n'
  | 'r' => some '\r'
  | 't' => some '\t'
  | _ => none

/-- A code point of the basic plane, or a surrogate. -/
def basicPoint (n : Nat) : CodePoint := (CodePoint.ofNat? n).getD (.scalar '\x00')

def joinSurrogates (high low : Nat) : CodePoint :=
  basicPoint (0x10000 + (high - 0xd800) * 0x400 + (low - 0xdc00))

/-- An escape in UTF-16 units, from the letter `u` on. A high surrogate takes the escape after it
along if that is a low one. At least one character must follow the digits. -/
def unicodeEscape (s : Text) : Except Stop (Piece (.scalar 'u' :: s)) :=
  let bad (left : Nat) : Except Stop (Piece (.scalar 'u' :: s)) :=
    .error (.fault .badUnicodeEscape left)
  match h : hex4? s with
  | none => bad (s.length + 1)
  | some (high, rest) =>
    have len := length_of_hex4? h
    let alone : Except Stop (Piece (.scalar 'u' :: s)) :=
      .ok (.point (basicPoint high) rest (by simp; omega))
    if rest.isEmpty then bad (s.length + 1)
    else if 0xd800 ≤ high ∧ high < 0xdc00 then
      match rest, len with
      | .scalar '\\' :: .scalar 'u' :: more, len =>
        if (more.drop 4).isEmpty then alone
        else
          match h' : hex4? more with
          | none => bad (more.length + 1)
          | some (low, last) =>
            have len' := length_of_hex4? h'
            if 0xdc00 ≤ low ∧ low < 0xe000 then
              .ok (.point (joinSurrogates high low) last (by simp at len ⊢; omega))
            else alone
      | _, _ => alone
    else alone

/-- The next piece of a string whose body began with `body`. -/
def piece (body : Text) : (s : Text) → Except Stop (Piece s)
  | [] => .error (.fault .unterminatedString (body.length + 1))
  | .scalar '"' :: rest => .ok (.close rest (by simp))
  | .scalar '\\' :: [] => .error (.fault .unterminatedString (body.length + 1))
  | .scalar '\\' :: .scalar 'u' :: rest =>
    (unicodeEscape rest).map fun
      | .close r h => .close r (by simp at h ⊢; omega)
      | .point p r h => .point p r (by simp at h ⊢; omega)
  | .scalar '\\' :: p :: rest =>
    match p.char?.bind escaped? with
    | some c => .ok (.point (.scalar c) rest (by simp only [List.length_cons]; omega))
    | none => .error (.fault .badEscape (rest.length + 2))
  | p :: rest =>
    if p.value < 0x20 then .error (.fault .controlCharacter (rest.length + 1))
    else .ok (.point p rest (by simp))

theorem piece_quote (body rest : Text) :
    piece body (.scalar '"' :: rest) = .ok (.close rest (Nat.lt_succ_self rest.length)) := by
  rw [piece]

/-- The rest of a string up to its closing quote. -/
def readString (body s : Text) : Except Stop (Reading Text s) :=
  match piece body s with
  | .error e => .error e
  | .ok (.close rest h) => .ok ⟨[], rest, h⟩
  | .ok (.point p rest h) =>
    match readString body rest with
    | .error e => .error e
    | .ok r => .ok ((r.map (p :: ·)).within (Nat.le_of_lt h))
termination_by s.length

/-- The digits before the point: a lone zero, or digits that begin with another one. -/
def wholePart (s : Text) : List Nat × Text :=
  match s.spanDigits with
  | (0 :: _, _) => ([0], s.tail)
  | (ds, rest) => (ds, rest)

theorem length_wholePart (s : Text) :
    (wholePart s).1.length + (wholePart s).2.length = s.length := by
  have h := Text.length_spanDigits s
  unfold wholePart
  split
  · next ds rest heq =>
    rw [heq] at h
    simp only [List.length_cons, List.length_nil, List.length_tail] at h ⊢
    omega
  · next ds rest _ heq =>
    rw [heq] at h
    exact h

/-- The digits after the point; without digits the point is no part of the number. -/
def fractionPart (s : Text) : List Nat × Text :=
  match s with
  | .scalar '.' :: rest =>
    match Text.spanDigits rest with
    | ([], _) => ([], s)
    | (ds, after) => (ds, after)
  | _ => ([], s)

theorem length_fractionPart_le (s : Text) : (fractionPart s).2.length ≤ s.length := by
  unfold fractionPart
  split
  · next rest =>
    have h := Text.length_spanDigits rest
    split
    · simp
    · next ds after _ heq =>
      rw [heq] at h
      simp only [List.length_cons] at h ⊢
      omega
  · simp

theorem length_spanSign_le (s : Text) : (Text.spanSign s).2.length ≤ s.length := by
  unfold Text.spanSign
  split <;> simp

theorem length_spanExponent?_le {e : Int} (h : Text.spanExponent? s = some (e, t)) :
    t.length ≤ s.length := by
  have aux : ∀ rest : Text, (match Text.spanDigits (Text.spanSign rest).2 with
      | ([], _) => none
      | (ds, after) => some (if (Text.spanSign rest).1 then -Int.ofNat (natOfDigits ds)
          else Int.ofNat (natOfDigits ds), after)) = some (e, t) → t.length ≤ rest.length + 1 := by
    intro rest h
    have hs := length_spanSign_le rest
    have hd := Text.length_spanDigits (Text.spanSign rest).2
    split at h
    · cases h
    · next ds after _ heq =>
      rw [heq] at hd
      simp only [Option.some.injEq, Prod.mk.injEq] at h
      obtain ⟨_, rfl⟩ := h
      simp only at hd
      omega
  unfold Text.spanExponent? at h
  split at h
  · exact aux _ h
  · exact aux _ h
  · cases h

/-- A number after its sign, which began with `start`. A double has a fraction or an exponent, an
integer neither. -/
def readUnsigned (negative : Bool) (start s : Text) : Except Stop (Reading Json s) :=
  have hw := length_wholePart s
  match h : wholePart s with
  | ([], _) => .error (.fault .expectedValue start.length)
  | (d :: ds, afterWhole) =>
    have hf := length_fractionPart_le afterWhole
    match h' : fractionPart afterWhole with
    | (fraction, afterFraction) =>
      match he : Text.spanExponent? afterFraction with
      | some (e, rest) =>
        have := length_spanExponent?_le he
        .ok ⟨.float (Numeral.toFloat ⟨negative, d :: ds, fraction, e⟩), rest, by
          rw [h] at hw; rw [h'] at hf; simp at hw hf; omega⟩
      | none =>
        if fraction.isEmpty then
          if maxIntegerDigits < (d :: ds).length then .error (.longInteger (d :: ds).length)
          else
            let n := Int.ofNat (natOfDigits (d :: ds))
            .ok ⟨.int (if negative then -n else n), afterWhole, by
              rw [h] at hw; simp at hw; omega⟩
        else
          .ok ⟨.float (Numeral.toFloat ⟨negative, d :: ds, fraction, 0⟩), afterFraction, by
            rw [h] at hw; rw [h'] at hf; simp at hw hf; omega⟩

def readNumber (s : Text) : Except Stop (Reading Json s) :=
  match s with
  | .scalar '-' :: rest =>
    (readUnsigned true s rest).map fun r => r.within (by simp)
  | s => readUnsigned false s s

def keywords : List (String × Json) :=
  [("null", .null), ("true", .bool true), ("false", .bool false), ("NaN", .float (0.0 / 0.0)),
   ("Infinity", .float (1.0 / 0.0)), ("-Infinity", .float (-(1.0 / 0.0)))]

def readKeyword? (s : Text) : Option (Reading Json s) :=
  keywords.findSome? fun k =>
    let word := Text.ofString k.1
    if h : word ≠ [] ∧ word <+: s then
      some ⟨k.2, s.drop word.length, by
        have := h.2.length_le
        have := List.length_pos_iff.mpr h.1
        rw [List.length_drop]
        omega⟩
    else none

mutual

/-- One value off the front of the text; `room` tells how many containers it may go down. -/
def readValue (room : Nat) (s : Text) : Except Stop (Reading Json s) :=
  match s with
  | [] => .error (.fault .expectedValue 0)
  | .scalar '"' :: rest =>
    match readString rest rest with
    | .error e => .error e
    | .ok r => .ok ((r.map .string).within (by simp))
  | .scalar '[' :: rest =>
    match room with
    | 0 => .error (.tooDeep .array)
    | room + 1 =>
      have := length_skipGaps_le rest
      match h : skipGaps rest with
      | .scalar ']' :: after => .ok ⟨.array [], after, by rw [h] at this; simp at this ⊢; omega⟩
      | inside =>
        match readItems room inside with
        | .error e => .error e
        | .ok r => .ok ((r.map .array).within (by rw [h] at this; simp; omega))
  | .scalar '{' :: rest =>
    match room with
    | 0 => .error (.tooDeep .object)
    | room + 1 =>
      have := length_skipGaps_le rest
      match h : skipGaps rest with
      | .scalar '}' :: after => .ok ⟨.object [], after, by rw [h] at this; simp at this ⊢; omega⟩
      | inside =>
        match readFields room inside with
        | .error e => .error e
        | .ok r =>
          .ok ((r.map fun pairs => .object (Fields.ofPairs pairs)).within
            (by rw [h] at this; simp; omega))
  | p :: rest =>
    match readKeyword? (p :: rest) with
    | some r => .ok r
    | none => readNumber (p :: rest)
termination_by 2 * s.length
decreasing_by all_goals (rw [h] at this; simp only [List.length_cons]; omega)

/-- The items of an array up to its closing bracket. -/
def readItems (room : Nat) (s : Text) : Except Stop (Reading (List Json) s) :=
  match readValue room s with
  | .error e => .error e
  | .ok ⟨v, rest, hv⟩ =>
    have := length_skipGaps_le rest
    match h : skipGaps rest with
    | .scalar ']' :: after => .ok ⟨[v], after, by rw [h] at this; simp at this; omega⟩
    | .scalar ',' :: after =>
      have := length_skipGaps_le after
      match readItems room (skipGaps after) with
      | .error e => .error e
      | .ok r =>
        .ok ((r.map (v :: ·)).within (by rename_i h1; rw [h] at h1; simp at h1; omega))
    | other => .error (.fault .expectedComma other.length)
termination_by 2 * s.length + 1
decreasing_by
  · omega
  · rename_i h1
    rw [h] at h1
    simp only [List.length_cons] at h1
    omega

/-- The fields of an object up to its closing brace. -/
def readFields (room : Nat) (s : Text) : Except Stop (Reading (List (Text × Json)) s) :=
  match s with
  | .scalar '"' :: rest =>
    match readString rest rest with
    | .error e => .error e
    | .ok ⟨key, afterKey, hk⟩ =>
      have := length_skipGaps_le afterKey
      match hc : skipGaps afterKey with
      | .scalar ':' :: afterColon =>
        have := length_skipGaps_le afterColon
        match readValue room (skipGaps afterColon) with
        | .error e => .error e
        | .ok ⟨v, afterValue, hv⟩ =>
          have := length_skipGaps_le afterValue
          match h : skipGaps afterValue with
          | .scalar '}' :: after => .ok ⟨[(key, v)], after, by simp_all; omega⟩
          | .scalar ',' :: after =>
            have := length_skipGaps_le after
            match readFields room (skipGaps after) with
            | .error e => .error e
            | .ok r => .ok ((r.map ((key, v) :: ·)).within (by simp_all; omega))
          | other => .error (.fault .expectedComma other.length)
      | other => .error (.fault .expectedColon other.length)
  | other => .error (.fault .expectedName other.length)
termination_by 2 * s.length + 1
decreasing_by
  · simp_all; omega
  · simp_all; omega

end

/-- There is no value in an empty text. -/
theorem readValue_nil (room : Nat) :
    readValue room [] = .error (.fault .expectedValue 0) := by
  rw [readValue]

/-- A stop as an error in the text that was being read. -/
def Stop.toError (s : Text) : Stop → ReadError
  | .fault f left => .malformed f (.ofOffset s (s.length - left))
  | .longInteger digits => .longInteger digits
  | .tooDeep innermost => .tooDeep innermost

/-- The one value that a text holds, with gaps around it; `room` tells how many containers may stand
inside one another. -/
def parse (room : Nat) (s : Text) : Except ReadError Json :=
  match readValue room (skipGaps s) with
  | .error e => .error (e.toError s)
  | .ok r =>
    match skipGaps r.rest with
    | [] => .ok r.value
    | extra => .error (Stop.toError s (.fault .extraData extra.length))

/-- Like `parse`, but refuses a byte order mark that was left in the text. -/
def parseMarked (room : Nat) (s : Text) : Except ReadError Json :=
  if s.head? = some (.scalar '\ufeff') then
    .error (.malformed .byteOrderMark (.ofOffset s 0))
  else parse room s

def Fault.message : Fault → String
  | .expectedValue => "Expecting value"
  | .expectedName => "Expecting property name enclosed in double quotes"
  | .expectedColon => "Expecting ':' delimiter"
  | .expectedComma => "Expecting ',' delimiter"
  | .unterminatedString => "Unterminated string starting at"
  | .controlCharacter => "Invalid control character at"
  | .badEscape => "Invalid \\escape"
  | .badUnicodeEscape => "Invalid \\uXXXX escape"
  | .extraData => "Extra data"
  | .byteOrderMark => "Unexpected UTF-8 BOM (decode using utf-8-sig)"

def ReadError.message : ReadError → String
  | .malformed fault place =>
    s!"{fault.message}: line {place.line} column {place.column} (char {place.offset})"
  | .longInteger digits => longIntegerMessage digits
  | .tooDeep innermost => (Limit.readDepth innermost).message

/-- Whether the text breaks a rule of the format, and not only a limit of the reader. -/
def ReadError.isMalformed : ReadError → Bool
  | .malformed _ _ => true
  | .longInteger _ | .tooDeep _ => false

end Json

end Easel
