import Mathlib.Tactic.SplitIfs
import Easel.Json.Reader
import Easel.Json.Writer
import Easel.Gateway.Http

/-! Strings and integers are read back from their JSON text. -/
namespace Easel.Json

variable {s t : Text} {body : Text} {c : Char} {n : Nat}

/-- What a reader has read, and what is left. -/
def Reading.parts {α : Type} (r : Reading α s) : α × Text := (r.value, r.rest)

/-- A reader has read a value off the front of a text, and the other text is left. -/
def Gives {α : Type} (x : Except Stop (Reading α s)) (v : α) (t : Text) : Prop :=
  x.map Reading.parts = .ok (v, t)

theorem Gives.eq_ok {α : Type} {x : Except Stop (Reading α s)} {v : α} (h : Gives x v t) :
    ∃ shorter, x = .ok ⟨v, t, shorter⟩ := by
  cases x with
  | error e => cases h
  | ok r =>
    obtain ⟨rfl, rfl⟩ := Prod.mk.inj (Except.ok.inj h)
    exact ⟨r.shorter, rfl⟩

/-- The code point at the front of a string's body, none at its end, and what is left. -/
def Piece.parts : Piece s → Option CodePoint × Text
  | .close rest _ => (none, rest)
  | .point p rest _ => (some p, rest)

theorem prepend_append (cs ds : List Char) (t : Text) :
    prepend (cs ++ ds) t = prepend cs (prepend ds t) := by
  induction cs with
  | nil => rfl
  | cons c cs ih => exact congrArg (CodePoint.scalar c :: ·) ih

theorem hexDigit_mod (n : Nat) : hexDigit (n % 16) = hexDigit n := by
  simp only [hexDigit, Nat.mod_mod]

/-- The value of a digit is what it was written for. -/
theorem hexValue?_hexDigit (n : Nat) : hexValue? (hexDigit n) = some (n % 16) := by
  have hall : ∀ k : Fin 16, hexValue? (hexDigit k.val) = some k.val := by decide
  rw [← hexDigit_mod]
  exact hall ⟨n % 16, Nat.mod_lt n (by decide)⟩

/-- Four digits are enough for what an escape stands for. -/
theorem hex4?_hexDigits (hn : n < 0x10000) (t : Text) :
    hex4? (prepend (hexDigits 4 n) t) = some (n, t) := by
  have hdigits : hexDigits 4 n =
      [hexDigit (n / 16 / 16 / 16), hexDigit (n / 16 / 16), hexDigit (n / 16), hexDigit n] := rfl
  have hvalue : ((n / 16 / 16 / 16 % 16 * 16 + n / 16 / 16 % 16) * 16 + n / 16 % 16) * 16 + n % 16 =
      n := by omega
  rw [hdigits]
  simp only [prepend, hex4?, hexValue?_hexDigit, Option.bind_eq_bind, Option.bind_some,
    Option.pure_def, hvalue]

theorem drop_of_hex4? {value : Nat} (h : hex4? s = some (value, t)) : s.drop 4 = t := by
  unfold hex4? at h
  split at h
  · simp only [Option.pure_def, Option.bind_eq_bind, Option.bind_eq_some_iff,
      Option.some.injEq, Prod.mk.injEq] at h
    obtain ⟨_, _, _, _, _, _, _, _, _, rfl⟩ := h
    rfl
  · cases h

/-- An escape stands by itself unless it is the first half of a pair. -/
theorem unicodeEscape_of_basic {rest : Text} (h : hex4? s = some (n, rest)) (hrest : rest ≠ [])
    (hn : ¬ (0xd800 ≤ n ∧ n < 0xdc00)) :
    (unicodeEscape s).map Piece.parts = .ok (some (basicPoint n), rest) := by
  unfold unicodeEscape
  extract_lets bad
  split
  · rename_i hnone
    rw [hnone] at h
    cases h
  · rename_i high after hsome
    obtain ⟨rfl, rfl⟩ : high = n ∧ after = rest := by simpa [hsome] using h
    extract_lets len alone
    rw [if_neg (by simpa using hrest), if_neg hn]
    rfl

/-- Two halves are joined. -/
theorem unicodeEscape_of_pair {more last : Text} {high low : Nat}
    (h : hex4? s = some (high, .scalar '\\' :: .scalar 'u' :: more))
    (hhigh : 0xd800 ≤ high ∧ high < 0xdc00) (hmore : hex4? more = some (low, last))
    (hlast : last ≠ []) (hlow : 0xdc00 ≤ low ∧ low < 0xe000) :
    (unicodeEscape s).map Piece.parts = .ok (some (joinSurrogates high low), last) := by
  have hleft : ¬ (more.drop 4).isEmpty = true := by
    rw [drop_of_hex4? hmore]
    simpa using hlast
  unfold unicodeEscape
  extract_lets bad
  split
  · rename_i hnone
    rw [hnone] at h
    cases h
  · rename_i high' after hsome
    obtain ⟨rfl, rfl⟩ : high' = high ∧ after = .scalar '\\' :: .scalar 'u' :: more := by
      simpa [hsome] using h
    extract_lets len alone
    rw [if_neg (by simp), if_pos hhigh]
    change Except.map Piece.parts (if (more.drop 4).isEmpty = true then alone else _) = _
    rw [if_neg hleft]
    split
    · rename_i hnone
      rw [hnone] at hmore
      cases hmore
    · rename_i low' last' hsome'
      obtain ⟨rfl, rfl⟩ : low' = low ∧ last' = last := by simpa [hsome'] using hmore
      rw [if_pos hlow]
      rfl

theorem basicPoint_toNat (c : Char) : basicPoint c.toNat = .scalar c := by
  have hvalid : c.toNat.isValidChar := c.valid
  rw [basicPoint, CodePoint.ofNat?, dif_pos hvalid]
  rfl

/-- Characters are no halves of pairs. -/
theorem not_surrogate_toNat (c : Char) : ¬ (0xd800 ≤ c.toNat ∧ c.toNat < 0xdc00) := by
  have hvalid : c.toNat.isValidChar := c.valid
  unfold Nat.isValidChar at hvalid
  omega

theorem toNat_lt (c : Char) : c.toNat < 0x110000 := by
  have hvalid : c.toNat.isValidChar := c.valid
  unfold Nat.isValidChar at hvalid
  omega

/-- The first of the two units of UTF-16 that stand for a character past the basic plane. -/
def highUnit (c : Char) : Nat := 0xd800 + (c.toNat - 0x10000) / 0x400

/-- The second one. -/
def lowUnit (c : Char) : Nat := 0xdc00 + (c.toNat - 0x10000) % 0x400

/-- The first half of a pair is recognised as one. -/
theorem highUnit_mem (c : Char) : 0xd800 ≤ highUnit c ∧ highUnit c < 0xdc00 := by
  have hlt := toNat_lt c
  unfold highUnit
  omega

theorem lowUnit_mem (c : Char) : 0xdc00 ≤ lowUnit c ∧ lowUnit c < 0xe000 := by
  unfold lowUnit
  omega

/-- Joining the two halves of a character gives the character. -/
theorem joinSurrogates_units (hc : 0x10000 ≤ c.toNat) :
    joinSurrogates (highUnit c) (lowUnit c) = .scalar c := by
  have hvalue : 0x10000 + (highUnit c - 0xd800) * 0x400 + (lowUnit c - 0xdc00) = c.toNat := by
    unfold highUnit lowUnit
    omega
  rw [joinSurrogates, hvalue, basicPoint_toNat]

theorem parts_piece_unicode (rest : Text) :
    (piece body (.scalar '\\' :: .scalar 'u' :: rest)).map Piece.parts =
      (unicodeEscape rest).map Piece.parts := by
  rw [piece]
  cases unicodeEscape rest with
  | error e => rfl
  | ok p => cases p <;> rfl

/-- A character is read back from its escape if it needs only one. -/
theorem parts_piece_unitEscape (hn : ¬ (0xd800 ≤ n ∧ n < 0xdc00)) (hlt : n < 0x10000)
    (ht : t ≠ []) :
    (piece body (prepend (unitEscape n) t)).map Piece.parts = .ok (some (basicPoint n), t) := by
  have hescape := unicodeEscape_of_basic (hex4?_hexDigits hlt t) ht hn
  exact (parts_piece_unicode _).trans hescape

theorem parts_piece_letter {letter : Char} (hu : letter ≠ 'u') (h : escaped? letter = some c) :
    (piece body (.scalar '\\' :: .scalar letter :: t)).map Piece.parts =
      .ok (some (.scalar c), t) := by
  rw [piece]
  · simp only [CodePoint.char?, Option.bind_some, h]
    rfl
  · intro hc
    exact hu (CodePoint.scalar.inj hc)

/-- A character that is printed needs no escape. -/
theorem parts_piece_plain (hquote : c ≠ '"') (hslash : c ≠ '\\') (hprint : 0x20 ≤ c.toNat) :
    (piece body (.scalar c :: t)).map Piece.parts = .ok (some (.scalar c), t) := by
  have hne : CodePoint.scalar c ≠ .scalar '\\' := fun h => hslash (CodePoint.scalar.inj h)
  have hvalue : ¬ (CodePoint.scalar c).value < 0x20 := Nat.not_lt.mpr hprint
  rw [piece, if_neg hvalue]
  · rfl
  · exact fun h => hquote (CodePoint.scalar.inj h)
  · exact fun h _ => hne h
  · exact fun _ h _ => hne h
  · exact fun _ _ h _ => hne h

/-- And from two escapes if it needs both. -/
theorem parts_piece_pair (hc : 0x10000 ≤ c.toNat) (ht : t ≠ []) :
    (piece body (prepend (unitEscape (highUnit c) ++ unitEscape (lowUnit c)) t)).map Piece.parts =
      .ok (some (.scalar c), t) := by
  have hhigh := highUnit_mem c
  have hlow := lowUnit_mem c
  have hescape := unicodeEscape_of_pair
    (hex4?_hexDigits (Nat.lt_trans hhigh.2 (by decide)) (prepend (unitEscape (lowUnit c)) t))
    hhigh (hex4?_hexDigits (Nat.lt_trans hlow.2 (by decide)) t) ht hlow
  rw [prepend_append, ← joinSurrogates_units hc]
  exact (parts_piece_unicode _).trans hescape

theorem parts_piece_close (t : Text) :
    (piece body (.scalar '"' :: t)).map Piece.parts = .ok (none, t) := by
  rw [piece_quote]
  rfl

/-- How a character stands in a string: behind a backslash as one letter, as it is, or as one or two
units of UTF-16. -/
inductive Escaped (c : Char) : List Char → Prop where
  | letter {l : Char} (hu : l ≠ 'u') (hl : escaped? l = some c) : Escaped c ['\\', l]
  | plain (hquote : c ≠ '"') (hslash : c ≠ '\\') (hprint : 0x20 ≤ c.toNat ∧ c.toNat < 0x7f) :
      Escaped c [c]
  | unit (h : c.toNat < 0x10000) : Escaped c (unitEscape c.toNat)
  | pair (h : 0x10000 ≤ c.toNat) : Escaped c (unitEscape (highUnit c) ++ unitEscape (lowUnit c))

theorem escaped_escape (c : Char) : Escaped c (escape (.scalar c)) := by
  unfold escape
  dsimp only
  by_cases hquote : c = '"' ∨ c = '\\'
  · rw [if_pos hquote]
    rcases hquote with rfl | rfl <;> exact .letter (by decide) rfl
  rw [if_neg hquote]
  by_cases hn : c = '\n'
  · rw [if_pos hn]
    exact .letter (by decide) (hn ▸ rfl)
  rw [if_neg hn]
  by_cases hr : c = '\r'
  · rw [if_pos hr]
    exact .letter (by decide) (hr ▸ rfl)
  rw [if_neg hr]
  by_cases ht : c = '\t'
  · rw [if_pos ht]
    exact .letter (by decide) (ht ▸ rfl)
  rw [if_neg ht]
  by_cases hf : c = '\x0c'
  · rw [if_pos hf]
    exact .letter (by decide) (hf ▸ rfl)
  rw [if_neg hf]
  by_cases hb : c = '\x08'
  · rw [if_pos hb]
    exact .letter (by decide) (hb ▸ rfl)
  rw [if_neg hb]
  by_cases hprint : 0x20 ≤ c.toNat ∧ c.toNat < 0x7f
  · rw [if_pos hprint]
    exact .plain (fun h => hquote (.inl h)) (fun h => hquote (.inr h)) hprint
  rw [if_neg hprint]
  by_cases hbasic : c.toNat < 0x10000
  · rw [if_pos hbasic]
    exact .unit hbasic
  · rw [if_neg hbasic]
    exact .pair (Nat.le_of_not_lt hbasic)

/-- An escaped character is read back, if the string goes on or is closed after it. -/
theorem parts_piece_escape (c : Char) (ht : t ≠ []) :
    (piece body (prepend (escape (.scalar c)) t)).map Piece.parts = .ok (some (.scalar c), t) := by
  have h := escaped_escape c
  generalize escape (.scalar c) = cs at h
  cases h with
  | letter hu hl => exact parts_piece_letter hu hl
  | plain hquote hslash hprint => exact parts_piece_plain hquote hslash hprint.1
  | unit hlt =>
    rw [parts_piece_unitEscape (not_surrogate_toNat c) hlt ht, basicPoint_toNat]
  | pair hge => exact parts_piece_pair hge ht

theorem prepend_ne_nil (cs : List Char) (ht : t ≠ []) : prepend cs t ≠ [] := by
  cases cs with
  | nil => exact ht
  | cons c cs => exact List.cons_ne_nil _ _

theorem writeBody_ne_nil (s t : Text) : writeBody s t ≠ [] := by
  induction s with
  | nil => exact List.cons_ne_nil _ _
  | cons p s ih => exact prepend_ne_nil _ ih

/-- A quote ends the string. -/
theorem gives_readString_close (hpiece : (piece body s).map Piece.parts = .ok (none, t)) :
    Gives (readString body s) [] t := by
  rw [readString]
  cases h : piece body s with
  | error e => rw [h] at hpiece; cases hpiece
  | ok p =>
    rw [h] at hpiece
    cases p with
    | close rest shorter => cases hpiece; rfl
    | point => cases hpiece

/-- Any other piece adds a character to what follows. -/
theorem gives_readString_point {p : CodePoint} {rest more : Text}
    (hpiece : (piece body s).map Piece.parts = .ok (some p, rest))
    (hrest : Gives (readString body rest) more t) : Gives (readString body s) (p :: more) t := by
  obtain ⟨shorter, hrest⟩ := hrest.eq_ok
  rw [readString]
  cases h : piece body s with
  | error e => rw [h] at hpiece; cases hpiece
  | ok p =>
    rw [h] at hpiece
    cases p with
    | close => cases hpiece
    | point =>
      cases hpiece
      simp only [hrest]
      rfl

/-- A string is read back up to its closing quote. -/
theorem readString_writeBody (hs : s.isEncodable = true) (t : Text) :
    Gives (readString body (writeBody s t)) s t := by
  induction s with
  | nil => exact gives_readString_close (parts_piece_close t)
  | cons p s ih =>
    obtain ⟨hp, hs⟩ : p.char?.isSome = true ∧ Text.isEncodable s = true := by
      simpa [Text.isEncodable] using hs
    cases p with
    | surrogate => cases hp
    | scalar c =>
      exact gives_readString_point (parts_piece_escape c (writeBody_ne_nil s t)) (ih hs)

/-- What can follow a written value: nothing, or what goes on with its container or ends it. -/
inductive EndsValue : Text → Prop where
  | done : EndsValue []
  | comma (rest : Text) : EndsValue (.scalar ',' :: rest)
  | bracket (rest : Text) : EndsValue (.scalar ']' :: rest)
  | brace (rest : Text) : EndsValue (.scalar '\x7d' :: rest)

/-- No digit follows a number, or the number would go on. -/
theorem EndsValue.spanDigits (ht : EndsValue t) : Text.spanDigits t = ([], t) := by
  cases ht <;> rfl

theorem EndsValue.fractionPart (ht : EndsValue t) : fractionPart t = ([], t) := by
  cases ht <;> rfl

theorem EndsValue.spanExponent? (ht : EndsValue t) : Text.spanExponent? t = none := by
  cases ht <;> rfl

def digitValue (c : Char) : Nat := c.toNat - '0'.toNat

theorem digit?_of_isDigit (h : c.isDigit = true) :
    (CodePoint.scalar c).digit? = some (digitValue c) := by
  have hrange : '0' ≤ c ∧ c ≤ '9' := by simpa [Char.isDigit, Char.le_def] using h
  exact if_pos hrange

theorem isDigit_of_mem_digitsOf (h : c ∈ digitsOf n) : c.isDigit = true :=
  Nat.isDigit_of_mem_toDigits (by decide) (by decide) h

/-- Digits are read as far as they go. -/
theorem spanDigits_prepend {cs : List Char} (hcs : ∀ c ∈ cs, c.isDigit = true) (ht : EndsValue t) :
    Text.spanDigits (prepend cs t) = (cs.map digitValue, t) := by
  induction cs with
  | nil => exact ht.spanDigits
  | cons c cs ih =>
    obtain ⟨hc, hcs⟩ := List.forall_mem_cons.mp hcs
    simp only [prepend, Text.spanDigits, digit?_of_isDigit hc, ih hcs, List.map_cons]

/-- Digits in the order in which they are written give back the number. -/
theorem natOfDigits_digitsOf (n : Nat) : natOfDigits ((digitsOf n).map digitValue) = n := by
  have hvalue : Nat.ofDigitChars 10 (digitsOf n) 0 = n := Nat.ofDigitChars_ten_toDigits
  rw [Nat.ofDigitChars_eq_foldl] at hvalue
  rw [natOfDigits, List.foldl_map]
  exact hvalue

/-- A positive integer is written without zeros in front. -/
theorem head_digitsOf (hn : 0 < n) :
    ∃ d ds, (digitsOf n).map digitValue = d :: ds ∧ d ≠ 0 := by
  induction n using Nat.strongRecOn with
  | ind n ih =>
    rcases Nat.lt_or_ge n 10 with hlt | hge
    · have hdigit : ∀ k : Fin 10, 0 < k.val → digitValue (Nat.digitChar k.val) ≠ 0 := by decide
      have hsingle : digitsOf n = [Nat.digitChar n] := Nat.toDigits_of_lt_base hlt
      exact ⟨_, [], by rw [hsingle]; rfl, hdigit ⟨n, hlt⟩ hn⟩
    · -- The digit in front is that of the number without its last digit.
      have hsplit : digitsOf n = digitsOf (n / 10) ++ [Nat.digitChar (n % 10)] :=
        Nat.toDigits_of_base_le (by decide) hge
      obtain ⟨d, ds, hds, hd⟩ := ih (n / 10) (by omega) (by omega)
      exact ⟨d, _, by rw [hsplit, List.map_append, hds, List.cons_append], hd⟩

theorem wholePart_digitsOf (n : Nat) (ht : EndsValue t) :
    wholePart (prepend (digitsOf n) t) = ((digitsOf n).map digitValue, t) := by
  rcases Nat.eq_zero_or_pos n with rfl | hn
  · have hspan : Text.spanDigits (prepend (digitsOf 0) t) = ([0], t) :=
      spanDigits_prepend (fun c hc => isDigit_of_mem_digitsOf hc) ht
    rw [wholePart, hspan]
    rfl
  · obtain ⟨d, ds, hds, hd⟩ := head_digitsOf hn
    have hspan := spanDigits_prepend (fun c hc => isDigit_of_mem_digitsOf (n := n) hc) ht
    rw [hds] at hspan
    rw [hds, wholePart, hspan]
    split
    · rename_i heq
      obtain ⟨rfl, -⟩ := List.cons.inj (Prod.mk.inj heq).1
      exact absurd rfl hd
    · rename_i heq
      exact heq.symm

theorem exists_digits (n : Nat) : ∃ c cs, digitsOf n = c :: cs ∧ c.isDigit = true := by
  cases h : digitsOf n with
  | nil => exact absurd h Nat.toDigits_ne_nil
  | cons c cs => exact ⟨c, cs, rfl, isDigit_of_mem_digitsOf (h ▸ List.mem_cons_self)⟩

/-- The digits of an integer are read back behind its sign. -/
theorem readUnsigned_digitsOf (negative : Bool) (start : Text)
    (hn : (digitsOf n).length ≤ maxIntegerDigits) (ht : EndsValue t) :
    Gives (readUnsigned negative start (prepend (digitsOf n) t))
      (.int (if negative then -Int.ofNat n else Int.ofNat n)) t := by
  have hwhole := wholePart_digitsOf n ht
  -- There are digits, and neither a fraction nor an exponent comes after them.
  unfold readUnsigned
  split
  · rename_i heq
    obtain ⟨c, cs, hcs, -⟩ := exists_digits n
    rw [hwhole, hcs] at heq
    cases heq
  · rename_i d ds afterWhole heq
    rw [hwhole] at heq
    obtain ⟨hds, rfl⟩ := Prod.mk.inj heq
    split
    rename_i fraction afterFraction hfraction
    rw [ht.fractionPart] at hfraction
    obtain ⟨rfl, rfl⟩ := Prod.mk.inj hfraction
    split
    · rename_i he
      rw [ht.spanExponent?] at he
      cases he
    · have hlength : ¬ maxIntegerDigits < (d :: ds).length := by
        rw [← hds, List.length_map]
        exact Nat.not_lt.mpr hn
      have hvalue : natOfDigits (d :: ds) = n := hds ▸ natOfDigits_digitsOf n
      extract_lets
      rw [if_pos (by rfl), if_neg hlength]
      simp only [Gives, Except.map, Reading.parts]
      rw [← hvalue]

theorem ne_of_isDigit {other : Char} (hc : c.isDigit = true) (hother : other.isDigit = false) :
    c ≠ other := by
  rintro rfl
  rw [hother] at hc
  cases hc

/-- No keyword begins like an integer. -/
theorem readKeyword?_of_isDigit (hc : c.isDigit = true) :
    readKeyword? (.scalar c :: t) = none ∧
    readKeyword? (.scalar '-' :: .scalar c :: t) = none := by
  have hn : c ≠ 'n' := ne_of_isDigit hc (by decide)
  have ht : c ≠ 't' := ne_of_isDigit hc (by decide)
  have hf : c ≠ 'f' := ne_of_isDigit hc (by decide)
  have hN : c ≠ 'N' := ne_of_isDigit hc (by decide)
  have hI : c ≠ 'I' := ne_of_isDigit hc (by decide)
  have hminus : c ≠ '-' := ne_of_isDigit hc (by decide)
  constructor <;> simp [readKeyword?, keywords, Text.ofString, hn.symm, ht.symm, hf.symm, hN.symm,
    hI.symm, hminus.symm]

theorem renderInt_ofNat (n : Nat) : renderInt (.ofNat n) = digitsOf n := by
  rw [renderInt, if_neg (by simp)]
  rfl

theorem renderInt_negSucc (n : Nat) : renderInt (.negSucc n) = '-' :: digitsOf (n + 1) := by
  rw [renderInt, if_pos (Int.negSucc_lt_zero n)]
  rfl

/-- An integer begins with a sign or a digit, and so it is no keyword. -/
theorem exists_renderInt (k : Int) :
    ∃ c cs, renderInt k = c :: cs ∧ (c = '-' ∨ c.isDigit = true) := by
  cases k with
  | ofNat n =>
    obtain ⟨c, cs, hcs, hc⟩ := exists_digits n
    exact ⟨c, cs, (renderInt_ofNat n).trans hcs, .inr hc⟩
  | negSucc n => exact ⟨'-', _, renderInt_negSucc n, .inl rfl⟩

/-- An integer is read back, and no keyword is read in its place. -/
theorem readNumber_renderInt {k : Int} (hk : (digitsOf k.natAbs).length ≤ maxIntegerDigits)
    (ht : EndsValue t) : Gives (readNumber (prepend (renderInt k) t)) (.int k) t := by
  cases k with
  | ofNat n =>
    obtain ⟨c, cs, hcs, hc⟩ := exists_digits n
    have hread := readUnsigned_digitsOf false (prepend (digitsOf n) t) hk ht
    rw [renderInt_ofNat, readNumber]
    · exact hread
    · intro rest hminus
      rw [hcs, prepend] at hminus
      cases hminus
      cases hc
  | negSucc n =>
    obtain ⟨shorter, hread⟩ := (readUnsigned_digitsOf (n := n + 1) true
      (.scalar '-' :: prepend (digitsOf (n + 1)) t) hk ht).eq_ok
    rw [renderInt_negSucc, prepend, readNumber, hread]
    rfl

theorem readKeyword?_renderInt (k : Int) : readKeyword? (prepend (renderInt k) t) = none := by
  cases k with
  | ofNat n =>
    obtain ⟨c, cs, hcs, hc⟩ := exists_digits n
    rw [renderInt_ofNat, hcs]
    exact (readKeyword?_of_isDigit hc).1
  | negSucc n =>
    obtain ⟨c, cs, hcs, hc⟩ := exists_digits (n + 1)
    rw [renderInt_negSucc, hcs]
    exact (readKeyword?_of_isDigit hc).2

end Easel.Json
