import Easel.Json.Bytes
import Easel.Proofs.Json.ReadBack

/-! What is written is ASCII, so that its bytes hold the value that was written. -/
namespace Easel

/-- The characters of ASCII but the first one, of which no text is made. -/
def isAsciiChar (c : Char) : Bool := 0 < c.toNat && c.toNat < 0x80

def Text.IsAscii (t : Text) : Prop := ∀ p ∈ t, p.satisfies isAsciiChar = true

/-- The bytes of an ASCII text. -/
def Text.asciiBytes (t : Text) : List UInt8 := t.map fun p => UInt8.ofNat p.value

namespace Text

variable {t : Text} {c : Char} {cs : List Char}

theorem IsAscii.cons (hc : isAsciiChar c = true) (ht : t.IsAscii) :
    IsAscii (.scalar c :: t) := List.forall_mem_cons.mpr ⟨hc, ht⟩

theorem IsAscii.prepend (hcs : ∀ c ∈ cs, isAsciiChar c = true) (ht : t.IsAscii) :
    (Json.prepend cs t).IsAscii := by
  induction cs with
  | nil => exact ht
  | cons c rest ih =>
    obtain ⟨hc, hrest⟩ := List.forall_mem_cons.mp hcs
    exact (ih hrest).cons hc

theorem toNat_ofNat_ascii (hc : isAsciiChar c = true) : (UInt8.ofNat c.toNat).toNat = c.toNat := by
  simp only [isAsciiChar, Bool.and_eq_true, decide_eq_true_eq] at hc
  rw [UInt8.toNat_ofNat']
  exact Nat.mod_eq_of_lt (by omega)

/-- A byte that stands for an ASCII character stands by itself. -/
theorem chunk_ascii (hc : isAsciiChar c = true) (rest : List UInt8) :
    Utf8.chunk (UInt8.ofNat c.toNat) rest = ⟨.ok c.toNat, 0⟩ := by
  have hlead : Utf8.lead? c.toNat = some (c.toNat, []) := by
    simp only [isAsciiChar, Bool.and_eq_true, decide_eq_true_eq] at hc
    rw [Utf8.lead?, if_pos hc.2]
  rw [Utf8.chunk, toNat_ofNat_ascii hc, hlead]
  rfl

theorem point_toNat (c : Char) : Utf8.point c.toNat = .scalar c := by
  have hvalid : c.toNat.isValidChar := c.valid
  rw [Utf8.point, CodePoint.ofNat?, dif_pos hvalid]
  rfl

/-- The strict decoder takes the characters one by one. -/
theorem decodeFrom_asciiBytes (ht : t.IsAscii) (place : Nat) :
    Utf8.decodeFrom true place t.asciiBytes = .ok t := by
  induction t generalizing place with
  | nil =>
    rw [asciiBytes, List.map_nil, Utf8.decodeFrom]
  | cons p rest ih =>
    obtain ⟨hp, hrest⟩ := List.forall_mem_cons.mp ht
    cases p with
    | surrogate => cases hp
    | scalar c =>
      rw [asciiBytes, List.map_cons, CodePoint.value, Utf8.decodeFrom]
      simp only [chunk_ascii hp, List.drop_zero, point_toNat]
      have htail := ih hrest (place + 0 + 1)
      rw [asciiBytes] at htail
      rw [htail]
      rfl

end Text

namespace Json

variable {room : Nat} {s t : Text} {v : Json} {c : Char}

/-- Bytes of an ASCII text are taken for UTF-8, whatever their number. -/
theorem decode_asciiBytes (ht : t.IsAscii) : decode t.asciiBytes = .ok t := by
  rw [decode_of_unmarked]
  · exact Text.decodeFrom_asciiBytes ht 0
  · intro b hb
    obtain ⟨p, hp, rfl⟩ := List.mem_map.mp hb
    have hascii := ht p hp
    cases p with
    | surrogate => cases hascii
    | scalar c =>
      have hvalue := Text.toNat_ofNat_ascii hascii
      simp only [CodePoint.satisfies, isAsciiChar, Bool.and_eq_true, decide_eq_true_eq] at hascii
      have hne : ∀ k : UInt8, k.toNat = 0 ∨ 0x80 ≤ k.toNat → UInt8.ofNat c.toNat ≠ k := by
        rintro k hk rfl
        omega
      exact ⟨hne 0 (by decide), hne 0xff (by decide), hne 0xfe (by decide), hne 0xef (by decide)⟩

theorem isAsciiChar_of_isDigit (hc : c.isDigit = true) : isAsciiChar c = true := by
  simp only [Char.isDigit, Bool.and_eq_true, decide_eq_true_eq, ge_iff_le,
    UInt32.le_iff_toNat_le] at hc
  simp only [isAsciiChar, Bool.and_eq_true, decide_eq_true_eq]
  have hlow : '0'.val.toNat = 48 := rfl
  have hhigh : '9'.val.toNat = 57 := rfl
  have hval : c.toNat = c.val.toNat := rfl
  omega

theorem isAsciiChar_hexDigit (n : Nat) : isAsciiChar (hexDigit n) = true := by
  have hall : ∀ k : Fin 16, isAsciiChar (hexDigit k.val) = true := by decide +kernel
  rw [← hexDigit_mod]
  exact hall ⟨n % 16, Nat.mod_lt n (by decide)⟩

theorem isAsciiChar_of_mem_hexDigits {width n : Nat} (hc : c ∈ hexDigits width n) :
    isAsciiChar c = true := by
  induction width generalizing n with
  | zero => cases hc
  | succ width ih =>
    rcases List.mem_append.mp hc with hc | hc
    · exact ih hc
    · rw [List.mem_singleton.mp hc]
      exact isAsciiChar_hexDigit n

theorem isAsciiChar_of_mem_unitEscape {n : Nat} (hc : c ∈ unitEscape n) : isAsciiChar c = true := by
  rcases List.mem_cons.mp hc with rfl | hc
  · rfl
  · rcases List.mem_cons.mp hc with rfl | hc
    · rfl
    · exact isAsciiChar_of_mem_hexDigits hc

/-- What is an escape behind a backslash is a letter or a sign. -/
theorem isAsciiChar_of_escaped? {l : Char} (h : escaped? l = some c) : isAsciiChar l = true := by
  unfold escaped? at h
  split at h <;> first | rfl | cases h

/-- Whatever a character of a string is, it is written in ASCII. -/
theorem isAsciiChar_of_mem_escape {p : CodePoint} (hc : c ∈ escape p) : isAsciiChar c = true := by
  cases p with
  | surrogate => exact isAsciiChar_of_mem_unitEscape hc
  | scalar d =>
    have h := escaped_escape d
    generalize escape (.scalar d) = cs at h hc
    cases h with
    | letter _ hl =>
      simp only [List.mem_cons, List.not_mem_nil, or_false] at hc
      rcases hc with rfl | rfl
      · rfl
      · exact isAsciiChar_of_escaped? hl
    | plain _ _ hprint =>
      rw [List.mem_singleton.mp hc, isAsciiChar, Bool.and_eq_true, decide_eq_true_eq,
        decide_eq_true_eq]
      omega
    | unit => exact isAsciiChar_of_mem_unitEscape hc
    | pair =>
      rcases List.mem_append.mp hc with hc | hc
      · exact isAsciiChar_of_mem_unitEscape hc
      · exact isAsciiChar_of_mem_unitEscape hc

/-- All characters of a string are escaped where this is needed. -/
theorem isAscii_writeBody (s : Text) (ht : t.IsAscii) : (writeBody s t).IsAscii := by
  induction s with
  | nil => exact ht.cons rfl
  | cons p rest ih => exact ih.prepend fun c hc => isAsciiChar_of_mem_escape hc

theorem isAscii_writeString (s : Text) (ht : t.IsAscii) : (writeString s t).IsAscii :=
  (isAscii_writeBody s ht).cons rfl

theorem isAsciiChar_of_mem_renderInt {k : Int} (hc : c ∈ renderInt k) : isAsciiChar c = true := by
  rcases List.mem_append.mp hc with hc | hc
  · split at hc
    · rw [List.mem_singleton.mp hc]
      rfl
    · cases hc
  · exact isAsciiChar_of_isDigit (isDigit_of_mem_digitsOf hc)

/-- Only brackets, commas and spaces come on top of what the items are written as. -/
theorem isAscii_writeItems {items : List Json}
    (hitems : ∀ v ∈ items, ∀ t : Text, t.IsAscii → (v.write t).IsAscii) (ht : t.IsAscii) :
    (writeItems items t).IsAscii := by
  induction items with
  | nil => exact ht
  | cons v rest ih =>
    obtain ⟨hv, hrest⟩ := List.forall_mem_cons.mp hitems
    cases rest with
    | nil => exact hv t ht
    | cons w rest => exact hv _ (((ih hrest).cons rfl).cons rfl)

theorem isAscii_writeFields {fields : Fields}
    (hfields : ∀ f ∈ fields, ∀ t : Text, t.IsAscii → (f.2.write t).IsAscii) (ht : t.IsAscii) :
    (writeFields fields t).IsAscii := by
  induction fields with
  | nil => exact ht
  | cons f rest ih =>
    obtain ⟨hf, hrest⟩ := List.forall_mem_cons.mp hfields
    have hfield : ∀ t : Text, t.IsAscii →
        (writeString f.1 (.scalar ':' :: .scalar ' ' :: f.2.write t)).IsAscii :=
      fun t ht => isAscii_writeString f.1 (((hf t ht).cons rfl).cons rfl)
    cases rest with
    | nil => exact hfield t ht
    | cons g rest => exact hfield _ (((ih hrest).cons rfl).cons rfl)

/-- By induction on the value: writers put ASCII before a text in ASCII. -/
theorem Plain.isAscii_write (hv : v.Plain) (ht : t.IsAscii) : (v.write t).IsAscii := by
  induction hv generalizing t with
  | null => exact ht.prepend (List.all_eq_true.mp rfl)
  | bool b => cases b <;> exact ht.prepend (List.all_eq_true.mp rfl)
  | int => exact ht.prepend fun c hc => isAsciiChar_of_mem_renderInt hc
  | string => exact isAscii_writeString _ ht
  | array _ ih => exact (isAscii_writeItems (fun v hv t ht => ih v hv ht) (ht.cons rfl)).cons rfl
  | object _ _ _ ih =>
    exact (isAscii_writeFields (fun f hf t ht => ih f hf ht) (ht.cons rfl)).cons rfl

/-- The bytes of a plain value's text hold this value. -/
theorem ofBytes_render (hv : v.Plain) (h : v.nesting ≤ room) :
    ofBytes room v.render.asciiBytes = .ok v := by
  have hascii : v.render.IsAscii := hv.isAscii_write (by simp [Text.IsAscii])
  have hbegins : Begins v.render := begins_write hv []
  have hparse : parse room v.render = .ok v := by
    rw [← hbegins.parseMarked]
    exact parseMarked_render hv h
  simp only [ofBytes, decode_asciiBytes hascii, hparse]

end Json

end Easel
