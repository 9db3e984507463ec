import Mathlib.Data.List.Infix
import Easel.Json.Bytes

/-! Where the reader gives up on a text that breaks no rule: at an integer of too many digits, or
inside too many containers. Only a text that has these in it comes to this. -/
namespace Easel.Json

variable {s t : Text}

def isOpening (c : CodePoint) : Bool := c = CodePoint.scalar '[' || c = CodePoint.scalar '\x7b'

/-- A text has this many digits in a row. -/
def HasDigits (s : Text) (n : Nat) : Prop :=
  ∃ ds : Text, ds <:+: s ∧ ds.length = n ∧ ∀ c ∈ ds, c.digit?.isSome = true

theorem HasDigits.of_suffix {n : Nat} (h : HasDigits t n) (hts : t <:+ s) : HasDigits s n := by
  obtain ⟨ds, hds, hlength, hdigits⟩ := h
  exact ⟨ds, hds.trans hts.isInfix, hlength, hdigits⟩

/-- What the text has in it where reading it stops; `room` tells how many containers may be gone
down. -/
def Stop.MetIn (room : Nat) (s : Text) : Stop → Prop
  | .fault _ _ => True
  | .longInteger n => maxIntegerDigits < n ∧ HasDigits s n
  | .tooDeep _ => room < s.countP isOpening

theorem Stop.MetIn.of_suffix {room : Nat} {e : Stop} (h : e.MetIn room t) (hts : t <:+ s) :
    e.MetIn room s := by
  cases e with
  | fault => trivial
  | longInteger => exact ⟨h.1, h.2.of_suffix hts⟩
  | tooDeep => exact Nat.lt_of_lt_of_le h (hts.sublist.countP_le)

/-- A bracket that opens a container makes up for the room that it takes. -/
theorem Stop.MetIn.of_opening {room : Nat} {e : Stop} {c : CodePoint} {rest : Text}
    (h : e.MetIn room rest) (hc : isOpening c = true) : e.MetIn (room + 1) (c :: rest) := by
  cases e with
  | fault => trivial
  | longInteger => exact ⟨h.1, h.2.of_suffix (List.suffix_cons c rest)⟩
  | tooDeep =>
    have hcount : room < rest.countP isOpening := h
    simp only [MetIn, List.countP_cons, hc, if_pos]
    omega

/-- A reader leaves the end of the text, or has met what stops it. -/
def Leaves (room : Nat) (s : Text) : Except Stop Text → Prop
  | .ok rest => rest <:+ s
  | .error e => e.MetIn room s

/-- What a reader does to the end of a text can be said of the text. -/
theorem Leaves.of_suffix {room : Nat} {x : Except Stop Text} (h : Leaves room t x)
    (hts : t <:+ s) : Leaves room s x := by
  cases x with
  | ok rest => exact List.IsSuffix.trans h hts
  | error e => exact Stop.MetIn.of_suffix h hts

theorem skipGaps_suffix (s : Text) : skipGaps s <:+ s := List.dropWhile_suffix isGap

/-- The digits that are read stand at the beginning of the text. -/
theorem spanDigits_eq (s : Text) :
    ∃ ds : Text, s = ds ++ (Text.spanDigits s).2 ∧ ds.length = (Text.spanDigits s).1.length ∧
      ∀ c ∈ ds, c.digit?.isSome = true := by
  induction s with
  | nil => exact ⟨[], rfl, rfl, by simp⟩
  | cons c s ih =>
    cases hc : c.digit? with
    | none =>
      refine ⟨[], ?_, ?_, by simp⟩ <;> simp [Text.spanDigits, hc]
    | some d =>
      obtain ⟨ds, hs, hlength, hdigits⟩ := ih
      refine ⟨c :: ds, ?_, ?_, ?_⟩
      · simpa [Text.spanDigits, hc] using hs
      · simp [Text.spanDigits, hc, hlength]
      · exact List.forall_mem_cons.mpr ⟨by simp [hc], hdigits⟩

theorem spanDigits_suffix (s : Text) : (Text.spanDigits s).2 <:+ s := by
  obtain ⟨ds, hs, -⟩ := spanDigits_eq s
  exact ⟨ds, hs.symm⟩

/-- So a text has as many digits in a row as are read from it. -/
theorem hasDigits_spanDigits (s : Text) : HasDigits s (Text.spanDigits s).1.length := by
  obtain ⟨ds, hs, hlength, hdigits⟩ := spanDigits_eq s
  exact ⟨ds, ⟨[], (Text.spanDigits s).2, hs.symm⟩, hlength, hdigits⟩

theorem spanSign_suffix (s : Text) : (Text.spanSign s).2 <:+ s := by
  unfold Text.spanSign
  split
  · exact List.suffix_cons _ _
  · exact List.suffix_cons _ _
  · exact List.suffix_rfl

theorem spanExponent?_suffix {e : Int} (h : Text.spanExponent? s = some (e, t)) : t <:+ s := by
  have hdigits : ∀ rest, (Text.spanDigits (Text.spanSign rest).2).2 <:+ rest := fun rest =>
    (spanDigits_suffix (Text.spanSign rest).2).trans (spanSign_suffix rest)
  unfold Text.spanExponent? at h
  split at h
  case h_3 => cases h
  all_goals
    rename_i rest
    have hsuffix := hdigits rest
    simp only at h
    split at h
    · cases h
    · rename_i heq
      rw [heq] at hsuffix
      cases h
      exact hsuffix.trans (List.suffix_cons _ rest)

theorem wholePart_suffix (s : Text) : (wholePart s).2 <:+ s := by
  unfold wholePart
  split
  · exact List.tail_suffix s
  · rename_i heq
    have hsuffix := spanDigits_suffix s
    rwa [heq] at hsuffix

/-- Only digits that are all taken can be too many. -/
theorem hasDigits_wholePart (h : 1 < (wholePart s).1.length) :
    HasDigits s (wholePart s).1.length := by
  unfold wholePart at h ⊢
  split
  · rename_i heq
    simp [heq] at h
  · rename_i heq
    have hdigits := hasDigits_spanDigits s
    rwa [heq] at hdigits

theorem fractionPart_suffix (s : Text) : (fractionPart s).2 <:+ s := by
  unfold fractionPart
  split
  · rename_i rest
    have hsuffix := (spanDigits_suffix rest).trans (List.suffix_cons (.scalar '.') rest)
    split
    · exact List.suffix_rfl
    · rename_i heq
      rwa [heq] at hsuffix
  · exact List.suffix_rfl

/-- A number stops the reader only by having too many digits. -/
theorem leaves_readUnsigned (room : Nat) (negative : Bool) (start s : Text) :
    Leaves room s ((readUnsigned negative start s).map (·.rest)) := by
  unfold readUnsigned
  split
  · trivial
  · rename_i d ds afterWhole hwhole
    have hw := wholePart_suffix s
    rw [hwhole] at hw
    split
    rename_i fraction afterFraction hfraction
    have hf := fractionPart_suffix afterWhole
    rw [hfraction] at hf
    split
    · rename_i e rest he
      exact ((spanExponent?_suffix he).trans hf).trans hw
    · split
      · split
        · rename_i hlong
          have hdigits := hasDigits_wholePart (s := s)
          rw [hwhole] at hdigits
          exact ⟨hlong, hdigits (Nat.lt_trans (by decide) hlong)⟩
        · exact hw
      · exact hf.trans hw

/-- A sign changes nothing about that. -/
theorem leaves_readNumber (room : Nat) (s : Text) :
    Leaves room s ((readNumber s).map (·.rest)) := by
  unfold readNumber
  split
  · rename_i rest
    have hrest := leaves_readUnsigned room true (.scalar '-' :: rest) rest
    cases hr : readUnsigned true (.scalar '-' :: rest) rest with
    | error e =>
      rw [hr] at hrest
      exact hrest.of_suffix (List.suffix_cons _ _)
    | ok r =>
      rw [hr] at hrest
      exact hrest.of_suffix (List.suffix_cons _ _)
  · exact leaves_readUnsigned room false s s

theorem readKeyword?_suffix {r : Reading Json s} (h : readKeyword? s = some r) : r.rest <:+ s := by
  obtain ⟨k, -, hk⟩ := List.exists_of_findSome?_eq_some h
  extract_lets word at hk
  split at hk
  · cases hk
    exact List.drop_suffix _ s
  · cases hk

theorem hex4?_suffix {n : Nat} (h : hex4? s = some (n, t)) : t <:+ s := by
  unfold hex4? at h
  split at h
  · simp only [Option.pure_def, Option.bind_eq_bind, Option.bind_eq_some_iff,
      Option.some.injEq, Prod.mk.injEq] at h
    obtain ⟨_, _, _, _, _, _, _, _, _, rfl⟩ := h
    exact ⟨[_, _, _, _], rfl⟩
  · cases h

def Piece.rest : Piece s → Text
  | .close rest _ | .point _ rest _ => rest

/-- Escapes have no limit, and so a reader stops at one only because it is malformed. -/
theorem leaves_unicodeEscape (room : Nat) (s : Text) :
    Leaves room (.scalar 'u' :: s) ((unicodeEscape s).map Piece.rest) := by
  unfold unicodeEscape
  extract_lets bad
  split
  · trivial
  · rename_i high rest hhigh
    have hrest := (hex4?_suffix hhigh).trans (List.suffix_cons (.scalar 'u') s)
    extract_lets len alone
    have halone : Leaves room (.scalar 'u' :: s) (alone.map Piece.rest) := hrest
    split
    · trivial
    · split
      · split
        · split
          · exact halone
          · split
            · trivial
            · rename_i low last hlow
              extract_lets len'
              split
              · have hlast := (hex4?_suffix hlow).trans (List.suffix_cons (CodePoint.scalar 'u') _)
                exact (hlast.trans (List.suffix_cons (CodePoint.scalar '\\') _)).trans hrest
              · exact halone
        · exact halone
      · exact halone

theorem leaves_piece (room : Nat) (body s : Text) :
    Leaves room s ((piece body s).map Piece.rest) := by
  unfold piece
  split
  · trivial
  · exact List.suffix_cons _ _
  · trivial
  · rename_i rest
    have hescape := (leaves_unicodeEscape room rest).of_suffix (List.suffix_cons (.scalar '\\') _)
    cases hp : unicodeEscape rest with
    | error e =>
      rw [hp] at hescape
      exact hescape
    | ok p =>
      rw [hp] at hescape
      cases p <;> exact hescape
  · split
    · exact (List.suffix_cons _ _).trans (List.suffix_cons _ _)
    · trivial
  · split
    · trivial
    · exact List.suffix_cons _ _

theorem suffix_of_piece {body : Text} {p : Piece s} (h : piece body s = .ok p) : p.rest <:+ s := by
  have hpiece := leaves_piece 0 body s
  rwa [h] at hpiece

/-- By the recursion of the reader, piece by piece. -/
theorem leaves_readString (room : Nat) (body s : Text) :
    Leaves room s ((readString body s).map (·.rest)) := by
  fun_induction readString body s with
  | case1 s e hp =>
    have hpiece := leaves_piece room body s
    rwa [hp] at hpiece
  | case2 s rest h hp => exact suffix_of_piece hp
  | case3 s p rest h hp e hr ih =>
    rw [hr] at ih
    exact ih.of_suffix (suffix_of_piece hp)
  | case4 s p rest h hp r hr ih =>
    rw [hr] at ih
    exact ih.of_suffix (suffix_of_piece hp)

/-- An opening bracket takes up room for one container. -/
theorem Leaves.of_opening {room : Nat} {c : CodePoint} {rest : Text} {x : Except Stop Text}
    (h : Leaves room t x) (hrest : t <:+ rest) (hc : isOpening c = true) :
    Leaves (room + 1) (c :: rest) x := by
  cases x with
  | ok after => exact (List.IsSuffix.trans h hrest).trans (List.suffix_cons c rest)
  | error e => exact (Stop.MetIn.of_suffix h hrest).of_opening hc

/-- Where there is no room left, one more opening bracket is one too many. -/
theorem leaves_tooDeep {c : CodePoint} (hc : isOpening c = true) (innermost : Container)
    (rest : Text) : Leaves 0 (c :: rest) (.error (.tooDeep innermost)) := by
  simp only [Leaves, Stop.MetIn, List.countP_cons, hc, if_pos]
  omega

/-- What stands behind a bracket or comma is shorter, which is what the recursion is on. -/
theorem length_after_gaps {c : CodePoint} {after : Text} (h : skipGaps t = c :: after) :
    (skipGaps after).length < t.length := by
  have ht := length_skipGaps_le t
  have hafter := length_skipGaps_le after
  rw [h, List.length_cons] at ht
  omega

theorem suffix_after_gaps {c : CodePoint} {after : Text} (h : skipGaps t = c :: after)
    (hts : t <:+ s) : after <:+ s := by
  have hafter : after <:+ t := (List.suffix_cons c after).trans (h ▸ skipGaps_suffix t)
  exact hafter.trans hts

mutual

/-- By the recursion of the three readers, which goes down once for each opening bracket. -/
theorem leaves_readValue (room : Nat) (s : Text) :
    Leaves room s ((readValue room s).map (·.rest)) := by
  unfold readValue
  split
  · trivial
  · rename_i rest
    have hstring := (leaves_readString room rest rest).of_suffix
      (List.suffix_cons (.scalar '"') rest)
    split <;> rename_i hr <;> rw [hr] at hstring <;> exact hstring
  · rename_i rest
    split
    · exact leaves_tooDeep rfl _ rest
    · rename_i room
      split
      · rename_i after h
        exact suffix_after_gaps h (List.suffix_cons _ rest)
      · have hless := length_skipGaps_le rest
        have hitems := (leaves_readItems room (skipGaps rest)).of_opening (skipGaps_suffix rest)
          (c := .scalar '[') rfl
        extract_lets
        split <;> rename_i hr <;> rw [hr] at hitems <;> exact hitems
  · rename_i rest
    split
    · exact leaves_tooDeep rfl _ rest
    · rename_i room
      split
      · rename_i after h
        exact suffix_after_gaps h (List.suffix_cons _ rest)
      · have hless := length_skipGaps_le rest
        have hfields := (leaves_readFields room (skipGaps rest)).of_opening (skipGaps_suffix rest)
          (c := .scalar '\x7b') rfl
        extract_lets
        split <;> rename_i hr <;> rw [hr] at hfields <;> exact hfields
  · split
    · rename_i hr
      exact readKeyword?_suffix hr
    · exact leaves_readNumber room _
termination_by 2 * s.length
decreasing_by
  all_goals
    subst_vars
    simp only [List.length_cons]
    omega

theorem leaves_readItems (room : Nat) (s : Text) :
    Leaves room s ((readItems room s).map (·.rest)) := by
  have hvalue := leaves_readValue room s
  unfold readItems
  split
  · rename_i hr
    rw [hr] at hvalue
    exact hvalue
  · rename_i v rest hv hr
    rw [hr] at hvalue
    extract_lets
    split
    · rename_i after h
      exact suffix_after_gaps h hvalue
    · rename_i after h
      have hafter : after <:+ s := suffix_after_gaps h hvalue
      have hless := length_after_gaps h
      have hitems := (leaves_readItems room (skipGaps after)).of_suffix
        ((skipGaps_suffix after).trans hafter)
      extract_lets
      split <;> rename_i hr <;> rw [hr] at hitems <;> exact hitems
    · trivial
termination_by 2 * s.length + 1
decreasing_by
  · omega
  · omega

theorem leaves_readFields (room : Nat) (s : Text) :
    Leaves room s ((readFields room s).map (·.rest)) := by
  unfold readFields
  split
  · rename_i rest
    have hstring := (leaves_readString room rest rest).of_suffix
      (List.suffix_cons (.scalar '"') rest)
    split
    · rename_i hr
      rw [hr] at hstring
      exact hstring
    · rename_i key afterKey hk hr
      rw [hr] at hstring
      extract_lets
      split
      · rename_i afterColon hcolon
        have hafterColon : afterColon <:+ .scalar '"' :: rest :=
          suffix_after_gaps hcolon hstring
        have hshort := length_after_gaps hcolon
        have hvalue := (leaves_readValue room (skipGaps afterColon)).of_suffix
          ((skipGaps_suffix afterColon).trans hafterColon)
        extract_lets
        split
        · rename_i hr
          rw [hr] at hvalue
          exact hvalue
        · rename_i v afterValue hv hr
          rw [hr] at hvalue
          extract_lets
          split
          · rename_i after h
            exact suffix_after_gaps h hvalue
          · rename_i after h
            have hafter : after <:+ .scalar '"' :: rest :=
              suffix_after_gaps h hvalue
            have hless := length_after_gaps h
            have hfields := (leaves_readFields room (skipGaps after)).of_suffix
              ((skipGaps_suffix after).trans hafter)
            extract_lets
            split <;> rename_i hr <;> rw [hr] at hfields <;> exact hfields
          · trivial
      · trivial
  · trivial
termination_by 2 * s.length + 1
decreasing_by
  all_goals
    subst_vars
    simp only [List.length_cons]
    omega

end

/-- What a text has in it that can be beyond the limits of the reader. -/
def BeyondLimits (room : Nat) (s : Text) : Prop :=
  (∃ n, maxIntegerDigits < n ∧ HasDigits s n) ∨ room < s.countP isOpening

/-- Reading bytes ends at a limit of the reader, before any rule is broken. -/
def MeetsLimit (room : Nat) (bytes : List UInt8) : Prop :=
  ∃ t e, decode bytes = .ok t ∧ parse room t = .error e ∧ e.isMalformed = false

/-- A text that cannot be read has something in it that says why. -/
theorem metIn_of_parse {room : Nat} {e : ReadError} (h : parse room s = .error e) :
    ∃ stop : Stop, stop.toError s = e ∧ stop.MetIn room s := by
  have hvalue := (leaves_readValue room (skipGaps s)).of_suffix (skipGaps_suffix s)
  unfold parse at h
  split at h
  · rename_i stop hr
    rw [hr] at hvalue
    exact ⟨stop, Except.error.inj h, hvalue⟩
  · split at h
    · cases h
    · exact ⟨_, Except.error.inj h, trivial⟩

/-- A text that is not malformed is refused only for what goes beyond a limit. -/
theorem beyondLimits_of_parse {room : Nat} {e : ReadError} (h : parse room s = .error e)
    (he : e.isMalformed = false) : BeyondLimits room s := by
  obtain ⟨stop, rfl, hmet⟩ := metIn_of_parse h
  cases stop with
  | fault => cases he
  | longInteger n => exact .inl ⟨n, hmet⟩
  | tooDeep => exact .inr hmet

/-- A text that goes down too far has more brackets in it than can be gone down. -/
theorem lt_countP_of_parseMarked {room : Nat} {innermost : Container}
    (h : parseMarked room s = .error (.tooDeep innermost)) : room < s.countP isOpening := by
  unfold parseMarked at h
  split at h
  · cases h
  · obtain ⟨stop, hstop, hmet⟩ := metIn_of_parse h
    cases stop with
    | fault => cases hstop
    | longInteger => cases hstop
    | tooDeep => exact hmet

/-- A text within the limits can be read, or breaks a rule. -/
theorem beyondLimits_of_meetsLimit {room : Nat} {bytes : List UInt8} (h : MeetsLimit room bytes) :
    ∃ t, decode bytes = .ok t ∧ BeyondLimits room t := by
  obtain ⟨t, e, hdecode, hparse, he⟩ := h
  exact ⟨t, hdecode, beyondLimits_of_parse hparse he⟩

end Easel.Json
