import Mathlib.Data.List.Basic
import Easel.Flowchart.Line

/-! Blanks are no word characters, trimming takes away exactly the blanks around a text, and a
text that is put together from lines falls apart into them again. -/
namespace Easel

namespace Ranges

variable {a b : Ranges} {n : Nat}

/-- No range of one table meets a range of the other. -/
def disjoint (a b : Ranges) : Bool := a.all fun r => b.all fun s => r.2 < s.1 || s.2 < r.1

/-- A table of ranges holds what lies in one of them. -/
theorem contains_iff : a.contains n = true ↔ ∃ r ∈ a, r.1 ≤ n ∧ n ≤ r.2 := by
  simp [contains]

/-- That two tables have nothing in common is decided by comparing their ranges. -/
theorem not_contains_of_disjoint (h : disjoint a b = true) (ha : a.contains n = true) :
    b.contains n = false := by
  obtain ⟨r, hr, hr₁, hr₂⟩ := contains_iff.mp ha
  refine Bool.eq_false_iff.mpr fun hb => ?_
  obtain ⟨s, hs, hs₁, hs₂⟩ := contains_iff.mp hb
  have hrs := List.all_eq_true.mp (List.all_eq_true.mp h r hr) s hs
  simp only [Bool.or_eq_true, decide_eq_true_eq] at hrs
  omega

end Ranges

/-- The blanks, as a table. -/
def blankRanges : Ranges := (0x1c, 0x1f) :: whiteSpaceRanges

/-- The word characters, as a table. -/
def wordRanges : Ranges := (0x5f, 0x5f) :: alphanumericRanges

theorem blankRanges_contains {c : Char} (h : isBlank c = true) :
    blankRanges.contains c.toNat = true := by
  simp only [isBlank, isWhiteSpace, Bool.or_eq_true, Bool.and_eq_true, decide_eq_true_eq] at h
  rw [Ranges.contains_iff]
  rcases h with h | h
  · obtain ⟨r, hr, hle⟩ := Ranges.contains_iff.mp h
    exact ⟨r, List.mem_cons_of_mem _ hr, hle⟩
  · exact ⟨_, List.mem_cons_self, h⟩

theorem wordRanges_contains {c : Char} (h : isWord c = true) :
    wordRanges.contains c.toNat = true := by
  rw [Ranges.contains_iff]
  simp only [isWord, isAlphanumeric, Bool.or_eq_true, beq_iff_eq] at h
  rcases h with h | rfl
  · split at h
    · have hforms : c.isAlphanum =
          ((decide (c.val ≥ 'A'.val ∧ c.val ≤ 'Z'.val) ||
            decide (c.val ≥ 'a'.val) && decide (c.val ≤ 'z'.val)) ||
              decide (c.val ≥ '0'.val) && decide (c.val ≤ '9'.val)) := rfl
      simp only [hforms, Bool.or_eq_true, Bool.and_eq_true, decide_eq_true_eq, ge_iff_le,
        UInt32.le_iff_toNat_le] at h
      rcases h with (⟨h₁, h₂⟩ | ⟨h₁, h₂⟩) | ⟨h₁, h₂⟩
      · exact ⟨(0x41, 0x5a), by decide, h₁, h₂⟩
      · exact ⟨(0x61, 0x7a), by decide, h₁, h₂⟩
      · exact ⟨(0x30, 0x39), by decide, h₁, h₂⟩
    · obtain ⟨r, hr, hle⟩ := Ranges.contains_iff.mp h
      exact ⟨r, List.mem_cons_of_mem _ hr, hle⟩
  · exact ⟨(0x5f, 0x5f), by decide, by decide⟩

theorem isBlank_of_isWord {c : Char} (h : isWord c = true) : isBlank c = false := by
  have hdisjoint : wordRanges.disjoint blankRanges = true := by decide +kernel
  have hblank := Ranges.not_contains_of_disjoint hdisjoint (wordRanges_contains h)
  refine Bool.eq_false_iff.mpr fun hb => ?_
  rw [blankRanges_contains hb] at hblank
  cases hblank

namespace CodePoint

variable {c : CodePoint}

/-- Blanks are skipped and trimmed. -/
abbrev isBlank (c : CodePoint) : Bool := c.satisfies Easel.isBlank

/-- Line breaks are blanks between two lines. -/
abbrev isLineBreak (c : CodePoint) : Bool := c.satisfies Easel.isLineBreak

/-- What breaks a line is blank. -/
theorem isBlank_of_isLineBreak (h : c.isLineBreak = true) : c.isBlank = true := by
  cases c with
  | scalar c => exact Easel.isBlank_of_isLineBreak h
  | surrogate => cases h

theorem isBlank_of_isWord (h : c.isWord = true) : c.isBlank = false := by
  cases c with
  | scalar c => exact Easel.isBlank_of_isWord h
  | surrogate => cases h

/-- A mark that is not blank is not among the blanks before it. -/
theorem ne_mark_of_isBlank {mark : Char} (hmark : Easel.isBlank mark = false)
    (hc : c.isBlank = true) : c ≠ .scalar mark := by
  rintro rfl
  rw [isBlank, satisfies, hmark] at hc
  cases hc

theorem isLineBreak_of_isWord (h : c.isWord = true) : c.isLineBreak = false := by
  refine Bool.eq_false_iff.mpr fun hc => ?_
  have hblank := isBlank_of_isLineBreak hc
  rw [isBlank_of_isWord h] at hblank
  cases hblank

end CodePoint

namespace Text

variable {a b t : Text}

/-- A text that neither begins nor ends with a blank. -/
structure Solid (t : Text) : Prop where
  ne : t ≠ []
  head : ∀ c ∈ t.head?, c.isBlank = false
  last : ∀ c ∈ t.getLast?, c.isBlank = false

theorem skipBlanks_of_head (h : ∀ c ∈ t.head?, c.isBlank = false) : t.skipBlanks = t := by
  cases t with
  | nil => rfl
  | cons c t => exact List.dropWhile_cons_of_neg (by simp [h c rfl])

/-- Blanks in front are skipped however many there are. -/
theorem skipBlanks_append (ha : ∀ c ∈ a, c.isBlank = true) :
    skipBlanks (a ++ t) = skipBlanks t :=
  List.dropWhile_append_of_pos ha

/-- Blanks behind are cut off, and nothing before them. -/
theorem trimEnd_append (ht : ∀ c ∈ t.getLast?, c.isBlank = false)
    (hb : ∀ c ∈ b, c.isBlank = true) : trimEnd (t ++ b) = t := by
  have hreverse : skipBlanks t.reverse = t.reverse :=
    skipBlanks_of_head (by simpa [List.head?_reverse] using ht)
  have hblank : ∀ c ∈ b.reverse, c.isBlank = true := by simpa using hb
  rw [trimEnd, trimRightBy, List.reverse_append]
  change (skipBlanks (b.reverse ++ t.reverse)).reverse = t
  rw [skipBlanks_append hblank, hreverse, List.reverse_reverse]

theorem Solid.head_append (ht : t.Solid) : ∀ c ∈ (t ++ b).head?, c.isBlank = false := by
  cases t with
  | nil => exact (ht.ne rfl).elim
  | cons c t => exact ht.head

/-- The blanks around a text are trimmed away. -/
theorem Solid.trim_eq (ht : t.Solid) (ha : ∀ c ∈ a, c.isBlank = true)
    (hb : ∀ c ∈ b, c.isBlank = true) : trim (a ++ (t ++ b)) = t := by
  change trimEnd (skipBlanks (a ++ (t ++ b))) = t
  rw [skipBlanks_append ha, skipBlanks_of_head ht.head_append, trimEnd_append ht.last hb]

theorem head_skipBlanks (t : Text) : ∀ c ∈ t.skipBlanks.head?, c.isBlank = false := by
  intro c hc
  have h := List.head?_dropWhile_not CodePoint.isBlank t
  rw [show (t.dropWhile CodePoint.isBlank).head? = some c from hc] at h
  exact h

theorem last_trimEnd (t : Text) : ∀ c ∈ t.trimEnd.getLast?, c.isBlank = false := by
  have h := head_skipBlanks t.reverse
  simpa [trimEnd, trimRightBy, skipBlanks] using h

theorem trimEnd_prefix (t : Text) : t.trimEnd <+: t := by
  have h := List.reverse_prefix.mpr (List.dropWhile_suffix (l := t.reverse) CodePoint.isBlank)
  rwa [List.reverse_reverse] at h

/-- What is cut off at the end is blank. -/
theorem exists_blanks (t : Text) : ∃ b, (∀ c ∈ b, c.isBlank = true) ∧ t = t.trimEnd ++ b := by
  refine ⟨(t.reverse.takeWhile CodePoint.isBlank).reverse, fun c hc => ?_, ?_⟩
  · exact List.all_eq_true.mp List.all_takeWhile c (List.mem_reverse.mp hc)
  · have h := congrArg List.reverse
      (List.takeWhile_append_dropWhile (p := CodePoint.isBlank) (l := t.reverse))
    rw [List.reverse_append, List.reverse_reverse] at h
    exact h.symm

/-- Of what follows a text, only blanks at the end are trimmed away. -/
theorem Solid.trim_append (ht : t.Solid) (ha : ∀ c ∈ a, c.isBlank = true) (b : Text) :
    trim (a ++ (t ++ b)) = t ++ b.trimEnd := by
  obtain ⟨blanks, hblanks, hb⟩ := exists_blanks b
  have hsolid : (t ++ b.trimEnd).Solid := by
    refine ⟨by simp [ht.ne], ht.head_append, fun c hc => ?_⟩
    rcases List.eq_nil_or_concat b.trimEnd with hnil | ⟨init, last, hlast⟩
    · rw [hnil, List.append_nil] at hc
      exact ht.last c hc
    · refine last_trimEnd b c ?_
      rw [hlast, List.concat_eq_append, ← List.append_assoc, List.getLast?_concat] at hc
      rwa [hlast, List.concat_eq_append, List.getLast?_concat]
  have hsplit : a ++ (t ++ b) = a ++ ((t ++ b.trimEnd) ++ blanks) := by
    rw [List.append_assoc, ← hb]
  rw [hsplit, hsolid.trim_eq ha hblanks]

/-- A text that is trimmed and not empty begins and ends with something. -/
theorem solid_trim (hne : t.trim ≠ []) : t.trim.Solid := by
  refine ⟨hne, ?_, last_trimEnd t.skipBlanks⟩
  obtain ⟨b, hb⟩ := trimEnd_prefix t.skipBlanks
  have hhead := head_skipBlanks t
  rw [← hb] at hhead
  obtain ⟨c, more, htrim⟩ := List.exists_cons_of_ne_nil hne
  rw [show t.skipBlanks.trimEnd = c :: more from htrim] at hhead
  rw [htrim]
  exact hhead

theorem Solid.of_trim_eq (hne : t ≠ []) (ht : t.trim = t) : t.Solid := by
  rw [← ht] at hne
  have hsolid := solid_trim hne
  rwa [ht] at hsolid

/-- Trimming twice is trimming once. -/
theorem trim_trim (t : Text) : t.trim.trim = t.trim := by
  by_cases hne : t.trim = []
  · rw [hne]
    rfl
  · have hblank : ∀ c ∈ ([] : Text), c.isBlank = true := by
      rintro c ⟨⟩
    simpa using (solid_trim hne).trim_eq hblank hblank

/-- No line ends in the text. -/
def Unbroken (t : Text) : Prop := ∀ c ∈ t, c.isLineBreak = false

instance (t : Text) : Decidable t.Unbroken :=
  inferInstanceAs (Decidable (∀ c ∈ t, c.isLineBreak = false))

/-- A text has no line break in it exactly if neither of its parts has one. -/
theorem unbroken_append : (a ++ b).Unbroken ↔ a.Unbroken ∧ b.Unbroken := by
  simp [Unbroken, or_imp, forall_and]

theorem unbroken_cons {c : CodePoint} : Unbroken (c :: t) ↔ c.isLineBreak = false ∧ Unbroken t := by
  simp [Unbroken]

theorem unbroken_flatMap {α : Type} {f : α → Text} {xs : List α} (h : ∀ x ∈ xs, (f x).Unbroken) :
    Unbroken (xs.flatMap f) := by
  intro c hc
  obtain ⟨x, hx, hcx⟩ := List.mem_flatMap.mp hc
  exact h x hx c hcx

theorem unbroken_replicate {c : CodePoint} (hc : c.isLineBreak = false) (n : Nat) :
    Unbroken (List.replicate n c) := by
  intro d hd
  rwa [List.eq_of_mem_replicate hd]

/-- What ends a line: a line break, or a carriage return and a line feed. -/
def IsBreak (b : Text) : Prop :=
  b = [.scalar '\r', .scalar '\n'] ∨ ∃ c : CodePoint, c.isLineBreak = true ∧ b = [c]

/-- A character that breaks no line belongs to the first line. -/
theorem lines_cons_unbroken {c : CodePoint} (hc : c.isLineBreak = false) (t : Text) :
    lines (c :: t) = match lines t with
      | [] => [[c]]
      | line :: more => (c :: line) :: more := by
  rw [lines]
  · refine (if_neg (by simp [hc])).trans ?_
    cases lines t <;> rfl
  · rintro rest rfl
    cases hc

/-- A break in front of a text is an empty line, unless a line feed follows that belongs to it. -/
theorem lines_break_append {b : Text} (hb : IsBreak b) (ht : t.head? ≠ some (.scalar '\n')) :
    lines (b ++ t) = [] :: lines t := by
  rcases hb with rfl | ⟨c, hc, rfl⟩
  · rfl
  · rw [List.singleton_append, lines, if_pos hc]
    rintro rest rfl rfl
    exact ht rfl

theorem lines_append_of_nil {line : Text} (hline : Unbroken line) {more : List Text}
    (ht : lines t = [] :: more) : lines (line ++ t) = line :: more := by
  induction line with
  | nil => exact ht
  | cons c line ih =>
    rw [List.cons_append, lines_cons_unbroken (hline c List.mem_cons_self),
      ih fun d hd => hline d (List.mem_cons_of_mem _ hd)]

/-- A line that ends with a break is one line, and the others are those of the rest. -/
theorem lines_append_break {b line : Text} (hline : Unbroken line) (hb : IsBreak b)
    (ht : t.head? ≠ some (.scalar '\n')) : lines (line ++ (b ++ t)) = line :: lines t :=
  lines_append_of_nil hline (lines_break_append hb ht)

/-- What follows a line break starts on a line of its own, but for an empty line, which is lost
where a line feed follows a carriage return. -/
theorem exists_lines_break {b : Text} (hb : IsBreak b) (t : Text) :
    ∃ more, lines (b ++ t) = [] :: more ∧ (more = lines t ∨ lines t = [] :: more) := by
  by_cases ht : t.head? = some (.scalar '\n')
  · rcases hb with rfl | ⟨c, hc, rfl⟩
    · exact ⟨lines t, rfl, .inl rfl⟩
    · cases t with
      | nil => cases ht
      | cons d t =>
        obtain rfl := Option.some.inj ht
        by_cases hreturn : c = .scalar '\r'
        · subst hreturn
          exact ⟨lines t, rfl, .inr rfl⟩
        · refine ⟨lines (.scalar '\n' :: t), ?_, .inl rfl⟩
          rw [List.singleton_append, lines, if_pos hc]
          rintro rest rfl
          exact (hreturn rfl).elim
  · exact ⟨lines t, lines_break_append hb ht, .inl rfl⟩

theorem lines_of_unbroken {line : Text} (hline : Unbroken line) (hne : line ≠ []) :
    lines line = [line] := by
  induction line with
  | nil => exact (hne rfl).elim
  | cons c line ih =>
    rw [lines_cons_unbroken (hline c List.mem_cons_self)]
    cases line with
    | nil => rfl
    | cons d line =>
      rw [ih (fun e he => hline e (List.mem_cons_of_mem _ he)) (List.cons_ne_nil d line)]

/-- Lines with line breaks between them are read one by one, also if a line break ends the last. -/
theorem lines_joined {first final : Text} {more : List (Text × Text)}
    (hfirst : Unbroken first ∧ first ≠ [])
    (hmore : ∀ p ∈ more, IsBreak p.1 ∧ Unbroken p.2 ∧ p.2 ≠ [])
    (hfinal : final = [] ∨ IsBreak final) :
    lines (first ++ ((more.flatMap fun p => p.1 ++ p.2) ++ final)) = first :: more.map (·.2) := by
  induction more generalizing first with
  | nil =>
    rcases hfinal with rfl | hfinal
    · simpa using lines_of_unbroken hfirst.1 hfirst.2
    · simpa [lines] using lines_append_break (t := []) hfirst.1 hfinal (by simp)
  | cons p more ih =>
    obtain ⟨hbreak, hline, hne⟩ := hmore p List.mem_cons_self
    have hnext := ih ⟨hline, hne⟩ fun q hq => hmore q (List.mem_cons_of_mem _ hq)
    have hhead : (p.2 ++ ((more.flatMap fun p => p.1 ++ p.2) ++ final)).head? ≠
        some (.scalar '\n') := by
      intro hhead
      cases hp : p.2 with
      | nil => exact hne hp
      | cons c line =>
        simp only [hp, List.cons_append, List.head?_cons, Option.some.injEq] at hhead
        have hc := hline c (by simp [hp])
        rw [hhead] at hc
        cases hc
    rw [List.flatMap_cons, List.append_assoc, List.append_assoc,
      lines_append_break hfirst.1 hbreak hhead, hnext, List.map_cons]

end Text

end Easel
