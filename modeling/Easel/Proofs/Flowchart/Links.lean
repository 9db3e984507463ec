import Easel.Proofs.Flowchart.Grammar
import Easel.Proofs.Flowchart.WellFormed
import Mathlib.Data.List.Basic

/-! Every node and every connector of the grammar is read as what it is, whatever may follow it. -/
namespace Easel

section Runs

variable {α : Type} {p : α → Bool} {a t : List α}

/-- A run of characters is read up to the first one that is not of its sort. -/
theorem takeWhile_append_of_stop (ha : ∀ c ∈ a, p c = true) (ht : ∀ c ∈ t.head?, p c = false) :
    (a ++ t).takeWhile p = a := by
  rw [List.takeWhile_append_of_pos ha]
  cases t with
  | nil => simp
  | cons c t => simp [ht c rfl]

theorem dropWhile_append_of_stop (ha : ∀ c ∈ a, p c = true) (ht : ∀ c ∈ t.head?, p c = false) :
    (a ++ t).dropWhile p = t := by
  rw [List.dropWhile_append_of_pos ha]
  cases t with
  | nil => rfl
  | cons c t => simp [ht c rfl]

end Runs

namespace Grammar

variable {t rest : Text}

/-- The closing quote is looked for in what follows the opening one. -/
theorem quoted_iff (c : CodePoint) (rest : Text) :
    (2 ≤ (c :: rest).length ∧ (c :: rest).head? = some (.scalar '"') ∧
      (c :: rest).getLast? = some (.scalar '"')) ↔
    c = .scalar '"' ∧ rest.getLast? = some (.scalar '"') := by
  cases rest with
  | nil => simp
  | cons d rest => simp [List.getLast?_cons_cons]

theorem cleanLabel?_eq_shown? (t : Text) : t.cleanLabel? = shown? t := by
  unfold Text.cleanLabel? shown?
  simp only [List.isEmpty_iff]
  cases t.trim with
  | nil => simp
  | cons c rest =>
    simp only [quoted_iff, List.drop_one, List.tail_cons]
    split
    · rename_i heq
      obtain ⟨rfl, rfl⟩ := List.cons.inj heq
      simp only [true_and]
    · rename_i hne
      have hc : c ≠ .scalar '"' := fun hc => hne rest (by rw [hc])
      simp only [hc, false_and, if_false]

/-- What may follow a node: no word character and no opening bracket. -/
def Stops (t : Text) : Prop :=
  ∀ c ∈ t.head?, c.isWord = false ∧ ∀ kind, c ≠ .scalar (opening kind)

/-- A text up to a mark is read up to the mark. -/
theorem before?_append {mark : Char} (ht : .scalar mark ∉ t) :
    Text.before? mark (t ++ .scalar mark :: rest) = some (t, rest) := by
  induction t with
  | nil => simp [Text.before?]
  | cons c t ih =>
    rw [List.mem_cons, not_or] at ht
    rw [List.cons_append, Text.before?, if_neg (Ne.symm ht.1), ih ht.2]
    rfl

theorem bracketOf?_opening (kind : ContainerKind) :
    bracketOf? (opening kind) = some (closing kind, kind) := by
  cases kind <;> rfl

/-- A label in the brackets of a kind of shape. -/
def bracketed (kind : ContainerKind) (label : Text) : Text :=
  .scalar (opening kind) :: label ++ [.scalar (closing kind)]

/-- A bracket is read up to where it closes. -/
theorem bracket?_bracketed {kind : ContainerKind} {label : Text}
    (hlabel : .scalar (closing kind) ∉ label) (rest : Text) :
    bracket? (bracketed kind label ++ rest) = some ((kind, label), rest) := by
  have hbefore : Text.before? (closing kind) (label ++ .scalar (closing kind) :: rest) =
      some (label, rest) := before?_append hlabel
  rw [bracketed, List.append_assoc, List.cons_append, bracket?, bracketOf?_opening]
  simpa using hbefore

theorem bracket?_of_stops (ht : Stops t) : bracket? t = none := by
  unfold bracket?
  split
  · rename_i c rest
    have hc := (ht (.scalar c) rfl).2
    have hnone : bracketOf? c = none := by
      unfold bracketOf?
      split
      · exact (hc .rectangle rfl).elim
      · exact (hc .ellipse rfl).elim
      · exact (hc .diamond rfl).elim
      · rfl
    rw [hnone]
    rfl
  · rfl

section Names

variable {name label : Text}

/-- A name without a bracket is read as far as it goes. -/
theorem mention?_of_stops (hne : name ≠ []) (hword : ∀ c ∈ name, c.isWord = true)
    (hrest : Stops rest) : mention? (name ++ rest) = some (⟨name, none⟩, rest) := by
  have hend : ∀ c ∈ rest.head?, c.isWord = false := fun c hc => (hrest c hc).1
  rw [mention?, takeWhile_append_of_stop hword hend, dropWhile_append_of_stop hword hend]
  simp [hne, bracket?_of_stops hrest]

/-- A name is read together with the bracket behind it. -/
theorem mention?_of_bracketed {kind : ContainerKind} (hne : name ≠ [])
    (hword : ∀ c ∈ name, c.isWord = true) (hlabel : .scalar (closing kind) ∉ label) (rest : Text) :
    mention? (name ++ (bracketed kind label ++ rest)) =
      some (⟨name, some (kind, label)⟩, rest) := by
  have hend : ∀ c ∈ (bracketed kind label ++ rest).head?, c.isWord = false := by
    rintro c ⟨⟩
    cases kind <;> decide
  rw [mention?, takeWhile_append_of_stop hword hend, dropWhile_append_of_stop hword hend,
    bracket?_bracketed hlabel]
  simp [hne]

end Names

namespace Spot

/-- The node as the reader has it. -/
def mention (s : Spot) : Mention where
  id := s.id
  bracket := s.bracket.map fun b => (b.kind, b.label.text)

theorem node_mention (s : Spot) : s.mention.node = s.node := by
  cases hs : s.bracket <;> simp [mention, Mention.node, node, hs, cleanLabel?_eq_shown?]

/-- A node that is written is read back, whichever way it is written. -/
theorem mention?_text (s : Spot) (hrest : Stops rest) :
    mention? (s.text ++ rest) = some (s.mention, rest) := by
  rw [text, List.append_assoc]
  cases hs : s.bracket with
  | none =>
    rw [Option.elim_none, List.nil_append, mention?_of_stops s.id_ne s.id_word hrest]
    simp [mention, hs]
  | some b =>
    have hread := mention?_of_bracketed s.id_ne s.id_word b.label.unclosed rest
    rw [Option.elim_some, show b.text = bracketed b.kind b.label.text from rfl, hread]
    simp [mention, hs]

end Spot

theorem after?_append (s t : Text) : Text.after? s (s ++ t) = some t := by
  induction s with
  | nil => rfl
  | cons c s ih => rw [List.cons_append, Text.after?, if_pos rfl, ih]

/-- What may follow a connector: nothing that would lengthen it. -/
def Ends (t : Text) : Prop := ∀ c ∈ t.head?, c ≠ .scalar '-' ∧ c ≠ .scalar '>'

theorem takeWhile_replicate_append (c : CodePoint) (n : Nat) (ht : ∀ d ∈ t.head?, d ≠ c) :
    (List.replicate n c ++ t).takeWhile (· = c) = List.replicate n c :=
  takeWhile_append_of_stop (by simp) (by simpa using ht)

theorem dropWhile_replicate_append (c : CodePoint) (n : Nat) (ht : ∀ d ∈ t.head?, d ≠ c) :
    (List.replicate n c ++ t).dropWhile (· = c) = t :=
  dropWhile_append_of_stop (by simp) (by simpa using ht)

/-- However long a stroke is, all of it is read. -/
theorem bareStroke?_dashes (n : Nat) (ht : Ends t) :
    bareStroke? (List.replicate (n + 2) (.scalar '-') ++ t) = some t := by
  have hdash : ∀ d ∈ t.head?, d ≠ .scalar '-' := fun d hd => (ht d hd).1
  rw [bareStroke?, takeWhile_replicate_append _ _ hdash, dropWhile_replicate_append _ _ hdash,
    List.length_replicate]
  cases t with
  | nil => rfl
  | cons c t =>
    have hhead := (ht c rfl).2
    simp only
    split
    · rename_i hc
      exact (hhead (List.cons.inj hc).1).elim
    · rfl

/-- Each of the plain connectors is read back. -/
theorem bareStroke?_text (form : Plain) (more : Nat) (ht : Ends t) :
    bareStroke? (form.text more ++ t) = some t := by
  cases form with
  | line => exact bareStroke?_dashes (more + 1) ht
  | arrow =>
    have hdash : ∀ d ∈ (Text.ofString ">" ++ t).head?, d ≠ .scalar '-' := by
      rintro d ⟨⟩
      decide
    rw [Plain.text, List.append_assoc, bareStroke?, takeWhile_replicate_append _ _ hdash,
      dropWhile_replicate_append _ _ hdash, List.length_replicate]
    rfl
  | thick =>
    have hequals : ∀ d ∈ (Text.ofString ">" ++ t).head?, d ≠ .scalar '=' := by
      rintro d ⟨⟩
      decide
    rw [Plain.text, List.append_assoc, bareStroke?, takeWhile_replicate_append _ _ hequals,
      dropWhile_replicate_append _ _ hequals, List.length_replicate, if_pos (by omega),
      after?_append]
    rfl
  | dotted =>
    have hdot : ∀ d ∈ (Text.ofString "->" ++ t).head?, d ≠ .scalar '.' := by
      rintro d ⟨⟩
      decide
    have hdash : ∀ d ∈ (List.replicate (more + 1) (CodePoint.scalar '.') ++
        (Text.ofString "->" ++ t)).head?, d ≠ .scalar '-' := by
      rintro d ⟨⟩
      decide
    have hsplit : Plain.dotted.text more ++ t = List.replicate 1 (.scalar '-') ++
        (List.replicate (more + 1) (.scalar '.') ++ (Text.ofString "->" ++ t)) := by
      simp [Plain.text, Text.ofString]
    rw [hsplit, bareStroke?, takeWhile_replicate_append _ _ hdash,
      dropWhile_replicate_append _ _ hdash, List.length_replicate]
    simp only
    rw [takeWhile_replicate_append _ _ hdot, dropWhile_replicate_append _ _ hdot, after?_append]
    rfl

/-- The connector as the reader has it. -/
def Around.stroke (form : Around) : LabelledStroke :=
  ⟨.ofString form.opening, .ofString form.closing, form.notFirst⟩

theorem all_strokes : LabelledStroke.all = [Around.dashes.stroke, Around.equals.stroke,
    Around.dots.stroke] := rfl

/-- What cannot be the beginning of a label: the head of an arrow, and some characters. -/
theorem read?_of_head {form : Around} {c : CodePoint} {opened : Text}
    (hopened : Text.after? form.stroke.opening t = some (c :: opened)) (hblank : c.isBlank = false)
    (hc : c = .scalar '>' ∨ c ∈ form.notFirst.map .scalar) : form.stroke.read? t = none := by
  have hskip : Text.skipBlanks (c :: opened) = c :: opened :=
    Text.skipBlanks_of_head (by simpa using hblank)
  have hlength : 2 ≤ form.stroke.closing.length := by cases form <;> decide
  rw [LabelledStroke.read?, hopened]
  simp only [Option.bind_some, hskip]
  split
  · split
    · rename_i rest hrest d label hsuffix
      have heq := List.isSuffixOf?_eq_some_iff_append_eq.mp hsuffix
      cases hends : endsLabel c with
      | true =>
        have hnone : (c :: opened).takeWhile (fun c => !endsLabel c) = [] := by simp [hends]
        have hlen := congrArg List.length heq
        rw [hnone] at hlen
        simp only [List.nil_append, List.length_append, List.length_cons, List.length_nil] at hlen
        omega
      | false =>
        simp only [hends, Bool.not_false, List.takeWhile_cons_of_pos, List.cons_append,
          List.cons.injEq] at heq
        rcases hc with rfl | hc
        · cases hends
        · rw [if_pos (heq.1 ▸ hc)]
    · rfl
  · rfl

/-- A plain connector does not begin like one that has a label in it, or goes on as that cannot. -/
theorem after?_plain (around : Around) (form : Plain) (more : Nat) (t : Text) :
    Text.after? around.stroke.opening (form.text more ++ t) = none ∨
    ∃ c opened, Text.after? around.stroke.opening (form.text more ++ t) = some (c :: opened) ∧
      c.isBlank = false ∧ (c = .scalar '>' ∨ c ∈ around.notFirst.map .scalar) := by
  cases around with
  | dashes =>
    cases form with
    | line => exact .inr ⟨.scalar '-', _, rfl, by decide, .inr (by decide)⟩
    | arrow =>
      cases more with
      | zero => exact .inr ⟨.scalar '>', _, rfl, by decide, .inl rfl⟩
      | succ more => exact .inr ⟨.scalar '-', _, rfl, by decide, .inr (by decide)⟩
    | thick | dotted => exact .inl rfl
  | equals =>
    cases form with
    | thick =>
      cases more with
      | zero => exact .inr ⟨.scalar '>', _, rfl, by decide, .inl rfl⟩
      | succ more => exact .inr ⟨.scalar '=', _, rfl, by decide, .inr (by decide)⟩
    | line | arrow | dotted => exact .inl rfl
  | dots =>
    cases form with
    | dotted =>
      cases more with
      | zero => exact .inr ⟨.scalar '-', _, rfl, by decide, .inr (by decide)⟩
      | succ more => exact .inr ⟨.scalar '.', _, rfl, by decide, .inr (by decide)⟩
    | line | arrow | thick => exact .inl rfl

/-- No connector without a label inside can be read as one with a label. -/
theorem read?_plain (around : Around) (form : Plain) (more : Nat) (t : Text) :
    around.stroke.read? (form.text more ++ t) = none := by
  rcases after?_plain around form more t with hnone | ⟨c, opened, hopened, hblank, hc⟩
  · rw [LabelledStroke.read?, hnone]
    rfl
  · exact read?_of_head hopened hblank hc

theorem endsLabel_eq_false {c : CodePoint} :
    endsLabel c = false ↔ c ≠ .scalar '|' ∧ c ≠ .scalar '>' := by
  simp [endsLabel]

theorem Gap.not_endsLabel (g : Gap) : ∀ c ∈ g.text, endsLabel c = false := by
  intro c hc
  exact endsLabel_eq_false.mpr ⟨CodePoint.ne_mark_of_isBlank (by decide) (g.blank c hc),
    CodePoint.ne_mark_of_isBlank (by decide) (g.blank c hc)⟩

/-- A label that is written inside a connector does not end before its end. -/
theorem Inside.not_endsLabel {form : Around} (label : Inside form) :
    ∀ c ∈ label.text, endsLabel c = false := by
  intro c hc
  refine endsLabel_eq_false.mpr ⟨?_, ?_⟩
  · rintro rfl
    exact label.no_bar hc
  · rintro rfl
    exact label.no_head hc

/-- Only the last character of what closes a connector is an arrowhead. -/
theorem exists_stem (form : Around) :
    ∃ stem : Text, Text.ofString form.closing = stem ++ [.scalar '>'] ∧
      ∀ c ∈ stem, endsLabel c = false := by
  cases form
  · exact ⟨.ofString "--", rfl, by decide⟩
  · exact ⟨.ofString "==", rfl, by decide⟩
  · exact ⟨.ofString ".-", rfl, by decide⟩

/-- Whatever is inside a stroke is read as its label, but for the blanks around it. -/
theorem read?_of_inside {form : Around} {before label after : Text}
    (hbefore : ∀ c ∈ before, c.isBlank = true) (hne : label ≠ [])
    (hhead : ∀ c ∈ label.head?, c.isBlank = false ∧ c ∉ form.notFirst.map .scalar)
    (hinside : ∀ c ∈ label ++ after, endsLabel c = false) (t : Text) :
    form.stroke.read?
        (Text.ofString form.opening ++ before ++ label ++ after ++
          Text.ofString form.closing ++ t) =
      some (Text.trimEnd (label ++ after), t) := by
  obtain ⟨stem, hstem, hfree⟩ := exists_stem form
  obtain ⟨first, more, rfl⟩ := List.exists_cons_of_ne_nil hne
  obtain ⟨hblank, hfirst⟩ := hhead first rfl
  have hsplit : Text.ofString form.opening ++ before ++ (first :: more) ++ after ++
      Text.ofString form.closing ++ t = form.stroke.opening ++
        (before ++ ((first :: more ++ after ++ stem) ++ .scalar '>' :: t)) := by
    simp [Around.stroke, hstem]
  have hskip : Text.skipBlanks (before ++ ((first :: more ++ after ++ stem) ++
      .scalar '>' :: t)) = (first :: more ++ after ++ stem) ++ .scalar '>' :: t := by
    rw [Text.skipBlanks_append hbefore, Text.skipBlanks_of_head]
    rintro c ⟨⟩
    exact hblank
  have hrun : ∀ c ∈ first :: more ++ after ++ stem, (!endsLabel c) = true := by
    intro c hc
    rw [Bool.not_eq_true']
    rcases List.mem_append.mp hc with hc | hc
    · exact hinside c hc
    · exact hfree c hc
  have hstop : ∀ c ∈ (CodePoint.scalar '>' :: t).head?, (!endsLabel c) = false := by
    rintro c ⟨⟩
    decide
  have hsuffix : form.stroke.closing.isSuffixOf? (first :: more ++ after ++ stem ++ [.scalar '>'])
      = some (first :: more ++ after) := by
    rw [List.isSuffixOf?_eq_some_iff_append_eq]
    simp [Around.stroke, hstem]
  rw [hsplit, LabelledStroke.read?, after?_append]
  simp only [Option.bind_some, hskip, takeWhile_append_of_stop hrun hstop,
    dropWhile_append_of_stop hrun hstop, hsuffix]
  exact if_neg hfirst

/-- A label inside a connector is read back without the blanks around it. -/
theorem read?_around (form : Around) (before : Gap) (label : Inside form) (after : Gap) (t : Text) :
    form.stroke.read? ((Connector.around form before label after).text ++ t) =
      some (label.text, t) := by
  have hsolid := Text.Solid.of_trim_eq label.ne label.trimmed
  have hhead : ∀ c ∈ label.text.head?, c.isBlank = false ∧ c ∉ form.notFirst.map .scalar := by
    intro c hc
    refine ⟨hsolid.head c hc, fun hmark => ?_⟩
    obtain ⟨d, hd, rfl⟩ := List.mem_map.mp hmark
    exact label.first d hd hc
  have hinside : ∀ c ∈ label.text ++ after.text, endsLabel c = false := by
    intro c hc
    rcases List.mem_append.mp hc with hc | hc
    · exact label.not_endsLabel c hc
    · exact after.not_endsLabel c hc
  have hread := read?_of_inside before.blank label.ne hhead hinside t
  rwa [Text.trimEnd_append hsolid.last after.blank] at hread

/-- Blanks before the first bar are skipped, those after it belong to the label. -/
theorem barLabel_of_bars {gap label : Text} (hgap : ∀ c ∈ gap, c.isBlank = true)
    (hlabel : .scalar '|' ∉ label) (t : Text) :
    barLabel (gap ++ .scalar '|' :: label ++ [.scalar '|'] ++ t) = (some label, t) := by
  have hskip : Text.skipBlanks (gap ++ .scalar '|' :: label ++ [.scalar '|'] ++ t) =
      .scalar '|' :: (label ++ .scalar '|' :: t) := by
    rw [List.append_assoc, List.append_assoc, Text.skipBlanks_append hgap, Text.skipBlanks_of_head]
    · simp
    · rintro c ⟨⟩
      decide
  rw [barLabel, hskip]
  simp only [before?_append hlabel]

theorem barLabel_text (b : Bar) (t : Text) : barLabel (b.text ++ t) = (some b.label.text, t) :=
  barLabel_of_bars b.gap.blank b.label.unclosed t

/-- Without a bar there is no label. -/
theorem barLabel_of_head (ht : ∀ c ∈ t.skipBlanks.head?, c ≠ .scalar '|') :
    barLabel t = (none, t) := by
  unfold barLabel
  split
  · rename_i rest hrest
    rw [hrest] at ht
    exact (ht _ rfl rfl).elim
  · rfl

namespace Connector

/-- The label as it is written. -/
def written : Connector → Option Text
  | plain _ _ bar => bar.map fun b => b.label.text
  | around _ _ label _ => some label.text

/-- What is written as a label is shown cleaned. -/
theorem label?_eq (c : Connector) : c.label? = c.written.bind Text.cleanLabel? := by
  cases c with
  | plain form more bar =>
    cases bar with
    | none => rfl
    | some b => exact (cleanLabel?_eq_shown? _).symm
  | around form before label after => exact (cleanLabel?_eq_shown? _).symm

end Connector

/-- The text begins with a name. -/
def Names (t : Text) : Prop := ∃ c more, t = c :: more ∧ c.isWord = true

/-- A name begins with a character of a word, which is no mark. -/
theorem Names.head_not_blank (ht : Names t) : ∀ c ∈ t.head?, c.isBlank = false := by
  obtain ⟨d, more, rfl, hd⟩ := ht
  rintro c ⟨⟩
  exact CodePoint.isBlank_of_isWord hd

theorem Names.skipBlanks_append (ht : Names t) {b : Text} (hb : ∀ c ∈ b, c.isBlank = true) :
    Text.skipBlanks (b ++ t) = t := by
  rw [Text.skipBlanks_append hb, Text.skipBlanks_of_head ht.head_not_blank]

theorem Names.skipBlanks_gap (ht : Names t) (g : Gap) : Text.skipBlanks (g.text ++ t) = t :=
  ht.skipBlanks_append g.blank

theorem Names.ne_mark (ht : Names t) {mark : Char} (hmark : isWord mark = false) :
    ∀ c ∈ t.head?, c ≠ .scalar mark := by
  obtain ⟨d, more, rfl, hd⟩ := ht
  rintro c ⟨⟩ rfl
  rw [CodePoint.isWord, CodePoint.satisfies, hmark] at hd
  cases hd

theorem Names.ends (ht : Names t) : Ends t := fun c hc =>
  ⟨ht.ne_mark (by decide) c hc, ht.ne_mark (by decide) c hc⟩

/-- Where blanks do no harm, a run of them does none. -/
theorem head_append_of_blanks {P : CodePoint → Prop} {b : Text} (hb : ∀ c ∈ b, c.isBlank = true)
    (hblank : ∀ c, c.isBlank = true → P c) (ht : ∀ c ∈ t.head?, P c) :
    ∀ c ∈ (b ++ t).head?, P c := by
  cases b with
  | nil => exact ht
  | cons c more =>
    rintro d ⟨⟩
    exact hblank c (hb c List.mem_cons_self)

/-- Blanks end a connector, if what follows them does. -/
theorem ends_append_of_blanks {b : Text} (hb : ∀ c ∈ b, c.isBlank = true) (ht : Ends t) :
    Ends (b ++ t) :=
  head_append_of_blanks hb (fun _ hc => ⟨CodePoint.ne_mark_of_isBlank (by decide) hc,
    CodePoint.ne_mark_of_isBlank (by decide) hc⟩) ht

theorem ends_gap_append (g : Gap) (ht : Ends t) : Ends (g.text ++ t) :=
  ends_append_of_blanks g.blank ht

theorem stops_append_of_blanks {b : Text} (hb : ∀ c ∈ b, c.isBlank = true) (ht : Stops t) :
    Stops (b ++ t) := by
  refine head_append_of_blanks hb (fun c hc => ⟨Bool.eq_false_iff.mpr fun hword => ?_,
    fun kind => ?_⟩) ht
  · rw [CodePoint.isBlank_of_isWord hword] at hc
    cases hc
  · exact CodePoint.ne_mark_of_isBlank (by cases kind <;> decide) hc

/-- A connector of one form is not read as one of another. -/
theorem read?_other {other form : Around} (hne : other ≠ form) (before : Gap) (label : Inside form)
    (after : Gap) (t : Text) :
    other.stroke.read? ((Connector.around form before label after).text ++ t) = none := by
  cases other with
  | dashes =>
    cases form with
    | dashes => exact (hne rfl).elim
    | equals | dots => rfl
  | equals =>
    cases form with
    | equals => exact (hne rfl).elim
    | dashes | dots => rfl
  | dots =>
    cases form with
    | dots => exact (hne rfl).elim
    | dashes | equals => rfl

/-- A plain connector is read in one way only. -/
theorem strokes_plain (form : Plain) (more : Nat) (ht : Ends t) :
    strokes (form.text more ++ t) = [barLabel t] := by
  simp [strokes, all_strokes, read?_plain, bareStroke?_text form more ht]

/-- A connector is read first as what it is, where a name follows after a gap. -/
theorem strokes_text (c : Connector) (after : Gap) (ht : Names t) :
    ∃ others, strokes (c.text ++ (after.text ++ t)) = (c.written, after.text ++ t) :: others := by
  cases c with
  | plain form more bar =>
    rw [Connector.text, List.append_assoc]
    refine ⟨[], ?_⟩
    cases bar with
    | none =>
      rw [Option.elim_none, List.nil_append,
        strokes_plain form more (ends_gap_append after ht.ends), barLabel_of_head]
      · rfl
      · rw [ht.skipBlanks_gap]
        exact ht.ne_mark (by decide)
    | some b =>
      have hends : Ends (b.text ++ (after.text ++ t)) := by
        rw [Bar.text, List.append_assoc, List.append_assoc]
        refine ends_gap_append b.gap ?_
        rintro d ⟨⟩
        decide
      rw [Option.elim_some, strokes_plain form more hends, barLabel_text]
      rfl
  | around form before label gap =>
    have hread := read?_around form before label gap (after.text ++ t)
    have hother := fun other (hne : other ≠ form) =>
      read?_other hne before label gap (after.text ++ t)
    rw [strokes, all_strokes]
    cases form with
    | dashes => simp [hread, Connector.written]
    | equals =>
      simp [hread, hother .dashes (by nofun), Connector.written]
    | dots =>
      simp [hread, hother .dashes (by nofun), hother .equals (by nofun), Connector.written]

theorem Spot.names (s : Spot) (rest : Text) : Names (s.text ++ rest) := by
  obtain ⟨c, more, hid⟩ := List.exists_cons_of_ne_nil s.id_ne
  refine ⟨c, more ++ (s.bracket.elim [] Bracket.text ++ rest), ?_, s.id_word c (by simp [hid])⟩
  simp [text, hid]

/-- No connector begins like a node. -/
theorem Connector.head_text (c : Connector) (t : Text) :
    ∃ mark more, c.text ++ t = .scalar mark :: more ∧ (mark = '-' ∨ mark = '=') := by
  cases c with
  | plain form more bar =>
    cases form with
    | line | arrow | dotted => exact ⟨'-', _, rfl, .inl rfl⟩
    | thick => exact ⟨'=', _, rfl, .inr rfl⟩
  | around form before label after =>
    cases form with
    | dashes | dots => exact ⟨'-', _, rfl, .inl rfl⟩
    | equals => exact ⟨'=', _, rfl, .inr rfl⟩

/-- The hop as the reader has it. -/
def Hop.link (h : Hop) : Link := ⟨h.connector.written, h.target.mention⟩

theorem Hop.text_append (h : Hop) (rest : Text) : h.text ++ rest =
    h.before.text ++ (h.connector.text ++ (h.after.text ++ (h.target.text ++ rest))) := by
  simp [text]

/-- One hop of a chain is read back as a link. -/
theorem link?_text (h : Hop) (hrest : Stops rest) :
    link? (h.text ++ rest) = some (h.link, rest) := by
  have hnames := h.target.names rest
  obtain ⟨others, hstrokes⟩ := strokes_text h.connector h.after hnames
  have hskip : Text.skipBlanks (h.text ++ rest) =
      h.connector.text ++ (h.after.text ++ (h.target.text ++ rest)) := by
    rw [h.text_append, Text.skipBlanks_append h.before.blank, Text.skipBlanks_of_head]
    obtain ⟨mark, more, hhead, hmark⟩ :=
      h.connector.head_text (h.after.text ++ (h.target.text ++ rest))
    rw [hhead]
    rintro c ⟨⟩
    rcases hmark with rfl | rfl <;> decide
  rw [link?, hskip, hstrokes, List.findSome?_cons, hnames.skipBlanks_gap,
    h.target.mention?_text hrest]
  rfl

end Grammar

end Easel
