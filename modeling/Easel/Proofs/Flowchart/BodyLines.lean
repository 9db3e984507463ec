import Mathlib.Data.List.TakeWhile
import Easel.Proofs.Flowchart.Forms

/-! What one line adds to a chart, whatever its text: links where it begins one, else the node that
it declares, else nothing. -/
namespace Easel.Grammar

variable {t rest line : Text}

/-- A line that is passed over as a comment or directive. -/
def IsSkipped (line : Text) : Prop := ∃ start ∈ skipped, Text.ofString start <+: line

theorem isDirective_iff : isDirective line = true ↔ IsSkipped line := by
  simp only [isDirective, List.any_eq_true, List.isPrefixOf_iff_prefix]
  rfl

/-- A directive adds nothing. -/
theorem contribution_of_skipped (h : IsSkipped line) : contribution line = ⟨[], []⟩ := by
  rw [contribution, if_pos (isDirective_iff.mpr h)]

/-- A line that is not passed over adds nothing, or the node with which it begins, or links. -/
theorem contribution_cases (hkept : ¬ IsSkipped line) :
    (contribution line = ⟨[], []⟩ ∧ ∀ m rest, mention? line = some (m, rest) →
      ¬ LeadsOn rest ∧ ¬ (m.bracket.isSome = true ∧ isLineEnd rest = true)) ∨
    (∃ m rest, mention? line = some (m, rest) ∧ ¬ LeadsOn rest ∧
      (m.bracket.isSome = true ∧ isLineEnd rest = true) ∧ contribution line = ⟨[m.node], []⟩) ∨
    ∃ m rest l more, mention? line = some (m, rest) ∧ LeadsOn rest ∧ links rest = l :: more ∧
      contribution line =
        ⟨m.node :: (l :: more).map (fun l => l.target.node), edgesFrom m.id (l :: more)⟩ := by
  have hdirective : ¬ isDirective line = true := mt isDirective_iff.mp hkept
  unfold contribution
  rw [if_neg hdirective]
  cases hm : mention? line with
  | none => exact .inl ⟨rfl, by rintro m rest ⟨⟩⟩
  | some r =>
    obtain ⟨m, rest⟩ := r
    simp only
    cases hlinks : links rest with
    | nil =>
      have hnot := links_eq_nil_iff.mp hlinks
      by_cases hend : m.bracket.isSome = true ∧ isLineEnd rest = true
      · exact .inr (.inl ⟨m, rest, rfl, hnot, hend, if_pos (Bool.and_eq_true_iff.mpr hend)⟩)
      · refine .inl ⟨if_neg (mt Bool.and_eq_true_iff.mp hend), ?_⟩
        rintro m rest ⟨⟩
        exact ⟨hnot, hend⟩
    | cons l more =>
      have hon : LeadsOn rest := by
        by_contra hnot
        rw [links_eq_nil_iff.mpr hnot] at hlinks
        cases hlinks
      exact .inr (.inr ⟨m, rest, l, more, rfl, hon, hlinks, rfl⟩)

/-- A line has edges if a link begins with its first words. -/
theorem edges_ne_nil_iff (hkept : ¬ IsSkipped line) :
    (contribution line).edges ≠ [] ↔ ∃ start, start <+: line ∧ BeginsLink start := by
  rw [beginsLink_iff]
  rcases contribution_cases hkept with ⟨hc, hnone⟩ | ⟨m, rest, hm, hnot, -, hc⟩ |
    ⟨m, rest, l, more, hm, hon, -, hc⟩
  · rw [hc]
    refine ⟨fun hne => (hne rfl).elim, ?_⟩
    rintro ⟨m, rest, hm, hon⟩
    exact ((hnone m rest hm).1 hon).elim
  · rw [hc]
    refine ⟨fun hne => (hne rfl).elim, ?_⟩
    rintro ⟨m', rest', hm', hon⟩
    rw [hm] at hm'
    cases hm'
    exact (hnot hon).elim
  · rw [hc]
    exact ⟨fun _ => ⟨m, rest, hm, hon⟩, fun _ => List.cons_ne_nil _ _⟩

/-- The first edge leaves the node at the beginning of the line. -/
theorem leadsWith_source (hkept : ¬ IsSkipped line) {e : Edge}
    (he : e ∈ (contribution line).edges.head?) : LeadsWith line e.source := by
  rcases contribution_cases hkept with ⟨hc, -⟩ | ⟨m, rest, hm, -, -, hc⟩ |
    ⟨m, rest, l, more, hm, -, -, hc⟩
  · rw [hc] at he
    cases he
  · rw [hc] at he
    cases he
  · rw [hc] at he
    cases he
    exact (eq_append_of_mention? hm).1

theorem blank_iff_skipBlanks : Blank t ↔ t.skipBlanks = [] := by
  rw [Text.skipBlanks, List.dropWhile_eq_nil_iff]
  rfl

theorem isLineEnd_cases (h : isLineEnd t = true) :
    Blank t ∨ ∃ gap after, Blank gap ∧ Blank after ∧ t = gap ++ .scalar ';' :: after := by
  obtain ⟨gap, hgap, ht⟩ := exists_skipped t
  unfold isLineEnd at h
  split at h
  · rename_i after hafter
    rw [hafter] at ht
    exact .inr ⟨gap, after, hgap, blank_iff_skipBlanks.mpr (List.isEmpty_iff.mp h), ht⟩
  · exact .inl (blank_iff_skipBlanks.mpr (List.isEmpty_iff.mp h))

theorem isLineEnd_append {gap ending : Text} (hgap : Blank gap)
    (hending : ending = [] ∨ ending = [.scalar ';']) : isLineEnd (gap ++ ending) = true := by
  rw [isLineEnd, Text.skipBlanks_append hgap]
  rcases hending with rfl | rfl <;> rfl

/-- Trimming has left no blanks at the end. -/
theorem eq_nil_of_trim {b : Text} (htrim : (t ++ b).trim = t ++ b) (hb : Blank b) : b = [] := by
  rcases List.eq_nil_or_concat b with hnil | ⟨init, last, hlast⟩
  · exact hnil
  · have hne : t ++ b ≠ [] := by simp [hlast]
    have hblank := hb last (by simp [hlast])
    have hsolid := (Text.Solid.of_trim_eq hne htrim).last last (by simp [hlast])
    rw [hblank] at hsolid
    cases hsolid

/-- A node with a bracket is shown as its bracket says, or by its name if that is blank. -/
theorem node_of_bracket {name label : Text} {kind : ContainerKind} :
    Mention.node ⟨name, some (kind, label)⟩ = ⟨name, (shown? label).getD name, .known kind⟩ := by
  rw [← cleanLabel?_eq_shown?]
  rfl

/-- A node in brackets with nothing but the end of the line behind it is declared. -/
theorem declares_of_mention? (htrim : line.trim = line) {m : Mention}
    (hm : mention? line = some (m, rest)) (hbracket : m.bracket.isSome = true)
    (hend : isLineEnd rest = true) : Declares line m.node := by
  obtain ⟨⟨hname, -⟩, ⟨hnone, -⟩ | ⟨kind, label, hsome, hlabel, hline⟩⟩ := eq_append_of_mention? hm
  · rw [hnone] at hbracket
    cases hbracket
  · have hnode : m.node = ⟨m.id, (shown? label).getD m.id, .known kind⟩ := by
      rw [← node_of_bracket, ← hsome]
    rw [hnode]
    rcases isLineEnd_cases hend with hblank | ⟨gap, after, hgap, hafter, hsplit⟩
    · rw [hline, ← List.append_assoc] at htrim
      rw [hline, eq_nil_of_trim htrim hblank]
      have hdeclares := Declares.intro hname hlabel blank_nil (.inl rfl)
      simpa only [List.append_nil] using hdeclares
    · have hwhole : line = m.id ++ bracketed kind label ++ gap ++ [.scalar ';'] ++ after := by
        rw [hline, hsplit]
        simp
      rw [hwhole] at htrim
      rw [hwhole, eq_nil_of_trim htrim hafter, List.append_nil]
      exact .intro hname hlabel hgap (.inr rfl)

/-- A declaration is read as its node and the end of its line. -/
theorem Declares.read {n : Node} (h : Declares line n) :
    ∃ m rest, mention? line = some (m, rest) ∧ m.bracket.isSome = true ∧
      isLineEnd rest = true ∧ m.node = n := by
  obtain ⟨hname, hlabel, hgap, hending⟩ := h
  rename_i name label gap ending kind
  have hread := mention?_of_bracketed hname.ne hname.word hlabel (gap ++ ending)
  rw [List.append_assoc, List.append_assoc]
  exact ⟨_, _, hread, rfl, isLineEnd_append hgap hending, node_of_bracket⟩

/-- A line without a link adds the node that it declares, and no other. -/
theorem mem_nodes_iff (htrim : line.trim = line) (hkept : ¬ IsSkipped line)
    (hedges : (contribution line).edges = []) {n : Node} :
    n ∈ (contribution line).nodes ↔ Declares line n := by
  rcases contribution_cases hkept with ⟨hc, hnone⟩ | ⟨m, rest, hm, -, hend, hc⟩ |
    ⟨m, rest, l, more, -, -, -, hc⟩
  · rw [hc]
    refine ⟨fun hn => (List.not_mem_nil hn).elim, fun hn => ?_⟩
    obtain ⟨m, rest, hm, hbracket, hend, -⟩ := hn.read
    exact ((hnone m rest hm).2 ⟨hbracket, hend⟩).elim
  · rw [hc, List.mem_singleton]
    constructor
    · rintro rfl
      exact declares_of_mention? htrim hm hend.1 hend.2
    · intro hn
      obtain ⟨m', rest', hm', -, -, rfl⟩ := hn.read
      rw [hm] at hm'
      cases hm'
      rfl
  · rw [hc] at hedges
    cases hedges

/-- A line without links declares one node at most. -/
theorem length_nodes_le (hkept : ¬ IsSkipped line) (hedges : (contribution line).edges = []) :
    (contribution line).nodes.length ≤ 1 := by
  rcases contribution_cases hkept with ⟨hc, -⟩ | ⟨m, rest, -, -, -, hc⟩ |
    ⟨m, rest, l, more, -, -, -, hc⟩
  · rw [hc]
    exact Nat.zero_le 1
  · rw [hc]
    exact Nat.le_refl 1
  · rw [hc] at hedges
    cases hedges

/-- A trimmed line that is not passed over adds edges exactly where it begins a link, the first of
them from the longest name at its beginning. Else it adds at most one node, and exactly the node
that it declares. -/
theorem contribution_by_form (htrim : line.trim = line) (hkept : ¬ IsSkipped line) :
    ((contribution line).edges ≠ [] ↔ ∃ start, start <+: line ∧ BeginsLink start) ∧
    (∀ e ∈ (contribution line).edges.head?, LeadsWith line e.source) ∧
    ((contribution line).edges = [] →
      (contribution line).nodes.length ≤ 1 ∧
        ∀ n, n ∈ (contribution line).nodes ↔ Declares line n) :=
  ⟨edges_ne_nil_iff hkept, fun _ he => leadsWith_source hkept he,
    fun hedges => ⟨length_nodes_le hkept hedges, fun _ => mem_nodes_iff htrim hkept hedges⟩⟩

/-- No node follows the labelled stroke here, so that its dashes alone are the first link. -/
def splitLine : Text := .ofString "A[x --> y] -- yes -->|no| B"

/-- An arrow that is inside a bracket is no link. -/
def enclosedLine : Text := .ofString "A(\"x --> y\") ;"

theorem contribution_by_form_split :
    (splitLine.trim = splitLine ∧ ¬ IsSkipped splitLine ∧
      (contribution splitLine).edges = [⟨.ofString "A", .ofString "yes", none⟩,
        ⟨.ofString "yes", .ofString "B", some (.ofString "no")⟩] ∧
      (∃ start, start <+: splitLine ∧ BeginsLink start) ∧
      LeadsWith splitLine (.ofString "A")) ∧
    (enclosedLine.trim = enclosedLine ∧ ¬ IsSkipped enclosedLine ∧
      (contribution enclosedLine).edges = [] ∧
      Declares enclosedLine ⟨.ofString "A", .ofString "x --> y", .known .ellipse⟩) := by
  have hedges : (contribution splitLine).edges = [⟨.ofString "A", .ofString "yes", none⟩,
      ⟨.ofString "yes", .ofString "B", some (.ofString "no")⟩] := by decide +kernel
  have hnone : (contribution enclosedLine).edges = [] := by decide +kernel
  have hnodes : (contribution enclosedLine).nodes =
      [⟨.ofString "A", .ofString "x --> y", .known .ellipse⟩] := by decide +kernel
  have htrim : splitLine.trim = splitLine ∧ enclosedLine.trim = enclosedLine := by decide +kernel
  have hkept : ¬ IsSkipped splitLine ∧ ¬ IsSkipped enclosedLine := by
    rw [← isDirective_iff, ← isDirective_iff]
    decide +kernel
  obtain ⟨hlinks, hsource, -⟩ := contribution_by_form htrim.1 hkept.1
  obtain ⟨-, -, hdeclares⟩ := contribution_by_form htrim.2 hkept.2
  rw [hedges] at hlinks hsource
  refine ⟨⟨htrim.1, hkept.1, hedges, hlinks.mp (List.cons_ne_nil _ _), hsource _ rfl⟩,
    htrim.2, hkept.2, hnone, ((hdeclares hnone).2 _).mp ?_⟩
  rw [hnodes]
  exact List.mem_singleton_self _

end Easel.Grammar
