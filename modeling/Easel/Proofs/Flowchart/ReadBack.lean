import Easel.Proofs.Flowchart.Rows

/-! Every text in the grammar is read as the chart that it means. -/
namespace Easel.Grammar

variable {t rest : Text}

theorem Bracket.unbroken (b : Bracket) : b.text.Unbroken := by
  have hmarks : (CodePoint.scalar (opening b.kind)).isLineBreak = false ∧
      (CodePoint.scalar (closing b.kind)).isLineBreak = false := by
    cases b.kind <;> decide
  rw [text, Text.unbroken_append, Text.unbroken_cons]
  exact ⟨⟨hmarks.1, b.label.unbroken⟩, by simpa [Text.Unbroken] using hmarks.2⟩

/-- Nothing that is written on a line breaks it. -/
theorem Spot.unbroken (s : Spot) : s.text.Unbroken := by
  rw [text, Text.unbroken_append]
  refine ⟨fun c hc => CodePoint.isLineBreak_of_isWord (s.id_word c hc), ?_⟩
  cases s.bracket with
  | none => rintro c ⟨⟩
  | some b => exact b.unbroken

theorem Plain.unbroken (form : Plain) (more : Nat) : (form.text more).Unbroken := by
  cases form with
  | line => exact Text.unbroken_replicate (by decide) _
  | arrow | thick =>
    exact Text.unbroken_append.mpr ⟨Text.unbroken_replicate (by decide) _, by decide⟩
  | dotted =>
    exact Text.unbroken_append.mpr
      ⟨Text.unbroken_append.mpr ⟨by decide, Text.unbroken_replicate (by decide) _⟩, by decide⟩

theorem Connector.unbroken (c : Connector) : c.text.Unbroken := by
  cases c with
  | plain form more bar =>
    refine Text.unbroken_append.mpr ⟨form.unbroken more, ?_⟩
    cases bar with
    | none => rintro c ⟨⟩
    | some b =>
      refine Text.unbroken_append.mpr ⟨Text.unbroken_append.mpr ⟨b.gap.unbroken, ?_⟩, by decide⟩
      exact Text.unbroken_cons.mpr ⟨by decide, b.label.unbroken⟩
  | around form before label after =>
    have hmarks :
        (Text.ofString form.opening).Unbroken ∧ (Text.ofString form.closing).Unbroken := by
      cases form <;> exact ⟨by decide, by decide⟩
    simp only [text, Text.unbroken_append]
    exact ⟨⟨⟨⟨hmarks.1, before.unbroken⟩, label.unbroken⟩, after.unbroken⟩, hmarks.2⟩

theorem Hop.unbroken (h : Hop) : h.text.Unbroken := by
  simp only [text, Text.unbroken_append]
  exact ⟨⟨⟨h.before.unbroken, h.connector.unbroken⟩, h.after.unbroken⟩, h.target.unbroken⟩

theorem Row.unbroken (r : Row) : r.text.Unbroken := by
  have hstatement : r.statement.text.Unbroken := by
    cases r.statement with
    | declaration spot => exact spot.unbroken
    | chain first hop more =>
      exact Text.unbroken_append.mpr ⟨first.unbroken, Text.unbroken_flatMap fun h _ => h.unbroken⟩
  have hending : (ending r.semicolon).Unbroken := by
    cases r.semicolon with
    | none => rintro c ⟨⟩
    | some gap => exact Text.unbroken_append.mpr ⟨gap.unbroken, by decide⟩
  simp only [text, core, Text.unbroken_append]
  exact ⟨r.indent.unbroken, ⟨hstatement, hending⟩, r.trailing.unbroken⟩

section Words

variable {s w word : String}

theorem toLower_of_isBlank {c : Char} (hc : isBlank c = true) : c.toLower = c := by
  unfold Char.toLower
  split
  · rename_i h
    have hrange : blankRanges.disjoint [(0x41, 0x5a)] = true := by decide
    have hupper := Ranges.not_contains_of_disjoint hrange (blankRanges_contains hc)
    have hcontains : Ranges.contains [(0x41, 0x5a)] c.toNat = true :=
      Ranges.contains_iff.mpr ⟨_, List.mem_singleton_self _, by
        simpa [UInt32.le_iff_toNat_le] using h⟩
    rw [hcontains] at hupper
    cases hupper
  · rfl

theorem toList_toLower (s : String) : s.toLower.toList = s.toList.map Char.toLower :=
  String.toList_map

/-- Keywords are compared in small letters. -/
theorem map_lower_ofString (s : String) :
    (Text.ofString s).map Text.afterWord?.lower = Text.ofString s.toLower := by
  simp [Text.ofString, toList_toLower, Function.comp_def, Text.afterWord?.lower]

/-- Letters change case one by one, so a word stays as long as it is. -/
theorem length_of_toLower (hs : s.toLower = w) : (Text.ofString s).length = w.length := by
  rw [← hs]
  simp only [Text.ofString, List.length_map, ← String.length_toList, toList_toLower]

/-- A word is found whatever the case of its letters. -/
theorem afterWord?_self (hs : s.toLower = w) (t : Text) :
    Text.afterWord? w (Text.ofString s ++ t) = some t := by
  have hlength := length_of_toLower hs
  rw [Text.afterWord?, ← hlength, List.take_left, List.drop_left, map_lower_ofString, hs,
    if_pos rfl]

/-- A keyword is not taken for another one. -/
theorem afterWord?_other (hs : s.toLower = w) (hle : word.length ≤ w.length)
    (hne : Text.ofString word ≠ (Text.ofString w).take word.length) (t : Text) :
    Text.afterWord? word (Text.ofString s ++ t) = none := by
  rw [← length_of_toLower hs] at hle
  rw [Text.afterWord?, List.take_append_of_le_length hle, List.map_take, map_lower_ofString, hs,
    if_neg hne]

/-- A text without any blank. -/
def Bare (t : Text) : Prop := t ≠ [] ∧ ∀ c ∈ t, c.isBlank = false

theorem Bare.solid (ht : Bare t) : t.Solid :=
  ⟨ht.1, fun c hc => ht.2 c (List.mem_of_head? hc), fun c hc => ht.2 c (List.mem_of_getLast? hc)⟩

theorem Bare.unbroken (ht : Bare t) : t.Unbroken := by
  intro c hc
  refine Bool.eq_false_iff.mpr fun hbreak => ?_
  have hblank := ht.2 c hc
  rw [CodePoint.isBlank_of_isLineBreak hbreak] at hblank
  cases hblank

/-- A word without blanks stands for itself when it is trimmed. -/
theorem bare_ofString (hs : s.toLower = w) (hne : w.toList ≠ [])
    (hw : w.toList.all (!isBlank ·) = true) : Bare (Text.ofString s) := by
  have hchars : w.toList = s.toList.map Char.toLower := by
    rw [← hs, toList_toLower]
  refine ⟨fun hnil => hne ?_, fun c hc => ?_⟩
  · rw [hchars, List.map_eq_nil_iff.mp hnil]
    rfl
  · obtain ⟨d, hd, rfl⟩ := List.mem_map.mp hc
    refine Bool.eq_false_iff.mpr fun hblank => ?_
    have hlower := List.all_eq_true.mp hw d.toLower (hchars ▸ List.mem_map_of_mem hd)
    rw [toLower_of_isBlank hblank, show isBlank d = true from hblank] at hlower
    cases hlower

end Words

theorem Heading.bare_keyword (h : Heading) : Bare (Text.ofString h.keyword) := by
  have hkeyword := h.is_keyword
  simp only [List.mem_cons, List.not_mem_nil, or_false] at hkeyword
  rcases hkeyword with hs | hs
  all_goals exact bare_ofString hs (by decide) (by decide)

theorem Heading.bare_direction (h : Heading) : Bare (Text.ofString h.direction) := by
  have hdirection := h.is_direction
  simp only [List.mem_cons, List.not_mem_nil, or_false] at hdirection
  rcases hdirection with hs | hs | hs | hs | hs
  all_goals exact bare_ofString hs (by decide) (by decide)

/-- The direction is read as it is meant, where the word ends after it. -/
theorem findSome?_direction (h : Heading) (hrest : ∀ c ∈ rest.head?, c.isWord = false) :
    (directions.findSome? fun d => (Text.afterWord? d.1 (Text.ofString h.direction ++ rest)).bind
      fun after => if (after.head?.map CodePoint.isWord) = some true then none else some d.2) =
    some h.isHorizontal := by
  have hword : ¬ (rest.head?.map CodePoint.isWord) = some true := by
    cases hhead : rest.head? with
    | none => simp
    | some c => simp [hrest c hhead]
  have hdirection := h.is_direction
  simp only [List.mem_cons, List.not_mem_nil, or_false] at hdirection
  rcases hdirection with hs | hs | hs | hs | hs
  all_goals
    have hself := afterWord?_self hs rest
    have hother : ∀ word : String, word.length ≤ 2 →
        Text.ofString word ≠ (Text.ofString _).take word.length → _ :=
      fun _ hle hne => afterWord?_other hs hle hne rest
    simp (disch := decide) only [directions, List.findSome?_cons, hself, hother, Option.bind_some,
      Option.bind_none, if_neg hword]
    simp [Heading.isHorizontal, hs]

/-- A heading is known by its words, and tells the direction. -/
theorem header?_text (h : Heading) (hrest : ∀ c ∈ rest.head?, c.isWord = false) :
    header? (Text.ofString h.keyword ++ (h.gap.text ++ (Text.ofString h.direction ++ rest))) =
      some h.isHorizontal := by
  have hskip : Text.skipBlanks (h.gap.text ++ (Text.ofString h.direction ++ rest)) =
      Text.ofString h.direction ++ rest := by
    rw [Text.skipBlanks_append h.gap.blank,
      Text.skipBlanks_of_head h.bare_direction.solid.head_append]
  have hblank : ((h.gap.text ++ (Text.ofString h.direction ++ rest)).head?.map fun c =>
      c.satisfies isBlank) = some true := by
    obtain ⟨c, more, hgap⟩ := List.exists_cons_of_ne_nil h.gap_ne
    have hc := h.gap.blank c (by simp [hgap])
    simpa [hgap] using hc
  have hkeyword := h.is_keyword
  simp only [List.mem_cons, List.not_mem_nil, or_false] at hkeyword
  rcases hkeyword with hs | hs
  · rw [header?, List.findSome?_cons, afterWord?_self hs, Option.bind_some, if_pos hblank, hskip,
      findSome?_direction h hrest]
  · rw [header?, List.findSome?_cons, afterWord?_other hs (by decide) (by decide),
      Option.bind_none, List.findSome?_cons, afterWord?_self hs, Option.bind_some, if_pos hblank,
      hskip, findSome?_direction h hrest]

/-- Of a heading, the blanks around it are trimmed away. -/
theorem Heading.trim_text (h : Heading) : h.text.trim =
    Text.ofString h.keyword ++ (h.gap.text ++ (Text.ofString h.direction ++ h.rest.trimEnd)) := by
  have hsolid := solid_append h.bare_keyword.solid h.gap.text h.bare_direction.solid
  have hsplit : h.text = h.indent.text ++
      ((Text.ofString h.keyword ++ (h.gap.text ++ Text.ofString h.direction)) ++ h.rest) := by
    simp [text]
  rw [hsplit, hsolid.trim_append h.indent.blank h.rest, List.append_assoc, List.append_assoc]

/-- A heading tells its direction, in any letter case and with any blanks around. -/
theorem Heading.header?_trim (h : Heading) : header? h.text.trim = some h.isHorizontal := by
  rw [h.trim_text]
  refine header?_text h fun c hc => h.rest_word c ?_
  obtain ⟨blanks, hblanks⟩ := Text.trimEnd_prefix h.rest
  rw [← hblanks]
  cases hrest : h.rest.trimEnd with
  | nil =>
    rw [hrest] at hc
    cases hc
  | cons d more =>
    rw [hrest] at hc
    exact hc

theorem Heading.unbroken (h : Heading) : h.text.Unbroken := by
  simp only [text, Text.unbroken_append]
  exact ⟨⟨⟨⟨h.indent.unbroken, h.bare_keyword.unbroken⟩, h.gap.unbroken⟩,
    h.bare_direction.unbroken⟩, h.rest_unbroken⟩

/-- Nodes are declared as they come, but one id only once. -/
theorem foldl_declare (nodes more : List Node) :
    more.foldl declare nodes =
      nodes ++ (firsts more).filter fun n => n.id ∉ nodes.map (·.id) := by
  induction more generalizing nodes with
  | nil => simp [firsts]
  | cons n more ih =>
    rw [List.foldl_cons, ih, ids_declare, firsts]
    by_cases hn : n.id ∈ nodes.map (·.id)
    · have hdeclare : declare nodes n = nodes := by
        simpa [declare] using hn
      rw [if_pos hn, hdeclare, List.filter_cons_of_neg (by simpa using hn), List.filter_filter]
      congr 1
      apply List.filter_congr
      intro m _
      rw [Bool.eq_iff_iff]
      simp only [decide_eq_true_eq, Bool.and_eq_true]
      refine ⟨fun hm => ⟨hm, ?_⟩, fun hm => hm.1⟩
      rintro he
      exact hm (he ▸ hn)
    · have hdeclare : declare nodes n = nodes ++ [n] := by
        simpa [declare] using hn
      rw [if_neg hn, hdeclare, List.filter_cons_of_pos (by simpa using hn), List.filter_filter,
        List.append_assoc, List.singleton_append]
      congr 2
      apply List.filter_congr
      intro m _
      rw [Bool.eq_iff_iff]
      simp only [decide_eq_true_eq, Bool.and_eq_true, List.mem_append, List.mem_singleton, not_or]

/-- A script is split into the lines that it is made of. -/
theorem lines_text (s : Script) :
    s.text.lines = s.heading.text :: s.rows.map fun r => r.2.text := by
  have hheading : s.heading.text.Unbroken ∧ s.heading.text ≠ [] :=
    ⟨s.heading.unbroken, by simp [Heading.text, s.heading.bare_keyword.1]⟩
  have hrows : ∀ p ∈ s.rows.map (fun r => (r.1.text, r.2.text)),
      Text.IsBreak p.1 ∧ Text.Unbroken p.2 ∧ p.2 ≠ [] := by
    intro p hp
    obtain ⟨r, -, rfl⟩ := List.mem_map.mp hp
    exact ⟨r.1.is_break, r.2.unbroken, by simp [Row.text, r.2.solid.ne]⟩
  have hfinal : s.final.elim [] Break.text = [] ∨ Text.IsBreak (s.final.elim [] Break.text) := by
    cases s.final with
    | none => exact .inl rfl
    | some b => exact .inr b.is_break
  have hlines := Text.lines_joined hheading hrows hfinal
  rw [List.flatMap_map, List.map_map] at hlines
  rw [Script.text, List.append_assoc]
  exact hlines

/-- A text in the grammar is read as the chart that it means. -/
theorem ofText_text_eq_chart (s : Script) : Flowchart.ofText s.text = s.chart := by
  have hheading : s.heading.text.trim ≠ [] := by
    rw [s.heading.trim_text]
    simp [s.heading.bare_keyword.1]
  have hlines : (s.text.lines.map Text.trim).filter (!·.isEmpty) =
      s.heading.text.trim :: s.rows.map fun r => r.2.core := by
    rw [lines_text, List.map_cons, List.map_map, List.filter_cons_of_pos (by simpa using hheading)]
    have hrows : ∀ t ∈ s.rows.map (Text.trim ∘ fun r => r.2.text), (!t.isEmpty) = true := by
      intro t ht
      obtain ⟨r, -, rfl⟩ := List.mem_map.mp ht
      rw [Function.comp_apply, r.2.trim_text]
      simpa using r.2.solid.ne
    rw [List.filter_eq_self.mpr hrows]
    simp [Row.trim_text]
  have hnodes : (s.rows.map fun r => r.2.core).flatMap (fun l => (contribution l).nodes) =
      s.rows.flatMap fun r => r.2.statement.spots.map Spot.node := by
    simp [List.flatMap_map, contribution_core]
  have hedges : (s.rows.map fun r => r.2.core).flatMap (fun l => (contribution l).edges) =
      s.rows.flatMap fun r => r.2.statement.edges := by
    simp [List.flatMap_map, contribution_core]
  rw [Flowchart.ofText, hlines]
  simp only [s.heading.header?_trim]
  rw [Flowchart.ofLines, hnodes, hedges, foldl_declare]
  simp [Script.chart]

namespace Mixed

def noGap : Gap := ⟨[], by decide, by decide⟩

def space : Gap := ⟨.ofString " ", by decide, by decide⟩

def spotA : Spot :=
  ⟨.ofString "A", by decide, by decide,
    some ⟨.rectangle, .ofString "x --> y", by decide, by decide⟩⟩

def spotB : Spot := ⟨.ofString "B", by decide, by decide, none⟩

def again : Spot :=
  ⟨.ofString "A", by decide, by decide, some ⟨.ellipse, .ofString "late", by decide, by decide⟩⟩

def yes : Inside .dashes :=
  ⟨.ofString "yes - so", by decide, by decide, by simp [Around.notFirst, Text.ofString],
    by decide, by decide, by decide⟩

def no : Bar := ⟨noGap, .ofString "\"no\"", by decide, by decide⟩

def row : Row where
  indent := space
  statement := .chain spotA ⟨space, .around .dashes space yes space, space, spotB⟩
    [⟨noGap, .plain .line 0 none, noGap, spotB⟩, ⟨space, .plain .dotted 1 (some no), space, again⟩]
  semicolon := some noGap
  trailing := noGap
  kept := by decide

def script : Script where
  heading := ⟨noGap, "Graph", by decide +kernel, space, by decide, "LR",
    by decide +kernel, [], by decide, by decide⟩
  rows := [(⟨.ofString "\r\n", .inl rfl⟩, row)]
  final := none

end Mixed

theorem ofText_text_eq_chart_mixed :
    Mixed.script.text = .ofString
      "Graph LR\r\n A[x --> y] -- yes - so --> B---B -..->|\"no\"| A(late);" ∧
    Flowchart.ofText Mixed.script.text = Mixed.script.chart ∧
    Mixed.script.chart.nodes = [⟨.ofString "A", .ofString "x --> y", .known .rectangle⟩,
      ⟨.ofString "B", .ofString "B", .known .rectangle⟩] ∧
    Mixed.script.chart.edges = [⟨.ofString "A", .ofString "B", some (.ofString "yes - so")⟩,
      ⟨.ofString "B", .ofString "B", none⟩,
      ⟨.ofString "B", .ofString "A", some (.ofString "no")⟩] :=
  ⟨by decide +kernel, ofText_text_eq_chart Mixed.script, by decide +kernel, by decide +kernel⟩

end Easel.Grammar
