import Easel.Proofs.Flowchart.Links

/-! Every row of the grammar adds to a chart the nodes and edges that it means. -/
namespace Easel.Grammar

variable {t rest : Text}

theorem stops_nil : Stops [] := by
  rintro c ⟨⟩

/-- Marks of connectors, and the semicolon, are no characters of words. -/
theorem stops_mark {mark : Char} (hmark : mark = '-' ∨ mark = '=' ∨ mark = ';') (t : Text) :
    Stops (.scalar mark :: t) := by
  rintro c ⟨⟩
  rcases hmark with rfl | rfl | rfl
  all_goals exact ⟨by decide, fun kind => by cases kind <;> decide⟩

theorem stops_gap_append (g : Gap) (ht : Stops t) : Stops (g.text ++ t) :=
  stops_append_of_blanks g.blank ht

theorem stops_hop (h : Hop) (rest : Text) : Stops (h.text ++ rest) := by
  obtain ⟨mark, more, hhead, hmark⟩ :=
    h.connector.head_text (h.after.text ++ (h.target.text ++ rest))
  rw [h.text_append, hhead]
  refine stops_gap_append _ (stops_mark ?_ more)
  rcases hmark with rfl | rfl
  · exact .inl rfl
  · exact .inr (.inl rfl)

/-- A node is read up to the first hop. -/
theorem stops_hops (hops : List Hop) (ht : Stops t) : Stops (hops.flatMap Hop.text ++ t) := by
  cases hops with
  | nil => exact ht
  | cons h more =>
    rw [List.flatMap_cons, List.append_assoc]
    exact stops_hop h _

/-- By induction on the hops: a chain is read back link by link. -/
theorem links_text (hops : List Hop) (ht : Stops t) (hend : link? t = none) :
    links (hops.flatMap Hop.text ++ t) = hops.map Hop.link := by
  induction hops with
  | nil => exact links_of_none hend
  | cons h more ih =>
    rw [List.flatMap_cons, List.append_assoc, links_of_some (link?_text h (stops_hops more ht)), ih,
      List.map_cons]

/-- Each edge leaves the node that the one before leads to. -/
theorem edgesFrom_links (first : Spot) (hops : List Hop) :
    edgesFrom first.id (hops.map Hop.link) =
      List.zipWith (fun source h => ⟨source.id, h.target.id, h.connector.label?⟩)
        (first :: hops.map Hop.target) hops := by
  induction hops generalizing first with
  | nil => rfl
  | cons h more ih =>
    rw [List.map_cons, List.map_cons, edgesFrom, List.zipWith_cons_cons, Connector.label?_eq]
    exact congrArg _ (ih h.target)

theorem stops_ending (semicolon : Option Gap) : Stops (ending semicolon) := by
  cases semicolon with
  | none => exact stops_nil
  | some gap => exact stops_gap_append gap (stops_mark (.inr (.inr rfl)) [])

theorem skipBlanks_ending (gap : Gap) : Text.skipBlanks (ending (some gap)) = [.scalar ';'] := by
  rw [ending, Text.skipBlanks_append gap.blank]
  rfl

/-- No link begins with what ends a statement. -/
theorem link?_ending (semicolon : Option Gap) : link? (ending semicolon) = none := by
  cases semicolon with
  | none => rfl
  | some gap =>
    rw [link?, skipBlanks_ending]
    rfl

/-- A statement may end with a semicolon, and with blanks around it. -/
theorem isLineEnd_ending (semicolon : Option Gap) : isLineEnd (ending semicolon) = true := by
  cases semicolon with
  | none => rfl
  | some gap =>
    rw [isLineEnd, skipBlanks_ending]
    rfl

/-- A statement begins with a node, and no directive does. -/
theorem not_isDirective (r : Row) : isDirective r.core = false := by
  rw [isDirective, List.any_eq_false]
  intro start hstart hprefix
  exact r.kept start hstart (List.isPrefixOf_iff_prefix.mp hprefix)

/-- A row adds its nodes and edges to the chart. -/
theorem contribution_core (r : Row) :
    contribution r.core = ⟨r.statement.spots.map Spot.node, r.statement.edges⟩ := by
  have hstops := stops_ending r.semicolon
  have hend := link?_ending r.semicolon
  rw [contribution, not_isDirective, if_neg Bool.false_ne_true, Row.core]
  cases r.statement with
  | declaration spot bracketed =>
    have hbracket : spot.mention.bracket.isSome = true := by simpa [Spot.mention] using bracketed
    simp only [Statement.text, spot.mention?_text hstops, links_of_none hend, hbracket,
      isLineEnd_ending, Bool.and_self, if_true, spot.node_mention]
    rfl
  | chain first hop more =>
    have hlinks := links_text (hop :: more) hstops hend
    have hmention := first.mention?_text (stops_hops (hop :: more) hstops)
    rw [Statement.text, List.append_assoc, hmention]
    have hnodes : first.mention.node :: (((hop :: more).map Hop.link).map fun l => l.target.node) =
        (Statement.chain first hop more).spots.map Spot.node := by
      simp [Statement.spots, Hop.link, Spot.node_mention, Function.comp_def]
    simp only [hlinks, List.map_cons]
    exact congrArg₂ Contribution.mk hnodes (edgesFrom_links first (hop :: more))

theorem Spot.solid (s : Spot) : s.text.Solid := by
  refine ⟨by simp [text, s.id_ne], ?_, ?_⟩
  · simpa using (s.names []).head_not_blank
  · intro c hc
    cases hs : s.bracket with
    | none =>
      have hmem : c ∈ s.id := List.mem_of_getLast? (by simpa [text, hs] using hc)
      exact CodePoint.isBlank_of_isWord (s.id_word c hmem)
    | some b =>
      have htext : s.text =
          (s.id ++ .scalar (opening b.kind) :: b.label.text) ++ [.scalar (closing b.kind)] := by
        simp [text, hs, Bracket.text]
      rw [htext, List.getLast?_concat] at hc
      cases hc
      cases b.kind <;> decide

theorem solid_append {a b : Text} (ha : a.Solid) (m : Text) (hb : b.Solid) :
    (a ++ (m ++ b)).Solid := by
  refine ⟨by simp [ha.ne], ha.head_append, ?_⟩
  rw [← List.append_assoc, List.getLast?_append_of_ne_nil _ hb.ne]
  exact hb.last

theorem Statement.solid (s : Statement) : s.text.Solid := by
  cases s with
  | declaration spot => exact spot.solid
  | chain first hop more =>
    -- the end of a chain is its last node
    obtain ⟨init, last, hsplit⟩ : ∃ init last, hop :: more = init ++ [last] :=
      ⟨_, _, (List.dropLast_append_getLast (List.cons_ne_nil hop more)).symm⟩
    have htext : (chain first hop more).text = first.text ++
        ((init.flatMap Hop.text ++ (last.before.text ++ (last.connector.text ++ last.after.text)))
          ++ last.target.text) := by
      simp [text, hsplit, Hop.text]
    rw [htext]
    exact solid_append first.solid _ last.target.solid

theorem Row.solid (r : Row) : r.core.Solid := by
  rw [core]
  cases r.semicolon with
  | none =>
    rw [ending, List.append_nil]
    exact r.statement.solid
  | some gap =>
    have hmark : Text.Solid [.scalar ';'] := ⟨by simp, by decide, by decide⟩
    exact solid_append r.statement.solid gap.text hmark

/-- Blanks around a statement are trimmed, and none of its own. -/
theorem Row.trim_text (r : Row) : r.text.trim = r.core :=
  r.solid.trim_eq r.indent.blank r.trailing.blank

end Easel.Grammar
