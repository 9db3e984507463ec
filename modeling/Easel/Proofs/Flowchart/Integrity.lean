import Easel.Proofs.Flowchart.Composition

/-! No text can spoil its chart: what it shows is neither empty nor surrounded by blanks, and each
of its nodes is there for a reason. -/
namespace Easel

namespace Grammar

variable {t line : Text} {n : Node}

/-- Labels are trimmed, and there is none if nothing is left. -/
theorem solid_of_cleanLabel? {label : Text} (h : t.cleanLabel? = some label) : label.Solid := by
  have htrim : ∃ inner : Text, shown? t = if inner.trim = [] then none else some inner.trim := by
    unfold shown?
    extract_lets quote quoted bare
    by_cases hquoted : quoted
    · exact ⟨_, by rw [show bare = _ from if_pos hquoted]⟩
    · exact ⟨_, by rw [show bare = _ from if_neg hquoted]⟩
  obtain ⟨inner, hinner⟩ := htrim
  rw [cleanLabel?_eq_shown?, hinner] at h
  split at h
  · cases h
  · rename_i hne
    obtain rfl := Option.some.inj h
    exact Text.solid_trim hne

/-- A name contains no blanks. -/
theorem solid_of_named {m : Mention} (hm : m.Named) : m.id.Solid where
  ne := hm.ne
  head c hc := CodePoint.isBlank_of_isWord (hm.word c (List.mem_of_mem_head? hc))
  last c hc := CodePoint.isBlank_of_isWord (hm.word c (List.mem_of_getLast? hc))

theorem solid_label_node {m : Mention} (hm : m.Named) : m.node.label.Solid := by
  unfold Mention.node
  split
  · exact solid_of_named hm
  · rename_i kind label _
    cases hlabel : Text.cleanLabel? label with
    | none => simpa [hlabel] using solid_of_named hm
    | some clean => simpa [hlabel] using solid_of_cleanLabel? hlabel

/-- A link and its edge in a chain. -/
theorem exists_link_of_mem {source : Text} {chain : List Link} {e : Edge}
    (he : e ∈ edgesFrom source chain) :
    ∃ l ∈ chain, l.target.id = e.target ∧ e.label = l.label.bind Text.cleanLabel? := by
  induction chain generalizing source with
  | nil => cases he
  | cons l more ih =>
    rcases List.mem_cons.mp he with rfl | he
    · exact ⟨l, List.mem_cons_self, rfl, rfl⟩
    · obtain ⟨k, hk, hkept⟩ := ih he
      exact ⟨k, List.mem_cons_of_mem _ hk, hkept⟩

/-- Each link of a chain has its edge. -/
theorem exists_edge_of_mem (source : Text) {chain : List Link} {l : Link} (hl : l ∈ chain) :
    ∃ e ∈ edgesFrom source chain, e.target = l.target.id := by
  induction chain generalizing source with
  | nil => cases hl
  | cons k more ih =>
    rcases List.mem_cons.mp hl with rfl | hl
    · exact ⟨_, List.mem_cons_self, rfl⟩
    · obtain ⟨e, he, htarget⟩ := ih k.target.id hl
      exact ⟨e, List.mem_cons_of_mem _ he, htarget⟩

/-- Why a node is in a chart: one of its lines declares it, or an edge begins or ends there. -/
inductive Grounded (lines : List Text) (edges : List Edge) (n : Node) : Prop
  | declared {line : Text} (hline : line ∈ lines) (hkept : ¬ IsSkipped line)
      (hnode : Declares line n)
  | linked {e : Edge} (he : e ∈ edges) (hend : e.source = n.id ∨ e.target = n.id)

/-- What a node stems from is still there among more lines and edges. -/
theorem Grounded.mono {lines lines' : List Text} {edges edges' : List Edge}
    (hlines : ∀ l ∈ lines, l ∈ lines') (hedges : ∀ e ∈ edges, e ∈ edges')
    (h : Grounded lines edges n) : Grounded lines' edges' n := by
  cases h with
  | declared hline hkept hnode => exact .declared (hlines _ hline) hkept hnode
  | linked he hend => exact .linked (hedges _ he) hend

/-- Each node that a line adds is one that it mentions, and is declared or linked there. -/
theorem node_of_mem_contribution (htrim : line.trim = line) (hn : n ∈ (contribution line).nodes) :
    (∃ m : Mention, m.Named ∧ m.node = n) ∧ Grounded [line] (contribution line).edges n := by
  by_cases hskipped : IsSkipped line
  · rw [contribution_of_skipped hskipped] at hn
    cases hn
  · rcases contribution_cases hskipped with ⟨hc, -⟩ | ⟨m, rest, hm, -, hend, hc⟩ |
      ⟨m, rest, l, more, hm, -, hlinks, hc⟩
    · rw [hc] at hn
      cases hn
    · rw [hc] at hn
      obtain rfl := List.mem_singleton.mp hn
      refine ⟨⟨m, named_of_mention? hm, rfl⟩, ?_⟩
      exact .declared List.mem_cons_self hskipped (declares_of_mention? htrim hm hend.1 hend.2)
    · rw [hc] at hn ⊢
      rcases List.mem_cons.mp hn with rfl | hn
      -- the first edge leaves the first node
      · refine ⟨⟨m, named_of_mention? hm, rfl⟩, ?_⟩
        exact .linked List.mem_cons_self (.inl (Mention.node_id m).symm)
      -- every other node is where some edge leads
      · obtain ⟨k, hk, rfl⟩ := List.mem_map.mp hn
        obtain ⟨e, he, htarget⟩ := exists_edge_of_mem m.id hk
        refine ⟨⟨k.target, named_of_mem_links (hlinks ▸ hk), rfl⟩, ?_⟩
        exact .linked he (.inr (htarget.trans (Mention.node_id _).symm))

/-- Labels of edges are cleaned like those of nodes. -/
theorem solid_of_mem_contribution {e : Edge} (he : e ∈ (contribution line).edges) :
    ∀ label ∈ e.label, label.Solid := by
  by_cases hskipped : IsSkipped line
  · rw [contribution_of_skipped hskipped] at he
    cases he
  · rcases contribution_cases hskipped with ⟨hc, -⟩ | ⟨m, rest, -, -, -, hc⟩ |
      ⟨m, rest, l, more, -, -, -, hc⟩
    · rw [hc] at he
      cases he
    · rw [hc] at he
      cases he
    · rw [hc] at he
      obtain ⟨k, -, -, hlabel⟩ := exists_link_of_mem he
      intro label hmem
      rw [hlabel] at hmem
      obtain ⟨written, -, hclean⟩ := Option.bind_eq_some_iff.mp hmem
      exact solid_of_cleanLabel? hclean

/-- A chart that is well-formed, shows its labels without blanks around them, and holds no node
without a reason. -/
structure Intact (lines : List Text) (c : Flowchart) : Prop extends c.WellFormed where
  node_labels : ∀ n ∈ c.nodes, n.label.Solid
  edge_labels : ∀ e ∈ c.edges, ∀ label ∈ e.label, label.Solid
  grounded : ∀ n ∈ c.nodes, Grounded lines c.edges n

theorem trim_of_mem_trimmed {lines : List Text} (h : line ∈ trimmed lines) : line.trim = line := by
  obtain ⟨raw, -, rfl⟩ := List.mem_map.mp (List.mem_filter.mp h).1
  exact Text.trim_trim raw

/-- All that a chart has stems from one of its lines, and is intact there. -/
theorem ofLines_intact (horizontal : Bool) {lines : List Text}
    (htrim : ∀ line ∈ lines, line.trim = line) :
    Intact lines (Flowchart.ofLines horizontal lines) where
  toWellFormed := ofLines_wellFormed horizontal lines
  node_labels := by
    intro n hn
    obtain ⟨line, hline, hn⟩ := exists_line_of_mem_nodes hn
    obtain ⟨⟨m, hm, rfl⟩, -⟩ := node_of_mem_contribution (htrim line hline) hn
    exact solid_label_node hm
  edge_labels := by
    intro e he
    obtain ⟨line, -, he⟩ := List.mem_flatMap.mp he
    exact solid_of_mem_contribution he
  grounded := by
    intro n hn
    obtain ⟨line, hline, hn⟩ := exists_line_of_mem_nodes hn
    obtain ⟨-, hgrounded⟩ := node_of_mem_contribution (htrim line hline) hn
    refine hgrounded.mono (fun l hl => ?_) fun e he => List.mem_flatMap.mpr ⟨line, hline, he⟩
    rwa [List.mem_singleton.mp hl]

/-- Every text reads as a chart whose ids are distinct words, whose edges join its nodes, whose
labels are without blanks around them, and whose nodes each are declared by a line of the text or
linked. -/
theorem ofText_intact (t : Text) : Intact (trimmed t.lines) (Flowchart.ofText t) := by
  obtain ⟨horizontal, body, hbody, heq⟩ := exists_body t
  have htrim : ∀ line ∈ body, line.trim = line := fun line hline =>
    trim_of_mem_trimmed (hbody.subset hline)
  have hintact := ofLines_intact horizontal htrim
  rw [heq]
  exact { hintact with
    grounded := fun n hn => (hintact.grounded n hn).mono (fun l hl => hbody.subset hl)
      fun e he => he }

/-- Two of these labels are nothing but blanks in quotes. -/
def blankLabels : Text := .ofString "A[\"  \"] -- \" \" --> B[\" x \"]"

example : (Flowchart.ofText blankLabels).nodes.map (·.label) = [.ofString "A", .ofString "x"] ∧
    (Flowchart.ofText blankLabels).edges = [⟨.ofString "A", .ofString "B", none⟩] := by
  decide +kernel

end Grammar

end Easel
