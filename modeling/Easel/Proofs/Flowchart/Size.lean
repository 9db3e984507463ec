import Mathlib.Algebra.GroupWithZero.Nat
import Easel.Proofs.Element.Ownership
import Easel.Proofs.Flowchart.Compile
import Easel.Proofs.Flowchart.Composition

/-! How far readers get and how much a chart holds: links take three characters or more, so that
reading them comes to an end, and a text cannot have many more elements than characters. -/
namespace Easel

variable {t rest line : Text}

/-- How many elements an edge takes: its arrow, and a text if it has a label. -/
def Edge.size (e : Edge) : Nat := 1 + e.label.toList.length

/-- How many elements nodes and edges take. Each node has a text in it. -/
def volume (nodes : List Node) (edges : List Edge) : Nat :=
  2 * nodes.length + (edges.map Edge.size).sum

/-- Sizes add up. -/
theorem volume_append (nodes more : List Node) (edges further : List Edge) :
    volume (nodes ++ more) (edges ++ further) = volume nodes edges + volume more further := by
  simp only [volume, List.length_append, List.map_append, List.sum_append]
  omega

/-- The characters that a link takes at least. -/
def Link.room (l : Link) : Nat := 3 + l.label.toList.length

namespace Grammar

/-- A connector has two characters at least. -/
theorem length_of_isStroke {stroke : Text} (h : IsStroke stroke) : 2 ≤ stroke.length := by
  cases h with
  | dashes n => simp
  | arrow n | thick n | dotted n => simp [Text.ofString]

/-- A stroke around a label takes three characters, as do its opening mark and its head. -/
theorem length_read?_add_le {form : Around} {label : Text}
    (h : form.stroke.read? t = some (label, rest)) : rest.length + 3 ≤ t.length := by
  obtain ⟨opened, hopened, h⟩ := Option.bind_eq_some_iff.mp h
  have hopening : form.stroke.opening.length = 2 := by cases form <;> rfl
  have hlength := congrArg List.length (eq_append_of_after? hopened)
  rw [List.length_append, hopening] at hlength
  have hskip := length_skipBlanks_le opened
  have hdrop := length_dropWhile_le (fun c => !endsLabel c) (Text.skipBlanks opened)
  simp only at h
  split at h
  · rename_i after hafter
    rw [hafter, List.length_cons] at hdrop
    split at h
    · split at h
      · cases h
      · cases h
        omega
    · cases h
  · cases h

theorem length_barLabel_add_le (t : Text) :
    (barLabel t).2.length + (barLabel t).1.toList.length ≤ t.length := by
  have hskip := length_skipBlanks_le t
  unfold barLabel
  split
  · rename_i inside hinside
    rw [hinside, List.length_cons] at hskip
    split
    · rename_i label after hbefore
      have hlength := Text.length_before? hbefore
      simp only [Option.toList_some, List.length_singleton]
      omega
    · simp
  · simp

/-- A stroke takes two characters, and another one for a label. -/
theorem length_of_mem_strokes_add_le {s : Option Text × Text} (hs : s ∈ strokes t) :
    s.2.length + (2 + s.1.toList.length) ≤ t.length := by
  rw [strokes, List.mem_append] at hs
  rcases hs with hs | hs
  · obtain ⟨stroke, hstroke, hread⟩ := List.mem_filterMap.mp hs
    obtain ⟨r, hr, rfl⟩ := Option.map_eq_some_iff.mp hread
    rw [all_strokes] at hstroke
    simp only [List.mem_cons, List.not_mem_nil, or_false] at hstroke
    rcases hstroke with rfl | rfl | rfl
    all_goals exact length_read?_add_le hr
  · obtain ⟨after, hafter, rfl⟩ := List.mem_map.mp hs
    obtain ⟨stroke, hstroke, rfl⟩ := isStroke_of_bareStroke? (Option.mem_toList.mp hafter)
    have hbar := length_barLabel_add_le after
    have hbare := length_of_isStroke hstroke
    rw [List.length_append]
    omega

/-- A link takes up the room that its elements need. -/
theorem length_link?_add_le {l : Link} (h : link? t = some (l, rest)) :
    rest.length + l.room ≤ t.length := by
  obtain ⟨s, hs, hread⟩ := List.exists_of_findSome?_eq_some h
  obtain ⟨r, hr, heq⟩ := Option.map_eq_some_iff.mp hread
  cases heq
  have hmention := length_mention? hr
  have hskip := length_skipBlanks_le s.2
  have hstroke := length_of_mem_strokes_add_le hs
  have hstart := length_skipBlanks_le t
  simp only [Link.room]
  omega

/-- What a link leaves is the end of the text in which it was read. -/
theorem suffix_of_link? {l : Link} (h : link? t = some (l, rest)) : rest <:+ t := by
  obtain ⟨s, hs, hread⟩ := List.exists_of_findSome?_eq_some h
  obtain ⟨r, hr, heq⟩ := Option.map_eq_some_iff.mp hread
  cases heq
  obtain ⟨spot, -, hspot⟩ := isSpot_of_mention? hr
  obtain ⟨connector, -, hconnector⟩ := isConnector_of_mem_strokes hs
  have htarget : r.2 <:+ s.2 :=
    (hspot ▸ List.suffix_append spot r.2).trans (List.dropWhile_suffix _)
  have hstroke : s.2 <:+ t := (hconnector ▸ List.suffix_append connector s.2).trans
    (List.dropWhile_suffix _)
  exact htarget.trans hstroke

/-- Two characters for the connector and one for the node. -/
theorem exists_taken_of_link? {l : Link} (h : link? t = some (l, rest)) :
    ∃ taken, t = taken ++ rest ∧ 3 ≤ taken.length := by
  obtain ⟨taken, rfl⟩ := suffix_of_link? h
  have hlength := length_link?_add_le h
  rw [List.length_append, Link.room] at hlength
  exact ⟨taken, rfl, by omega⟩

/-- Links that are read one after the other until no further link follows. -/
inductive Chain : Text → List Link → Text → Prop
  | done {t : Text} (hnone : link? t = none) : Chain t [] t
  | next {t rest last : Text} {l : Link} {more : List Link} (hlink : link? t = some (l, rest))
      (hmore : Chain rest more last) : Chain t (l :: more) last

/-- Wherever reading starts, it ends after the links that are found. -/
theorem chain_links (t : Text) : ∃ last, Chain t (links t) last := by
  fun_induction links t with
  | case1 t hnone => exact ⟨t, .done hnone⟩
  | case2 t l rest hlink ih =>
    obtain ⟨last, hlast⟩ := ih
    exact ⟨last, .next hlink hlast⟩

/-- By induction on the chain: its links take up room one after the other. -/
theorem Chain.length_le {chain : List Link} {last : Text} (h : Chain t chain last) :
    last.length + (chain.map Link.room).sum ≤ t.length := by
  induction h with
  | done => simp
  | next hlink _ ih =>
    have hroom := length_link?_add_le hlink
    rw [List.map_cons, List.sum_cons]
    omega

/-- Each link has room for three characters, whatever it is. -/
theorem mul_length_le_rooms (chain : List Link) :
    3 * chain.length ≤ (chain.map Link.room).sum := by
  induction chain with
  | nil => rfl
  | cons l more ih =>
    rw [List.length_cons, List.map_cons, List.sum_cons, Link.room]
    omega

theorem rooms_links_le (t : Text) : ((links t).map Link.room).sum ≤ t.length := by
  obtain ⟨last, hlast⟩ := chain_links t
  exact Nat.le_trans (Nat.le_add_left _ _) hlast.length_le

theorem length_edgesFrom (source : Text) (chain : List Link) :
    (edgesFrom source chain).length = chain.length := by
  induction chain generalizing source with
  | nil => rfl
  | cons l more ih => rw [edgesFrom, List.length_cons, List.length_cons, ih]

/-- Two characters of each link are left for the node at its end. -/
theorem sizes_edgesFrom_add_le (source : Text) (chain : List Link) :
    ((edgesFrom source chain).map Edge.size).sum + 2 * chain.length ≤
      (chain.map Link.room).sum := by
  induction chain generalizing source with
  | nil => rfl
  | cons l more ih =>
    have hlabel : (l.label.bind Text.cleanLabel?).toList.length ≤ l.label.toList.length := by
      cases l.label with
      | none => rfl
      | some label =>
        rw [Option.bind_some]
        cases label.cleanLabel? <;> simp
    have hmore := ih l.target.id
    simp only [edgesFrom, List.map_cons, List.sum_cons, List.length_cons, Edge.size, Link.room]
    omega

/-- Each edge starts where the one before it ends. -/
def Joined (edges : List Edge) : Prop := List.IsChain (fun e f => e.target = f.source) edges

theorem joined_edgesFrom (source : Text) (chain : List Link) : Joined (edgesFrom source chain) := by
  induction chain generalizing source with
  | nil => exact .nil
  | cons l more ih =>
    cases more with
    | nil => exact .singleton _
    | cons k more => exact .cons_cons rfl (ih l.target.id)

/-- The nodes and edges that a line adds come to one element more than it has characters at most. -/
theorem contribution_fits (line : Text) :
    ((contribution line).edges ≠ [] → 3 * (contribution line).edges.length + 1 ≤ line.length) ∧
    Joined (contribution line).edges ∧
    volume (contribution line).nodes (contribution line).edges ≤ line.length + 1 := by
  by_cases hskipped : IsSkipped line
  · rw [contribution_of_skipped hskipped]
    exact ⟨fun hne => (hne rfl).elim, .nil, Nat.zero_le _⟩
  · rcases contribution_cases hskipped with ⟨hc, -⟩ | ⟨m, rest, hm, -, -, hc⟩ |
      ⟨m, rest, l, more, hm, -, hlinks, hc⟩
    · rw [hc]
      exact ⟨fun hne => (hne rfl).elim, .nil, Nat.zero_le _⟩
    · have hfirst := length_mention? hm
      rw [hc]
      refine ⟨fun hne => (hne rfl).elim, .nil, ?_⟩
      simp only [volume, List.length_singleton, List.map_nil, List.sum_nil]
      omega
    -- the first node takes a character, and the links have the rest of the line
    · have hfirst := length_mention? hm
      have hrooms := rooms_links_le rest
      have hlength := mul_length_le_rooms (l :: more)
      have hsizes := sizes_edgesFrom_add_le m.id (l :: more)
      rw [hlinks] at hrooms
      simp only [hc]
      refine ⟨fun _ => ?_, joined_edgesFrom m.id (l :: more), ?_⟩
      · rw [length_edgesFrom]
        omega
      · rw [volume, List.length_cons, List.length_map]
        omega

/-- The characters of lines, and one for each line to end it. -/
def extent (lines : List Text) : Nat := (lines.map fun line => line.length + 1).sum

theorem extent_cons (line : Text) (lines : List Text) :
    extent (line :: lines) = line.length + 1 + extent lines := by
  rw [extent, List.map_cons, List.sum_cons, extent]

/-- A text is as long as its lines with their ends, of which the last one may be missing. -/
theorem extent_lines_le (t : Text) : extent t.lines ≤ t.length + 1 := by
  fun_induction Text.lines t with
  | case1 => exact Nat.zero_le 1
  | case2 rest ih =>
    rw [extent_cons]
    simp only [List.length_nil, List.length_cons]
    omega
  | case3 c rest _ _ ih =>
    rw [extent_cons]
    simp only [List.length_nil, List.length_cons]
    omega
  | case4 c rest _ _ hnil ih =>
    rw [extent_cons]
    simp [extent]
  | case5 c rest _ _ line more hlines ih =>
    rw [hlines, extent_cons] at ih
    rw [extent_cons, List.length_cons, List.length_cons]
    omega

theorem length_trim_le (t : Text) : t.trim.length ≤ t.length :=
  Nat.le_trans (Text.trimEnd_prefix t.skipBlanks).length_le (length_skipBlanks_le t)

/-- Trimming does not make lines longer. -/
theorem extent_trimmed_le (lines : List Text) : extent (trimmed lines) ≤ extent lines := by
  induction lines with
  | nil => rfl
  | cons line more ih =>
    have htrim := length_trim_le line
    rw [trimmed_cons, extent_cons]
    split
    · omega
    · rw [extent_cons]
      omega

theorem extent_suffix_le {body lines : List Text} (h : body <:+ lines) :
    extent body ≤ extent lines := by
  obtain ⟨first, rfl⟩ := h
  rw [extent, extent, List.map_append, List.sum_append]
  exact Nat.le_add_left _ _

/-- Nodes that are declared again add nothing. -/
theorem length_declareAll_le (nodes more : List Node) :
    (more.foldl declare nodes).length ≤ nodes.length + more.length := by
  induction more generalizing nodes with
  | nil => rfl
  | cons n more ih =>
    have hone : (declare nodes n).length ≤ nodes.length + 1 := by
      unfold declare
      split <;> simp
    have hrest := ih (declare nodes n)
    rw [List.foldl_cons, List.length_cons]
    omega

/-- All lines together say no more than they are long. -/
theorem volume_lines_le (lines : List Text) :
    volume (lines.flatMap fun l => (contribution l).nodes)
      (lines.flatMap fun l => (contribution l).edges) ≤ extent lines := by
  induction lines with
  | nil => rfl
  | cons line more ih =>
    have hline := (contribution_fits line).2.2
    rw [List.flatMap_cons, List.flatMap_cons, volume_append, extent_cons]
    omega

/-- Nodes that are declared again do not count again. -/
theorem volume_ofText_le (t : Text) :
    volume (Flowchart.ofText t).nodes (Flowchart.ofText t).edges ≤ t.length + 1 := by
  obtain ⟨horizontal, body, hbody, heq⟩ := exists_body t
  have hlines := volume_lines_le body
  have hnodes := length_declareAll_le [] (body.flatMap fun l => (contribution l).nodes)
  have hextent := Nat.le_trans (extent_suffix_le hbody)
    (Nat.le_trans (extent_trimmed_le t.lines) (extent_lines_le t))
  rw [heq, Flowchart.ofLines]
  simp only [volume, List.length_nil] at hlines hnodes ⊢
  omega

end Grammar

namespace Flowchart

theorem length_boxSketches (arrows : Text → List Dependent) (ids : IdSupply) (nodes : List Node) :
    (boxSketches arrows ids nodes).length = 2 * nodes.length := by
  induction nodes generalizing ids with
  | nil => rfl
  | cons n nodes ih =>
    rw [boxSketches, List.length_append, ih, Node.sketches, List.length_cons]
    simp only [List.length_cons, List.length_nil]
    omega

theorem length_sketches (s : Stroke) : s.sketches.length = s.edge.size := by
  unfold Stroke.sketches Edge.size
  cases s.edge.label <;> rfl

/-- Arrows count once, and once more if they have a label. -/
theorem length_strokes (ids : IdSupply) (edges : List Edge) :
    ((strokesOf ids edges).flatMap Stroke.sketches).length = (edges.map Edge.size).sum := by
  induction edges generalizing ids with
  | nil => rfl
  | cons e edges ih =>
    rw [strokesOf, List.flatMap_cons, List.length_append, ih, length_sketches, List.map_cons,
      List.sum_cons]

/-- The elements of a chart are as many as its sketch counts. -/
theorem WellFormed.length_compileShapes {c : Flowchart} (h : c.WellFormed) (ids : IdSupply) :
    ∃ shapes, c.toShapes = .ok shapes ∧
      (compileShapes shapes ids).1.length = volume c.nodes c.edges := by
  obtain ⟨shapes, hshapes, -, hsketches⟩ := h.elementsOf_toShapes ids
  refine ⟨shapes, hshapes, ?_⟩
  have hlength := congrArg List.length hsketches
  rw [List.length_map, unreferred, List.length_append, length_boxSketches, strokes,
    length_strokes] at hlength
  rw [compileShapes]
  exact (length_registerArrows _).trans hlength

theorem length_compile_le (definition : Text) (ids : IdSupply) :
    ∃ es rest, compile definition ids = .ok (es, rest) ∧ es.length ≤ definition.length + 1 := by
  obtain ⟨shapes, hshapes, hlength⟩ := (ofText_wellFormed definition).length_compileShapes ids
  refine ⟨(compileShapes shapes ids).1, (compileShapes shapes ids).2, ?_, ?_⟩
  · rw [compile, hshapes]
    rfl
  · rw [hlength]
    exact Grammar.volume_ofText_le definition

end Flowchart

namespace Grammar

/-- A link takes three characters or more of what is left of a line, so that reading links comes to
an end. A line with links is longer than three times their number, and each of its edges starts
where the one before it ends. The elements of a text are one more than its characters at most. -/
theorem links_and_elements_fit :
    (∀ (t rest : Text) (l : Link), link? t = some (l, rest) →
      ∃ taken, t = taken ++ rest ∧ 3 ≤ taken.length) ∧
    (∀ t, ∃ last, Chain t (links t) last ∧ last.length + 3 * (links t).length ≤ t.length) ∧
    (∀ line, (contribution line).edges ≠ [] →
      3 * (contribution line).edges.length + 1 ≤ line.length) ∧
    (∀ line, Joined (contribution line).edges) ∧
    ∀ (definition : Text) (ids : IdSupply), ∃ es rest,
      Flowchart.compile definition ids = .ok (es, rest) ∧ es.length ≤ definition.length + 1 := by
  refine ⟨fun t rest l => exists_taken_of_link?, fun t => ?_,
    fun line => (contribution_fits line).1, fun line => (contribution_fits line).2.1,
    Flowchart.length_compile_le⟩
  obtain ⟨last, hlast⟩ := chain_links t
  have hlength := hlast.length_le
  have hrooms := mul_length_le_rooms (links t)
  exact ⟨last, hlast, by omega⟩

/-- The shortest line with a link. -/
def shortest : Text := .ofString "A--B"

theorem links_and_elements_fit_shortest :
    (∃ taken, Text.ofString "--B" = taken ++ [] ∧ 3 ≤ taken.length) ∧
    (contribution shortest).edges = [⟨.ofString "A", .ofString "B", none⟩] ∧
    3 * (contribution shortest).edges.length + 1 ≤ shortest.length ∧
    ∃ es rest, Flowchart.compile shortest .numbered = .ok (es, rest) ∧ es.length ≤ 5 := by
  obtain ⟨htaken, -, hline, -, helements⟩ := links_and_elements_fit
  have hlink : link? (.ofString "--B") = some (⟨none, ⟨.ofString "B", none⟩⟩, []) := by
    decide +kernel
  have hedges : (contribution shortest).edges = [⟨.ofString "A", .ofString "B", none⟩] := by
    decide +kernel
  have hne : (contribution shortest).edges ≠ [] := by
    rw [hedges]
    exact List.cons_ne_nil _ _
  exact ⟨htaken _ _ _ hlink, hedges, hline shortest hne, helements shortest .numbered⟩

end Grammar

end Easel
