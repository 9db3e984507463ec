import Easel.Proofs.Flowchart.BodyLines
import Easel.Proofs.Flowchart.ReadBack

/-! The chart of a text is put together from its lines, one after another; how they are set, and
lines that say nothing, make no difference. -/
namespace Easel.Grammar

variable {t line : Text} {lines : List Text}

/-- A text of these lines. A line break ends each of them, but need not end the last. -/
inductive Joins : List Text → Text → Prop
  | nil : Joins [] []
  | last {line : Text} (hline : line.Unbroken) : Joins [line] line
  | cons {line b t : Text} {lines : List Text} (hline : line.Unbroken) (hbreak : b.IsBreak)
      (hmore : Joins lines t) : Joins (line :: lines) (line ++ (b ++ t))

/-- What is left of lines without the blanks around them. -/
def trimmed (lines : List Text) : List Text := (lines.map Text.trim).filter (!·.isEmpty)

theorem trimmed_cons (line : Text) (lines : List Text) :
    trimmed (line :: lines) =
      if line.trim = [] then trimmed lines else line.trim :: trimmed lines := by
  by_cases hline : line.trim = []
  · simp [trimmed, hline]
  · simp [trimmed, hline]

/-- Lines are trimmed one by one, and the blank ones left out. -/
theorem trimmed_append (as bs : List Text) : trimmed (as ++ bs) = trimmed as ++ trimmed bs := by
  simp [trimmed]

/-- The lines of a text are the lines of which it is put together, but for empty ones. -/
theorem trimmed_lines (h : Joins lines t) : trimmed t.lines = trimmed lines := by
  induction h with
  | nil => rfl
  | @last line hline =>
    by_cases hne : line = []
    · rw [hne]
      rfl
    · rw [Text.lines_of_unbroken hline hne]
  | @cons line b t lines hline hbreak _ ih =>
    obtain ⟨more, hlines, hmore⟩ := Text.exists_lines_break hbreak t
    have htrimmed : trimmed more = trimmed t.lines := by
      rcases hmore with rfl | hmore
      · rfl
      · rw [hmore, trimmed_cons]
        rfl
    rw [Text.lines_append_of_nil hline hlines, trimmed_cons, trimmed_cons, htrimmed, ih]

/-- A chart is read from the lines of its text, perhaps without the first one. -/
theorem exists_body (t : Text) : ∃ horizontal body, body <:+ trimmed t.lines ∧
    Flowchart.ofText t = .ofLines horizontal body := by
  change ∃ horizontal body, body <:+ (t.lines.map Text.trim).filter (!·.isEmpty) ∧ _
  unfold Flowchart.ofText
  split
  · rename_i hnil
    exact ⟨false, [], List.nil_suffix, rfl⟩
  · rename_i first rest hlines
    rw [hlines]
    split
    · rename_i horizontal _
      exact ⟨horizontal, rest, List.suffix_cons first rest, rfl⟩
    · exact ⟨false, first :: rest, List.suffix_refl _, rfl⟩

/-- A line with a direction is the heading of the lines below it. -/
theorem ofText_of_header {heading : Text} {horizontal : Bool}
    (hheading : header? heading.trim = some horizontal) (h : Joins (heading :: lines) t) :
    Flowchart.ofText t = .ofLines horizontal (trimmed lines) := by
  have hne : heading.trim ≠ [] := by
    intro hnil
    rw [hnil] at hheading
    cases hheading
  have htrimmed := trimmed_lines h
  rw [trimmed_cons, if_neg hne] at htrimmed
  unfold Flowchart.ofText
  rw [show (t.lines.map Text.trim).filter (!·.isEmpty) = _ from htrimmed]
  simp only [hheading]

/-- Edges are listed line by line. -/
theorem edges_ofLines_append (horizontal : Bool) (as bs : List Text) :
    (Flowchart.ofLines horizontal (as ++ bs)).edges =
      (Flowchart.ofLines horizontal as).edges ++ (Flowchart.ofLines horizontal bs).edges :=
  List.flatMap_append

/-- Of the nodes of further lines, those are added whose ids are new. -/
theorem nodes_ofLines_append (horizontal : Bool) (as bs : List Text) :
    (Flowchart.ofLines horizontal (as ++ bs)).nodes =
      (Flowchart.ofLines horizontal as).nodes ++
        (Flowchart.ofLines horizontal bs).nodes.filter fun n =>
          n.id ∉ (Flowchart.ofLines horizontal as).nodes.map (·.id) := by
  have hfirsts : ∀ more : List Node, more.foldl declare [] = firsts more := by
    intro more
    simpa using foldl_declare [] more
  unfold Flowchart.ofLines
  rw [List.flatMap_append, List.foldl_append, foldl_declare, hfirsts (bs.flatMap _)]

/-- A line that is blank, a comment or directive, or in none of the supported forms. -/
inductive IsIdle (line : Text) : Prop
  | blank (h : line.trim = [])
  | skipped (h : IsSkipped line.trim)
  | unsupported (hlink : ∀ start, start <+: line.trim → ¬ BeginsLink start)
      (hnode : ∀ n, ¬ Declares line.trim n)

/-- Such lines are exactly those that add nothing. -/
theorem isIdle_iff (hne : line.trim ≠ []) :
    IsIdle line ↔ (contribution line.trim).nodes = [] ∧ (contribution line.trim).edges = [] := by
  by_cases hskipped : IsSkipped line.trim
  · rw [contribution_of_skipped hskipped]
    exact ⟨fun _ => ⟨rfl, rfl⟩, fun _ => .skipped hskipped⟩
  · have hlinks := edges_ne_nil_iff hskipped
    have hnodes := fun hedges n => mem_nodes_iff (Text.trim_trim line) hskipped hedges (n := n)
    constructor
    · rintro (hblank | hdirective | ⟨hlink, hnode⟩)
      · exact (hne hblank).elim
      · exact (hskipped hdirective).elim
      · have hedges : (contribution line.trim).edges = [] := by
          by_contra hsome
          obtain ⟨start, hprefix, hstart⟩ := hlinks.mp hsome
          exact hlink start hprefix hstart
        refine ⟨List.eq_nil_iff_forall_not_mem.mpr fun n hn => ?_, hedges⟩
        exact hnode n ((hnodes hedges n).mp hn)
    · rintro ⟨hnil, hedges⟩
      refine .unsupported (fun start hprefix hstart => ?_) fun n hn => ?_
      · exact hlinks.mpr ⟨start, hprefix, hstart⟩ hedges
      · rw [← hnodes hedges n, hnil] at hn
        cases hn

/-- Two bodies that differ in lines that say nothing, and in the blanks around lines. -/
inductive SameBody : List Text → List Text → Prop
  | nil : SameBody [] []
  | cons {a b : Text} {as bs : List Text} (htrim : a.trim = b.trim) (hmore : SameBody as bs) :
      SameBody (a :: as) (b :: bs)
  | idle_left {a : Text} {as bs : List Text} (ha : IsIdle a) (hmore : SameBody as bs) :
      SameBody (a :: as) bs
  | idle_right {b : Text} {as bs : List Text} (hb : IsIdle b) (hmore : SameBody as bs) :
      SameBody as (b :: bs)

variable {α : Type}

/-- A line that adds nothing can be left out. -/
theorem flatMap_trimmed_of_idle (share : Contribution → List α) (hshare : share ⟨[], []⟩ = [])
    (h : IsIdle line) (lines : List Text) :
    (trimmed (line :: lines)).flatMap (fun l => share (contribution l)) =
      (trimmed lines).flatMap fun l => share (contribution l) := by
  rw [trimmed_cons]
  by_cases hne : line.trim = []
  · rw [if_pos hne]
  · have hnothing : contribution line.trim = ⟨[], []⟩ := by
      obtain ⟨hnodes, hedges⟩ := (isIdle_iff hne).mp h
      rw [← hnodes, ← hedges]
    rw [if_neg hne, List.flatMap_cons, hnothing, hshare, List.nil_append]

/-- Whatever is taken from what each line adds is the same for both bodies. -/
theorem flatMap_trimmed_of_sameBody (share : Contribution → List α) (hshare : share ⟨[], []⟩ = [])
    {as bs : List Text} (h : SameBody as bs) :
    (trimmed as).flatMap (fun l => share (contribution l)) =
      (trimmed bs).flatMap fun l => share (contribution l) := by
  induction h with
  | nil => rfl
  | cons htrim _ ih =>
    rw [trimmed_cons, trimmed_cons, htrim]
    split
    · exact ih
    · rw [List.flatMap_cons, List.flatMap_cons, ih]
  | idle_left ha _ ih => rw [flatMap_trimmed_of_idle share hshare ha, ih]
  | idle_right hb _ ih => rw [flatMap_trimmed_of_idle share hshare hb, ih]

/-- A chart is made of what each line adds, so it is the same for both bodies. -/
theorem ofLines_of_sameBody {as bs : List Text} (h : SameBody as bs) (horizontal : Bool) :
    Flowchart.ofLines horizontal (trimmed as) = .ofLines horizontal (trimmed bs) := by
  have hnodes := flatMap_trimmed_of_sameBody Contribution.nodes rfl h
  have hedges := flatMap_trimmed_of_sameBody Contribution.edges rfl h
  rw [Flowchart.ofLines, Flowchart.ofLines, hnodes, hedges]

/-- Below a heading, the chart of two bodies has the edges of the first and then those of the
second, and the nodes of the first and then those of the second with other ids. The chart of a body
depends neither on idle lines nor on the blanks around lines nor on how lines are ended. -/
theorem ofText_append {heading t₁ t₂ : Text} {horizontal : Bool} {first second : List Text}
    (hheading : header? heading.trim = some horizontal)
    (ht : Joins (heading :: (first ++ second)) t) (h₁ : Joins (heading :: first) t₁)
    (h₂ : Joins (heading :: second) t₂) :
    (Flowchart.ofText t).edges = (Flowchart.ofText t₁).edges ++ (Flowchart.ofText t₂).edges ∧
    (Flowchart.ofText t).nodes = (Flowchart.ofText t₁).nodes ++
      (Flowchart.ofText t₂).nodes.filter (fun n =>
        n.id ∉ (Flowchart.ofText t₁).nodes.map (·.id)) ∧
    (Flowchart.ofText t).horizontal = (Flowchart.ofText t₁).horizontal ∧
    (Flowchart.ofText t).horizontal = (Flowchart.ofText t₂).horizontal ∧
    ∀ (heading' t' : Text) (body : List Text), heading'.trim = heading.trim →
      SameBody first body → Joins (heading' :: body) t' →
        Flowchart.ofText t' = Flowchart.ofText t₁ := by
  rw [ofText_of_header hheading ht, ofText_of_header hheading h₁, ofText_of_header hheading h₂,
    trimmed_append]
  refine ⟨edges_ofLines_append _ _ _, nodes_ofLines_append _ _ _, rfl, rfl, ?_⟩
  intro heading' t' body htrim hbody ht'
  rw [← htrim] at hheading
  rw [ofText_of_header hheading ht', ofLines_of_sameBody hbody]

namespace TwoBodies

def heading : Text := .ofString "graph LR"

def first : List Text := [.ofString "A --> B"]

def second : List Text := [.ofString "  B[late] --> C"]

/-- The first body with other blanks, and between lines that say nothing. -/
def padded : List Text :=
  [.ofString "%% note", .ofString "\tA --> B ", .ofString "", .ofString "A -> B?"]

theorem sameBody_padded : SameBody first padded := by
  have hnote : IsIdle (.ofString "%% note") := by
    refine .skipped ?_
    rw [← isDirective_iff]
    decide
  have harrow : IsIdle (.ofString "A -> B?") := by
    rw [isIdle_iff (by decide)]
    decide +kernel
  exact .idle_right hnote (.cons (by decide) (.idle_right (.blank rfl) (.idle_right harrow .nil)))

def feed : Text := .ofString "\n"

def both : Text :=
  heading ++ (.ofString "\r\n" ++ (.ofString "A --> B" ++ (feed ++ .ofString "  B[late] --> C")))

theorem isBreak_feed : feed.IsBreak := .inr ⟨.scalar '\n', by decide, rfl⟩

theorem joins_both : Joins (heading :: (first ++ second)) both :=
  .cons (by decide) (.inl rfl) (.cons (by decide) isBreak_feed (.last (by decide)))

theorem joins_first : Joins (heading :: first) (heading ++ (feed ++ .ofString "A --> B")) :=
  .cons (by decide) isBreak_feed (.last (by decide))

theorem joins_second :
    Joins (heading :: second)
      (heading ++ (feed ++ (.ofString "  B[late] --> C" ++ (feed ++ [])))) :=
  .cons (by decide) isBreak_feed (.cons (by decide) isBreak_feed .nil)

end TwoBodies

open TwoBodies in
theorem ofText_append_twoBodies :
    header? heading.trim = some true ∧ Joins (heading :: (first ++ second)) both ∧
    Joins (heading :: first) (heading ++ (feed ++ .ofString "A --> B")) ∧
    (Flowchart.ofText both).edges.map Edge.ends =
      [(.ofString "A", .ofString "B"), (.ofString "B", .ofString "C")] ∧
    (Flowchart.ofText both).nodes.map (·.label) = [.ofString "A", .ofString "B", .ofString "C"] ∧
    (Flowchart.ofText both).horizontal = true ∧
    ∀ t, Joins (heading :: padded) t →
      Flowchart.ofText t = Flowchart.ofText (heading ++ (feed ++ .ofString "A --> B")) := by
  have hheading : header? heading.trim = some true := by decide +kernel
  obtain ⟨hedges, hnodes, hhorizontal, -, hsame⟩ :=
    ofText_append hheading joins_both joins_first joins_second
  refine ⟨hheading, joins_both, joins_first, ?_, ?_, ?_, fun t ht => ?_⟩
  · rw [hedges]
    decide +kernel
  · rw [hnodes]
    decide +kernel
  · rw [hhorizontal]
    decide +kernel
  · exact hsame heading t padded rfl sameBody_padded ht

end Easel.Grammar
