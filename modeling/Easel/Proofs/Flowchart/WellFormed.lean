import Easel.Flowchart.OfText

/-! Every text reads as a well-formed chart: named nodes, each once, and edges between them. -/
namespace Easel

structure Node.WellFormed (n : Node) : Prop where
  id_ne : n.id ≠ []
  id_word : ∀ c ∈ n.id, c.isWord = true
  label_ne : n.label ≠ []
  outline_known : ∃ kind, n.outline = .known kind

structure Flowchart.WellFormed (c : Flowchart) : Prop where
  ids_nodup : (c.nodes.map (·.id)).Nodup
  nodes : ∀ n ∈ c.nodes, n.WellFormed
  closed : ∀ e ∈ c.edges, e.source ∈ c.nodes.map (·.id) ∧ e.target ∈ c.nodes.map (·.id)
  labels : ∀ e ∈ c.edges, e.label ≠ some []

/-- A label of nothing but blanks is no label. -/
theorem cleanLabel?_ne {t label : Text} (h : t.cleanLabel? = some label) : label ≠ [] := by
  unfold Text.cleanLabel? at h
  extract_lets bare at h
  by_cases hbare : bare.isEmpty
  · rw [if_pos hbare] at h
    cases h
  · rw [if_neg hbare] at h
    obtain rfl := Option.some.inj h
    simpa using hbare

/-- A mention names a node. -/
structure Mention.Named (m : Mention) : Prop where
  ne : m.id ≠ []
  word : ∀ c ∈ m.id, c.isWord = true

/-- A node that a line mentions has a name, of word characters only. -/
theorem named_of_mention? {t rest : Text} {m : Mention} (h : mention? t = some (m, rest)) :
    m.Named := by
  have hid : m.id = t.takeWhile CodePoint.isWord ∧ m.id ≠ [] := by
    simp only [mention?] at h
    split at h
    · cases h
    · rename_i hne
      split at h <;>
      · obtain ⟨rfl, -⟩ := Prod.mk.inj (Option.some.inj h)
        exact ⟨rfl, by simpa using hne⟩
  refine ⟨hid.2, fun c hc => ?_⟩
  rw [hid.1] at hc
  exact List.all_eq_true.mp List.all_takeWhile c hc

theorem Mention.Named.node {m : Mention} (hm : m.Named) : m.node.WellFormed := by
  unfold Mention.node
  split
  · exact ⟨hm.ne, hm.word, hm.ne, _, rfl⟩
  · rename_i kind label _
    refine ⟨hm.ne, hm.word, ?_, _, rfl⟩
    cases hl : Text.cleanLabel? label with
    | none => simpa [hl] using hm.ne
    | some clean => simpa [hl] using cleanLabel?_ne hl

theorem Mention.node_id (m : Mention) : m.node.id = m.id := by
  unfold Mention.node
  split <;> rfl

/-- What a link leads to has a name as well. -/
theorem named_of_link? {t rest : Text} {l : Link} (h : link? t = some (l, rest)) :
    l.target.Named := by
  obtain ⟨s, -, hs⟩ := List.exists_of_findSome?_eq_some h
  obtain ⟨r, hr, he⟩ := Option.map_eq_some_iff.mp hs
  obtain ⟨rfl, -⟩ := Prod.mk.inj he
  exact named_of_mention? hr

theorem links_of_none {t : Text} (h : link? t = none) : links t = [] := by
  rw [links]
  split
  · rfl
  · simp_all

/-- Links are read one after the other until there is no further one. -/
theorem links_of_some {t rest : Text} {l : Link} (h : link? t = some (l, rest)) :
    links t = l :: links rest := by
  rw [links]
  split
  · simp_all
  · simp_all

theorem named_of_mem_links {t : Text} {l : Link} (h : l ∈ links t) : l.target.Named := by
  fun_induction links t with
  | case1 t hnone => cases h
  | case2 t first rest hfirst ih =>
    rcases List.mem_cons.mp h with rfl | h
    · exact named_of_link? hfirst
    · exact ih h

/-- Both ends of an edge of a chain are named on the way to it. -/
theorem ends_of_mem_edgesFrom {source : Text} {chain : List Link} {e : Edge}
    (h : e ∈ edgesFrom source chain) :
    (e.source = source ∨ ∃ l ∈ chain, l.target.id = e.source) ∧
      (∃ l ∈ chain, l.target.id = e.target) ∧ e.label ≠ some [] := by
  induction chain generalizing source with
  | nil => cases h
  | cons l rest ih =>
    rw [edgesFrom, List.mem_cons] at h
    rcases h with rfl | h
    · refine ⟨.inl rfl, ⟨l, List.mem_cons_self, rfl⟩, fun hl => ?_⟩
      obtain ⟨label, -, hclean⟩ := Option.bind_eq_some_iff.mp hl
      exact cleanLabel?_ne hclean rfl
    · obtain ⟨hs, ⟨k, hk, ht⟩, hlabel⟩ := ih h
      refine ⟨.inr ?_, ⟨k, List.mem_cons_of_mem _ hk, ht⟩, hlabel⟩
      rcases hs with hs | ⟨m, hm, hms⟩
      · exact ⟨l, List.mem_cons_self, hs.symm⟩
      · exact ⟨m, List.mem_cons_of_mem _ hm, hms⟩

/-- What a line adds hangs together by itself. -/
structure Contribution.WellFormed (c : Contribution) : Prop where
  nodes : ∀ n ∈ c.nodes, n.WellFormed
  closed : ∀ e ∈ c.edges, e.source ∈ c.nodes.map (·.id) ∧ e.target ∈ c.nodes.map (·.id)
  labels : ∀ e ∈ c.edges, e.label ≠ some []

theorem Contribution.wellFormed_nil : (⟨[], []⟩ : Contribution).WellFormed :=
  ⟨by simp, by simp, by simp⟩

/-- Whatever a line says, it names its nodes, and its edges join nodes that it mentions. -/
theorem contribution_wellFormed (line : Text) : (contribution line).WellFormed := by
  unfold contribution
  split
  · exact Contribution.wellFormed_nil
  · split
    · exact Contribution.wellFormed_nil
    · rename_i first rest hfirst
      have hnamed := named_of_mention? hfirst
      split
      · split
        · exact ⟨by simpa using hnamed.node, by simp, by simp⟩
        · exact Contribution.wellFormed_nil
      · rename_i chain hchain
        have htargets : ∀ l ∈ links rest, l.target.id ∈
            (first.node :: (links rest).map fun l => l.target.node).map (·.id) := by
          intro l hl
          simp only [List.map_cons, List.map_map, List.mem_cons, List.mem_map]
          exact .inr ⟨l, hl, Mention.node_id _⟩
        refine ⟨?_, fun e he => ?_, fun e he => (ends_of_mem_edgesFrom he).2.2⟩
        · intro n hn
          rcases List.mem_cons.mp hn with rfl | hn
          · exact hnamed.node
          · obtain ⟨l, hl, rfl⟩ := List.mem_map.mp hn
            exact (named_of_mem_links hl).node
        · obtain ⟨hs, ⟨k, hk, ht⟩, -⟩ := ends_of_mem_edgesFrom he
          refine ⟨?_, ht ▸ htargets k hk⟩
          rcases hs with hs | ⟨l, hl, hs⟩
          · simp [hs, Mention.node_id]
          · exact hs ▸ htargets l hl

/-- A declaration adds a name at the end unless the name is there already. -/
theorem ids_declare (nodes : List Node) (n : Node) :
    (declare nodes n).map (·.id) =
      if n.id ∈ nodes.map (·.id) then nodes.map (·.id) else nodes.map (·.id) ++ [n.id] := by
  unfold declare
  by_cases h : n.id ∈ nodes.map (·.id)
  · have hany : (nodes.any fun m => m.id = n.id) = true := by simpa using h
    rw [if_pos hany, if_pos h]
  · have hany : ¬ (nodes.any fun m => m.id = n.id) = true := by simpa using h
    rw [if_neg hany, if_neg h, List.map_append]
    rfl

/-- However often a node is declared, it is listed once. -/
theorem ids_nodup_declare {nodes : List Node} (h : (nodes.map (·.id)).Nodup) (n : Node) :
    ((declare nodes n).map (·.id)).Nodup := by
  rw [ids_declare]
  split
  · exact h
  · rename_i hn
    rw [List.nodup_append]
    refine ⟨h, by simp, ?_⟩
    rintro a ha b hb rfl
    rw [List.mem_singleton] at hb
    exact hn (hb ▸ ha)

theorem mem_of_mem_declare {nodes : List Node} {n m : Node} (h : m ∈ declare nodes n) :
    m ∈ nodes ∨ m = n := by
  unfold declare at h
  split at h
  · exact .inl h
  · simpa using h

theorem ids_nodup_declareAll {nodes : List Node} (h : (nodes.map (·.id)).Nodup) (more : List Node) :
    ((more.foldl declare nodes).map (·.id)).Nodup := by
  induction more generalizing nodes with
  | nil => exact h
  | cons n rest ih => exact ih (ids_nodup_declare h n)

theorem mem_of_mem_declareAll {nodes more : List Node} {m : Node}
    (h : m ∈ more.foldl declare nodes) : m ∈ nodes ∨ m ∈ more := by
  induction more generalizing nodes with
  | nil => exact .inl h
  | cons n rest ih =>
    rcases ih h with h | h
    · rcases mem_of_mem_declare h with h | rfl
      · exact .inl h
      · exact .inr List.mem_cons_self
    · exact .inr (List.mem_cons_of_mem _ h)

/-- All that is declared is listed. -/
theorem mem_ids_declareAll {nodes more : List Node} {id : Text} :
    id ∈ (more.foldl declare nodes).map (·.id) ↔
      id ∈ nodes.map (·.id) ∨ id ∈ more.map (·.id) := by
  induction more generalizing nodes with
  | nil => simp
  | cons n rest ih =>
    rw [List.foldl_cons, ih, ids_declare]
    split
    · rename_i hn
      simp only [List.map_cons, List.mem_cons]
      constructor
      · rintro (h | h)
        · exact .inl h
        · exact .inr (.inr h)
      · rintro (h | rfl | h)
        · exact .inl h
        · exact .inl hn
        · exact .inr h
    · simp only [List.map_cons, List.mem_cons, List.mem_append, List.not_mem_nil, or_false,
        or_assoc]

/-- A node of a chart comes from one of its lines. -/
theorem exists_line_of_mem_nodes {horizontal : Bool} {lines : List Text} {n : Node}
    (hn : n ∈ (Flowchart.ofLines horizontal lines).nodes) :
    ∃ line ∈ lines, n ∈ (contribution line).nodes :=
  List.mem_flatMap.mp ((mem_of_mem_declareAll hn).resolve_left List.not_mem_nil)

/-- Charts are well-formed however many lines they have, and whatever these say. -/
theorem ofLines_wellFormed (horizontal : Bool) (lines : List Text) :
    (Flowchart.ofLines horizontal lines).WellFormed where
  ids_nodup := ids_nodup_declareAll (by simp) _
  nodes := by
    intro n hn
    obtain ⟨line, -, hn⟩ := exists_line_of_mem_nodes hn
    exact (contribution_wellFormed line).nodes n hn
  closed := by
    intro e he
    obtain ⟨line, hline, he⟩ := List.mem_flatMap.mp he
    have hmem : ∀ id ∈ (contribution line).nodes.map (·.id),
        id ∈ (Flowchart.ofLines horizontal lines).nodes.map (·.id) := by
      intro id hid
      obtain ⟨n, hn, rfl⟩ := List.mem_map.mp hid
      exact mem_ids_declareAll.mpr
        (.inr (List.mem_map_of_mem (List.mem_flatMap.mpr ⟨line, hline, hn⟩)))
    obtain ⟨hs, ht⟩ := (contribution_wellFormed line).closed e he
    exact ⟨hmem _ hs, hmem _ ht⟩
  labels := by
    intro e he
    obtain ⟨line, -, he⟩ := List.mem_flatMap.mp he
    exact (contribution_wellFormed line).labels e he

theorem ofText_wellFormed (t : Text) : (Flowchart.ofText t).WellFormed := by
  unfold Flowchart.ofText
  split
  · exact ⟨by simp, by simp, by simp, by simp⟩
  · split <;> exact ofLines_wellFormed _ _

end Easel
