import Mathlib.Logic.Relation
import Easel.Graph.Levels

/-! The survey of a graph does what a recursion with a memory does: the level of a vertex is one
more than the greatest level of its parents. -/
namespace Easel

variable {V : Type} [DecidableEq V] {listed : List V} {edges : List (V × V)}

/-- An edge between two vertices. -/
def Leads (edges : List (V × V)) (p v : V) : Prop := (p, v) ∈ edges ∧ p ≠ v

theorem mem_parents {p v : V} : p ∈ parents edges v ↔ Leads edges p v := by
  unfold parents Leads
  rw [List.mem_eraseDups, List.mem_map]
  constructor
  · rintro ⟨e, he, rfl⟩
    obtain ⟨hmem, rfl, hne⟩ := by simpa using he
    exact ⟨hmem, hne⟩
  · rintro ⟨hmem, hne⟩
    exact ⟨(p, v), by simpa using ⟨hmem, hne⟩, rfl⟩

theorem mem_vertices_of_mem {v : V} (h : v ∈ listed) : v ∈ vertices listed edges := by
  unfold vertices
  rw [List.mem_eraseDups]
  exact List.mem_append_left _ h

/-- Both ends of an edge between two vertices have an entry among the vertices. -/
theorem Leads.mem_vertices {p v : V} (h : Leads edges p v) :
    p ∈ vertices listed edges ∧ v ∈ vertices listed edges := by
  have hedge : (p, v) ∈ edges.filter fun e => e.1 ≠ e.2 :=
    List.mem_filter.mpr ⟨h.1, decide_eq_true h.2⟩
  have hend : ∀ u ∈ [p, v], u ∈ vertices listed edges := by
    intro u hu
    unfold vertices
    rw [List.mem_eraseDups]
    exact List.mem_append_right _ (List.mem_flatMap.mpr ⟨(p, v), hedge, hu⟩)
  exact ⟨hend p (by simp), hend v (by simp)⟩

theorem lookup_map_of_mem {α : Type} (f : V → α) {v : V} {vs : List V} (h : v ∈ vs) :
    (vs.map fun u => (u, f u)).lookup v = some (f v) := by
  induction vs with
  | nil => cases h
  | cons u vs ih =>
    rw [List.map_cons, List.lookup_cons]
    by_cases hu : v = u
    · simp [hu]
    · have hne : (v == u) = false := beq_false_of_ne hu
      rw [hne]
      exact ih ((List.mem_cons.mp h).resolve_left hu)

/-- Each vertex is listed with its parents. -/
theorem lookup_parentTable {v : V} (h : v ∈ vertices listed edges) :
    (parentTable listed edges).lookup v = some (parents edges v) :=
  lookup_map_of_mem (parents edges) h

/-- How many vertices with edges are not on a way. -/
def room (edges : List (V × V)) (path : List V) : Nat :=
  (vertices [] edges).countP (· ∉ path)

/-- The further down, the fewer vertices are left to go to. -/
theorem room_cons_le (v : V) (path : List V) : room edges (v :: path) ≤ room edges path := by
  apply List.countP_mono_left
  intro u _ hu
  simp only [List.mem_cons, not_or, decide_eq_true_eq] at hu ⊢
  exact hu.2

/-- A vertex without parents needs no room, and any other takes some. -/
theorem room_cons (edges : List (V × V)) {v : V} {path : List V} (h : v ∉ path) :
    room edges (v :: path) < room edges path ∨ parents edges v = [] := by
  rcases List.eq_nil_or_concat (parents edges v) with hnil | ⟨ps, p, hps⟩
  · exact .inr hnil
  · have hp : p ∈ parents edges v := by simp [hps]
    left
    refine countP_lt_of_mem (mem_parents.mp hp).mem_vertices.2 (decide_eq_true h) ?_ ?_
    · simp
    · intro u hu
      simp only [List.mem_cons, not_or, decide_eq_true_eq] at hu ⊢
      exact hu.2

mutual

/-- The level of a vertex that is met on a way, and the levels that are known then. -/
def visit (edges : List (V × V)) (path : List V) (known : List (V × Nat)) (v : V) :
    Nat × List (V × Nat) :=
  match known.lookup v with
  | some level => (level, known)
  | none =>
    if _h : v ∈ path then (0, known)
    else
      let r := visitAll edges (v :: path) known (parents edges v)
      (r.1, (v, r.1) :: r.2)
termination_by (room edges path, 0, 1)
decreasing_by
  rcases room_cons edges _h with hlt | hnil
  · exact Prod.Lex.left _ _ hlt
  · rw [hnil]
    exact Prod.Lex.right' _ (room_cons_le v path) (Prod.Lex.right _ Nat.one_pos)

/-- One more than the greatest level of some vertices that are met in turn; 0 if there are none. -/
def visitAll (edges : List (V × V)) (path : List V) (known : List (V × Nat)) :
    List V → Nat × List (V × Nat)
  | [] => (0, known)
  | p :: ps =>
    let first := visit edges path known p
    let rest := visitAll edges path first.2 ps
    (Nat.max (first.1 + 1) rest.1, rest.2)
termination_by ps => (room edges path, ps.length, 0)
decreasing_by
  · exact Prod.Lex.right _ (Prod.Lex.left _ _ (Nat.succ_pos _))
  · exact Prod.Lex.right _ (Prod.Lex.left _ _ (Nat.lt_succ_self _))

end

/-- The levels that are known once the listed vertices have been visited, each from outside. -/
def knownAfter (edges : List (V × V)) (listed : List V) : List (V × Nat) :=
  listed.foldl (fun known v => (visit edges [] known v).2) []

variable {path : List V} {known : List (V × Nat)} {v : V}

/-- A level that is known is not worked out again. -/
theorem visit_of_known {level : Nat} (h : known.lookup v = some level) :
    visit edges path known v = (level, known) := by
  rw [visit, h]

/-- A vertex that is being visited counts as level zero. -/
theorem visit_of_mem (hk : known.lookup v = none) (h : v ∈ path) :
    visit edges path known v = (0, known) := by
  rw [visit, hk]
  exact dif_pos h

/-- Any other one is as far up as its parents tell. -/
theorem visit_of_not_mem (hk : known.lookup v = none) (h : v ∉ path) :
    visit edges path known v =
      ((visitAll edges (v :: path) known (parents edges v)).1,
       (v, (visitAll edges (v :: path) known (parents edges v)).1) ::
         (visitAll edges (v :: path) known (parents edges v)).2) := by
  rw [visit, hk]
  exact dif_neg h

theorem visitAll_nil : visitAll edges path known [] = (0, known) := by
  rw [visitAll]

theorem visitAll_cons (p : V) (ps : List V) :
    visitAll edges path known (p :: ps) =
      (Nat.max ((visit edges path known p).1 + 1)
        (visitAll edges path (visit edges path known p).2 ps).1,
       (visitAll edges path (visit edges path known p).2 ps).2) := by
  rw [visitAll]

/-- The vertices whose levels are known. -/
def knownOf (known : List (V × Nat)) : List V := known.map (·.1)

omit [DecidableEq V] in
theorem mem_knownOf_cons {u : V} {level : Nat} :
    u ∈ knownOf ((v, level) :: known) ↔ u = v ∨ u ∈ knownOf known :=
  List.mem_cons

theorem mem_knownOf_of_lookup {level : Nat} (h : known.lookup v = some level) :
    v ∈ knownOf known := by
  obtain ⟨before, after, rfl, -⟩ := List.lookup_eq_some_iff.mp h
  exact List.mem_map_of_mem (List.mem_append_right _ List.mem_cons_self)

/-- The parents of what is known are known, except for those on the way. -/
def Closed (edges : List (V × V)) (path : List V) (known : List (V × Nat)) : Prop :=
  ∀ v ∈ knownOf known, ∀ p ∈ parents edges v, p ∈ knownOf known ∨ p ∈ path

/-- What a visit to some vertices makes of what was known before: nothing is forgotten, the
vertices are known now or were on the way, and all that is new leads to them. -/
structure Learns (edges : List (V × V)) (path : List V) (known : List (V × Nat)) (vs : List V)
    (later : List (V × Nat)) : Prop where
  keeps : ∀ u ∈ knownOf known, u ∈ knownOf later
  visited : ∀ v ∈ vs, v ∈ knownOf later ∨ v ∈ path
  leading : ∀ u ∈ knownOf later,
    u ∈ knownOf known ∨ ∃ v ∈ vs, Relation.ReflTransGen (Leads edges) u v
  closed : Closed edges path known → Closed edges path later

theorem learns_of_known_or_mem (h : v ∈ knownOf known ∨ v ∈ path) :
    Learns edges path known [v] known where
  keeps _ hu := hu
  visited _ hu := List.mem_singleton.mp hu ▸ h
  leading _ hu := .inl hu
  closed hc := hc

/-- A vertex is finished after its parents. -/
theorem learns_finish {later : List (V × Nat)} (level : Nat)
    (h : Learns edges (v :: path) known (parents edges v) later) :
    Learns edges path known [v] ((v, level) :: later) where
  keeps u hu := mem_knownOf_cons.mpr (.inr (h.keeps u hu))
  visited _ hu := .inl (mem_knownOf_cons.mpr (.inl (List.mem_singleton.mp hu)))
  leading u hu := by
    rcases mem_knownOf_cons.mp hu with rfl | hu
    · exact .inr ⟨u, List.mem_singleton_self u, .refl⟩
    · rcases h.leading u hu with hold | ⟨p, hp, hup⟩
      · exact .inl hold
      · exact .inr ⟨v, List.mem_singleton_self v, hup.tail (mem_parents.mp hp)⟩
  closed hc := by
    have hpath : Closed edges (v :: path) known := fun u hu p hp =>
      (hc u hu p hp).imp_right (List.mem_cons_of_mem v)
    have hall : ∀ p, p ∈ knownOf later ∨ p ∈ v :: path →
        p ∈ knownOf ((v, level) :: later) ∨ p ∈ path := by
      rintro p (hp | hp)
      · exact .inl (mem_knownOf_cons.mpr (.inr hp))
      · rcases List.mem_cons.mp hp with rfl | hp
        · exact .inl (mem_knownOf_cons.mpr (.inl rfl))
        · exact .inr hp
    intro u hu p hp
    rcases mem_knownOf_cons.mp hu with rfl | hu
    · exact hall p (h.visited p hp)
    · exact hall p (h.closed hpath u hu p hp)

theorem learns_nil : Learns edges path known [] known where
  keeps _ hu := hu
  visited _ hv := by cases hv
  leading _ hu := .inl hu
  closed hc := hc

theorem learns_append {vs ws : List V} {later last : List (V × Nat)}
    (h : Learns edges path known vs later) (h' : Learns edges path later ws last) :
    Learns edges path known (vs ++ ws) last where
  keeps u hu := h'.keeps u (h.keeps u hu)
  visited v hv := by
    rcases List.mem_append.mp hv with hv | hv
    · exact (h.visited v hv).imp_left (h'.keeps v)
    · exact h'.visited v hv
  leading u hu := by
    rcases h'.leading u hu with hu | ⟨w, hw, huw⟩
    · rcases h.leading u hu with hu | ⟨v, hv, huv⟩
      · exact .inl hu
      · exact .inr ⟨v, List.mem_append_left _ hv, huv⟩
    · exact .inr ⟨w, List.mem_append_right _ hw, huw⟩
  closed hc := h'.closed (h.closed hc)

/-- By the recursion of visits: whatever is visited becomes known. -/
theorem learns_visit (edges : List (V × V)) (path : List V) (known : List (V × Nat)) (v : V) :
    Learns edges path known [v] (visit edges path known v).2 := by
  refine visit.induct edges
    (fun path known v => Learns edges path known [v] (visit edges path known v).2)
    (fun path known vs => Learns edges path known vs (visitAll edges path known vs).2)
    ?known ?active ?fresh ?nil ?cons path known v
  case known =>
    intro path known v level h
    rw [visit_of_known h]
    exact learns_of_known_or_mem (.inl (mem_knownOf_of_lookup h))
  case active =>
    intro path known v hk h
    rw [visit_of_mem hk h]
    exact learns_of_known_or_mem (.inr h)
  case fresh =>
    intro path known v hk h ih
    rw [visit_of_not_mem hk h]
    exact learns_finish _ ih
  case nil =>
    intro path known
    rw [visitAll_nil]
    exact learns_nil
  case cons =>
    intro path known p ps first ihp ihps
    rw [visitAll_cons]
    exact learns_append ihp ihps

theorem learns_visitEach (edges : List (V × V)) (known : List (V × Nat)) (listed : List V) :
    Learns edges [] known listed
      (listed.foldl (fun known v => (visit edges [] known v).2) known) := by
  induction listed generalizing known with
  | nil => exact learns_nil
  | cons v listed ih =>
    rw [List.foldl_cons]
    exact learns_append (learns_visit edges [] known v) (ih _)

/-- The recursion finds the level of each vertex from which a listed one is reached. -/
theorem mem_knownAfter (edges : List (V × V)) (listed : List V) (v : V) :
    v ∈ knownOf (knownAfter edges listed) ↔
      ∃ w ∈ listed, Relation.ReflTransGen (Leads edges) v w := by
  have hlearns := learns_visitEach edges [] listed
  have hclosed : Closed edges [] (knownAfter edges listed) :=
    hlearns.closed (by intro u hu; cases hu)
  constructor
  · intro hv
    exact (hlearns.leading v hv).resolve_left (by intro h; cases h)
  · rintro ⟨w, hw, hvw⟩
    induction hvw using Relation.ReflTransGen.head_induction_on with
    | refl => exact (hlearns.visited w hw).resolve_right (by intro h; cases h)
    | head hstep _ ih =>
      exact (hclosed _ ih _ (mem_parents.mpr hstep)).resolve_right (by intro h; cases h)

end Easel
