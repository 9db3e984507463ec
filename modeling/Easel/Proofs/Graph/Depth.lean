import Mathlib.Data.List.Nodup
import Easel.Proofs.Graph.Account

/-! In a graph without cycles the level of a vertex is its depth: how many edges the longest way to
it has. The order in which vertices and edges are listed does not matter. -/
namespace Easel

section Ways

variable {V : Type} {leads : V → V → Prop} {way : List V} {u v : V} {m n : Nat}

/-- A way to a vertex: each vertex on it leads to the next one. -/
inductive Way (leads : V → V → Prop) : List V → V → Prop where
  | start (v : V) : Way leads [v] v
  | step {way : List V} {p v : V} (before : Way leads way p) (edge : leads p v) :
      Way leads (way ++ [v]) v

theorem Way.reaches (h : Way leads way v) (hu : u ∈ way) : Relation.ReflTransGen leads u v := by
  induction h with
  | start v =>
    rw [List.mem_singleton.mp hu]
  | step _ hedge ih =>
    rcases List.mem_append.mp hu with hu | hu
    · exact (ih hu).tail hedge
    · rw [List.mem_singleton.mp hu]

/-- A vertex that is on a way twice is on a cycle. -/
theorem Way.nodup (h : Way leads way v) (hacyclic : ∀ u, ¬ Relation.TransGen leads u u) :
    way.Nodup := by
  induction h with
  | start v => exact List.nodup_singleton v
  | @step way p v hbefore hedge ih =>
    refine List.nodup_append.mpr ⟨ih, List.nodup_singleton v, fun u hu w hw heq => ?_⟩
    obtain rfl : u = v := heq.trans (List.mem_singleton.mp hw)
    exact hacyclic u (.tail' (hbefore.reaches hu) hedge)

/-- The longest way to a vertex has this many edges, and is a path. -/
structure IsDepth (leads : V → V → Prop) (v : V) (n : Nat) : Prop where
  attained : ∃ way, Way leads way v ∧ way.Nodup ∧ way.length = n + 1
  longest : ∀ way, Way leads way v → way.length ≤ n + 1

theorem IsDepth.unique (hm : IsDepth leads v m) (hn : IsDepth leads v n) : m = n := by
  obtain ⟨way, hway, -, hlength⟩ := hm.attained
  obtain ⟨way', hway', -, hlength'⟩ := hn.attained
  have hle := hn.longest way hway
  have hge := hm.longest way' hway'
  omega

end Ways

variable {V : Type} [DecidableEq V] {listed : List V} {edges : List (V × V)} {way : List V} {v : V}
  {level : Nat}

/-- Without cycles no parent is met again, and each counts as its level. -/
theorem tops_of_acyclic (hacyclic : ∀ v, ¬ Relation.TransGen (Leads edges) v v)
    (hv : level? listed edges v = some level) :
    Tops (fun p k => level? listed edges p = some k) (parents edges v) level := by
  refine (accounted_levels listed edges v level hv).mono fun p hp k hk => ?_
  rcases hk with hk | ⟨hreach, -⟩
  · exact hk
  · exact (hacyclic v (.tail' hreach (mem_parents.mp hp))).elim

theorem length_le_of_way (hacyclic : ∀ v, ¬ Relation.TransGen (Leads edges) v v)
    (h : Way (Leads edges) way v) (hv : level? listed edges v = some level) :
    way.length ≤ level + 1 := by
  induction h generalizing level with
  | start v => simp
  | step _ hedge ih =>
    obtain ⟨k, hk, hle⟩ := (tops_of_acyclic hacyclic hv).above _ (mem_parents.mpr hedge)
    have hlength := ih hk
    rw [List.length_append, List.length_singleton]
    omega

/-- The parent that sets the level is the last but one vertex of a longest way. -/
theorem exists_way_of_level (hacyclic : ∀ v, ¬ Relation.TransGen (Leads edges) v v)
    (hv : level? listed edges v = some level) :
    ∃ way, Way (Leads edges) way v ∧ way.length = level + 1 := by
  induction level generalizing v with
  | zero => exact ⟨[v], .start v, rfl⟩
  | succ level ih =>
    obtain ⟨p, hp, hk⟩ := (tops_of_acyclic hacyclic hv).exists_of_succ
    obtain ⟨way, hway, hlength⟩ := ih hk
    refine ⟨way ++ [v], hway.step (mem_parents.mp hp), ?_⟩
    rw [List.length_append, List.length_singleton, hlength]

theorem isDepth_level (hacyclic : ∀ v, ¬ Relation.TransGen (Leads edges) v v)
    (hv : level? listed edges v = some level) : IsDepth (Leads edges) v level where
  attained := by
    obtain ⟨way, hway, hlength⟩ := exists_way_of_level hacyclic hv
    exact ⟨way, hway, hway.nodup hacyclic, hlength⟩
  longest _ hway := length_le_of_way hacyclic hway hv

/-- The vertices from which a listed one is reached are known by their depths. -/
theorem level?_eq_some_iff (hacyclic : ∀ v, ¬ Relation.TransGen (Leads edges) v v) :
    level? listed edges v = some level ↔
      (∃ w ∈ listed, Relation.ReflTransGen (Leads edges) v w) ∧ IsDepth (Leads edges) v level := by
  constructor
  · intro hv
    exact ⟨exists_level_iff.mp ⟨level, hv⟩, isDepth_level hacyclic hv⟩
  · rintro ⟨hreach, hdepth⟩
    obtain ⟨level', hv⟩ := exists_level_iff.mpr hreach
    rw [hv, hdepth.unique (isDepth_level hacyclic hv)]

/-- Where the edges between different vertices form no cycle, a survey finds the depth of each
vertex from which a listed one is reached, and nothing else. The depth is one more than the greatest
depth of the parents, or 0 if there are none. Other lists of the same vertices, and of the same
edges between different ones, give the same levels. -/
theorem levels_eq_depths (listed : List V)
    (hacyclic : ∀ v, ¬ Relation.TransGen (Leads edges) v v) :
    survey listed edges = .ok (levels listed edges) ∧
    (∀ v level, level? listed edges v = some level ↔
      (∃ w ∈ listed, Relation.ReflTransGen (Leads edges) v w) ∧ IsDepth (Leads edges) v level) ∧
    (∀ v level, level? listed edges v = some level →
      Tops (fun p k => level? listed edges p = some k) (parents edges v) level) ∧
    ∀ (listed' : List V) (edges' : List (V × V)), (∀ v, v ∈ listed' ↔ v ∈ listed) →
      (∀ p v, Leads edges' p v ↔ Leads edges p v) →
        ∀ v, level? listed' edges' v = level? listed edges v := by
  refine ⟨survey_eq_levels listed edges, fun v level => level?_eq_some_iff hacyclic,
    fun v level => tops_of_acyclic hacyclic, fun listed' edges' hlisted hleads v => ?_⟩
  have heq : Leads edges' = Leads edges := funext₂ fun p v => propext (hleads p v)
  have hacyclic' : ∀ v, ¬ Relation.TransGen (Leads edges') v v := by rwa [heq]
  refine Option.ext fun level => ?_
  simp only [level?_eq_some_iff hacyclic, level?_eq_some_iff hacyclic', heq, hlisted]

/-- Two edges that lead the long way, and one that leads the short way. -/
def shortcut : List (Nat × Nat) := [(0, 2), (0, 1), (1, 2)]

/-- The long way counts, also if there are a loop and an edge twice, all in another order. -/
theorem levels_eq_depths_shortcut :
    (∀ v, ¬ Relation.TransGen (Leads shortcut) v v) ∧ IsDepth (Leads shortcut) 2 2 ∧
      level? [2, 0, 1, 0] [(1, 2), (2, 2), (0, 1), (0, 2), (1, 2)] 2 =
        level? [0, 1, 2] shortcut 2 := by
  have hless : ∀ p v, Leads shortcut p v → p < v := by
    intro p v h
    have hmem := h.1
    simp only [shortcut, List.mem_cons, Prod.mk.injEq, List.not_mem_nil, or_false] at hmem
    omega
  have hacyclic : ∀ v, ¬ Relation.TransGen (Leads shortcut) v v := by
    intro v hcycle
    have hlt : Relation.TransGen (· < ·) v v := Relation.TransGen.mono hless v v hcycle
    rw [Relation.transGen_eq_self] at hlt
    exact Nat.lt_irrefl v hlt
  have hlevel : level? [0, 1, 2] shortcut 2 = some 2 := by
    simp [level?, levels_eq_knownAfter, knownAfter, visit, visitAll, parents, shortcut,
      List.lookup_cons, List.eraseDups_cons]
  obtain ⟨-, hdepth, -, hsame⟩ := levels_eq_depths [0, 1, 2] hacyclic
  refine ⟨hacyclic, ((hdepth 2 2).mp hlevel).2, hsame _ _ ?_ ?_ 2⟩
  · intro v
    simp only [List.mem_cons, List.not_mem_nil, or_false]
    omega
  · intro p v
    simp only [Leads, shortcut, List.mem_cons, Prod.mk.injEq, List.not_mem_nil, or_false]
    omega

end Easel
