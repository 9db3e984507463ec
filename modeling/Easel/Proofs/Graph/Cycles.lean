import Mathlib.Order.Interval.Finset.Nat
import Easel.Proofs.Graph.Account

/-! What levels keep to on any graph: they do not pass the number of vertices, only a vertex that no
other one leads to has level 0, and an edge that is on no cycle leads to a greater level. -/
namespace Easel

variable {V : Type} [DecidableEq V] {listed : List V} {edges : List (V × V)}
  {known : List (V × Nat)} {u v p : V} {level : Nat}

/-- A level stands on all the lower ones but 0, which a cycle may lack. -/
theorem exists_lookup_of_le (h : Accounted edges known) (hv : known.lookup v = some level) {j : Nat}
    (hpos : 0 < j) (hj : j ≤ level) : ∃ u, known.lookup u = some j := by
  induction level generalizing v with
  | zero => omega
  | succ level ih =>
    by_cases hlast : j = level + 1
    · exact ⟨v, hlast ▸ hv⟩
    obtain ⟨p, -, hk | ⟨-, rfl⟩⟩ := (h v _ hv).exists_of_succ
    · exact ih hk (by omega)
    · omega

/-- There are as many vertices as a level counts, since each of the lower levels has its own. -/
theorem level_le_card (h : Accounted edges known) (hv : known.lookup v = some level)
    {vs : Finset V} (hvs : ∀ u k, known.lookup u = some k → u ∈ vs) : level ≤ vs.card := by
  have hsub : Finset.Icc 1 level ⊆ vs.image fun u => (known.lookup u).getD 0 := by
    intro j hj
    obtain ⟨hpos, hle⟩ := Finset.mem_Icc.mp hj
    obtain ⟨u, hu⟩ := exists_lookup_of_le h hv hpos hle
    exact Finset.mem_image.mpr ⟨u, hvs u j hu, by rw [hu]; rfl⟩
  calc level = (Finset.Icc 1 level).card := by rw [Nat.card_Icc, Nat.add_sub_cancel]
    _ ≤ (vs.image fun u => (known.lookup u).getD 0).card := Finset.card_le_card hsub
    _ ≤ vs.card := Finset.card_image_le

/-- Every vertex that is listed or that an edge touches, a loop included. -/
def occurring (listed : List V) (edges : List (V × V)) : Finset V :=
  (listed ++ edges.flatMap fun e => [e.1, e.2]).toFinset

theorem mem_occurring_of_level (hv : level? listed edges v = some level) :
    v ∈ occurring listed edges := by
  obtain ⟨w, hw, hvw⟩ := exists_level_iff.mp ⟨level, hv⟩
  refine List.mem_toFinset.mpr (List.mem_append.mpr ?_)
  rcases Relation.ReflTransGen.cases_head hvw with rfl | ⟨u, hedge, -⟩
  · exact .inl hw
  · exact .inr (List.mem_flatMap.mpr ⟨(v, u), hedge.1, List.mem_cons_self⟩)

theorem level_eq_zero_iff (hv : level? listed edges v = some level) :
    level = 0 ↔ ∀ p, (p, v) ∈ edges → p = v := by
  rw [(accounted_levels listed edges v level hv).eq_zero_iff, List.eq_nil_iff_forall_not_mem]
  simp only [mem_parents, Leads, not_and, not_not]

/-- Only a parent that is reached from the vertex can count as less than its level. -/
theorem level_lt_of_leads (hp : Leads edges p v)
    (hv : level? listed edges v = some level)
    (hback : ¬ Relation.ReflTransGen (Leads edges) v p) :
    ∃ k, level? listed edges p = some k ∧ k + 1 ≤ level := by
  obtain ⟨k, hk, hle⟩ :=
    (accounted_levels listed edges v level hv).above p (mem_parents.mpr hp)
  exact ⟨k, hk.resolve_right fun hmet => hback hmet.1, hle⟩

/-- Every listed vertex has a level. No level is greater than the number of different vertices, and
level 0 means that no edge enters from another vertex. The level rises along every edge to another
vertex from which its source is not reached. -/
theorem level_bounds (listed : List V) (edges : List (V × V)) :
    survey listed edges = .ok (levels listed edges) ∧
    (∀ v ∈ listed, ∃ level, level? listed edges v = some level) ∧
    (∀ v level, level? listed edges v = some level →
      level ≤ (occurring listed edges).card ∧ (level = 0 ↔ ∀ p, (p, v) ∈ edges → p = v)) ∧
    ∀ s t level, (s, t) ∈ edges → s ≠ t → level? listed edges t = some level →
      ¬ Relation.ReflTransGen (fun u w => (u, w) ∈ edges) t s →
        ∃ k, level? listed edges s = some k ∧ k + 1 ≤ level := by
  refine ⟨survey_eq_levels listed edges, fun v hv => exists_level_iff.mpr ⟨v, hv, .refl⟩,
    fun v level hv => ⟨?_, ?_⟩, fun s t level hedge hne ht hback => ?_⟩
  · exact level_le_card (accounted_levels listed edges) hv fun u k => mem_occurring_of_level
  · exact level_eq_zero_iff hv
  · refine level_lt_of_leads ⟨hedge, hne⟩ ht fun hreach => hback ?_
    exact Relation.ReflTransGen.mono (fun u w hstep => hstep.1) t s hreach

/-- The bound is met where two vertices lead to each other. -/
example : level? [0, 1] [(0, 1), (1, 0)] 0 = some 2 := by
  simp [level?, levels_eq_knownAfter, knownAfter, visit, visitAll, parents, List.lookup_cons,
    List.eraseDups_cons]

/-- A cycle of two vertices with an edge that leads out of it. -/
theorem level_bounds_out_of_cycle :
    level? [2] [(0, 1), (1, 0), (1, 2)] 2 = some 3 ∧
    (3 ≤ (occurring [2] [(0, 1), (1, 0), (1, 2)]).card ∧
      (3 = 0 ↔ ∀ p, (p, 2) ∈ [(0, 1), (1, 0), (1, 2)] → p = 2)) ∧
    ∃ k, level? [2] [(0, 1), (1, 0), (1, 2)] 1 = some k ∧ k + 1 ≤ 3 := by
  have hlevel : level? [2] [(0, 1), (1, 0), (1, 2)] 2 = some 3 := by
    simp [level?, levels_eq_knownAfter, knownAfter, visit, visitAll, parents,
      List.eraseDups_cons]
  have hend : ∀ u, Relation.ReflTransGen (fun u w => (u, w) ∈ [(0, 1), (1, 0), (1, 2)]) 2 u →
      u = 2 := by
    intro u hu
    rcases Relation.ReflTransGen.cases_head hu with rfl | ⟨w, hedge, -⟩
    · rfl
    · simp at hedge
  obtain ⟨-, -, hbound, hrise⟩ := level_bounds [2] [(0, 1), (1, 0), (1, 2)]
  refine ⟨hlevel, hbound 2 3 hlevel, hrise 1 2 3 (by simp) (by decide) hlevel fun hback => ?_⟩
  cases hend 1 hback

end Easel
