import Easel.Proofs.Graph.Recursion

/-! The survey of a graph, which keeps its unfinished vertices on a stack, finds the levels that
the recursion finds. -/
namespace Easel

variable {V : Type} [DecidableEq V] {listed : List V} {edges : List (V × V)} {v p : V}
  {known : List (V × Nat)} {table : List (V × List V)} {rest : List (Ascent V)}
  {ps pending : List V} {best : Nat}

/-- One step of the ascent at a time: a parent that is known counts at once. -/
theorem ascend_known {level : Nat} (h : known.lookup p = some level) :
    ascend table (⟨v, p :: pending, best⟩ :: rest) known =
      ascend table (⟨v, pending, Nat.max best (level + 1)⟩ :: rest) known := by
  rw [ascend]
  split
  · rename_i l hl
    rw [h] at hl
    rw [Option.some.inj hl]
  · rename_i hl
    rw [h] at hl
    cases hl

/-- A parent on the way counts as level zero. -/
theorem ascend_active (hk : known.lookup p = none) (h : p ∈ v :: onPath rest) :
    ascend table (⟨v, p :: pending, best⟩ :: rest) known =
      ascend table (⟨v, pending, Nat.max best 1⟩ :: rest) known := by
  rw [ascend]
  split
  · rename_i l hl
    rw [hk] at hl
    cases hl
  · exact dif_pos h

/-- Any other parent is gone up to first. -/
theorem ascend_enter (hk : known.lookup p = none) (h : p ∉ v :: onPath rest)
    (ht : table.lookup p = some ps) :
    ascend table (⟨v, p :: pending, best⟩ :: rest) known =
      ascend table (⟨p, ps, 0⟩ :: ⟨v, pending, best⟩ :: rest) known := by
  rw [ascend]
  split
  · rename_i l hl
    rw [hk] at hl
    cases hl
  · rw [dif_neg h]
    split
    · rename_i qs hq
      rw [ht] at hq
      rw [Option.some.inj hq]
    · rename_i hq
      rw [ht] at hq
      cases hq

/-- A vertex without further parents has its level. -/
theorem ascend_finish :
    ascend table (⟨v, [], best⟩ :: rest) known =
      ascend table (raise (best + 1) rest) ((v, best) :: known) := by
  rw [ascend]

theorem ascend_done : ascend table [] known = .ok known := by
  rw [ascend]

/-- An ascent looks at one parent as the recursion does. -/
def FollowsOne (listed : List V) (edges : List (V × V)) (path : List V) (known : List (V × Nat))
    (p : V) : Prop :=
  ∀ v rest pending best, path = v :: onPath rest → p ∈ vertices listed edges →
    ascend (parentTable listed edges) (⟨v, p :: pending, best⟩ :: rest) known =
      ascend (parentTable listed edges)
        (⟨v, pending, Nat.max best ((visit edges path known p).1 + 1)⟩ :: rest)
        (visit edges path known p).2

/-- An ascent looks at all its parents as the recursion does. -/
def FollowsAll (listed : List V) (edges : List (V × V)) (path : List V) (known : List (V × Nat))
    (ps : List V) : Prop :=
  ∀ v rest best, path = v :: onPath rest → (∀ p ∈ ps, p ∈ vertices listed edges) →
    ascend (parentTable listed edges) (⟨v, ps, best⟩ :: rest) known =
      ascend (parentTable listed edges)
        (⟨v, [], Nat.max best (visitAll edges path known ps).1⟩ :: rest)
        (visitAll edges path known ps).2

/-- The stack of an ascent stands for the calls of the recursion that have not returned. -/
theorem follows_visit (listed : List V) (edges : List (V × V)) :
    (∀ path known p, FollowsOne listed edges path known p) ∧
      ∀ path known ps, FollowsAll listed edges path known ps := by
  refine visit.mutual_induct edges (FollowsOne listed edges) (FollowsAll listed edges)
    ?known ?active ?fresh ?nil ?cons
  case known =>
    intro path known p level h v rest pending best _ _
    rw [visit_of_known h, ascend_known h]
  case active =>
    intro path known p hk h v rest pending best hpath _
    rw [visit_of_mem hk h, ascend_active hk (hpath ▸ h)]
  case fresh =>
    intro path known p hk h ih v rest pending best hpath hp
    have hentry := lookup_parentTable hp
    have hparents : ∀ q ∈ parents edges p, q ∈ vertices listed edges :=
      fun q hq => (mem_parents.mp hq).mem_vertices.1
    have hbelow : p :: path = p :: onPath (⟨v, pending, best⟩ :: rest) := by rw [hpath]; rfl
    -- the parent is pushed, does all its own parents, and raises the one below when it is popped
    rw [visit_of_not_mem hk h, ascend_enter hk (hpath ▸ h) hentry, ih p _ 0 hbelow hparents,
      ascend_finish]
    simp only [raise, Nat.max_def, Nat.zero_le, if_true]
  case nil =>
    intro path known v rest best _ _
    rw [visitAll_nil]
    simp only [Nat.max_def, Nat.le_zero_eq]
    split <;> simp_all
  case cons =>
    intro path known p ps first ihp ihps v rest best hpath hps
    rw [ihp v rest ps best hpath (hps p List.mem_cons_self),
      ihps v rest _ hpath fun q hq => hps q (List.mem_cons_of_mem p hq), visitAll_cons]
    congr 3
    exact Nat.max_assoc _ _ _

theorem enter_eq (listed : List V) (edges : List (V × V)) (known : List (V × Nat))
    (hv : v ∈ vertices listed edges) :
    enter (parentTable listed edges) known v = .ok (visit edges [] known v).2 := by
  unfold enter
  cases hk : known.lookup v with
  | some level => rw [visit_of_known hk]
  | none =>
    have hparents : ∀ p ∈ parents edges v, p ∈ vertices listed edges :=
      fun p hp => (mem_parents.mp hp).mem_vertices.1
    have hfollow := (follows_visit listed edges).2 [v] known (parents edges v) v [] 0 rfl hparents
    rw [visit_of_not_mem hk List.not_mem_nil, lookup_parentTable hv]
    simp only [hfollow, ascend_finish, raise, ascend_done, Nat.max_def, Nat.zero_le, if_true]

theorem survey_eq (listed : List V) (edges : List (V × V)) :
    survey listed edges = .ok (knownAfter edges listed) := by
  have h : ∀ (vs : List V) (known : List (V × Nat)), (∀ v ∈ vs, v ∈ vertices listed edges) →
      vs.foldlM (enter (parentTable listed edges)) known =
        .ok (vs.foldl (fun known v => (visit edges [] known v).2) known) := by
    intro vs
    induction vs with
    | nil => intro known _; rfl
    | cons v vs ih =>
      intro known hvs
      rw [List.foldlM_cons, enter_eq listed edges known (hvs v List.mem_cons_self)]
      exact ih _ fun u hu => hvs u (List.mem_cons_of_mem v hu)
  exact h listed [] fun v hv => mem_vertices_of_mem hv

/-- A survey never misses a vertex in the table of parents. It finds the levels that the recursion
finds, for the listed vertices and all from which these are reached, and for no others. -/
theorem survey_eq_recursion (listed : List V) (edges : List (V × V)) :
    survey listed edges = .ok (levels listed edges) ∧
      levels listed edges = knownAfter edges listed ∧
      ∀ v, v ∈ (levels listed edges).map (·.1) ↔
        ∃ w ∈ listed, Relation.ReflTransGen (Leads edges) v w := by
  have hlevels : levels listed edges = knownAfter edges listed := by
    unfold levels
    rw [survey_eq]
  refine ⟨?_, hlevels, fun v => ?_⟩
  · rw [hlevels, survey_eq]
  · rw [hlevels]
    exact mem_knownAfter edges listed v

end Easel
