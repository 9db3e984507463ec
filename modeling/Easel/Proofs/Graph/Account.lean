import Easel.Proofs.Graph.Survey

/-! Every level accounts for the parents: it is one more than the greatest level among them, where
a parent that is met again on a cycle counts as 0. -/
namespace Easel

variable {V : Type} {ps : List V} {p : V} {level k : Nat}

/-- One more than the greatest level that some vertices count as; 0 if there are none. -/
structure Tops (counts : V → Nat → Prop) (ps : List V) (level : Nat) : Prop where
  above : ∀ p ∈ ps, ∃ k, counts p k ∧ k + 1 ≤ level
  attained : level = 0 ∨ ∃ p ∈ ps, ∃ k, counts p k ∧ level = k + 1

namespace Tops

variable {counts counts' : V → Nat → Prop}

theorem nil : Tops counts [] 0 where
  above _ hp := by cases hp
  attained := .inl rfl

theorem cons (hp : counts p k) (h : Tops counts ps level) :
    Tops counts (p :: ps) (Nat.max (k + 1) level) where
  above q hq := by
    rcases List.mem_cons.mp hq with rfl | hq
    · exact ⟨k, hp, Nat.le_max_left _ _⟩
    · obtain ⟨j, hj, hle⟩ := h.above q hq
      exact ⟨j, hj, Nat.le_trans hle (Nat.le_max_right _ _)⟩
  attained := by
    right
    rcases Nat.le_total level (k + 1) with hle | hle
    · exact ⟨p, List.mem_cons_self, k, hp, Nat.max_eq_left hle⟩
    · obtain ⟨q, hq, j, hj, heq⟩ := h.attained.resolve_left (by omega)
      exact ⟨q, List.mem_cons_of_mem p hq, j, hj, (Nat.max_eq_right hle).trans heq⟩

theorem mono (h : Tops counts ps level) (hcounts : ∀ p ∈ ps, ∀ k, counts p k → counts' p k) :
    Tops counts' ps level where
  above p hp := by
    obtain ⟨k, hk, hle⟩ := h.above p hp
    exact ⟨k, hcounts p hp k hk, hle⟩
  attained := h.attained.imp_right fun ⟨p, hp, k, hk, heq⟩ => ⟨p, hp, k, hcounts p hp k hk, heq⟩

/-- A level that is not 0 is set by one of the vertices. -/
theorem exists_of_succ (h : Tops counts ps (level + 1)) : ∃ p ∈ ps, counts p level := by
  obtain ⟨p, hp, k, hk, heq⟩ := h.attained.resolve_left (Nat.succ_ne_zero level)
  obtain rfl : level = k := Nat.succ.inj heq
  exact ⟨p, hp, hk⟩

/-- Only what has no parents is on level zero. -/
theorem eq_zero_iff (h : Tops counts ps level) : level = 0 ↔ ps = [] := by
  constructor
  · rintro rfl
    refine List.eq_nil_iff_forall_not_mem.mpr fun p hp => ?_
    obtain ⟨k, -, hle⟩ := h.above p hp
    omega
  · rintro rfl
    rcases h.attained with hzero | ⟨p, hp, -⟩
    · exact hzero
    · cases hp

end Tops

variable [DecidableEq V] {listed : List V} {edges : List (V × V)} {path : List V}
  {known later last : List (V × Nat)} {u v : V}

/-- A vertex counts as its level, or as 0 where it is reached again. -/
def Counts (reached : V → Prop) (known : List (V × Nat)) (p : V) (k : Nat) : Prop :=
  known.lookup p = some k ∨ reached p ∧ k = 0

/-- Every level that is known accounts for the parents of its vertex. A parent counts as 0 only if
it is reached from the vertex, so that both are on a cycle. -/
def Accounted (edges : List (V × V)) (known : List (V × Nat)) : Prop :=
  ∀ v level, known.lookup v = some level →
    Tops (Counts (Relation.ReflTransGen (Leads edges) v) known) (parents edges v) level

theorem lookup_cons_of_none (level : Nat) (hv : later.lookup v = none)
    (hu : later.lookup u = some k) : List.lookup u ((v, level) :: later) = some k := by
  have hne : u ≠ v := by
    rintro rfl
    rw [hv] at hu
    cases hu
  rwa [List.lookup_cons, beq_false_of_ne hne]

/-- What is known has a level. -/
theorem exists_lookup_of_mem_knownOf (h : v ∈ knownOf known) :
    ∃ level, known.lookup v = some level := by
  obtain ⟨e, he, rfl⟩ := List.mem_map.mp h
  refine Option.ne_none_iff_exists'.mp fun hnone => ?_
  simpa using List.lookup_eq_none_iff.mp hnone e he

/-- A visit keeps the levels that are known, finds none for a vertex on the way, and accounts for
all that it adds. -/
structure Settles (edges : List (V × V)) (path : List V) (known later : List (V × Nat)) : Prop where
  keeps : ∀ u k, known.lookup u = some k → later.lookup u = some k
  unfinished : ∀ u ∈ path, known.lookup u = none → later.lookup u = none
  accounted : Accounted edges known → Accounted edges later

namespace Settles

theorem refl : Settles edges path known known where
  keeps _ _ h := h
  unfinished _ _ h := h
  accounted h := h

/-- What has been settled stays so. -/
theorem trans (h : Settles edges path known later) (h' : Settles edges path later last) :
    Settles edges path known last where
  keeps u k hu := h'.keeps u k (h.keeps u k hu)
  unfinished u hu hnone := h'.unfinished u hu (h.unfinished u hu hnone)
  accounted hk := h'.accounted (h.accounted hk)

/-- A level that counts goes on counting when more is known. -/
theorem counts_later {reached : V → Prop} (h : Settles edges path known later)
    (hp : Counts reached known p k) : Counts reached later p k :=
  hp.imp_left (h.keeps p k)

/-- A vertex is finished when all its parents count; those on the way are reached from it. -/
theorem finish (hv : known.lookup v = none) (hpath : v ∉ path)
    (hway : ∀ u ∈ path, Relation.ReflTransGen (Leads edges) v u)
    (hlevel : Tops (Counts (· ∈ v :: path) later) (parents edges v) level)
    (h : Settles edges (v :: path) known later) :
    Settles edges path known ((v, level) :: later) := by
  have hnone : later.lookup v = none := h.unfinished v List.mem_cons_self hv
  have hkeeps : ∀ u k, later.lookup u = some k → List.lookup u ((v, level) :: later) = some k :=
    fun u k => lookup_cons_of_none level hnone
  refine ⟨fun u k hu => hkeeps u k (h.keeps u k hu), fun u hu hopen => ?_, fun hknown w k hw => ?_⟩
  · have hne : u ≠ v := by
      rintro rfl
      exact hpath hu
    rw [List.lookup_cons, beq_false_of_ne hne]
    exact h.unfinished u (List.mem_cons_of_mem v hu) hopen
  · by_cases hwv : w = v
    · subst hwv
      obtain rfl : level = k := by simpa using hw
      refine hlevel.mono fun p _ j hp => hp.imp (hkeeps p j) fun ⟨hmem, hzero⟩ => ⟨?_, hzero⟩
      rcases List.mem_cons.mp hmem with rfl | hmem
      · exact .refl
      · exact hway p hmem
    · rw [List.lookup_cons, beq_false_of_ne hwv] at hw
      exact (h.accounted hknown w k hw).mono fun p _ j hp => hp.imp_left (hkeeps p j)

end Settles

/-- A visit to a vertex that reaches the whole way settles it, or meets it on the way. -/
def SettlesOne (edges : List (V × V)) (path : List V) (known : List (V × Nat)) (v : V) : Prop :=
  (∀ u ∈ path, Relation.ReflTransGen (Leads edges) v u) →
    Settles edges path known (visit edges path known v).2 ∧
      Counts (· ∈ path) (visit edges path known v).2 v (visit edges path known v).1

/-- Visits to vertices that reach the whole way settle them all. -/
def SettlesAll (edges : List (V × V)) (path : List V) (known : List (V × Nat)) (ps : List V) :
    Prop :=
  (∀ p ∈ ps, ∀ u ∈ path, Relation.ReflTransGen (Leads edges) p u) →
    Settles edges path known (visitAll edges path known ps).2 ∧
      Tops (Counts (· ∈ path) (visitAll edges path known ps).2) ps (visitAll edges path known ps).1

/-- Each vertex on a way leads to the one that was entered before it, so that a vertex entered from
the innermost one reaches them all. -/
theorem settles_visit (edges : List (V × V)) :
    (∀ path known v, SettlesOne edges path known v) ∧
      ∀ path known ps, SettlesAll edges path known ps := by
  refine visit.mutual_induct edges (SettlesOne edges) (SettlesAll edges)
    ?known ?active ?fresh ?nil ?cons
  case known =>
    intro path known v level h _
    rw [visit_of_known h]
    exact ⟨.refl, .inl h⟩
  case active =>
    intro path known v hk h _
    rw [visit_of_mem hk h]
    exact ⟨.refl, .inr ⟨h, rfl⟩⟩
  case fresh =>
    intro path known v hk h ih hway
    have hreach : ∀ p ∈ parents edges v, ∀ u ∈ v :: path,
        Relation.ReflTransGen (Leads edges) p u := by
      intro p hp u hu
      have hstep : Leads edges p v := mem_parents.mp hp
      rcases List.mem_cons.mp hu with rfl | hu
      · exact .single hstep
      · exact .head hstep (hway u hu)
    obtain ⟨hsettles, htops⟩ := ih hreach
    rw [visit_of_not_mem hk h]
    refine ⟨hsettles.finish hk h hway htops, .inl ?_⟩
    simp
  case nil =>
    intro path known _
    rw [visitAll_nil]
    exact ⟨.refl, .nil⟩
  case cons =>
    intro path known p ps first ihp ihps hway
    obtain ⟨hone, hp⟩ := ihp (hway p List.mem_cons_self)
    obtain ⟨hall, htops⟩ := ihps fun q hq => hway q (List.mem_cons_of_mem p hq)
    rw [visitAll_cons]
    exact ⟨hone.trans hall, htops.cons (hall.counts_later hp)⟩

theorem settles_visitEach (edges : List (V × V)) (known : List (V × Nat)) (listed : List V) :
    Settles edges [] known (listed.foldl (fun known v => (visit edges [] known v).2) known) := by
  induction listed generalizing known with
  | nil => exact .refl
  | cons v listed ih =>
    have hvisit := (settles_visit edges).1 [] known v (by intro u hu; cases hu)
    exact hvisit.1.trans (ih _)

/-- The level of a vertex, if it has one. -/
def level? (listed : List V) (edges : List (V × V)) (v : V) : Option Nat :=
  (levels listed edges).lookup v

theorem levels_eq_knownAfter (listed : List V) (edges : List (V × V)) :
    levels listed edges = knownAfter edges listed := by
  unfold levels
  rw [survey_eq]

/-- Each level is one more than the greatest that counts for its vertex. -/
theorem accounted_levels (listed : List V) (edges : List (V × V)) :
    Accounted edges (levels listed edges) := by
  rw [levels_eq_knownAfter]
  exact (settles_visitEach edges [] listed).accounted (by intro v level hv; cases hv)

/-- The ascent without recursion finds these levels, and always comes to an end. -/
theorem survey_eq_levels (listed : List V) (edges : List (V × V)) :
    survey listed edges = .ok (levels listed edges) := by
  rw [levels_eq_knownAfter, survey_eq]

/-- The vertices that have a level are those from which a listed one is reached. -/
theorem exists_level_iff :
    (∃ level, level? listed edges v = some level) ↔
      ∃ w ∈ listed, Relation.ReflTransGen (Leads edges) v w := by
  rw [← mem_knownAfter, level?, levels_eq_knownAfter]
  exact ⟨fun ⟨_, h⟩ => mem_knownOf_of_lookup h, exists_lookup_of_mem_knownOf⟩

end Easel
