/-! Levels of the vertices of a directed graph: how many edges the longest way to a vertex has.
On a cycle the vertex that is met again counts as level 0. -/
namespace Easel

variable {V : Type} [DecidableEq V]

/-- The other vertices from which an edge enters a vertex, each once, in the order of the edges. -/
def parents (edges : List (V × V)) (v : V) : List V :=
  ((edges.filter fun e => e.2 = v ∧ e.1 ≠ v).map (·.1)).eraseDups

/-- Every vertex that is listed or that an edge to another vertex touches, once. -/
def vertices (listed : List V) (edges : List (V × V)) : List V :=
  (listed ++ (edges.filter fun e => e.1 ≠ e.2).flatMap fun e => [e.1, e.2]).eraseDups

/-- The parents of all these vertices. -/
def parentTable (listed : List V) (edges : List (V × V)) : List (V × List V) :=
  (vertices listed edges).map fun v => (v, parents edges v)

/-- A vertex that has been entered, the parents it has not looked at, and its level as far as
the parents it has looked at tell. -/
structure Ascent (V : Type) where
  vertex : V
  pending : List V
  best : Nat

/-- The vertices on a way. -/
def onPath (path : List (Ascent V)) : List V := path.map (·.vertex)

/-- Raises the level of the innermost vertex. -/
def raise (level : Nat) : List (Ascent V) → List (Ascent V)
  | [] => []
  | a :: rest => { a with best := Nat.max a.best level } :: rest

/-- How many vertices of a table are neither on a way nor finished. -/
def unentered (table : List (V × List V)) (path : List (Ascent V)) (levels : List (V × Nat)) :
    Nat :=
  table.countP fun e => e.1 ∉ onPath path ∧ e.1 ∉ levels.map (·.1)

/-- How much there is still to do for the vertices on the way. -/
def effort : List (Ascent V) → Nat
  | [] => 0
  | a :: rest => a.pending.length + 1 + effort rest

omit [DecidableEq V] in
theorem onPath_raise (level : Nat) (path : List (Ascent V)) :
    onPath (raise level path) = onPath path := by
  cases path <;> rfl

omit [DecidableEq V] in
theorem effort_raise (level : Nat) (path : List (Ascent V)) :
    effort (raise level path) = effort path := by
  cases path <;> rfl

theorem unentered_finish (table : List (V × List V)) (v : V) (best level : Nat)
    (rest : List (Ascent V)) (levels : List (V × Nat)) :
    unentered table (raise level rest) ((v, best) :: levels) =
      unentered table (⟨v, [], best⟩ :: rest) levels := by
  unfold unentered
  rw [onPath_raise]
  congr 1
  funext e
  have hpath : e.1 ∈ onPath (⟨v, [], best⟩ :: rest) ↔ e.1 = v ∨ e.1 ∈ onPath rest := List.mem_cons
  simp only [hpath, List.map_cons, List.mem_cons, not_or, and_assoc, and_left_comm]

/-- Fewer items have a property that is stronger and that one of the items has lost. -/
theorem countP_lt_of_mem {α : Type} {p q : α → Bool} {xs : List α} {x : α} (hx : x ∈ xs)
    (hq : q x = true) (hp : p x = false) (h : ∀ y, p y = true → q y = true) :
    xs.countP p < xs.countP q := by
  obtain ⟨before, after, rfl⟩ := List.append_of_mem hx
  have hbefore : before.countP p ≤ before.countP q := List.countP_mono_left fun y _ => h y
  have hafter : after.countP p ≤ after.countP q := List.countP_mono_left fun y _ => h y
  rw [List.countP_append, List.countP_append, List.countP_cons_of_neg (by simp [hp]),
    List.countP_cons_of_pos hq]
  omega

/-- An entered vertex was one of those that are neither on the way nor finished. -/
theorem unentered_enter {table : List (V × List V)} {p : V} {ps : List V}
    (hp : table.lookup p = some ps) {path : List (Ascent V)} (hpath : p ∉ onPath path)
    {levels : List (V × Nat)} (hlevels : levels.lookup p = none) :
    unentered table (⟨p, ps, 0⟩ :: path) levels < unentered table path levels := by
  have hfinished : p ∉ levels.map (·.1) := by
    intro h
    obtain ⟨e, he, rfl⟩ := List.mem_map.mp h
    simpa using List.lookup_eq_none_iff.mp hlevels e he
  have hentry : (p, ps) ∈ table := by
    obtain ⟨before, after, rfl, -⟩ := List.lookup_eq_some_iff.mp hp
    exact List.mem_append_right _ List.mem_cons_self
  refine countP_lt_of_mem hentry (decide_eq_true ⟨hpath, hfinished⟩) ?_ ?_
  · exact decide_eq_false fun h => h.1 List.mem_cons_self
  · intro e he
    obtain ⟨hnot, hlevel⟩ := of_decide_eq_true he
    exact decide_eq_true ⟨fun h => hnot (List.mem_cons_of_mem _ h), hlevel⟩

/-- Finishes all vertices on a way, the innermost first. A parent on the way counts as level 0;
a vertex that the table lacks is an error. -/
def ascend (table : List (V × List V)) (path : List (Ascent V)) (levels : List (V × Nat)) :
    Except V (List (V × Nat)) :=
  match path with
  | [] => .ok levels
  | ⟨v, [], best⟩ :: rest => ascend table (raise (best + 1) rest) ((v, best) :: levels)
  | ⟨v, p :: pending, best⟩ :: rest =>
    match _hl : levels.lookup p with
    | some level => ascend table (⟨v, pending, Nat.max best (level + 1)⟩ :: rest) levels
    | none =>
      if _hp : p ∈ v :: onPath rest then
        ascend table (⟨v, pending, Nat.max best 1⟩ :: rest) levels
      else match _ht : table.lookup p with
        | some ps => ascend table (⟨p, ps, 0⟩ :: ⟨v, pending, best⟩ :: rest) levels
        | none => .error p
termination_by (unentered table path levels, effort path)
decreasing_by
  · rw [unentered_finish]
    exact Prod.Lex.right _ (by rw [effort_raise]; simp [effort])
  · exact Prod.Lex.right _ (by simp [effort])
  · exact Prod.Lex.right _ (by simp [effort])
  · have hpath : p ∉ onPath (⟨v, pending, best⟩ :: rest) := _hp
    exact Prod.Lex.left _ _ (unentered_enter _ht hpath _hl)

/-- Finishes a vertex, unless it is finished. -/
def enter (table : List (V × List V)) (levels : List (V × Nat)) (v : V) :
    Except V (List (V × Nat)) :=
  match levels.lookup v with
  | some _ => .ok levels
  | none =>
    match table.lookup v with
    | some ps => ascend table [⟨v, ps, 0⟩] levels
    | none => .error v

/-- Finishes the listed vertices, and with them all from which these are reached. -/
def survey (listed : List V) (edges : List (V × V)) : Except V (List (V × Nat)) :=
  listed.foldlM (enter (parentTable listed edges)) []

/-- The levels of a survey. The table lacks no vertex, so that there always is one. -/
def levels (listed : List V) (edges : List (V × V)) : List (V × Nat) :=
  match survey listed edges with
  | .ok levels => levels
  | .error _ => []

end Easel
