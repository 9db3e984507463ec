import Mathlib.Order.CompletePartialOrder
import Mathlib.Data.Real.Basic
import Easel.Proofs.Flowchart.Shapes
import Easel.Proofs.Graph.Cycles

/-! The nodes of a flowchart stand on a grid: each level has a row, or a column, of its own, which
its nodes fill in their order. No two nodes overlap, and edges that are on no cycle lead onward. -/
namespace Easel

theorem exists_getElem?_of_filter {α : Type} {f : α → Bool} {xs : List α} {j : Nat} {x : α}
    (h : (xs.filter f)[j]? = some x) :
    ∃ i, xs[i]? = some x ∧ (xs.take i).countP f = j ∧ f x = true := by
  induction xs generalizing j with
  | nil => cases h
  | cons y ys ih =>
    by_cases hy : f y = true
    · rw [List.filter_cons_of_pos hy] at h
      cases j with
      | zero =>
        obtain rfl := Option.some.inj h
        exact ⟨0, rfl, rfl, hy⟩
      | succ j =>
        obtain ⟨i, hi, hcount, hx⟩ := ih h
        exact ⟨i + 1, hi, by rw [List.take_succ_cons, List.countP_cons_of_pos hy, hcount], hx⟩
    · rw [List.filter_cons_of_neg hy] at h
      obtain ⟨i, hi, hcount, hx⟩ := ih h
      exact ⟨i + 1, hi, by rw [List.take_succ_cons, List.countP_cons_of_neg hy, hcount], hx⟩

theorem lookup_of_nodup {α β : Type} [BEq α] [LawfulBEq α] {entries : List (α × β)} {k : α} {v : β}
    (hkeys : (entries.map (·.1)).Nodup) (h : (k, v) ∈ entries) : entries.lookup k = some v := by
  obtain ⟨before, after, rfl⟩ := List.append_of_mem h
  refine List.lookup_eq_some_iff.mpr ⟨before, after, rfl, fun e he => ?_⟩
  rw [List.map_append, List.nodup_append] at hkeys
  have hne := hkeys.2.2 e.1 (List.mem_map_of_mem he) k (by simp)
  simpa using Ne.symm hne

namespace Flowchart

variable {c : Flowchart} {n m : Node} {e : Edge} {id : Text} {level slot level' slot' : Nat}

/-- An item takes the slot after those of the earlier items that it equals. -/
theorem getElem?_slots {earlier rows : List Nat} {i row : Nat} (h : rows[i]? = some row) :
    (slots earlier rows)[i]? = some (earlier.count row + (rows.take i).count row) := by
  induction rows generalizing earlier i with
  | nil => cases h
  | cons first rows ih =>
    cases i with
    | zero =>
      obtain rfl := Option.some.inj h
      simp [slots]
    | succ i =>
      rw [slots, List.getElem?_cons_succ, ih h, List.take_succ_cons, List.count_cons,
        List.count_cons]
      congr 1
      omega

/-- The level of a node. -/
def levelOf? (c : Flowchart) (id : Text) : Option Nat :=
  level? (c.nodes.map (·.id)) (c.edges.map Edge.ends) id

/-- The nodes of a level, in the order of all nodes. -/
def inLevel (c : Flowchart) (level : Nat) : List Node :=
  c.nodes.filter fun n => c.levelOf? n.id = some level

/-- Each node has a level. -/
theorem exists_levelOf? (h : id ∈ c.nodes.map (·.id)) : ∃ level, c.levelOf? id = some level :=
  exists_level_iff.mpr ⟨id, h, .refl⟩

/-- Names are compared in two ways, which agree. -/
theorem levelOf?_eq_lookup (c : Flowchart) (id : Text) :
    c.levelOf? id = (levels (c.nodes.map (·.id)) (c.edges.map Edge.ends)).lookup id := by
  rw [levelOf?, level?, lawful_beq_subsingleton instBEqOfDecidableEq List.instBEq]

theorem rows_eq (c : Flowchart) : c.rows = c.nodes.map fun n => (c.levelOf? n.id).getD 0 := by
  simp only [rows, levelOf?_eq_lookup, List.map_map, Function.comp_def]

/-- The slot of a node is the number of nodes before it that are on its level. -/
theorem count_take_rows (c : Flowchart) (i level : Nat) :
    (c.rows.take i).count level =
      (c.nodes.take i).countP fun n => c.levelOf? n.id = some level := by
  rw [rows_eq, ← List.map_take, List.count_eq_countP, List.countP_map]
  refine List.countP_congr fun n hn => ?_
  obtain ⟨k, hk⟩ := exists_levelOf? (List.mem_map_of_mem (List.mem_of_mem_take hn))
  simp [hk]

/-- A node is placed by its level and its slot. -/
theorem getElem?_places {i : Nat} (hn : c.nodes[i]? = some n)
    (hlevel : c.levelOf? n.id = some level) :
    c.places[i]? = some (n.id, placeOf c.horizontal level ((c.rows.take i).count level)) := by
  have hrow : c.rows[i]? = some level := by
    rw [rows_eq, List.getElem?_map, hn, Option.map_some, hlevel, Option.getD_some]
  have hslot : (slots [] c.rows)[i]? = some ((c.rows.take i).count level) := by
    rw [getElem?_slots hrow, List.count_nil, Nat.zero_add]
  simp only [places, List.getElem?_zip_eq_some, List.getElem?_map, hn, Option.map_some,
    Option.map_eq_some_iff, Prod.exists]
  exact ⟨trivial, level, _, ⟨hrow, hslot⟩, rfl⟩

theorem placeIn?_of_mem {p : Place} (hids : (c.nodes.map (·.id)).Nodup) (h : (id, p) ∈ c.places) :
    placeIn? c.places id = some p := by
  refine lookup_of_nodup ?_ (List.mem_reverse.mpr h)
  rwa [List.map_reverse, List.nodup_reverse, names_places]

/-- Names are distinct, so that looking up a node finds its own place. -/
theorem placeIn?_of_inLevel (hids : (c.nodes.map (·.id)).Nodup)
    (h : (c.inLevel level)[slot]? = some n) :
    placeIn? c.places n.id = some (placeOf c.horizontal level slot) := by
  obtain ⟨i, hi, hcount, hlevel⟩ := exists_getElem?_of_filter h
  have hplace := getElem?_places hi (of_decide_eq_true hlevel)
  rw [count_take_rows, hcount] at hplace
  exact placeIn?_of_mem hids (List.mem_of_getElem? hplace)

/-- Every node has a slot of its level. -/
theorem exists_slot (hn : n ∈ c.nodes) :
    ∃ level slot : Nat, c.levelOf? n.id = some level ∧ (c.inLevel level)[slot]? = some n := by
  obtain ⟨level, hlevel⟩ := exists_levelOf? (List.mem_map_of_mem (f := (·.id)) hn)
  have hmem : n ∈ c.inLevel level := List.mem_filter.mpr ⟨hn, decide_eq_true hlevel⟩
  obtain ⟨slot, hslot⟩ := List.mem_iff_getElem?.mp hmem
  exact ⟨level, slot, hlevel, hslot⟩

end Flowchart

/-- What a node at a place covers. -/
def Place.box (p : Place) : Set (ℝ × ℝ) :=
  Set.Icc ((p.x : ℝ), (p.y : ℝ))
    (((p.x + Flowchart.nodeWidth : ℕ) : ℝ), ((p.y + Flowchart.nodeHeight : ℕ) : ℝ))

/-- Boxes side by side do not overlap. -/
theorem Place.disjoint_box_of_x_lt {p q : Place} (h : p.x + Flowchart.nodeWidth < q.x) :
    Disjoint p.box q.box := by
  refine Set.disjoint_left.mpr fun a hp hq => ?_
  have hlt : ((p.x + Flowchart.nodeWidth : ℕ) : ℝ) < q.x := Nat.cast_lt.mpr h
  exact absurd (hq.1.1.trans hp.2.1) (not_le.mpr hlt)

theorem Place.disjoint_box_of_y_lt {p q : Place} (h : p.y + Flowchart.nodeHeight < q.y) :
    Disjoint p.box q.box := by
  refine Set.disjoint_left.mpr fun a hp hq => ?_
  have hlt : ((p.y + Flowchart.nodeHeight : ℕ) : ℝ) < q.y := Nat.cast_lt.mpr h
  exact absurd (hq.1.2.trans hp.2.2) (not_le.mpr hlt)

namespace Flowchart

variable {c : Flowchart} {n m : Node} {e : Edge} {id : Text} {level slot level' slot' : Nat}

/-- Boxes are smaller than the distances between places. -/
theorem disjoint_box_of_level_lt (horizontal : Bool) (h : level < level') :
    Disjoint (placeOf horizontal level slot).box (placeOf horizontal level' slot').box := by
  cases horizontal with
  | true =>
    apply Place.disjoint_box_of_x_lt
    simp only [placeOf, if_true, origin, spacingX, nodeWidth]
    omega
  | false =>
    apply Place.disjoint_box_of_y_lt
    simp only [placeOf, Bool.false_eq_true, if_false, origin, spacingY, nodeHeight]
    omega

/-- A row of one grid is a column of the other. -/
theorem placeOf_not (horizontal : Bool) (level slot : Nat) :
    placeOf (!horizontal) slot level = placeOf horizontal level slot := by
  cases horizontal <;> rfl

theorem disjoint_box_of_slot_lt (horizontal : Bool) (h : slot < slot') :
    Disjoint (placeOf horizontal level slot).box (placeOf horizontal level' slot').box := by
  rw [← placeOf_not horizontal level, ← placeOf_not horizontal level']
  exact disjoint_box_of_level_lt (!horizontal) h

/-- Of two places, one is further along the levels or along the slots. -/
theorem disjoint_box (horizontal : Bool) (h : level ≠ level' ∨ slot ≠ slot') :
    Disjoint (placeOf horizontal level slot).box (placeOf horizontal level' slot').box := by
  rcases h with h | h
  · rcases Nat.lt_or_gt_of_ne h with hlt | hgt
    · exact disjoint_box_of_level_lt horizontal hlt
    · exact (disjoint_box_of_level_lt horizontal hgt).symm
  · rcases Nat.lt_or_gt_of_ne h with hlt | hgt
    · exact disjoint_box_of_slot_lt horizontal hlt
    · exact (disjoint_box_of_slot_lt horizontal hgt).symm

theorem disjoint_box_of_ne (hids : (c.nodes.map (·.id)).Nodup) (hn : n ∈ c.nodes)
    (hm : m ∈ c.nodes) (hne : n ≠ m) :
    ∃ p q, placeIn? c.places n.id = some p ∧ placeIn? c.places m.id = some q ∧
      Disjoint p.box q.box := by
  obtain ⟨level, slot, -, hslot⟩ := exists_slot hn
  obtain ⟨level', slot', -, hslot'⟩ := exists_slot hm
  refine ⟨_, _, placeIn?_of_inLevel hids hslot, placeIn?_of_inLevel hids hslot',
    disjoint_box c.horizontal ?_⟩
  -- one slot of one level holds one node
  by_contra hsame
  obtain ⟨rfl, rfl⟩ : level = level' ∧ slot = slot' := by
    simpa only [ne_eq, not_or, not_not] using hsame
  exact hne (Option.some.inj (hslot.symm.trans hslot'))

/-- How far along the levels a place is. -/
def along (horizontal : Bool) (p : Place) : Nat := if horizontal then p.x else p.y

/-- The distance from one level to the next. -/
def levelSpacing (horizontal : Bool) : Nat := if horizontal then spacingX else spacingY

/-- Levels are evenly spaced. -/
theorem along_placeOf (horizontal : Bool) (level slot : Nat) :
    along horizontal (placeOf horizontal level slot) =
      origin + level * levelSpacing horizontal := by
  cases horizontal <;> rfl

theorem along_of_levelOf? (hids : (c.nodes.map (·.id)).Nodup) (hid : id ∈ c.nodes.map (·.id))
    (hlevel : c.levelOf? id = some level) :
    ∃ p, placeIn? c.places id = some p ∧
      along c.horizontal p = origin + level * levelSpacing c.horizontal := by
  obtain ⟨n, hn, rfl⟩ := List.mem_map.mp hid
  obtain ⟨level', slot, hlevel', hslot⟩ := exists_slot hn
  obtain rfl : level = level' := Option.some.inj (hlevel.symm.trans hlevel')
  exact ⟨_, placeIn?_of_inLevel hids hslot, along_placeOf c.horizontal level slot⟩

/-- An edge that is on no cycle leads to a higher level, by one spacing at least. -/
theorem along_of_edge (hids : (c.nodes.map (·.id)).Nodup) (he : e ∈ c.edges)
    (hne : e.source ≠ e.target) (hsource : e.source ∈ c.nodes.map (·.id))
    (htarget : e.target ∈ c.nodes.map (·.id))
    (hback : ¬ Relation.ReflTransGen (Leads (c.edges.map Edge.ends)) e.target e.source) :
    ∃ p q, placeIn? c.places e.source = some p ∧ placeIn? c.places e.target = some q ∧
      along c.horizontal p + levelSpacing c.horizontal ≤ along c.horizontal q := by
  have hleads : Leads (c.edges.map Edge.ends) e.source e.target :=
    ⟨List.mem_map_of_mem (f := Edge.ends) he, hne⟩
  obtain ⟨level, hlevel⟩ := exists_levelOf? htarget
  obtain ⟨k, hk, hlt⟩ := level_lt_of_leads hleads hlevel hback
  obtain ⟨p, hp, hpx⟩ := along_of_levelOf? hids hsource hk
  obtain ⟨q, hq, hqx⟩ := along_of_levelOf? hids htarget hlevel
  refine ⟨p, q, hp, hq, ?_⟩
  calc along c.horizontal p + levelSpacing c.horizontal
      = origin + (k + 1) * levelSpacing c.horizontal := by
        rw [hpx, Nat.add_mul, Nat.one_mul, Nat.add_assoc]
    _ ≤ origin + level * levelSpacing c.horizontal :=
        Nat.add_le_add_left (Nat.mul_le_mul_right _ hlt) _
    _ = along c.horizontal q := hqx.symm

/-- Where no name is listed twice, every node has one place. The nodes of a level fill the slots of
the level from the first one on, in their order. No two nodes overlap, and an edge between two nodes
that is on no cycle leads to a place that is at least one level further. -/
theorem places_on_grid (c : Flowchart) (hids : (c.nodes.map (·.id)).Nodup) :
    c.places.map (·.1) = c.nodes.map (·.id) ∧
    (∀ n ∈ c.nodes, ∃ level slot : Nat, c.levelOf? n.id = some level ∧
      (c.inLevel level)[slot]? = some n) ∧
    (∀ (level slot : Nat) (n : Node), (c.inLevel level)[slot]? = some n →
      placeIn? c.places n.id = some (placeOf c.horizontal level slot)) ∧
    (∀ n ∈ c.nodes, ∀ m ∈ c.nodes, n ≠ m →
      ∃ p q, placeIn? c.places n.id = some p ∧ placeIn? c.places m.id = some q ∧
        Disjoint p.box q.box) ∧
    ∀ e ∈ c.edges, e.source ≠ e.target → e.source ∈ c.nodes.map (·.id) →
      e.target ∈ c.nodes.map (·.id) →
      ¬ Relation.ReflTransGen (fun u w => (u, w) ∈ c.edges.map Edge.ends) e.target e.source →
        ∃ p q, placeIn? c.places e.source = some p ∧ placeIn? c.places e.target = some q ∧
          along c.horizontal p + levelSpacing c.horizontal ≤ along c.horizontal q := by
  refine ⟨names_places c, fun n hn => exists_slot hn,
    fun level slot n hslot => placeIn?_of_inLevel hids hslot,
    fun n hn m hm hne => disjoint_box_of_ne hids hn hm hne,
    fun e he hne hsource htarget hback => ?_⟩
  refine along_of_edge hids he hne hsource htarget fun hreach => hback ?_
  exact Relation.ReflTransGen.mono (fun u w hstep => hstep.1) e.target e.source hreach

def named (c : Char) : Node := { id := [.scalar c], label := [.scalar c] }

def link (s t : Char) : Edge := { source := [.scalar s], target := [.scalar t] }

/-- Two nodes that lead to each other, one of them also to two more. -/
def branching : Flowchart where
  nodes := [named 'a', named 'b', named 'c', named 'd']
  edges := [link 'a' 'b', link 'b' 'a', link 'a' 'c', link 'a' 'd']
  horizontal := true

/-- Of two vertices that lead to each other, the first listed one stands after the second, and what
else it leads to stands behind both. -/
theorem levels_of_branching {V : Type} [DecidableEq V] {a b c d : V} (h : [a, b, c, d].Nodup) :
    levels [a, b, c, d] [(a, b), (b, a), (a, c), (a, d)] = [(d, 3), (c, 3), (a, 2), (b, 1)] := by
  simp only [List.nodup_cons, List.mem_cons, List.not_mem_nil, not_or, or_false] at h
  obtain ⟨⟨hab, hac, had⟩, ⟨hbc, hbd⟩, hcd, -⟩ := h
  simp [levels_eq_knownAfter, knownAfter, visit, visitAll, parents, List.lookup_cons,
    List.eraseDups_cons, hab, hac, had, hbc, hbd, hcd, Ne.symm hab, Ne.symm hac, Ne.symm had,
    Ne.symm hbc, Ne.symm hbd, Ne.symm hcd, beq_false_of_ne]

theorem places_on_grid_branching :
    (branching.nodes.map (·.id)).Nodup ∧
    placeIn? branching.places [.scalar 'd'] = some ⟨850, 250⟩ ∧
    (∃ p q, placeIn? branching.places [.scalar 'c'] = some p ∧
      placeIn? branching.places [.scalar 'd'] = some q ∧ Disjoint p.box q.box) ∧
    ∃ p q, placeIn? branching.places [.scalar 'a'] = some p ∧
      placeIn? branching.places [.scalar 'd'] = some q ∧ p.x + 250 ≤ q.x := by
  have hids : (branching.nodes.map (·.id)).Nodup := by decide
  have hlevels : levels (branching.nodes.map (·.id)) (branching.edges.map Edge.ends) = _ :=
    levels_of_branching hids
  have hslot : (branching.inLevel 3)[1]? = some (named 'd') := by
    simp only [inLevel, levelOf?, level?, hlevels]
    decide
  have hend : ¬ Relation.ReflTransGen (fun u w => (u, w) ∈ branching.edges.map Edge.ends)
      (link 'a' 'd').target (link 'a' 'd').source := by
    intro hback
    rcases Relation.ReflTransGen.cases_head hback with heq | ⟨w, hedge, -⟩
    · exact absurd heq (by decide)
    · simp [branching, link, Edge.ends] at hedge
  obtain ⟨-, -, hplace, happart, honward⟩ := places_on_grid branching hids
  exact ⟨hids, hplace 3 1 (named 'd') hslot,
    happart (named 'c') (by decide) (named 'd') (by decide) (by decide),
    honward (link 'a' 'd') (by decide) (by decide) (by decide) (by decide) hend⟩

end Flowchart

end Easel
