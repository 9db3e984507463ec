import Mathlib.Data.List.Nodup
import Mathlib.Data.List.Range
import Mathlib.Logic.Function.Basic
import Std.Data.String.ToNat
import Easel.Element.Batch

/-! Which elements a shape becomes, and where the ids of a batch come from. -/
namespace Easel

theorem Text.ofString_injective : Function.Injective Text.ofString := by
  intro s t h
  have hscalar : Function.Injective CodePoint.scalar := fun _ _ => CodePoint.scalar.inj
  exact String.toList_injective (List.map_injective_iff.mpr hscalar h)

namespace IdSupply

variable {ids : IdSupply}

def skip (ids : IdSupply) (k : Nat) : IdSupply := { ids with issued := ids.issued + k }

/-- The ids that are issued next. -/
def upcoming (ids : IdSupply) (k : Nat) : List Text :=
  (List.range k).map fun j => ids.name (ids.issued + j)

/-- No id is issued twice, and none is one of the given ids. -/
structure Fresh (ids : IdSupply) (given : List Text) : Prop where
  injective : Function.Injective ids.name
  apart : ∀ n, ids.name n ∉ given

@[simp] theorem skip_skip (j k : Nat) : (ids.skip j).skip k = ids.skip (j + k) := by
  simp only [skip, Nat.add_assoc]

theorem advance_eq_skip : ids.advance = ids.skip 1 := rfl

theorem upcoming_one : ids.upcoming 1 = [ids.next] := rfl

/-- Ids are handed out in order, however many are taken at a time. -/
theorem upcoming_add (j k : Nat) :
    ids.upcoming (j + k) = ids.upcoming j ++ (ids.skip j).upcoming k := by
  have hlater : ∀ i ∈ List.range k, ids.name (ids.issued + (j + i)) =
      (ids.skip j).name ((ids.skip j).issued + i) := by
    intro i _
    exact congrArg ids.name (Nat.add_assoc _ _ _).symm
  simp only [upcoming, List.range_add, List.map_append, List.map_map]
  exact congrArg _ (List.map_congr_left hlater)

/-- A supply that never repeats a name hands out distinct ids. -/
theorem nodup_upcoming (h : Function.Injective ids.name) (k : Nat) : (ids.upcoming k).Nodup := by
  apply List.nodup_range.map
  intro i j hij
  have := h hij
  omega

theorem numbered_name (n : Nat) :
    numbered.name n = Text.ofString "gen-" ++ Text.ofString (n + 1).repr := by
  have happend : numbered.name n = Text.ofString ("gen-" ++ (n + 1).repr) := rfl
  rw [happend, Text.ofString, String.toList_append, List.map_append]
  rfl

/-- Numbers differ, and so do the ids that end with them. -/
theorem numbered_injective : Function.Injective numbered.name := by
  intro i j h
  rw [numbered_name, numbered_name] at h
  have hrepr := Text.ofString_injective (List.append_cancel_left h)
  exact Nat.succ_injective (Nat.repr_injective hrepr)

/-- Such an id is no word, and so it is not the name of a node. -/
theorem dash_mem_numbered (n : Nat) : CodePoint.scalar '-' ∈ numbered.name n := by
  rw [numbered_name]
  exact List.mem_append_left _ (by decide +kernel)

/-- An element without an id of its own takes the next one. -/
theorem choose_of_none {id : Option Text} (h : nonempty? id = none) :
    ids.choose id = (ids.next, ids.advance) := by
  cases id with
  | none => rfl
  | some t =>
    by_cases ht : t.isEmpty
    · simp [choose, ht]
    · simp [nonempty?, ht] at h

/-- An id that is given is kept, and none is taken. -/
theorem choose_of_some {id : Option Text} {t : Text} (h : nonempty? id = some t) :
    ids.choose id = (t, ids) := by
  cases id with
  | none => cases h
  | some u =>
    by_cases hu : u.isEmpty
    · simp [nonempty?, hu] at h
    · obtain rfl : u = t := by simpa [nonempty?, hu] using h
      simp [choose, hu]

end IdSupply

theorem nonempty?_some {t : Text} (h : t ≠ []) : nonempty? (some t) = some t := by
  simp [nonempty?, h]

/-- The id that is asked for. -/
def Shape.given? (s : Shape) : Option Text := nonempty? s.attributes.id

/-- The label that is shown in a text of its own. -/
def Shape.label? (s : Shape) : Option Text := s.caption?.bind fun c => nonempty? c.label

/-- A shape without a label is one element. -/
theorem elements_of_label_none {s : Shape} (h : s.label? = none) (ids : IdSupply) :
    s.elements ids =
      ([s.owner (ids.choose s.attributes.id).1], (ids.choose s.attributes.id).2) := by
  unfold Shape.label? at h
  unfold Shape.elements
  split
  · simp_all

/-- A shape with a label is two, of which the first one refers to the second. -/
theorem elements_of_label_some {s : Shape} {label : Text} (h : s.label? = some label)
    (ids : IdSupply) :
    ∃ caption, s.caption? = some caption ∧
      s.elements ids =
        ([{ s.owner (ids.choose s.attributes.id).1 with
            dependents := [⟨false, (ids.choose s.attributes.id).2.next⟩] },
          (s.owner (ids.choose s.attributes.id).1).labelText
            (ids.choose s.attributes.id).2.next label caption],
         (ids.choose s.attributes.id).2.advance) := by
  obtain ⟨caption, hcaption, hlabel⟩ := Option.bind_eq_some_iff.mp h
  refine ⟨caption, hcaption, ?_⟩
  simp only [Shape.elements, hcaption, Option.bind_some, hlabel]

/-- The ids of a block are the one that is asked for and then those that are issued next. -/
theorem ids_elements (s : Shape) (ids : IdSupply) :
    ∃ k, (s.elements ids).2 = ids.skip k ∧
      (s.elements ids).1.map (·.id) = s.given?.toList ++ ids.upcoming k := by
  have hchoose : ∃ j, (ids.choose s.attributes.id).2 = ids.skip j ∧
      [(ids.choose s.attributes.id).1] = s.given?.toList ++ ids.upcoming j := by
    unfold Shape.given?
    cases hid : nonempty? s.attributes.id with
    | none => exact ⟨1, by rw [IdSupply.choose_of_none hid]; exact ⟨rfl, rfl⟩⟩
    | some id => exact ⟨0, by rw [IdSupply.choose_of_some hid]; exact ⟨rfl, rfl⟩⟩
  obtain ⟨j, hrest, hid⟩ := hchoose
  cases hlabel : s.label? with
  | none =>
    rw [elements_of_label_none hlabel]
    exact ⟨j, hrest, hid⟩
  | some label =>
    obtain ⟨caption, -, he⟩ := elements_of_label_some hlabel ids
    refine ⟨j + 1, ?_, ?_⟩
    · rw [he, hrest, IdSupply.advance_eq_skip, IdSupply.skip_skip]
    · rw [he, IdSupply.upcoming_add, IdSupply.upcoming_one, ← List.append_assoc, ← hid, ← hrest]
      rfl

/-- As long as no arrow is registered, elements refer to their labels only. -/
theorem isArrow_of_mem_elements {s : Shape} {ids : IdSupply} {e : Element} {d : Dependent}
    (he : e ∈ (s.elements ids).1) (hd : d ∈ e.dependents) : d.isArrow = false := by
  cases hlabel : s.label? with
  | none =>
    rw [elements_of_label_none hlabel, List.mem_singleton] at he
    subst he
    cases hd
  | some label =>
    obtain ⟨caption, -, heq⟩ := elements_of_label_some hlabel ids
    rw [heq] at he
    rcases List.mem_cons.mp he with rfl | he
    · rw [List.mem_singleton.mp hd]
    · rw [List.mem_singleton.mp he] at hd
      cases hd

theorem elementsOf_cons (s : Shape) (shapes : List Shape) (ids : IdSupply) :
    elementsOf (s :: shapes) ids =
      ((s.elements ids).1 ++ (elementsOf shapes (s.elements ids).2).1,
       (elementsOf shapes (s.elements ids).2).2) := rfl

/-- A batch is compiled from left to right, with the ids that are left. -/
theorem elementsOf_append (xs ys : List Shape) (ids : IdSupply) :
    elementsOf (xs ++ ys) ids =
      ((elementsOf xs ids).1 ++ (elementsOf ys (elementsOf xs ids).2).1,
       (elementsOf ys (elementsOf xs ids).2).2) := by
  induction xs generalizing ids with
  | nil => rfl
  | cons s xs ih =>
    rw [List.cons_append, elementsOf_cons, ih, elementsOf_cons]
    simp only [List.append_assoc]

/-- The ids of a batch are those that are asked for and those that are issued next. -/
theorem ids_elementsOf (shapes : List Shape) (ids : IdSupply) :
    ∃ k, (elementsOf shapes ids).2 = ids.skip k ∧
      ((elementsOf shapes ids).1.map (·.id)).Perm
        (shapes.filterMap Shape.given? ++ ids.upcoming k) := by
  induction shapes generalizing ids with
  | nil => exact ⟨0, rfl, List.Perm.refl _⟩
  | cons s shapes ih =>
    obtain ⟨j, hj, hblock⟩ := ids_elements s ids
    obtain ⟨k, hk, hrest⟩ := ih (ids.skip j)
    refine ⟨j + k, ?_, ?_⟩
    · rw [elementsOf_cons, hj, hk, IdSupply.skip_skip]
    · rw [elementsOf_cons, hj, List.map_append, hblock, IdSupply.upcoming_add]
      have hgiven : (s :: shapes).filterMap Shape.given? =
          s.given?.toList ++ shapes.filterMap Shape.given? := by
        cases hs : s.given? <;> simp [hs]
      rw [hgiven, List.append_assoc, List.append_assoc]
      refine List.Perm.append_left _ ?_
      exact (hrest.append_left _).trans (List.perm_append_comm_assoc _ _ _)

/-- Before arrows are registered, only labels depend on elements. -/
theorem isArrow_of_mem_elementsOf {shapes : List Shape} {ids : IdSupply} {e : Element}
    {d : Dependent} (he : e ∈ (elementsOf shapes ids).1) (hd : d ∈ e.dependents) :
    d.isArrow = false := by
  induction shapes generalizing ids with
  | nil => cases he
  | cons s shapes ih =>
    rcases List.mem_append.mp he with he | he
    · exact isArrow_of_mem_elements he hd
    · exact ih he

/-- Ids that are given and ids that are handed out stay apart, and each of them is used once. -/
theorem nodup_ids_elementsOf {shapes : List Shape} {ids : IdSupply}
    (hfresh : ids.Fresh (shapes.filterMap Shape.given?))
    (hgiven : (shapes.filterMap Shape.given?).Nodup) :
    ((elementsOf shapes ids).1.map (·.id)).Nodup := by
  obtain ⟨k, -, hperm⟩ := ids_elementsOf shapes ids
  rw [hperm.nodup_iff, List.nodup_append]
  refine ⟨hgiven, IdSupply.nodup_upcoming hfresh.injective k, ?_⟩
  rintro id hid _ hnext rfl
  obtain ⟨j, -, rfl⟩ := List.mem_map.mp hnext
  exact hfresh.apart _ hid

end Easel
