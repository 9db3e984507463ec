import Easel.Proofs.Element.BackReferences

/-! A batch is compiled as its parts are, one after another, as long as no arrow leads from one part
to another. Descriptors of unsupported types make no difference. -/
namespace Easel

variable {e f : Element} {es fs : List Element} {id : Text} {k : Nat}

/-- No arrow of either part has an end at an element of the other. -/
def Apart (es fs : List Element) : Prop :=
  ∀ e ∈ es, ∀ f ∈ fs, ¬ e.EndsAt f.id ∧ ¬ f.EndsAt e.id

instance (e : Element) (id : Text) : Decidable (e.EndsAt id) :=
  decidable_of_iff (∃ t ∈ e.attachments, t = id) (by rw [exists_eq_right, mem_attachments_iff])

instance (es fs : List Element) : Decidable (Apart es fs) :=
  inferInstanceAs (Decidable (∀ e ∈ es, ∀ f ∈ fs, ¬ e.EndsAt f.id ∧ ¬ f.EndsAt e.id))

/-- An id is looked up in the later part first. -/
theorem lastWithId?_append (id : Text) (es fs : List Element) :
    lastWithId? id (es ++ fs) =
      ((lastWithId? id fs).map (es.length + ·)).or (lastWithId? id es) := by
  induction es with
  | nil =>
    simp only [List.nil_append, List.length_nil, Nat.zero_add, Option.map_id', lastWithId?]
    rw [Option.or_none]
  | cons e es ih =>
    rw [List.cons_append, lastWithId?, lastWithId?, ih, List.length_cons]
    cases lastWithId? id fs with
    | none => rfl
    | some k =>
      simp only [Option.map_some, Option.some_or, Option.some.injEq]
      omega

/-- An arrow of the first part finds its ends there. -/
theorem lastWithId?_of_apart_left (h : Apart es fs) (he : e ∈ es) (hend : e.EndsAt id) :
    lastWithId? id (es ++ fs) = lastWithId? id es := by
  have hnone : lastWithId? id fs = none := by
    rw [lastWithId?_eq_none_iff]
    rintro f hf rfl
    exact (h e he f hf).1 hend
  rw [lastWithId?_append, hnone, Option.map_none, Option.none_or]

/-- An arrow of the second part finds its ends there. -/
theorem lastWithId?_of_apart_right (h : Apart es fs) (hf : f ∈ fs) (hend : f.EndsAt id) :
    lastWithId? id (es ++ fs) = (lastWithId? id fs).map (es.length + ·) := by
  have hnone : lastWithId? id es = none := by
    rw [lastWithId?_eq_none_iff]
    rintro e he rfl
    exact (h e he f hf).2 hend
  rw [lastWithId?_append, hnone, Option.or_none]

theorem any_attachments_congr {p q : Text → Bool} (h : ∀ t, e.EndsAt t → p t = q t) :
    e.attachments.any p = e.attachments.any q := by
  rw [Bool.eq_iff_iff, List.any_eq_true, List.any_eq_true]
  apply exists_congr
  intro t
  apply and_congr_right
  intro ht
  rw [h t (mem_attachments_iff.mp ht)]

/-- No arrow of the later part ends at an element of the earlier one. -/
theorem arrowsAt_append_left (h : Apart es fs) (hk : k < es.length) :
    arrowsAt (es ++ fs) k = arrowsAt es k := by
  have hfirst : ∀ a ∈ es.zipIdx,
      (a.1.attachments.any fun t => decide (lastWithId? t (es ++ fs) = some k ∧ k ≠ a.2)) =
        a.1.attachments.any fun t => decide (lastWithId? t es = some k ∧ k ≠ a.2) := by
    intro a ha
    apply any_attachments_congr
    intro t ht
    rw [lastWithId?_of_apart_left h (List.fst_mem_of_mem_zipIdx ha) ht]
  have hsecond : ∀ a ∈ fs.zipIdx es.length,
      ¬ (a.1.attachments.any fun t =>
        decide (lastWithId? t (es ++ fs) = some k ∧ k ≠ a.2)) = true := by
    intro a ha hany
    obtain ⟨t, ht, hlast⟩ := List.any_eq_true.mp hany
    rw [decide_eq_true_eq,
      lastWithId?_of_apart_right h (List.fst_mem_of_mem_zipIdx ha) (mem_attachments_iff.mp ht),
      Option.map_eq_some_iff] at hlast
    obtain ⟨⟨j, -, hj⟩, -⟩ := hlast
    omega
  unfold arrowsAt
  rw [List.zipIdx_append, List.filter_append, List.filter_congr hfirst, Nat.zero_add,
    List.filter_eq_nil_iff.mpr hsecond, List.append_nil]

theorem arrowsAt_append_right (h : Apart es fs) (k : Nat) :
    arrowsAt (es ++ fs) (es.length + k) = arrowsAt fs k := by
  have hfirst : ∀ a ∈ es.zipIdx,
      ¬ (a.1.attachments.any fun t =>
        decide (lastWithId? t (es ++ fs) = some (es.length + k) ∧ es.length + k ≠ a.2)) = true := by
    intro a ha hany
    obtain ⟨t, ht, hlast⟩ := List.any_eq_true.mp hany
    rw [decide_eq_true_eq,
      lastWithId?_of_apart_left h (List.fst_mem_of_mem_zipIdx ha) (mem_attachments_iff.mp ht)]
      at hlast
    obtain ⟨e, he, -⟩ := getElem?_of_lastWithId? hlast.1
    have hlt := (List.getElem?_eq_some_iff.mp he).1
    omega
  have hsecond : ∀ a ∈ fs.zipIdx,
      (a.1.attachments.any fun t =>
        decide (lastWithId? t (es ++ fs) = some (es.length + k) ∧
          es.length + k ≠ es.length + a.2)) =
        a.1.attachments.any fun t => decide (lastWithId? t fs = some k ∧ k ≠ a.2) := by
    intro a ha
    apply any_attachments_congr
    intro t ht
    rw [lastWithId?_of_apart_right h (List.fst_mem_of_mem_zipIdx ha) ht]
    simp
  unfold arrowsAt
  rw [List.zipIdx_append, List.filter_append, List.filter_eq_nil_iff.mpr hfirst, List.nil_append,
    Nat.zero_add, List.zipIdx_eq_map_add, List.filter_map, List.map_map]
  exact congrArg _ (List.filter_congr hsecond)

/-- Arrows are registered in each part on its own. -/
theorem registerArrows_append (h : Apart es fs) :
    registerArrows (es ++ fs) = registerArrows es ++ registerArrows fs := by
  apply List.ext_getElem?
  intro k
  rw [getElem?_registerArrows]
  by_cases hk : k < es.length
  · rw [List.getElem?_append_left hk,
      List.getElem?_append_left (by rwa [length_registerArrows]), getElem?_registerArrows,
      arrowsAt_append_left h hk]
  · obtain ⟨j, rfl⟩ : ∃ j, k = es.length + j := ⟨k - es.length, by omega⟩
    have hlater : (registerArrows es ++ registerArrows fs)[es.length + j]? =
        (registerArrows fs)[j]? := by
      rw [← length_registerArrows es, List.getElem?_append_right (by omega),
        Nat.add_sub_cancel_left]
    rw [hlater, List.getElem?_append_right (by omega), Nat.add_sub_cancel_left,
      getElem?_registerArrows, arrowsAt_append_right h]

/-- What is registered leaves the parts as far apart as they are. -/
theorem apart_of_registerArrows (h : Apart (registerArrows es) (registerArrows fs)) :
    Apart es fs := by
  have hmem : ∀ {es : List Element} {e : Element}, e ∈ es →
      ∃ arrows, { e with dependents := arrows } ∈ registerArrows es := by
    intro es e he
    obtain ⟨k, hk⟩ := List.mem_iff_getElem?.mp he
    have hget := getElem?_registerArrows es k
    rw [hk] at hget
    exact ⟨_, List.mem_of_getElem? hget⟩
  intro e he f hf
  obtain ⟨_, he'⟩ := hmem he
  obtain ⟨_, hf'⟩ := hmem hf
  have hfar := h _ he' _ hf'
  exact hfar

/-- The shapes of both parts, the later ones with the ids that are left after the first. -/
theorem compileShapes_append {first second : List Shape} {ids : IdSupply}
    (h : Apart (compileShapes first ids).1 (compileShapes second (compileShapes first ids).2).1) :
    compileShapes (first ++ second) ids =
      ((compileShapes first ids).1 ++ (compileShapes second (compileShapes first ids).2).1,
       (compileShapes second (compileShapes first ids).2).2) := by
  have hapart : Apart (elementsOf first ids).1 (elementsOf second (elementsOf first ids).2).1 :=
    apart_of_registerArrows h
  unfold compileShapes
  rw [elementsOf_append]
  simp only [registerArrows_append hapart]

/-- Two batches that differ in descriptors of unsupported types only. -/
inductive SameSupported : List Json → List Json → Prop
  | nil : SameSupported [] []
  | cons {xs ys : List Json} (raw : Json) (hmore : SameSupported xs ys) :
      SameSupported (raw :: xs) (raw :: ys)
  | skip_left {raw : Json} {xs ys : List Json} (hraw : IsUnsupported raw)
      (hmore : SameSupported xs ys) : SameSupported (raw :: xs) ys
  | skip_right {raw : Json} {xs ys : List Json} (hraw : IsUnsupported raw)
      (hmore : SameSupported xs ys) : SameSupported xs (raw :: ys)

theorem sameSupported_refl (xs : List Json) : SameSupported xs xs := by
  induction xs with
  | nil => exact .nil
  | cons raw xs ih => exact .cons raw ih

/-- One of them may be put in anywhere. -/
theorem sameSupported_insert {raw : Json} (hraw : IsUnsupported raw) (xs ys : List Json) :
    SameSupported (xs ++ ys) (xs ++ raw :: ys) := by
  induction xs with
  | nil => exact .skip_right hraw (sameSupported_refl ys)
  | cons first xs ih => exact .cons first ih

/-- Descriptors that are skipped describe nothing. -/
theorem described_of_sameSupported {xs ys : List Json} (h : SameSupported xs ys) :
    described xs = described ys := by
  unfold described
  induction h with
  | nil => rfl
  | cons raw _ ih => rw [List.filterMap_cons, List.filterMap_cons, ih]
  | skip_left hraw _ ih => rw [List.filterMap_cons_none (describedKind?_eq_none_iff.mpr hraw), ih]
  | skip_right hraw _ ih => rw [List.filterMap_cons_none (describedKind?_eq_none_iff.mpr hraw), ih]

/-- What a batch becomes depends on its descriptors of supported types only. -/
theorem compileDescriptors_eq_ok_iff {raws : List Json} {ids : IdSupply}
    {r : List Element × IdSupply} :
    compileDescriptors raws ids = .ok r ↔
      ∃ shapes, List.Forall₂ (fun d s => Shape.ofFields d.1 d.2 = .accepted s) (described raws)
        shapes ∧ compileShapes shapes ids = r := by
  rw [compileDescriptors, except_map_eq_ok]
  simp only [Shape.ofDescriptors_eq_ok_iff, described]

/-- A labelled rectangle with an id that is used before, and an arrow that ends at its label. -/
def laterBatch : List Json :=
  [.record [("type", .ofString "rectangle"), ("id", .ofString "gen-1"), ("label", .ofString "End")],
   .record [("type", .ofString "arrow"), ("start_binding", .ofString "gen-2"),
     ("endBinding", .ofString "y")]]

def star : Json := .record [("type", .ofString "star"), ("id", .ofString "a")]

theorem isUnsupported_star : IsUnsupported star := by
  rw [← describedKind?_eq_none_iff]
  decide +kernel

end Easel
