import Mathlib.Data.List.Nodup
import Easel.Element.Batch

/-! How the elements of a batch come to refer back to its arrows. -/
namespace Easel

/-- An element does not take the same dependent twice. -/
theorem depend_of_mem {e : Element} {d : Dependent} (h : d ∈ e.dependents) : e.depend d = e :=
  if_pos h

theorem depend_of_not_mem {e : Element} {d : Dependent} (h : d ∉ e.dependents) :
    e.depend d = { e with dependents := e.dependents ++ [d] } :=
  if_neg h

theorem mem_dependents_depend (e : Element) (d : Dependent) : d ∈ (e.depend d).dependents := by
  by_cases h : d ∈ e.dependents
  · rwa [depend_of_mem h]
  · rw [depend_of_not_mem h]
    exact List.mem_append_right _ List.mem_cons_self

/-- What is added is added once, in order, behind what was there. -/
theorem foldl_depend (e : Element) (ds : List Dependent) :
    ds.foldl Element.depend e =
      { e with dependents := e.dependents ++ (ds.filter (· ∉ e.dependents)).eraseDups } := by
  induction ds generalizing e with
  | nil => simp
  | cons d ds ih =>
    rw [List.foldl_cons, ih]
    by_cases h : d ∈ e.dependents
    · rw [depend_of_mem h, List.filter_cons_of_neg (by simpa using h)]
    · have hlater : ds.filter (· ∉ (e.depend d).dependents) =
          (ds.filter (· ∉ e.dependents)).filter fun c => !c == d := by
        rw [depend_of_not_mem h, List.filter_filter]
        apply List.filter_congr
        intro c _
        simp only [List.mem_append, List.mem_singleton, not_or]
        by_cases hc : c = d <;> simp [hc, h]
      rw [List.filter_cons_of_pos (by simpa using h), List.eraseDups_cons, hlater,
        depend_of_not_mem h, List.append_assoc]
      rfl

theorem foldl_depend_const {α : Type} (e : Element) (d : Dependent) (xs : List α) :
    (xs.map fun _ => d).foldl Element.depend e = if xs = [] then e else e.depend d := by
  induction xs generalizing e with
  | nil => rfl
  | cons x xs ih =>
    rw [List.map_cons, List.foldl_cons, ih, depend_of_mem (mem_dependents_depend e d), ite_self,
      if_neg (List.cons_ne_nil x xs)]

/-- An arrow with several ends at an element is added as one with a single end there. -/
theorem foldl_depend_flatMap {α : Type} (e : Element) (xs : List α) (ends : α → List Text)
    (p : α → Text → Bool) (d : α → Dependent) :
    (xs.flatMap fun x => ((ends x).filter (p x)).map fun _ => d x).foldl Element.depend e =
      ((xs.filter fun x => (ends x).any (p x)).map d).foldl Element.depend e := by
  induction xs generalizing e with
  | nil => rfl
  | cons x xs ih =>
    rw [List.flatMap_cons, List.foldl_append, foldl_depend_const, ih]
    by_cases h : (ends x).any (p x)
    · have hne : (ends x).filter (p x) ≠ [] := by
        rw [Ne, List.filter_eq_nil_iff]
        simpa using h
      rw [if_neg hne, List.filter_cons, if_pos h, List.map_cons, List.foldl_cons]
    · have hnil : (ends x).filter (p x) = [] := by
        rw [List.filter_eq_nil_iff]
        simpa using h
      rw [if_pos hnil, List.filter_cons, if_neg h]

theorem getElem?_of_lastWithId? {es : List Element} {id : Text} {k : Nat}
    (h : lastWithId? id es = some k) : ∃ e, es[k]? = some e ∧ e.id = id := by
  induction es generalizing k with
  | nil => cases h
  | cons e es ih =>
    unfold lastWithId? at h
    cases hlast : lastWithId? id es with
    | some j =>
      rw [hlast] at h
      obtain rfl := Option.some.inj h
      exact ih hlast
    | none =>
      rw [hlast] at h
      by_cases he : e.id = id
      · obtain rfl : 0 = k := by simpa [he] using h
        exact ⟨e, rfl, he⟩
      · simp [he] at h

/-- The id of an element is found. -/
theorem exists_lastWithId? {es : List Element} {e : Element} (h : e ∈ es) :
    ∃ k, lastWithId? e.id es = some k := by
  induction es with
  | nil => cases h
  | cons f es ih =>
    unfold lastWithId?
    cases hlast : lastWithId? e.id es with
    | some j => exact ⟨j + 1, rfl⟩
    | none =>
      rcases List.mem_cons.mp h with rfl | h
      · exact ⟨0, if_pos rfl⟩
      · obtain ⟨k, hk⟩ := ih h
        rw [hk] at hlast
        cases hlast

/-- If ids are distinct, an element stands in one place. -/
theorem place_of_id {es : List Element} (h : (es.map (·.id)).Nodup) {e f : Element} {j k : Nat}
    (hj : es[j]? = some e) (hk : es[k]? = some f) : j = k ↔ e.id = f.id := by
  constructor
  · rintro rfl
    rw [Option.some.inj (hj.symm.trans hk)]
  · intro hid
    have hlt : j < (es.map (·.id)).length := by
      rw [List.length_map]
      exact (List.getElem?_eq_some_iff.mp hj).1
    apply (List.getElem?_inj hlt h).mp
    rw [List.getElem?_map, List.getElem?_map, hj, hk, Option.map_some, Option.map_some, hid]

theorem lastWithId?_of_nodup {es : List Element} (h : (es.map (·.id)).Nodup) {e : Element} {k : Nat}
    (hk : es[k]? = some e) {id : Text} : lastWithId? id es = some k ↔ e.id = id := by
  constructor
  · intro hlast
    obtain ⟨f, hf, rfl⟩ := getElem?_of_lastWithId? hlast
    rw [Option.some.inj (hk.symm.trans hf)]
  · rintro rfl
    obtain ⟨j, hj⟩ := exists_lastWithId? (List.mem_of_getElem? hk)
    obtain ⟨f, hf, hid⟩ := getElem?_of_lastWithId? hj
    rw [hj, (place_of_id h hf hk).mpr hid]

/-- One end of an arrow changes at most the element that it is bound to. -/
theorem getElem?_referBack (places : Std.HashMap Text Nat) (es : List Element) (r : ArrowEnd)
    (k : Nat) :
    (referBack places es r)[k]? = es[k]?.map fun e =>
      if places[r.target]? = some k ∧ k ≠ r.place then e.depend ⟨true, r.arrow⟩ else e := by
  unfold referBack
  cases hplace : places[r.target]? with
  | none => simp
  | some place =>
    by_cases hself : place = r.place
    · have hnone : ¬ (some place = some k ∧ k ≠ r.place) := by
        rintro ⟨hk, hne⟩
        exact hne (Option.some.inj hk ▸ hself)
      simp only [if_pos hself, if_neg hnone, Option.map_id']
    · have hiff : (some place = some k ∧ k ≠ r.place) ↔ place = k := by
        constructor
        · rintro ⟨hk, -⟩
          exact Option.some.inj hk
        · rintro rfl
          exact ⟨rfl, hself⟩
      simp only [if_neg hself, List.getElem?_modify, hiff]
      rfl

/-- By induction on the ends: each element takes those bound to it, and no others. -/
theorem getElem?_foldl_referBack (places : Std.HashMap Text Nat) (ends : List ArrowEnd)
    (es : List Element) (k : Nat) :
    (ends.foldl (referBack places) es)[k]? = es[k]?.map fun e =>
      ((ends.filter fun r => places[r.target]? = some k ∧ k ≠ r.place).map
        fun r => (⟨true, r.arrow⟩ : Dependent)).foldl Element.depend e := by
  induction ends generalizing es with
  | nil => simp
  | cons r ends ih =>
    rw [List.foldl_cons, ih, getElem?_referBack, Option.map_map]
    congr 1
    funext e
    by_cases h : places[r.target]? = some k ∧ k ≠ r.place
    · rw [List.filter_cons_of_pos (by simpa using h)]
      simp only [Function.comp_apply, if_pos h, List.map_cons, List.foldl_cons]
    · rw [List.filter_cons_of_neg (by simpa using h)]
      simp only [Function.comp_apply, if_neg h]

/-- The other arrows with an end at the element at a place, in their order. -/
def arrowsAt (es : List Element) (k : Nat) : List Dependent :=
  (es.zipIdx.filter fun a => a.1.attachments.any fun t => lastWithId? t es = some k ∧ k ≠ a.2).map
    fun a => ⟨true, a.1.id⟩

theorem getElem?_registerArrows (es : List Element) (k : Nat) :
    (registerArrows es)[k]? = es[k]?.map fun e =>
      { e with dependents :=
          e.dependents ++ ((arrowsAt es k).filter (· ∉ e.dependents)).eraseDups } := by
  unfold registerArrows
  rw [getElem?_foldl_referBack]
  congr 1
  funext e
  rw [← foldl_depend, arrowsAt, ← foldl_depend_flatMap]
  congr 1
  simp only [arrowEnds, List.filter_flatMap, List.map_flatMap, List.filter_map, List.map_map,
    Function.comp_def, getElem?_lastPlaces]

/-- Without the table of places. -/
theorem registerArrows_eq_mapIdx (es : List Element) :
    registerArrows es = es.mapIdx fun k e =>
      { e with dependents :=
          e.dependents ++ ((arrowsAt es k).filter (· ∉ e.dependents)).eraseDups } := by
  apply List.ext_getElem?
  intro k
  rw [getElem?_registerArrows, List.getElem?_mapIdx]

/-- The other arrows with an end at an id, in their order. -/
def arrowsTo (es : List Element) (id : Text) : List Dependent :=
  (es.filter fun a => a.attachments.any fun t => t = id ∧ a.id ≠ id).map fun a => ⟨true, a.id⟩

/-- With distinct ids it does not matter which element with an id is the last. -/
theorem arrowsAt_of_nodup {es : List Element} (h : (es.map (·.id)).Nodup) {e : Element} {k : Nat}
    (hk : es[k]? = some e) : arrowsAt es k = arrowsTo es e.id := by
  have hcongr : ∀ a ∈ es.zipIdx,
      (a.1.attachments.any fun t => decide (lastWithId? t es = some k ∧ k ≠ a.2)) =
        a.1.attachments.any fun t => decide (t = e.id ∧ a.1.id ≠ e.id) := by
    intro a ha
    have hplace := place_of_id h hk (List.mem_zipIdx_iff_getElem?.mp ha)
    simp only [lastWithId?_of_nodup h hk, ne_eq, hplace, eq_comm (a := e.id)]
  have hfst : es.zipIdx.map Prod.fst = es := List.zipIdx_map_fst 0 es
  unfold arrowsAt arrowsTo
  rw [List.filter_congr hcongr]
  conv_rhs => rw [← hfst, List.filter_map, List.map_map]
  rfl

/-- Then no arrow is registered twice. -/
theorem nodup_arrowsTo {es : List Element} (h : (es.map (·.id)).Nodup) (id : Text) :
    (arrowsTo es id).Nodup := by
  apply List.Nodup.of_map Dependent.id
  rw [arrowsTo, List.map_map]
  exact (List.filter_sublist.map Element.id).nodup h

theorem isArrow_of_mem_arrowsTo {es : List Element} {id : Text} {d : Dependent}
    (h : d ∈ arrowsTo es id) : d.isArrow = true := by
  obtain ⟨a, -, rfl⟩ := List.mem_map.mp h
  rfl

theorem eraseDups_of_nodup {α : Type} [BEq α] [LawfulBEq α] {xs : List α} (h : xs.Nodup) :
    xs.eraseDups = xs := by
  induction xs with
  | nil => rfl
  | cons x xs ih =>
    obtain ⟨hx, hxs⟩ := List.nodup_cons.mp h
    have hkeep : xs.filter (fun y => !y == x) = xs := by
      rw [List.filter_eq_self]
      rintro y hy
      have hne : y ≠ x := fun he => hx (he ▸ hy)
      simpa using hne
    rw [List.eraseDups_cons, hkeep, ih hxs]

theorem nodup_eraseDups {α : Type} [BEq α] [LawfulBEq α] (xs : List α) : xs.eraseDups.Nodup := by
  cases xs with
  | nil => exact List.nodup_nil
  | cons x xs =>
    rw [List.eraseDups_cons, List.nodup_cons, List.mem_eraseDups]
    exact ⟨by simp, nodup_eraseDups _⟩
termination_by xs.length
decreasing_by exact Nat.lt_succ_of_le (List.length_filter_le _ _)

/-- An element that so far refers to labels only has none of the arrows yet. -/
theorem filter_new_of_labels {e : Element} {arrows : List Dependent}
    (hlabels : ∀ d ∈ e.dependents, d.isArrow = false) (harrows : ∀ d ∈ arrows, d.isArrow = true) :
    arrows.filter (· ∉ e.dependents) = arrows := by
  rw [List.filter_eq_self]
  intro d hd
  rw [decide_eq_true_eq]
  intro hold
  have hnot := hlabels d hold
  rw [harrows d hd] at hnot
  cases hnot

/-- Elements that so far refer to labels only get one reference for each arrow at them. -/
theorem registerArrows_of_nodup {es : List Element} (h : (es.map (·.id)).Nodup)
    (hlabels : ∀ e ∈ es, ∀ d ∈ e.dependents, d.isArrow = false) :
    registerArrows es =
      es.map fun e => { e with dependents := e.dependents ++ arrowsTo es e.id } := by
  apply List.ext_getElem?
  intro k
  rw [getElem?_registerArrows, List.getElem?_map]
  cases hk : es[k]? with
  | none => rfl
  | some e =>
    have hnew := filter_new_of_labels (hlabels e (List.mem_of_getElem? hk))
      fun d (hd : d ∈ arrowsTo es e.id) => isArrow_of_mem_arrowsTo hd
    rw [Option.map_some, Option.map_some, arrowsAt_of_nodup h hk, hnew,
      eraseDups_of_nodup (nodup_arrowsTo h e.id)]

end Easel
