import Easel.Proofs.Element.Ownership

/-! What each element of a batch refers back to: its own text, then every arrow with an end at it,
once. Registering the arrows changes nothing else. -/
namespace Easel

variable {e : Element} {es : List Element} {id : Text} {k : Nat}

/-- To what the start and the end of an arrow are attached. -/
def Element.bindings? (e : Element) : Option (Option Text × Option Text) :=
  match e.body with
  | .arrow _ ends => some (ends.startBinding, ends.endBinding)
  | _ => none

/-- An arrow of which the start or the end is attached to an id. -/
def Element.EndsAt (e : Element) (id : Text) : Prop :=
  ∃ start finish, e.bindings? = some (start, finish) ∧ (start = some id ∨ finish = some id)

/-- The id of the element that a text labels. -/
def Element.containerId? (e : Element) : Option Text :=
  match e.body with
  | .text body => body.containerId
  | _ => none

/-- The text of its own that an element has, if any, stands right after it. -/
def ownText? (e : Element) (next : Option Element) : Option Text :=
  (next.filter fun t => t.containerId? = some e.id).map (·.id)

/-- No later element has the id. -/
def IsLast (es : List Element) (id : Text) (k : Nat) : Prop :=
  ∀ j f, es[j]? = some f → k < j → f.id ≠ id

theorem mem_attachments_iff : id ∈ e.attachments ↔ e.EndsAt id := by
  unfold Element.attachments Element.EndsAt Element.bindings?
  cases e.body with
  | arrow points ends => simp [Option.mem_toList]
  | container | text | line => simp

/-- Every element refers to its own text and to nothing else. -/
def RefersToOwn (es : List Element) : Prop :=
  ∀ k e, es[k]? = some e →
    e.dependents = (ownText? e es[k + 1]?).toList.map fun t => ⟨false, t⟩

/-- Whose label a text is depends only on the element right before it. -/
theorem refersToOwn_cons :
    RefersToOwn (e :: es) ↔
      e.dependents = ((ownText? e es.head?).toList.map fun t => ⟨false, t⟩) ∧ RefersToOwn es := by
  constructor
  · intro h
    refine ⟨?_, fun k f hf => h (k + 1) f hf⟩
    have hfirst := h 0 e rfl
    rwa [List.getElem?_cons_succ, ← List.head?_eq_getElem?] at hfirst
  · rintro ⟨hfirst, hmore⟩ k f hf
    cases k with
    | zero =>
      cases hf
      rw [List.getElem?_cons_succ, ← List.head?_eq_getElem?]
      exact hfirst
    | succ k => exact hmore k f hf

theorem ownText?_some (t : Element) :
    ownText? e (some t) = if t.containerId? = some e.id then some t.id else none := by
  simp only [ownText?, Option.filter_some, decide_eq_true_eq]
  split <;> rfl

/-- An element that is followed by no label has none. -/
theorem ownText?_of_free {next : Option Element} (h : ∀ t ∈ next, t.containerId? = none) :
    ownText? e next = none := by
  cases next with
  | none => rfl
  | some t =>
    rw [ownText?_some, h t rfl]
    rfl

/-- The ends to which the arrow of a shape is attached. -/
def Shape.bindings? : Shape → Option (Option Text × Option Text)
  | arrow _ _ c => some (nonempty? c.startBinding, nonempty? c.endBinding)
  | _ => none

/-- A shape is one element, or one with a text of its own. -/
theorem elements_cases (s : Shape) (ids : IdSupply) :
    ∃ owner : Element, owner.containerId? = none ∧ owner.bindings? = s.bindings? ∧
      (((s.elements ids).1 = [owner] ∧ owner.dependents = []) ∨
        ∃ t : Element, (s.elements ids).1 = [owner, t] ∧ owner.dependents = [⟨false, t.id⟩] ∧
          t.dependents = [] ∧ t.containerId? = some owner.id ∧ t.bindings? = none) := by
  have hbody : ∀ owner : Element, owner.body = s.body →
      owner.containerId? = none ∧ owner.bindings? = s.bindings? := by
    intro owner hs
    unfold Element.containerId? Element.bindings?
    rw [hs]
    cases s <;> exact ⟨rfl, rfl⟩
  cases hl : s.label? with
  | none =>
    rw [elements_of_label_none hl]
    refine ⟨_, ?_, ?_, .inl ⟨rfl, rfl⟩⟩
    · exact (hbody _ rfl).1
    · exact (hbody _ rfl).2
  | some label =>
    obtain ⟨caption, -, helements⟩ := elements_of_label_some hl ids
    rw [helements]
    refine ⟨_, ?_, ?_, .inr ⟨_, rfl, rfl, rfl, rfl, rfl⟩⟩
    · exact (hbody _ rfl).1
    · exact (hbody _ rfl).2

/-- Blocks do not begin with a label. -/
theorem containerId?_head_elementsOf (shapes : List Shape) (ids : IdSupply) :
    ∀ t ∈ (elementsOf shapes ids).1.head?, t.containerId? = none := by
  cases shapes with
  | nil => rintro t ⟨⟩
  | cons s shapes =>
    obtain ⟨owner, hfree, -, ⟨hblock, -⟩ | ⟨text, hblock, -⟩⟩ := elements_cases s ids
    all_goals
      rw [elementsOf_cons, hblock]
      rintro t ⟨⟩
      exact hfree

/-- By induction on the shapes: a block is its owner and the label of it, if there is one. -/
theorem refersToOwn_elementsOf (shapes : List Shape) (ids : IdSupply) :
    RefersToOwn (elementsOf shapes ids).1 := by
  induction shapes generalizing ids with
  | nil => rintro k e ⟨⟩
  | cons s shapes ih =>
    have hmore := ih (s.elements ids).2
    have hnext := containerId?_head_elementsOf shapes (s.elements ids).2
    rw [elementsOf_cons]
    obtain ⟨owner, -, -, ⟨hblock, howner⟩ | ⟨t, hblock, howner, ht, hcontainer, -⟩⟩ :=
      elements_cases s ids
    · rw [hblock, List.singleton_append, refersToOwn_cons, howner, ownText?_of_free hnext]
      exact ⟨rfl, hmore⟩
    · rw [hblock, List.cons_append, List.singleton_append, refersToOwn_cons, refersToOwn_cons,
        howner, ht, ownText?_of_free hnext]
      refine ⟨?_, rfl, hmore⟩
      rw [List.head?_cons, ownText?_some, if_pos hcontainer]
      rfl

/-- Arrows come from the shapes of arrows, in their order. -/
theorem bindings?_elementsOf (shapes : List Shape) (ids : IdSupply) :
    (elementsOf shapes ids).1.filterMap Element.bindings? = shapes.filterMap Shape.bindings? := by
  induction shapes generalizing ids with
  | nil => rfl
  | cons s shapes ih =>
    rw [elementsOf_cons, List.filterMap_append, ih]
    obtain ⟨owner, -, howner, ⟨hblock, -⟩ | ⟨t, hblock, -, -, -, ht⟩⟩ := elements_cases s ids
    · rw [hblock]
      cases hs : s.bindings? <;> simp [howner, hs]
    · rw [hblock]
      cases hs : s.bindings? <;> simp [howner, ht, hs]

/-- The ends that the descriptor of an arrow names, those of other kinds have none. -/
def describedBindings? (d : ShapeKind × Fields) : Option (Option Text × Option Text) :=
  if d.1 = .arrow then
    some (d.2.eitherText? "startBinding" "start_binding",
      d.2.eitherText? "endBinding" "end_binding")
  else none

/-- An arrow is bound to the ids that its descriptor gives. -/
theorem bindings?_of_ofFields {kind : ShapeKind} {fields : Fields} {s : Shape}
    (h : Shape.ofFields kind fields = .accepted s) :
    s.bindings? = describedBindings? (kind, fields) := by
  have hkind := (Shape.describes_of_ofFields h).kind_eq
  cases kind with
  | arrow =>
    simp only [Shape.ofFields, Verdict.map_eq, Verdict.seq_eq, Verdict.ap_eq_accepted,
      Verdict.map_eq_accepted] at h
    obtain ⟨_, connector, ⟨_, caption, ⟨a, -, rfl⟩, -, rfl⟩, hconnector, rfl⟩ := h
    obtain ⟨hstart, hend⟩ := Connector.bindings_ofFields hconnector
    rw [Shape.bindings?, hstart, hend, describedBindings?, if_pos rfl]
  | container | text | line =>
    cases s <;> cases hkind
    all_goals rfl

theorem bindings?_of_ofDescriptors {index : Nat} {raws : List Json} {shapes : List Shape}
    (h : Shape.ofDescriptors index raws = .ok shapes) :
    shapes.filterMap Shape.bindings? = (described raws).filterMap describedBindings? := by
  have hshapes := Shape.ofDescriptors_eq_ok_iff.mp h
  unfold described
  generalize raws.filterMap Json.describedKind? = ds at hshapes
  clear h
  induction hshapes with
  | nil => rfl
  | cons hs _ ih => rw [List.filterMap_cons, List.filterMap_cons, bindings?_of_ofFields hs, ih]

/-- Whether an element is the last one of its id depends on those after it. -/
theorem isLast_cons_succ : IsLast (e :: es) id (k + 1) ↔ IsLast es id k := by
  constructor
  · intro h j f hf hkj
    exact h (j + 1) f hf (by omega)
  · intro h j f hf hkj
    obtain ⟨j, rfl⟩ : ∃ i, j = i + 1 := ⟨j - 1, by omega⟩
    exact h j f hf (by omega)

theorem isLast_cons_zero : IsLast (e :: es) id 0 ↔ ∀ f ∈ es, f.id ≠ id := by
  constructor
  · intro h f hf
    obtain ⟨j, hj⟩ := List.mem_iff_getElem?.mp hf
    exact h (j + 1) f hj (by omega)
  · intro h j f hf hj
    obtain ⟨j, rfl⟩ : ∃ i, j = i + 1 := ⟨j - 1, by omega⟩
    exact h f (List.mem_of_getElem? hf)

theorem lastWithId?_eq_none_iff : lastWithId? id es = none ↔ ∀ f ∈ es, f.id ≠ id := by
  constructor
  · rintro hnone f hf rfl
    obtain ⟨k, hk⟩ := exists_lastWithId? hf
    rw [hnone] at hk
    cases hk
  · intro h
    cases hlast : lastWithId? id es with
    | none => rfl
    | some k =>
      obtain ⟨f, hf, hid⟩ := getElem?_of_lastWithId? hlast
      exact (h f (List.mem_of_getElem? hf) hid).elim

/-- What is found for an id is the last element with this id. -/
theorem lastWithId?_eq_some_iff :
    lastWithId? id es = some k ↔ (∃ e, es[k]? = some e ∧ e.id = id) ∧ IsLast es id k := by
  induction es generalizing k with
  | nil =>
    constructor
    · rintro ⟨⟩
    · rintro ⟨⟨e, ⟨⟩, -⟩, -⟩
  | cons e es ih =>
    rw [lastWithId?]
    cases hlast : lastWithId? id es with
    | some i =>
      rw [Option.some.injEq]
      cases k with
      | zero =>
        obtain ⟨f, hf, hid⟩ := getElem?_of_lastWithId? hlast
        refine ⟨fun h => by omega, fun h => ?_⟩
        exact (isLast_cons_zero.mp h.2 f (List.mem_of_getElem? hf) hid).elim
      | succ k =>
        rw [isLast_cons_succ, List.getElem?_cons_succ, ← ih, hlast, Option.some.injEq]
        omega
    | none =>
      have hnone := lastWithId?_eq_none_iff.mp hlast
      cases k with
      | zero =>
        rw [isLast_cons_zero]
        simpa using fun _ => hnone
      | succ k =>
        rw [isLast_cons_succ, List.getElem?_cons_succ, ← ih, hlast]
        simp

/-- The arrows of a batch with an end at an id, but for the element at a place, in their order. -/
def arrowsEndingAt (es : List Element) (id : Text) (k : Nat) : List Dependent :=
  (es.zipIdx.filter fun a => a.2 ≠ k ∧ id ∈ a.1.attachments).map fun a => ⟨true, a.1.id⟩

/-- An element has an arrow among its dependents for each other element that ends there. -/
theorem mem_arrowsEndingAt {a : Text} :
    ⟨true, a⟩ ∈ arrowsEndingAt es id k ↔
      ∃ j f, es[j]? = some f ∧ j ≠ k ∧ f.id = a ∧ f.EndsAt id := by
  simp only [arrowsEndingAt, List.mem_map, List.mem_filter, List.mem_zipIdx_iff_getElem?,
    decide_eq_true_eq, mem_attachments_iff]
  constructor
  · rintro ⟨⟨f, j⟩, ⟨hf, hj, hend⟩, hid⟩
    cases hid
    exact ⟨j, f, hf, hj, rfl, hend⟩
  · rintro ⟨j, f, hf, hj, rfl, hend⟩
    exact ⟨(f, j), ⟨hf, hj, hend⟩, rfl⟩

/-- Of several elements with one id, the last one has all arrows. -/
theorem arrowsAt_of_isLast (hk : es[k]? = some e) (hlast : IsLast es e.id k) :
    arrowsAt es k = arrowsEndingAt es e.id k := by
  have hplace : lastWithId? e.id es = some k := lastWithId?_eq_some_iff.mpr ⟨⟨e, hk, rfl⟩, hlast⟩
  have hiff : ∀ t, lastWithId? t es = some k ↔ t = e.id := by
    intro t
    constructor
    · intro ht
      obtain ⟨f, hf, rfl⟩ := getElem?_of_lastWithId? ht
      rw [Option.some.inj (hf.symm.trans hk)]
    · rintro rfl
      exact hplace
  unfold arrowsAt arrowsEndingAt
  congr 1
  apply List.filter_congr
  intro a _
  rw [Bool.eq_iff_iff]
  simp only [hiff, List.any_eq_true, decide_eq_true_eq]
  constructor
  · rintro ⟨t, ht, rfl, hne⟩
    exact ⟨fun h => hne h.symm, ht⟩
  · rintro ⟨hne, ht⟩
    exact ⟨e.id, ht, rfl, fun h => hne h.symm⟩

/-- The others have none. -/
theorem arrowsAt_of_not_isLast (hk : es[k]? = some e) (hlast : ¬ IsLast es e.id k) :
    arrowsAt es k = [] := by
  have hnone : ∀ t, lastWithId? t es ≠ some k := by
    intro t ht
    obtain ⟨⟨f, hf, rfl⟩, hlater⟩ := lastWithId?_eq_some_iff.mp ht
    rw [Option.some.inj (hf.symm.trans hk)] at hlater
    exact hlast hlater
  simp [arrowsAt, hnone]

/-- What the element at a place refers to: its own text, then each arrow with an end at it once, in
the order in which they come first in the batch. Of the elements with one id, only the last refers
to arrows. -/
structure RefersBack (es : List Element) (k : Nat) (e : Element) : Prop where
  split : ∃ arrows : List Dependent,
    e.dependents = ((ownText? e es[k + 1]?).toList.map fun t => ⟨false, t⟩) ++ arrows ∧
    arrows.Nodup ∧ (∀ d ∈ arrows, d.isArrow = true) ∧
    (IsLast es e.id k → arrows = (arrowsEndingAt es e.id k).eraseDups)
  arrow_mem : ∀ a, ⟨true, a⟩ ∈ e.dependents ↔
    IsLast es e.id k ∧ ∃ j f, es[j]? = some f ∧ j ≠ k ∧ f.id = a ∧ f.EndsAt e.id

section Extends

variable {es' : List Element}

theorem isLast_iff_ids : IsLast es id k ↔ ∀ j, k < j → (es.map (·.id))[j]? ≠ some id := by
  simp only [IsLast, List.getElem?_map, ne_eq, Option.map_eq_some_iff, not_exists, not_and]
  exact ⟨fun h j hj f hf => h j f hf hj, fun h j f hf hj => h j hj f hf⟩

/-- Elements that get more dependents keep their ids, and so the last ones stay the last. -/
theorem isLast_of_extends (h : List.Forall₂ Element.Extends es es') :
    IsLast es' id k ↔ IsLast es id k := by
  rw [isLast_iff_ids, isLast_iff_ids, ids_of_extends h]

theorem arrowsEndingAt_of_extends (h : List.Forall₂ Element.Extends es es') :
    arrowsEndingAt es' id k = arrowsEndingAt es id k := by
  unfold arrowsEndingAt
  generalize 0 = n
  induction h generalizing n with
  | nil => rfl
  | @cons e e' es es' he _ ih =>
    obtain ⟨arrows, -, rfl⟩ := he
    have hfirst : Element.attachments { e with dependents := e.dependents ++ arrows } =
        e.attachments := rfl
    simp only [List.zipIdx_cons, List.filter_cons, hfirst]
    split
    · rw [List.map_cons, List.map_cons, ih]
    · exact ih (n + 1)

/-- Nor do their ends change. -/
theorem bindings?_of_extends (h : List.Forall₂ Element.Extends es es') :
    es'.filterMap Element.bindings? = es.filterMap Element.bindings? := by
  induction h with
  | nil => rfl
  | cons he _ ih =>
    obtain ⟨arrows, -, rfl⟩ := he
    rw [List.filterMap_cons, List.filterMap_cons, ih]
    rfl

end Extends

theorem ownText?_registerArrows (k : Nat) (added : List Dependent) :
    ownText? { e with dependents := added } (registerArrows es)[k]? = ownText? e es[k]? := by
  rw [getElem?_registerArrows]
  cases es[k]? with
  | none => rfl
  | some t =>
    rw [Option.map_some, ownText?_some, ownText?_some]
    rfl

/-- Registering arrows adds them behind the own text of each element. -/
theorem refersBack_registerArrows (hown : RefersToOwn es) (hk : (registerArrows es)[k]? = some e) :
    RefersBack (registerArrows es) k e := by
  have hextends := extends_registerArrows es
  rw [getElem?_registerArrows] at hk
  obtain ⟨e, he, rfl⟩ := Option.map_eq_some_iff.mp hk
  have hlabels : ∀ d ∈ e.dependents, d.isArrow = false := by
    intro d hd
    rw [hown k e he] at hd
    obtain ⟨t, -, rfl⟩ := List.mem_map.mp hd
    rfl
  have hnew :=
    filter_new_of_labels hlabels fun d (hd : d ∈ arrowsAt es k) => isArrow_of_mem_arrowsAt hd
  have hat : ∀ a, ⟨true, a⟩ ∈ arrowsAt es k ↔
      IsLast es e.id k ∧ ⟨true, a⟩ ∈ arrowsEndingAt es e.id k := by
    intro a
    by_cases hlast : IsLast es e.id k
    · rw [arrowsAt_of_isLast he hlast]
      exact ⟨fun h => ⟨hlast, h⟩, fun h => h.2⟩
    · rw [arrowsAt_of_not_isLast he hlast]
      exact ⟨fun h => (List.not_mem_nil h).elim, fun h => (hlast h.1).elim⟩
  rw [hnew]
  constructor
  · refine ⟨(arrowsAt es k).eraseDups, ?_, nodup_eraseDups _, ?_, ?_⟩
    · rw [ownText?_registerArrows, ← hown k e he]
    · intro d hd
      exact isArrow_of_mem_arrowsAt (List.mem_eraseDups.mp hd)
    · intro hlast
      have hlast' := (isLast_of_extends hextends).mp hlast
      rw [arrowsEndingAt_of_extends hextends, arrowsAt_of_isLast he hlast']
  · intro a
    have hold : (⟨true, a⟩ : Dependent) ∉ e.dependents := fun h => nomatch hlabels _ h
    rw [← mem_arrowsEndingAt, isLast_of_extends hextends, arrowsEndingAt_of_extends hextends,
      ← hat, List.mem_append, List.mem_eraseDups]
    exact ⟨fun h => h.resolve_left hold, .inr⟩

/-- Each element of an accepted batch refers back as it should. The ends of arrows are attached to
what their descriptors name, and nothing but references to arrows is added to what the shapes are
built as. -/
theorem compileDescriptors_refersBack {raws : List Json} {ids rest : IdSupply}
    (h : compileDescriptors raws ids = .ok (es, rest)) :
    (∀ k e, es[k]? = some e → RefersBack es k e) ∧
    es.filterMap Element.bindings? = (described raws).filterMap describedBindings? ∧
    ∃ shapes, Shape.ofDescriptors 0 raws = .ok shapes ∧
      List.Forall₂ Element.Extends (elementsOf shapes ids).1 es := by
  obtain ⟨shapes, hshapes, heq⟩ := compileDescriptors_eq_ok h
  obtain ⟨rfl, -⟩ := Prod.mk.inj heq
  have hextends := extends_registerArrows (elementsOf shapes ids).1
  refine ⟨fun k e hk => refersBack_registerArrows (refersToOwn_elementsOf shapes ids) hk, ?_,
    shapes, hshapes, hextends⟩
  rw [bindings?_of_extends hextends, bindings?_elementsOf, bindings?_of_ofDescriptors hshapes]

/-- Two rectangles with one id, an arrow with both ends there, an arrow from another one to itself,
and an arrow with an id that is used before and an end at nothing. -/
def repeatedBatch : List Json :=
  [.record [("type", .ofString "rectangle"), ("id", .ofString "a"), ("label", .ofString "Go")],
   .record [("type", .ofString "rectangle"), ("id", .ofString "a")],
   .record [("type", .ofString "arrow"), ("id", .ofString "b"), ("startBinding", .ofString "a"),
     ("end_binding", .ofString "a")],
   .record [("type", .ofString "arrow"), ("id", .ofString "c"), ("startBinding", .ofString "b"),
     ("endBinding", .ofString "c")],
   .record [("type", .ofString "arrow"), ("id", .ofString "b"), ("startBinding", .ofString "z")]]

theorem compileDescriptors_refersBack_repeated :
    ∃ es rest, compileDescriptors repeatedBatch .numbered = .ok (es, rest) ∧
      (∀ k e, es[k]? = some e → RefersBack es k e) ∧
      es.map Element.dependents =
        [[⟨false, .ofString "gen-1"⟩], [], [⟨true, .ofString "b"⟩], [], [],
          [⟨true, .ofString "c"⟩]] ∧
      es.filterMap Element.bindings? =
        [(some (.ofString "a"), some (.ofString "a")),
          (some (.ofString "b"), some (.ofString "c")), (some (.ofString "z"), none)] := by
  have hcompiled : ∃ r ∈ (compileDescriptors repeatedBatch .numbered).toOption,
      r.1.map Element.dependents =
        [[⟨false, .ofString "gen-1"⟩], [], [⟨true, .ofString "b"⟩], [], [],
          [⟨true, .ofString "c"⟩]] := by
    simp only [compileDescriptors, compileShapes, registerArrows_eq_mapIdx]
    decide +kernel
  obtain ⟨r, hr, hdependents⟩ := hcompiled
  replace hr := eq_ok_of_mem_toOption hr
  obtain ⟨hrefers, hbindings, -⟩ := compileDescriptors_refersBack hr
  refine ⟨r.1, r.2, hr, hrefers, hdependents, ?_⟩
  rw [hbindings]
  decide +kernel

end Easel
