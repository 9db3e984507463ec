import Easel.Proofs.Element.References
import Easel.Proofs.Shape.Reading

/-! Who owns what in a compiled batch: each descriptor becomes one element, and its label one text
that belongs to this element. -/
namespace Easel

/-- Nothing but references to arrows has been added to an element. -/
def Element.Extends (e e' : Element) : Prop :=
  ∃ arrows : List Dependent, (∀ d ∈ arrows, d.isArrow = true) ∧
    e' = { e with dependents := e.dependents ++ arrows }

/-- Only arrows are registered. -/
theorem isArrow_of_mem_arrowsAt {es : List Element} {k : Nat} {d : Dependent}
    (h : d ∈ arrowsAt es k) : d.isArrow = true := by
  obtain ⟨a, -, rfl⟩ := List.mem_map.mp h
  rfl

theorem length_registerArrows (es : List Element) : (registerArrows es).length = es.length := by
  apply Nat.le_antisymm
  · apply List.getElem?_eq_none_iff.mp
    rw [getElem?_registerArrows, List.getElem?_eq_none le_rfl, Option.map_none]
  · apply List.getElem?_eq_none_iff.mp
    have hnone : (registerArrows es)[(registerArrows es).length]? = none :=
      List.getElem?_eq_none le_rfl
    rw [getElem?_registerArrows] at hnone
    exact Option.map_eq_none_iff.mp hnone

/-- Registering arrows changes nothing but what depends on the elements. -/
theorem extends_registerArrows (es : List Element) :
    List.Forall₂ Element.Extends es (registerArrows es) := by
  rw [List.forall₂_iff_get]
  refine ⟨(length_registerArrows es).symm, fun k hk hk' => ?_⟩
  have hget := getElem?_registerArrows es k
  rw [List.getElem?_eq_getElem hk, List.getElem?_eq_getElem hk', Option.map_some] at hget
  refine ⟨((arrowsAt es k).filter (· ∉ es[k].dependents)).eraseDups, fun d hd => ?_,
    Option.some.inj hget⟩
  rw [List.mem_eraseDups] at hd
  exact isArrow_of_mem_arrowsAt (List.mem_filter.mp hd).1

theorem ids_of_extends {es es' : List Element} (h : List.Forall₂ Element.Extends es es') :
    es'.map (·.id) = es.map (·.id) := by
  induction h with
  | nil => rfl
  | cons he _ ih =>
    obtain ⟨arrows, -, rfl⟩ := he
    rw [List.map_cons, List.map_cons, ih]

/-- What holds of the elements of each shape and is not lost when arrows are registered holds of all
elements of a batch. -/
theorem forall_mem_compileShapes {P : Element → Prop}
    (hextends : ∀ e e' : Element, e.Extends e' → P e → P e') {shapes : List Shape}
    (h : ∀ s ∈ shapes, ∀ ids : IdSupply, ∀ e ∈ (s.elements ids).1, P e) (ids : IdSupply) :
    ∀ e ∈ (compileShapes shapes ids).1, P e := by
  have hbuilt : ∀ e ∈ (elementsOf shapes ids).1, P e := by
    induction shapes generalizing ids with
    | nil => simp [elementsOf]
    | cons s shapes ih =>
      obtain ⟨hs, hshapes⟩ := List.forall_mem_cons.mp h
      rw [elementsOf_cons, List.forall_mem_append]
      exact ⟨hs ids, ih hshapes _⟩
  have hregister := extends_registerArrows (elementsOf shapes ids).1
  intro e he
  obtain ⟨k, hk, rfl⟩ := List.getElem_of_mem he
  have hlen : k < (elementsOf shapes ids).1.length := hregister.length_eq ▸ hk
  exact hextends _ _ (hregister.get hlen hk) (hbuilt _ (List.getElem_mem hlen))

/-- A text that shows the label of an owner. -/
structure IsLabelOf (owner : Element) (label : Text) (e : Element) : Prop where
  text : ∃ body, e.body = .text body ∧ body.text = label ∧ body.containerId = some owner.id
  groups : e.groups = owner.groups

/-- What a descriptor of a supported kind becomes: its owner, and the text of its label if it has
one. The owner refers to this text first, and to no other text. -/
structure IsBlock (ids : IdSupply) (kind : ShapeKind) (fields : Fields) (owner : Element)
    (texts : List Element) : Prop where
  kind_eq : owner.kind = kind
  given : ∀ id, fields.text? "id" = some id → owner.id = id
  issued : fields.text? "id" = none → ∃ n, owner.id = ids.name n
  labels : List.Forall₂ (IsLabelOf owner)
    (if kind.hasLabel then (fields.text? "label").toList else []) texts
  refers : ∃ arrows : List Dependent, (∀ d ∈ arrows, d.isArrow = true) ∧
    owner.dependents = (texts.map fun t => ⟨false, t.id⟩) ++ arrows
  free : kind = .text → ∃ body, owner.body = .text body ∧ body.containerId = none

theorem kind_owner (s : Shape) (id : Text) : (s.owner id).kind = s.kind := by
  cases s <;> rfl

/-- A free-standing text is in no container. -/
theorem body_owner_of_text {s : Shape} (h : s.kind = .text) (id : Text) :
    ∃ body, (s.owner id).body = .text body ∧ body.containerId = none := by
  cases s with
  | text a content => exact ⟨_, rfl, rfl⟩
  | container | arrow | line => cases h

/-- An element has the id that its descriptor gives, or one of the supply. -/
theorem id_choose {s : Shape} {kind : ShapeKind} {fields : Fields} (hs : s.Describes kind fields)
    (ids : IdSupply) :
    (∀ id, fields.text? "id" = some id → (ids.choose s.attributes.id).1 = id) ∧
      (fields.text? "id" = none → ∃ n, (ids.choose s.attributes.id).1 = ids.name n) := by
  rw [← hs.given_eq]
  refine ⟨fun id hid => ?_, fun hid => ?_⟩
  · rw [IdSupply.choose_of_some hid]
  · rw [IdSupply.choose_of_none hid]
    exact ⟨ids.issued, rfl⟩

/-- The elements of a shape are a block, whatever arrows are registered at them. -/
theorem isBlock_of_extends {s : Shape} {kind : ShapeKind} {fields : Fields}
    (hs : s.Describes kind fields) {ids : IdSupply} {es : List Element}
    (h : List.Forall₂ Element.Extends (s.elements ids).1 es) :
    ∃ owner texts, es = owner :: texts ∧ IsBlock ids kind fields owner texts := by
  obtain ⟨hgiven, hissued⟩ := id_choose hs ids
  have hkind := (kind_owner s (ids.choose s.attributes.id).1).trans hs.kind_eq
  have hfree : kind = .text → ∃ body, (s.owner (ids.choose s.attributes.id).1).body = .text body ∧
      body.containerId = none := fun htext => body_owner_of_text (hs.kind_eq.trans htext) _
  have hlabels :
      (if kind.hasLabel then (fields.text? "label").toList else []) = s.label?.toList := by
    rw [hs.label_eq]
    split <;> rfl
  cases hl : s.label? with
  | none =>
    rw [elements_of_label_none hl] at h
    obtain ⟨_, rest, ⟨arrows, harrows, rfl⟩, hrest, rfl⟩ := List.forall₂_cons_left_iff.mp h
    obtain rfl := List.forall₂_nil_left_iff.mp hrest
    refine ⟨_, [], rfl, hkind, hgiven, hissued, ?_, ⟨arrows, harrows, rfl⟩, hfree⟩
    rw [hlabels, hl]
    exact .nil
  | some label =>
    obtain ⟨caption, -, helements⟩ := elements_of_label_some hl ids
    rw [helements] at h
    obtain ⟨_, texts, ⟨arrows, harrows, rfl⟩, htexts, rfl⟩ := List.forall₂_cons_left_iff.mp h
    obtain ⟨_, rest, ⟨more, -, rfl⟩, hrest, rfl⟩ := List.forall₂_cons_left_iff.mp htexts
    obtain rfl := List.forall₂_nil_left_iff.mp hrest
    refine ⟨_, [_], rfl, hkind, hgiven, hissued, ?_, ⟨arrows, harrows, rfl⟩, hfree⟩
    rw [hlabels, hl]
    exact .cons ⟨⟨_, rfl, rfl, rfl⟩, rfl⟩ .nil

theorem forall₂_append_right {α β : Type} {R : α → β → Prop} {xs ys : List α} {zs : List β}
    (h : List.Forall₂ R (xs ++ ys) zs) :
    ∃ us vs, zs = us ++ vs ∧ List.Forall₂ R xs us ∧ List.Forall₂ R ys vs := by
  induction xs generalizing zs with
  | nil => exact ⟨[], zs, rfl, .nil, h⟩
  | cons x xs ih =>
    obtain ⟨z, rest, hz, hrest, rfl⟩ := List.forall₂_cons_left_iff.mp h
    obtain ⟨us, vs, rfl, hus, hvs⟩ := ih hrest
    exact ⟨z :: us, vs, rfl, .cons hz hus, hvs⟩

/-- A supply goes on with the same names. -/
theorem name_elements (s : Shape) (ids : IdSupply) : (s.elements ids).2.name = ids.name := by
  obtain ⟨k, hk, -⟩ := ids_elements s ids
  rw [hk]
  rfl

/-- What a block is does not depend on how many ids have been taken. -/
theorem IsBlock.of_name {ids later : IdSupply} (hname : later.name = ids.name) {kind : ShapeKind}
    {fields : Fields} {owner : Element} {texts : List Element}
    (h : IsBlock later kind fields owner texts) : IsBlock ids kind fields owner texts :=
  ⟨h.kind_eq, h.given, hname ▸ h.issued, h.labels, h.refers, h.free⟩

/-- The descriptors of supported kinds in a batch, each with its kind. -/
def described (raws : List Json) : List (ShapeKind × Fields) := raws.filterMap Json.describedKind?

/-- The ids that the descriptors of a batch ask for. -/
def explicitIds (raws : List Json) : List Text := (described raws).filterMap (·.2.text? "id")

/-- Elements that are one block for each descriptor, in this order. -/
def AreBlocks (ids : IdSupply) (ds : List (ShapeKind × Fields)) (es : List Element) : Prop :=
  ∃ blocks : List (Element × List Element), es = (blocks.flatMap fun b => b.1 :: b.2) ∧
    List.Forall₂ (fun d b => IsBlock ids d.1 d.2 b.1 b.2) ds blocks

/-- By induction on the shapes: each of them becomes the block of its descriptor. -/
theorem areBlocks_of_extends {ds : List (ShapeKind × Fields)} {shapes : List Shape}
    (hshapes : List.Forall₂ (fun d s => Shape.Describes s d.1 d.2) ds shapes) {ids : IdSupply}
    {es : List Element} (h : List.Forall₂ Element.Extends (elementsOf shapes ids).1 es) :
    AreBlocks ids ds es := by
  induction hshapes generalizing ids es with
  | nil =>
    obtain rfl := List.forall₂_nil_left_iff.mp h
    exact ⟨[], rfl, .nil⟩
  | @cons d s ds shapes hs _ ih =>
    rw [elementsOf_cons] at h
    obtain ⟨block, rest, rfl, hblock, hrest⟩ := forall₂_append_right h
    obtain ⟨owner, texts, rfl, hisBlock⟩ := isBlock_of_extends hs hblock
    obtain ⟨blocks, rfl, hblocks⟩ := ih hrest
    refine ⟨(owner, texts) :: blocks, rfl, .cons hisBlock ?_⟩
    exact hblocks.imp fun _ _ hb => hb.of_name (name_elements s ids)

/-- The ids that shapes give are those of their descriptors. -/
theorem given_of_describes {ds : List (ShapeKind × Fields)} {shapes : List Shape}
    (h : List.Forall₂ (fun d s => Shape.Describes s d.1 d.2) ds shapes) :
    shapes.filterMap Shape.given? = ds.filterMap (·.2.text? "id") := by
  induction h with
  | nil => rfl
  | @cons d s ds shapes hs _ ih =>
    rw [List.filterMap_cons, List.filterMap_cons, hs.given_eq, ih]

theorem ne_of_mem_explicitIds {raws : List Json} {id : Text} (h : id ∈ explicitIds raws) :
    id ≠ [] := by
  obtain ⟨d, -, hid⟩ := List.mem_filterMap.mp h
  unfold Fields.text? at hid
  split at hid
  · split at hid
    · cases hid
    · cases hid
      assumption
  · cases hid

/-- A batch is read as a whole before any of it is compiled. -/
theorem compileDescriptors_eq_ok {raws : List Json} {ids : IdSupply} {r : List Element × IdSupply}
    (h : compileDescriptors raws ids = .ok r) :
    ∃ shapes, Shape.ofDescriptors 0 raws = .ok shapes ∧ r = compileShapes shapes ids := by
  obtain ⟨shapes, hshapes, rfl⟩ := except_map_eq_ok.mp h
  exact ⟨shapes, hshapes, rfl⟩

/-- The elements of a batch are one block for each descriptor of a supported kind, in their order.
No id is empty, and if the descriptors ask for different ids no id is used twice. -/
theorem compileDescriptors_blocks {raws : List Json} {ids rest : IdSupply} {es : List Element}
    (hfresh : ids.Fresh (explicitIds raws)) (hne : ∀ n, ids.name n ≠ [])
    (h : compileDescriptors raws ids = .ok (es, rest)) :
    AreBlocks ids (described raws) es ∧ (∀ e ∈ es, e.id ≠ []) ∧
      ((explicitIds raws).Nodup → (es.map (·.id)).Nodup) := by
  obtain ⟨shapes, hshapes, heq⟩ := compileDescriptors_eq_ok h
  have hdescribes := Shape.describes_of_ofDescriptors hshapes
  have hgiven : shapes.filterMap Shape.given? = explicitIds raws := given_of_describes hdescribes
  obtain ⟨rfl, -⟩ := Prod.mk.inj heq
  have hextends := extends_registerArrows (elementsOf shapes ids).1
  have hids := ids_of_extends hextends
  refine ⟨areBlocks_of_extends hdescribes hextends, fun e he => ?_, fun hnodup => ?_⟩
  · obtain ⟨k, -, hperm⟩ := ids_elementsOf shapes ids
    have hmem : e.id ∈ shapes.filterMap Shape.given? ++ ids.upcoming k := by
      rw [← hperm.mem_iff, ← hids]
      exact List.mem_map_of_mem he
    rcases List.mem_append.mp hmem with hmem | hmem
    · exact ne_of_mem_explicitIds (hgiven ▸ hmem)
    · obtain ⟨j, -, hj⟩ := List.mem_map.mp hmem
      exact hj ▸ hne _
  · rw [hids]
    exact nodup_ids_elementsOf (hgiven ▸ hfresh) (hgiven ▸ hnodup)

/-- A labelled rectangle, a labelled arrow with both ends at it, a kind that is not supported, and
a text. -/
def mixedBatch : List Json :=
  [.record [("type", .ofString "rectangle"), ("id", .ofString "a"), ("label", .ofString "Go"),
     ("groupId", .ofString "g")],
   .record [("type", .ofString "arrow"), ("id", .ofString ""), ("label", .ofString "x"),
     ("startBinding", .ofString "a"), ("end_binding", .ofString "a")],
   .record [("type", .ofString "star"), ("id", .ofString "s")],
   .record [("type", .ofString "text"), ("id", .ofString "t"), ("label", .ofString "T")]]

theorem exists_compile_mixedBatch : ∃ r, compileDescriptors mixedBatch .numbered = .ok r := by
  have hok : (compileDescriptors mixedBatch .numbered).isOk = true := by decide +kernel
  cases h : compileDescriptors mixedBatch .numbered with
  | error e =>
    rw [h] at hok
    cases hok
  | ok r => exact ⟨r, rfl⟩

theorem compileDescriptors_blocks_mixed :
    ∃ es rest, compileDescriptors mixedBatch .numbered = .ok (es, rest) ∧
      explicitIds mixedBatch = [.ofString "a", .ofString "t"] ∧
      IdSupply.numbered.Fresh (explicitIds mixedBatch) ∧
      AreBlocks .numbered (described mixedBatch) es ∧ (∀ e ∈ es, e.id ≠ []) ∧
      (es.map (·.id)).Nodup := by
  have hexplicit : explicitIds mixedBatch = [.ofString "a", .ofString "t"] := by decide +kernel
  have hapart : ∀ n, IdSupply.numbered.name n ∉ explicitIds mixedBatch := by
    intro n hn
    have hdash := IdSupply.dash_mem_numbered n
    rw [hexplicit] at hn
    rcases List.mem_cons.mp hn with heq | hn
    · rw [heq] at hdash
      revert hdash
      decide +kernel
    · rw [List.mem_singleton.mp hn] at hdash
      revert hdash
      decide +kernel
  have hfresh : IdSupply.numbered.Fresh (explicitIds mixedBatch) :=
    ⟨IdSupply.numbered_injective, hapart⟩
  have hne : ∀ n, IdSupply.numbered.name n ≠ [] := by
    intro n hn
    have hdash := IdSupply.dash_mem_numbered n
    rw [hn] at hdash
    cases hdash
  obtain ⟨r, h⟩ := exists_compile_mixedBatch
  obtain ⟨hblocks, hids, hnodup⟩ := compileDescriptors_blocks hfresh hne h
  exact ⟨r.1, r.2, h, hexplicit, hfresh, hblocks, hids, hnodup (hexplicit ▸ by decide +kernel)⟩

end Easel
