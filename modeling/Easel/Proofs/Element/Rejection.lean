import Easel.Proofs.Element.Ownership
import Easel.Proofs.Shape.Rules

/-! Which batches are rejected: those with a descriptor of a supported kind that has something else
in a field than this may hold. The first of them is reported with all its problems, before any id
is issued. Every other batch is compiled, as nothing is looked up in vain. -/
namespace Easel

/-- A descriptor of a supported kind. -/
structure Json.IsOfKind (raw : Json) (kind : ShapeKind) (fields : Fields) : Prop where
  object : raw = .object fields
  type : fields.get? "type" = some (.string (.ofString kind.name))

/-- What is wrong with a descriptor of a kind: the problems of each of its fields in their order. -/
def ShapeKind.problems (kind : ShapeKind) (fields : Fields) : List Problem :=
  kind.rules.flatMap (·.problems fields)

/-- A descriptor of a supported kind with something else in a field than this may hold. -/
def IsUnsound (raw : Json) : Prop :=
  ∃ kind fields, raw.IsOfKind kind fields ∧ ∃ r ∈ kind.rules, r.IsBroken fields

/-- A descriptor has problems exactly if it breaks a rule of its kind. -/
theorem ShapeKind.problems_ne_nil_iff {kind : ShapeKind} {fields : Fields} :
    kind.problems fields ≠ [] ↔ ∃ r ∈ kind.rules, r.IsBroken fields := by
  simp only [problems, ne_eq, List.flatMap_eq_nil_iff, not_forall, ← FieldRule.problems_ne_nil_iff,
    exists_prop]

theorem ShapeKind.ofName?_name (kind : ShapeKind) : ofName? (.ofString kind.name) = some kind := by
  cases kind with
  | container k => cases k <;> decide +kernel
  | text | arrow | line => decide +kernel

/-- No two kinds have one name. -/
theorem ShapeKind.name_injective {k k' : ShapeKind}
    (h : Text.ofString k.name = Text.ofString k'.name) : k = k' := by
  have hname := k.ofName?_name
  rw [h, k'.ofName?_name] at hname
  exact (Option.some.inj hname).symm

/-- So a descriptor is of one kind at most. -/
theorem Json.IsOfKind.unique {raw : Json} {k k' : ShapeKind} {fs fs' : Fields}
    (h : raw.IsOfKind k fs) (h' : raw.IsOfKind k' fs') : k = k' ∧ fs = fs' := by
  obtain ⟨rfl, htype⟩ := h
  obtain ⟨hobject, htype'⟩ := h'
  obtain rfl := Json.object.inj hobject
  rw [htype, Option.some.injEq, Json.string.injEq] at htype'
  exact ⟨ShapeKind.name_injective htype', rfl⟩

theorem Json.describedKind?_eq_some_iff {raw : Json} {kind : ShapeKind} {fields : Fields} :
    raw.describedKind? = some (kind, fields) ↔ raw.IsOfKind kind fields := by
  constructor
  · intro h
    unfold describedKind? at h
    split at h
    · split at h
      · rename_i fs t ht
        obtain ⟨k, hk, heq⟩ := Option.map_eq_some_iff.mp h
        obtain ⟨rfl, rfl⟩ := Prod.mk.inj heq
        have hname : Text.ofString k.name = t := by simpa using List.find?_some hk
        exact ⟨rfl, hname ▸ ht⟩
      · cases h
    · cases h
  · rintro ⟨rfl, htype⟩
    simp only [describedKind?, htype, ShapeKind.ofName?_name, Option.map_some]

/-- For a descriptor of some kind, to be unsound is to have problems. -/
theorem isUnsound_iff {raw : Json} {kind : ShapeKind} {fields : Fields}
    (h : raw.IsOfKind kind fields) : IsUnsound raw ↔ kind.problems fields ≠ [] := by
  rw [ShapeKind.problems_ne_nil_iff]
  constructor
  · rintro ⟨k, fs, hof, hbroken⟩
    obtain ⟨rfl, rfl⟩ := h.unique hof
    exact hbroken
  · exact fun hbroken => ⟨kind, fields, h, hbroken⟩

/-- What is skipped is not looked into. -/
theorem not_isUnsound_of_isUnsupported {raw : Json} (h : IsUnsupported raw) : ¬ IsUnsound raw := by
  rintro ⟨kind, fields, hof, -⟩
  exact h fields hof.object kind hof.type

/-- A descriptor of a kind is accepted, or rejected with all its problems. -/
theorem ofDescriptor?_of_isOfKind {kind : ShapeKind} {raw : Json} {fields : Fields}
    (h : raw.IsOfKind kind fields) (index : Int) :
    (∃ s, Shape.ofFields kind fields = .accepted s ∧
      Shape.ofDescriptor? index raw = .ok (some s)) ∨
    Shape.ofFields kind fields = .rejected (kind.problems fields) ∧
      Shape.ofDescriptor? index raw = .error ⟨kind, index, kind.problems fields⟩ := by
  have hproblems : _ = kind.problems fields := (Shape.follows_ofFields kind).problems_eq fields
  have hkind := Json.describedKind?_eq_some_iff.mpr h
  cases hs : Shape.ofFields kind fields with
  | accepted s => exact .inl ⟨s, rfl, by simp only [Shape.ofDescriptor?, hkind, hs]⟩
  | rejected ps =>
    rw [hs] at hproblems
    obtain rfl : ps = kind.problems fields := hproblems
    exact .inr ⟨rfl, by simp only [Shape.ofDescriptor?, hkind, hs]⟩

/-- A descriptor is skipped, or is sound and has a shape, or is rejected with all its problems. -/
theorem ofDescriptor?_cases (index : Int) (raw : Json) :
    (¬ IsUnsound raw ∧ ∃ shape, Shape.ofDescriptor? index raw = .ok shape) ∨
    ∃ kind fields, raw.IsOfKind kind fields ∧ kind.problems fields ≠ [] ∧
      Shape.ofDescriptor? index raw = .error ⟨kind, index, kind.problems fields⟩ := by
  cases hkind : raw.describedKind? with
  | none =>
    have hread : Shape.ofDescriptor? index raw = .ok none := by
      simp only [Shape.ofDescriptor?, hkind]
    exact .inl ⟨not_isUnsound_of_isUnsupported (describedKind?_eq_none_iff.mp hkind), none, hread⟩
  | some d =>
    obtain ⟨kind, fields⟩ := d
    have hof := Json.describedKind?_eq_some_iff.mp hkind
    obtain ⟨hgrounded, hproblems, -⟩ := Shape.follows_ofFields kind
    rcases ofDescriptor?_of_isOfKind hof index with ⟨s, hs, hread⟩ | ⟨hs, hread⟩
    · have hnil : kind.problems fields = [] := by
        rw [ShapeKind.problems, ← hproblems, hs, Verdict.problems]
      exact .inl ⟨fun hraw => (isUnsound_iff hof).mp hraw hnil, some s, hread⟩
    · have hne : kind.problems fields ≠ [] := by
        intro hnil
        have hsound := hgrounded fields
        rw [hs, hnil] at hsound
        exact hsound rfl
      exact .inr ⟨kind, fields, hof, hne, hread⟩

/-- An error about the first unsound descriptor of a batch: it tells its kind, its place among all
descriptors, and what is wrong with it. -/
def InvalidShape.ReportsFirst (e : InvalidShape) (raws : List Json) : Prop :=
  ∃ before raw after fields, raws = before ++ raw :: after ∧
    (∀ earlier ∈ before, ¬ IsUnsound earlier) ∧ IsUnsound raw ∧ raw.IsOfKind e.kind fields ∧
    e.index = before.length ∧ e.problems = e.kind.problems fields

/-- By induction on the batch: all its descriptors are sound, or there is a first one that is
not. -/
theorem ofDescriptors_cases (index : Nat) (raws : List Json) :
    ((∀ raw ∈ raws, ¬ IsUnsound raw) ∧ ∃ shapes, Shape.ofDescriptors index raws = .ok shapes) ∨
    ∃ before raw after kind fields, raws = before ++ raw :: after ∧
      (∀ earlier ∈ before, ¬ IsUnsound earlier) ∧ raw.IsOfKind kind fields ∧
      kind.problems fields ≠ [] ∧
      Shape.ofDescriptors index raws =
        .error ⟨kind, index + before.length, kind.problems fields⟩ := by
  induction raws generalizing index with
  | nil => exact .inl ⟨by simp, [], rfl⟩
  | cons raw raws ih =>
    rcases ofDescriptor?_cases index raw with ⟨hsound, shape, hshape⟩ | ⟨kind, fields, hof, hne, he⟩
    · rcases ih (index + 1) with
        ⟨hall, shapes, hshapes⟩ | ⟨before, later, after, kind, fields, rfl, hall, hof, hne, he⟩
      · refine .inl ⟨List.forall_mem_cons.mpr ⟨hsound, hall⟩, ?_⟩
        simp only [Shape.ofDescriptors, hshape, hshapes]
        cases shape with
        | none => exact ⟨shapes, rfl⟩
        | some s => exact ⟨s :: shapes, rfl⟩
      · refine .inr ⟨raw :: before, later, after, kind, fields, rfl,
          List.forall_mem_cons.mpr ⟨hsound, hall⟩, hof, hne, ?_⟩
        have hplace : ((index + 1 : Nat) : Int) + before.length =
            index + (raw :: before).length := by
          simp only [List.length_cons]
          omega
        rw [hplace] at he
        simp only [Shape.ofDescriptors, hshape, he]
        cases shape <;> rfl
    · refine .inr ⟨[], raw, raws, kind, fields, rfl, by simp, hof, hne, ?_⟩
      simp only [Shape.ofDescriptors, he, List.length_nil, Int.natCast_zero, Int.add_zero]

/-- At most one error is about the first unsound descriptor. -/
theorem InvalidShape.ReportsFirst.unique {e e' : InvalidShape} {raws : List Json}
    (h : e.ReportsFirst raws) (h' : e'.ReportsFirst raws) : e = e' := by
  obtain ⟨kind, index, problems⟩ := e
  obtain ⟨kind', index', problems'⟩ := e'
  obtain ⟨before, raw, after, fields, rfl, hbefore, hraw, hof, hindex, hproblems⟩ := h
  obtain ⟨before', raw', after', fields', heq, hbefore', hraw', hof', hindex', hproblems'⟩ := h'
  -- Where one split goes further than the other, it passes over an unsound descriptor.
  have hboth : before = before' ∧ raw = raw' := by
    rcases List.append_eq_append_iff.mp heq with ⟨more, hmore, htail⟩ | ⟨more, hmore, htail⟩
    · cases more with
      | nil =>
        obtain ⟨rfl, -⟩ := List.cons.inj htail
        exact ⟨by simpa using hmore.symm, rfl⟩
      | cons first more =>
        obtain ⟨rfl, -⟩ := List.cons.inj htail
        exact absurd hraw (hbefore' raw (by simp [hmore]))
    · cases more with
      | nil =>
        obtain ⟨rfl, -⟩ := List.cons.inj htail
        exact ⟨by simpa using hmore, rfl⟩
      | cons first more =>
        obtain ⟨rfl, -⟩ := List.cons.inj htail
        exact absurd hraw' (hbefore raw' (by simp [hmore]))
  obtain ⟨rfl, rfl⟩ := hboth
  obtain ⟨hkind, rfl⟩ := hof.unique hof'
  simp only at hkind hindex hproblems hindex' hproblems'
  subst hkind
  rw [hindex, hproblems, hindex', hproblems']

theorem ofDescriptors_eq_error_iff {raws : List Json} {e : InvalidShape} :
    Shape.ofDescriptors 0 raws = .error e ↔ e.ReportsFirst raws := by
  rcases ofDescriptors_cases 0 raws with
    ⟨hall, shapes, hshapes⟩ | ⟨before, raw, after, kind, fields, rfl, hbefore, hof, hne, he⟩
  · rw [hshapes]
    refine iff_of_false (by simp) ?_
    rintro ⟨before, raw, after, fields, rfl, -, hraw, -⟩
    exact hall raw (by simp) hraw
  · have hreports : InvalidShape.ReportsFirst
        ⟨kind, (0 : Nat) + before.length, kind.problems fields⟩ (before ++ raw :: after) :=
      ⟨before, raw, after, fields, rfl, hbefore, (isUnsound_iff hof).mpr hne, hof, by simp, rfl⟩
    rw [he, Except.error.injEq]
    exact ⟨fun heq => heq ▸ hreports, fun h => hreports.unique h⟩

/-- A batch is read if nothing in it is unsound. -/
theorem exists_ofDescriptors_iff {raws : List Json} :
    (∃ shapes, Shape.ofDescriptors 0 raws = .ok shapes) ↔ ∀ raw ∈ raws, ¬ IsUnsound raw := by
  rcases ofDescriptors_cases 0 raws with
    ⟨hall, hshapes⟩ | ⟨before, raw, after, kind, fields, rfl, -, hof, hne, he⟩
  · exact iff_of_true hshapes hall
  · refine iff_of_false (by simp [he]) fun hall => ?_
    exact hall raw (by simp) ((isUnsound_iff hof).mpr hne)

/-- What is picked from the numbers of a list; there is nothing to pick in an empty one. -/
def picked? (pick : Float → List Float → Float) : List Float → Option Float
  | [] => none
  | x :: xs => some (pick x xs)

/-- The points of an arrow or a line. -/
def Body.path? : Body → Option Path
  | arrow p _ | line p => some p
  | container _ | text _ => none

/-- What is looked up for an element is there: its kind among those with a name, both ends of its
points, and their least and greatest coordinates. -/
structure Element.IsMeasured (e : Element) : Prop where
  kind : ShapeKind.ofName? (.ofString e.kind.name) = some e.kind
  ends : ∀ p ∈ e.body.path?, p.toList.head? = some p.first ∧ p.toList.getLast? = some p.last
  width : ∀ p ∈ e.body.path?, ∃ low high, picked? least (p.toList.map Point.x) = some low ∧
    picked? greatest (p.toList.map Point.x) = some high ∧ e.frame.width = high - low
  height : ∀ p ∈ e.body.path?, ∃ low high, picked? least (p.toList.map Point.y) = some low ∧
    picked? greatest (p.toList.map Point.y) = some high ∧ e.frame.height = high - low

theorem Path.ends_toList (p : Path) :
    p.toList.head? = some p.first ∧ p.toList.getLast? = some p.last := by
  refine ⟨rfl, ?_⟩
  rw [toList, List.getLast?_cons_cons, List.getLast?_eq_some_getLast (List.cons_ne_nil _ _), last]

/-- A path has points, so there are a least and a greatest one along each axis. -/
theorem Path.exists_extent (p : Path) (axis : Point → Float) :
    ∃ low high, picked? least (p.toList.map axis) = some low ∧
      picked? greatest (p.toList.map axis) = some high ∧ p.extent axis = high - low :=
  ⟨_, _, rfl, rfl, rfl⟩

theorem isMeasured_of_free {e : Element} (h : e.body.path? = none) : e.IsMeasured :=
  ⟨e.kind.ofName?_name, by simp [h], by simp [h], by simp [h]⟩

/-- The extent of a shape with a path is worked out from the path. -/
theorem isMeasured_owner (s : Shape) (id : Text) : (s.owner id).IsMeasured := by
  cases s with
  | container | text => exact isMeasured_of_free rfl
  | arrow | line =>
    refine ⟨ShapeKind.ofName?_name _, ?_, ?_, ?_⟩ <;> rintro _ ⟨⟩
    · exact Path.ends_toList _
    · exact Path.exists_extent _ Point.x
    · exact Path.exists_extent _ Point.y

theorem Element.IsMeasured.extends {e e' : Element} (h : e.IsMeasured) (he : e.Extends e') :
    e'.IsMeasured := by
  obtain ⟨arrows, -, rfl⟩ := he
  exact ⟨h.kind, h.ends, h.width, h.height⟩

theorem isMeasured_of_mem_elements {s : Shape} {ids : IdSupply} {e : Element}
    (he : e ∈ (s.elements ids).1) : e.IsMeasured := by
  cases hlabel : s.label? with
  | none =>
    rw [elements_of_label_none hlabel, List.mem_singleton] at he
    subst he
    exact isMeasured_owner s _
  | some label =>
    obtain ⟨caption, -, heq⟩ := elements_of_label_some hlabel ids
    rw [heq] at he
    rcases List.mem_cons.mp he with rfl | he
    · obtain ⟨hkind, hends, hwidth, hheight⟩ := isMeasured_owner s (ids.choose s.attributes.id).1
      exact ⟨hkind, hends, hwidth, hheight⟩
    · rw [List.mem_singleton.mp he]
      exact isMeasured_of_free rfl

/-- A value that is no object, a descriptor of a type that is not supported, and two that are
unsound. -/
def unsoundBatch : List Json :=
  [.null,
   .record [("type", .ofString "star"), ("x", .ofString "ten")],
   .record [("points", .array [.array [.int 0], .array [.int 1, .int 2, .int 3]]),
     ("opacity", .int 200), ("stroke_color", .int 5), ("x", .ofString "ten"),
     ("type", .ofString "arrow")],
   .record [("type", .ofString "rectangle"), ("y", .null)]]

/-- What is wrong with the first of them. -/
def unsoundArrow : InvalidShape :=
  ⟨.arrow, 2, [⟨["x"], .unreadableNumber⟩, ⟨["stroke_color"], .notString⟩,
    ⟨["opacity"], .aboveHundred⟩, ⟨["points", "0", "1"], .missingItem⟩,
    ⟨["points", "1"], .tooManyItems 3⟩]⟩

end Easel
