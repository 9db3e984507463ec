import Easel.Proofs.Element.Encodable
import Easel.Proofs.Element.Ownership
import Easel.Proofs.Flowchart.Shapes
import Easel.Proofs.Json.Obstacles

/-! Elements that are written out go down three containers, and the only integers in them that can
be long are the numbers of fonts. So it depends on their numbers, texts and fonts whether they can
be shown. -/
namespace Easel

open Json

variable {room : Nat}

/-- The integers in an element that are not bounded by what they are. -/
def Element.integers (e : Element) : List Int :=
  match e.body with
  | .text body => [body.fontFamily]
  | .container _ | .arrow _ _ | .line _ => []

theorem Seed.isShort (s : Seed) : IsShort (Int.ofNat s.value) :=
  isShort_of_lt (Nat.lt_of_le_of_lt s.le (by decide))

/-- Times are counted in 64 bits. -/
theorem isShort_toNat (time : UInt64) : IsShort (Int.ofNat time.toNat) :=
  isShort_of_lt (Nat.lt_trans time.toNat_lt (by decide))

theorem isShort_digit {k : Nat} (h : k < 10) : IsShort (Int.ofNat k) :=
  isShort_of_lt (Nat.lt_trans h (by decide))

/-- A path is an array of points, and a point is an array. -/
@[simp] theorem Path.fits_toJson (p : Path) : p.toJson.Fits (room + 2) := by
  simp [toJson, Point.toJson]

@[simp] theorem Dependent.fits_toJson (d : Dependent) : d.toJson.Fits (room + 1) := by
  simp [toJson]

@[simp] theorem fits_attachment (t : Option Text) : (attachment t).Fits (room + 1) := by
  cases t with
  | none => simp [attachment]
  | some id =>
    have hfocus : IsShort 0 := isShort_digit (k := 0) (by decide)
    have hgap : IsShort 5 := isShort_digit (k := 5) (by decide)
    simpa [attachment] using ⟨hfocus, hgap⟩

@[simp] theorem Body.fits_roundness (b : Body) : b.roundness.Fits (room + 1) := by
  have hsmooth : IsShort 2 := isShort_digit (k := 2) (by decide)
  have hround : IsShort 3 := isShort_digit (k := 3) (by decide)
  unfold roundness
  split
  · simpa using hround
  · simp
  · split
    · simp
    · simpa using hsmooth
  · split
    · simp
    · simpa using hsmooth

theorem Path.fits_fields (p : Path) : ∀ f ∈ p.fields, f.2.Fits (room + 2) := by
  simp [fields]

theorem Ends.fits_fields (e : Ends) : ∀ f ∈ e.fields, f.2.Fits (room + 2) := by
  simp [fields]

/-- Of what elements have of their own, only the font of a text can be too long. -/
theorem Element.fits_bodyFields (e : Element) (room : Nat) :
    (∀ f ∈ e.body.fields, f.2.Fits (room + 2)) ↔ ∀ k ∈ e.integers, IsShort k := by
  unfold integers
  cases e.body with
  | container kind => simp [Body.fields]
  | text body => simp [Body.fields, TextBody.fields]
  | arrow points ends =>
    refine iff_of_true ?_ (by simp)
    rw [Body.fields, List.forall_mem_append, List.forall_mem_append]
    exact ⟨⟨points.fits_fields, ends.fits_fields⟩, by simp⟩
  | line points =>
    refine iff_of_true ?_ (by simp)
    rw [Body.fields, List.forall_mem_append]
    exact ⟨points.fits_fields, Ends.fits_fields _⟩

/-- An element can be written if the number of its font can. -/
theorem Element.fits_toJson (e : Element) (stamp : Stamp) (room : Nat) :
    (e.toJson stamp).Fits (room + 3) ↔ ∀ k ∈ e.integers, IsShort k := by
  have hangle : IsShort 0 := isShort_digit (k := 0) (by decide)
  have hversion : IsShort 1 := isShort_digit (k := 1) (by decide)
  have hseed := stamp.seed.isShort
  have hnonce := stamp.versionNonce.isShort
  have htime := isShort_toNat stamp.updated
  rw [toJson, fits_record, ← e.fits_bodyFields room, List.forall_mem_append]
  refine and_iff_right ?_
  simp only [List.forall_mem_cons, fits_int, hseed, hnonce, htime]
  simp [hangle, hversion]

/-- A value that a response can hold: it has an encoding, and meets no limit of the writer. -/
structure Json.IsShown (room : Nat) (v : Json) : Prop where
  encodable : v.isEncodable = true
  fits : v.Fits room

theorem Json.IsShown.mono {n : Nat} {v : Json} (hv : v.IsShown room) (h : room ≤ n) : v.IsShown n :=
  ⟨hv.encodable, hv.fits.mono h⟩

/-- A list can be shown if each of its items can be. -/
theorem Json.isShown_array {items : List Json} :
    (array items).IsShown (room + 1) ↔ ∀ v ∈ items, v.IsShown room := by
  constructor
  · rintro ⟨hencodable, hfits⟩ v hv
    rw [isEncodable_array, List.all_eq_true] at hencodable
    exact ⟨hencodable v hv, fits_array.mp hfits v hv⟩
  · intro h
    refine ⟨?_, fits_array.mpr fun v hv => (h v hv).fits⟩
    rw [isEncodable_array, List.all_eq_true]
    exact fun v hv => (h v hv).encodable

/-- An element with finite numbers, with texts that have an encoding, and with a font whose number
is not too long. -/
structure Element.IsShown (e : Element) : Prop where
  numbers : ∀ x ∈ e.numbers, x.isFinite = true
  texts : ∀ t ∈ e.texts, t.isEncodable = true
  integers : ∀ k ∈ e.integers, IsShort k

/-- Three containers are enough for an element, whatever it is. -/
theorem Element.isShown_toJson (e : Element) (stamp : Stamp) (room : Nat) :
    (e.toJson stamp).IsShown (room + 3) ↔ e.IsShown := by
  have hencodable : (e.toJson stamp).isEncodable = true ↔
      (∀ x ∈ e.numbers, x.isFinite = true) ∧ ∀ t ∈ e.texts, t.isEncodable = true := by
    rw [e.isEncodable_toJson, Bool.and_eq_true, List.all_eq_true, List.all_eq_true]
  constructor
  · rintro ⟨h, hfits⟩
    obtain ⟨hnumbers, htexts⟩ := hencodable.mp h
    exact ⟨hnumbers, htexts, (e.fits_toJson stamp room).mp hfits⟩
  · rintro ⟨hnumbers, htexts, hintegers⟩
    exact ⟨hencodable.mpr ⟨hnumbers, htexts⟩, (e.fits_toJson stamp room).mpr hintegers⟩

/-- Finite points are not enough for this: they may be too far apart. -/
example : (Path.extent ⟨⟨-1e308, 0⟩, ⟨1e308, 0⟩, []⟩ Point.x).isFinite = false := by
  decide +kernel

/-- This is so however the elements are stamped. -/
theorem Stamps.isShown_write (stamps : Stamps) {es : List Element} (h : ∀ e ∈ es, e.IsShown) :
    ∀ v ∈ stamps.write es, v.IsShown 3 := by
  intro v hv
  obtain ⟨i, hi, rfl⟩ := List.mem_mapIdx.mp hv
  exact (es[i].isShown_toJson _ 0).mpr (h _ (List.getElem_mem hi))

/-- What is drawn goes down three containers at most. -/
theorem Stamps.fits_write (stamps : Stamps) {es : List Element}
    (h : ∀ e ∈ es, ∀ k ∈ e.integers, IsShort k) : ∀ v ∈ stamps.write es, v.Fits 3 := by
  intro v hv
  obtain ⟨i, hi, rfl⟩ := List.mem_mapIdx.mp hv
  exact (es[i].fits_toJson _ 0).mpr (h _ (List.getElem_mem hi))

/-- The number of the font in which a shape shows a text. -/
def Shape.fonts : Shape → List Int
  | .container _ _ caption | .arrow _ caption _ => [caption.fontFamily]
  | .text _ content => [content.fontFamily]
  | .line _ _ => []

theorem Shape.fontFamily_mem_fonts {s : Shape} {caption : Caption} (h : s.caption? = some caption) :
    caption.fontFamily ∈ s.fonts := by
  cases s with
  | container | arrow =>
    obtain rfl := Option.some.inj h
    exact List.mem_singleton.mpr rfl
  | text | line => cases h

/-- The fonts of elements are those of the shapes that they are made of. -/
theorem Shape.integers_owner (s : Shape) (id : Text) :
    ∀ k ∈ (s.owner id).integers, k ∈ s.fonts := by
  intro k hk
  cases s with
  | text => exact hk
  | container | arrow | line => cases hk

/-- An element shows its text in a font of the shape from which it comes. -/
theorem Shape.integers_of_mem_elements {s : Shape} {ids : IdSupply} {e : Element}
    (he : e ∈ (s.elements ids).1) : ∀ k ∈ e.integers, k ∈ s.fonts := by
  intro k hk
  cases hlabel : s.label? with
  | none =>
    rw [elements_of_label_none hlabel, List.mem_singleton] at he
    subst he
    exact s.integers_owner _ k hk
  | some label =>
    obtain ⟨caption, hcaption, heq⟩ := elements_of_label_some hlabel ids
    rw [heq] at he
    rcases List.mem_cons.mp he with rfl | he
    · exact s.integers_owner (ids.choose s.attributes.id).1 k hk
    · obtain rfl := List.mem_singleton.mp he
      obtain rfl := List.mem_singleton.mp hk
      exact s.fontFamily_mem_fonts hcaption

namespace Flowchart

/-- Charts are drawn in one font. -/
theorem fonts_of_isBox {c : Flowchart} {n : Node} {s : Shape} (h : c.IsBox n s) :
    s.fonts = [5] := by
  obtain ⟨p, -, hs⟩ := h
  unfold nodeShape at hs
  split at hs
  · cases hs
  · cases hs
    rfl

theorem fonts_of_isArrow {c : Flowchart} {e : Edge} {s : Shape} (h : c.IsArrow e s) :
    s.fonts = [5] := by
  obtain ⟨p, q, -, -, rfl⟩ := h
  rfl

/-- The elements of a chart can be written, whatever the chart. -/
theorem isShort_of_mem_compile {definition : Text} {ids rest : IdSupply} {es : List Element}
    (h : compile definition ids = .ok (es, rest)) : ∀ e ∈ es, ∀ k ∈ e.integers, IsShort k := by
  obtain ⟨boxes, arrows, hshapes, hboxes, harrows⟩ :=
    toShapes_of_wellFormed (ofText_wellFormed definition)
  have hfonts : ∀ s ∈ boxes ++ arrows, s.fonts = [5] := by
    rw [List.forall_mem_append]
    constructor <;> intro s hs <;> obtain ⟨k, hk, rfl⟩ := List.getElem_of_mem hs
    · exact fonts_of_isBox (hboxes.get (hboxes.length_eq ▸ hk) hk)
    · exact fonts_of_isArrow (harrows.get (harrows.length_eq ▸ hk) hk)
  have hbuilt : ∀ s ∈ boxes ++ arrows, ∀ ids : IdSupply, ∀ e ∈ (s.elements ids).1,
      ∀ k ∈ e.integers, IsShort k := by
    intro s hs ids e he k hk
    have hmem := s.integers_of_mem_elements he k hk
    rw [hfonts s hs, List.mem_singleton] at hmem
    exact hmem ▸ isShort_digit (k := 5) (by decide)
  rw [compile, hshapes] at h
  obtain rfl := congrArg Prod.fst (Except.ok.inj h)
  exact forall_mem_compileShapes (fun e e' ⟨_, _, he⟩ hall => he ▸ hall) hbuilt ids

end Flowchart

end Easel
