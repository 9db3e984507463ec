import Mathlib.Data.List.Forall2
import Easel.Element.Batch
import Easel.Proofs.Element.Blocks
import Easel.Proofs.Result

/-! What the shape of an accepted descriptor takes from its fields. -/
namespace Easel

namespace Verdict

variable {α β : Type}

theorem map_eq_accepted {f : α → β} {v : Verdict α} {b : β} :
    v.map f = .accepted b ↔ ∃ a, v = .accepted a ∧ f a = b := by
  cases v with
  | accepted a => simp [map]
  | rejected ps => simp [map]

/-- Two readers succeed together if each of them succeeds. -/
theorem ap_eq_accepted {f : Verdict (α → β)} {v : Verdict α} {b : β} :
    f.ap v = .accepted b ↔ ∃ g a, f = .accepted g ∧ v = .accepted a ∧ g a = b := by
  cases f with
  | accepted g => simp [ap, map_eq_accepted]
  | rejected ps => cases v <;> simp [ap]

end Verdict

/-- The string under a key, unless it is empty. -/
def Fields.text? (fields : Fields) (key : String) : Option Text :=
  match fields.get? key with
  | some (.string t) => if t = [] then none else some t
  | _ => none

/-- Whether a label of shapes of this kind is shown in a text of its own. -/
def ShapeKind.hasLabel : ShapeKind → Bool
  | container _ | arrow => true
  | text | line => false

/-- The string under the main spelling of a key, or where that is absent under the other one. -/
def Fields.eitherText? (fields : Fields) (main other : String) : Option Text :=
  if (fields.get? main).isSome then fields.text? main else fields.text? other

theorem Fields.eitherText?_self (fields : Fields) (key : String) :
    fields.eitherText? key key = fields.text? key :=
  ite_self _

/-- A text that is empty counts as missing, where it is read and where it is looked up. -/
theorem Fields.text?_of_asText? {fields : Fields} {key : String} {v : Json} {t : Option Text}
    (hget : fields.get? key = some v) (h : v.asText?.under key = .accepted t) :
    nonempty? t = fields.text? key := by
  unfold Fields.text?
  rw [hget]
  cases v with
  | null =>
    cases h
    rfl
  | string u =>
    cases h
    simp [nonempty?]
  | bool | int | float | array | object => cases h

/-- Of two spellings of a key, the main one is read first. -/
theorem Fields.read_asText?_either {fields : Fields} {name : FieldName} {t : Option Text}
    (h : fields.read name none Json.asText? = .accepted t) :
    nonempty? t = fields.eitherText? name.main name.other := by
  unfold Fields.read FieldName.find? at h
  unfold Fields.eitherText?
  cases hmain : fields.get? name.main with
  | some v =>
    simp only [hmain] at h
    exact Fields.text?_of_asText? hmain h
  | none =>
    cases hother : fields.get? name.other with
    | some v =>
      simp only [hmain, hother, Option.map_some] at h
      exact Fields.text?_of_asText? hother h
    | none =>
      simp only [hmain, hother, Option.map_none] at h
      cases h
      simp [Fields.text?, hother, nonempty?]

theorem Fields.read_asText? {fields : Fields} {key : String} {t : Option Text}
    (h : fields.read (.same key) none Json.asText? = .accepted t) :
    nonempty? t = fields.text? key := by
  have heither := Fields.read_asText?_either h
  rw [← Fields.eitherText?_self]
  exact heither

/-- Where each attribute of a descriptor comes from. -/
structure Attributes.ReadFrom (a : Attributes) (fields : Fields) (d : Attributes) : Prop where
  id : fields.read (.same "id") d.id Json.asText? = .accepted a.id
  x : fields.read (.same "x") d.x Json.asNumber = .accepted a.x
  y : fields.read (.same "y") d.y Json.asNumber = .accepted a.y
  width : fields.read (.same "width") d.width Json.asNumber = .accepted a.width
  height : fields.read (.same "height") d.height Json.asNumber = .accepted a.height
  strokeColor : fields.read ⟨"strokeColor", "stroke_color"⟩ d.strokeColor
    Json.asText = .accepted a.strokeColor
  backgroundColor : fields.read ⟨"backgroundColor", "background_color"⟩ d.backgroundColor
    Json.asText = .accepted a.backgroundColor
  fillStyle : fields.read ⟨"fillStyle", "fill_style"⟩ d.fillStyle
    (Json.asChoice FillStyle.all FillStyle.name) = .accepted a.fillStyle
  strokeWidth : fields.read ⟨"strokeWidth", "stroke_width"⟩ d.strokeWidth
    Json.asNumber = .accepted a.strokeWidth
  strokeStyle : fields.read ⟨"strokeStyle", "stroke_style"⟩ d.strokeStyle
    (Json.asChoice StrokeStyle.all StrokeStyle.name) = .accepted a.strokeStyle
  roughness : fields.read (.same "roughness") d.roughness Json.asNumber = .accepted a.roughness
  opacity : fields.read (.same "opacity") d.opacity Json.asPercentage = .accepted a.opacity
  groupId : fields.read ⟨"groupId", "group_id"⟩ d.groupId Json.asText? = .accepted a.groupId

/-- If the attributes are read, each of them is. -/
theorem Attributes.readFrom_of_ofFields {fields : Fields} {d a : Attributes}
    (h : Attributes.ofFields fields d = .accepted a) : a.ReadFrom fields d := by
  obtain ⟨_, groupId, h₁₂, hgroupId, rfl⟩ := Verdict.ap_eq_accepted.mp h
  obtain ⟨_, opacity, h₁₁, hopacity, rfl⟩ := Verdict.ap_eq_accepted.mp h₁₂
  obtain ⟨_, roughness, h₁₀, hroughness, rfl⟩ := Verdict.ap_eq_accepted.mp h₁₁
  obtain ⟨_, strokeStyle, h₉, hstrokeStyle, rfl⟩ := Verdict.ap_eq_accepted.mp h₁₀
  obtain ⟨_, strokeWidth, h₈, hstrokeWidth, rfl⟩ := Verdict.ap_eq_accepted.mp h₉
  obtain ⟨_, fillStyle, h₇, hfillStyle, rfl⟩ := Verdict.ap_eq_accepted.mp h₈
  obtain ⟨_, backgroundColor, h₆, hbackgroundColor, rfl⟩ := Verdict.ap_eq_accepted.mp h₇
  obtain ⟨_, strokeColor, h₅, hstrokeColor, rfl⟩ := Verdict.ap_eq_accepted.mp h₆
  obtain ⟨_, height, h₄, hheight, rfl⟩ := Verdict.ap_eq_accepted.mp h₅
  obtain ⟨_, width, h₃, hwidth, rfl⟩ := Verdict.ap_eq_accepted.mp h₄
  obtain ⟨_, y, h₂, hy, rfl⟩ := Verdict.ap_eq_accepted.mp h₃
  obtain ⟨_, x, h₁, hx, rfl⟩ := Verdict.ap_eq_accepted.mp h₂
  obtain ⟨id, hid, rfl⟩ := Verdict.map_eq_accepted.mp h₁
  exact ⟨hid, hx, hy, hwidth, hheight, hstrokeColor, hbackgroundColor, hfillStyle, hstrokeWidth,
    hstrokeStyle, hroughness, hopacity, hgroupId⟩

/-- The id of a shape is the one that its descriptor gives, unless that is empty. -/
theorem Attributes.given_ofFields {fields : Fields} {d a : Attributes} (hd : d.id = none)
    (h : Attributes.ofFields fields d = .accepted a) : nonempty? a.id = fields.text? "id" :=
  Fields.read_asText? (hd ▸ (readFrom_of_ofFields h).id)

theorem Caption.label_ofFields {fields : Fields} {c : Caption}
    (h : Caption.ofFields fields {} = .accepted c) : nonempty? c.label = fields.text? "label" := by
  simp only [Caption.ofFields, Verdict.map_eq, Verdict.seq_eq, Verdict.ap_eq_accepted,
    Verdict.map_eq_accepted] at h
  obtain ⟨_, _, ⟨_, _, ⟨label, hlabel, rfl⟩, -, rfl⟩, -, rfl⟩ := h
  exact Fields.read_asText? hlabel

/-- The ends of an arrow are attached to what the fields name, if they name anything. -/
theorem Connector.bindings_ofFields {fields : Fields} {c : Connector}
    (h : Connector.ofFields fields {} = .accepted c) :
    nonempty? c.startBinding = fields.eitherText? "startBinding" "start_binding" ∧
      nonempty? c.endBinding = fields.eitherText? "endBinding" "end_binding" := by
  simp only [Connector.ofFields, Verdict.map_eq, Verdict.seq_eq, Verdict.ap_eq_accepted,
    Verdict.map_eq_accepted] at h
  obtain ⟨_, _, ⟨_, _, ⟨_, _, ⟨_, start, ⟨_, -, rfl⟩, hstart, rfl⟩, hend, rfl⟩, -, rfl⟩, -,
    rfl⟩ := h
  have hstart := Fields.read_asText?_either hstart
  have hend := Fields.read_asText?_either hend
  exact ⟨hstart, hend⟩

/-- What the elements of a shape take over from the fields of its descriptor. -/
structure Shape.Describes (s : Shape) (kind : ShapeKind) (fields : Fields) : Prop where
  kind_eq : s.kind = kind
  given_eq : s.given? = fields.text? "id"
  label_eq : s.label? = if kind.hasLabel then fields.text? "label" else none

/-- A descriptor that is read says id, label and ends of its shape. -/
theorem Shape.describes_of_ofFields {kind : ShapeKind} {fields : Fields} {s : Shape}
    (h : Shape.ofFields kind fields = .accepted s) : s.Describes kind fields := by
  cases kind with
  | container k =>
    simp only [Shape.ofFields, Verdict.map_eq, Verdict.seq_eq, Verdict.ap_eq_accepted,
      Verdict.map_eq_accepted] at h
    obtain ⟨_, caption, ⟨a, ha, rfl⟩, hcaption, rfl⟩ := h
    exact ⟨rfl, Attributes.given_ofFields rfl ha, Caption.label_ofFields hcaption⟩
  | text =>
    simp only [Shape.ofFields, Verdict.map_eq, Verdict.seq_eq, Verdict.ap_eq_accepted,
      Verdict.map_eq_accepted] at h
    obtain ⟨_, content, ⟨a, ha, rfl⟩, -, rfl⟩ := h
    exact ⟨rfl, Attributes.given_ofFields rfl ha, rfl⟩
  | arrow =>
    simp only [Shape.ofFields, Verdict.map_eq, Verdict.seq_eq, Verdict.ap_eq_accepted,
      Verdict.map_eq_accepted] at h
    obtain ⟨_, connector, ⟨_, caption, ⟨a, ha, rfl⟩, hcaption, rfl⟩, -, rfl⟩ := h
    exact ⟨rfl, Attributes.given_ofFields rfl ha, Caption.label_ofFields hcaption⟩
  | line =>
    simp only [Shape.ofFields, Verdict.map_eq, Verdict.seq_eq, Verdict.ap_eq_accepted,
      Verdict.map_eq_accepted] at h
    obtain ⟨_, points, ⟨a, ha, rfl⟩, -, rfl⟩ := h
    exact ⟨rfl, Attributes.given_ofFields rfl ha, rfl⟩

theorem ShapeKind.mem_all (kind : ShapeKind) : kind ∈ all := by
  cases kind with
  | container k => cases k <;> simp [all]
  | text | arrow | line => simp [all]

theorem ShapeKind.ofName?_eq_none_iff {t : Text} :
    ofName? t = none ↔ ∀ kind : ShapeKind, Text.ofString kind.name ≠ t := by
  simp only [ofName?, List.find?_eq_none, decide_eq_true_eq]
  exact ⟨fun h kind => h kind kind.mem_all, fun h kind _ => h kind⟩

/-- A descriptor that is no object, or has none of the supported types. -/
def IsUnsupported (raw : Json) : Prop :=
  ∀ fields, raw = .object fields → ∀ kind : ShapeKind,
    Fields.get? fields "type" ≠ some (.string (.ofString kind.name))

/-- A descriptor is skipped exactly if it names no kind of shape there is. -/
theorem describedKind?_eq_none_iff {raw : Json} :
    raw.describedKind? = none ↔ IsUnsupported raw := by
  unfold Json.describedKind? IsUnsupported
  split
  · rename_i fields
    split
    · rename_i t ht
      rw [Option.map_eq_none_iff, ShapeKind.ofName?_eq_none_iff]
      constructor
      · rintro h _ ⟨⟩ kind hkind
        rw [ht] at hkind
        cases hkind
        exact h kind rfl
      · rintro h kind rfl
        exact h fields rfl kind ht
    · rename_i hother
      refine ⟨fun _ => ?_, fun _ => rfl⟩
      rintro _ ⟨⟩ kind hkind
      exact hother _ hkind
  · rename_i hother
    exact ⟨fun _ fields hraw => (hother fields hraw).elim, fun _ => rfl⟩

/-- A descriptor is read as a shape if it is of a supported kind and its fields are accepted. -/
theorem Shape.ofDescriptor?_eq_some_iff {index : Int} {raw : Json} {s : Shape} :
    Shape.ofDescriptor? index raw = .ok (some s) ↔
      ∃ d, raw.describedKind? = some d ∧ Shape.ofFields d.1 d.2 = .accepted s := by
  unfold Shape.ofDescriptor?
  cases raw.describedKind? with
  | none => simp
  | some d => cases hs : Shape.ofFields d.1 d.2 <;> simp [hs]

/-- A batch is accepted if the fields of each descriptor of a supported kind are, and the shapes are
those of these descriptors in their order. -/
theorem Shape.ofDescriptors_eq_ok_iff {index : Nat} {raws : List Json} {shapes : List Shape} :
    Shape.ofDescriptors index raws = .ok shapes ↔
      List.Forall₂ (fun d s => Shape.ofFields d.1 d.2 = .accepted s)
        (raws.filterMap Json.describedKind?) shapes := by
  induction raws generalizing index shapes with
  | nil =>
    rw [List.filterMap_nil, List.forall₂_nil_left_iff]
    exact ⟨fun h => (Except.ok.inj h).symm, fun h => congrArg Except.ok h.symm⟩
  | cons raw raws ih =>
    rw [Shape.ofDescriptors, Shape.ofDescriptor?]
    cases hkind : raw.describedKind? with
    | none =>
      rw [List.filterMap_cons_none hkind]
      exact ih
    | some d =>
      obtain ⟨kind, fields⟩ := d
      rw [List.filterMap_cons_some hkind, List.forall₂_cons_left_iff]
      simp only
      cases hs : Shape.ofFields kind fields with
      | rejected ps => simp
      | accepted s =>
        simp only [except_map_eq_ok, ih]
        constructor
        · rintro ⟨rest, hrest, rfl⟩
          exact ⟨s, rest, rfl, hrest, rfl⟩
        · rintro ⟨_, rest, ⟨⟩, hrest, rfl⟩
          exact ⟨rest, hrest, rfl⟩

/-- The shapes of a batch are those of the descriptors of supported kinds, in their order. -/
theorem Shape.describes_of_ofDescriptors {index : Nat} {raws : List Json} {shapes : List Shape}
    (h : Shape.ofDescriptors index raws = .ok shapes) :
    List.Forall₂ (fun d s => Shape.Describes s d.1 d.2) (raws.filterMap Json.describedKind?)
      shapes :=
  (Shape.ofDescriptors_eq_ok_iff.mp h).imp fun _ _ => Shape.describes_of_ofFields

end Easel
