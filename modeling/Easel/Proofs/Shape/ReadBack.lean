import Easel.Proofs.Element.Rejection
import Easel.Proofs.Flowchart.Shapes

/-! A shape that is written out in full and read again is the same shape, so that compiling shapes
and compiling their descriptors give the same elements. -/
namespace Easel

/-- Each of the given values stands under its key. -/
def Fields.Holds (fields : Fields) (values : List (String × Json)) : Prop :=
  ∀ f ∈ values, fields.get? f.1 = some f.2

theorem Fields.Holds.get? {fields : Fields} {values : List (String × Json)} {key : String}
    {v : Json} (h : fields.Holds values) (hv : (key, v) ∈ values) : fields.get? key = some v :=
  h (key, v) hv

/-- The first field of a name is the one that is found. -/
theorem Fields.get?_cons (key : String) (f : Text × Json) (rest : Fields) :
    Fields.get? (f :: rest) key =
      if f.1 = Text.ofString key then some f.2 else rest.get? key := by
  by_cases hkey : f.1 = Text.ofString key <;> simp [get?, hkey]

/-- In a record each value stands under its key, unless a key is there twice. -/
theorem holds_record {values : List (String × Json)} (h : (values.map (·.1)).Nodup) :
    Fields.Holds (values.map fun f => (Text.ofString f.1, f.2)) values := by
  induction values with
  | nil => rintro f ⟨⟩
  | cons g rest ih =>
    obtain ⟨hnew, hrest⟩ := List.nodup_cons.mp h
    rintro f hf
    rw [List.map_cons, Fields.get?_cons]
    rcases List.mem_cons.mp hf with rfl | hf
    · exact if_pos rfl
    · have hne : Text.ofString g.1 ≠ Text.ofString f.1 := by
        intro heq
        have hkey : g.1 = f.1 := Text.ofString_injective heq
        exact hnew (List.mem_map.mpr ⟨f, hf, hkey.symm⟩)
      exact (if_neg hne).trans (ih hrest f hf)

/-- A field that is there and readable is what is read, whatever the default. -/
theorem read_of_get? {α : Type} {fields : Fields} {v : Json} {a : α} {as : Json → Verdict α}
    (name : FieldName) (hv : fields.get? name.main = some v) (ha : as v = .accepted a)
    (default : α) : fields.read name default as = .accepted a := by
  simp only [Fields.read, FieldName.find?, hv, ha, Verdict.under]

theorem asNumber_float (x : Float) : (Json.float x).asNumber = .accepted x :=
  Json.asNumber_eq_accepted.mpr (.float x)

theorem asText_string (t : Text) : (Json.string t).asText = .accepted t := rfl

theorem asInteger_int (n : Int) : (Json.int n).asInteger = .accepted n := rfl

/-- What may be missing is written as null if it is. -/
theorem asText?_ofText? (t : Option Text) : (Json.ofText? t).asText? = .accepted t :=
  Json.asText?_eq_accepted.mpr rfl

/-- Names of choices are distinct. -/
theorem asChoice_fillStyle (s : FillStyle) :
    (Json.ofString s.name).asChoice FillStyle.all FillStyle.name = .accepted s :=
  Json.asChoice_eq_accepted.mpr ⟨rfl, by cases s <;> rfl⟩

theorem asChoice_strokeStyle (s : StrokeStyle) :
    (Json.ofString s.name).asChoice StrokeStyle.all StrokeStyle.name = .accepted s :=
  Json.asChoice_eq_accepted.mpr ⟨rfl, by cases s <;> rfl⟩

theorem asChoice_textAlign (a : TextAlign) :
    (Json.ofString a.name).asChoice TextAlign.all TextAlign.name = .accepted a :=
  Json.asChoice_eq_accepted.mpr ⟨rfl, by cases a <;> rfl⟩

/-- Paths are read back point by point. -/
theorem asPath?_pathOrNull (points : Option Path) :
    (pathOrNull points).asPath? = .accepted points := by
  rw [Json.asPath?_eq_accepted]
  cases points with
  | none => exact .inl ⟨rfl, rfl⟩
  | some p =>
    refine .inr ⟨p, rfl, p.toList.map Point.toJson, rfl, ?_⟩
    rw [List.forall₂_map_left_iff, List.forall₂_same]
    exact fun q _ => ⟨.float q.x, .float q.y, rfl, .float q.x, .float q.y⟩

section
variable {fields : Fields}

/-- An opacity that is a percentage. -/
def Attributes.IsSound (a : Attributes) : Prop := 0 ≤ a.opacity ∧ a.opacity ≤ 100

/-- Parts of a shape are read back from any record that holds what they are written as. -/
theorem Attributes.ofFields_of_holds {a : Attributes} (h : fields.Holds a.fields)
    (ha : a.IsSound) (d : Attributes) : Attributes.ofFields fields d = .accepted a := by
  have hpercentage : (Json.float a.opacity).asPercentage = .accepted a.opacity :=
    Json.asPercentage_eq_accepted.mpr ⟨.float a.opacity, ha.1, ha.2⟩
  simp only [Fields.Holds, Attributes.fields, List.forall_mem_cons] at h
  obtain ⟨hid, hx, hy, hwidth, hheight, hstroke, hbackground, hfill, hstrokeWidth, hstrokeStyle,
    hroughness, hopacity, hgroup, -⟩ := h
  rw [ofFields, read_of_get? (.same "id") hid (asText?_ofText? _),
    read_of_get? (.same "x") hx (asNumber_float _),
    read_of_get? (.same "y") hy (asNumber_float _),
    read_of_get? (.same "width") hwidth (asNumber_float _),
    read_of_get? (.same "height") hheight (asNumber_float _),
    read_of_get? ⟨"strokeColor", "stroke_color"⟩ hstroke (asText_string _),
    read_of_get? ⟨"backgroundColor", "background_color"⟩ hbackground (asText_string _),
    read_of_get? ⟨"fillStyle", "fill_style"⟩ hfill (asChoice_fillStyle _),
    read_of_get? ⟨"strokeWidth", "stroke_width"⟩ hstrokeWidth (asNumber_float _),
    read_of_get? ⟨"strokeStyle", "stroke_style"⟩ hstrokeStyle (asChoice_strokeStyle _),
    read_of_get? (.same "roughness") hroughness (asNumber_float _),
    read_of_get? (.same "opacity") hopacity hpercentage,
    read_of_get? ⟨"groupId", "group_id"⟩ hgroup (asText?_ofText? _)]
  rfl

theorem Caption.ofFields_of_holds {c : Caption} (h : fields.Holds c.fields) (d : Caption) :
    Caption.ofFields fields d = .accepted c := by
  simp only [Fields.Holds, Caption.fields, List.forall_mem_cons] at h
  obtain ⟨hlabel, hsize, hfamily, -⟩ := h
  rw [ofFields, read_of_get? (.same "label") hlabel (asText?_ofText? _),
    read_of_get? ⟨"fontSize", "font_size"⟩ hsize (asNumber_float _),
    read_of_get? ⟨"fontFamily", "font_family"⟩ hfamily (asInteger_int _)]
  rfl

theorem TextContent.ofFields_of_holds {t : TextContent} (h : fields.Holds t.fields)
    (d : TextContent) : TextContent.ofFields fields d = .accepted t := by
  simp only [Fields.Holds, TextContent.fields, List.forall_mem_cons] at h
  obtain ⟨htext, hlabel, hsize, hfamily, halign, -⟩ := h
  rw [ofFields, read_of_get? (.same "text") htext (asText?_ofText? _),
    read_of_get? (.same "label") hlabel (asText?_ofText? _),
    read_of_get? ⟨"fontSize", "font_size"⟩ hsize (asNumber_float _),
    read_of_get? ⟨"fontFamily", "font_family"⟩ hfamily (asInteger_int _),
    read_of_get? ⟨"textAlign", "text_align"⟩ halign (asChoice_textAlign _)]
  rfl

theorem read_points_of_get? {points : Option Path}
    (h : fields.get? "points" = some (pathOrNull points)) (default : Option Path) :
    fields.read (.same "points") default Json.asPath? = .accepted points :=
  read_of_get? (.same "points") h (asPath?_pathOrNull _) default

theorem Connector.ofFields_of_holds {c : Connector} (h : fields.Holds c.fields) (d : Connector) :
    Connector.ofFields fields d = .accepted c := by
  simp only [Fields.Holds, Connector.fields, List.forall_mem_cons] at h
  obtain ⟨hpoints, hstart, hend, hstartHead, hendHead, -⟩ := h
  rw [ofFields, read_points_of_get? hpoints,
    read_of_get? ⟨"startBinding", "start_binding"⟩ hstart (asText?_ofText? _),
    read_of_get? ⟨"endBinding", "end_binding"⟩ hend (asText?_ofText? _),
    read_of_get? ⟨"startArrowhead", "start_arrowhead"⟩ hstartHead (asText?_ofText? _),
    read_of_get? ⟨"endArrowhead", "end_arrowhead"⟩ hendHead (asText?_ofText? _)]
  rfl

end

namespace Shape

/-- What a shape of its kind has beside the attributes of all shapes. -/
def ownFields : Shape → List (String × Json)
  | container _ _ caption => caption.fields
  | text _ content => content.fields
  | arrow _ caption connector => caption.fields ++ connector.fields
  | line _ points => [("points", pathOrNull points)]

/-- All that is written of a shape. -/
def written (s : Shape) : List (String × Json) :=
  ("type", .ofString s.kind.name) :: s.attributes.fields ++ s.ownFields

theorem toJson_eq (s : Shape) : s.toJson = .record s.written := by
  cases s <;> rfl

/-- Each field of its kind is written once, under its main name, in the order of declaration. -/
theorem names_written (s : Shape) :
    s.written.map (·.1) = "type" :: s.kind.rules.map (·.name.main) := by
  cases s <;> rfl

/-- No two fields of a shape are written under one name. -/
theorem nodup_names_written (s : Shape) : (s.written.map (·.1)).Nodup := by
  rw [names_written]
  exact s.kind.nodup_names

/-- A shape is written with the name of its kind. -/
theorem isOfKind_toJson (s : Shape) :
    s.toJson.IsOfKind s.kind (s.written.map fun f => (Text.ofString f.1, f.2)) := by
  have htype : ("type", Json.ofString s.kind.name) ∈ s.written := List.mem_cons_self
  exact ⟨s.toJson_eq, (holds_record s.nodup_names_written).get? htype⟩

/-- A shape whose opacity is a percentage is read from what is written of it. -/
theorem ofFields_of_holds {s : Shape} {fields : Fields} (h : fields.Holds s.written)
    (hs : s.attributes.IsSound) : ofFields s.kind fields = .accepted s := by
  have hattributes : fields.Holds s.attributes.fields := fun f hf =>
    h f (List.mem_append_left _ (List.mem_cons_of_mem _ hf))
  have hown : fields.Holds s.ownFields := fun f hf => h f (List.mem_append_right _ hf)
  have hread := Attributes.ofFields_of_holds hattributes hs
  cases s with
  | container k a caption =>
    simp only [kind, ofFields, attributes] at hread ⊢
    rw [hread, Caption.ofFields_of_holds hown]
    rfl
  | text a content =>
    simp only [kind, ofFields, attributes] at hread ⊢
    rw [hread, TextContent.ofFields_of_holds hown]
    rfl
  | arrow a caption connector =>
    have hcaption : fields.Holds caption.fields := fun f hf => hown f (List.mem_append_left _ hf)
    have hconnector : fields.Holds connector.fields := fun f hf =>
      hown f (List.mem_append_right _ hf)
    simp only [kind, ofFields, attributes] at hread ⊢
    rw [hread, Caption.ofFields_of_holds hcaption, Connector.ofFields_of_holds hconnector]
    rfl
  | line a points =>
    have hpoints : ("points", pathOrNull points) ∈ (line a points).ownFields := List.mem_cons_self
    simp only [kind, ofFields, attributes] at hread ⊢
    rw [hread, read_points_of_get? (hown.get? hpoints)]
    rfl

theorem ofDescriptor?_toJson_of_isSound {s : Shape} (hs : s.attributes.IsSound) (index : Int) :
    ofDescriptor? index s.toJson = .ok (some s) := by
  have hkind := Json.describedKind?_eq_some_iff.mpr s.isOfKind_toJson
  have hread := ofFields_of_holds (holds_record s.nodup_names_written) hs
  exact ofDescriptor?_eq_some_iff.mpr ⟨_, hkind, hread⟩

end Shape

/-- The defaults keep to the rules for what is given. -/
theorem isSound_default : Attributes.IsSound {} := by
  constructor <;> decide +kernel

theorem isSound_level : Attributes.level.IsSound := isSound_default

/-- A percentage that is read is one, by default or as it is given. -/
theorem read_asPercentage {fields : Fields} {name : FieldName} {default x : Float}
    (hdefault : 0 ≤ default ∧ default ≤ 100)
    (h : fields.read name default Json.asPercentage = .accepted x) : 0 ≤ x ∧ x ≤ 100 := by
  unfold Fields.read at h
  split at h
  · cases h
    exact hdefault
  · rw [Verdict.under_eq_accepted, Json.asPercentage_eq_accepted] at h
    exact h.2

/-- The opacity of a shape that is read is a percentage, whether it is given or not. -/
theorem Attributes.isSound_of_ofFields {fields : Fields} {d a : Attributes} (hd : d.IsSound)
    (h : Attributes.ofFields fields d = .accepted a) : a.IsSound :=
  read_asPercentage hd (readFrom_of_ofFields h).opacity

/-- What has been read is sound, so it can be written and read again. -/
theorem Shape.isSound_of_ofFields {kind : ShapeKind} {fields : Fields} {s : Shape}
    (h : Shape.ofFields kind fields = .accepted s) : s.attributes.IsSound := by
  cases kind with
  | container k =>
    simp only [Shape.ofFields, Verdict.map_eq, Verdict.seq_eq, Verdict.ap_eq_accepted,
      Verdict.map_eq_accepted] at h
    obtain ⟨_, caption, ⟨a, ha, rfl⟩, -, rfl⟩ := h
    exact Attributes.isSound_of_ofFields isSound_default ha
  | text =>
    simp only [Shape.ofFields, Verdict.map_eq, Verdict.seq_eq, Verdict.ap_eq_accepted,
      Verdict.map_eq_accepted] at h
    obtain ⟨_, content, ⟨a, ha, rfl⟩, -, rfl⟩ := h
    exact Attributes.isSound_of_ofFields isSound_default ha
  | arrow =>
    simp only [Shape.ofFields, Verdict.map_eq, Verdict.seq_eq, Verdict.ap_eq_accepted,
      Verdict.map_eq_accepted] at h
    obtain ⟨_, connector, ⟨_, caption, ⟨a, ha, rfl⟩, -, rfl⟩, -, rfl⟩ := h
    exact Attributes.isSound_of_ofFields isSound_level ha
  | line =>
    simp only [Shape.ofFields, Verdict.map_eq, Verdict.seq_eq, Verdict.ap_eq_accepted,
      Verdict.map_eq_accepted] at h
    obtain ⟨_, points, ⟨a, ha, rfl⟩, -, rfl⟩ := h
    exact Attributes.isSound_of_ofFields isSound_level ha

theorem Shape.isSound_of_ofDescriptor? {index : Int} {raw : Json} {s : Shape}
    (h : Shape.ofDescriptor? index raw = .ok (some s)) : s.attributes.IsSound := by
  obtain ⟨d, -, hread⟩ := Shape.ofDescriptor?_eq_some_iff.mp h
  exact Shape.isSound_of_ofFields hread

/-- The descriptors of shapes whose opacities are percentages are read as these shapes. -/
theorem ofDescriptors_map_toJson {shapes : List Shape} (h : ∀ s ∈ shapes, s.attributes.IsSound)
    (index : Nat) : Shape.ofDescriptors index (shapes.map Shape.toJson) = .ok shapes := by
  induction shapes generalizing index with
  | nil => rfl
  | cons s shapes ih =>
    obtain ⟨hs, hrest⟩ := List.forall_mem_cons.mp h
    have hread := Shape.ofDescriptor?_toJson_of_isSound hs index
    rw [List.map_cons, Shape.ofDescriptors, hread, ih hrest]
    rfl

/-- A batch of sound shapes comes to the same, written or not. -/
theorem compileDescriptors_map_toJson {shapes : List Shape}
    (h : ∀ s ∈ shapes, s.attributes.IsSound) (ids : IdSupply) :
    compileDescriptors (shapes.map Shape.toJson) ids = .ok (compileShapes shapes ids) := by
  rw [compileDescriptors, ofDescriptors_map_toJson h]
  rfl

theorem isSound_of_mem_ofDescriptors {index : Nat} {raws : List Json} {shapes : List Shape}
    (h : Shape.ofDescriptors index raws = .ok shapes) : ∀ s ∈ shapes, s.attributes.IsSound := by
  intro s hs
  obtain ⟨k, hk, rfl⟩ := List.getElem_of_mem hs
  have hall := Shape.ofDescriptors_eq_ok_iff.mp h
  exact Shape.isSound_of_ofFields (hall.get (hall.length_eq ▸ hk) hk)

namespace Flowchart

/-- The boxes of a chart keep to the defaults, but for places and sizes. -/
theorem isSound_of_isBox {c : Flowchart} {n : Node} {s : Shape} (h : c.IsBox n s) :
    s.attributes.IsSound := by
  obtain ⟨p, -, hs⟩ := h
  unfold nodeShape at hs
  split at hs
  · cases hs
  · cases hs
    exact isSound_default

theorem isSound_of_isArrow {c : Flowchart} {e : Edge} {s : Shape} (h : c.IsArrow e s) :
    s.attributes.IsSound := by
  obtain ⟨p, q, -, -, rfl⟩ := h
  exact isSound_default

/-- So the shapes of a chart would pass as descriptors. -/
theorem isSound_of_toShapes {c : Flowchart} (h : c.WellFormed) :
    ∃ shapes, c.toShapes = .ok shapes ∧ ∀ s ∈ shapes, s.attributes.IsSound := by
  obtain ⟨boxes, arrows, hshapes, hboxes, harrows⟩ := toShapes_of_wellFormed h
  refine ⟨boxes ++ arrows, hshapes, fun s hs => ?_⟩
  rcases List.mem_append.mp hs with hs | hs
  · obtain ⟨k, hk, rfl⟩ := List.getElem_of_mem hs
    exact isSound_of_isBox (hboxes.get (hboxes.length_eq ▸ hk) hk)
  · obtain ⟨k, hk, rfl⟩ := List.getElem_of_mem hs
    exact isSound_of_isArrow (harrows.get (harrows.length_eq ▸ hk) hk)

end Flowchart

/-- A shape that is read is written out with each field of its kind once, and read back as it is,
wherever it stands. So the descriptors written for the shapes of a batch, or for those of a diagram,
are compiled to the same elements with the same ids. -/
theorem ofDescriptor?_toJson :
    (∀ index raw s, Shape.ofDescriptor? index raw = .ok (some s) →
      (∃ values, s.toJson = .record values ∧
        values.map (·.1) = "type" :: s.kind.rules.map (·.name.main)) ∧
      ∀ other, Shape.ofDescriptor? other s.toJson = .ok (some s)) ∧
    (∀ raws shapes, Shape.ofDescriptors 0 raws = .ok shapes → ∀ ids,
      compileDescriptors raws ids = .ok (compileShapes shapes ids) ∧
        compileDescriptors (shapes.map Shape.toJson) ids = compileDescriptors raws ids) ∧
    ∀ definition, ∃ shapes, (Flowchart.ofText definition).toShapes = .ok shapes ∧ ∀ ids,
      Flowchart.compile definition ids = .ok (compileShapes shapes ids) ∧
        compileDescriptors (shapes.map Shape.toJson) ids = .ok (compileShapes shapes ids) := by
  refine ⟨fun index raw s h => ⟨⟨s.written, s.toJson_eq, s.names_written⟩, fun other => ?_⟩,
    fun raws shapes h ids => ?_, fun definition => ?_⟩
  · exact Shape.ofDescriptor?_toJson_of_isSound (Shape.isSound_of_ofDescriptor? h) other
  · have hraws : compileDescriptors raws ids = .ok (compileShapes shapes ids) := by
      rw [compileDescriptors, h]
      rfl
    exact ⟨hraws, (compileDescriptors_map_toJson (isSound_of_mem_ofDescriptors h) ids).trans
      hraws.symm⟩
  · obtain ⟨shapes, hshapes, hsound⟩ :=
      Flowchart.isSound_of_toShapes (ofText_wellFormed definition)
    refine ⟨shapes, hshapes, fun ids => ⟨?_, compileDescriptors_map_toJson hsound ids⟩⟩
    rw [Flowchart.compile, hshapes]
    rfl

/-- An arrow whose fields have other spellings, and values that are not of their types. -/
def coercedArrow : Json :=
  .record [("font_family", .ofString "007"), ("opacity", .ofString " 50 "), ("x", .bool true),
    ("stroke_width", .int 3), ("end_arrowhead", .null), ("type", .ofString "arrow"),
    ("points", .array [.array [.int 0, .ofString "1.5"], .array [.bool false, .int 2]])]

/-- What is read from it. -/
def readArrow : Shape :=
  .arrow { Attributes.level with x := 1, strokeWidth := 3, opacity := 50 } { fontFamily := 7 }
    { points := some ⟨⟨0, 1.5⟩, ⟨0, 2⟩, []⟩, endArrowhead := none }

theorem ofDescriptor?_toJson_coerced :
    Shape.ofDescriptor? 0 coercedArrow = .ok (some readArrow) ∧ readArrow.toJson ≠ coercedArrow ∧
    Shape.ofDescriptor? 7 readArrow.toJson = .ok (some readArrow) ∧
    compileDescriptors [.null, coercedArrow] .numbered = .ok (compileShapes [readArrow] .numbered) ∧
    compileDescriptors [readArrow.toJson] .numbered =
      compileDescriptors [.null, coercedArrow] .numbered := by
  have hread : Shape.ofDescriptor? 0 coercedArrow = .ok (some readArrow) := by decide +kernel
  have hbatch : Shape.ofDescriptors 0 [.null, coercedArrow] = .ok [readArrow] := by
    obtain ⟨d, hd, hfields⟩ := Shape.ofDescriptor?_eq_some_iff.mp hread
    rw [Shape.ofDescriptors_eq_ok_iff, List.filterMap_cons_none rfl, List.filterMap_cons_some hd]
    exact .cons hfields .nil
  have hother : ∀ s : Shape, s.toJson ≠ coercedArrow := by
    intro s hs
    have hof := s.isOfKind_toJson.object
    rw [hs] at hof
    have hfirst := congrArg (·.head?) (Json.object.inj hof)
    simp [Shape.written, Text.ofString_injective.eq_iff] at hfirst
  obtain ⟨hone, hmany, -⟩ := ofDescriptor?_toJson
  obtain ⟨hshapes, hwritten⟩ := hmany _ _ hbatch .numbered
  exact ⟨hread, hother _, (hone 0 coercedArrow readArrow hread).2 7, hshapes, hwritten⟩

end Easel
