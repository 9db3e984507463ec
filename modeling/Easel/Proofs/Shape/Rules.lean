import Easel.Proofs.Shape.Values

/-! What is asked of a descriptor, field by field. Its problems are those of its fields, in the
order in which the fields of its kind are declared, and it is accepted if there are none. What is
read from it is decided by the values of these fields. -/
namespace Easel

/-- What a field may hold. -/
inductive FieldSort where
  | text
  | optionalText
  | number
  | percentage
  | integer
  | choice (names : List String)
  | optionalPath
  deriving DecidableEq

namespace FieldSort

/-- What is wrong with a value. -/
def problems : FieldSort → Json → List Problem
  | text, v => v.asText.problems
  | optionalText, v => v.asText?.problems
  | number, v => v.asNumber.problems
  | percentage, v => v.asPercentage.problems
  | integer, v => v.asInteger.problems
  | choice names, v => (v.asChoice names id).problems
  | optionalPath, v => v.asPath?.problems

/-- Whether a value is one that such a field may hold. -/
def Admits : FieldSort → Json → Prop
  | text, v => ∃ t, v = .string t
  | optionalText, v => v = .null ∨ ∃ t, v = .string t
  | number, v => ∃ x, v.IsNumber x
  | percentage, v => ∃ x, v.IsNumber x ∧ 0 ≤ x ∧ x ≤ 100
  | integer, v => ∃ n, v.IsInteger n
  | choice names, v => ∃ name ∈ names, v = .ofString name
  | optionalPath, v => v = .null ∨ ∃ p, v.IsPath p

/-- A rule finds no fault with a value exactly if the value is of its sort. -/
theorem problems_eq_nil_iff (sort : FieldSort) (v : Json) :
    sort.problems v = [] ↔ sort.Admits v := by
  cases sort with
  | text =>
    rw [problems, (Json.grounded_asText v).problems_eq_nil_iff]
    simp only [Json.asText_eq_accepted, Admits]
  | optionalText =>
    rw [problems, (Json.grounded_asText? v).problems_eq_nil_iff]
    simp only [Json.asText?_eq_accepted, Option.exists, Json.ofText?, Admits]
  | number =>
    rw [problems, (Json.grounded_asNumber v).problems_eq_nil_iff]
    simp only [Json.asNumber_eq_accepted, Admits]
  | percentage =>
    rw [problems, (Json.grounded_asPercentage v).problems_eq_nil_iff]
    simp only [Json.asPercentage_eq_accepted, Admits]
  | integer =>
    rw [problems, (Json.grounded_asInteger v).problems_eq_nil_iff]
    simp only [Json.asInteger_eq_accepted, Admits]
  | choice names =>
    rw [problems, (Json.grounded_asChoice names id v).problems_eq_nil_iff]
    simp only [Json.asChoice_eq_accepted, Admits, id_eq]
    constructor
    · rintro ⟨name, hv, hfind⟩
      exact ⟨name, List.mem_of_find?_eq_some hfind, hv⟩
    · rintro ⟨name, hmem, hv⟩
      refine ⟨name, hv, ?_⟩
      cases hfind : names.find? fun b => decide (b = name) with
      | none => simpa using List.find?_eq_none.mp hfind name hmem
      | some b => simpa using List.find?_some hfind
  | optionalPath =>
    rw [problems, (Json.grounded_asPath? v).problems_eq_nil_iff]
    simp only [Json.asPath?_eq_accepted, Option.exists, Admits]
    simp

end FieldSort

/-- A field of a kind of shapes. -/
structure FieldRule where
  name : FieldName
  sort : FieldSort

namespace FieldRule

/-- What is wrong with the field of a descriptor: nothing where it is absent. -/
def problems (r : FieldRule) (fields : Fields) : List Problem :=
  match r.name.find? fields with
  | none => []
  | some (key, v) => (r.sort.problems v).map (.under key)

/-- Whether a descriptor has the field, and has something else in it than it may hold. -/
def IsBroken (r : FieldRule) (fields : Fields) : Prop :=
  ∃ key v, r.name.find? fields = some (key, v) ∧ ¬ r.sort.Admits v

/-- A rule has something to say about exactly those fields that break it. -/
theorem problems_ne_nil_iff {r : FieldRule} {fields : Fields} :
    r.problems fields ≠ [] ↔ r.IsBroken fields := by
  unfold problems IsBroken
  split
  · simp_all
  · rename_i key v hfind
    simp [hfind, FieldSort.problems_eq_nil_iff]

end FieldRule

/-- The fields that all shapes have. -/
def Attributes.rules : List FieldRule :=
  [⟨.same "id", .optionalText⟩, ⟨.same "x", .number⟩, ⟨.same "y", .number⟩,
   ⟨.same "width", .number⟩, ⟨.same "height", .number⟩, ⟨⟨"strokeColor", "stroke_color"⟩, .text⟩,
   ⟨⟨"backgroundColor", "background_color"⟩, .text⟩,
   ⟨⟨"fillStyle", "fill_style"⟩, .choice (FillStyle.all.map FillStyle.name)⟩,
   ⟨⟨"strokeWidth", "stroke_width"⟩, .number⟩,
   ⟨⟨"strokeStyle", "stroke_style"⟩, .choice (StrokeStyle.all.map StrokeStyle.name)⟩,
   ⟨.same "roughness", .number⟩, ⟨.same "opacity", .percentage⟩,
   ⟨⟨"groupId", "group_id"⟩, .optionalText⟩]

def Caption.rules : List FieldRule :=
  [⟨.same "label", .optionalText⟩, ⟨⟨"fontSize", "font_size"⟩, .number⟩,
   ⟨⟨"fontFamily", "font_family"⟩, .integer⟩]

def TextContent.rules : List FieldRule :=
  [⟨.same "text", .optionalText⟩, ⟨.same "label", .optionalText⟩,
   ⟨⟨"fontSize", "font_size"⟩, .number⟩, ⟨⟨"fontFamily", "font_family"⟩, .integer⟩,
   ⟨⟨"textAlign", "text_align"⟩, .choice (TextAlign.all.map TextAlign.name)⟩]

def Connector.rules : List FieldRule :=
  [⟨.same "points", .optionalPath⟩, ⟨⟨"startBinding", "start_binding"⟩, .optionalText⟩,
   ⟨⟨"endBinding", "end_binding"⟩, .optionalText⟩,
   ⟨⟨"startArrowhead", "start_arrowhead"⟩, .optionalText⟩,
   ⟨⟨"endArrowhead", "end_arrowhead"⟩, .optionalText⟩]

/-- The fields of shapes of a kind in the order of their declaration, those of all shapes first. -/
def ShapeKind.rules : ShapeKind → List FieldRule
  | container _ => Attributes.rules ++ Caption.rules
  | text => Attributes.rules ++ TextContent.rules
  | arrow => Attributes.rules ++ Caption.rules ++ Connector.rules
  | line => Attributes.rules ++ [⟨.same "points", .optionalPath⟩]

/-- No name of a field is used twice in a kind, nor for its type. -/
theorem ShapeKind.nodup_names (kind : ShapeKind) :
    ("type" :: kind.rules.map (·.name.main)).Nodup := by
  cases kind with
  | container k => cases k <;> decide +kernel
  | text | arrow | line => decide +kernel

/-- The value of a field, under whichever of its spellings it is looked up. -/
def FieldName.value? (name : FieldName) (fields : Fields) : Option Json :=
  (fields.get? name.main).or (fields.get? name.other)

theorem FieldName.value?_eq (name : FieldName) (fields : Fields) :
    name.value? fields = (name.find? fields).map (·.2) := by
  unfold value? find?
  cases fields.get? name.main with
  | none => simp [Function.comp_def]
  | some v => rfl

/-- Two objects whose fields have the same values. -/
def Fields.AgreeOn (rules : List FieldRule) (fields fields' : Fields) : Prop :=
  ∀ r ∈ rules, r.name.value? fields = r.name.value? fields'

/-- A way to read objects that follows some rules. It is as good as what is wrong with the fields,
and what it accepts is the same for objects whose fields have the same values. -/
structure Follows {α : Type} (reading : Fields → Verdict α) (rules : List FieldRule) : Prop where
  grounded : ∀ fields, (reading fields).Grounded
  problems_eq : ∀ fields, (reading fields).problems = rules.flatMap (·.problems fields)
  heeds : ∀ fields fields' a, Fields.AgreeOn rules fields fields' → reading fields = .accepted a →
    reading fields' = .accepted a

section
variable {α β : Type} {rules more : List FieldRule}

theorem Follows.map {reading : Fields → Verdict α} (f : α → β) (h : Follows reading rules) :
    Follows (fun fields => (reading fields).map f) rules where
  grounded fields := Verdict.grounded_map f (h.grounded fields)
  problems_eq fields := by rw [Verdict.problems_map, h.problems_eq]
  heeds fields fields' b hagree hb := by
    obtain ⟨a, ha, rfl⟩ := Verdict.map_eq_accepted.mp hb
    exact Verdict.map_eq_accepted.mpr ⟨a, h.heeds fields fields' a hagree ha, rfl⟩

/-- Readers of parts follow the rules of all parts, in their order. -/
theorem Follows.ap {first : Fields → Verdict (α → β)} {second : Fields → Verdict α}
    (hfirst : Follows first rules) (hsecond : Follows second more) :
    Follows (fun fields => (first fields).ap (second fields)) (rules ++ more) where
  grounded fields := Verdict.grounded_ap (hfirst.grounded fields) (hsecond.grounded fields)
  problems_eq fields := by
    rw [Verdict.problems_ap, hfirst.problems_eq, hsecond.problems_eq, List.flatMap_append]
  heeds fields fields' b hagree hb := by
    obtain ⟨hrules, hmore⟩ := List.forall_mem_append.mp hagree
    obtain ⟨f, a, hf, ha, rfl⟩ := Verdict.ap_eq_accepted.mp hb
    exact Verdict.ap_eq_accepted.mpr ⟨f, a, hfirst.heeds fields fields' f hrules hf,
      hsecond.heeds fields fields' a hmore ha, rfl⟩

/-- A field that is missing has its default; one that is there has to be readable. -/
theorem read_eq_accepted {fields : Fields} {name : FieldName} {default a : α}
    {as : Json → Verdict α} : fields.read name default as = .accepted a ↔
      (name.value? fields = none ∧ default = a) ∨
        ∃ v, name.value? fields = some v ∧ as v = .accepted a := by
  rw [Fields.read, FieldName.value?_eq]
  cases name.find? fields <;> simp [Verdict.under_eq_accepted]

/-- A reader of one field follows one rule: that the field, if it is there, is of its sort. -/
theorem follows_read {sort : FieldSort} {as : Json → Verdict α} (hgrounded : ∀ v, (as v).Grounded)
    (hproblems : ∀ v, (as v).problems = sort.problems v) (name : FieldName) (default : α) :
    Follows (fun fields => fields.read name default as) [⟨name, sort⟩] where
  grounded fields := by
    unfold Fields.read
    cases name.find? fields with
    | none => exact Verdict.grounded_accepted default
    | some found => exact Verdict.grounded_under found.1 (hgrounded found.2)
  problems_eq fields := by
    unfold Fields.read
    cases hfind : name.find? fields with
    | none => simp [FieldRule.problems, hfind, Verdict.problems]
    | some found => simp [FieldRule.problems, hfind, Verdict.problems_under, hproblems]
  heeds fields fields' a hagree ha := by
    have hvalue := hagree _ List.mem_cons_self
    rw [read_eq_accepted] at ha ⊢
    rwa [← hvalue]

theorem follows_asText (name : FieldName) (default : Text) :
    Follows (fun fields => fields.read name default Json.asText) [⟨name, .text⟩] :=
  follows_read Json.grounded_asText (fun _ => rfl) name default

theorem follows_asText? (name : FieldName) (default : Option Text) :
    Follows (fun fields => fields.read name default Json.asText?) [⟨name, .optionalText⟩] :=
  follows_read Json.grounded_asText? (fun _ => rfl) name default

theorem follows_asNumber (name : FieldName) (default : Float) :
    Follows (fun fields => fields.read name default Json.asNumber) [⟨name, .number⟩] :=
  follows_read Json.grounded_asNumber (fun _ => rfl) name default

theorem follows_asPercentage (name : FieldName) (default : Float) :
    Follows (fun fields => fields.read name default Json.asPercentage) [⟨name, .percentage⟩] :=
  follows_read Json.grounded_asPercentage (fun _ => rfl) name default

theorem follows_asInteger (name : FieldName) (default : Int) :
    Follows (fun fields => fields.read name default Json.asInteger) [⟨name, .integer⟩] :=
  follows_read Json.grounded_asInteger (fun _ => rfl) name default

theorem follows_asChoice (all : List α) (choiceName : α → String) (name : FieldName)
    (default : α) :
    Follows (fun fields => fields.read name default (Json.asChoice all choiceName))
      [⟨name, .choice (all.map choiceName)⟩] :=
  have hproblems : ∀ v, (Json.asChoice all choiceName v).problems =
      (FieldSort.choice (all.map choiceName)).problems v :=
    Json.problems_asChoice all choiceName
  follows_read (Json.grounded_asChoice all choiceName) hproblems name default

theorem follows_asPath? (name : FieldName) (default : Option Path) :
    Follows (fun fields => fields.read name default Json.asPath?) [⟨name, .optionalPath⟩] :=
  follows_read Json.grounded_asPath? (fun _ => rfl) name default

end

/-- What all shapes have in common is read by the rules for it. -/
theorem Attributes.follows_ofFields (d : Attributes) :
    Follows (fun fields => Attributes.ofFields fields d) Attributes.rules :=
  (((((((((((((follows_asText? _ _).map _).ap (follows_asNumber _ _)).ap
    (follows_asNumber _ _)).ap (follows_asNumber _ _)).ap (follows_asNumber _ _)).ap
    (follows_asText _ _)).ap (follows_asText _ _)).ap (follows_asChoice _ _ _ _)).ap
    (follows_asNumber _ _)).ap (follows_asChoice _ _ _ _)).ap (follows_asNumber _ _)).ap
    (follows_asPercentage _ _)).ap (follows_asText? _ _)

theorem Caption.follows_ofFields (d : Caption) :
    Follows (fun fields => Caption.ofFields fields d) Caption.rules :=
  (((follows_asText? _ _).map _).ap (follows_asNumber _ _)).ap (follows_asInteger _ _)

theorem TextContent.follows_ofFields (d : TextContent) :
    Follows (fun fields => TextContent.ofFields fields d) TextContent.rules :=
  (((((follows_asText? _ _).map _).ap (follows_asText? _ _)).ap (follows_asNumber _ _)).ap
    (follows_asInteger _ _)).ap (follows_asChoice _ _ _ _)

theorem Connector.follows_ofFields (d : Connector) :
    Follows (fun fields => Connector.ofFields fields d) Connector.rules :=
  (((((follows_asPath? _ _).map _).ap (follows_asText? _ _)).ap (follows_asText? _ _)).ap
    (follows_asText? _ _)).ap (follows_asText? _ _)

/-- Each kind of shape is read by its own rules, whatever the descriptor. -/
theorem Shape.follows_ofFields (kind : ShapeKind) : Follows (Shape.ofFields kind) kind.rules := by
  cases kind with
  | container k =>
    exact ((Attributes.follows_ofFields _).map _).ap (Caption.follows_ofFields _)
  | text => exact ((Attributes.follows_ofFields _).map _).ap (TextContent.follows_ofFields _)
  | arrow =>
    exact (((Attributes.follows_ofFields _).map _).ap (Caption.follows_ofFields _)).ap
      (Connector.follows_ofFields _)
  | line => exact ((Attributes.follows_ofFields _).map _).ap (follows_asPath? _ _)

deriving instance DecidableEq for Point, Path, Attributes, Caption, TextContent, Connector, Shape

end Easel
