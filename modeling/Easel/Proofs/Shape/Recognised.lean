import Easel.Proofs.Element.Rejection
import Mathlib.Data.List.Find

/-! Only the fields of its kind matter in a descriptor. Two descriptors of a kind whose fields have
the same values are read as the same shape, or rejected with the same problems. -/
namespace Easel

/-- One problem of a value that two objects have in the same field, found under the spelling which
the field has in either of them. -/
def ShapeKind.Respells (kind : ShapeKind) (fields fields' : Fields) (p q : Problem) : Prop :=
  ∃ r ∈ kind.rules, ∃ key key' v, r.name.find? fields = some (key, v) ∧
    r.name.find? fields' = some (key', v) ∧
    ∃ cause ∈ r.sort.problems v, p = cause.under key ∧ q = cause.under key'

theorem Fields.AgreeOn.symm {rules : List FieldRule} {fields fields' : Fields}
    (h : Fields.AgreeOn rules fields fields') : Fields.AgreeOn rules fields' fields :=
  fun r hr => (h r hr).symm

/-- A rule finds the same faults with a value under each of its names. -/
theorem FieldRule.forall₂_problems {kind : ShapeKind} {fields fields' : Fields} {r : FieldRule}
    (hr : r ∈ kind.rules) (hvalue : r.name.value? fields = r.name.value? fields') :
    List.Forall₂ (kind.Respells fields fields') (r.problems fields) (r.problems fields') := by
  rw [FieldName.value?_eq, FieldName.value?_eq] at hvalue
  unfold problems
  cases hfind : r.name.find? fields with
  | none =>
    rw [hfind, Option.map_none, eq_comm, Option.map_eq_none_iff] at hvalue
    rw [hvalue]
    exact .nil
  | some found =>
    obtain ⟨key, v⟩ := found
    rw [hfind, Option.map_some, eq_comm, Option.map_eq_some_iff] at hvalue
    obtain ⟨⟨key', _⟩, hfind', rfl⟩ := hvalue
    rw [hfind']
    rw [List.forall₂_map_left_iff, List.forall₂_map_right_iff, List.forall₂_same]
    exact fun cause hcause => ⟨r, hr, key, key', _, hfind, hfind', cause, hcause, rfl, rfl⟩

/-- So do all rules of a kind, in their order. -/
theorem ShapeKind.forall₂_problems {kind : ShapeKind} {fields fields' : Fields}
    (h : Fields.AgreeOn kind.rules fields fields') :
    List.Forall₂ (kind.Respells fields fields') (kind.problems fields)
      (kind.problems fields') := by
  have hrules : List.Forall₂ (fun r r' => r = r' ∧ r ∈ kind.rules) kind.rules kind.rules :=
    List.forall₂_same.mpr fun r hr => ⟨rfl, hr⟩
  refine List.rel_flatMap hrules ?_
  rintro r _ ⟨rfl, hr⟩
  exact FieldRule.forall₂_problems hr (h r hr)

/-- Where both objects have their fields under the same spellings, the problems are equal. -/
theorem ShapeKind.Respells.eq {kind : ShapeKind} {fields fields' : Fields} {p q : Problem}
    (h : kind.Respells fields fields' p q)
    (hsame : ∀ r ∈ kind.rules, r.name.find? fields' = r.name.find? fields) : p = q := by
  obtain ⟨r, hr, key, key', v, hfind, hfind', cause, -, rfl, rfl⟩ := h
  rw [hsame r hr, hfind] at hfind'
  obtain ⟨rfl, -⟩ := Prod.mk.inj (Option.some.inj hfind')
  rfl

/-- A key that matters in a descriptor of a kind: that of the type, the main name of a field, or
the other name of a field whose main name is absent. -/
def ShapeKind.Heeds (kind : ShapeKind) (fields : Fields) (key : String) : Prop :=
  key = "type" ∨ ∃ r ∈ kind.rules,
    key = r.name.main ∨ key = r.name.other ∧ fields.get? r.name.main = none

namespace Fields

/-- Where no key is there twice, the order of the keys does not matter. -/
theorem get?_perm {fields fields' : Fields} (hperm : fields'.Perm fields)
    (hnodup : (fields.map (·.1)).Nodup) (key : String) : get? fields' key = get? fields key := by
  have hunique : {f ∈ fields | decide (f.1 = Text.ofString key) = true}.Subsingleton := by
    rintro f ⟨hf, hkey⟩ g ⟨hg, hkey'⟩
    have heq : f.1 = g.1 := (of_decide_eq_true hkey).trans (of_decide_eq_true hkey').symm
    exact List.inj_on_of_nodup_map hnodup hf hg heq
  rw [get?, get?, List.find?_eq_find?_of_perm hperm.symm hunique]

/-- Keys that no rule is about can be dropped. -/
theorem get?_filter {kept : Text → Bool} {key : String} (hkey : kept (.ofString key) = true)
    (fields : Fields) : get? (fields.filter fun f => kept f.1) key = get? fields key := by
  rw [get?, get?, List.find?_filter]
  congr 2
  funext f
  by_cases hf : f.1 = Text.ofString key <;> simp [hf, hkey]

end Fields

/-- What is found depends on the main name, and on the other one if the main one is missing. -/
theorem FieldName.find?_congr {name : FieldName} {fields fields' : Fields}
    (hmain : fields'.get? name.main = fields.get? name.main)
    (hother : fields.get? name.main = none → fields'.get? name.other = fields.get? name.other) :
    name.find? fields' = name.find? fields := by
  unfold find?
  rw [hmain]
  cases h : fields.get? name.main with
  | none => rw [hother h]
  | some v => rfl

/-- Descriptors that agree on what the rules are about give the same shape, or the same problems
under the names that each of them uses. -/
theorem ofDescriptor?_of_agreeOn {kind : ShapeKind} {raw raw' : Json} {fields fields' : Fields}
    (h : raw.IsOfKind kind fields) (h' : raw'.IsOfKind kind fields')
    (hagree : Fields.AgreeOn kind.rules fields fields') (index : Int) :
    (∃ s, Shape.ofDescriptor? index raw = .ok (some s) ∧
      Shape.ofDescriptor? index raw' = .ok (some s)) ∨
    ∃ ps qs, Shape.ofDescriptor? index raw = .error ⟨kind, index, ps⟩ ∧
      Shape.ofDescriptor? index raw' = .error ⟨kind, index, qs⟩ ∧
      List.Forall₂ (kind.Respells fields fields') ps qs := by
  have hfollows := Shape.follows_ofFields kind
  rcases ofDescriptor?_of_isOfKind h index with ⟨s, hs, hread⟩ | ⟨hps, hread⟩
  · have hs' := hfollows.heeds fields fields' s hagree hs
    rcases ofDescriptor?_of_isOfKind h' index with ⟨t, ht, hread'⟩ | ⟨hqs, -⟩
    · obtain rfl := Verdict.accepted.inj (hs'.symm.trans ht)
      exact .inl ⟨s, hread, hread'⟩
    · cases hs'.symm.trans hqs
  · rcases ofDescriptor?_of_isOfKind h' index with ⟨t, ht, -⟩ | ⟨-, hread'⟩
    -- Agreement goes both ways: what the second accepts, the first does not reject.
    · cases (hfollows.heeds fields' fields t hagree.symm ht).symm.trans hps
    · exact .inr ⟨_, _, hread, hread', ShapeKind.forall₂_problems hagree⟩

/-- Descriptors of a kind whose fields have the same values are both accepted, with the same shape,
or both rejected, with the same problems under the spellings that either of them uses. So nothing
changes when keys that do not matter are dropped and the others are put in any order. -/
theorem ofDescriptor?_heeds_rules {kind : ShapeKind} {raw : Json} {fields : Fields}
    (h : raw.IsOfKind kind fields) (index : Int) :
    (∀ raw' fields', raw'.IsOfKind kind fields' → Fields.AgreeOn kind.rules fields fields' →
      (∃ s, Shape.ofDescriptor? index raw = .ok (some s) ∧
        Shape.ofDescriptor? index raw' = .ok (some s)) ∨
      ∃ ps qs, Shape.ofDescriptor? index raw = .error ⟨kind, index, ps⟩ ∧
        Shape.ofDescriptor? index raw' = .error ⟨kind, index, qs⟩ ∧
        List.Forall₂ (kind.Respells fields fields') ps qs) ∧
    ∀ (kept : Text → Bool) (fields' : Fields), (fields.map (·.1)).Nodup →
      (∀ key, kind.Heeds fields key → kept (.ofString key) = true) →
      fields'.Perm (fields.filter fun f => kept f.1) →
      Shape.ofDescriptor? index (.object fields') = Shape.ofDescriptor? index raw := by
  refine ⟨fun raw' fields' h' hagree => ofDescriptor?_of_agreeOn h h' hagree index, ?_⟩
  intro kept fields' hnodup hkept hperm
  have hget : ∀ key, kind.Heeds fields key → fields'.get? key = fields.get? key := by
    intro key hkey
    have hsub : ((fields.filter fun f => kept f.1).map (·.1)).Nodup :=
      hnodup.sublist (List.filter_sublist.map _)
    rw [Fields.get?_perm hperm hsub, Fields.get?_filter (hkept key hkey)]
  have hfind : ∀ r ∈ kind.rules, r.name.find? fields' = r.name.find? fields := fun r hr =>
    FieldName.find?_congr (hget _ (.inr ⟨r, hr, .inl rfl⟩))
      fun habsent => hget _ (.inr ⟨r, hr, .inr ⟨rfl, habsent⟩⟩)
  have hof : (Json.object fields').IsOfKind kind fields' :=
    ⟨rfl, (hget "type" (.inl rfl)).trans h.type⟩
  have hagree : Fields.AgreeOn kind.rules fields fields' := by
    intro r hr
    rw [FieldName.value?_eq, FieldName.value?_eq, hfind r hr]
  rcases ofDescriptor?_of_agreeOn h hof hagree index with
    ⟨s, hread, hread'⟩ | ⟨ps, qs, hread, hread', hsame⟩
  · rw [hread, hread']
  · have heq : ps = qs := List.forall₂_eq_eq_eq ▸ hsame.imp fun p q hpq => hpq.eq hfind
    rw [hread, hread', heq]

/-- A rectangle with both spellings of a field, and with a field of texts. -/
def doubledRectangle : Fields :=
  [(.ofString "stroke_color", .int 5), (.ofString "textAlign", .ofString "up"),
   (.ofString "strokeColor", .ofString "red"), (.ofString "type", .ofString "rectangle")]

/-- The same rectangle without them. -/
def singleRectangle : Fields :=
  [(.ofString "type", .ofString "rectangle"), (.ofString "strokeColor", .ofString "red")]

/-- An arrow that is unsound in two fields. -/
def bigArrow : Fields :=
  [(.ofString "points", .array [.array [.int 1]]), (.ofString "font_size", .ofString "big"),
   (.ofString "type", .ofString "arrow")]

/-- The same arrow with other spellings. -/
def respelledArrow : Fields :=
  [(.ofString "type", .ofString "arrow"), (.ofString "font_size", .int 12),
   (.ofString "fontSize", .ofString "big"), (.ofString "points", .array [.array [.int 1]])]

theorem agreeOn_respelledArrow : Fields.AgreeOn ShapeKind.arrow.rules bigArrow respelledArrow := by
  simp only [Fields.AgreeOn, ShapeKind.rules, Attributes.rules, Caption.rules, Connector.rules,
    List.cons_append, List.nil_append, List.forall_mem_cons]
  simp [FieldName.value?, FieldName.same, Fields.get?, bigArrow, respelledArrow,
    Text.ofString_injective.eq_iff]

theorem ofDescriptor?_heeds_rules_respelled :
    Shape.ofDescriptor? 3 (.object doubledRectangle) =
      .ok (some (.container .rectangle { strokeColor := .ofString "red" } {})) ∧
    Shape.ofDescriptor? 3 (.object singleRectangle) =
      Shape.ofDescriptor? 3 (.object doubledRectangle) ∧
    Shape.ofDescriptor? 3 (.object bigArrow) = .error ⟨.arrow, 3,
      [⟨["font_size"], .unreadableNumber⟩, ⟨["points", "0", "1"], .missingItem⟩]⟩ ∧
    ∃ qs, Shape.ofDescriptor? 3 (.object respelledArrow) = .error ⟨.arrow, 3, qs⟩ ∧
      List.Forall₂ (ShapeKind.arrow.Respells bigArrow respelledArrow)
        [⟨["font_size"], .unreadableNumber⟩, ⟨["points", "0", "1"], .missingItem⟩] qs := by
  have hrectangle : (Json.object doubledRectangle).IsOfKind (.container .rectangle) _ := ⟨rfl, rfl⟩
  have harrow : (Json.object bigArrow).IsOfKind .arrow _ := ⟨rfl, rfl⟩
  have harrow' : (Json.object respelledArrow).IsOfKind .arrow _ := ⟨rfl, rfl⟩
  have hbig : Shape.ofDescriptor? 3 (.object bigArrow) = .error ⟨.arrow, 3,
      [⟨["font_size"], .unreadableNumber⟩, ⟨["points", "0", "1"], .missingItem⟩]⟩ := by
    decide +kernel
  obtain ⟨-, hdropped⟩ := ofDescriptor?_heeds_rules hrectangle 3
  obtain ⟨hboth, -⟩ := ofDescriptor?_heeds_rules harrow 3
  refine ⟨by decide +kernel, ?_, hbig, ?_⟩
  · let kept : Text → Bool := fun key =>
      key != .ofString "stroke_color" && key != .ofString "textAlign"
    have hmain : ∀ r ∈ (ShapeKind.container .rectangle).rules,
        kept (.ofString r.name.main) = true := by decide +kernel
    have hother : ∀ r ∈ (ShapeKind.container .rectangle).rules,
        kept (.ofString r.name.other) = true ∨
          (doubledRectangle.get? r.name.main).isSome = true := by decide +kernel
    refine hdropped kept singleRectangle (by decide +kernel) ?_ (.swap ..)
    rintro _ (rfl | ⟨r, hr, rfl | ⟨rfl, habsent⟩⟩)
    · decide +kernel
    · exact hmain r hr
    · exact (hother r hr).resolve_right (by simp [habsent])
  · rcases hboth _ _ harrow' agreeOn_respelledArrow with ⟨s, hs, -⟩ | ⟨ps, qs, hps, hqs, hall⟩
    · cases hbig.symm.trans hs
    · cases hbig.symm.trans hps
      exact ⟨qs, hqs, hall⟩

end Easel
