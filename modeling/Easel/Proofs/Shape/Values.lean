import Easel.Proofs.Shape.Reading

/-! What the values of fields stand for. A value is accepted exactly if it stands for something, and
is not rejected without a problem. -/
namespace Easel

namespace Verdict

variable {α β : Type} {v : Verdict α} {a : α}

/-- Nothing is rejected without a problem. -/
def Grounded (v : Verdict α) : Prop := v ≠ .rejected []

/-- A reader that fails says why, so a value without problems has been accepted. -/
theorem Grounded.problems_eq_nil_iff (h : v.Grounded) :
    v.problems = [] ↔ ∃ a, v = .accepted a := by
  cases v with
  | accepted a => simp [problems]
  | rejected ps =>
    have hne : ps ≠ [] := fun hps => h (by rw [hps])
    simp [problems, hne]

@[simp] theorem grounded_accepted (a : α) : (accepted a).Grounded := by simp [Grounded]

@[simp] theorem grounded_fail (fault : FieldFault) : (fail fault : Verdict α).Grounded := by
  simp [Grounded, fail]

theorem grounded_map (f : α → β) (h : v.Grounded) : (v.map f).Grounded := by
  cases v <;> simp_all [Grounded, map]

/-- Problems of two values are joined, and each of the two names its own. -/
theorem grounded_ap {f : Verdict (α → β)} (hf : f.Grounded) (hv : v.Grounded) :
    (f.ap v).Grounded := by
  cases f <;> cases v <;> simp_all [Grounded, ap, map]

theorem grounded_under (step : String) (h : v.Grounded) : (v.under step).Grounded := by
  cases v <;> simp_all [Grounded, under]

theorem grounded_andThen {f : α → Verdict β} (hv : v.Grounded) (hf : ∀ a, (f a).Grounded) :
    (v.andThen f).Grounded := by
  cases v with
  | accepted a => exact hf a
  | rejected ps => simpa [Grounded, andThen] using hv

theorem grounded_all {vs : List (Verdict α)} (h : ∀ v ∈ vs, v.Grounded) : (all vs).Grounded := by
  induction vs with
  | nil => exact grounded_accepted []
  | cons v vs ih =>
    have hv := h v List.mem_cons_self
    have hvs := ih fun u hu => h u (List.mem_cons_of_mem v hu)
    exact grounded_ap (grounded_map _ hv) hvs

/-- Whoever reads a part of a value adds the step that leads to it to each problem. -/
theorem problems_under (step : String) (v : Verdict α) :
    (v.under step).problems = v.problems.map (.under step) := by
  cases v <;> rfl

theorem under_eq_accepted {step : String} : v.under step = .accepted a ↔ v = .accepted a := by
  cases v <;> simp [under]

theorem andThen_eq_accepted {f : α → Verdict β} {b : β} :
    v.andThen f = .accepted b ↔ ∃ a, v = .accepted a ∧ f a = .accepted b := by
  cases v <;> simp [andThen]

/-- A list of verdicts is accepted as a whole or not at all. -/
theorem all_eq_accepted {vs : List (Verdict α)} {as : List α} :
    all vs = .accepted as ↔ List.Forall₂ (fun v a => v = .accepted a) vs as := by
  induction vs generalizing as with
  | nil => simp [all, eq_comm]
  | cons v vs ih =>
    simp only [all, ap_eq_accepted, map_eq_accepted, List.forall₂_cons_left_iff, ← ih]
    constructor
    · rintro ⟨_, rest, ⟨a, hv, rfl⟩, hrest, rfl⟩
      exact ⟨a, rest, hv, hrest, rfl⟩
    · rintro ⟨a, rest, hv, hrest, rfl⟩
      exact ⟨_, rest, ⟨a, hv, rfl⟩, hrest, rfl⟩

end Verdict

namespace Json

variable {v : Json} {x : Float} {n : Int}

/-- The double that a value stands for: integers in the range of doubles, truth values and strings
that name a number stand for one. -/
inductive IsNumber : Json → Float → Prop
  | int {n : Int} {x : Float} (h : floatOfInt? n = some x) : IsNumber (.int n) x
  | float (x : Float) : IsNumber (.float x) x
  | bool (b : Bool) : IsNumber (.bool b) (if b then 1 else 0)
  | string {t : Text} {x : Float} (hscalar : t.toString? ≠ none) (h : t.describedFloat? = some x) :
      IsNumber (.string t) x

/-- The integer that a value stands for: doubles without a fraction that fit 64 bits, truth values
and strings that name an integer stand for one. -/
inductive IsInteger : Json → Int → Prop
  | int (n : Int) : IsInteger (.int n) n
  | float {x : Float} (hfinite : x.isNaN = false ∧ x.isInf = false)
      (hwhole : (x.floor != x) = false) (hlow : -9223372036854775808.0 < x)
      (hhigh : x < 9223372036854775808.0) : IsInteger (.float x) x.toInt64.toInt
  | bool (b : Bool) : IsInteger (.bool b) (if b then 1 else 0)
  | string {t : Text} {n : Int} (hscalar : t.toString? ≠ none)
      (h : t.describedInteger = .accepted n) : IsInteger (.string t) n

/-- Numbers are read leniently: from numbers, truth values and decimal texts. -/
theorem asNumber_eq_accepted : v.asNumber = .accepted x ↔ v.IsNumber x := by
  rw [asNumber.eq_def]
  constructor
  · intro h
    split at h
    · split at h
      · cases h
        exact .int ‹_›
      · cases h
    · cases h
      exact .float x
    · cases h
      exact .bool _
    · split at h
      · cases h
      · rename_i hscalar
        split at h
        · cases h
          exact .string (by simpa using hscalar) ‹_›
        · cases h
    · cases h
  · rintro (h | _ | _ | ⟨hscalar, h⟩)
    · simp only [h]
    · rfl
    · rfl
    · simp [hscalar, h]

/-- Integers are read from the same kinds of values, as long as these have no fraction. -/
theorem asInteger_eq_accepted : v.asInteger = .accepted n ↔ v.IsInteger n := by
  constructor
  · intro h
    cases v with
    | int m =>
      cases h
      exact .int n
    | float x =>
      simp only [asInteger, integerOfFloat] at h
      split at h
      · cases h
      · rename_i hfinite
        split at h
        · cases h
        · rename_i hwhole
          split at h
          · rename_i hrange
            cases h
            simp only [Bool.and_eq_true, decide_eq_true_eq] at hrange
            exact .float (by simpa using hfinite) (by simpa using hwhole) hrange.1 hrange.2
          · cases h
    | bool b =>
      cases h
      exact .bool b
    | string t =>
      simp only [asInteger] at h
      split at h
      · cases h
      · rename_i hscalar
        exact .string (by simpa using hscalar) h
    | null | array | object => cases h
  · rintro (_ | ⟨hfinite, hwhole, hlow, hhigh⟩ | _ | ⟨hscalar, h⟩)
    · rfl
    · simp only [asInteger, integerOfFloat, hfinite, hwhole, hlow, hhigh, Bool.or_self,
        Bool.false_eq_true, if_false, decide_true, Bool.and_self, if_true]
    · rfl
    · simp [asInteger, hscalar, h]

/-- The pair of numbers that a value stands for. -/
def IsPoint (v : Json) (p : Point) : Prop :=
  ∃ a b, v = .array [a, b] ∧ a.IsNumber p.x ∧ b.IsNumber p.y

/-- A point is an array of exactly two numbers. -/
theorem asPoint_eq_accepted {p : Point} : v.asPoint = .accepted p ↔ v.IsPoint p := by
  unfold asPoint IsPoint
  split
  · simp
  · simp [Verdict.ap_eq_accepted]
  · rename_i a b
    simp only [Verdict.map_eq, Verdict.seq_eq, Verdict.ap_eq_accepted, Verdict.map_eq_accepted,
      Verdict.under_eq_accepted, asNumber_eq_accepted]
    constructor
    · rintro ⟨_, y, ⟨x, hx, rfl⟩, hy, rfl⟩
      exact ⟨a, b, rfl, hx, hy⟩
    · rintro ⟨_, _, ⟨⟩, hx, hy⟩
      exact ⟨_, p.y, ⟨p.x, hx, rfl⟩, hy, rfl⟩
  · rename_i items hnil hone htwo
    refine iff_of_false (by simp [Verdict.fail]) ?_
    rintro ⟨a, b, ⟨⟩, -⟩
    exact htwo a b rfl
  · rename_i hother
    refine iff_of_false (by simp [Verdict.fail]) ?_
    rintro ⟨a, b, rfl, -⟩
    exact hother _ rfl

/-- The points that a value stands for, two at least. -/
def IsPath (v : Json) (p : Path) : Prop :=
  ∃ items, v = .array items ∧ List.Forall₂ IsPoint items p.toList

/-- A path has two points at least; no other list of points is one. -/
theorem ofList?_eq_some_iff {ps : List Point} {p : Path} :
    Path.ofList? ps = some p ↔ p.toList = ps := by
  refine ⟨Path.toList_of_ofList?, ?_⟩
  rintro rfl
  rfl

theorem forall₂_mapIdx_under {items : List Json} {ps : List Point} :
    List.Forall₂ (fun (w : Verdict Point) p => w = .accepted p)
        (items.mapIdx fun i v => v.asPoint.under (toString i)) ps ↔
      List.Forall₂ IsPoint items ps := by
  have hall : ∀ (n : Nat) (ps : List Point),
      List.Forall₂ (fun (w : Verdict Point) p => w = .accepted p)
          (items.mapIdx fun i v => v.asPoint.under (toString (i + n))) ps ↔
        List.Forall₂ IsPoint items ps := by
    induction items with
    | nil => simp
    | cons v rest ih =>
      intro n ps
      cases ps with
      | nil => simp
      | cons p ps =>
        have hrest := ih (n + 1) ps
        simp only [List.mapIdx_cons, List.forall₂_cons, Verdict.under_eq_accepted,
          asPoint_eq_accepted, Nat.add_right_comm _ 1 n, ← hrest, Nat.add_assoc]
  exact hall 0 ps

/-- A missing path is written as null; one that is given is an array of points. -/
theorem asPath?_eq_accepted {r : Option Path} :
    v.asPath? = .accepted r ↔ (v = .null ∧ r = none) ∨ ∃ p, r = some p ∧ v.IsPath p := by
  unfold asPath? IsPath
  split
  · simp [eq_comm]
  · rename_i items
    simp only [Verdict.andThen_eq_accepted, Verdict.all_eq_accepted, forall₂_mapIdx_under]
    constructor
    · rintro ⟨ps, hps, h⟩
      cases hp : Path.ofList? ps with
      | some p =>
        obtain rfl := ofList?_eq_some_iff.mp hp
        rw [hp] at h
        obtain rfl := Verdict.accepted.inj h
        exact .inr ⟨p, rfl, items, rfl, hps⟩
      | none =>
        rw [hp] at h
        cases h
    · rintro (⟨⟨⟩, -⟩ | ⟨p, rfl, _, ⟨⟩, hps⟩)
      exact ⟨p.toList, hps, rfl⟩
  · rename_i hnull harray
    refine iff_of_false (by simp [Verdict.fail]) ?_
    rintro (⟨rfl, -⟩ | ⟨p, -, items, rfl, -⟩)
    · exact hnull rfl
    · exact harray items rfl

theorem asText_eq_accepted {t : Text} : v.asText = .accepted t ↔ v = .string t := by
  cases v <;> simp [asText, Verdict.fail]

/-- A text that may be missing is read from what it would be written as. -/
theorem asText?_eq_accepted {t : Option Text} :
    v.asText? = .accepted t ↔ v = .ofText? t := by
  cases v <;> cases t <;> simp [asText?, asText, ofText?, Verdict.fail, Verdict.map]

/-- A percentage is a number that is found to lie between the bounds, which leaves out NaN. -/
theorem asPercentage_eq_accepted :
    v.asPercentage = .accepted x ↔ v.IsNumber x ∧ 0 ≤ x ∧ x ≤ 100 := by
  simp only [asPercentage, Verdict.andThen_eq_accepted, asNumber_eq_accepted]
  constructor
  · rintro ⟨y, hy, h⟩
    split at h
    · rename_i hhigh
      split at h
      · rename_i hlow
        cases h
        exact ⟨hy, hlow, hhigh⟩
      · cases h
    · cases h
  · rintro ⟨hx, hlow, hhigh⟩
    exact ⟨x, hx, by simp [hlow, hhigh]⟩

/-- A choice is read by its name; of two choices with one name it is the first. -/
theorem asChoice_eq_accepted {α : Type} {all : List α} {name : α → String} {a : α} :
    v.asChoice all name = .accepted a ↔
      v = .ofString (name a) ∧ all.find? (fun b => name b = name a) = some a := by
  cases v with
  | string t =>
    simp only [asChoice, ofString, Json.string.injEq]
    constructor
    · intro h
      split at h
      · cases h
      · split at h
        · rename_i b hb
          cases h
          have hname : Text.ofString (name a) = t := by simpa using List.find?_some hb
          subst hname
          refine ⟨rfl, ?_⟩
          simpa [Text.ofString_injective.eq_iff] using hb
        · cases h
    · rintro ⟨rfl, h⟩
      simp [Text.toString?_ofString, Text.ofString_injective.eq_iff, h]
  | null | bool | int | float | array | object => simp [asChoice, ofString, Verdict.fail]

theorem grounded_asText (v : Json) : v.asText.Grounded := by
  cases v <;> simp [asText]

theorem grounded_asText? (v : Json) : v.asText?.Grounded := by
  unfold asText?
  split
  · exact Verdict.grounded_accepted none
  · exact Verdict.grounded_map some (grounded_asText _)

theorem grounded_asNumber (v : Json) : v.asNumber.Grounded := by
  rw [asNumber.eq_def]
  repeat' split
  all_goals simp

theorem grounded_asPercentage (v : Json) : v.asPercentage.Grounded := by
  refine Verdict.grounded_andThen (grounded_asNumber v) fun x => ?_
  repeat' split
  all_goals simp

theorem grounded_integerOfFloat (x : Float) : (integerOfFloat x).Grounded := by
  unfold integerOfFloat
  repeat' split
  all_goals simp

theorem grounded_describedInteger (t : Text) : t.describedInteger.Grounded := by
  unfold Text.describedInteger
  repeat' split
  all_goals simp

/-- Whatever integers are read from, a reader that refuses gives its reason. -/
theorem grounded_asInteger (v : Json) : v.asInteger.Grounded := by
  cases v with
  | float x => exact grounded_integerOfFloat x
  | string t =>
    simp only [asInteger]
    split
    · exact Verdict.grounded_fail _
    · exact grounded_describedInteger t
  | int | bool => exact Verdict.grounded_accepted _
  | null | array | object => exact Verdict.grounded_fail _

theorem grounded_asChoice {α : Type} (all : List α) (name : α → String) (v : Json) :
    (v.asChoice all name).Grounded := by
  unfold asChoice
  repeat' split
  all_goals simp

theorem grounded_asPoint (v : Json) : v.asPoint.Grounded := by
  have hnumber : ∀ (u : Json) (step : String), (u.asNumber.under step).Grounded :=
    fun u step => Verdict.grounded_under step (grounded_asNumber u)
  unfold asPoint
  split
  · simp [Verdict.Grounded]
  · exact Verdict.grounded_ap (Verdict.grounded_map _ (hnumber _ _)) (by simp [Verdict.Grounded])
  · exact Verdict.grounded_ap (Verdict.grounded_map _ (hnumber _ _)) (hnumber _ _)
  · exact Verdict.grounded_fail _
  · exact Verdict.grounded_fail _

/-- The same for a path, of which each point is judged for itself. -/
theorem grounded_asPath? (v : Json) : v.asPath?.Grounded := by
  unfold asPath?
  split
  · exact Verdict.grounded_accepted _
  · refine Verdict.grounded_andThen (Verdict.grounded_all fun w hw => ?_) fun ps => ?_
    · obtain ⟨i, hi, rfl⟩ := List.mem_mapIdx.mp hw
      exact Verdict.grounded_under _ (grounded_asPoint _)
    · split
      · exact Verdict.grounded_accepted _
      · exact Verdict.grounded_fail _
  · exact Verdict.grounded_fail _

/-- What is wrong with a choice does not depend on what the names stand for. -/
theorem problems_asChoice {α : Type} (all : List α) (name : α → String) (v : Json) :
    (v.asChoice all name).problems = (v.asChoice (all.map name) id).problems := by
  cases v with
  | string t =>
    simp only [asChoice, List.map_id, List.find?_map, id_eq]
    split
    · rfl
    · have hsame : ((fun s => decide (Text.ofString s = t)) ∘ name) =
          fun a => decide (Text.ofString (name a) = t) := rfl
      rw [hsame]
      cases all.find? fun a => Text.ofString (name a) = t <;> rfl
  | null | bool | int | float | array | object => simp [asChoice, Verdict.problems, Verdict.fail]

end Json

end Easel
