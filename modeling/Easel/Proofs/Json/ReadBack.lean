import Easel.Proofs.Json.Obstacles
import Easel.Proofs.Json.Scalars

/-! JSON text is read back as the value that was written, as far as the reader goes down into
containers; past that it stops. -/
namespace Easel

/-- Keys that are written once keep their places and values. -/
theorem Fields.ofPairs_of_nodup {pairs : Fields} (h : (pairs.map (·.1)).Nodup) :
    Fields.ofPairs pairs = pairs := by
  have hfold : ∀ (rest kept : Fields), ((kept ++ rest).map (·.1)).Nodup →
      rest.foldl (fun fields p => Fields.put fields p.1 p.2) kept = kept ++ rest := by
    intro rest
    induction rest with
    | nil => simp
    | cons p rest ih =>
      intro kept hkept
      have hnew : p.1 ∉ kept.map (·.1) := by
        rw [List.map_append, List.nodup_append] at hkept
        intro hmem
        exact hkept.2.2 p.1 hmem p.1 (by simp) rfl
      rw [List.foldl_cons, Fields.put_of_not_mem hnew, ih _ (by simpa using hkept)]
      simp
  exact hfold pairs [] h

namespace Json

variable {α β : Type} {room n m : Nat} {s t : Text} {v : Json}

/-- Values whose text says all about them: integers are within the limit of the reader, there are no
doubles, texts have an encoding, and the keys of an object differ. -/
inductive Plain : Json → Prop where
  | null : Plain .null
  | bool (b : Bool) : Plain (.bool b)
  | int {k : Int} (hk : (digitsOf k.natAbs).length ≤ maxIntegerDigits) : Plain (.int k)
  | string {t : Text} (ht : t.isEncodable = true) : Plain (.string t)
  | array {items : List Json} (hitems : ∀ v ∈ items, Plain v) : Plain (.array items)
  | object {fields : Fields} (hkeys : (fields.map (·.1)).Nodup)
      (hnames : ∀ f ∈ fields, f.1.isEncodable = true) (hvalues : ∀ f ∈ fields, Plain f.2) :
      Plain (.object fields)

/-- Plain integers are short enough to be read, and so they can be written. -/
theorem Plain.digits_le (hv : v.Plain) : v.digits ≤ maxIntegerDigits := by
  induction hv with
  | null | bool | string => exact Nat.zero_le _
  | int hk => exact hk
  | array _ ih => exact digitsInItems_le_iff.mpr ih
  | object _ _ _ ih => exact digitsInFields_le_iff.mpr ih

/-- Only its depth stands in the way of writing a plain value. -/
theorem Plain.obstacle?_eq_none_iff (hv : v.Plain) : v.obstacle? room = none ↔ v.nesting ≤ room :=
  (Json.obstacle?_eq_none_iff room v).trans (and_iff_left hv.digits_le)

/-- A reader has got `v` where what it reads goes down no further than it can, and else has
stopped inside too many containers. -/
structure Follows (nesting room : Nat) (x : Except Stop α) (v : α) : Prop where
  within : nesting ≤ room → x = .ok v
  beyond : room < nesting → ∃ innermost, x = .error (.tooDeep innermost)

theorem Follows.of_ok {x : Except Stop α} {v : α} (h : x = .ok v) : Follows 0 room x v :=
  ⟨fun _ => h, fun hlt => absurd hlt (Nat.not_lt_zero _)⟩

/-- Without room a reader stops at any container. -/
theorem Follows.too_deep {v : α} (innermost : Container) :
    Follows (n + 1) 0 (.error (.tooDeep innermost)) v :=
  ⟨fun hle => absurd hle (Nat.not_succ_le_zero n), fun _ => ⟨innermost, rfl⟩⟩

/-- Two readers in a row need as much room as the one that needs more. -/
theorem Follows.bind {x : Except Stop α} {a : α} {f : α → Except Stop β} {b : β}
    (hx : Follows n room x a) (hf : Follows m room (f a) b) :
    Follows (max n m) room (x.bind f) b := by
  constructor
  · intro hle
    rw [hx.within (Nat.le_trans (Nat.le_max_left n m) hle)]
    exact hf.within (Nat.le_trans (Nat.le_max_right n m) hle)
  · intro hlt
    rcases Nat.lt_or_ge room n with hn | hn
    · obtain ⟨innermost, hstop⟩ := hx.beyond hn
      exact ⟨innermost, by rw [hstop]; rfl⟩
    · rw [hx.within hn]
      exact hf.beyond (by omega)

theorem Follows.map {x : Except Stop α} {a : α} (hx : Follows n room x a) (f : α → β) :
    Follows n room (x.map f) (f a) := by
  constructor
  · intro hle
    rw [hx.within hle]
    rfl
  · intro hlt
    obtain ⟨innermost, hstop⟩ := hx.beyond hlt
    exact ⟨innermost, by rw [hstop]; rfl⟩

/-- Inside a container there is room for one less. -/
theorem Follows.inside {x : Except Stop α} {a : α} (hx : Follows n room x a) :
    Follows (n + 1) (room + 1) x a :=
  ⟨fun hle => hx.within (Nat.le_of_succ_le_succ hle),
    fun hlt => hx.beyond (Nat.lt_of_succ_lt_succ hlt)⟩

theorem skipGaps_of_head {p : CodePoint} (hp : isGap p = false) : skipGaps (p :: t) = p :: t :=
  List.dropWhile_cons_of_neg (by simp [hp])

theorem skipGaps_space (t : Text) : skipGaps (.scalar ' ' :: t) = skipGaps t :=
  List.dropWhile_cons_of_pos rfl

/-- What a container goes on with after something in it: its end, or more of the same kind. -/
def restAfter (close : Char) (more : Text → Except Stop (List α × Text)) (x : α) (rest : Text) :
    Except Stop (List α × Text) :=
  match skipGaps rest with
  | [] => .error (.fault .expectedComma 0)
  | p :: after =>
    if p = .scalar close then .ok ([x], after)
    else if p = .scalar ',' then (more (skipGaps after)).map fun r => (x :: r.1, r.2)
    else .error (.fault .expectedComma (after.length + 1))

variable {close : Char} {more : Text → Except Stop (List α × Text)} {x : α}

theorem restAfter_of_close {rest after : Text} (h : skipGaps rest = .scalar close :: after) :
    restAfter close more x rest = .ok ([x], after) := by
  simp only [restAfter, h, if_pos]

/-- Behind a comma the reader expects one more item. -/
theorem restAfter_of_comma {rest after : Text} (hclose : close ≠ ',')
    (h : skipGaps rest = .scalar ',' :: after) :
    restAfter close more x rest = (more (skipGaps after)).map fun r => (x :: r.1, r.2) := by
  have hother : ¬ CodePoint.scalar ',' = .scalar close :=
    fun heq => hclose (CodePoint.scalar.inj heq).symm
  simp only [restAfter, h, if_neg hother, if_pos]

/-- Anything else than a comma or the end is refused. -/
theorem restAfter_of_other {rest : Text} (hclose : ∀ after, skipGaps rest ≠ .scalar close :: after)
    (hcomma : ∀ after, skipGaps rest ≠ .scalar ',' :: after) :
    restAfter close more x rest = .error (.fault .expectedComma (skipGaps rest).length) := by
  unfold restAfter
  split
  · rename_i h
    rw [h]
    rfl
  · rename_i p after h
    have hp : p ≠ .scalar close := fun heq => hclose after (heq ▸ h)
    have hp' : p ≠ .scalar ',' := fun heq => hcomma after (heq ▸ h)
    rw [if_neg hp, if_neg hp', h, List.length_cons]

/-- How items are read, without the proofs that less and less is left. -/
theorem parts_readItems (room : Nat) (s : Text) :
    (readItems room s).map Reading.parts =
      ((readValue room s).map Reading.parts).bind fun r =>
        restAfter ']' (fun t => (readItems room t).map Reading.parts) r.1 r.2 := by
  rw [readItems]
  split
  · rename_i hr
    rw [hr]
    rfl
  · rename_i v rest hv hr
    rw [hr]
    change _ = restAfter ']' (fun t => (readItems room t).map Reading.parts) v rest
    extract_lets
    split
    · rename_i h
      rw [restAfter_of_close h]
      rfl
    · rename_i after h
      rw [restAfter_of_comma (by decide) h]
      cases readItems room (skipGaps after) <;> rfl
    · rename_i hclose hcomma
      rw [restAfter_of_other hclose hcomma]
      rfl

/-- What a field goes on with after its key. -/
def fieldAfter (room : Nat) (key rest : Text) : Except Stop (List (Text × Json) × Text) :=
  match skipGaps rest with
  | .scalar ':' :: after =>
    ((readValue room (skipGaps after)).map Reading.parts).bind fun r =>
      restAfter '\x7d' (fun t => (readFields room t).map Reading.parts) (key, r.1) r.2
  | other => .error (.fault .expectedColon other.length)

theorem parts_readFields (room : Nat) (s : Text) :
    (readFields room (.scalar '"' :: s)).map Reading.parts =
      ((readString s s).map Reading.parts).bind fun r => fieldAfter room r.1 r.2 := by
  rw [readFields]
  split
  · rename_i hr
    rw [hr]
    rfl
  · rename_i key afterKey hk hr
    rw [hr]
    change _ = fieldAfter room key afterKey
    unfold fieldAfter
    extract_lets
    split
    · rename_i afterColon hcolon
      simp only [hcolon]
      split
      · rename_i hr
        rw [hr]
        rfl
      · rename_i v afterValue hv hr
        rw [hr]
        change _ = restAfter '\x7d' (fun t => (readFields room t).map Reading.parts) (key, v)
          afterValue
        split
        · rename_i h
          rw [restAfter_of_close h]
          rfl
        · rename_i after h
          rw [restAfter_of_comma (by decide) h]
          cases readFields room (skipGaps after) <;> rfl
        · rename_i hclose hcomma
          rw [restAfter_of_other hclose hcomma]
          rfl
    · rename_i hcolon
      split
      · rename_i h
        exact (hcolon _ h).elim
      · rfl

/-- What is read as a value depends on its first character. -/
theorem parts_readValue_string (room : Nat) (s : Text) :
    (readValue room (.scalar '"' :: s)).map Reading.parts =
      ((readString s s).map Reading.parts).map fun r => (.string r.1, r.2) := by
  rw [readValue]
  cases readString s s <;> rfl

/-- Keywords come before numbers. -/
theorem parts_readValue_word {c : Char} (hc : c ≠ '"' ∧ c ≠ '[' ∧ c ≠ '\x7b') (room : Nat)
    (s : Text) :
    (readValue room (.scalar c :: s)).map Reading.parts =
      match (readKeyword? (.scalar c :: s)).map Reading.parts with
      | some r => .ok r
      | none => (readNumber (.scalar c :: s)).map Reading.parts := by
  rw [readValue]
  · cases readKeyword? (.scalar c :: s) <;> rfl
  · exact fun h => hc.1 (CodePoint.scalar.inj h)
  · exact fun h => hc.2.1 (CodePoint.scalar.inj h)
  · exact fun h => hc.2.2 (CodePoint.scalar.inj h)

theorem parts_readValue_array (room : Nat) (hs : ∀ after, skipGaps s ≠ .scalar ']' :: after) :
    (readValue (room + 1) (.scalar '[' :: s)).map Reading.parts =
      ((readItems room (skipGaps s)).map Reading.parts).map fun r => (.array r.1, r.2) := by
  rw [readValue]
  split
  · rename_i after h
    exact (hs after h).elim
  · cases readItems room (skipGaps s) <;> rfl

theorem parts_readValue_object (room : Nat) (hs : ∀ after, skipGaps s ≠ .scalar '\x7d' :: after) :
    (readValue (room + 1) (.scalar '\x7b' :: s)).map Reading.parts =
      ((readFields room (skipGaps s)).map Reading.parts).map fun r =>
        (.object (Fields.ofPairs r.1), r.2) := by
  rw [readValue]
  split
  · rename_i after h
    exact (hs after h).elim
  · cases readFields room (skipGaps s) <;> rfl

theorem parts_readValue_emptyArray (room : Nat) (t : Text) :
    (readValue (room + 1) (.scalar '[' :: .scalar ']' :: t)).map Reading.parts =
      .ok (.array [], t) := by
  have hgaps : skipGaps (.scalar ']' :: t) = .scalar ']' :: t := skipGaps_of_head (by decide)
  rw [readValue]
  split
  · rename_i after h
    obtain ⟨-, rfl⟩ := List.cons.inj (hgaps.symm.trans h)
    rfl
  · rename_i h
    exact (h t hgaps).elim

theorem parts_readValue_emptyObject (room : Nat) (t : Text) :
    (readValue (room + 1) (.scalar '\x7b' :: .scalar '\x7d' :: t)).map Reading.parts =
      .ok (.object [], t) := by
  have hgaps : skipGaps (.scalar '\x7d' :: t) = .scalar '\x7d' :: t := skipGaps_of_head (by decide)
  rw [readValue]
  split
  · rename_i after h
    obtain ⟨-, rfl⟩ := List.cons.inj (hgaps.symm.trans h)
    rfl
  · rename_i h
    exact (h t hgaps).elim

/-- Where a value or a key is written, there is no gap, no container that ends, and no byte order
mark. -/
def Begins (s : Text) : Prop :=
  ∃ c rest, s = .scalar c :: rest ∧ isGap (.scalar c) = false ∧ c ≠ ']' ∧ c ≠ '\x7d' ∧ c ≠ '\ufeff'

/-- A value that begins here is not preceded by a gap. -/
theorem Begins.skipGaps (h : Begins s) : skipGaps s = s := by
  obtain ⟨c, rest, rfl, hgap, -⟩ := h
  exact skipGaps_of_head hgap

/-- A container that goes on with a value does not end here. -/
theorem Begins.not_close (h : Begins s) {c : Char} (hc : c = ']' ∨ c = '\x7d') (after : Text) :
    s ≠ .scalar c :: after := by
  obtain ⟨d, rest, rfl, -, hd⟩ := h
  intro heq
  obtain ⟨rfl⟩ := (List.cons.inj heq).1
  exact hc.elim hd.1 hd.2.1

theorem begins_writeString (s t : Text) : Begins (writeString s t) :=
  ⟨'"', _, rfl, by decide, by decide, by decide, by decide⟩

theorem begins_of_isDigit {c : Char} (hc : c.isDigit = true) (t : Text) :
    Begins (.scalar c :: t) := by
  have hspace : c ≠ ' ' := ne_of_isDigit hc (by decide)
  have htab : c ≠ '\t' := ne_of_isDigit hc (by decide)
  have hfeed : c ≠ '\n' := ne_of_isDigit hc (by decide)
  have hreturn : c ≠ '\r' := ne_of_isDigit hc (by decide)
  have hgap : isGap (.scalar c) = false := by simp [isGap, hspace, htab, hfeed, hreturn]
  exact ⟨c, t, rfl, hgap, ne_of_isDigit hc (by decide), ne_of_isDigit hc (by decide),
    ne_of_isDigit hc (by decide)⟩

theorem begins_renderInt (k : Int) (t : Text) : Begins (prepend (renderInt k) t) := by
  obtain ⟨c, cs, hcs, rfl | hc⟩ := exists_renderInt k
  · rw [hcs]
    exact ⟨'-', _, rfl, by decide, by decide, by decide, by decide⟩
  · rw [hcs]
    exact begins_of_isDigit hc _

/-- A value that is written begins at once, without a gap. -/
theorem begins_write (hv : v.Plain) (t : Text) : Begins (v.write t) := by
  cases hv with
  | null => exact ⟨'n', _, by rw [write]; rfl, by decide, by decide, by decide, by decide⟩
  | bool b =>
    cases b with
    | false => exact ⟨'f', _, by rw [write]; rfl, by decide, by decide, by decide, by decide⟩
    | true => exact ⟨'t', _, by rw [write]; rfl, by decide, by decide, by decide, by decide⟩
  | int hk =>
    rw [write]
    exact begins_renderInt _ t
  | string ht =>
    rw [write_string]
    exact begins_writeString _ t
  | array => exact ⟨'[', _, by rw [write], by decide, by decide, by decide, by decide⟩
  | object => exact ⟨'\x7b', _, by rw [write], by decide, by decide, by decide, by decide⟩

/-- The reader follows the text of a value, wherever it stands. -/
def Recovered (v : Json) : Prop :=
  ∀ (room : Nat) (t : Text), EndsValue t →
    Follows v.nesting room ((readValue room (v.write t)).map Reading.parts) (v, t)

/-- A word can be read without any room. -/
theorem recovered_of_keyword {c : Char} {cs : List Char} (hnesting : v.nesting = 0)
    (hwrite : ∀ t, v.write t = prepend (c :: cs) t) (hc : c ≠ '"' ∧ c ≠ '[' ∧ c ≠ '\x7b')
    (hread : ∀ t, (readKeyword? (prepend (c :: cs) t)).map Reading.parts = some (v, t)) :
    Recovered v := by
  intro room t _
  have hword : (readKeyword? (.scalar c :: prepend cs t)).map Reading.parts = some (v, t) := hread t
  rw [hnesting, hwrite, prepend]
  refine .of_ok ?_
  rw [parts_readValue_word hc, hword]

theorem recovered_null : Recovered .null :=
  recovered_of_keyword rfl (fun t => by rw [write]) (by decide) fun t => by
    simp [readKeyword?, keywords, Text.ofString, prepend, Reading.parts]

theorem recovered_bool (b : Bool) : Recovered (.bool b) := by
  cases b with
  | false =>
    exact recovered_of_keyword rfl (fun t => by rw [write]) (by decide) fun t => by
      simp [readKeyword?, keywords, Text.ofString, prepend, Reading.parts]
  | true =>
    exact recovered_of_keyword rfl (fun t => by rw [write]) (by decide) fun t => by
      simp [readKeyword?, keywords, Text.ofString, prepend, Reading.parts]

/-- An integer is read back from its digits, if there are not too many. -/
theorem recovered_int {k : Int} (hk : (digitsOf k.natAbs).length ≤ maxIntegerDigits) :
    Recovered (.int k) := by
  intro room t ht
  obtain ⟨c, cs, hcs, hc⟩ := exists_renderInt k
  have hmark : c ≠ '"' ∧ c ≠ '[' ∧ c ≠ '\x7b' := by
    rcases hc with rfl | hc
    · decide
    · exact ⟨ne_of_isDigit hc (by decide), ne_of_isDigit hc (by decide),
        ne_of_isDigit hc (by decide)⟩
  have hword := readKeyword?_renderInt k (t := t)
  have hread : (readNumber _).map Reading.parts = .ok (.int k, t) := readNumber_renderInt hk ht
  rw [hcs, prepend] at hword hread
  rw [write, hcs, prepend]
  refine .of_ok ?_
  rw [parts_readValue_word hmark, hword]
  exact hread

/-- A string is read back from its escapes. -/
theorem recovered_string (hs : Text.isEncodable s = true) : Recovered (.string s) := by
  intro room t _
  rw [write_string, writeString, parts_readValue_string]
  exact (Follows.of_ok (readString_writeBody hs t)).map fun r => (Json.string r.1, r.2)

theorem restAfter_close (t : Text) (hclose : isGap (.scalar close) = false) :
    restAfter close more x (.scalar close :: t) = .ok ([x], t) :=
  restAfter_of_close (skipGaps_of_head hclose)

theorem restAfter_comma (hclose : close ≠ ',') (hs : Begins s) :
    restAfter close more x (.scalar ',' :: .scalar ' ' :: s) =
      (more s).map fun r => (x :: r.1, r.2) := by
  rw [restAfter_of_comma hclose (skipGaps_of_head (by decide)), skipGaps_space, hs.skipGaps]

theorem begins_writeItems {items : List Json} (hplain : ∀ v ∈ items, v.Plain) (hne : items ≠ [])
    (t : Text) : Begins (writeItems items t) := by
  cases items with
  | nil => exact absurd rfl hne
  | cons v rest =>
    have hv : v.Plain := hplain v List.mem_cons_self
    cases rest <;> rw [writeItems] <;> exact begins_write hv _

/-- By induction on the items, of which the last one is followed by the bracket. -/
theorem follows_readItems {items : List Json} (hplain : ∀ v ∈ items, v.Plain)
    (hitems : ∀ v ∈ items, Recovered v) (hne : items ≠ []) (room : Nat) (t : Text) :
    Follows (nestingOfItems items) room
      ((readItems room (writeItems items (.scalar ']' :: t))).map Reading.parts) (items, t) := by
  -- What follows the container is the same for every tail of its items.
  induction items with
  | nil => exact absurd rfl hne
  | cons v rest ih =>
    obtain ⟨hv, hrest⟩ := List.forall_mem_cons.mp hitems
    rw [parts_readItems, nestingOfItems]
    cases rest with
    | nil =>
      rw [writeItems]
      exact (hv room _ (.bracket t)).bind (.of_ok (restAfter_close t (by decide)))
    | cons w rest =>
      have hplain := (List.forall_mem_cons.mp hplain).2
      have hne : w :: rest ≠ [] := List.cons_ne_nil w rest
      rw [writeItems]
      refine (hv room _ (.comma _)).bind ?_
      rw [restAfter_comma (by decide) (begins_writeItems hplain hne _)]
      exact (ih hplain hrest hne).map fun r => (v :: r.1, r.2)

theorem fieldAfter_colon (key : Text) (hs : Begins s) :
    fieldAfter room key (.scalar ':' :: .scalar ' ' :: s) =
      ((readValue room s).map Reading.parts).bind fun r =>
        restAfter '\x7d' (fun t => (readFields room t).map Reading.parts) (key, r.1) r.2 := by
  rw [fieldAfter, skipGaps_of_head (by decide)]
  simp only
  rw [skipGaps_space, hs.skipGaps]

theorem begins_writeFields {fields : Fields} (hne : fields ≠ []) (t : Text) :
    Begins (writeFields fields t) := by
  match fields, hne with
  | [(key, v)], _ =>
    rw [writeFields]
    exact begins_writeString key _
  | (key, v) :: f :: rest, _ =>
    rw [writeFields]
    exact begins_writeString key _

theorem parts_readFields_writeString {key : Text} (hkey : key.isEncodable = true) (t : Text) :
    (readFields room (writeString key t)).map Reading.parts = fieldAfter room key t := by
  have hread : Gives (readString (writeBody key t) (writeBody key t)) key t :=
    readString_writeBody hkey t
  rw [Gives] at hread
  rw [writeString, parts_readFields, hread]
  rfl

/-- A field is followed from its key to what the object goes on with. -/
theorem follows_field {key : Text} (hkey : key.isEncodable = true) (hplain : v.Plain)
    (hv : Recovered v) (hs : EndsValue s) {r : List (Text × Json) × Text}
    (hafter : Follows m room
      (restAfter '\x7d' (fun t => (readFields room t).map Reading.parts) (key, v) s) r) :
    Follows (max v.nesting m) room
      ((readFields room (writeString key (.scalar ':' :: .scalar ' ' :: v.write s))).map
        Reading.parts) r := by
  rw [parts_readFields_writeString hkey, fieldAfter_colon key (begins_write hplain s)]
  exact (hv room s hs).bind hafter

/-- The same for fields, which are pairs of a string and a value. -/
theorem follows_readFields {fields : Fields} (hnames : ∀ f ∈ fields, f.1.isEncodable = true)
    (hplain : ∀ f ∈ fields, f.2.Plain) (hvalues : ∀ f ∈ fields, Recovered f.2) (hne : fields ≠ [])
    (room : Nat) (t : Text) :
    Follows (nestingOfFields fields) room
      ((readFields room (writeFields fields (.scalar '\x7d' :: t))).map Reading.parts)
      (fields, t) := by
  induction fields with
  | nil => exact absurd rfl hne
  | cons field rest ih =>
    obtain ⟨key, v⟩ := field
    obtain ⟨hkey, hnames⟩ := List.forall_mem_cons.mp hnames
    obtain ⟨hv, hplain⟩ := List.forall_mem_cons.mp hplain
    obtain ⟨hread, hvalues⟩ := List.forall_mem_cons.mp hvalues
    rw [nestingOfFields]
    cases rest with
    | nil =>
      rw [writeFields]
      exact follows_field hkey hv hread (.brace t) (.of_ok (restAfter_close t (by decide)))
    | cons f rest =>
      have hne : f :: rest ≠ [] := List.cons_ne_nil f rest
      rw [writeFields]
      refine follows_field hkey hv hread (.comma _) ?_
      rw [restAfter_comma (by decide) (begins_writeFields hne _)]
      exact (ih hnames hplain hvalues hne).map fun r => ((key, v) :: r.1, r.2)

/-- The empty array is read in a way of its own. -/
theorem recovered_array {items : List Json} (hplain : ∀ v ∈ items, v.Plain)
    (hitems : ∀ v ∈ items, Recovered v) : Recovered (.array items) := by
  intro room t _
  rw [write, nesting]
  cases room with
  | zero =>
    -- There is no room for the container itself, whatever is in it.
    rw [readValue]
    exact .too_deep .array
  | succ room =>
    refine Follows.inside ?_
    by_cases hne : items = []
    · subst hne
      exact .of_ok (parts_readValue_emptyArray room t)
    · have hbegins := begins_writeItems hplain hne (.scalar ']' :: t)
      rw [parts_readValue_array, hbegins.skipGaps]
      · exact (follows_readItems hplain hitems hne room t).map fun r => (Json.array r.1, r.2)
      · rw [hbegins.skipGaps]
        exact hbegins.not_close (.inl rfl)

/-- Keys are distinct, so that no field takes the place of an earlier one. -/
theorem recovered_object {fields : Fields} (hkeys : (fields.map (·.1)).Nodup)
    (hnames : ∀ f ∈ fields, f.1.isEncodable = true) (hplain : ∀ f ∈ fields, f.2.Plain)
    (hvalues : ∀ f ∈ fields, Recovered f.2) : Recovered (.object fields) := by
  intro room t _
  rw [write, nesting]
  cases room with
  | zero =>
    rw [readValue]
    exact .too_deep .object
  | succ room =>
    refine Follows.inside ?_
    by_cases hne : fields = []
    · subst hne
      exact .of_ok (parts_readValue_emptyObject room t)
    · have hbegins := begins_writeFields hne (.scalar '\x7d' :: t)
      have hread := (follows_readFields hnames hplain hvalues hne room t).map fun r =>
        (Json.object (Fields.ofPairs r.1), r.2)
      rw [Fields.ofPairs_of_nodup hkeys] at hread
      rw [parts_readValue_object, hbegins.skipGaps]
      · exact hread
      · rw [hbegins.skipGaps]
        exact hbegins.not_close (.inr rfl)

/-- The reader follows the text of every plain value. -/
theorem Plain.recovered (hv : v.Plain) : Recovered v := by
  induction hv with
  | null => exact recovered_null
  | bool b => exact recovered_bool b
  | int hk => exact recovered_int hk
  | string ht => exact recovered_string ht
  | array hitems ih => exact recovered_array hitems ih
  | object hkeys hnames hvalues ih => exact recovered_object hkeys hnames hvalues ih

/-- A text that begins with a value does not begin with a byte order mark. -/
theorem Begins.parseMarked (h : Begins s) : parseMarked room s = parse room s := by
  obtain ⟨c, rest, rfl, -, -, -, hmark⟩ := h
  have hhead : List.head? (CodePoint.scalar c :: rest) ≠ some (.scalar '\ufeff') := by
    intro heq
    exact hmark (CodePoint.scalar.inj (Option.some.inj heq))
  rw [Json.parseMarked, if_neg hhead]

theorem parse_eq (room : Nat) (s : Text) :
    parse room s = match (readValue room (skipGaps s)).map Reading.parts with
      | .error e => .error (e.toError s)
      | .ok (v, rest) =>
        match skipGaps rest with
        | [] => .ok v
        | extra => .error (Stop.toError s (.fault .extraData extra.length)) := by
  rw [parse]
  cases readValue room (skipGaps s) <;> rfl

/-- The text of a plain value is read back as this value, unless it goes down too far. -/
theorem parseMarked_render (hv : v.Plain) (h : v.nesting ≤ room) :
    parseMarked room v.render = .ok v := by
  have hbegins : Begins v.render := begins_write hv []
  have hread : (readValue room v.render).map Reading.parts = .ok (v, []) :=
    (hv.recovered room [] .done).within h
  rw [hbegins.parseMarked, parse_eq, hbegins.skipGaps, hread]
  rfl

/-- The reader stops in the text of a plain value that goes down too far. -/
theorem parseMarked_render_of_lt_nesting (hv : v.Plain) (h : room < v.nesting) :
    ∃ innermost, parseMarked room v.render = .error (.tooDeep innermost) := by
  have hbegins : Begins v.render := begins_write hv []
  obtain ⟨innermost, hstop⟩ := (hv.recovered room [] .done).beyond h
  have hread : (readValue room v.render).map Reading.parts = .error (.tooDeep innermost) :=
    hstop
  refine ⟨innermost, ?_⟩
  rw [hbegins.parseMarked, parse_eq, hbegins.skipGaps, hread]
  rfl

end Json

end Easel
