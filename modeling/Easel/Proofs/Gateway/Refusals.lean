import Easel.Proofs.Gateway.Posts
import Easel.Proofs.Json.Ascii
import Easel.Proofs.Json.Limits

/-! What becomes of a body that is no object: nothing is changed, and the fault is with the client,
unless the body is beyond the limits of the reader. -/
namespace Easel

variable {room : Nat} {body : List UInt8}

/-- An unreadable body is the client's fault, unless reading it has met a limit. -/
theorem status_unreadable {e : Json.BytesError}
    (h : Json.ofBytes room body = .error e) (hwithin : ¬ Json.MeetsLimit room body) :
    (RequestError.unreadable e).status = 400 := by
  unfold Json.ofBytes at h
  split at h
  · cases h
    rfl
  · rename_i t hdecode
    split at h
    · rename_i e hparse
      cases h
      refine if_pos ?_
      by_contra he
      exact hwithin ⟨t, e, hdecode, hparse, Bool.eq_false_iff.mpr he⟩
    · cases h

theorem readBody_of_not_object
    (h : ∀ fields, Json.ofBytes room body ≠ .ok (.object fields)) :
    ∃ e, readBody room body = .error e ∧ (¬ Json.MeetsLimit room body → e.status = 400) := by
  unfold readBody
  split
  · rename_i e he
    exact ⟨_, rfl, status_unreadable he⟩
  · exact (h _ ‹_›).elim
  · exact ⟨_, rfl, fun _ => rfl⟩

theorem readBody_of_meetsLimit (h : Json.MeetsLimit room body) :
    ∃ e, readBody room body = .error e ∧ e.status = 500 := by
  obtain ⟨t, e, hdecode, hparse, he⟩ := h
  have hbytes : Json.ofBytes room body = .error (.text e) := by
    simp only [Json.ofBytes, hdecode, hparse]
  refine ⟨.unreadable (.text e), ?_, ?_⟩
  · rw [readBody, hbytes]
  · simp [RequestError.status, he]

namespace Gateway

variable {g : Gateway} {r : Request} {path : String} {room : Nat}

/-- The paths to which objects are posted. -/
def objectPaths : List String := ["/api/draw", "/api/draw/mermaid", "/api/auto", "/api/scene"]

theorem answer_of_unread (hr : r.Posts path) (hpath : path ∈ objectPaths) {e : RequestError}
    (hread : readBody g.limits.body r.body = .error e) :
    g.answer r = (g, { failed e with headers := g.cors.headersFor r }) := by
  have hrefuse : ∀ {α : Type} (f : Fields → Except RequestError α),
      (readBody g.limits.body r.body >>= f) = .error e := by
    intro α f
    rw [hread]
    rfl
  simp only [objectPaths, List.mem_cons, List.not_mem_nil, or_false] at hpath
  rcases hpath with rfl | rfl | rfl | rfl
  · rw [answer_of_posted hr rfl rfl, draw, hrefuse]
    rfl
  · rw [answer_of_posted hr rfl rfl, drawMermaid, hrefuse]
    rfl
  · rw [answer_of_posted hr rfl rfl, auto, hrefuse]
    rfl
  · rw [answer_of_posted hr rfl rfl, replaceScene, hrefuse]
    rfl

/-- A posted body that is no object changes nothing and is answered with an error. The fault is
with the client; it is with the server only if reading the body has met a limit. -/
theorem refuses_unreadable (hr : r.Posts path) (hpath : path ∈ objectPaths)
    (hbody : ∀ fields, Json.ofBytes g.limits.body r.body ≠ .ok (.object fields)) :
    (g.answer r).1 = g ∧
    (∃ why : Text, (g.answer r).2.content = .json (.record [("error", .string why)])) ∧
    (¬ Json.MeetsLimit g.limits.body r.body → (g.answer r).2.status = 400) ∧
    (Json.MeetsLimit g.limits.body r.body → (g.answer r).2.status = 500 ∧
      ∃ t, Json.decode r.body = .ok t ∧ Json.BeyondLimits g.limits.body t) := by
  obtain ⟨e, hread, hclient⟩ := readBody_of_not_object hbody
  refine ⟨?_, ?_, fun hwithin => ?_, fun hmeets => ?_⟩
  · rw [answer_of_unread hr hpath hread]
  · rw [answer_of_unread hr hpath hread]
    exact ⟨_, rfl⟩
  · rw [answer_of_unread hr hpath hread]
    exact hclient hwithin
  · obtain ⟨e, hread, hserver⟩ := readBody_of_meetsLimit hmeets
    rw [answer_of_unread hr hpath hread]
    exact ⟨hserver, Json.beyondLimits_of_meetsLimit hmeets⟩

/-- Bytes break a rule of JSON, and do not only meet a limit. -/
def breaksRule (room : Nat) (body : List UInt8) : Bool :=
  match Json.ofBytes room body with
  | .error (.text e) => e.isMalformed
  | _ => false

/-- An array that is not closed. -/
def openRequest : Request :=
  { method := "POST", path := "/api/auto", arrival := "", body := "[1, ".toUTF8.toList }

theorem refuses_unreadable_open :
    (({} : Gateway).answer openRequest).1 = {} ∧
    (({} : Gateway).answer openRequest).2.status = 400 := by
  have hmalformed : breaksRule Limits.usual.body openRequest.body = true := by decide +kernel
  have hbody : ∀ fields, Json.ofBytes Limits.usual.body openRequest.body ≠
      .ok (.object fields) := by
    intro fields h
    rw [breaksRule, h] at hmalformed
    cases hmalformed
  have hwithin : ¬ Json.MeetsLimit Limits.usual.body openRequest.body := by
    rintro ⟨t, e, hdecode, hparse, he⟩
    simp only [breaksRule, Json.ofBytes, hdecode, hparse, he] at hmalformed
    cases hmalformed
  have hpath : "/api/auto" ∈ objectPaths := by decide
  obtain ⟨hsame, -, hstatus, -⟩ :=
    refuses_unreadable (g := {}) (r := openRequest) ⟨rfl, rfl⟩ hpath hbody
  exact ⟨hsame, hstatus hwithin⟩

def onesText (n : Nat) : Text := List.replicate n (.scalar '1')

/-- A request whose body is an integer of `n` digits. -/
def onesRequest (n : Nat) : Request :=
  { method := "POST", path := "/api/draw", arrival := "", body := (onesText n).asciiBytes }

theorem onesText_succ (n : Nat) : onesText (n + 1) = .scalar '1' :: onesText n := rfl

theorem decode_ones (n : Nat) : Json.decode (onesText n).asciiBytes = .ok (onesText n) :=
  Json.decode_asciiBytes fun p hp => by rw [List.eq_of_mem_replicate hp]; rfl

theorem spanDigits_ones (n : Nat) :
    Text.spanDigits (onesText n) = (List.replicate n 1, []) := by
  induction n with
  | zero => rfl
  | succ n ih =>
    have hdigit : (CodePoint.scalar '1').digit? = some 1 := by decide
    rw [onesText_succ, Text.spanDigits]
    simp only [hdigit, ih]
    rfl

theorem wholePart_ones (n : Nat) : Json.wholePart (onesText n) = (List.replicate n 1, []) := by
  rw [Json.wholePart, spanDigits_ones]
  cases n <;> rfl

theorem readKeyword?_ones (k : Nat) :
    Json.readKeyword? (.scalar '1' :: onesText k) = none := by
  simp [Json.readKeyword?, Json.keywords, Text.ofString]

theorem readNumber_ones {k : Nat} (h : maxIntegerDigits < k + 1) :
    Json.readNumber (.scalar '1' :: onesText k) = .error (.longInteger (k + 1)) := by
  have hwhole : Json.wholePart (.scalar '1' :: onesText k) = (1 :: List.replicate k 1, []) :=
    wholePart_ones (k + 1)
  have hread : Json.readNumber (.scalar '1' :: onesText k) =
      Json.readUnsigned false (.scalar '1' :: onesText k) (.scalar '1' :: onesText k) := rfl
  rw [hread]
  unfold Json.readUnsigned
  split
  · rename_i heq
    rw [hwhole] at heq
    cases heq
  · rename_i d ds afterWhole heq
    rw [hwhole] at heq
    cases heq
    split
    rename_i hfraction
    cases hfraction
    split
    · rename_i he
      cases he
    · simp [h]

theorem parse_ones {n : Nat} (h : maxIntegerDigits < n) :
    Json.parse room (onesText n) = .error (.longInteger n) := by
  obtain ⟨k, rfl⟩ : ∃ k, n = k + 1 := Nat.exists_eq_succ_of_ne_zero (Nat.ne_zero_of_lt h)
  have hvalue : Json.readValue room (.scalar '1' :: onesText k) =
      .error (.longInteger (k + 1)) := by
    rw [Json.readValue, readKeyword?_ones, ← readNumber_ones h]
    all_goals simp
  have hgaps : Json.readValue room (Json.skipGaps (onesText (k + 1))) =
      .error (.longInteger (k + 1)) := hvalue
  rw [Json.parse, hgaps]
  rfl

theorem meetsLimit_ones {n : Nat} (h : maxIntegerDigits < n) :
    Json.MeetsLimit room (onesText n).asciiBytes :=
  ⟨onesText n, .longInteger n, decode_ones n, parse_ones h, rfl⟩

/-- An integer of too many digits is answered as if the fault were with the server. -/
theorem fault_of_ones :
    (∀ room fields, Json.ofBytes room (onesRequest 4301).body ≠ .ok (.object fields)) ∧
    (({} : Gateway).answer (onesRequest 4301)).2.status = 500 := by
  have hmeets (room : Nat) : Json.MeetsLimit room (onesRequest 4301).body :=
    meetsLimit_ones (by decide)
  refine ⟨fun room fields hbody => ?_, ?_⟩
  · obtain ⟨e, hread, -⟩ := readBody_of_meetsLimit (hmeets room)
    rw [readBody, hbody] at hread
    cases hread
  · obtain ⟨e, hread, hstatus⟩ := readBody_of_meetsLimit (hmeets Limits.usual.body)
    have hpath : "/api/draw" ∈ objectPaths := List.mem_cons_self
    rw [answer_of_unread ⟨rfl, rfl⟩ hpath hread]
    exact hstatus

end Gateway

end Easel
