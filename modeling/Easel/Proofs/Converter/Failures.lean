import Easel.Proofs.Converter.Fallback
import Easel.Proofs.Json.Limits

/-! How a conversion by a process can fail, and what it leaves of the process. -/
namespace Easel

variable {c : Npx} {run : Run} {room : Nat} {output : List UInt8} {e : ConverterFailure}
  {directory definition : String}

/-- An output that is not UTF-8, or that the reader gives up on at one of its limits. -/
def Unreadable (room : Nat) (output : List UInt8) : Prop :=
  (∃ e, Utf8.decode output = .error e) ∨
    ∃ text e, Utf8.decode output = .ok text ∧
      Json.parseMarked room (unifyLineEnds text) = .error e ∧ e.isMalformed = false

/-- A process that has ended well leaves an output of that kind. -/
def Run.LeavesUnreadable (run : Run) (room : Nat) : Prop :=
  ∃ errors output, run = .ends 0 errors (some output) ∧ output ≠ [] ∧ Unreadable room output

/-- Whether an output in UTF-8 is of that kind is for the reader to say. -/
theorem unreadable_iff_of_decode {text : Text} (hdecode : Utf8.decode output = .ok text) :
    Unreadable room output ↔
      ∃ e, Json.parseMarked room (unifyLineEnds text) = .error e ∧ e.isMalformed = false := by
  constructor
  · rintro (⟨e, hbad⟩ | ⟨text', e, hdecode', hparse, hlimit⟩)
    · cases hdecode.symm.trans hbad
    · obtain rfl := Except.ok.inj (hdecode.symm.trans hdecode')
      exact ⟨e, hparse, hlimit⟩
  · rintro ⟨e, hparse, hlimit⟩
    exact .inr ⟨text, e, hdecode, hparse, hlimit⟩

theorem isReported_of_readOutput (h : readOutput room output = .error e) :
    e.isReported = true ↔ ¬ Unreadable room output := by
  unfold readOutput at h
  split at h
  · rename_i why hdecode
    cases h
    exact iff_of_false Bool.false_ne_true (not_not.mpr (.inl ⟨why, hdecode⟩))
  · rename_i text hdecode
    rw [unreadable_iff_of_decode hdecode]
    split at h
    · rename_i why hparse
      cases h
      change why.isMalformed = true ↔ _
      simp [hparse]
    · rename_i v hparse
      split at h
      · cases h
      · cases h
        exact iff_of_true rfl (by simp [hparse])

/-- What does not get as far as an output to be read is always reported. -/
theorem isReported_of_unread (hreported : e.isReported = true)
    (h : ∀ errors output, run = .ends 0 errors (some output) → output = []) :
    e.isReported = true ↔ ¬ run.LeavesUnreadable room := by
  refine iff_of_true hreported ?_
  rintro ⟨errors, output, hrun, hne, -⟩
  exact hne (h errors output hrun)

theorem isReported_of_elementsOf (h : c.elementsOf run = .error e) :
    e.isReported = true ↔ ¬ run.LeavesUnreadable c.room := by
  cases run with
  | notStarted reason =>
    cases h
    exact isReported_of_unread rfl (by intro errors output hrun; cases hrun)
  | hangs gone =>
    cases h
    exact isReported_of_unread rfl (by intro errors output hrun; cases hrun)
  | ends code errors output =>
    by_cases hcode : code = 0
    · subst hcode
      match output with
      | none =>
        cases h
        exact isReported_of_unread rfl (by intro errors output hrun; cases hrun)
      | some [] =>
        cases h
        exact isReported_of_unread rfl (by intro errors output hrun; cases hrun; rfl)
      | some (b :: bs) =>
        have hread : readOutput c.room (b :: bs) = .error e := h
        rw [isReported_of_readOutput hread, not_iff_not]
        constructor
        · intro hbad
          exact ⟨errors, b :: bs, rfl, List.cons_ne_nil b bs, hbad⟩
        · rintro ⟨errors', output', hrun, -, hbad⟩
          cases hrun
          exact hbad
    · simp only [Npx.elementsOf, ne_eq, hcode, not_false_eq_true, if_true] at h
      cases h
      refine isReported_of_unread rfl fun errors output hrun => ?_
      cases hrun
      exact (hcode rfl).elim

/-- Such an output has bytes that are not UTF-8, digits or brackets beyond all measure. -/
theorem Run.LeavesUnreadable.cause (h : run.LeavesUnreadable room) :
    ∃ errors output, run = .ends 0 errors (some output) ∧
      ((∃ e, Utf8.decode output = .error e) ∨
        ∃ text, Utf8.decode output = .ok text ∧ Json.BeyondLimits room (unifyLineEnds text)) := by
  obtain ⟨errors, output, hrun, -, hbad⟩ := h
  refine ⟨errors, output, hrun, hbad.imp_right ?_⟩
  rintro ⟨text, e, hdecode, hparse, hlimit⟩
  refine ⟨text, hdecode, ?_⟩
  unfold Json.parseMarked at hparse
  split at hparse
  · cases hparse
    cases hlimit
  · exact Json.beyondLimits_of_parse hparse hlimit

namespace Child

/-- Whatever it was doing, a process is there no longer when all is done. -/
theorem process_cleanUp (c : Child) : c.cleanUp.process = .collected := by
  unfold cleanUp
  split
  · assumption
  · rename_i hleft
    cases hc : c.process with
    | collected => exact (hleft hc).elim
    | running | ended => simp only [take, hc, Process.after]

/-- A process that has not been waited for is killed and then waited for. -/
theorem removals_cleanUp {c : Child} (h : c.process ≠ .collected) :
    c.cleanUp.removals = c.removals ++ [.kill, .wait] := by
  simp [cleanUp, h, take]

end Child

namespace Npx

theorem result_convert :
    (c.convert directory (.ofString definition) run).result = c.elementsOf run := by
  simp [convert, Text.toString?_ofString]

theorem child_convert :
    (c.convert directory (.ofString definition) run).child =
      run.process?.map fun p => Child.cleanUp { process := p } := by
  simp [convert, Text.toString?_ofString]

/-- A conversion that is cancelled leaves nothing either. -/
theorem cancelled_cleanUp (gone : Bool) :
    (cancelled gone).process = .collected ∧ (cancelled gone).removals = [.kill, .wait] := by
  refine ⟨Child.process_cleanUp _, Child.removals_cleanUp ?_⟩
  cases gone <;> decide

/-- A conversion gives the elements exactly if the process delivers them. All else that can become
of the process is a failure that the converter reports as its own, but for an output that is not
UTF-8 or that has more digits or brackets in it than the reader can follow. However it ends, and
also if it is cancelled, no process that was started is left, and one that had not been waited for
is killed and then waited for. -/
theorem convert_reports (c : Npx) (directory definition : String) (run : Run) :
    (∀ items, (c.convert directory (.ofString definition) run).result = .ok items ↔
      run.Delivers c.room items) ∧
    (∀ e, (c.convert directory (.ofString definition) run).result = .error e →
      (e.isReported = true ↔ ¬ run.LeavesUnreadable c.room)) ∧
    (run.LeavesUnreadable c.room → ∃ errors output, run = .ends 0 errors (some output) ∧
      ((∃ e, Utf8.decode output = .error e) ∨
        ∃ text, Utf8.decode output = .ok text ∧ Json.BeyondLimits c.room (unifyLineEnds text))) ∧
    (∀ p, (c.convert directory (.ofString definition) run).process = some p → p = .collected) ∧
    (∀ p, run.process? = some p → p ≠ .collected →
      (c.convert directory (.ofString definition) run).removals = [.kill, .wait]) ∧
    ∀ gone, (cancelled gone).process = .collected ∧ (cancelled gone).removals = [.kill, .wait] := by
  refine ⟨fun items => ?_, fun e he => ?_, fun h => h.cause, fun p hp => ?_, fun p hp hleft => ?_,
    cancelled_cleanUp⟩
  · rw [result_convert, elementsOf_eq_ok_iff]
  · rw [result_convert] at he
    exact isReported_of_elementsOf he
  · rw [Conversion.process, child_convert, Option.map_map] at hp
    obtain ⟨q, -, rfl⟩ := Option.map_eq_some_iff.mp hp
    exact Child.process_cleanUp _
  · rw [Conversion.removals, child_convert, hp]
    exact Child.removals_cleanUp hleft

/-- A process that has ended on its own just when its time is up. -/
theorem convert_reports_hanging :
    (∃ e,
      (({ timeout := .whole 60 } : Npx).convert "" (.ofString "graph TD") (.hangs true)).result =
        .error e ∧ e.isReported = true) ∧
    (({ timeout := .whole 60 } : Npx).convert "" (.ofString "graph TD") (.hangs true)).removals =
      [.kill, .wait] := by
  obtain ⟨-, hreports, -, -, hremoved, -⟩ :=
    convert_reports { timeout := .whole 60 } "" "graph TD" (.hangs true)
  refine ⟨⟨.timedOut (.whole 60), ?_, ?_⟩, hremoved .ended rfl (by decide)⟩
  · rw [result_convert]
    rfl
  · refine (hreports _ (by rw [result_convert]; rfl)).mpr ?_
    rintro ⟨errors, output, hrun, -⟩
    cases hrun

/-- A byte that begins no character is not reported as a failure of the converter. -/
theorem unreported_byte :
    ∃ e, (({ timeout := .whole 60 } : Npx).convert "" (.ofString "graph TD")
      (.ends 0 [] (some [0xff]))).result = .error e ∧ e.isReported = false := by
  have hdecode : Utf8.decode [0xff] = .error ⟨"utf-8", 0, [0xff], .invalidStart⟩ := by
    rw [Utf8.decode, Utf8.decodeFrom]
    rfl
  refine ⟨.notUtf8 ⟨"utf-8", 0, [0xff], .invalidStart⟩, ?_, rfl⟩
  rw [result_convert]
  simp [elementsOf, readOutput, hdecode]

end Npx

end Easel
