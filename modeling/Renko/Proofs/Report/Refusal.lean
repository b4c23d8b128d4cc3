import Mathlib
import Renko.Proofs.Csv.Scanner
import Renko.Proofs.Report

/-! # Reports that are refused

The bytes of a report go through a buffer, and a receiver that refuses every byte is noticed when
the buffer is handed on: in a row that overflows it, or at the end (`Renko.Report.sent_eq_refuse`).
So it depends on the length of the report which fault is reported, and only a report of nothing is
sent without one (`Renko.Report.refusals_noticed`).
-/

namespace Renko.Report

/-- What a row that overflows the buffer fails with. -/
def overflow (reason : String) : Fault := .tickData ("CSV write error: " ++ reason)

/-! ### Byte by byte -/

/-- Puts bytes behind those that wait in the buffer. A byte that finds no room makes the waiting
ones be handed on; if the receiver does not take them the bytes are lost. -/
def put (takes : List UInt8 → Bool) : List UInt8 → List UInt8 → Option (List UInt8)
  | waiting, [] => some waiting
  | waiting, byte :: bytes =>
    if waiting.length < bufferSize then put takes (waiting ++ [byte]) bytes
    else if takes waiting then put takes [byte] bytes
    else none

/-- Puts lines behind the bytes that wait, and hands on what waits after the last one. -/
def sent (takes : List UInt8 → Bool) (reason : String) :
    List UInt8 → List String → Except Fault Unit
  | waiting, [] => if takes waiting then .ok () else .error (.storage reason)
  | waiting, line :: lines =>
    match put takes waiting (Utf8.encode line) with
    | some waiting => sent takes reason waiting lines
    | none => .error (overflow reason)

/-- In front of a receiver that takes nothing, the buffer only fills up. -/
theorem put_refused {waiting : List UInt8} (room : waiting.length ≤ bufferSize)
    (bytes : List UInt8) :
    put List.isEmpty waiting bytes =
      if bufferSize < waiting.length + bytes.length then none else some (waiting ++ bytes) := by
  induction bytes generalizing waiting with
  | nil => rw [put, List.length_nil, Nat.add_zero, if_neg (not_lt.mpr room), List.append_nil]
  | cons byte bytes inductionHypothesis =>
      rw [put]
      by_cases more : waiting.length < bufferSize
      · have length : (waiting ++ [byte]).length = waiting.length + 1 := List.length_append
        rw [if_pos more, inductionHypothesis (by rw [length]; exact more), length, List.length_cons,
          List.append_assoc, List.singleton_append, Nat.add_right_comm, ← Nat.add_assoc]
      · have filled : waiting.isEmpty = false := by
          rw [List.isEmpty_eq_false_iff, ← List.length_pos_iff]
          exact (by decide : 0 < bufferSize).trans_le (not_lt.mp more)
        have full : bufferSize < waiting.length + (byte :: bytes).length := by
          rw [List.length_cons]
          omega
        rw [if_neg more, filled, if_neg Bool.false_ne_true, if_pos full]

/-- A line makes the buffer overflow just as its bytes do. -/
theorem sent_eq_refuse (reason : String) {waiting : List UInt8}
    (room : waiting.length ≤ bufferSize) (lines : List String) :
    sent List.isEmpty reason waiting lines = refuse reason waiting.length lines := by
  induction lines generalizing waiting with
  | nil =>
      rw [sent, refuse]
      simp only [List.isEmpty_iff, List.length_eq_zero_iff]
  | cons line lines inductionHypothesis =>
      have size : (waiting ++ Utf8.encode line).length = waiting.length + line.utf8ByteSize := by
        rw [List.length_append, Utf8.length_encode]
      rw [sent, refuse, put_refused room, Utf8.length_encode]
      by_cases full : bufferSize < waiting.length + line.utf8ByteSize
      · simp only [if_pos full]
        rfl
      · simp only [if_neg full]
        rw [inductionHypothesis (size ▸ not_lt.mp full), size]

/-! ### The length decides -/

private theorem utf8ByteSize_text_cons (line : String) (lines : List String) :
    (text (line :: lines)).utf8ByteSize = line.utf8ByteSize + (text lines).utf8ByteSize := by
  rw [text, text, String.join_cons, String.utf8ByteSize_append]

/-- **Where a refusal is noticed.** Behind bytes that fit the buffer, lines overflow it if all of
them together do. -/
theorem refuse_eq (reason : String) {waiting : Nat} (room : waiting ≤ bufferSize)
    (lines : List String) :
    refuse reason waiting lines =
      if bufferSize < waiting + (text lines).utf8ByteSize then .error (overflow reason)
      else if waiting + (text lines).utf8ByteSize = 0 then .ok ()
      else .error (.storage reason) := by
  -- the buffer is never emptied, so each line leaves more waiting for the next one
  induction lines generalizing waiting with
  | nil =>
      have nothing : (text []).utf8ByteSize = 0 := rfl
      rw [refuse, nothing, Nat.add_zero, if_neg (not_lt.mpr room)]
  | cons line lines inductionHypothesis =>
      rw [refuse, utf8ByteSize_text_cons, ← Nat.add_assoc]
      by_cases full : bufferSize < waiting + line.utf8ByteSize
      · rw [if_pos full, if_pos (full.trans_le (Nat.le_add_right _ _)), overflow]
      · rw [if_neg full]
        exact inductionHypothesis (not_lt.mp full)

/-- A refused report ends well only without a byte; its length decides the fault. -/
theorem send_refusing (reason : String) (lines : List String) :
    send (.refusing reason) lines =
      if bufferSize < (text lines).utf8ByteSize then .error (overflow reason)
      else if text lines = "" then .ok ""
      else .error (.storage reason) := by
  rw [send, refuse_eq reason (Nat.zero_le _), Nat.zero_add]
  simp only [String.utf8ByteSize_eq_zero_iff]
  split
  · rfl
  · split <;> rfl

/-- How the report of rows ends at a receiver that refuses every byte: without a fault if there are
no rows, in a row if the text of the report is longer than the buffer, and else at the end. -/
structure Noticed {Row : Type} (rows : List Row) (text reason : String)
    (outcome : Except Fault String) : Prop where
  sent : (∃ kept, outcome = .ok kept) ↔ rows = []
  atEnd : outcome = .error (.storage reason) ↔ rows ≠ [] ∧ text.utf8ByteSize ≤ bufferSize
  inRow : outcome = .error (overflow reason) ↔ bufferSize < text.utf8ByteSize
  status : ∀ fault, outcome = .error fault →
    fault.exitStatus = if bufferSize < text.utf8ByteSize then 3 else 1

/-- However its rows are laid out, a report that is refused is noticed. -/
theorem Layout.noticed {Row : Type} (layout : Layout Row) (rows : List Row) (reason : String) :
    Noticed rows (layout.text rows) reason
      (send (.refusing reason) (lines layout.header (rows.map layout.fields))) := by
  have nothing := (layout.tells rows).empty
  rw [send_refusing, ← Layout.text]
  by_cases long : bufferSize < (layout.text rows).utf8ByteSize
  · have filled : rows ≠ [] := by
      intro none
      rw [nothing.mpr none] at long
      exact absurd long (by decide)
    rw [if_pos long]
    constructor
    case sent => simp only [reduceCtorEq, exists_const, filled]
    case atEnd => simp only [overflow, Except.error.injEq, reduceCtorEq, not_le.mpr long, and_false]
    case inRow => exact iff_of_true rfl long
    case status =>
      intro fault same
      obtain rfl := Except.error.inj same
      rw [if_pos long]
      rfl
  · have fits : (layout.text rows).utf8ByteSize ≤ bufferSize := not_lt.mp long
    rw [if_neg long]
    by_cases none : rows = []
    · rw [if_pos (nothing.mpr none)]
      constructor
      case sent => exact iff_of_true ⟨_, rfl⟩ none
      case atEnd => simp only [reduceCtorEq, none, ne_eq, not_true_eq_false, false_and]
      case inRow => simp only [reduceCtorEq, long]
      case status =>
        intro fault same
        cases same
    · rw [if_neg (mt nothing.mp none)]
      constructor
      case sent => simp only [reduceCtorEq, exists_const, none]
      case atEnd => exact iff_of_true rfl ⟨none, fits⟩
      case inRow => simp only [overflow, Except.error.injEq, reduceCtorEq, long]
      case status =>
        intro fault same
        obtain rfl := Except.error.inj same
        rw [if_neg long]
        rfl

/-- **Refusals are noticed.** Sending to a receiver that refuses is putting bytes into a buffer in
front of one that takes no write but the empty one. A report of bricks or of positions is then sent
without a fault only if there are none; else it depends on the length of its text, which is what a
receiver that keeps it gets, where and with which fault it ends. -/
theorem refusals_noticed (reason : String) :
    (∀ lines : List String,
      (sent List.isEmpty reason [] lines).map (fun _ => "") = send (.refusing reason) lines) ∧
    (∀ bricks : List (Brick Float), ∃ text, send .keeping (ofBricks bricks) = .ok text ∧
      Noticed bricks text reason (send (.refusing reason) (ofBricks bricks))) ∧
    ∀ positions : List (Position Float), ∃ text, send .keeping (ofPositions positions) = .ok text ∧
      Noticed positions text reason (send (.refusing reason) (ofPositions positions)) := by
  refine ⟨fun lines => ?_, fun bricks => ⟨_, rfl, brickLayout.noticed bricks reason⟩,
    fun positions => ⟨_, rfl, positionLayout.noticed positions reason⟩⟩
  rw [sent_eq_refuse reason (Nat.zero_le _), send]
  rfl

end Renko.Report
