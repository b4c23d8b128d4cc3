import Mathlib
import Renko.Proofs.Scalar
import Renko.Tick.Filter

/-! # What a filter keeps

A filter keeps the ticks that are sound and do not lie before the last one it kept
(`Renko.TickFilter.sifts_filterAll`), so what it keeps is in the order of time. What it rejects
leaves no trace: without any of the rejected ticks it keeps the same ones
(`Renko.TickFilter.filterAll_select`), and what is kept would be kept again
(`Renko.TickFilter.filterAll_fresh`).
-/

namespace Renko

/-- The items at chosen places, in order. -/
def select {β : Type} (items : List β) (chosen : Nat → Bool) : List β :=
  (items.zipIdx.filter fun item => chosen item.2).map (·.1)

private theorem select_concat {β : Type} (items : List β) (item : β) (chosen : Nat → Bool) :
    select (items ++ [item]) chosen =
      select items chosen ++ if chosen items.length then [item] else [] := by
  rw [select, List.zipIdx_append, List.filter_append, List.map_append, List.zipIdx_singleton,
    Nat.zero_add]
  congr 1
  cases last : chosen items.length <;> simp [last]

private theorem select_congr {β : Type} {items : List β} {first second : Nat → Bool}
    (same : ∀ place < items.length, first place = second place) :
    select items first = select items second := by
  unfold select
  congr 1
  refine List.filter_congr fun item member => same item.2 ?_
  obtain ⟨-, inside, -⟩ := List.mem_zipIdx member
  rwa [Nat.zero_add] at inside

variable {α : Type} [Scalar α]

/-- A tick that a chart may see, whenever it comes. -/
def Tick.Sound (tick : Tick α) : Prop :=
  tick.time.millis ≠ 0 ∧ Scalar.isFinite tick.price = true ∧ Scalar.isFinite tick.volume = true ∧
    ¬tick.volume < 0

instance (tick : Tick α) : Decidable tick.Sound :=
  inferInstanceAs (Decidable (_ ∧ _ ∧ _ ∧ _))

/-- What makes a tick sound, spelled out over binary64 numbers. -/
theorem Tick.sound_iff {tick : Tick Float} :
    tick.Sound ↔ tick.time.millis ≠ 0 ∧ tick.price.isFinite = true ∧
      tick.volume.isFinite = true ∧ 0 ≤ tick.volume :=
  and_congr_right fun _ => and_congr_right fun _ => and_congr_right Unpacked.not_neg_iff

namespace TickFilter

/-- When the last tick passed, if some have been kept since the filter was this one. -/
def lastKept (filter : TickFilter) (kept : List (Tick α)) : Option Instant :=
  (kept.getLast?.map (·.time)).or filter.lastTime

/-- A tick passes after earlier ones if it is sound and not before the last one kept of them. -/
def Passes (filter : TickFilter) (earlier : List (Tick α)) (tick : Tick α) : Prop :=
  tick.Sound ∧ ∀ last ∈ filter.lastKept (filter.filterAll earlier).1, last ≤ tick.time

instance (filter : TickFilter) (earlier : List (Tick α)) (tick : Tick α) :
    Decidable (filter.Passes earlier tick) :=
  inferInstanceAs (Decidable (_ ∧ _))

/-- Whether the tick at a place passes after those before it. -/
def passing (filter : TickFilter) (ticks : List (Tick α)) (place : Nat) : Bool :=
  ticks[place]?.any fun tick => decide (filter.Passes (ticks.take place) tick)

variable (filter : TickFilter) (ticks : List (Tick α)) (tick : Tick α)

/-- A filter admits a sound tick that does not go back in time. -/
theorem admits_iff {filter : TickFilter} {tick : Tick α} :
    filter.admits tick = true ↔ tick.Sound ∧ ∀ last ∈ filter.lastTime, last ≤ tick.time := by
  simp only [admits, Tick.Sound, Bool.and_eq_true, decide_eq_true_eq, Bool.not_eq_true',
    decide_eq_false_iff_not, Option.all_eq_true]
  tauto

private theorem filterAll_concat :
    filter.filterAll (ticks ++ [tick]) =
      if (filter.filterAll ticks).2.admits tick then
        ((filter.filterAll ticks).1 ++ [tick],
          { (filter.filterAll ticks).2 with lastTime := some tick.time })
      else
        ((filter.filterAll ticks).1,
          { (filter.filterAll ticks).2 with
            rejected := (filter.filterAll ticks).2.rejected + 1 }) := by
  simp only [filterAll, List.foldl_concat, collect, accept]
  split
  · rename_i admitted
    simp only [admitted, if_true, Array.toList_push]
  · rename_i rejected
    simp only [rejected, if_false, Bool.false_eq_true]

/-- A filter remembers when the last tick passed. -/
theorem lastTime_filterAll :
    (filter.filterAll ticks).2.lastTime = filter.lastKept (filter.filterAll ticks).1 := by
  induction ticks using List.reverseRecOn with
  | nil => rfl
  | append_singleton earlier tick inductionHypothesis =>
      rw [filterAll_concat]
      split
      · rw [lastKept, List.getLast?_concat]
        rfl
      · exact inductionHypothesis

/-- After some ticks a filter admits a tick that passes them. -/
theorem admits_filterAll_iff :
    (filter.filterAll ticks).2.admits tick = true ↔ filter.Passes ticks tick := by
  rw [admits_iff, lastTime_filterAll]
  rfl

/-- One more tick is kept if it passes. -/
theorem kept_concat :
    (filter.filterAll (ticks ++ [tick])).1 =
      (filter.filterAll ticks).1 ++ if filter.Passes ticks tick then [tick] else [] := by
  rw [filterAll_concat]
  simp only [admits_filterAll_iff]
  split
  · rfl
  · exact (List.append_nil _).symm

/-- It is rejected otherwise, and either way it is counted. -/
theorem rejected_concat :
    (filter.filterAll (ticks ++ [tick])).2.rejected =
      (filter.filterAll ticks).2.rejected + if filter.Passes ticks tick then 0 else 1 := by
  rw [filterAll_concat]
  simp only [admits_filterAll_iff]
  split <;> rfl

/-- A filter that has seen ticks goes on with more of them as if it had seen all in a row. -/
theorem filterAll_append (more : List (Tick α)) :
    filter.filterAll (ticks ++ more) =
      ((filter.filterAll ticks).1 ++ ((filter.filterAll ticks).2.filterAll more).1,
        ((filter.filterAll ticks).2.filterAll more).2) := by
  induction more using List.reverseRecOn with
  | nil =>
      rw [List.append_nil]
      exact Prod.ext (List.append_nil _).symm rfl
  | append_singleton earlier tick inductionHypothesis =>
      rw [← List.append_assoc, filterAll_concat, inductionHypothesis, filterAll_concat]
      split
      · rw [List.append_assoc]
      · rfl

private theorem lt_of_passing {filter : TickFilter} {ticks : List (Tick α)} {place : Nat}
    (passes : filter.passing ticks place = true) : place < ticks.length := by
  obtain ⟨tick, found, -⟩ := (Option.any_eq_true _ _).mp passes
  exact (List.getElem?_eq_some_iff.mp found).1

private theorem passing_concat_of_lt {place : Nat} (inside : place < ticks.length) :
    filter.passing (ticks ++ [tick]) place = filter.passing ticks place := by
  rw [passing, passing, List.getElem?_append_left inside, List.take_append_of_le_length inside.le]

private theorem passing_concat_self :
    filter.passing (ticks ++ [tick]) ticks.length = decide (filter.Passes ticks tick) := by
  rw [passing, List.getElem?_concat_length, List.take_left]
  rfl

/-- **Deleting rejected ticks changes nothing.** At whatever places ticks are left, those that pass
among them, the same ones are kept. -/
theorem filterAll_select {chosen : Nat → Bool}
    (spared : ∀ place, filter.passing ticks place = true → chosen place = true) :
    (filter.filterAll (select ticks chosen)).1 = (filter.filterAll ticks).1 := by
  induction ticks using List.reverseRecOn with
  | nil => rfl
  | append_singleton earlier tick inductionHypothesis =>
      have same := inductionHypothesis fun place passes => spared place
        ((filter.passing_concat_of_lt earlier tick (lt_of_passing passes)).trans passes)
      have alike : filter.Passes (select earlier chosen) tick ↔ filter.Passes earlier tick := by
        rw [Passes, Passes, same]
      rw [select_concat, kept_concat]
      cases stays : chosen earlier.length with
      | true =>
          rw [if_pos rfl, kept_concat, same]
          simp only [alike]
      | false =>
          have rejected : ¬filter.Passes earlier tick := by
            intro passes
            have left := spared earlier.length
              ((filter.passing_concat_self earlier tick).trans (decide_eq_true passes))
            exact Bool.false_ne_true (stays.symm.trans left)
          rw [if_neg Bool.false_ne_true, if_neg rejected, List.append_nil, List.append_nil, same]

/-- What a filter makes of ticks: it keeps those that pass, in their order, which is that of time;
it remembers when the last one passed; and it counts the others. -/
structure Sifts (filter : TickFilter) (ticks kept : List (Tick α)) (later : TickFilter) : Prop where
  selected : kept = select ticks (filter.passing ticks)
  ordered : kept.Pairwise fun first second => first.time ≤ second.time
  remembered : later.lastTime = filter.lastKept kept
  counted : kept.length + later.rejected = filter.rejected + ticks.length

/-- What is kept are the ticks at the places that pass. -/
theorem kept_eq_select :
    (filter.filterAll ticks).1 = select ticks (filter.passing ticks) := by
  induction ticks using List.reverseRecOn with
  | nil => rfl
  | append_singleton earlier tick inductionHypothesis =>
      rw [kept_concat, select_concat, passing_concat_self, inductionHypothesis,
        select_congr fun place inside => filter.passing_concat_of_lt earlier tick inside]
      simp only [decide_eq_true_eq]

omit [Scalar α] in
/-- Ticks in the order of time are none of them after the last one. -/
theorem le_of_pairwise {kept : List (Tick α)}
    (ordered : kept.Pairwise fun first second => first.time ≤ second.time) {last : Tick α}
    (final : kept.getLast? = some last) : ∀ tick ∈ kept, tick.time ≤ last.time := by
  obtain ⟨before, rfl⟩ := List.getLast?_eq_some_iff.mp final
  obtain ⟨-, -, upTo⟩ := List.pairwise_append.mp ordered
  refine List.forall_mem_append.mpr ⟨fun tick earlier => ?_, ?_⟩
  · exact upTo tick earlier last (List.mem_singleton.mpr rfl)
  · exact List.forall_mem_singleton.mpr (Int.le_refl _)

/-- What passes is not before anything kept. -/
theorem pairwise_kept :
    (filter.filterAll ticks).1.Pairwise fun first second => first.time ≤ second.time := by
  induction ticks using List.reverseRecOn with
  | nil => exact .nil
  | append_singleton earlier tick inductionHypothesis =>
      rw [kept_concat]
      by_cases passes : filter.Passes earlier tick
      · rw [if_pos passes]
        refine List.pairwise_append.mpr ⟨inductionHypothesis, List.pairwise_singleton _ _, ?_⟩
        intro first among second same
        obtain rfl := List.mem_singleton.mp same
        have final := List.getLast?_eq_some_getLast (List.ne_nil_of_mem among)
        have upTo := le_of_pairwise inductionHypothesis final first among
        refine Int.le_trans upTo (passes.2 _ ?_)
        rw [lastKept, final]
        rfl
      · rw [if_neg passes, List.append_nil]
        exact inductionHypothesis

/-- Every tick is either kept or counted as rejected. -/
theorem length_kept :
    (filter.filterAll ticks).1.length + (filter.filterAll ticks).2.rejected =
      filter.rejected + ticks.length := by
  induction ticks using List.reverseRecOn with
  | nil => exact Nat.add_comm _ _
  | append_singleton earlier tick inductionHypothesis =>
      rw [kept_concat, rejected_concat, List.length_append, List.length_append]
      split <;> simp only [List.length_singleton, List.length_nil] <;> omega

/-- **A filter sifts ticks**, whatever it has seen before. -/
theorem sifts_filterAll :
    filter.Sifts ticks (filter.filterAll ticks).1 (filter.filterAll ticks).2 :=
  ⟨filter.kept_eq_select ticks, filter.pairwise_kept ticks, filter.lastTime_filterAll ticks,
    filter.length_kept ticks⟩

/-- All ticks that are kept are sound. -/
theorem sound_of_mem_kept : ∀ kept ∈ (filter.filterAll ticks).1, kept.Sound := by
  induction ticks using List.reverseRecOn with
  | nil => exact fun kept absent => nomatch absent
  | append_singleton earlier tick inductionHypothesis =>
      rw [kept_concat]
      refine List.forall_mem_append.mpr ⟨inductionHypothesis, ?_⟩
      split
      · rename_i passes
        exact List.forall_mem_singleton.mpr passes.1
      · exact fun kept absent => nomatch absent

/-- A fresh filter keeps sound ticks that are in the order of time. -/
theorem filterAll_fresh {ticks : List (Tick α)} (sound : ∀ tick ∈ ticks, tick.Sound)
    (ordered : ticks.Pairwise fun first second => first.time ≤ second.time) :
    (fresh.filterAll ticks).1 = ticks := by
  induction ticks using List.reverseRecOn with
  | nil => rfl
  | append_singleton earlier tick inductionHypothesis =>
      obtain ⟨soundEarlier, soundNow⟩ := List.forall_mem_append.mp sound
      obtain ⟨orderedEarlier, -, upTo⟩ := List.pairwise_append.mp ordered
      have all := inductionHypothesis soundEarlier orderedEarlier
      have passes : fresh.Passes earlier tick := by
        refine ⟨soundNow tick (List.mem_singleton.mpr rfl), fun last kept => ?_⟩
        rw [all, lastKept, fresh, Option.or_none] at kept
        obtain ⟨before, final, rfl⟩ := Option.map_eq_some_iff.mp kept
        exact upTo before (List.mem_of_getLast? final) tick (List.mem_singleton.mpr rfl)
      rw [kept_concat, all, if_pos passes]

/-- **Ticks are sifted, and what is rejected leaves no trace.** A filter in whatever state keeps, in
their order, the ticks that are sound and do not lie before the last one kept; deleting rejected
ticks, any of them, changes nothing that is kept; a fresh filter keeps all that was kept; and ticks
in two parts are sifted like ticks in a row. -/
theorem ticks_sifted :
    (∀ tick : Tick Float, tick.Sound ↔ tick.time.millis ≠ 0 ∧ tick.price.isFinite = true ∧
      tick.volume.isFinite = true ∧ 0 ≤ tick.volume) ∧
    ∀ (filter : TickFilter) (ticks : List (Tick Float)),
      filter.Sifts ticks (filter.filterAll ticks).1 (filter.filterAll ticks).2 ∧
      (∀ chosen : Nat → Bool, (∀ place, filter.passing ticks place = true → chosen place = true) →
        (filter.filterAll (select ticks chosen)).1 = (filter.filterAll ticks).1) ∧
      (fresh.filterAll (filter.filterAll ticks).1).1 = (filter.filterAll ticks).1 ∧
      ∀ more, filter.filterAll (ticks ++ more) =
        ((filter.filterAll ticks).1 ++ ((filter.filterAll ticks).2.filterAll more).1,
          ((filter.filterAll ticks).2.filterAll more).2) := by
  refine ⟨fun tick => Tick.sound_iff, fun filter ticks => ?_⟩
  refine ⟨filter.sifts_filterAll ticks, ?_, ?_, ?_⟩
  · exact fun chosen spared => filter.filterAll_select ticks spared
  · exact filterAll_fresh (filter.sound_of_mem_kept ticks) (filter.pairwise_kept ticks)
  · exact filter.filterAll_append ticks

/-- A tick at the start of 1970, an older one, an undefined price and a negative volume are
rejected; the older one and the undefined one are deleted. -/
theorem ticks_sifted_of_mixed :
    let tick (ms : Int) (price volume : Float) : Tick Float := ⟨.ofMillis ms, price, volume⟩
    let ticks := [tick 0 100 1, tick 2000 101 1, tick 1000 102 1, tick 2000 (0 / 0) 1,
      tick 2000 103 (-0), tick 3000 104 (-1)]
    let chosen (place : Nat) : Bool := place != 2 && place != 3
    (fresh.filterAll ticks).1.map (·.time.millis) = [2000, 2000] ∧
    (fresh.filterAll ticks).2.rejected = 4 ∧
    (∀ place, fresh.passing ticks place = true → chosen place = true) ∧
    (select ticks chosen).length = 4 ∧
    (fresh.filterAll (select ticks chosen)).1 = (fresh.filterAll ticks).1 := by
  intro tick ticks chosen
  have spared : ∀ place, fresh.passing ticks place = true → chosen place = true := by
    intro place passes
    have inside : place < 6 := lt_of_passing passes
    exact (by decide +kernel :
      ∀ place < 6, fresh.passing ticks place = true → chosen place = true) place inside passes
  exact ⟨by decide +kernel, by decide +kernel, spared, by decide +kernel,
    (ticks_sifted.2 fresh ticks).2.1 chosen spared⟩

end TickFilter

end Renko
