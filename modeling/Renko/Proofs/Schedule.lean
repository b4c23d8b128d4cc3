import Mathlib
import Renko.Proofs.Scalar
import Renko.Schedule

/-! # Schedules

What a schedule that is built can put in force, and which size that is at an instant.
-/

/-! ## Schedules are valid and in order

A schedule is built from valid sizes only, so a size that it puts in force is valid
(`Renko.Schedule.valid_of_sizeAt`). It is built in the order of time, so the size in force is that
of the last entry before, and no later one has a part in it (`Renko.Schedule.sizeAt_of_built`).
-/

namespace Renko.Schedule

variable {α : Type} [Scalar α]

/-- All sizes are checked in the order given, up to the first one that is invalid. -/
theorem forM_check_eq (entries : List (ScheduleEntry α)) :
    (entries.forM fun entry => discard (checkBrickSize entry.size)) =
      match entries.find? fun entry => !validBrickSize entry.size with
      | none => .ok ()
      | some entry => .error (.invalidBrickSize entry.size) := by
  induction entries with
  | nil => rfl
  | cons entry entries inductionHypothesis =>
      rw [List.find?_cons]
      change (discard (checkBrickSize entry.size) >>= fun _ => entries.forM _) = _
      cases valid : validBrickSize entry.size with
      | true =>
          rw [checkBrickSize_of_valid valid]
          exact inductionHypothesis
      | false =>
          rw [checkBrickSize_of_invalid valid]
          rfl

/-- Entries are refused for the first invalid size among them, and for nothing else. -/
theorem ofEntries_eq (entries : List (ScheduleEntry α)) :
    ofEntries entries =
      match entries.find? fun entry => !validBrickSize entry.size with
      | none => .ok ⟨entries.mergeSort fun first second => decide (first.time ≤ second.time)⟩
      | some entry => .error (.invalidBrickSize entry.size) := by
  rw [ofEntries, forM_check_eq]
  cases entries.find? fun entry => !validBrickSize entry.size <;> rfl

/-- A schedule is built if all sizes are valid, of the entries in the order of time. -/
theorem ofEntries_eq_ok {entries : List (ScheduleEntry α)} {schedule : Schedule α} :
    ofEntries entries = .ok schedule ↔
      (∀ entry ∈ entries, validBrickSize entry.size = true) ∧
        ⟨entries.mergeSort fun first second => decide (first.time ≤ second.time)⟩ = schedule := by
  have passes : (∀ entry ∈ entries, validBrickSize entry.size = true) ↔
      (entries.find? fun entry => !validBrickSize entry.size) = none := by
    simp only [List.find?_eq_none, Bool.not_eq_true', Bool.not_eq_false]
  rw [passes, ofEntries_eq]
  cases entries.find? fun entry => !validBrickSize entry.size with
  | none => rw [and_iff_right rfl, Except.ok.injEq]
  | some entry => exact iff_of_false (fun built => nomatch built) fun both => nomatch both.1

/-- Otherwise the first invalid size, as the entries are given, is refused. -/
theorem ofEntries_eq_error {entries : List (ScheduleEntry α)} {cause : TradeFault α} :
    ofEntries entries = .error cause ↔
      ∃ entry, (entries.find? fun entry => !validBrickSize entry.size) = some entry ∧
        cause = .invalidBrickSize entry.size := by
  rw [ofEntries_eq]
  cases entries.find? fun entry => !validBrickSize entry.size with
  | none => exact iff_of_false (fun refused => nomatch refused) fun ⟨_, found, _⟩ => nomatch found
  | some entry => simp only [Except.error.injEq, Option.some.injEq, exists_eq_left', eq_comm]

/-- Entries that are refused have an invalid size among them. -/
theorem exists_invalid_of_ofEntries {entries : List (ScheduleEntry α)} {cause : TradeFault α}
    (refused : ofEntries entries = .error cause) :
    ∃ entry ∈ entries, ¬validBrickSize entry.size = true := by
  obtain ⟨entry, found, -⟩ := ofEntries_eq_error.mp refused
  refine ⟨entry, List.mem_of_find?_eq_some found, ?_⟩
  simpa using List.find?_some found

/-- Valid entries that are in the order of time make a schedule as they are. -/
theorem ofEntries_of_ordered {entries : List (ScheduleEntry α)}
    (valid : ∀ entry ∈ entries, validBrickSize entry.size = true)
    (ordered : entries.Pairwise fun first second => first.time ≤ second.time) :
    ofEntries entries = .ok ⟨entries⟩ := by
  refine ofEntries_eq_ok.mpr ⟨valid, ?_⟩
  rw [List.mergeSort_of_pairwise (ordered.imp decide_eq_true)]

/-- One entry with a valid size is a schedule. -/
theorem ofEntries_singleton {entry : ScheduleEntry α} (valid : validBrickSize entry.size = true) :
    ofEntries [entry] = .ok ⟨[entry]⟩ :=
  ofEntries_of_ordered (List.forall_mem_singleton.mpr valid) (List.pairwise_singleton _ _)

/-- A schedule that is valid and in order could have been built. -/
theorem built_of_ordered {table : Schedule α}
    (valid : ∀ entry ∈ table.entries, validBrickSize entry.size = true)
    (ordered : table.entries.Pairwise fun first second => first.time ≤ second.time) :
    ∀ scheduled ∈ some table, ∃ entries, ofEntries entries = .ok scheduled := by
  intro scheduled chosen
  obtain rfl := Option.some.inj chosen
  exact ⟨table.entries, ofEntries_of_ordered valid ordered⟩

/-- A size in force is valid. -/
theorem valid_of_sizeAt {entries : List (ScheduleEntry α)} {schedule : Schedule α}
    (built : ofEntries entries = .ok schedule) {time : Instant} {size : α}
    (inForce : schedule.sizeAt time = some size) : validBrickSize size = true := by
  obtain ⟨valid, rfl⟩ := ofEntries_eq_ok.mp built
  obtain ⟨entry, latest, rfl⟩ := Option.map_eq_some_iff.mp inForce
  have earlier := List.takeWhile_subset _ (List.mem_of_getLast? latest)
  exact valid entry (List.mem_mergeSort.mp earlier)

/-- The sizes of a schedule that was built, or of none, are valid. -/
theorem valid_of_built {schedule : Option (Schedule α)}
    (built : ∀ table ∈ schedule, ∃ entries, ofEntries entries = .ok table) :
    ∀ time, ∀ size ∈ schedule.bind (·.sizeAt time), validBrickSize size = true := by
  intro time size inForce
  obtain ⟨table, chosen, sized⟩ := Option.bind_eq_some_iff.mp inForce
  obtain ⟨entries, ofEntries⟩ := built table chosen
  exact valid_of_sizeAt ofEntries sized

omit [Scalar α] in
private theorem ordering_trans (first second third : ScheduleEntry α)
    (early : decide (first.time ≤ second.time) = true)
    (late : decide (second.time ≤ third.time) = true) :
    decide (first.time ≤ third.time) = true :=
  decide_eq_true (Int.le_trans (of_decide_eq_true early) (of_decide_eq_true late))

omit [Scalar α] in
private theorem ordering_total (first second : ScheduleEntry α) :
    (decide (first.time ≤ second.time) || decide (second.time ≤ first.time)) = true := by
  rw [Bool.or_eq_true]
  exact (Int.le_total first.time.nanos second.time.nanos).imp decide_eq_true decide_eq_true

/-- The entries of a schedule that was built are in the order of their times. -/
theorem pairwise_of_ofEntries {entries : List (ScheduleEntry α)} {schedule : Schedule α}
    (built : ofEntries entries = .ok schedule) :
    schedule.entries.Pairwise fun first second => first.time ≤ second.time := by
  obtain ⟨-, rfl⟩ := ofEntries_eq_ok.mp built
  exact (List.pairwise_mergeSort ordering_trans ordering_total entries).imp of_decide_eq_true

omit [Scalar α] in
/-- In the order of time, those that come first before an instant are all before it. -/
theorem takeWhile_eq_filter {entries : List (ScheduleEntry α)}
    (ordered : entries.Pairwise fun first second => first.time ≤ second.time) (time : Instant) :
    entries.takeWhile (fun entry => decide (entry.time < time)) =
      entries.filter fun entry => decide (entry.time < time) := by
  induction ordered with
  | nil => rfl
  | @cons entry entries notBefore ordered inductionHypothesis =>
      by_cases before : entry.time < time
      · rw [List.takeWhile_cons, List.filter_cons, if_pos (decide_eq_true before),
          if_pos (decide_eq_true before), inductionHypothesis]
      · have none : ∀ later ∈ entry :: entries, ¬decide (later.time < time) = true := by
          intro later member soon
          rcases List.mem_cons.mp member with rfl | after
          · exact before (of_decide_eq_true soon)
          · exact before (Int.lt_of_le_of_lt (notBefore later after) (of_decide_eq_true soon))
        rw [List.takeWhile_cons, if_neg (none entry List.mem_cons_self),
          List.filter_eq_nil_iff.mpr none]

/-- The entries stamped strictly before an instant, of a schedule or of none. -/
def entriesBefore (schedule : Option (Schedule α)) (time : Instant) : List (ScheduleEntry α) :=
  (schedule.elim [] (·.entries)).filter fun entry => decide (entry.time < time)

/-- The size in force is that of the last entry before. -/
theorem sizeAt_of_built {schedule : Option (Schedule α)}
    (built : ∀ table ∈ schedule, ∃ entries, ofEntries entries = .ok table) (time : Instant) :
    schedule.bind (·.sizeAt time) = (entriesBefore schedule time).getLast?.map (·.size) := by
  cases schedule with
  | none => rfl
  | some table =>
      obtain ⟨entries, ofEntries⟩ := built table rfl
      rw [Option.bind_some, sizeAt, takeWhile_eq_filter (pairwise_of_ofEntries ofEntries)]
      rfl

omit [Scalar α] in
/-- What is before an instant is among what is before a later one. -/
theorem entriesBefore_of_le (schedule : Option (Schedule α)) {time bound : Instant}
    (early : time ≤ bound) :
    entriesBefore schedule time =
      (entriesBefore schedule bound).filter fun entry => decide (entry.time < time) := by
  rw [entriesBefore, entriesBefore, List.filter_filter]
  apply List.filter_congr
  intro entry _
  by_cases before : entry.time < time
  · have within : entry.time < bound := Int.lt_of_lt_of_le before early
    rw [decide_eq_true before, decide_eq_true within]
    rfl
  · rw [decide_eq_false before]
    rfl

/-- Up to an instant before which two schedules have the same entries they put the same sizes in
force. -/
theorem sizeAt_congr {first second : Option (Schedule α)}
    (builtFirst : ∀ table ∈ first, ∃ entries, ofEntries entries = .ok table)
    (builtSecond : ∀ table ∈ second, ∃ entries, ofEntries entries = .ok table)
    {time bound : Instant} (same : entriesBefore first bound = entriesBefore second bound)
    (early : time ≤ bound) :
    first.bind (·.sizeAt time) = second.bind (·.sizeAt time) := by
  rw [sizeAt_of_built builtFirst, sizeAt_of_built builtSecond, entriesBefore_of_le first early,
    entriesBefore_of_le second early, same]

end Renko.Schedule

/-! ## What a schedule looks up

The size in force at an instant is decided by the entries as they are given, in whatever order
(`Renko.Schedule.sizeAt_eq_some_iff`): it is that of the latest one stamped strictly before, and of
those stamped alike that of the one given last (`Renko.Schedule.InForce`). Which entry this is
depends on nothing but the entries of each instant in their order (`Renko.Schedule.inForce_congr`),
and those the sorting of a schedule leaves alone (`Renko.Schedule.alike_mergeSort`).
-/

namespace Renko.Schedule

variable {α : Type}

/-- The entry in force at an instant, among entries in any order: it is stamped strictly before the
instant, none that is given before it is stamped later, unless not before the instant, and none that
is given after it is stamped as late. -/
def InForce (entries : List (ScheduleEntry α)) (time : Instant) (entry : ScheduleEntry α) : Prop :=
  entry.time < time ∧ ∃ earlier later, entries = earlier ++ entry :: later ∧
    (∀ other ∈ earlier, other.time < time → other.time ≤ entry.time) ∧
      ∀ other ∈ later, other.time < time → other.time < entry.time

/-- The same entries at every instant, in the same order: the one list is the other with entries of
different instants moved past each other. -/
def Alike (first second : List (ScheduleEntry α)) : Prop :=
  ∀ time, (first.filter fun entry => decide (entry.time = time)) =
    second.filter fun entry => decide (entry.time = time)

/-- The last one of those that pass a test has none after it that passes. -/
theorem getLast?_filter_eq_some_iff {β : Type} {passes : β → Bool} {items : List β} {last : β} :
    (items.filter passes).getLast? = some last ↔
      passes last = true ∧ ∃ earlier later, items = earlier ++ last :: later ∧
        ∀ item ∈ later, ¬passes item = true := by
  rw [List.getLast?_filter, List.find?_eq_some_iff_append]
  refine and_congr_right fun _ => ?_
  constructor
  · rintro ⟨after, before, reversed, none⟩
    refine ⟨before.reverse, after.reverse, ?_, ?_⟩
    · rw [← List.reverse_reverse items, reversed]
      simp
    · intro item member
      simpa using none item (List.mem_reverse.mp member)
  · rintro ⟨earlier, later, rfl, none⟩
    refine ⟨later.reverse, earlier.reverse, by simp, ?_⟩
    intro item member
    simpa using none item (List.mem_reverse.mp member)

/-- The entry in force is stamped latest, and is the last one of those stamped alike. -/
theorem inForce_iff {entries : List (ScheduleEntry α)} {time : Instant}
    {entry : ScheduleEntry α} :
    InForce entries time entry ↔ entry.time < time ∧
      (∀ other ∈ entries, other.time < time → other.time ≤ entry.time) ∧
        (entries.filter fun other => decide (other.time = entry.time)).getLast? = some entry := by
  rw [InForce, getLast?_filter_eq_some_iff, and_iff_right (decide_eq_true rfl)]
  refine and_congr_right fun before => ?_
  constructor
  · rintro ⟨earlier, later, rfl, none, fewer⟩
    refine ⟨?_, earlier, later, rfl, ?_⟩
    · intro other member soon
      rcases List.mem_append.mp member with given | given
      · exact none other given soon
      · rcases List.mem_cons.mp given with rfl | after
        · exact Int.le_refl _
        · exact Int.le_of_lt (fewer other after soon)
    · intro other after same
      have level := of_decide_eq_true same
      have sooner := fewer other after (level ▸ before)
      rw [level] at sooner
      exact Int.lt_irrefl _ sooner
  · rintro ⟨latest, earlier, later, rfl, last⟩
    refine ⟨earlier, later, rfl, ?_, ?_⟩
    · exact fun other given => latest other (List.mem_append_left _ given)
    · intro other after soon
      have upTo := latest other (List.mem_append_right _ (List.mem_cons_of_mem _ after)) soon
      refine lt_of_le_of_ne (show other.time.nanos ≤ entry.time.nanos from upTo) fun level => ?_
      exact last other after (decide_eq_true (congrArg Instant.mk level))

/-- Lists that are alike have the same entries. -/
theorem Alike.mem_iff {first second : List (ScheduleEntry α)} (alike : Alike first second)
    {entry : ScheduleEntry α} : entry ∈ first ↔ entry ∈ second := by
  have among := congrArg (entry ∈ ·) (alike entry.time)
  simpa only [List.mem_filter, decide_true, and_true, eq_iff_iff] using among

/-- Likeness goes both ways. -/
theorem Alike.symm {first second : List (ScheduleEntry α)} (alike : Alike first second) :
    Alike second first :=
  fun time => (alike time).symm

/-- Likeness is handed on from list to list. -/
theorem Alike.trans {first second third : List (ScheduleEntry α)} (alike : Alike first second)
    (further : Alike second third) : Alike first third :=
  fun time => (alike time).trans (further time)

/-- Neighbours that are stamped differently can change places. -/
theorem alike_swap (earlier later : List (ScheduleEntry α)) {first second : ScheduleEntry α}
    (differ : first.time ≠ second.time) :
    Alike (earlier ++ first :: second :: later) (earlier ++ second :: first :: later) := by
  intro time
  simp only [List.filter_append, List.filter_cons]
  by_cases atFirst : first.time = time
  · have notSecond : second.time ≠ time := fun atSecond => differ (atFirst.trans atSecond.symm)
    simp only [decide_eq_false notSecond, Bool.false_eq_true, if_false]
  · simp only [decide_eq_false atFirst, Bool.false_eq_true, if_false]

/-- Which entry is in force is decided by the entries of each instant in their order. -/
theorem inForce_congr {first second : List (ScheduleEntry α)} (alike : Alike first second)
    {time : Instant} {entry : ScheduleEntry α} :
    InForce first time entry ↔ InForce second time entry := by
  simp only [inForce_iff, alike.mem_iff, alike entry.time]

/-- Sorting is stable: it leaves the entries of each instant in their order. -/
theorem alike_mergeSort (entries : List (ScheduleEntry α)) :
    Alike entries (entries.mergeSort fun first second => decide (first.time ≤ second.time)) := by
  intro time
  -- the entries of one instant are in order as they are given, so sorting leaves them in a row
  have level : (entries.filter fun entry => decide (entry.time = time)).Pairwise
      fun first second => decide (first.time ≤ second.time) = true := by
    refine List.pairwise_of_forall_mem_list fun first inFirst second inSecond => ?_
    have atFirst := of_decide_eq_true (List.mem_filter.mp inFirst).2
    have atSecond := of_decide_eq_true (List.mem_filter.mp inSecond).2
    rw [atFirst, atSecond]
    exact decide_eq_true (Int.le_refl _)
  have within := (List.sublist_mergeSort ordering_trans ordering_total level
    List.filter_sublist).filter fun entry => decide (entry.time = time)
  rw [List.filter_filter] at within
  simp only [Bool.and_self] at within
  exact within.eq_of_length (((List.mergeSort_perm entries _).filter _).length_eq.symm)

/-- In the order of time, entries that are alike are the same. -/
theorem eq_of_alike {first second : List (ScheduleEntry α)} (alike : Alike first second)
    (ordered : first.Pairwise fun first second => first.time ≤ second.time)
    (orderedSecond : second.Pairwise fun first second => first.time ≤ second.time) :
    first = second := by
  induction first generalizing second with
  | nil =>
      refine (List.eq_nil_iff_forall_not_mem.mpr fun entry member => ?_).symm
      exact List.not_mem_nil (alike.mem_iff.mpr member)
  | cons entry entries inductionHypothesis =>
      cases second with
      | nil => exact absurd (alike.mem_iff.mp List.mem_cons_self) List.not_mem_nil
      | cons other others =>
          obtain ⟨notBefore, ordered⟩ := List.pairwise_cons.mp ordered
          obtain ⟨notBeforeOther, orderedOthers⟩ := List.pairwise_cons.mp orderedSecond
          -- the first entries are both the earliest, so they are of one instant
          have atMost : entry.time ≤ other.time := by
            rcases List.mem_cons.mp (alike.mem_iff.mpr List.mem_cons_self) with rfl | later
            · exact Int.le_refl _
            · exact notBefore other later
          have atLeast : other.time ≤ entry.time := by
            rcases List.mem_cons.mp (alike.mem_iff.mp List.mem_cons_self) with rfl | later
            · exact Int.le_refl _
            · exact notBeforeOther entry later
          have level : entry.time = other.time :=
            congrArg Instant.mk (Int.le_antisymm atMost atLeast)
          have here := alike other.time
          simp only [List.filter_cons, level, decide_true, if_true, List.cons.injEq] at here
          obtain ⟨rfl, -⟩ := here
          refine congrArg _ (inductionHypothesis (fun time => ?_) ordered orderedOthers)
          have among := alike time
          rw [List.filter_cons, List.filter_cons] at among
          split at among
          · exact (List.cons.inj among).2
          · exact among

/-- In the order of time, the last entry before an instant is the one in force. -/
theorem getLast?_filter_iff_inForce {entries : List (ScheduleEntry α)}
    (ordered : entries.Pairwise fun first second => first.time ≤ second.time) {time : Instant}
    {entry : ScheduleEntry α} :
    (entries.filter fun entry => decide (entry.time < time)).getLast? = some entry ↔
      InForce entries time entry := by
  rw [getLast?_filter_eq_some_iff, decide_eq_true_iff, InForce]
  refine and_congr_right fun before => exists_congr fun earlier => exists_congr fun later =>
    and_congr_right ?_
  rintro rfl
  obtain ⟨-, orderedLater, across⟩ := List.pairwise_append.mp ordered
  have after := (List.pairwise_cons.mp orderedLater).1
  constructor
  · intro none
    refine ⟨fun other given _ => across other given entry List.mem_cons_self, ?_⟩
    exact fun other given soon => absurd (decide_eq_true soon) (none other given)
  · rintro ⟨-, fewer⟩ other given soon
    exact Int.not_lt.mpr (after other given) (fewer other given (of_decide_eq_true soon))

variable [Scalar α]

/-- **A size is in force by an entry.** Of a schedule that was built, the size in force at an
instant is that of the entry in force among those given. -/
theorem sizeAt_eq_some_iff {entries : List (ScheduleEntry α)} {schedule : Schedule α}
    (built : ofEntries entries = .ok schedule) {time : Instant} {size : α} :
    schedule.sizeAt time = some size ↔ ∃ entry, InForce entries time entry ∧ entry.size = size := by
  have ordered := pairwise_of_ofEntries built
  obtain ⟨-, rfl⟩ := ofEntries_eq_ok.mp built
  rw [sizeAt, takeWhile_eq_filter ordered, Option.map_eq_some_iff]
  simp only [getLast?_filter_iff_inForce ordered, inForce_congr (alike_mergeSort entries)]

/-- Before all entries no size is in force. -/
theorem sizeAt_eq_none_iff {entries : List (ScheduleEntry α)} {schedule : Schedule α}
    (built : ofEntries entries = .ok schedule) {time : Instant} :
    schedule.sizeAt time = none ↔ ∀ entry ∈ entries, ¬entry.time < time := by
  have ordered := pairwise_of_ofEntries built
  obtain ⟨-, rfl⟩ := ofEntries_eq_ok.mp built
  rw [sizeAt, takeWhile_eq_filter ordered, Option.map_eq_none_iff, List.getLast?_eq_none_iff,
    List.filter_eq_nil_iff]
  simp only [List.mem_mergeSort, decide_eq_true_eq]

/-- Entries that are alike are refused or make schedules together, and the schedules are the same
at every instant. -/
theorem exists_alike {first second : List (ScheduleEntry α)} (alike : Alike first second)
    {schedule : Schedule α} (built : ofEntries first = .ok schedule) :
    ∃ other, ofEntries second = .ok other ∧ ∀ time, other.sizeAt time = schedule.sizeAt time := by
  have valid := (ofEntries_eq_ok.mp built).1
  have validSecond : ∀ entry ∈ second, validBrickSize entry.size = true :=
    fun entry member => valid entry (alike.mem_iff.mpr member)
  have builtSecond := ofEntries_eq_ok.mpr ⟨validSecond, rfl⟩
  refine ⟨_, builtSecond, fun time => Option.ext fun size => ?_⟩
  simp only [sizeAt_eq_some_iff builtSecond, sizeAt_eq_some_iff built, inForce_congr alike]

/-- A schedule is made of entries of valid sizes, which it has in the order of their times. -/
theorem eq_ok_iff_ordered {entries : List (ScheduleEntry Float)} {schedule : Schedule Float} :
    ofEntries entries = .ok schedule ↔
      (∀ entry ∈ entries, entry.size.isFinite = true ∧ 0 < entry.size) ∧
        Alike entries schedule.entries ∧
        schedule.entries.Pairwise fun first second => first.time ≤ second.time := by
  simp only [← validBrickSize_iff]
  constructor
  · intro built
    have ordered := pairwise_of_ofEntries built
    obtain ⟨valid, rfl⟩ := ofEntries_eq_ok.mp built
    exact ⟨valid, alike_mergeSort entries, ordered⟩
  · rintro ⟨valid, alike, ordered⟩
    have built := ofEntries_eq_ok.mpr ⟨valid, rfl⟩
    refine built.trans (congrArg (Except.ok ∘ Schedule.mk) ?_)
    exact eq_of_alike ((alike_mergeSort entries).symm.trans alike)
      (pairwise_of_ofEntries built) ordered

/-- A schedule is refused for the first entry of an invalid size, in the order given. -/
theorem eq_error_iff_first {entries : List (ScheduleEntry Float)} {cause : TradeFault Float} :
    ofEntries entries = .error cause ↔ ∃ earlier entry later,
      entries = earlier ++ entry :: later ∧
        (∀ other ∈ earlier, other.size.isFinite = true ∧ 0 < other.size) ∧
        ¬(entry.size.isFinite = true ∧ 0 < entry.size) ∧
        cause = .invalidBrickSize entry.size := by
  simp only [ofEntries_eq_error, List.find?_eq_some_iff_append, Bool.not_not, ← validBrickSize_iff,
    Bool.not_eq_true', Bool.not_eq_true]
  constructor
  · rintro ⟨entry, ⟨invalid, earlier, later, split, valid⟩, same⟩
    exact ⟨earlier, entry, later, split, valid, invalid, same⟩
  · rintro ⟨earlier, entry, later, split, valid, invalid, same⟩
    exact ⟨entry, ⟨invalid, earlier, later, split, valid⟩, same⟩

/-- **Entries decide all lookups.** A schedule is refused if and only if some size is not finite and
above zero, and then for the first such size in the order given. Otherwise no size is in force as
long as no entry is stamped before, and then that of the entry in force among those given; so
another order of the entries that leaves those of each instant in theirs changes no lookup. -/
theorem lookups_of_entries (entries : List (ScheduleEntry Float)) :
    ((∃ cause, ofEntries entries = .error cause) ↔
      ∃ entry ∈ entries, ¬(entry.size.isFinite = true ∧ 0 < entry.size)) ∧
    (∀ cause, ofEntries entries = .error cause ↔ ∃ earlier entry later,
      entries = earlier ++ entry :: later ∧
        (∀ other ∈ earlier, other.size.isFinite = true ∧ 0 < other.size) ∧
        ¬(entry.size.isFinite = true ∧ 0 < entry.size) ∧ cause = .invalidBrickSize entry.size) ∧
    ∀ schedule, ofEntries entries = .ok schedule →
      (∀ time, (schedule.sizeAt time = none ↔ ∀ entry ∈ entries, ¬entry.time < time) ∧
        ∀ size, schedule.sizeAt time = some size ↔
          ∃ entry, InForce entries time entry ∧ entry.size = size) ∧
      ∀ others, Alike entries others →
        ∃ other, ofEntries others = .ok other ∧
          ∀ time, other.sizeAt time = schedule.sizeAt time := by
  refine ⟨?_, fun cause => eq_error_iff_first, fun schedule built => ⟨fun time => ?_, ?_⟩⟩
  · constructor
    · rintro ⟨cause, refused⟩
      obtain ⟨earlier, entry, later, rfl, -, invalid, -⟩ := eq_error_iff_first.mp refused
      exact ⟨entry, by simp, invalid⟩
    · rintro ⟨entry, member, invalid⟩
      cases outcome : ofEntries entries with
      | error cause => exact ⟨cause, rfl⟩
      | ok schedule =>
          have valid := (ofEntries_eq_ok.mp outcome).1 entry member
          exact absurd (validBrickSize_iff.mp valid) invalid
  · exact ⟨sizeAt_eq_none_iff built, fun size => sizeAt_eq_some_iff built⟩
  · exact fun others alike => exists_alike alike built

/-- Two entries of one instant, given before and after entries of earlier instants; and two invalid
sizes, an undefined one among them, of which the one given first is not the one stamped first. -/
theorem lookups_of_tied_entries :
    let entry (ms : Int) (size : Float) : ScheduleEntry Float := ⟨.ofMillis ms, size⟩
    let entries := [entry 3 2, entry 1 0.5, entry 3 4, entry 2 1]
    let others := [entry 3 2, entry 1 0.5, entry 2 1, entry 3 4]
    let refused := [entry 3 2, entry 2 (-1), entry 1 (0 / 0)]
    ofEntries refused = .error (.invalidBrickSize (-1)) ∧
    Alike entries others ∧
    ∃ schedule, ofEntries entries = .ok schedule ∧
      schedule.sizeAt (.ofMillis 1) = none ∧ schedule.sizeAt (.ofMillis 3) = some 1 ∧
      schedule.sizeAt (.ofMillis 4) = some 4 ∧
      ∃ other, ofEntries others = .ok other ∧
        ∀ time, other.sizeAt time = schedule.sizeAt time := by
  intro entry entries others refused
  have alike : Alike entries others :=
    alike_swap [entry 3 2, entry 1 0.5] [] (by decide +kernel)
  have built := ofEntries_eq_ok.mpr
    ⟨(by decide +kernel : ∀ entry ∈ entries, validBrickSize entry.size = true), rfl⟩
  obtain ⟨sizes, reordered⟩ := (lookups_of_entries entries).2.2 _ built
  refine ⟨?_, alike, _, built, ?_, ?_, ?_, reordered others alike⟩
  · refine ((lookups_of_entries refused).2.1 _).mpr
      ⟨[entry 3 2], entry 2 (-1), [entry 1 (0 / 0)], rfl, ?_, ?_, rfl⟩
    · decide +kernel
    · decide +kernel
  · refine (sizes (.ofMillis 1)).1.mpr ?_
    decide +kernel
  · refine ((sizes (.ofMillis 3)).2 1).mpr
      ⟨entry 2 1, ⟨by decide +kernel, [entry 3 2, entry 1 0.5, entry 3 4], [], rfl, ?_, ?_⟩, rfl⟩
    · decide +kernel
    · decide +kernel
  · refine ((sizes (.ofMillis 4)).2 4).mpr
      ⟨entry 3 4, ⟨by decide +kernel, [entry 3 2, entry 1 0.5], [entry 2 1], rfl, ?_, ?_⟩, rfl⟩
    · decide +kernel
    · decide +kernel

end Renko.Schedule
