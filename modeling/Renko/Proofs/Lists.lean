import Mathlib

/-! # Lists

What the other developments need of lists: groups of neighbours, items that keep their places, and
lists that are related item by item.
-/

/-! ## Groups of neighbours

`List.splitBy` cuts a list wherever two neighbours are not related. Here a list grows at its end:
the new element either joins the last group (`Renko.Grouping.splitBy_concat_of_related`) or starts
one of its own (`Renko.Grouping.splitBy_concat_of_unrelated`).
-/

namespace Renko.Grouping

variable {β : Type} {related : β → β → Bool} {list : List β}

variable (related) in
/-- The last group of a list ends as the list does. -/
theorem exists_last_group (nonempty : list ≠ []) :
    ∃ groups group last, list.splitBy related = groups ++ [group ++ [last]] ∧
      list.getLast? = some last := by
  rcases List.eq_nil_or_concat' (list.splitBy related) with none | ⟨groups, final, split⟩
  · exact absurd (List.splitBy_eq_nil.mp none) nonempty
  obtain ⟨flat, filled, -, -⟩ := List.splitBy_eq_iff.mp split
  rcases List.eq_nil_or_concat' final with rfl | ⟨group, last, rfl⟩
  · exact absurd (List.mem_append_right _ (List.mem_singleton.mpr rfl)) filled
  refine ⟨groups, group, last, split, ?_⟩
  rw [flat, List.flatten_append, List.flatten_singleton, ← List.append_assoc,
    List.getLast?_concat]

/-- An element that is related to the last one joins its group. -/
theorem splitBy_concat_of_related {groups : List (List β)} {group : List β} {last next : β}
    (split : list.splitBy related = groups ++ [group ++ [last]])
    (joins : related last next = true) :
    (list ++ [next]).splitBy related = groups ++ [group ++ [last] ++ [next]] := by
  obtain ⟨flat, filled, chains, breaks⟩ := List.splitBy_eq_iff.mp split
  obtain ⟨before, -, apart⟩ := List.isChain_append.mp breaks
  refine List.splitBy_eq_iff.mpr ⟨?_, ?_, ?_, ?_⟩
  · simp only [flat, List.flatten_append, List.flatten_singleton, List.append_assoc,
      List.singleton_append]
  · intro empty
    rcases List.mem_append.mp empty with earlier | final
    · exact filled (List.mem_append_left _ earlier)
    · simp at final
  · intro piece member
    rcases List.mem_append.mp member with earlier | final
    · exact chains piece (List.mem_append_left _ earlier)
    · obtain rfl := List.mem_singleton.mp final
      have whole := chains _ (List.mem_append_right groups (List.mem_singleton.mpr rfl))
      rw [List.append_assoc]
      exact List.isChain_append_cons_cons.mpr ⟨whole, joins, .singleton _⟩
  · refine List.isChain_append.mpr ⟨before, .singleton _, ?_⟩
    intro earlier final piece head
    obtain rfl := Option.some.inj head
    obtain ⟨earlierFilled, pieceFilled, different⟩ := apart earlier final _ rfl
    refine ⟨earlierFilled, by simp, ?_⟩
    -- the group still starts as it did
    rw [List.head_append_left pieceFilled]
    exact different

/-- An element that is not related to the last one starts a group. -/
theorem splitBy_concat_of_unrelated {next : β}
    (starts : ∀ last ∈ list.getLast?, related last next = false) :
    (list ++ [next]).splitBy related = list.splitBy related ++ [[next]] :=
  List.splitBy_append_cons [] starts

end Renko.Grouping

/-! ## Lists that keep their items in place

Lists that only grow at their end, and of whose items only the last one is changed, keep every item
at its place: what is kept of the item, be it all or a part, is found there again.
-/

namespace Renko

variable {β : Type} {lasts : β → β → Prop}

/-- Every item of a list lasts, at its place, in a later one. -/
def InPlace (lasts : β → β → Prop) (earlier later : List β) : Prop :=
  ∀ (place : Nat) (item : β), earlier[place]? = some item →
    ∃ lasting, later[place]? = some lasting ∧ lasts item lasting

namespace InPlace

/-- Items that are left alone keep their places. -/
theorem refl (same : ∀ item, lasts item item) (items : List β) : InPlace lasts items items :=
  fun _ item found => ⟨item, found, same item⟩

/-- Items that keep their places, and then again, keep them altogether. -/
theorem trans (composes : ∀ first second third, lasts first second → lasts second third →
    lasts first third) {first second third : List β} (early : InPlace lasts first second)
    (late : InPlace lasts second third) : InPlace lasts first third := by
  intro place item found
  obtain ⟨between, foundBetween, lastsEarly⟩ := early place item found
  obtain ⟨lasting, foundLast, lastsLate⟩ := late place between foundBetween
  exact ⟨lasting, foundLast, composes item between lasting lastsEarly lastsLate⟩

/-- Items keep their places if others are added behind them. -/
theorem append (same : ∀ item, lasts item item) (items added : List β) :
    InPlace lasts items (items ++ added) := by
  intro place item found
  refine ⟨item, ?_, same item⟩
  rw [List.getElem?_append_left (List.getElem?_eq_some_iff.mp found).1]
  exact found

/-- The last item may be changed to one in which it lasts, and others may follow. -/
theorem replace (same : ∀ item, lasts item item) (settled added : List β) {item lasting : β}
    (changed : lasts item lasting) :
    InPlace lasts (settled ++ [item]) (settled ++ lasting :: added) := by
  intro place other found
  by_cases inside : place < settled.length
  · rw [List.getElem?_append_left inside] at found ⊢
    exact ⟨other, found, same other⟩
  · rw [List.getElem?_append_right (not_lt.mp inside)] at found ⊢
    rw [List.getElem?_singleton] at found
    by_cases last : place - settled.length = 0
    · rw [if_pos last] at found
      obtain rfl := Option.some.inj found
      exact ⟨lasting, last ▸ List.getElem?_cons_zero, changed⟩
    · rw [if_neg last] at found
      cases found

/-- Items that do not change make a list a prefix of the later one. -/
theorem isPrefix {settled rest later : List β} (kept : InPlace lasts (settled ++ rest) later)
    (frozen : ∀ item ∈ settled, ∀ lasting, lasts item lasting → lasting = item) :
    settled <+: later := by
  rw [List.prefix_iff_getElem?]
  intro place inside
  have found : (settled ++ rest)[place]? = some settled[place] := by
    rw [List.getElem?_append_left inside, List.getElem?_eq_getElem inside]
  obtain ⟨lasting, foundLast, lastsOn⟩ := kept place _ found
  rw [foundLast, frozen _ (List.getElem_mem inside) lasting lastsOn]

end InPlace

end Renko

/-! ## Lists related item by item -/

namespace Renko.Related

variable {β γ : Type} {first second : β → γ → Prop} {items : List β} {values : List γ}

/-- Two relations that agree on the items of a list relate it to the same lists. -/
theorem congr (same : ∀ item ∈ items, ∀ value, first item value ↔ second item value) :
    List.Forall₂ first items values ↔ List.Forall₂ second items values := by
  simp only [List.forall₂_iff_zip]
  refine and_congr_right fun _ => ?_
  constructor
  · exact fun all item value member =>
      (same item (List.of_mem_zip member).1 value).mp (all member)
  · exact fun all item value member =>
      (same item (List.of_mem_zip member).1 value).mpr (all member)

/-- A list is related to some other one if each of its items is related to something. -/
theorem exists_iff :
    (∃ values, List.Forall₂ first items values) ↔ ∀ item ∈ items, ∃ value, first item value := by
  induction items with
  | nil => exact iff_of_true ⟨[], .nil⟩ fun _ none => absurd none List.not_mem_nil
  | cons item items inductionHypothesis =>
      rw [List.forall_mem_cons, ← inductionHypothesis]
      simp only [List.forall₂_cons_left_iff]
      constructor
      · rintro ⟨-, value, values, related, others, rfl⟩
        exact ⟨⟨value, related⟩, values, others⟩
      · rintro ⟨⟨value, related⟩, values, others⟩
        exact ⟨value :: values, value, values, related, others, rfl⟩

/-- What each value is asked for besides the relation can be asked for apart. -/
theorem and_right {passes : γ → Prop} :
    List.Forall₂ (fun item value => first item value ∧ passes value) items values ↔
      List.Forall₂ first items values ∧ ∀ value ∈ values, passes value := by
  constructor
  · intro all
    induction all with
    | nil => exact ⟨.nil, fun _ none => absurd none List.not_mem_nil⟩
    | cons both others inductionHypothesis =>
        exact ⟨.cons both.1 inductionHypothesis.1,
          List.forall_mem_cons.mpr ⟨both.2, inductionHypothesis.2⟩⟩
  · rintro ⟨all, passed⟩
    induction all with
    | nil => exact .nil
    | cons related others inductionHypothesis =>
        obtain ⟨here, further⟩ := List.forall_mem_cons.mp passed
        exact .cons ⟨related, here⟩ (inductionHypothesis further)

end Renko.Related
