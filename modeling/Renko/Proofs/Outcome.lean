import Mathlib
import Renko.Desk
import Renko.Proofs.Lists

/-! # Runs and how they end

Sequences of steps that can fail, with a state and without, and rows of calls that go on when one
is refused.
-/

/-! ## Steps that can fail

A sequence of steps that can fail ends well if each of them does in turn, and with a fault if one of
them has it and those before it ended well. Where the steps also keep a state, the state goes from
one to the next, and a result that is there already leaves it as it is.
-/

namespace Renko.Outcome

variable {ε β γ : Type}

/-- Two steps in a row end well if the first does and the second does after it. -/
theorem bind_eq_ok {run : Except ε β} {next : β → Except ε γ} {value : γ} :
    (run >>= next) = .ok value ↔ ∃ between, run = .ok between ∧ next between = .ok value := by
  cases run with
  | error fault => exact iff_of_false (fun same => nomatch same) fun ⟨_, same, _⟩ => nomatch same
  | ok between =>
      refine ⟨fun same => ⟨between, rfl, same⟩, ?_⟩
      rintro ⟨other, same, continues⟩
      obtain rfl := Except.ok.inj same
      exact continues

/-- They end with a fault of the first, or with one of the second after it. -/
theorem bind_eq_error {run : Except ε β} {next : β → Except ε γ} {fault : ε} :
    (run >>= next) = .error fault ↔
      run = .error fault ∨ ∃ between, run = .ok between ∧ next between = .error fault := by
  cases run with
  | error other =>
      refine ⟨fun same => .inl (congrArg _ (Except.error.inj same)), ?_⟩
      rintro (same | ⟨_, same, _⟩)
      · exact congrArg _ (Except.error.inj same)
      · cases same
  | ok between =>
      refine ⟨fun same => .inr ⟨between, rfl, same⟩, ?_⟩
      rintro (same | ⟨other, same, continues⟩)
      · cases same
      · obtain rfl := Except.ok.inj same
        exact continues

/-- A step whose value is read ends well if the step does. -/
theorem map_eq_ok {read : β → γ} {run : Except ε β} {value : γ} :
    read <$> run = .ok value ↔ ∃ before, run = .ok before ∧ read before = value := by
  cases run with
  | error fault => exact iff_of_false (fun same => nomatch same) fun ⟨_, same, _⟩ => nomatch same
  | ok before =>
      refine ⟨fun same => ⟨before, rfl, Except.ok.inj same⟩, ?_⟩
      rintro ⟨other, same, rfl⟩
      obtain rfl := Except.ok.inj same
      rfl

/-- It ends with a fault if the step does. -/
theorem map_eq_error {read : β → γ} {run : Except ε β} {fault : ε} :
    read <$> run = .error fault ↔ run = .error fault := by
  cases run with
  | error other => exact ⟨fun same => congrArg _ (Except.error.inj same), fun same => same ▸ rfl⟩
  | ok before => exact iff_of_false (fun same => nomatch same) fun same => nomatch same

/-- What follows a list of steps starts from where they end. -/
theorem foldlM_append_eq_ok {step : γ → β → Except ε γ} {earlier later : List β} {first last : γ} :
    (earlier ++ later).foldlM step first = .ok last ↔
      ∃ between, earlier.foldlM step first = .ok between ∧
        later.foldlM step between = .ok last := by
  rw [List.foldlM_append, bind_eq_ok]

/-- Steps for each item of a list end well if each of them does. -/
theorem mapM_eq_ok {step : β → Except ε γ} {items : List β} {values : List γ} :
    items.mapM step = .ok values ↔
      List.Forall₂ (fun item value => step item = .ok value) items values := by
  induction items generalizing values with
  | nil =>
      rw [List.mapM_nil, List.forall₂_nil_left_iff]
      exact ⟨fun same => (Except.ok.inj same).symm, fun same => congrArg Except.ok same.symm⟩
  | cons item items inductionHypothesis =>
      rw [List.mapM_cons, bind_eq_ok, List.forall₂_cons_left_iff]
      refine exists_congr fun value => ?_
      rw [bind_eq_ok]
      constructor
      · rintro ⟨taken, others, went, made⟩
        exact ⟨others, taken, inductionHypothesis.mp went, (Except.ok.inj made).symm⟩
      · rintro ⟨others, taken, went, rfl⟩
        exact ⟨taken, others, inductionHypothesis.mpr went, rfl⟩

/-- Steps for each item of a list end well if there is a value for each item. -/
theorem exists_mapM_eq_ok {step : β → Except ε γ} {items : List β} :
    (∃ values, items.mapM step = .ok values) ↔
      ∀ item ∈ items, ∃ value, step item = .ok value := by
  simp only [mapM_eq_ok]
  exact Related.exists_iff

/-- They end with the fault of the first step that has one. -/
theorem mapM_eq_error {step : β → Except ε γ} {items : List β} {fault : ε} :
    items.mapM step = .error fault ↔ ∃ earlier item later, items = earlier ++ item :: later ∧
      (∀ other ∈ earlier, ∃ value, step other = .ok value) ∧ step item = .error fault := by
  induction items with
  | nil =>
      refine iff_of_false (fun same => nomatch same) ?_
      rintro ⟨earlier, item, later, none, -⟩
      exact List.append_ne_nil_of_right_ne_nil _ (List.cons_ne_nil _ _) none.symm
  | cons first items inductionHypothesis =>
      rw [List.mapM_cons, bind_eq_error]
      constructor
      · rintro (refused | ⟨value, went, others⟩)
        · exact ⟨[], first, items, rfl, fun _ none => absurd none List.not_mem_nil, refused⟩
        · obtain refused | ⟨values, -, made⟩ := bind_eq_error.mp others
          · obtain ⟨earlier, item, later, rfl, fine, refused⟩ := inductionHypothesis.mp refused
            exact ⟨first :: earlier, item, later, rfl,
              List.forall_mem_cons.mpr ⟨⟨value, went⟩, fine⟩, refused⟩
          · cases made
      · rintro ⟨earlier, item, later, split, fine, refused⟩
        cases earlier with
        | nil =>
            obtain ⟨rfl, rfl⟩ := List.cons.inj split
            exact .inl refused
        | cons head earlier =>
            obtain ⟨rfl, rfl⟩ := List.cons.inj split
            obtain ⟨⟨value, went⟩, fineLater⟩ := List.forall_mem_cons.mp fine
            refine .inr ⟨value, went, bind_eq_error.mpr (.inl ?_)⟩
            exact inductionHypothesis.mpr ⟨earlier, item, later, rfl, fineLater, refused⟩

section

variable {σ : Type} {run : ExceptT ε (StateM σ) β} {next : β → ExceptT ε (StateM σ) γ}
  {state later : σ}

/-- What a run that keeps a state answers, and the state then. -/
def answer (run : ExceptT ε (StateM σ) β) (state : σ) : Except ε β × σ :=
  StateT.run (ExceptT.run run) state

/-- A run that ends well goes on from where it has left the state. -/
theorem answer_bind_of_ok {value : β} (ran : answer run state = (.ok value, later)) :
    answer (run >>= next) state = answer (next value) later := by
  simp only [answer, ExceptT.run_bind, StateT.run_bind] at ran ⊢
  rw [ran]
  rfl

/-- A run that fails goes no further. -/
theorem answer_bind_of_error {fault : ε} (ran : answer run state = (.error fault, later)) :
    answer (run >>= next) state = (.error fault, later) := by
  simp only [answer, ExceptT.run_bind, StateT.run_bind] at ran ⊢
  rw [ran]
  rfl

/-- A run that ends well has gone well at first, and then again from there. -/
theorem exists_of_answer_bind {value : γ} (ran : answer (run >>= next) state = (.ok value, later)) :
    ∃ between middle, answer run state = (.ok between, middle) ∧
      answer (next between) middle = (.ok value, later) := by
  cases first : answer run state with
  | mk result middle =>
      cases result with
      | error fault =>
          rw [answer_bind_of_error first] at ran
          cases ran
      | ok between =>
          rw [answer_bind_of_ok first] at ran
          exact ⟨between, middle, rfl, ran⟩

/-- A value that is there is the answer. -/
@[simp] theorem answer_pure (value : β) :
    answer (pure value : ExceptT ε (StateM σ) β) state = (.ok value, state) := rfl

/-- A fault that is thrown is the answer. -/
@[simp] theorem answer_throw (fault : ε) :
    answer (throw fault : ExceptT ε (StateM σ) β) state = (.error fault, state) := rfl

/-- What asks for the state goes on with it. -/
@[simp] theorem answer_get_bind (next : σ → ExceptT ε (StateM σ) γ) :
    answer (get >>= next) state = answer (next state) state := rfl

/-- What changes the state goes on from the change. -/
@[simp] theorem answer_modify_bind (change : σ → σ) (next : Unit → ExceptT ε (StateM σ) γ) :
    answer (modify change >>= next) state = answer (next ()) (change state) := rfl

/-- A value that is read off a run is read off its answer. -/
@[simp] theorem answer_map (read : β → γ) :
    answer (read <$> run) state = (read <$> (answer run state).1, (answer run state).2) := by
  simp only [answer, ExceptT.run_map, StateT.run_map]
  rfl

/-- A result that is settled is the answer, and the state stays. -/
@[simp] theorem answer_settle (result : Except Fault β) (state : σ) :
    answer (Desk.settle result) state = (result, state) := by
  cases result <;> rfl

/-- So is a result of trading, as a fault of the run. -/
@[simp] theorem answer_trade (result : Except (TradeFault Float) β) (state : σ) :
    answer (Desk.trade result) state = (Fault.ofTrade result, state) := by
  cases result <;> rfl

end

end Renko.Outcome

/-! ## Calls in a row

Calls are made one after the other on a state that each of them writes in place. One that is refused
does not end the row, so whatever it has written by then is there for the calls after it. Where
nothing that is refused leaves a trace, the refused calls of a row can be left out: the others leave
the same state and are answered as before (`Renko.Calls.spare_accepted`).
-/

namespace Renko.Calls

open Outcome

variable {ι σ ε β : Type} {call : ι → ExceptT ε (StateM σ) β} {state : σ}

section

variable (call)

/-- What calls in a row answer, each with what was asked. -/
def transcript : σ → List ι → List (ι × Except ε β)
  | _, [] => []
  | state, asked :: later =>
    let (result, next) := answer (call asked) state
    (asked, result) :: transcript next later

/-- The state that calls in a row leave. -/
def leaves (state : σ) (asked : List ι) : σ :=
  asked.foldl (fun state asked => (answer (call asked) state).2) state

/-- The calls of a row that are not refused. -/
def accepted (state : σ) (asked : List ι) : List ι :=
  ((transcript call state asked).filter (·.2.isOk)).map (·.1)

/-- Calls on states of a kind leave states of that kind, and those that are refused leave them as
they were. -/
structure Traceless (kind : σ → Prop) : Prop where
  keeps : ∀ {state}, kind state → ∀ asked, kind (answer (call asked) state).2
  traceless : ∀ {state}, kind state → ∀ {asked cause later},
    answer (call asked) state = (.error cause, later) → later = state

end

/-- Later calls start from what the first one leaves. -/
theorem leaves_cons_of {asked : ι} {result : Except ε β} {next : σ}
    (answered : answer (call asked) state = (result, next)) (later : List ι) :
    leaves call state (asked :: later) = leaves call next later := by
  rw [leaves, List.foldl_cons, answered]
  rfl

private theorem transcript_cons_of_ok {asked : ι} {value : β} {next : σ}
    (answered : answer (call asked) state = (.ok value, next)) (later : List ι) :
    transcript call state (asked :: later) = (asked, .ok value) :: transcript call next later := by
  rw [transcript, answered]

private theorem transcript_cons_of_error {asked : ι} {cause : ε} {next : σ}
    (answered : answer (call asked) state = (.error cause, next)) (later : List ι) :
    transcript call state (asked :: later) =
      (asked, .error cause) :: transcript call next later := by
  rw [transcript, answered]

/-- A first call that is accepted is among the accepted ones. -/
theorem accepted_cons_of_ok {asked : ι} {value : β} {next : σ}
    (answered : answer (call asked) state = (.ok value, next)) (later : List ι) :
    accepted call state (asked :: later) = asked :: accepted call next later := by
  rw [accepted, transcript_cons_of_ok answered, List.filter_cons_of_pos rfl]
  rfl

/-- A first call that is refused is not. -/
theorem accepted_cons_of_error {asked : ι} {cause : ε} {next : σ}
    (answered : answer (call asked) state = (.error cause, next)) (later : List ι) :
    accepted call state (asked :: later) = accepted call next later := by
  rw [accepted, transcript_cons_of_error answered, List.filter_cons_of_neg Bool.false_ne_true]
  rfl

variable {kind : σ → Prop}

/-- **Refused calls can be left out.** The others leave the same state and are answered as
before. -/
theorem spare_accepted (traceless : Traceless call kind) (known : kind state) (asked : List ι) :
    leaves call state (accepted call state asked) = leaves call state asked ∧
      transcript call state (accepted call state asked) =
        (transcript call state asked).filter (·.2.isOk) := by
  induction asked generalizing state with
  | nil => exact ⟨rfl, rfl⟩
  | cons first later inductionHypothesis =>
      have kept := traceless.keeps known first
      cases answered : answer (call first) state with
      | mk result next =>
          rw [answered] at kept
          obtain ⟨same, alike⟩ := inductionHypothesis kept
          cases result with
          | error cause =>
              obtain rfl := traceless.traceless known answered
              rw [accepted_cons_of_error answered, transcript_cons_of_error answered,
                leaves_cons_of answered, List.filter_cons_of_neg Bool.false_ne_true]
              exact ⟨same, alike⟩
          | ok value =>
              rw [accepted_cons_of_ok answered, transcript_cons_of_ok answered,
                transcript_cons_of_ok answered, leaves_cons_of answered, leaves_cons_of answered,
                List.filter_cons_of_pos rfl, alike]
              exact ⟨same, rfl⟩

end Renko.Calls
