import Mathlib
import Renko.Desk.Recorded
import Renko.Proofs.Outcome
import Renko.Proofs.Report

/-! # Runs that are recorded

What a run of a desk delivers, step by step, and that it reports all or nothing.
-/

/-! ## Recorded runs, step by step

A recorded run answers with a value or with a fault, and goes on with what has been delivered so far
(`Renko.Outcome.answer`). Both runs of a desk first read their inputs (`Renko.Desk.inputs`),
and while they do they deliver nothing but warnings (`Renko.Desk.warns_inputs`).
-/

namespace Renko.Desk

open Outcome

namespace Recorded

variable {β γ : Type}

/-- A run starts without deliveries, and they are told in order. -/
theorem perform_eq (run : Recorded β) :
    run.perform = ((answer run []).1, (answer run []).2.reverse) :=
  rfl

/-- What a run performs is what it answers. -/
theorem answer_of_perform {run : Recorded β} {value : β} {deliveries : List Delivery}
    (ran : run.perform = (.ok value, deliveries)) :
    answer run [] = (.ok value, deliveries.reverse) := by
  obtain ⟨ended, rfl⟩ := Prod.mk.inj ran
  rw [List.reverse_reverse]
  exact Prod.ext ended rfl

/-- A run with a value has performed and delivered. -/
theorem exists_of_toOption {run : Recorded β} {value : β}
    (succeeds : run.perform.1.toOption = some value) :
    ∃ deliveries, run.perform = (.ok value, deliveries) := by
  refine ⟨run.perform.2, Prod.ext ?_ rfl⟩
  cases ended : run.perform.1 with
  | error fault =>
      rw [ended] at succeeds
      cases succeeds
  | ok other =>
      rw [ended] at succeeds
      exact congrArg _ (Option.some.inj succeeds)

/-- A result that is settled delivers nothing. -/
theorem eq_of_settled {result : Except Fault β} {value : β} {kept later : List Delivery}
    (settled : answer (settle result : Recorded β) kept = (.ok value, later)) :
    result = .ok value ∧ later = kept := by
  obtain ⟨same, rfl⟩ := Prod.mk.inj ((answer_settle result kept).symm.trans settled)
  exact ⟨same, rfl⟩

/-- A result of trading delivers nothing. -/
theorem eq_of_traded {result : Except (TradeFault Float) β} {value : β}
    {kept later : List Delivery}
    (traded : answer (trade result : Recorded β) kept = (.ok value, later)) :
    result = .ok value ∧ later = kept := by
  obtain ⟨same, rfl⟩ := Prod.mk.inj ((answer_trade result kept).symm.trans traded)
  cases result with
  | error cause => cases same
  | ok other => exact ⟨congrArg _ (Except.ok.inj same), rfl⟩

/-- A run that delivers warnings and nothing else. -/
def Warns (run : Recorded β) : Prop :=
  ∀ kept, ∃ warned, (answer run kept).2 = warned ++ kept ∧
    ∀ delivery ∈ warned, ∃ count total, delivery = .rejected count total

private theorem warns_pure (value : β) : Warns (pure value) :=
  fun _ => ⟨[], rfl, fun _ absent => nomatch absent⟩

private theorem warns_settle (result : Except Fault β) : Warns (settle result) := by
  intro kept
  rw [answer_settle]
  exact ⟨[], rfl, fun _ absent => nomatch absent⟩

private theorem warns_rejected (count total : Nat) : Warns (keep (.rejected count total)) :=
  fun _ => ⟨[.rejected count total], rfl, List.forall_mem_singleton.mpr ⟨count, total, rfl⟩⟩

/-- Two runs that only warn do so in a row. -/
theorem Warns.bind {run : Recorded β} {next : β → Recorded γ} (first : run.Warns)
    (rest : ∀ value, (next value).Warns) : Warns (run >>= next) := by
  intro kept
  obtain ⟨early, delivered, warnings⟩ := first kept
  cases ran : answer run kept with
  | mk result later =>
      rw [ran] at delivered
      cases result with
      | error fault =>
          rw [answer_bind_of_error ran]
          exact ⟨early, delivered, warnings⟩
      | ok value =>
          obtain ⟨late, deliveredLate, warningsLate⟩ := rest value later
          rw [answer_bind_of_ok ran]
          refine ⟨late ++ early, ?_, List.forall_mem_append.mpr ⟨warningsLate, warnings⟩⟩
          rw [deliveredLate, List.append_assoc, ← delivered]

end Recorded

section

variable {β : Type} {read : Delivery → Option β} {warned : List Delivery}

/-- Warnings are not read as reports. -/
theorem filterMap_warnings (silent : ∀ count total, read (.rejected count total) = none)
    (warnings : ∀ delivery ∈ warned, ∃ count total, delivery = .rejected count total) :
    warned.filterMap read = [] := by
  refine List.filterMap_eq_nil_iff.mpr fun delivery member => ?_
  obtain ⟨count, total, rfl⟩ := warnings delivery member
  exact silent count total

/-- Of a report that is delivered after warnings nothing but the report is read. -/
theorem filterMap_of_warnings {delivery : Delivery} {item : β}
    (reported : read delivery = some item)
    (silent : ∀ count total, read (.rejected count total) = none)
    (warnings : ∀ delivery ∈ warned, ∃ count total, delivery = .rejected count total) :
    (delivery :: warned).reverse.filterMap read = [item] := by
  rw [List.filterMap_reverse, List.filterMap_cons_some reported,
    filterMap_warnings silent warnings]
  rfl

end

/-- What both runs read before anything else: the admitted ticks of a source, and the schedule that
is configured. -/
def inputs {m : Type → Type} [Monad m] [MonadExceptOf Fault m] (desk : Desk m) (ini : Ini)
    (source : String) : m (List (Tick Float) × Option (Schedule Float)) := do
  let ticks ← desk.admittedTicks source
  let schedule ← desk.configuredSchedule ini
  return (ticks, schedule)

section

variable {m : Type → Type} [Monad m] [LawfulMonad m] [MonadExceptOf Fault m]

/-- A run on bricks reads its inputs, charts them and writes its report. -/
theorem reportBricks_eq (desk : Desk m) (ini : Ini) (source report : String) (unique : Bool) :
    desk.reportBricks ini source report unique =
      (desk.inputs ini source >>= fun read =>
        settle (Config.brickSize ini) >>= fun size =>
          trade (Chart.ofScheduled size read.2 read.1) >>= fun chart =>
            let bricks := if unique then chart.unique else chart.bricks
            desk.writeBricks report bricks >>= fun _ => pure bricks.length) := by
  simp only [reportBricks, inputs, bind_assoc, pure_bind]

/-- A run on positions reads its inputs, trades on them and writes its report. -/
theorem reportBacktest_eq (desk : Desk m) (ini : Ini) (setup : BacktestSetup Float)
    (source report : String) :
    desk.reportBacktest ini setup source report =
      (desk.inputs ini source >>= fun read =>
        trade (backtest setup read.2 read.1) >>= fun result =>
          desk.writePositions report result.positions >>= fun _ => pure result) := by
  simp only [reportBacktest, inputs, bind_assoc, pure_bind]

end

/-- Reading delivers nothing but warnings. -/
theorem warns_inputs (ticks : String → Except Fault (List (Tick Float)))
    (schedule : String → Except Fault (Schedule Float)) (ini : Ini) (source : String) :
    ((recorded ticks schedule).inputs ini source).Warns := by
  have admitted : ((recorded ticks schedule).admittedTicks source).Warns := by
    apply (Recorded.warns_settle (ticks source)).bind
    intro all
    by_cases rejects : 0 < (TickFilter.fresh.filterAll all).2.rejected
    · simp only [if_pos rejects]
      exact (Recorded.warns_rejected _ _).bind fun _ => Recorded.warns_pure _
    · simp only [if_neg rejects]
      exact Recorded.warns_pure _
  have configured : ((recorded ticks schedule).configuredSchedule ini).Warns := by
    rw [configuredSchedule]
    cases Config.path? ini none "range" "schedule" with
    | none => exact Recorded.warns_pure none
    | some path =>
        exact (Recorded.warns_settle (schedule path)).bind fun table =>
          Recorded.warns_pure (some table)
  exact admitted.bind fun _ => configured.bind fun _ => Recorded.warns_pure _

end Renko.Desk

/-! ## All or nothing

A run of a desk hands over its report last, once all else has gone well. So it reports once if it
succeeds, and not at all if it fails, whatever it fails of (`Renko.Desk.reports_all_or_nothing`).
-/

namespace Renko.Desk

open Outcome

/-- The reports among what was delivered, each with the path it was written under. -/
def reports (deliveries : List Delivery) : List (String × String) :=
  deliveries.filterMap Delivery.report?

namespace Recorded

variable {β γ : Type} {path : String} {tells : β → String → Prop}

/-- A run that reports once if it succeeds, and never if it fails, whatever else was delivered
before it. -/
def ReportsOnce (run : Recorded β) (path : String) (tells : β → String → Prop) : Prop :=
  ∀ kept, reports kept = [] →
    match answer run kept with
    | (.ok value, later) => ∃ text, reports later = [(path, text)] ∧ tells value text
    | (.error _, later) => reports later = []

private theorem warns_trade (result : Except (TradeFault Float) β) : Warns (trade result) := by
  intro kept
  rw [answer_trade]
  exact ⟨[], rfl, fun _ absent => nomatch absent⟩

/-- Warnings are no reports. -/
theorem Warns.reports_eq {run : Recorded β} (warns : run.Warns) {kept : List Delivery}
    (silent : reports kept = []) : reports (answer run kept).2 = [] := by
  obtain ⟨warned, delivered, warnings⟩ := warns kept
  have nothing : reports warned = [] := filterMap_warnings (fun _ _ => rfl) warnings
  rw [delivered, reports, List.filterMap_append]
  exact List.append_eq_nil_iff.mpr ⟨nothing, silent⟩

/-- What only warns may go before a report. -/
theorem Warns.reportsOnce_bind {run : Recorded β} {next : β → Recorded γ} (warns : run.Warns)
    {tells : γ → String → Prop} (rest : ∀ value, (next value).ReportsOnce path tells) :
    (run >>= next).ReportsOnce path tells := by
  intro kept silent
  have still := warns.reports_eq silent
  cases ran : answer run kept with
  | mk result later =>
      rw [ran] at still
      cases result with
      | error fault =>
          rw [answer_bind_of_error ran]
          exact still
      | ok value =>
          rw [answer_bind_of_ok ran]
          exact rest value later still

private theorem reportsOnce_keep {delivery : Delivery} {text : String} {value : β}
    (reported : delivery.report? = some (path, text)) (told : tells value text) :
    (keep delivery >>= fun _ => pure value).ReportsOnce path tells := by
  intro kept silent
  refine ⟨text, ?_, told⟩
  change (delivery :: kept).filterMap Delivery.report? = [(path, text)]
  rw [List.filterMap_cons_some reported]
  exact congrArg _ silent

/-- A run that succeeds with one report, under a path and with a text that tells of its value, or
that fails without any. -/
def AllOrNothing (run : Recorded β) (path : String) (tells : β → String → Prop) : Prop :=
  match run.perform with
  | (.ok value, deliveries) => ∃ text, reports deliveries = [(path, text)] ∧ tells value text
  | (.error _, deliveries) => reports deliveries = []

/-- A run that reports once has reported all or nothing. -/
theorem ReportsOnce.allOrNothing {run : Recorded β} (once : run.ReportsOnce path tells) :
    run.AllOrNothing path tells := by
  have answered := once [] rfl
  have reversed (deliveries : List Delivery) :
      reports deliveries.reverse = (reports deliveries).reverse := List.filterMap_reverse
  rw [AllOrNothing, perform_eq]
  cases ran : answer run [] with
  | mk result later =>
      rw [ran] at answered
      cases result with
      | error fault =>
          change reports later.reverse = []
          rw [reversed, answered]
          rfl
      | ok value =>
          obtain ⟨text, reported, told⟩ := answered
          refine ⟨text, ?_, told⟩
          change reports later.reverse = [(path, text)]
          rw [reversed, reported]
          rfl

end Recorded

/-- **All or nothing.** Whatever its sources answer, a run that fails has reported nothing, and one
that succeeds has written one report, under the path asked for. A report on bricks has as many rows
as the run says, and one on positions has a row for each position of the result, in order. -/
theorem reports_all_or_nothing (ticks : String → Except Fault (List (Tick Float)))
    (schedule : String → Except Fault (Schedule Float)) (ini : Ini) (source path : String) :
    (∀ unique : Bool,
      ((recorded ticks schedule).reportBricks ini source path unique).AllOrNothing path
        fun count text => ((Report.table text).drop 1).length = count) ∧
    ∀ setup : BacktestSetup Float,
      ((recorded ticks schedule).reportBacktest ini setup source path).AllOrNothing path
        fun result text =>
          (Report.table text).drop 1 = result.positions.map Report.positionFields := by
  have reads := warns_inputs ticks schedule ini source
  refine ⟨fun unique => Recorded.ReportsOnce.allOrNothing ?_,
    fun setup => Recorded.ReportsOnce.allOrNothing ?_⟩
  · rw [reportBricks_eq]
    refine reads.reportsOnce_bind fun read => ?_
    refine (Recorded.warns_settle _).reportsOnce_bind fun size => ?_
    refine (Recorded.warns_trade _).reportsOnce_bind fun chart => ?_
    refine Recorded.reportsOnce_keep rfl ?_
    exact (congrArg List.length (Report.brickLayout.drop_one_table _)).trans (List.length_map _)
  · rw [reportBacktest_eq]
    refine reads.reportsOnce_bind fun read => ?_
    refine (Recorded.warns_trade _).reportsOnce_bind fun result => ?_
    exact Recorded.reportsOnce_keep rfl (Report.positionLayout.drop_one_table _)

section

variable {ticks : String → Except Fault (List (Tick Float))}
  {schedule : String → Except Fault (Schedule Float)} {ini : Ini} {source : String} {fault : Fault}

/-- A source fails: that of the ticks or, once they are there, that of the schedule configured. -/
def SourceFails (ticks : String → Except Fault (List (Tick Float)))
    (schedule : String → Except Fault (Schedule Float)) (ini : Ini) (source : String)
    (fault : Fault) : Prop :=
  ticks source = .error fault ∨ ∃ all name, ticks source = .ok all ∧
    Config.path? ini none "range" "schedule" = some name ∧ schedule name = .error fault

/-- Ticks that are there are admitted, with a warning or without. -/
theorem exists_answer_admittedTicks {all : List (Tick Float)} (found : ticks source = .ok all)
    (kept : List Delivery) : ∃ later, answer ((recorded ticks schedule).admittedTicks source) kept =
      (.ok (TickFilter.fresh.filterAll all).1, later) := by
  have fetched : answer ((recorded ticks schedule).ticks source) kept = (.ok all, kept) :=
    (answer_settle _ _).trans (congrArg (·, kept) found)
  rw [admittedTicks, answer_bind_of_ok fetched]
  by_cases rejects : 0 < (TickFilter.fresh.filterAll all).2.rejected
  · simp only [if_pos rejects]
    exact ⟨_, rfl⟩
  · simp only [if_neg rejects]
    exact ⟨_, rfl⟩

/-- What is read ends with the fault of a source that fails. -/
theorem SourceFails.exists_answer_inputs (fails : SourceFails ticks schedule ini source fault)
    (kept : List Delivery) :
    ∃ later, answer ((recorded ticks schedule).inputs ini source) kept = (.error fault, later) := by
  rcases fails with failed | ⟨all, name, found, named, failed⟩
  · have stops : answer ((recorded ticks schedule).ticks source) kept = (.error fault, kept) :=
      (answer_settle _ _).trans (congrArg (·, kept) failed)
    exact ⟨kept, answer_bind_of_error (answer_bind_of_error stops)⟩
  · obtain ⟨later, admitted⟩ : ∃ later,
        answer ((recorded ticks schedule).admittedTicks source) kept = (.ok _, later) :=
      exists_answer_admittedTicks found kept
    have stops : answer ((recorded ticks schedule).schedule name) later = (.error fault, later) :=
      (answer_settle _ _).trans (congrArg (·, later) failed)
    refine ⟨later, (answer_bind_of_ok admitted).trans (answer_bind_of_error ?_)⟩
    simp only [configuredSchedule, named]
    exact answer_bind_of_error stops

/-- **A fault of a source is the fault of the run**, of one on bricks as of one on positions. -/
theorem SourceFails.reports_fail (fails : SourceFails ticks schedule ini source fault)
    (path : String) :
    (∀ unique : Bool,
      ((recorded ticks schedule).reportBricks ini source path unique).perform.1 = .error fault) ∧
    ∀ setup : BacktestSetup Float,
      ((recorded ticks schedule).reportBacktest ini setup source path).perform.1 =
        .error fault := by
  obtain ⟨later, stops⟩ := fails.exists_answer_inputs []
  constructor
  · intro unique
    rw [Recorded.perform_eq, reportBricks_eq, answer_bind_of_error stops]
  · intro setup
    rw [Recorded.perform_eq, reportBacktest_eq, answer_bind_of_error stops]

end

end Renko.Desk
