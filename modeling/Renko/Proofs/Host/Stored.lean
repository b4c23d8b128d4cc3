import Mathlib
import Renko.Host.Stored
import Renko.Proofs.Backtest.Charted
import Renko.Proofs.Config
import Renko.Proofs.Csv.Tables
import Renko.Proofs.Desk
import Renko.Proofs.Scalar

/-! # Runs on stored files, step by step

A run on stored files answers with a value or with a fault, and leaves a scene. How it can end is
put together from how its steps can end (`Renko.Host.Stored.Ends`). With a configuration that is
checked, both runs of a desk end well unless the files are at fault
(`Renko.Host.Stored.ends_reportBricks`, `Renko.Host.Stored.ends_reportBacktest`): trading itself
refuses nothing, and the one size that can still be invalid is one of the schedule. Reading a
settings file depends on what its path leads to and on nothing else (`Renko.Host.Stored.Steady`).
-/

namespace Renko

/-- The schedule that a configuration names is a table with an invalid size. -/
def Config.InvalidSchedule (storage : Storage) (ini : Ini) : Prop :=
  ∃ path bytes entries, path? ini none "range" "schedule" = some path ∧
    storage.read path = .ok (.file bytes) ∧ Schedule.readTable bytes = .ok entries ∧
    ∃ entry ∈ entries, ¬(entry.size.isFinite = true ∧ 0 < entry.size)

/-- A fault of the files: a report cannot be saved, a table cannot be read, or the configured
schedule has an invalid size. -/
def Fault.OfFiles (storage : Storage) (ini : Ini) (fault : Fault) : Prop :=
  fault.exitStatus = 1 ∨ fault.exitStatus = 3 ∨
    fault.exitStatus = 4 ∧ Config.InvalidSchedule storage ini

namespace Schedule

variable {bytes : List UInt8}

/-- A schedule that is read is built from the entries of its table. -/
theorem built_of_readData {schedule : Schedule Float} (read : readData bytes = .ok schedule) :
    ∃ entries, ofEntries entries = .ok schedule := by
  obtain ⟨entries, -, built⟩ := readData_eq_ok_iff.mp read
  exact ⟨entries, built⟩

/-- Data that is refused is no table, or it has an invalid size. -/
theorem exists_invalid_of_readData {fault : Fault} (refused : readData bytes = .error fault) :
    fault.exitStatus = 3 ∨ fault.exitStatus = 4 ∧ ∃ entries, readTable bytes = .ok entries ∧
      ∃ entry ∈ entries, ¬(entry.size.isFinite = true ∧ 0 < entry.size) := by
  rcases readData_eq_error_iff.mp refused with ⟨cause, -, rfl⟩ | ⟨entries, cause, rows, built, rfl⟩
  · exact .inl rfl
  · obtain ⟨entry, member, invalid⟩ := exists_invalid_of_ofEntries built
    exact .inr ⟨rfl, entries, rows, entry, member, mt validBrickSize_iff.mpr invalid⟩

end Schedule

namespace Host

/-- A run on stored files. -/
abbrev Stored := ExceptT Fault (StateM Scene)

namespace Stored

open Outcome

variable {β γ : Type}

/-- A result that is there is settled at once. -/
theorem settle_ok (value : β) : (Desk.settle (.ok value) : Stored β) = pure value :=
  rfl

private theorem trade_ok (value : β) : (Desk.trade (.ok value) : Stored β) = pure value :=
  rfl

private theorem answer_read (path : String) (scene : Scene) :
    answer (Host.stored.read path : Stored (Except String StorageEntry)) scene =
      (.ok ((scene.storage.read path).mapError StorageFault.message), scene) :=
  rfl

private theorem answer_save (path text : String) (scene : Scene) :
    answer (Host.stored.save path text : Stored (Except String Unit)) scene =
      (.ok (scene.save path text).1, (scene.save path text).2) :=
  rfl

/-- A run from a scene of which `before` holds ends well, with a value and a scene of which `after`
holds, or with a fault of which `may` holds. -/
structure Ends (before : Scene → Prop) (run : Stored β) (after : β → Scene → Prop)
    (may : Fault → Prop) : Prop where
  ofAnswer : ∀ scene, before scene →
    match answer run scene with
    | (.ok value, later) => after value later
    | (.error fault, _) => may fault

variable {before : Scene → Prop} {run : Stored β} {next : β → Stored γ}
  {after : β → Scene → Prop} {may : Fault → Prop}

/-- Two steps end well in a row if each does where the other leaves off. -/
theorem Ends.bind {afterwards : γ → Scene → Prop} (first : Ends before run after may)
    (rest : ∀ value, Ends (after value) (next value) afterwards may) :
    Ends before (run >>= next) afterwards may := by
  refine ⟨fun scene starts => ?_⟩
  have ended := first.ofAnswer scene starts
  cases ran : answer run scene with
  | mk result later =>
      rw [ran] at ended
      cases result with
      | error fault =>
          rw [answer_bind_of_error ran]
          exact ended
      | ok value =>
          rw [answer_bind_of_ok ran]
          exact (rest value).ofAnswer later ended

/-- A step that changes nothing comes before the rest. -/
theorem Ends.after_ok {value : β}
    (ran : ∀ scene, before scene → answer run scene = (.ok value, scene))
    {afterwards : γ → Scene → Prop} (rest : Ends before (next value) afterwards may) :
    Ends before (run >>= next) afterwards may := by
  refine ⟨fun scene starts => ?_⟩
  rw [answer_bind_of_ok (ran scene starts)]
  exact rest.ofAnswer scene starts

/-- A step whose value is not wanted ends as before. -/
theorem Ends.discarded (ends : Ends before run (fun _ _ => True) may) :
    Ends before (discard run) (fun _ _ => True) may := by
  have ignored : discard run = run >>= fun _ => pure () :=
    (congrFun (congrFun map_const ()) run).trans (bind_pure_comp _ run).symm
  rw [ignored]
  exact ends.bind fun _ => ⟨fun _ => id⟩

/-- A run that fails has a fault it may have. -/
theorem Ends.of_error (ends : Ends before run after may) {scene : Scene} (starts : before scene)
    {fault : Fault} (failed : (answer run scene).1 = .error fault) : may fault := by
  have ended := ends.ofAnswer scene starts
  cases ran : answer run scene with
  | mk result later =>
      rw [ran] at ended failed
      obtain rfl := failed
      exact ended

private theorem Ends.of_fact {fact : Prop} (ends : fact → Ends (fun _ => True) run after may) :
    Ends (fun _ => fact) run after may :=
  ⟨fun scene holds => (ends holds).ofAnswer scene trivial⟩

private theorem ends_pure {value : β} (good : ∀ scene, before scene → after value scene) :
    Ends before (pure value) after may :=
  ⟨good⟩

private theorem ends_settle {result : Except Fault β}
    (good : ∀ value, result = .ok value → ∀ scene, before scene → after value scene)
    (bad : ∀ fault, result = .error fault → ∀ scene, before scene → may fault) :
    Ends before (Desk.settle result) after may := by
  refine ⟨fun scene starts => ?_⟩
  rw [answer_settle]
  cases result with
  | error fault => exact bad fault rfl scene starts
  | ok value => exact good value rfl scene starts

section

variable {storage : Storage} {ini : Ini}

private theorem ends_log (line : String) :
    Ends (·.storage = storage) (Host.stored.log line : Stored Unit)
      (fun _ later => later.storage = storage) may :=
  ⟨fun _ same => same⟩

/-- A table that is read is that of a file, or it is empty. -/
theorem ends_readTable (path : String) :
    Ends (·.storage = storage) (Host.stored.readTable path)
      (fun bytes later => later.storage = storage ∧
        (storage.read path = .ok (.file bytes) ∨ bytes = []))
      (Fault.OfFiles storage ini) := by
  refine ⟨fun scene same => ?_⟩
  unfold Host.readTable
  rw [answer_bind_of_ok (answer_read path scene), same]
  cases storage.read path with
  | error fault => exact .inr (.inl rfl)
  | ok entry =>
    cases entry with
    | directory => exact ⟨same, .inr rfl⟩
    | file bytes => exact ⟨same, .inl rfl⟩

private theorem ends_saveReport (path : String) (lines : List String) :
    Ends before (Host.stored.saveReport path lines) (fun _ _ => True)
      (Fault.OfFiles storage ini) := by
  refine ⟨fun scene _ => ?_⟩
  unfold Host.saveReport
  rw [answer_bind_of_ok (answer_save path (Report.text lines) scene)]
  cases (scene.save path (Report.text lines)).1 with
  | error reason => exact .inl rfl
  | ok done => trivial

private theorem ends_ticks (source : String) :
    Ends (·.storage = storage) (Host.stored.desk.ticks source)
      (fun _ later => later.storage = storage) (Fault.OfFiles storage ini) := by
  refine (ends_readTable source).bind fun bytes => ends_settle (fun _ _ _ => And.left) ?_
  intro fault failed _ _
  obtain ⟨cause, -, rfl⟩ := Tick.readData_eq_error_iff.mp failed
  exact .inr (.inl rfl)

private theorem ends_admittedTicks (source : String) :
    Ends (·.storage = storage) (Host.stored.desk.admittedTicks source)
      (fun _ later => later.storage = storage) (Fault.OfFiles storage ini) := by
  refine (ends_ticks source).bind fun all => ?_
  by_cases rejects : 0 < (TickFilter.fresh.filterAll all).2.rejected
  · simp only [if_pos rejects]
    exact (ends_log _).bind fun _ => ends_pure fun _ => id
  · simp only [if_neg rejects]
    exact ends_pure fun _ => id

private theorem ends_schedule {path : String}
    (configured : Config.path? ini none "range" "schedule" = some path) :
    Ends (·.storage = storage) (Host.stored.desk.schedule path)
      (fun table _ => ∃ entries, Schedule.ofEntries entries = .ok table)
      (Fault.OfFiles storage ini) := by
  refine (ends_readTable path).bind fun bytes => ends_settle (fun table read _ _ => ?_) ?_
  · exact Schedule.built_of_readData read
  · rintro fault refused _ ⟨-, file | rfl⟩
    · obtain status | ⟨status, entries, rows, invalid⟩ :=
        Schedule.exists_invalid_of_readData refused
      · exact .inr (.inl status)
      · exact .inr (.inr ⟨status, path, bytes, entries, configured, file, rows, invalid⟩)
    · rw [Schedule.readData_of_entries rfl] at refused
      cases refused

private theorem ends_configuredSchedule :
    Ends (·.storage = storage) (Host.stored.desk.configuredSchedule ini)
      (fun schedule _ => ∀ table ∈ schedule, ∃ entries, Schedule.ofEntries entries = .ok table)
      (Fault.OfFiles storage ini) := by
  unfold Desk.configuredSchedule
  cases configured : Config.path? ini none "range" "schedule" with
  | none => exact ends_pure fun _ _ table absent => nomatch absent
  | some path =>
      refine (ends_schedule configured).bind fun table => ends_pure fun _ built other chosen => ?_
      obtain rfl := Option.some.inj chosen
      exact built

/-- What is read before anything else: a schedule that is read has been built. -/
theorem ends_inputs (source : String) :
    Ends (·.storage = storage) (Host.stored.desk.inputs ini source)
      (fun read _ => ∀ table ∈ read.2, ∃ entries, Schedule.ofEntries entries = .ok table)
      (Fault.OfFiles storage ini) :=
  (ends_admittedTicks source).bind fun _ => ends_configuredSchedule.bind fun _ =>
    ends_pure fun _ => id

/-- A report is the last thing that is left to do. -/
theorem ends_report (path : String) (lines : List String) (value : β) :
    Ends (fun _ => True) (Host.stored.saveReport path lines >>= fun _ => pure value)
      (fun _ _ => True) (Fault.OfFiles storage ini) :=
  (ends_saveReport path lines).bind fun _ => ends_pure fun _ => id

/-- **Bricks are reported unless the files are at fault.** -/
theorem ends_reportBricks {size : Float} (sized : Config.brickSize ini = .ok size)
    (source report : String) (unique : Bool) :
    Ends (·.storage = storage) (Host.stored.desk.reportBricks ini source report unique)
      (fun _ _ => True) (Fault.OfFiles storage ini) := by
  have valid := Config.validBrickSize_of_brickSize sized
  rw [Desk.reportBricks_eq, sized]
  refine (ends_inputs source).bind fun read => .of_fact fun built => ?_
  obtain ⟨chart, charted⟩ := Chart.exists_ofScheduled valid (Schedule.valid_of_built built) read.1
  rw [settle_ok, pure_bind, charted, trade_ok, pure_bind]
  exact ends_report report _ _

/-- **Positions are reported unless the files are at fault.** -/
theorem ends_reportBacktest {override : Option Float} {setup : BacktestSetup Float}
    (configured : Config.backtestSetup ini override = .ok setup) (source report : String) :
    Ends (·.storage = storage) (Host.stored.desk.reportBacktest ini setup source report)
      (fun _ _ => True) (Fault.OfFiles storage ini) := by
  obtain ⟨sized, validCharge⟩ := Config.checked_of_backtestSetup configured
  have validSize := Config.validBrickSize_of_brickSize sized
  rw [Desk.reportBacktest_eq]
  refine (ends_inputs source).bind fun read => .of_fact fun built => ?_
  obtain ⟨result, ended, -⟩ :=
    exists_result validSize validCharge (Schedule.valid_of_built built) read.1
  rw [ended, trade_ok, pure_bind]
  exact ends_report report _ _

end

/-- From all scenes of which `before` holds a run answers alike and changes nothing. The answer is a
fault of the configuration, or a value of which `holds` holds. -/
def Steady (before : Scene → Prop) (run : Stored β) (holds : β → Prop) : Prop :=
  ∃ result, (∀ scene, before scene → answer run scene = (result, scene)) ∧
    (∀ fault, result = .error fault → fault.exitStatus = 2) ∧
    ∀ value, result = .ok value → holds value

/-- Two steady steps are steady in a row. -/
theorem Steady.bind {run : Stored β} {next : β → Stored γ} {holds : β → Prop}
    {afterwards : γ → Prop} (first : Steady before run holds)
    (rest : ∀ value, holds value → Steady before (next value) afterwards) :
    Steady before (run >>= next) afterwards := by
  obtain ⟨result, answers, faults, values⟩ := first
  cases result with
  | error fault =>
      refine ⟨.error fault, fun scene starts => answer_bind_of_error (answers scene starts),
        fun other same => ?_, fun _ same => nomatch same⟩
      exact faults other (congrArg _ (Except.error.inj same))
  | ok value =>
      obtain ⟨final, continues, ends⟩ := rest value (values value rfl)
      refine ⟨final, fun scene starts => ?_, ends⟩
      rw [answer_bind_of_ok (answers scene starts)]
      exact continues scene starts

/-- A value that is there is steady. -/
theorem steady_pure {holds : β → Prop} {value : β} (good : holds value) :
    Steady before (pure value) holds :=
  ⟨.ok value, fun _ _ => rfl, fun _ same => (nomatch same),
    fun _ same => Except.ok.inj same ▸ good⟩

private theorem steady_throw {holds : β → Prop} {fault : Fault} (status : fault.exitStatus = 2) :
    Steady before (throw fault : Stored β) holds :=
  ⟨.error fault, fun _ _ => rfl, fun _ same => Except.error.inj same ▸ status,
    fun _ same => nomatch same⟩

/-- A result that is there is steady if its fault ends a command with status 2. -/
theorem steady_settle {result : Except Fault β}
    (status : ∀ fault, result = .error fault → fault.exitStatus = 2) :
    Steady before (Desk.settle result) (result = .ok ·) :=
  ⟨result, fun scene _ => answer_settle result scene, status, fun _ same => same⟩

private theorem steady_read (path : String) (entry : Except StorageFault StorageEntry) :
    Steady (·.storage.read path = entry)
      (Host.stored.read path : Stored (Except String StorageEntry)) (fun _ => True) := by
  refine ⟨.ok (entry.mapError StorageFault.message), fun scene same => ?_,
    fun _ same => (nomatch same), fun _ _ => trivial⟩
  rw [answer_read, same]

/-- Reading settings is steady as long as their path leads to the same. -/
theorem steady_readIni (path : String) (entry : Except StorageFault StorageEntry) :
    Steady (·.storage.read path = entry) (Host.stored.readIni path) (fun _ => True) := by
  refine (steady_read path entry).bind fun opened _ => ?_
  match opened with
  | .error reason => exact steady_throw rfl
  | .ok .directory => exact steady_throw rfl
  | .ok (.file bytes) =>
    simp only
    split
    · exact steady_throw rfl
    · split
      · exact steady_throw rfl
      · exact steady_pure trivial

end Stored

end Host

end Renko
