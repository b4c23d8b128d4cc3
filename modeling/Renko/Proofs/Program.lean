import Mathlib
import Renko.Program
import Renko.Proofs.Host.Stored

/-! # Configurations decide how commands end

Every command first loads its configuration. If that fails, the command ends there, whichever it is
and whatever else it was given; if not, what can still go wrong lies in the command line and in the
other files (`Renko.Program.configurations_decide`).
-/

namespace Renko

/-- The settings file of a command. -/
def Command.config : Command → String
  | bricks config _ _ _ => config
  | backtest config _ _ _ => config
  | validate config => config

/-- Ticks are neither given nor configured. -/
def Config.NoTicks (ini : Ini) (given : Option String) : Prop :=
  given = none ∧ ∀ raw ∈ ini.get? "backtest" "ticks", Text.trim raw.toList = []

namespace Program

open Outcome Host.Stored

/-- What loading a configuration answers on stored files. -/
def loaded (storage : Storage) (path : String) : Except Fault Ini :=
  (answer (loadConfig Host.stored path) (Scene.ofStorage storage)).1

/-- The status that a command exits with in a scene. -/
def status (command : Command) (scene : Scene) : Nat :=
  ((run Host.stored command).run scene).1

/-- Loading answers alike wherever the path leads to the same entry. -/
theorem steady_loadConfig (path : String) (entry : Except StorageFault StorageEntry) :
    Steady (·.storage.read path = entry) (loadConfig Host.stored path)
      (Config.validate · = .ok ()) := by
  refine (steady_readIni path entry).bind fun ini _ => ?_
  exact (steady_settle fun _ => Config.exitStatus_of_validate).bind fun _ checked =>
    steady_pure checked

section

variable {storage : Storage} {scene : Scene} {path : String}

private theorem answer_loadConfig (same : scene.storage.read path = storage.read path) :
    answer (loadConfig Host.stored path) scene = (loaded storage path, scene) := by
  obtain ⟨result, answers, -⟩ := steady_loadConfig path (storage.read path)
  rw [loaded, answers scene same, answers (Scene.ofStorage storage) rfl]

/-- A configuration that cannot be loaded ends a command with status 2. -/
theorem exitStatus_of_loaded {fault : Fault} (failed : loaded storage path = .error fault) :
    fault.exitStatus = 2 := by
  obtain ⟨result, answers, faults, -⟩ := steady_loadConfig path (storage.read path)
  rw [loaded, answers (Scene.ofStorage storage) rfl] at failed
  exact faults fault failed

/-- A configuration that is loaded has passed the checks. -/
theorem validate_of_loaded {ini : Ini} (loads : loaded storage path = .ok ini) :
    Config.validate ini = .ok () := by
  obtain ⟨result, answers, -, checked⟩ := steady_loadConfig path (storage.read path)
  rw [loaded, answers (Scene.ofStorage storage) rfl] at loads
  exact checked ini loads

private theorem answer_of_loaded {ini : Ini} (loads : loaded storage path = .ok ini)
    (same : scene.storage = storage) :
    answer (loadConfig Host.stored path) scene = (.ok ini, scene) := by
  rw [answer_loadConfig (congrArg (·.read path) same), loads]

private theorem ticksPath_of_noTicks {ini : Ini} {given : Option String}
    (missing : Config.NoTicks ini given) :
    ticksPath ini given = .error (.configMissing "backtest" "ticks") := by
  rw [ticksPath, Config.path?_eq_none.mpr missing]

private theorem exists_ticksPath {ini : Ini} {given : Option String}
    (present : ¬Config.NoTicks ini given) : ∃ source, ticksPath ini given = .ok source := by
  rw [ticksPath]
  cases configured : Config.path? ini given "backtest" "ticks" with
  | none => exact absurd (Config.path?_eq_none.mp configured) present
  | some source => exact ⟨source, rfl⟩

end

section

variable {command : Command} {scene later : Scene}

private theorem run_of_ok (ended : answer (perform Host.stored command) scene = (.ok (), later)) :
    (run Host.stored command).run scene = (0, later) := by
  rw [answer] at ended
  rw [run, StateT.run_bind, ended]
  rfl

private theorem run_of_error {fault : Fault}
    (ended : answer (perform Host.stored command) scene = (.error fault, later)) :
    (run Host.stored command).run scene =
      (fault.exitStatus,
        { later with log := ("ERROR " ++ Text.logged fault.message) :: later.log }) := by
  rw [answer] at ended
  rw [run, StateT.run_bind, ended]
  rfl

private theorem status_of_error {fault : Fault}
    (ended : answer (perform Host.stored command) scene = (.error fault, later)) :
    status command scene = fault.exitStatus :=
  congrArg Prod.fst (run_of_error ended)

/-- A command that ends well unless the files are at fault exits with none of the statuses of a
configuration. -/
theorem status_of_ends {ini : Ini}
    (ends : Ends (·.storage = scene.storage) (perform Host.stored command) (fun _ _ => True)
      (Fault.OfFiles scene.storage ini)) :
    status command scene ≠ 2 ∧
      (status command scene = 4 → Config.InvalidSchedule scene.storage ini) := by
  cases ended : answer (perform Host.stored command) scene with
  | mk result later =>
    cases result with
    | ok done =>
        rw [status, run_of_ok ended]
        exact ⟨Nat.zero_ne_add_one 1, fun zero => nomatch zero⟩
    | error fault =>
        rw [status_of_error ended]
        obtain one | three | ⟨four, invalid⟩ :=
          ends.of_error rfl (congrArg Prod.fst ended)
        · exact ⟨by omega, fun four => by omega⟩
        · exact ⟨by omega, fun four => by omega⟩
        · exact ⟨by omega, fun _ => invalid⟩

end

variable {storage : Storage} {path : String} {ini : Ini}

private theorem perform_of_error {fault : Fault} {command : Command} {scene : Scene}
    (ended : answer (loadConfig Host.stored command.config) scene = (.error fault, scene)) :
    answer (perform Host.stored command) scene = (.error fault, scene) := by
  cases command with
  | bricks config ticks output unique => exact answer_bind_of_error ended
  | backtest config ticks output slippage => exact answer_bind_of_error ended
  | validate config => exact answer_bind_of_error ended

/-- With ticks to read, the command for bricks ends well unless the files are at fault. -/
theorem ends_bricks (loads : loaded storage path = .ok ini) {ticks : Option String}
    (present : ¬Config.NoTicks ini ticks) (output : Option String) (unique : Bool) :
    Ends (·.storage = storage) (bricks Host.stored path ticks output unique) (fun _ _ => True)
      (Fault.OfFiles storage ini) := by
  obtain ⟨⟨size, sized⟩, -⟩ := Config.exists_numbers_of_validate (validate_of_loaded loads)
  obtain ⟨source, found⟩ := exists_ticksPath present
  refine .after_ok (fun scene => answer_of_loaded loads) ?_
  rw [found, settle_ok, pure_bind]
  exact (ends_reportBricks sized _ _ _).discarded

/-- So does the command for a backtest, with a valid slippage. -/
theorem ends_backtest (loads : loaded storage path = .ok ini) {ticks : Option String}
    (present : ¬Config.NoTicks ini ticks) (output : Option String) {slippage : Option Float}
    (valid : ∀ asked ∈ slippage, validSlippage asked = true) :
    Ends (·.storage = storage) (backtest Host.stored path ticks output slippage) (fun _ _ => True)
      (Fault.OfFiles storage ini) := by
  obtain ⟨setup, configured⟩ := Config.exists_backtestSetup (validate_of_loaded loads) valid
  obtain ⟨source, found⟩ := exists_ticksPath present
  refine .after_ok (fun scene => answer_of_loaded loads) ?_
  rw [configured, settle_ok, pure_bind, found, settle_ok, pure_bind]
  exact (ends_reportBacktest configured _ _).bind fun _ => ⟨fun _ => id⟩

/-- A command exits with the status of a configuration exactly if ticks are neither given nor
configured, and with that of trading only if the configured schedule has an invalid size. -/
structure Ascribed (scene : Scene) (ini : Ini) (ticks : Option String) (command : Command) :
    Prop where
  two : status command scene = 2 ↔ Config.NoTicks ini ticks
  four : status command scene = 4 → Config.InvalidSchedule scene.storage ini

/-- How commands end in a scene where a path leads to a configuration that loads. A validation
prints and does nothing else. A backtest exits with the status of trading if it is given an invalid
slippage, and is like bricks if it is not. -/
structure Configured (scene : Scene) (path : String) (ini : Ini) : Prop where
  validates : ∃ text, (run Host.stored (.validate path)).run scene =
    (0, { scene with printed := scene.printed ++ text })
  bricks : ∀ ticks output unique, Ascribed scene ini ticks (.bricks path ticks output unique)
  backtest : ∀ ticks output slippage,
    (∀ given ∈ slippage, given.isFinite = true ∧ 0 ≤ given) →
      Ascribed scene ini ticks (.backtest path ticks output slippage)
  charged : ∀ ticks output given, ¬(given.isFinite = true ∧ 0 ≤ given) →
    status (.backtest path ticks output (some given)) scene = 4

section

variable {scene : Scene}

private theorem run_validate_of_loaded (loads : loaded scene.storage path = .ok ini) :
    ∃ text, (run Host.stored (.validate path)).run scene =
      (0, { scene with printed := scene.printed ++ text }) := by
  obtain ⟨setup, configured⟩ : ∃ setup, Config.backtestSetup ini none = .ok setup :=
    Config.exists_backtestSetup (validate_of_loaded loads) fun _ absent => nomatch absent
  refine ⟨setupText setup (Config.path? ini none "range" "schedule"), run_of_ok ?_⟩
  refine (answer_bind_of_ok (answer_of_loaded loads rfl)).trans ?_
  rw [configured]
  rfl

private theorem status_bricks_of_noTicks (loads : loaded scene.storage path = .ok ini)
    {ticks : Option String} (missing : Config.NoTicks ini ticks) (output : Option String)
    (unique : Bool) : status (.bricks path ticks output unique) scene = 2 := by
  have ended : answer (perform Host.stored (.bricks path ticks output unique)) scene =
      (.error (.configMissing "backtest" "ticks"), scene) := by
    refine (answer_bind_of_ok (answer_of_loaded loads rfl)).trans ?_
    rw [ticksPath_of_noTicks missing]
    rfl
  exact status_of_error ended

private theorem status_backtest_of_noTicks (loads : loaded scene.storage path = .ok ini)
    {ticks : Option String} (missing : Config.NoTicks ini ticks) (output : Option String)
    {slippage : Option Float} (valid : ∀ given ∈ slippage, validSlippage given = true) :
    status (.backtest path ticks output slippage) scene = 2 := by
  obtain ⟨setup, configured⟩ := Config.exists_backtestSetup (validate_of_loaded loads) valid
  have ended : answer (perform Host.stored (.backtest path ticks output slippage)) scene =
      (.error (.configMissing "backtest" "ticks"), scene) := by
    refine (answer_bind_of_ok (answer_of_loaded loads rfl)).trans ?_
    rw [configured, settle_ok, pure_bind, ticksPath_of_noTicks missing]
    rfl
  exact status_of_error ended

private theorem status_backtest_of_invalid (loads : loaded scene.storage path = .ok ini)
    (ticks output : Option String) {given : Float} (invalid : ¬validSlippage given = true) :
    status (.backtest path ticks output (some given)) scene = 4 := by
  have ended : answer (perform Host.stored (.backtest path ticks output (some given))) scene =
      (.error (.trade (.invalidSlippage given)), scene) := by
    refine (answer_bind_of_ok (answer_of_loaded loads rfl)).trans ?_
    rw [Config.backtestSetup_of_invalid invalid]
    rfl
  exact status_of_error ended

/-- It is enough to know how a command exits without ticks, and that with ticks it ends well unless
the files are at fault. -/
theorem Ascribed.of_ends {command : Command} {ticks : Option String}
    (without : Config.NoTicks ini ticks → status command scene = 2)
    (ends : ¬Config.NoTicks ini ticks → Ends (·.storage = scene.storage)
      (perform Host.stored command) (fun _ _ => True) (Fault.OfFiles scene.storage ini)) :
    Ascribed scene ini ticks command := by
  by_cases missing : Config.NoTicks ini ticks
  · refine ⟨iff_of_true (without missing) missing, fun four => ?_⟩
    rw [without missing] at four
    cases four
  · obtain ⟨two, four⟩ := status_of_ends (ends missing)
    exact ⟨iff_of_false two missing, four⟩

/-- A configuration that is loaded decides how every command ends. -/
theorem configured_of_loaded (loads : loaded scene.storage path = .ok ini) :
    Configured scene path ini where
  validates := run_validate_of_loaded loads
  bricks _ output unique :=
    .of_ends (fun missing => status_bricks_of_noTicks loads missing output unique)
      fun present => ends_bricks loads present output unique
  backtest _ output slippage valid := by
    have passes : ∀ given ∈ slippage, validSlippage given = true :=
      fun given member => validSlippage_iff.mpr (valid given member)
    exact .of_ends (fun missing => status_backtest_of_noTicks loads missing output passes)
      fun present => ends_backtest loads present output passes
  charged ticks output _ invalid :=
    status_backtest_of_invalid loads ticks output (mt validSlippage_iff.mp invalid)

end

/-- **Configurations decide.** If loading a configuration fails, every command that is given its
path exits with status 2, logs that fault and changes nothing, whatever else it is given and
whatever else is stored. If loading succeeds, commands end as configured. -/
theorem configurations_decide (storage : Storage) (path : String) :
    match loaded storage path with
    | .error fault => ∀ scene : Scene, scene.storage.read path = storage.read path →
        ∀ command : Command, command.config = path →
          (run Host.stored command).run scene =
            (2, { scene with log := ("ERROR " ++ Text.logged fault.message) :: scene.log })
    | .ok ini => ∀ scene : Scene, scene.storage = storage → Configured scene path ini := by
  cases loads : loaded storage path with
  | error fault =>
      rintro scene same command rfl
      have ended : answer (loadConfig Host.stored command.config) scene =
          (.error fault, scene) := by
        rw [answer_loadConfig same, loads]
      rw [← exitStatus_of_loaded loads]
      exact run_of_error (perform_of_error ended)
  | ok ini =>
      rintro scene rfl
      exact configured_of_loaded loads

/-- Of two files at home one loads; the other has a negative size, and it ends every command. -/
theorem configurations_decide_of_negative_size :
    let bytes (text : String) := text.toList.map fun letter => letter.toNat.toUInt8
    let storage : Storage := ⟨["home"], [["home"]],
      [(["home", "run.ini"], bytes "[range]\nbrick_size=2"),
        (["home", "bad.ini"], bytes "[range]\nbrick_size=-1")]⟩
    (∃ ini, loaded storage "run.ini" = .ok ini ∧
      Configured (.ofStorage storage) "run.ini" ini) ∧
    ∀ command : Command, command.config = "bad.ini" →
      (run Host.stored command).run (.ofStorage storage) = (2, ⟨storage,
        ["ERROR invalid config value [range] brick_size: brick_size must be positive"], ""⟩) := by
  intro bytes storage
  constructor
  · have decided := configurations_decide storage "run.ini"
    have loads : (loaded storage "run.ini").isOk = true := by decide +kernel
    cases found : loaded storage "run.ini" with
    | error fault =>
        rw [found] at loads
        cases loads
    | ok ini =>
        rw [found] at decided
        exact ⟨ini, rfl, decided _ rfl⟩
  · have fails : loaded storage "bad.ini" =
        .error (.configInvalid "range" "brick_size" "brick_size must be positive") := by
      subst storage bytes
      rfl
    have line : "ERROR " ++ Text.logged (Fault.configInvalid "range" "brick_size"
        "brick_size must be positive").message =
        "ERROR invalid config value [range] brick_size: brick_size must be positive" := by
      decide +kernel
    have decided := configurations_decide storage "bad.ini"
    rw [fails] at decided
    exact fun command given => line ▸ decided _ rfl command given

end Program

end Renko
