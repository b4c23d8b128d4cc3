import Mathlib
import Renko.Config
import Renko.Proofs.Outcome
import Renko.Proofs.Scalar

/-! # Configurations

What a configuration that passes its checks sets up, and which rules the checks follow.
-/

/-! ## Configurations are checked

The numbers that a configuration gives to a run have passed the checks that the run makes
(`Renko.Config.checked_of_backtestSetup`). So a configuration that passes all checks sets up every
backtest that is not given an invalid slippage (`Renko.Config.exists_backtestSetup`).
-/

namespace Renko.Config

variable {ini : Ini}

/-- A text without the blanks at its ends is read as a number. -/
def Numeral (raw : String) (value : Float) : Prop :=
  Binary64.read (String.ofList (Text.trim raw.toList)) = .ok value

section

variable {valid : Float → Bool} {invalid : Fault} {group key raw : String}

private theorem exitStatus_of_number {fault : Fault}
    (refused : number group key raw = .error fault) :
    fault.exitStatus = 2 := by
  rw [number] at refused
  cases read : Binary64.read (String.ofList (Text.trim raw.toList)) with
  | ok value =>
      rw [read] at refused
      cases refused
  | error cause =>
      rw [read] at refused
      obtain rfl := Except.error.inj refused
      rfl

/-- A number that is read and then checked is the number in the text and has passed the check. -/
theorem checked_eq_ok {value : Float} :
    (do
      let value ← number group key raw
      if valid value then return value else throw invalid) = Except.ok value ↔
      Numeral raw value ∧ valid value = true := by
  rw [number, Numeral]
  cases Binary64.read (String.ofList (Text.trim raw.toList)) with
  | error cause => exact iff_of_false (fun same => nomatch same) fun both => nomatch both.1
  | ok read =>
      change (if valid read then Except.ok read else .error invalid) = _ ↔ _
      constructor
      · intro given
        by_cases passes : valid read = true
        · rw [if_pos passes] at given
          obtain rfl := Except.ok.inj given
          exact ⟨rfl, passes⟩
        · rw [if_neg passes] at given
          cases given
      · rintro ⟨same, passes⟩
        obtain rfl := Except.ok.inj same
        exact if_pos passes

private theorem exitStatus_of_checked {fault : Fault}
    (refused : (do
      let value ← number group key raw
      if valid value then return value else throw invalid) = Except.error fault)
    (status : invalid.exitStatus = 2) : fault.exitStatus = 2 := by
  obtain failed | ⟨value, -, checked⟩ := Outcome.bind_eq_error.mp refused
  · exact exitStatus_of_number failed
  · by_cases passes : valid value = true
    · rw [if_pos passes] at checked
      cases checked
    · rw [if_neg passes] at checked
      obtain rfl := Except.error.inj checked
      exact status

end

/-- The brick size is the valid number that is given for it. -/
theorem brickSize_eq_ok {size : Float} :
    brickSize ini = .ok size ↔ ∃ raw, ini.get? "range" "brick_size" = some raw ∧
      Numeral raw size ∧ validBrickSize size = true := by
  rw [brickSize]
  cases ini.get? "range" "brick_size" with
  | none => exact iff_of_false (fun same => nomatch same) fun ⟨_, same, _⟩ => nomatch same
  | some raw =>
      simp only [Option.some.injEq, exists_eq_left']
      exact checked_eq_ok

/-- The slippage is the valid number that is given for it, or zero. -/
theorem slippage_eq_ok {charge : Float} :
    slippage ini = .ok charge ↔ match ini.get? "backtest" "slippage" with
      | none => charge = 0
      | some raw => Numeral raw charge ∧ validSlippage charge = true := by
  rw [slippage]
  cases ini.get? "backtest" "slippage" with
  | none => exact ⟨fun same => (Except.ok.inj same).symm, fun same => congrArg Except.ok same.symm⟩
  | some raw => exact checked_eq_ok

/-- A brick size that is configured is valid. -/
theorem validBrickSize_of_brickSize {size : Float} (given : brickSize ini = .ok size) :
    validBrickSize size = true := by
  obtain ⟨raw, -, -, valid⟩ := brickSize_eq_ok.mp given
  exact valid

/-- A slippage that is configured is valid. -/
theorem validSlippage_of_slippage {value : Float} (given : slippage ini = .ok value) :
    validSlippage value = true := by
  have read := slippage_eq_ok.mp given
  split at read
  · rw [read]
    decide +kernel
  · exact read.2

/-- The slippage of a run is valid, whether it is given or read. -/
theorem validSlippage_of_runSlippage {override : Option Float} {value : Float}
    (given : runSlippage ini override = .ok value) : validSlippage value = true := by
  cases override with
  | none => exact validSlippage_of_slippage given
  | some asked =>
      rw [runSlippage, checkSlippage] at given
      by_cases valid : validSlippage asked = true
      · rw [if_pos valid] at given
        obtain rfl := Except.ok.inj given
        exact valid
      · rw [if_neg valid] at given
        cases given

/-- A backtest is set up with the brick size of the file and a valid slippage. -/
theorem checked_of_backtestSetup {override : Option Float} {setup : BacktestSetup Float}
    (configured : backtestSetup ini override = .ok setup) :
    brickSize ini = .ok setup.brickSize ∧ validSlippage setup.slippage = true := by
  obtain ⟨slippage, charged, sized⟩ := Outcome.bind_eq_ok.mp configured
  obtain ⟨size, read, built⟩ := Outcome.bind_eq_ok.mp sized
  obtain rfl := Except.ok.inj built
  exact ⟨read, validSlippage_of_runSlippage charged⟩

/-- A backtest that is given no slippage is set up with that of the file. -/
theorem slippage_of_backtestSetup {setup : BacktestSetup Float}
    (configured : backtestSetup ini none = .ok setup) : slippage ini = .ok setup.slippage := by
  obtain ⟨charge, charged, sized⟩ := Outcome.bind_eq_ok.mp configured
  obtain ⟨size, -, built⟩ := Outcome.bind_eq_ok.mp sized
  obtain rfl := Except.ok.inj built
  exact charged

/-- A configuration that passes the checks has a brick size and a slippage. -/
theorem exists_numbers_of_validate (checked : validate ini = .ok ()) :
    (∃ size, brickSize ini = .ok size) ∧ ∃ charge, slippage ini = .ok charge := by
  obtain ⟨_, sized, rest⟩ := Outcome.bind_eq_ok.mp checked
  obtain ⟨_, charged, -⟩ := Outcome.bind_eq_ok.mp rest
  obtain ⟨size, read, -⟩ := Outcome.map_eq_ok.mp sized
  obtain ⟨charge, given, -⟩ := Outcome.map_eq_ok.mp charged
  exact ⟨⟨size, read⟩, charge, given⟩

/-- With a configuration that passes the checks, a backtest is set up unless it is given an invalid
slippage. -/
theorem exists_backtestSetup (checked : validate ini = .ok ()) {override : Option Float}
    (valid : ∀ given ∈ override, validSlippage given = true) :
    ∃ setup, backtestSetup ini override = .ok setup := by
  obtain ⟨⟨size, sized⟩, charge, charged⟩ := exists_numbers_of_validate checked
  obtain ⟨slippage, asked⟩ : ∃ slippage, runSlippage ini override = .ok slippage := by
    cases override with
    | none => exact ⟨charge, charged⟩
    | some given =>
        rw [runSlippage, checkSlippage, if_pos (valid given rfl)]
        exact ⟨given, rfl⟩
  rw [backtestSetup, asked, sized]
  exact ⟨_, rfl⟩

/-- A slippage that is asked for and invalid is refused. -/
theorem backtestSetup_of_invalid {given : Float} (invalid : ¬validSlippage given = true) :
    backtestSetup ini (some given) = .error (.trade (.invalidSlippage given)) := by
  rw [backtestSetup, runSlippage, checkSlippage, if_neg invalid]
  rfl

section

variable {fault : Fault}

private theorem exitStatus_of_brickSize (refused : brickSize ini = .error fault) :
    fault.exitStatus = 2 := by
  rw [brickSize] at refused
  cases found : ini.get? "range" "brick_size" with
  | none =>
      rw [found] at refused
      obtain rfl := Except.error.inj refused
      rfl
  | some raw =>
      rw [found] at refused
      exact exitStatus_of_checked refused rfl

private theorem exitStatus_of_slippage (refused : slippage ini = .error fault) :
    fault.exitStatus = 2 := by
  rw [slippage] at refused
  cases found : ini.get? "backtest" "slippage" with
  | none =>
      rw [found] at refused
      cases refused
  | some raw =>
      rw [found] at refused
      exact exitStatus_of_checked refused rfl

private theorem exitStatus_of_checkFlag {group key : String}
    (refused : checkFlag ini group key = .error fault) : fault.exitStatus = 2 := by
  rw [checkFlag] at refused
  cases found : ini.get? group key with
  | none =>
      rw [found] at refused
      cases refused
  | some raw =>
      simp only [found] at refused
      by_cases agree : ini.flag group key true = ini.flag group key false
      · rw [if_pos agree] at refused
        cases refused
      · rw [if_neg agree] at refused
        obtain rfl := Except.error.inj refused
        rfl

/-- What the checks refuse is a fault of the configuration. -/
theorem exitStatus_of_validate (refused : validate ini = .error fault) :
    fault.exitStatus = 2 := by
  obtain sizeless | ⟨_, _, rest⟩ := Outcome.bind_eq_error.mp refused
  · exact exitStatus_of_brickSize (Outcome.map_eq_error.mp sizeless)
  · obtain uncharged | ⟨_, _, flags⟩ := Outcome.bind_eq_error.mp rest
    · exact exitStatus_of_slippage (Outcome.map_eq_error.mp uncharged)
    · obtain unclear | ⟨_, _, unclear⟩ := Outcome.bind_eq_error.mp flags
      · exact exitStatus_of_checkFlag unclear
      · exact exitStatus_of_checkFlag unclear

end

/-- There is no path if none is given, and there is none in the file or a blank one. -/
theorem path?_eq_none {given : Option String} {group key : String} :
    path? ini given group key = none ↔
      given = none ∧ ∀ raw ∈ ini.get? group key, Text.trim raw.toList = [] := by
  cases given with
  | some path => exact iff_of_false (fun same => nomatch same) fun both => nomatch both.1
  | none =>
      rw [and_iff_right rfl, path?]
      cases ini.get? group key with
      | none => exact iff_of_true rfl fun raw absent => nomatch absent
      | some raw =>
          simp only [Option.map_some, Option.mem_some_iff, forall_eq']
          cases Text.trim raw.toList with
          | nil => exact iff_of_true rfl rfl
          | cons first rest =>
              exact iff_of_false (fun same => nomatch same) fun same => nomatch same

end Renko.Config

/-! ## The rules of a configuration

A configuration passes the checks if and only if it keeps four rules, each about what one key may
hold, and otherwise the first rule that it breaks decides the fault
(`Renko.Config.validate_eq_verdicts`). What a run reads of such a configuration is what was checked:
the numbers (`Renko.Config.exists_setup_of_validate`) and the truth values, which do not depend on
any default (`Renko.Config.flag_of_word`).
-/

namespace Renko.Config

/-- A rule for a key: whether it must have a value, which texts that may be, and what is said of any
other text. -/
structure Rule where
  group : String
  key : String
  required : Bool
  Allows : String → Prop
  complaint : String → String

namespace Rule

variable (rule : Rule) (ini : Ini)

/-- A key without a value is absent. -/
def Kept : Prop :=
  match ini.get? rule.group rule.key with
  | none => rule.required = false
  | some raw => rule.Allows raw

/-- What is reported where the rule is broken. -/
def fault : Fault :=
  match ini.get? rule.group rule.key with
  | none => .configMissing rule.group rule.key
  | some raw => .configInvalid rule.group rule.key (rule.complaint raw)

open Classical in
/-- The outcome of a check of the rule. -/
noncomputable def verdict : Except Fault Unit :=
  if rule.Kept ini then .ok () else .error (rule.fault ini)

variable {rule ini}

/-- The verdict on a rule is favourable if the rule is kept. -/
theorem verdict_eq_ok {done : Unit} : rule.verdict ini = .ok done ↔ rule.Kept ini := by
  rw [verdict]
  split
  · exact iff_of_true rfl ‹_›
  · exact iff_of_false (fun same => nomatch same) ‹_›

/-- A rule that is broken has the fault of the rule. -/
theorem verdict_eq_error {fault : Fault} :
    rule.verdict ini = .error fault ↔ ¬rule.Kept ini ∧ fault = rule.fault ini := by
  rw [verdict]
  split
  · exact iff_of_false (fun same => nomatch same) fun broken => broken.1 ‹_›
  · rw [Except.error.injEq, eq_comm, and_iff_right ‹_›]

end Rule

/-- A key that holds a number, with what is said of one that is out of bounds. -/
def numberRule (group key : String) (required : Bool) (Within : Float → Prop) (bound : String) :
    Rule where
  group := group
  key := key
  required := required
  Allows raw := ∃ value, Numeral raw value ∧ Within value
  complaint raw :=
    match Binary64.read (String.ofList (Text.trim raw.toList)) with
    | .ok _ => bound
    | .error _ => "expected a number, got " ++ Text.quoted raw

/-- A text in lower case, without the blanks at its ends. -/
def word (raw : String) : String := Ini.folded (Text.trim raw.toList)

/-- The words for a truth value. -/
def words : Bool → List String
  | true => ["true", "yes", "1"]
  | false => ["false", "no", "0"]

/-- A key that may hold a truth value. -/
def flagRule (group key : String) : Rule where
  group := group
  key := key
  required := false
  Allows raw := ∃ value, word raw ∈ words value
  complaint raw := "expected a boolean, got " ++ Text.quoted raw

def sizeRule : Rule :=
  numberRule "range" "brick_size" true (fun size => size.isFinite = true ∧ 0 < size)
    "brick_size must be positive"

def slippageRule : Rule :=
  numberRule "backtest" "slippage" false (fun charge => charge.isFinite = true ∧ 0 ≤ charge)
    "slippage must be non-negative"

/-- The rules in the order in which they are checked. -/
def rules : List Rule :=
  [sizeRule, slippageRule, flagRule "backtest" "close_at_end", flagRule "report" "unique_bricks"]

section Numbers

variable {ini : Ini} {valid : Float → Bool} {Within : Float → Prop} {required : Bool}
  {group key raw bound : String}

private theorem Rule.kept_of_some (rule : Rule) (found : ini.get? rule.group rule.key = some raw) :
    rule.Kept ini ↔ rule.Allows raw := by
  rw [Rule.Kept, found]

private theorem Rule.fault_of_some (rule : Rule) (found : ini.get? rule.group rule.key = some raw) :
    rule.fault ini = .configInvalid rule.group rule.key (rule.complaint raw) := by
  rw [Rule.fault, found]

/-- A number that is read and then checked follows its rule. -/
theorem discard_checked (found : ini.get? group key = some raw)
    (same : ∀ value, valid value = true ↔ Within value) :
    (discard (do
      let value ← number group key raw
      if valid value then return value
      else throw (.configInvalid group key bound)) : Except Fault Unit) =
      (numberRule group key required Within bound).verdict ini := by
  have kept := (numberRule group key required Within bound).kept_of_some found
  have fault := (numberRule group key required Within bound).fault_of_some found
  symm
  rw [number]
  cases read : Binary64.read (String.ofList (Text.trim raw.toList)) with
  | error cause =>
      refine Rule.verdict_eq_error.mpr ⟨fun keeps => ?_, ?_⟩
      · obtain ⟨value, numeral, -⟩ := kept.mp keeps
        cases read.symm.trans numeral
      · rw [fault]
        simp only [numberRule, read]
  | ok value =>
      by_cases within : valid value = true
      · have passes : (numberRule group key required Within bound).Kept ini :=
          kept.mpr ⟨value, read, (same value).mp within⟩
        change _ = discard (if valid value then Except.ok value else _)
        rw [if_pos within, Rule.verdict_eq_ok.mpr passes]
        rfl
      · change _ = discard (if valid value then Except.ok value else _)
        rw [if_neg within]
        refine Rule.verdict_eq_error.mpr ⟨fun keeps => ?_, ?_⟩
        · obtain ⟨other, numeral, inside⟩ := kept.mp keeps
          obtain rfl := Except.ok.inj (read.symm.trans numeral)
          exact within ((same value).mpr inside)
        · rw [fault]
          simp only [numberRule, read]

/-- A key that is absent breaks its rule if it is required. -/
theorem Rule.verdict_of_none (rule : Rule) (absent : ini.get? rule.group rule.key = none) :
    rule.verdict ini =
      if rule.required then .error (.configMissing rule.group rule.key) else .ok () := by
  have kept : rule.Kept ini ↔ rule.required = false := by rw [Rule.Kept, absent]
  split
  · have needed : rule.required = true := ‹_›
    refine Rule.verdict_eq_error.mpr ⟨fun keeps => ?_, by rw [Rule.fault, absent]⟩
    exact Bool.noConfusion ((kept.mp keeps).symm.trans needed)
  · exact Rule.verdict_eq_ok.mpr (kept.mpr (Bool.eq_false_iff.mpr ‹_›))

end Numbers

variable {ini : Ini}

private theorem discard_brickSize (ini : Ini) : discard (brickSize ini) = sizeRule.verdict ini := by
  rw [brickSize]
  cases found : ini.get? "range" "brick_size" with
  | none => exact (sizeRule.verdict_of_none found).symm
  | some raw => exact discard_checked found fun size => validBrickSize_iff

private theorem discard_slippage (ini : Ini) :
    discard (slippage ini) = slippageRule.verdict ini := by
  rw [slippage]
  cases found : ini.get? "backtest" "slippage" with
  | none => exact (slippageRule.verdict_of_none found).symm
  | some raw => exact discard_checked found fun charge => validSlippage_iff

/-- A truth value is read from its words and from no others. -/
theorem readFlag_eq_some_iff {raw : String} {value : Bool} :
    Ini.readFlag raw = some value ↔ word raw ∈ words value := by
  rw [Ini.readFlag, ← word]
  split <;> cases value <;> simp_all [words]

/-- **A truth value is the one that is written,** whatever the default. -/
theorem flag_of_word {group key raw : String} {value : Bool} (found : ini.get? group key = some raw)
    (written : word raw ∈ words value) (default : Bool) : ini.flag group key default = value := by
  rw [Ini.flag, found, Option.bind_some, readFlag_eq_some_iff.mpr written, Option.getD_some]

/-- Two defaults tell whether a truth value is written. -/
theorem checkFlag_eq_verdict (ini : Ini) (group key : String) :
    checkFlag ini group key = (flagRule group key).verdict ini := by
  rw [checkFlag]
  cases found : ini.get? group key with
  | none => exact ((flagRule group key).verdict_of_none found).symm
  | some raw =>
      have kept := (flagRule group key).kept_of_some found
      have fault := (flagRule group key).fault_of_some found
      symm
      cases read : Ini.readFlag raw with
      | none =>
          have either (default : Bool) : ini.flag group key default = default := by
            rw [Ini.flag, found, Option.bind_some, read, Option.getD_none]
          change _ = if ini.flag group key true = ini.flag group key false then _ else _
          rw [either, either, if_neg Bool.noConfusion]
          refine Rule.verdict_eq_error.mpr ⟨fun keeps => ?_, fault.symm⟩
          obtain ⟨value, written⟩ := kept.mp keeps
          cases read.symm.trans (readFlag_eq_some_iff.mpr written)
      | some value =>
          have written := readFlag_eq_some_iff.mp read
          change _ = if ini.flag group key true = ini.flag group key false then _ else _
          rw [flag_of_word found written, flag_of_word found written, if_pos rfl]
          exact Rule.verdict_eq_ok.mpr (kept.mpr ⟨value, written⟩)

/-- **The checks are the rules in their order.** -/
theorem validate_eq_verdicts (ini : Ini) :
    validate ini = discard (rules.mapM fun rule => rule.verdict ini) := by
  rw [validate, discard_brickSize, discard_slippage, checkFlag_eq_verdict, checkFlag_eq_verdict]
  simp only [rules, List.mapM_cons, List.mapM_nil]
  cases sizeRule.verdict ini with
  | error fault => rfl
  | ok =>
      cases slippageRule.verdict ini with
      | error fault => rfl
      | ok =>
          cases (flagRule "backtest" "close_at_end").verdict ini with
          | error fault => rfl
          | ok => cases (flagRule "report" "unique_bricks").verdict ini <;> rfl

/-- A configuration passes the checks if it keeps all rules. -/
theorem validate_eq_ok_iff : validate ini = .ok () ↔ ∀ rule ∈ rules, rule.Kept ini := by
  rw [validate_eq_verdicts]
  refine Outcome.map_eq_ok.trans ?_
  simp only [and_true, Outcome.exists_mapM_eq_ok, Rule.verdict_eq_ok, exists_const]

/-- Otherwise the first rule that it breaks decides the fault. -/
theorem validate_eq_error_iff {fault : Fault} :
    validate ini = .error fault ↔ ∃ earlier rule later, rules = earlier ++ rule :: later ∧
      (∀ other ∈ earlier, other.Kept ini) ∧ ¬rule.Kept ini ∧ fault = rule.fault ini := by
  rw [validate_eq_verdicts]
  refine Outcome.map_eq_error.trans (Outcome.mapM_eq_error.trans ?_)
  simp only [Rule.verdict_eq_ok, Rule.verdict_eq_error, exists_const]

/-- The numbers of a configuration that passes the checks are those of the backtest. -/
theorem exists_setup_of_validate (checked : validate ini = .ok ()) :
    ∃ setup raw, backtestSetup ini none = .ok setup ∧
      ini.get? "range" "brick_size" = some raw ∧ Numeral raw setup.brickSize ∧
      match ini.get? "backtest" "slippage" with
      | none => setup.slippage = 0
      | some charge => Numeral charge setup.slippage := by
  obtain ⟨setup, configured⟩ :=
    exists_backtestSetup checked fun given asked => absurd asked (Option.not_mem_none given)
  obtain ⟨raw, found, numeral, -⟩ := brickSize_eq_ok.mp (checked_of_backtestSetup configured).1
  refine ⟨setup, raw, configured, found, numeral, ?_⟩
  have charged := slippage_eq_ok.mp (slippage_of_backtestSetup configured)
  cases given : ini.get? "backtest" "slippage" with
  | none =>
      rw [given] at charged
      exact charged
  | some charge =>
      rw [given] at charged
      exact charged.1

/-- **Validation accepts what keeps the rules, and reads the same later.** A configuration passes if
and only if it keeps every rule, and otherwise fails for the first rule it breaks. If it passes, a
backtest is set up with the numbers it holds, and every truth value it holds is read as such. -/
theorem validation_follows_rules (ini : Ini) :
    (validate ini = .ok () ↔ ∀ rule ∈ rules, rule.Kept ini) ∧
    (∀ fault, validate ini = .error fault ↔ ∃ earlier rule later,
      rules = earlier ++ rule :: later ∧ (∀ other ∈ earlier, other.Kept ini) ∧
        ¬rule.Kept ini ∧ fault = rule.fault ini) ∧
    (validate ini = .ok () →
      (∃ setup raw, backtestSetup ini none = .ok setup ∧
        ini.get? "range" "brick_size" = some raw ∧ Numeral raw setup.brickSize ∧
        match ini.get? "backtest" "slippage" with
        | none => setup.slippage = 0
        | some charge => Numeral charge setup.slippage) ∧
      ∀ rule ∈ [flagRule "backtest" "close_at_end", flagRule "report" "unique_bricks"],
        ∀ raw, ini.get? rule.group rule.key = some raw →
          ∃ value, word raw ∈ words value ∧
            ∀ default, ini.flag rule.group rule.key default = value) := by
  refine ⟨validate_eq_ok_iff, fun fault => validate_eq_error_iff, fun checked => ⟨?_, ?_⟩⟩
  · exact exists_setup_of_validate checked
  · intro rule flagged raw found
    have kept := validate_eq_ok_iff.mp checked rule (List.mem_of_mem_drop (i := 2) flagged)
    obtain ⟨value, written⟩ : ∃ value, word raw ∈ words value := by
      rcases List.mem_pair.mp flagged with rfl | rfl
      · exact ((flagRule _ _).kept_of_some found).mp kept
      · exact ((flagRule _ _).kept_of_some found).mp kept
    exact ⟨value, written, flag_of_word found written⟩

/-- A file with capitals and a comment, and one whose third key is the first that breaks a rule. -/
theorem validation_follows_rules_of_files :
    let accepted : Ini := ⟨[⟨"report", "unique_bricks", some "NO"⟩,
      ⟨"backtest", "close_at_end", some "Yes"⟩, ⟨"range", "brick_size", some "2.5e-1"⟩]⟩
    let refused : Ini := ⟨[⟨"report", "unique_bricks", some "maybe"⟩,
      ⟨"backtest", "close_at_end", some "on"⟩, ⟨"backtest", "slippage", none⟩,
      ⟨"range", "brick_size", some "1"⟩]⟩
    Ini.read ("[Range]\nbrick_size = 2.5e-1\n[BACKTEST]\nclose_at_end: Yes\n" ++
      "[report]\nUnique_Bricks =NO;x") = .ok accepted ∧
      validate accepted = .ok () ∧
      (∃ setup, backtestSetup accepted none = .ok setup ∧ setup.brickSize = 0.25 ∧
        setup.slippage = 0) ∧
      (∀ default, accepted.flag "report" "unique_bricks" default = false) ∧
      validate refused =
        .error (.configInvalid "backtest" "close_at_end" "expected a boolean, got \"on\"") := by
  intro accepted refused
  have checked : validate accepted = .ok () := rfl
  obtain ⟨⟨setup, raw, configured, found, numeral, charged⟩, flags⟩ :=
    (validation_follows_rules accepted).2.2 checked
  refine ⟨by rfl, checked, ⟨setup, configured, ?_, charged⟩, ?_, ?_⟩
  · obtain rfl := Option.some.inj found
    exact Except.ok.inj numeral.symm
  · obtain ⟨value, written, read⟩ := flags _ (List.mem_cons_of_mem _ List.mem_cons_self) "NO" rfl
    cases value with
    | true => exact absurd written (by decide +kernel)
    | false => exact read
  · refine ((validation_follows_rules refused).2.1 _).mpr
      ⟨[sizeRule, slippageRule], _, _, rfl, ?_, ?_, rfl⟩
    · refine List.forall_mem_cons.mpr ⟨⟨1, rfl, by decide +kernel⟩, ?_⟩
      exact List.forall_mem_singleton.mpr rfl
    · rintro ⟨value, written⟩
      cases value <;> exact absurd written (by decide +kernel)

end Renko.Config
