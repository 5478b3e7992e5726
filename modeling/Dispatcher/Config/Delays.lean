import Dispatcher.Config.Model

/-! The two delays: `combine_config` casts the selected `u64` values with `as i64` and builds
durations of that many seconds, and `Configuration::new` compares them. Values from `2^63` on
wrap to negative second counts, and counts beyond `i64::MAX / 1000` make `Duration::seconds`
panic. -/

namespace Dispatcher.Config

def signed64 (n : Nat) : Int := if n < 2 ^ 63 then n else (n : Int) - (2 ^ 64 : Nat)

theorem asI64_eq (n : UInt64) : asI64 n = signed64 n.toNat := by
  have hlt : n.toBitVec.toNat < 2 ^ 64 := n.toBitVec.isLt
  simp only [asI64, BitVec.toInt, signed64, UInt64.toNat]
  by_cases h : n.toBitVec.toNat < 2 ^ 63
  · rw [if_pos (by omega), if_pos h]
  · rw [if_neg (by omega), if_neg h]

theorem seconds_asI64 (n : UInt64) :
    Duration.seconds (asI64 n) =
      if 9223372036854776 ≤ n.toNat ∧ n.toNat ≤ 2 ^ 64 - 9223372036854776 then
        .error (.panic "Duration::seconds out of bounds")
      else .ok ⟨asI64 n⟩ := by
  have hlt : n.toNat < 2 ^ 64 := n.toBitVec.isLt
  unfold Duration.seconds
  rw [asI64_eq, signed64]
  split_ifs <;> first | rfl | omega

/-- Once the settings it needs resolve, `combine_config` panics exactly when a selected delay lies
in the band whose `as i64` reading is more than `i64::MAX / 1000` seconds away from zero. -/
theorem combineConfig_eq_panic {parseAddress : String → Except Error Address}
    {cliConfig envConfig : EnvCLIConfiguration} {fileConfig : FileConfiguration}
    {url workingPath : String} {cliMainConcern envMainConcern : Option FullConcern}
    {mainConcern : FullConcern}
    (hurl : firstOf cliConfig.url envConfig.url fileConfig.url = some url)
    (hwp : firstOf cliConfig.workingPath envConfig.workingPath fileConfig.workingPath =
      some workingPath)
    (hcli : validateConcern parseAddress cliConfig.mainConcernContract cliConfig.mainConcernUser
      cliConfig.mainConcernAbi = .ok cliMainConcern)
    (henv : validateConcern parseAddress envConfig.mainConcernContract envConfig.mainConcernUser
      envConfig.mainConcernAbi = .ok envMainConcern)
    (hmain : firstOf cliMainConcern envMainConcern fileConfig.mainConcern = some mainConcern) :
    combineConfig parseAddress cliConfig envConfig fileConfig =
        .error (.panic "Duration::seconds out of bounds") ↔
      (9223372036854776 ≤
          ((firstOf cliConfig.maxDelay envConfig.maxDelay fileConfig.maxDelay).getD
            defaultMaxDelay).toNat ∧
        ((firstOf cliConfig.maxDelay envConfig.maxDelay fileConfig.maxDelay).getD
            defaultMaxDelay).toNat ≤ 2 ^ 64 - 9223372036854776) ∨
      (9223372036854776 ≤
          ((firstOf cliConfig.warnDelay envConfig.warnDelay fileConfig.warnDelay).getD
            defaultWarnDelay).toNat ∧
        ((firstOf cliConfig.warnDelay envConfig.warnDelay fileConfig.warnDelay).getD
            defaultWarnDelay).toNat ≤ 2 ^ 64 - 9223372036854776) := by
  simp only [combineConfig, hurl, hwp, hcli, henv, hmain, okOr_some, except_ok_bind,
    seconds_asI64]
  split_ifs <;> simp_all

theorem combineConfig_default_delays {parseAddress : String → Except Error Address}
    {cliConfig envConfig : EnvCLIConfiguration} {fileConfig : FileConfiguration}
    {config : Configuration}
    (h : combineConfig parseAddress cliConfig envConfig fileConfig = .ok config)
    (hmax : firstOf cliConfig.maxDelay envConfig.maxDelay fileConfig.maxDelay = none)
    (hwarn : firstOf cliConfig.warnDelay envConfig.warnDelay fileConfig.warnDelay = none) :
    config.maxDelay = ⟨500⟩ ∧ config.warnDelay = ⟨100⟩ ∧ checkDelays config = .ok config := by
  obtain ⟨-, -, -, -, -, _, _, -, -, -, -, -, hmd, hwd, rfl⟩ := combineConfig_eq_ok parseAddress h
  obtain ⟨-, rfl⟩ := Duration.seconds_eq_ok.mp (hmax ▸ hmd)
  obtain ⟨-, rfl⟩ := Duration.seconds_eq_ok.mp (hwarn ▸ hwd)
  exact ⟨rfl, rfl, checkDelays_eq_ok.mpr
    ⟨(by decide : asI64 defaultWarnDelay ≤ asI64 defaultMaxDelay), rfl⟩⟩

def largeDelaysCli : EnvCLIConfiguration :=
  { url := some "http://localhost:8545", maxDelay := some 18446744073709551615,
    warnDelay := some 18446744073709551614, workingPath := some "." }

def mainOnlyFile : FileConfiguration :=
  { mainConcern := some ⟨0, 1, "abi.json"⟩, concerns := [] }

def tenPow16DelayCli : EnvCLIConfiguration :=
  { url := some "http://localhost:8545", maxDelay := some 10000000000000000,
    workingPath := some "." }

theorem combineConfig_eq_panic_tenPow16 :
    firstOf tenPow16DelayCli.url (none : Option String) mainOnlyFile.url =
        some "http://localhost:8545" ∧
      firstOf tenPow16DelayCli.workingPath (none : Option String) mainOnlyFile.workingPath =
        some "." ∧
      validateConcern (fun _ => .ok 0) none none none = .ok none ∧
      firstOf none none mainOnlyFile.mainConcern = some ⟨0, 1, "abi.json"⟩ ∧
      (combineConfig (fun _ => .ok 0) tenPow16DelayCli {} mainOnlyFile =
          .error (.panic "Duration::seconds out of bounds") ↔
        (9223372036854776 ≤ ((firstOf tenPow16DelayCli.maxDelay none mainOnlyFile.maxDelay).getD
              defaultMaxDelay).toNat ∧
            ((firstOf tenPow16DelayCli.maxDelay none mainOnlyFile.maxDelay).getD
              defaultMaxDelay).toNat ≤ 2 ^ 64 - 9223372036854776) ∨
          (9223372036854776 ≤ ((firstOf tenPow16DelayCli.warnDelay none
              mainOnlyFile.warnDelay).getD defaultWarnDelay).toNat ∧
            ((firstOf tenPow16DelayCli.warnDelay none mainOnlyFile.warnDelay).getD
              defaultWarnDelay).toNat ≤ 2 ^ 64 - 9223372036854776)) :=
  ⟨rfl, rfl, rfl, rfl,
    @combineConfig_eq_panic (fun _ => .ok 0) tenPow16DelayCli {} mainOnlyFile _ _ none none _
      rfl rfl rfl rfl rfl⟩

def largeDelaysHost : Host Unit where
  args := largeDelaysCli
  env := .ok {}
  openFile _ := .ok ()
  readToString _ := .ok ""
  parseYaml _ := .ok mainOnlyFile
  parseAddress _ := .ok 0

/-- `Configuration::new` accepts the largest delays, `u64::MAX` and one less, as `-1` and `-2`
seconds. -/
theorem configurationNew_largeDelays :
    ∃ config, Configuration.new largeDelaysHost = .ok config ∧
      config.maxDelay = ⟨-1⟩ ∧ config.warnDelay = ⟨-2⟩ :=
  ⟨_, rfl, rfl, rfl⟩

end Dispatcher.Config
