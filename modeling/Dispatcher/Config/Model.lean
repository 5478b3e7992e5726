import Dispatcher.Basic

/-! The configuration crate: the three sources of settings, `validate_concern`,
`combine_config` and `Configuration::new` of `configuration/src/lib.rs`. -/

namespace Dispatcher.Config

def defaultConfigPath : String := "config.yaml"

def defaultMaxDelay : UInt64 := 500

def defaultWarnDelay : UInt64 := 100

abbrev PathBuf := String

structure ConcernAbi where
  abi : PathBuf
deriving DecidableEq, Repr

structure FullConcern where
  contractAddress : Address
  userAddress : Address
  abi : PathBuf
deriving DecidableEq, Repr

def FullConcern.toConcern (full : FullConcern) : Concern :=
  { contractAddress := full.contractAddress, userAddress := full.userAddress }

structure EnvCLIConfiguration where
  configPath : Option String := none
  url : Option String := none
  testing : Option Bool := none
  maxDelay : Option UInt64 := none
  warnDelay : Option UInt64 := none
  mainConcernContract : Option String := none
  mainConcernUser : Option String := none
  mainConcernAbi : Option String := none
  workingPath : Option String := none

structure FileConfiguration where
  url : Option String := none
  testing : Option Bool := none
  maxDelay : Option UInt64 := none
  warnDelay : Option UInt64 := none
  mainConcern : Option FullConcern := none
  concerns : List FullConcern
  workingPath : Option String := none

structure Duration where
  secs : Int
deriving DecidableEq, Repr

/-- `Duration::seconds` of time 0.1: a duration outside `MIN ..= MAX`, that is outside
`i64::MIN ..= i64::MAX` milliseconds, panics. -/
def Duration.seconds (secs : Int) : Except Error Duration :=
  if secs * 1000 < -9223372036854775808 ∨ 9223372036854775807 < secs * 1000 then
    .error (.panic "Duration::seconds out of bounds")
  else .ok ⟨secs⟩

theorem Duration.seconds_eq_ok {secs : Int} {d : Duration} :
    Duration.seconds secs = .ok d ↔
      (-9223372036854775 ≤ secs ∧ secs ≤ 9223372036854775) ∧ d = ⟨secs⟩ := by
  unfold Duration.seconds
  split
  · exact iff_of_false nofun (by omega)
  · rw [Except.ok.injEq, eq_comm]
    exact ⟨fun h => ⟨by omega, h⟩, And.right⟩

theorem Duration.seconds_eq_error {secs : Int} {e : Error} :
    Duration.seconds secs = .error e ↔
      (secs < -9223372036854775 ∨ 9223372036854775 < secs) ∧
        e = .panic "Duration::seconds out of bounds" := by
  unfold Duration.seconds
  split
  · rw [Except.error.injEq, eq_comm]
    exact ⟨fun h => ⟨by omega, h⟩, And.right⟩
  · exact iff_of_false nofun (by omega)

instance : LT Duration := ⟨fun a b => a.secs < b.secs⟩

instance (a b : Duration) : Decidable (a < b) := inferInstanceAs (Decidable (a.secs < b.secs))

@[simp] theorem Duration.lt_iff {a b : Duration} : a < b ↔ a.secs < b.secs := Iff.rfl

/-- `n as i64`: the same 64 bits read in two's complement. -/
def asI64 (n : UInt64) : Int := n.toBitVec.toInt

structure Configuration where
  url : String
  testing : Bool
  maxDelay : Duration
  warnDelay : Duration
  mainConcern : Concern
  concerns : List Concern
  workingPath : PathBuf
  abis : Std.HashMap Concern ConcernAbi

def firstOf {α : Type} (cli env file : Option α) : Option α := (cli.or env).or file

@[simp] theorem firstOf_eq_none {α : Type} {cli env file : Option α} :
    firstOf cli env file = none ↔ cli = none ∧ env = none ∧ file = none := by
  simp [firstOf, and_assoc]

def dropPrefixes (pat : List Char) : Nat → List Char → List Char
  | 0, cs => cs
  | fuel + 1, cs =>
    if pat ≠ [] ∧ cs.take pat.length = pat then dropPrefixes pat fuel (cs.drop pat.length)
    else cs

/-- `str::trim_start_matches`: each repetition of a non-empty `pat` shortens the text, so
its length bounds the repetitions. -/
def trimStartMatches (s pat : String) : String :=
  ⟨dropPrefixes pat.toList s.length s.toList⟩

theorem dropPrefixes_spec {pat : List Char} (hpat : pat ≠ []) (fuel : Nat) (cs : List Char)
    (hfuel : cs.length ≤ fuel) :
    ∃ k, cs = (List.replicate k pat).flatten ++ dropPrefixes pat fuel cs ∧
      (dropPrefixes pat fuel cs).take pat.length ≠ pat := by
  induction fuel generalizing cs with
  | zero =>
    obtain rfl : cs = [] := List.eq_nil_of_length_eq_zero (by omega)
    exact ⟨0, rfl, by simp [dropPrefixes, Ne.symm hpat]⟩
  | succ fuel ih =>
    by_cases hp : cs.take pat.length = pat
    · have hlen : 0 < pat.length := List.length_pos.mpr hpat
      obtain ⟨k, hk, hstop⟩ := ih (cs.drop pat.length) (by simp; omega)
      refine ⟨k + 1, ?_, by simpa [dropPrefixes, hpat, hp] using hstop⟩
      rw [dropPrefixes, if_pos ⟨hpat, hp⟩, List.replicate_succ, List.flatten_cons,
        List.append_assoc, ← hk]
      exact (hp ▸ List.take_append_drop pat.length cs).symm
    · exact ⟨0, by simp [dropPrefixes, hp], by simp [dropPrefixes, hp]⟩

/-- `trim_start_matches` with a non-empty pattern strips whole copies of it from the front and
leaves a text that does not start with it. -/
theorem trimStartMatches_strips (s pat : String) (hpat : pat ≠ "") :
    ∃ k, s.toList = (List.replicate k pat.toList).flatten ++ (trimStartMatches s pat).toList ∧
      (trimStartMatches s pat).toList.take pat.length ≠ pat.toList :=
  dropPrefixes_spec (by simpa [String.ext_iff] using hpat) s.length s.toList (Nat.le_refl _)

theorem trimStartMatches_strips_zeroX :
    "0x" ≠ "" ∧ ∃ k, "0x0xab".toList =
      (List.replicate k "0x".toList).flatten ++ (trimStartMatches "0x0xab" "0x").toList ∧
      (trimStartMatches "0x0xab" "0x").toList.take "0x".length ≠ "0x".toList :=
  ⟨by decide, trimStartMatches_strips "0x0xab" "0x" (by decide)⟩

theorem dropPrefixes_nil {pat : List Char} (hpat : pat ≠ []) (fuel : Nat) :
    dropPrefixes pat fuel [] = [] := by
  cases fuel <;> simp [dropPrefixes, Ne.symm hpat]

theorem dropPrefixes_fuel {pat : List Char} (hpat : pat ≠ []) {fuel₁ fuel₂ : Nat}
    {cs : List Char} (h₁ : cs.length ≤ fuel₁) (h₂ : cs.length ≤ fuel₂) :
    dropPrefixes pat fuel₁ cs = dropPrefixes pat fuel₂ cs := by
  induction fuel₁ generalizing fuel₂ cs with
  | zero =>
    obtain rfl : cs = [] := List.eq_nil_of_length_eq_zero (by omega)
    rw [dropPrefixes_nil hpat, dropPrefixes_nil hpat]
  | succ fuel₁ ih =>
    cases fuel₂ with
    | zero =>
      obtain rfl : cs = [] := List.eq_nil_of_length_eq_zero (by omega)
      rw [dropPrefixes_nil hpat, dropPrefixes_nil hpat]
    | succ fuel₂ =>
      have hlen : 0 < pat.length := List.length_pos.mpr hpat
      simp only [dropPrefixes]
      split
      · exact ih (by rw [List.length_drop]; omega) (by rw [List.length_drop]; omega)
      · rfl

theorem trimStartMatches_zeroX_append (s : String) :
    trimStartMatches ("0x" ++ s) "0x" = trimStartMatches s "0x" := by
  have hpat : "0x".toList ≠ [] := by decide
  have hs : ("0x" ++ s).toList = '0' :: 'x' :: s.toList := rfl
  have hsl : s.toList.length = s.length := rfl
  have hlen : ("0x" ++ s).length = s.length + 1 + 1 := by
    rw [String.length_append, show "0x".length = 2 by decide]; omega
  have hdrop : ('0' :: 'x' :: s.toList).drop "0x".toList.length = s.toList := rfl
  rw [trimStartMatches, trimStartMatches, hs, hlen, dropPrefixes, if_pos ⟨hpat, rfl⟩, hdrop]
  congr 1
  exact dropPrefixes_fuel hpat (by omega) (by omega)

section

variable (parseAddress : String → Except Error Address)

/-- `validate_concern`: a concern given either whole or not at all. The fields are checked in
the order the struct literal evaluates them. -/
def validateConcern (contract user abi : Option String) :
    Except Error (Option FullConcern) :=
  if contract.isSome || user.isSome || abi.isSome then do
    let contract ← okOr contract
      (.ofKind (.invalidConfig "Concern's contract should be specified"))
    let contractAddress ← chainErr (parseAddress (trimStartMatches contract "0x"))
      "failed to parse contract address"
    let user ← okOr user (.ofKind (.invalidConfig "Concern's user should be specified"))
    let userAddress ← chainErr (parseAddress (trimStartMatches user "0x"))
      "failed to parse user address"
    -- parsing a `PathBuf` cannot fail
    let abi ← okOr abi (.ofKind (.invalidConfig "Concern's abi should be specified"))
    pure (some { contractAddress := contractAddress, userAddress := userAddress, abi := abi })
  else pure none

/-- A concern is accepted given whole, each address parsed after its `0x`s are stripped, or
absent altogether. -/
theorem validateConcern_eq_ok {contract user abi : Option String} {r : Option FullConcern} :
    validateConcern parseAddress contract user abi = .ok r ↔
      (contract = none ∧ user = none ∧ abi = none ∧ r = none) ∨
      ∃ c u a contractAddress userAddress,
        contract = some c ∧ user = some u ∧ abi = some a ∧
        parseAddress (trimStartMatches c "0x") = .ok contractAddress ∧
        parseAddress (trimStartMatches u "0x") = .ok userAddress ∧
        r = some ⟨contractAddress, userAddress, a⟩ := by
  unfold validateConcern
  cases contract <;> cases user <;> cases abi <;> simp [except_bind_eq_ok, @eq_comm _ r]

theorem validateConcern_eq_ok_none {contract user abi : Option String}
    (h : validateConcern parseAddress contract user abi = .ok none) :
    contract = none ∧ user = none ∧ abi = none := by
  simpa using (validateConcern_eq_ok parseAddress).mp h

/-- Each error of `validate_concern` names the field it checks: the first one missing, or the
first address that does not parse. -/
theorem validateConcern_eq_error {contract user abi : Option String} {e : Error}
    (h : validateConcern parseAddress contract user abi = .error e) :
    (contract = none ∧ e = .ofKind (.invalidConfig "Concern's contract should be specified")) ∨
    (∃ c cause, contract = some c ∧ parseAddress (trimStartMatches c "0x") = .error cause ∧
      e = .chain "failed to parse contract address" cause) ∨
    (user = none ∧ e = .ofKind (.invalidConfig "Concern's user should be specified")) ∨
    (∃ u cause, user = some u ∧ parseAddress (trimStartMatches u "0x") = .error cause ∧
      e = .chain "failed to parse user address" cause) ∨
    (abi = none ∧ e = .ofKind (.invalidConfig "Concern's abi should be specified")) := by
  unfold validateConcern at h
  split at h
  · simp only [except_bind_eq_error, okOr_eq_error, okOr_eq_ok, chainErr_eq_error,
      chainErr_eq_ok, except_pure] at h
    rcases h with h | ⟨c, rfl, ⟨cause, hc, rfl⟩ | ⟨_, -, h⟩⟩
    · exact .inl h
    · exact .inr (.inl ⟨c, cause, rfl, hc, rfl⟩)
    rcases h with h | ⟨u, rfl, ⟨cause, hu, rfl⟩ | ⟨_, -, h⟩⟩
    · exact .inr (.inr (.inl h))
    · exact .inr (.inr (.inr (.inl ⟨u, cause, rfl, hu, rfl⟩)))
    rcases h with h | ⟨_, -, h⟩
    · exact .inr (.inr (.inr (.inr h)))
    · cases h
  · cases h

/-- A `0x` before the contract's or the user's address never changes what `validate_concern`
returns: the text is trimmed before it is parsed. -/
theorem validateConcern_zeroX (contract user abi : Option String) :
    validateConcern parseAddress (contract.map ("0x" ++ ·)) user abi =
      validateConcern parseAddress contract user abi ∧
    validateConcern parseAddress contract (user.map ("0x" ++ ·)) abi =
      validateConcern parseAddress contract user abi := by
  refine ⟨?_, ?_⟩
  · cases contract with
    | none => rfl
    | some c =>
      simp only [validateConcern, Option.map_some', Option.isSome_some, okOr_some,
        except_ok_bind, trimStartMatches_zeroX_append]
  · cases user with
    | none => rfl
    | some u =>
      simp only [validateConcern, Option.map_some', Option.isSome_some, okOr_some,
        except_ok_bind, trimStartMatches_zeroX_append]

def insertConcern (acc : Std.HashMap Concern ConcernAbi × List Concern)
    (fullConcern : FullConcern) : Std.HashMap Concern ConcernAbi × List Concern :=
  (acc.1.insert fullConcern.toConcern ⟨fullConcern.abi⟩, acc.2 ++ [fullConcern.toConcern])

def combineConfig (cliConfig envConfig : EnvCLIConfiguration)
    (fileConfig : FileConfiguration) : Except Error Configuration := do
  let url ← okOr (firstOf cliConfig.url envConfig.url fileConfig.url)
    (.ofKind (.invalidConfig "Need to provide url (config file, command line or env)"))
  let testing := (firstOf cliConfig.testing envConfig.testing fileConfig.testing).getD false
  let maxDelay :=
    (firstOf cliConfig.maxDelay envConfig.maxDelay fileConfig.maxDelay).getD defaultMaxDelay
  let warnDelay :=
    (firstOf cliConfig.warnDelay envConfig.warnDelay fileConfig.warnDelay).getD defaultWarnDelay
  let workingPath ←
    okOr (firstOf cliConfig.workingPath envConfig.workingPath fileConfig.workingPath)
    (.ofKind (.invalidConfig "Need to provide working path (config file, command line or env)"))
  let cliMainConcern ← validateConcern parseAddress cliConfig.mainConcernContract
    cliConfig.mainConcernUser cliConfig.mainConcernAbi
  let envMainConcern ← validateConcern parseAddress envConfig.mainConcernContract
    envConfig.mainConcernUser envConfig.mainConcernAbi
  let fullConcerns := fileConfig.concerns
  let mainConcern ← okOr (firstOf cliMainConcern envMainConcern fileConfig.mainConcern)
    (.ofKind (.invalidConfig "Need to provide main concern (config file, command line or env)"))
  let stored := insertConcern (fullConcerns.foldl insertConcern (∅, [])) mainConcern
  let maxDuration ← Duration.seconds (asI64 maxDelay)
  let warnDuration ← Duration.seconds (asI64 warnDelay)
  pure
    { url := url
      testing := testing
      maxDelay := maxDuration
      warnDelay := warnDuration
      mainConcern := mainConcern.toConcern
      concerns := stored.2
      workingPath := workingPath
      abis := stored.1 }

/-- What `combine_config` returns when it succeeds: each setting by precedence, the main
concern after the validated command-line and environment ones, the file's concerns and then
the main one stored by the loop. -/
theorem combineConfig_eq_ok {cliConfig envConfig : EnvCLIConfiguration}
    {fileConfig : FileConfiguration} {config : Configuration}
    (h : combineConfig parseAddress cliConfig envConfig fileConfig = .ok config) :
    ∃ url workingPath cliMainConcern envMainConcern mainConcern maxDuration warnDuration,
      firstOf cliConfig.url envConfig.url fileConfig.url = some url ∧
      firstOf cliConfig.workingPath envConfig.workingPath fileConfig.workingPath =
        some workingPath ∧
      validateConcern parseAddress cliConfig.mainConcernContract cliConfig.mainConcernUser
        cliConfig.mainConcernAbi = .ok cliMainConcern ∧
      validateConcern parseAddress envConfig.mainConcernContract envConfig.mainConcernUser
        envConfig.mainConcernAbi = .ok envMainConcern ∧
      firstOf cliMainConcern envMainConcern fileConfig.mainConcern = some mainConcern ∧
      Duration.seconds (asI64
        ((firstOf cliConfig.maxDelay envConfig.maxDelay fileConfig.maxDelay).getD
          defaultMaxDelay)) = .ok maxDuration ∧
      Duration.seconds (asI64
        ((firstOf cliConfig.warnDelay envConfig.warnDelay fileConfig.warnDelay).getD
          defaultWarnDelay)) = .ok warnDuration ∧
      config =
        { url := url
          testing := (firstOf cliConfig.testing envConfig.testing fileConfig.testing).getD false
          maxDelay := maxDuration
          warnDelay := warnDuration
          mainConcern := mainConcern.toConcern
          concerns :=
            (insertConcern (fileConfig.concerns.foldl insertConcern (∅, [])) mainConcern).2
          workingPath := workingPath
          abis :=
            (insertConcern (fileConfig.concerns.foldl insertConcern (∅, []))
              mainConcern).1 } := by
  simp only [combineConfig, except_bind_eq_ok, okOr_eq_ok, except_pure, Except.ok.injEq] at h
  obtain ⟨url, hurl, workingPath, hwp, cliMain, hcli, envMain, henv, main, hmain, maxD, hmax,
    warnD, hwarn, rfl⟩ := h
  exact ⟨url, workingPath, cliMain, envMain, main, maxD, warnD, hurl, hwp, hcli, henv, hmain, hmax,
    hwarn, rfl⟩

/-- Each error of `combine_config` names what is missing from all three sources, or is the error
of the command line's or the environment's main concern. -/
theorem combineConfig_eq_error {cliConfig envConfig : EnvCLIConfiguration}
    {fileConfig : FileConfiguration} {e : Error}
    (h : combineConfig parseAddress cliConfig envConfig fileConfig = .error e) :
    (cliConfig.url = none ∧ envConfig.url = none ∧ fileConfig.url = none ∧
      e = .ofKind (.invalidConfig "Need to provide url (config file, command line or env)")) ∨
    (cliConfig.workingPath = none ∧ envConfig.workingPath = none ∧
      fileConfig.workingPath = none ∧
      e = .ofKind
        (.invalidConfig "Need to provide working path (config file, command line or env)")) ∨
    validateConcern parseAddress cliConfig.mainConcernContract cliConfig.mainConcernUser
      cliConfig.mainConcernAbi = .error e ∨
    validateConcern parseAddress envConfig.mainConcernContract envConfig.mainConcernUser
      envConfig.mainConcernAbi = .error e ∨
    (cliConfig.mainConcernContract = none ∧ cliConfig.mainConcernUser = none ∧
      cliConfig.mainConcernAbi = none ∧ envConfig.mainConcernContract = none ∧
      envConfig.mainConcernUser = none ∧ envConfig.mainConcernAbi = none ∧
      fileConfig.mainConcern = none ∧
      e = .ofKind
        (.invalidConfig "Need to provide main concern (config file, command line or env)")) ∨
    Duration.seconds (asI64
      ((firstOf cliConfig.maxDelay envConfig.maxDelay fileConfig.maxDelay).getD
        defaultMaxDelay)) = .error e ∨
    Duration.seconds (asI64
      ((firstOf cliConfig.warnDelay envConfig.warnDelay fileConfig.warnDelay).getD
        defaultWarnDelay)) = .error e := by
  simp only [combineConfig, except_bind_eq_error, okOr_eq_error, okOr_eq_ok, firstOf_eq_none,
    and_assoc, except_pure] at h
  rcases h with h | ⟨_, -, h | ⟨_, -, h | ⟨cliMain, hcli, h | ⟨envMain, henv, h | ⟨_, -, h⟩⟩⟩⟩⟩
  · exact .inl h
  · exact .inr (.inl h)
  · exact .inr (.inr (.inl h))
  · exact .inr (.inr (.inr (.inl h)))
  · obtain ⟨rfl, rfl, hfile, rfl⟩ := h
    obtain ⟨hc, hu, ha⟩ := validateConcern_eq_ok_none parseAddress hcli
    obtain ⟨hc', hu', ha'⟩ := validateConcern_eq_ok_none parseAddress henv
    exact .inr (.inr (.inr (.inr (.inl ⟨hc, hu, ha, hc', hu', ha', hfile, rfl⟩))))
  rcases h with h | ⟨_, -, h | ⟨_, -, h⟩⟩
  · exact .inr (.inr (.inr (.inr (.inr (.inl h)))))
  · exact .inr (.inr (.inr (.inr (.inr (.inr h)))))
  · cases h

end

structure Host (File : Type) where
  /-- `EnvCLIConfiguration::from_args()` -/
  args : EnvCLIConfiguration
  /-- `envy::prefixed("CARTESI_").from_env()` -/
  env : Except Error EnvCLIConfiguration
  /-- `File::open` -/
  openFile : String → Except Error File
  /-- `Read::read_to_string` -/
  readToString : File → Except Error String
  /-- `serde_yaml::from_str` -/
  parseYaml : String → Except Error FileConfiguration
  /-- `H160::from_str` -/
  parseAddress : String → Except Error Address

def checkDelays (config : Configuration) : Except Error Configuration :=
  if config.maxDelay < config.warnDelay then
    .error (.ofKind (.invalidConfig "max_delay should be larger than warn delay"))
  else .ok config

theorem checkDelays_eq_ok {config config' : Configuration} :
    checkDelays config = .ok config' ↔
      config.warnDelay.secs ≤ config.maxDelay.secs ∧ config' = config := by
  unfold checkDelays
  by_cases h : config.warnDelay.secs ≤ config.maxDelay.secs
  · rw [if_neg (by simp only [Duration.lt_iff]; omega)]
    simp [h, eq_comm]
  · rw [if_pos (by simp only [Duration.lt_iff]; omega)]
    simp [h]

theorem checkDelays_eq_error {config : Configuration} {e : Error} :
    checkDelays config = .error e ↔ config.maxDelay.secs < config.warnDelay.secs ∧
      e = .ofKind (.invalidConfig "max_delay should be larger than warn delay") := by
  unfold checkDelays
  split <;> simp_all [eq_comm]

def Configuration.new {File : Type} (host : Host File) : Except Error Configuration := do
  let cliConfig := host.args
  let envConfig ← host.env
  let configPath := (cliConfig.configPath.or envConfig.configPath).getD defaultConfigPath
  let file ← chainErr (host.openFile configPath)
    ("unable to read configuration file: " ++ configPath)
  let contents ← chainErr (host.readToString file)
    ("could not read from configuration file: " ++ configPath)
  let fileConfig ← chainErr (host.parseYaml contents)
    ("could not parse configuration file: " ++ configPath)
  let config ← combineConfig host.parseAddress cliConfig envConfig fileConfig
  checkDelays config

/-- An accepted configuration is a combined one whose warning delay is at most its maximal
delay, the file read from the path the command line or the environment names. -/
theorem Configuration.new_eq_ok {File : Type} {host : Host File} {config : Configuration}
    (h : Configuration.new host = .ok config) :
    ∃ envConfig file contents fileConfig,
      host.env = .ok envConfig ∧
      host.openFile ((host.args.configPath.or envConfig.configPath).getD defaultConfigPath) =
        .ok file ∧
      host.readToString file = .ok contents ∧
      host.parseYaml contents = .ok fileConfig ∧
      combineConfig host.parseAddress host.args envConfig fileConfig = .ok config ∧
      config.warnDelay.secs ≤ config.maxDelay.secs := by
  simp only [Configuration.new, except_bind_eq_ok, chainErr_eq_ok, checkDelays_eq_ok] at h
  obtain ⟨envConfig, henv, file, hfile, contents, hcontents, fileConfig, hfc, config', hc, hle,
    rfl⟩ := h
  exact ⟨envConfig, file, contents, fileConfig, henv, hfile, hcontents, hfc, hc, hle⟩

/-- Each error of `Configuration::new` is the environment's, names the configuration file at the
step that failed on it, or is a refusal of the settings it read. -/
theorem Configuration.new_eq_error {File : Type} {host : Host File} {e : Error}
    (h : Configuration.new host = .error e) :
    host.env = .error e ∨
    ∃ envConfig configPath, host.env = .ok envConfig ∧
      configPath = (host.args.configPath.or envConfig.configPath).getD defaultConfigPath ∧
      ((∃ cause, host.openFile configPath = .error cause ∧
          e = .chain ("unable to read configuration file: " ++ configPath) cause) ∨
        (∃ file cause, host.openFile configPath = .ok file ∧
          host.readToString file = .error cause ∧
          e = .chain ("could not read from configuration file: " ++ configPath) cause) ∨
        (∃ file contents cause, host.openFile configPath = .ok file ∧
          host.readToString file = .ok contents ∧ host.parseYaml contents = .error cause ∧
          e = .chain ("could not parse configuration file: " ++ configPath) cause) ∨
        (∃ file contents fileConfig, host.openFile configPath = .ok file ∧
          host.readToString file = .ok contents ∧ host.parseYaml contents = .ok fileConfig ∧
          (combineConfig host.parseAddress host.args envConfig fileConfig = .error e ∨
            ∃ config, combineConfig host.parseAddress host.args envConfig fileConfig = .ok config ∧
              config.maxDelay.secs < config.warnDelay.secs ∧
              e = .ofKind (.invalidConfig "max_delay should be larger than warn delay")))) := by
  simp only [Configuration.new, except_bind_eq_error, chainErr_eq_error, chainErr_eq_ok,
    checkDelays_eq_error] at h
  rcases h with h | ⟨envConfig, henv, h⟩
  · exact .inl h
  refine .inr ⟨envConfig, _, henv, rfl, ?_⟩
  rcases h with h | ⟨file, hfile, h⟩
  · exact .inl h
  rcases h with ⟨cause, hc, rfl⟩ | ⟨contents, hcontents, h⟩
  · exact .inr (.inl ⟨file, cause, hfile, hc, rfl⟩)
  rcases h with ⟨cause, hc, rfl⟩ | ⟨fileConfig, hfc, h⟩
  · exact .inr (.inr (.inl ⟨file, contents, cause, hfile, hcontents, hc, rfl⟩))
  exact .inr (.inr (.inr ⟨file, contents, fileConfig, hfile, hcontents, hfc, h⟩))

end Dispatcher.Config
