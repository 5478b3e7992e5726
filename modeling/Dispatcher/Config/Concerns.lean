import Dispatcher.Config.Model

/-! The concern list and the abi table that `combine_config` builds in one loop. The list is
the file's concerns followed by the main one; the table is the last-writer-wins view of that
list, so its keys are the list's elements and each key's abi is that of its last entry. -/

namespace Dispatcher.Config

def lastEntry (fullConcerns : List FullConcern) (c : Concern) : Option FullConcern :=
  fullConcerns.reverse.find? fun fc =>
    fc.contractAddress == c.contractAddress && fc.userAddress == c.userAddress

/-- The abi the table should hold under `c` after storing `fullConcerns`. -/
def lastAbi (fullConcerns : List FullConcern) (c : Concern) : Option ConcernAbi :=
  (lastEntry fullConcerns c).map fun fc => ⟨fc.abi⟩

@[simp] theorem lastAbi_nil (c : Concern) : lastAbi [] c = none := rfl

theorem FullConcern.toConcern_eq_iff (fc : FullConcern) (c : Concern) :
    fc.toConcern = c ↔ fc.contractAddress = c.contractAddress ∧ fc.userAddress = c.userAddress := by
  cases c
  simp [FullConcern.toConcern]

theorem lastAbi_cons (fc : FullConcern) (fcs : List FullConcern) (c : Concern) :
    lastAbi (fc :: fcs) c =
      (lastAbi fcs c).or (if fc.toConcern = c then some ⟨fc.abi⟩ else none) := by
  simp only [lastAbi, lastEntry, List.reverse_cons, List.find?_append,
    FullConcern.toConcern_eq_iff]
  cases List.find? (fun fc =>
      fc.contractAddress == c.contractAddress && fc.userAddress == c.userAddress) fcs.reverse <;>
    by_cases hc : fc.contractAddress = c.contractAddress ∧ fc.userAddress = c.userAddress <;>
    simp [hc]

theorem lastAbi_append_singleton (fcs : List FullConcern) (fc : FullConcern) (c : Concern) :
    lastAbi (fcs ++ [fc]) c = if fc.toConcern = c then some ⟨fc.abi⟩ else lastAbi fcs c := by
  simp only [FullConcern.toConcern_eq_iff]
  by_cases hc : fc.contractAddress = c.contractAddress ∧ fc.userAddress = c.userAddress <;>
    simp [lastAbi, lastEntry, hc]

theorem lastAbi_isSome (fcs : List FullConcern) (c : Concern) :
    (lastAbi fcs c).isSome ↔ c ∈ fcs.map FullConcern.toConcern := by
  simp [lastAbi, lastEntry, List.find?_isSome, FullConcern.toConcern_eq_iff]

theorem insertConcern_abis (acc : Std.HashMap Concern ConcernAbi × List Concern)
    (fc : FullConcern) (c : Concern) :
    (insertConcern acc fc).1[c]? = if fc.toConcern = c then some ⟨fc.abi⟩ else acc.1[c]? := by
  simp [insertConcern, Std.HashMap.getElem?_insert]

theorem foldl_insertConcern_concerns (fcs : List FullConcern)
    (acc : Std.HashMap Concern ConcernAbi × List Concern) :
    (fcs.foldl insertConcern acc).2 = acc.2 ++ fcs.map FullConcern.toConcern := by
  induction fcs generalizing acc with
  | nil => simp
  | cons fc fcs ih => simp [ih, insertConcern]

theorem foldl_insertConcern_abis (fcs : List FullConcern)
    (acc : Std.HashMap Concern ConcernAbi × List Concern) (c : Concern) :
    (fcs.foldl insertConcern acc).1[c]? = (lastAbi fcs c).or acc.1[c]? := by
  induction fcs generalizing acc with
  | nil => simp
  | cons fc fcs ih =>
    rw [List.foldl_cons, ih, insertConcern_abis, lastAbi_cons]
    by_cases hc : fc.toConcern = c <;> cases lastAbi fcs c <;> simp [hc]

theorem mem_iff_isSome_getElem? (m : Std.HashMap Concern ConcernAbi) (c : Concern) :
    c ∈ m ↔ m[c]?.isSome := by
  rw [Std.HashMap.mem_iff_contains, Std.HashMap.contains_eq_isSome_getElem?]

theorem stored_eq (fcs : List FullConcern) (main : FullConcern) :
    insertConcern (fcs.foldl insertConcern (∅, [])) main =
      (fcs ++ [main]).foldl insertConcern (∅, []) := by
  rw [List.foldl_append, List.foldl_cons, List.foldl_nil]

theorem stored_concerns (fcs : List FullConcern) (main : FullConcern) :
    (insertConcern (fcs.foldl insertConcern (∅, [])) main).2 =
      (fcs ++ [main]).map FullConcern.toConcern := by
  rw [stored_eq, foldl_insertConcern_concerns, List.nil_append]

theorem stored_abis (fcs : List FullConcern) (main : FullConcern) (c : Concern) :
    (insertConcern (fcs.foldl insertConcern (∅, [])) main).1[c]? = lastAbi (fcs ++ [main]) c := by
  rw [stored_eq, foldl_insertConcern_abis, Std.HashMap.getElem?_emptyc, Option.or_none]

theorem combineConfig_concerns {parseAddress : String → Except Error Address}
    {cliConfig envConfig : EnvCLIConfiguration} {fileConfig : FileConfiguration}
    {config : Configuration}
    (h : combineConfig parseAddress cliConfig envConfig fileConfig = .ok config) :
    config.concerns = fileConfig.concerns.map FullConcern.toConcern ++ [config.mainConcern] := by
  obtain ⟨-, -, -, -, main, _, _, -, -, -, -, -, -, -, rfl⟩ := combineConfig_eq_ok parseAddress h
  simp [stored_concerns]

theorem combineConfig_mem_abis {parseAddress : String → Except Error Address}
    {cliConfig envConfig : EnvCLIConfiguration} {fileConfig : FileConfiguration}
    {config : Configuration}
    (h : combineConfig parseAddress cliConfig envConfig fileConfig = .ok config) (c : Concern) :
    c ∈ config.abis ↔ c ∈ config.concerns := by
  obtain ⟨-, -, -, -, main, _, _, -, -, -, -, -, -, -, rfl⟩ := combineConfig_eq_ok parseAddress h
  rw [mem_iff_isSome_getElem?, stored_abis, stored_concerns, lastAbi_isSome]

/-- The abi table `combine_config` returns has the concern list's elements as its keys; under
the main concern it holds the main concern's abi, even when a file entry has the same pair;
under any other key, the abi of the last file entry with that pair. -/
theorem combineConfig_abis {parseAddress : String → Except Error Address}
    {cliConfig envConfig : EnvCLIConfiguration} {fileConfig : FileConfiguration}
    {config : Configuration}
    (h : combineConfig parseAddress cliConfig envConfig fileConfig = .ok config) :
    (∀ c, c ∈ config.abis ↔ c ∈ config.concerns) ∧
    (∃ cliMainConcern envMainConcern mainConcern,
      validateConcern parseAddress cliConfig.mainConcernContract cliConfig.mainConcernUser
        cliConfig.mainConcernAbi = .ok cliMainConcern ∧
      validateConcern parseAddress envConfig.mainConcernContract envConfig.mainConcernUser
        envConfig.mainConcernAbi = .ok envMainConcern ∧
      firstOf cliMainConcern envMainConcern fileConfig.mainConcern = some mainConcern ∧
      config.mainConcern = mainConcern.toConcern ∧
      config.abis[config.mainConcern]? = some ⟨mainConcern.abi⟩) ∧
    (∀ c, c ≠ config.mainConcern → config.abis[c]? = lastAbi fileConfig.concerns c) := by
  refine ⟨combineConfig_mem_abis h, ?_⟩
  obtain ⟨-, -, cliMain, envMain, main, _, _, -, -, hcli, henv, hmain, -, -, rfl⟩ :=
    combineConfig_eq_ok parseAddress h
  refine ⟨⟨cliMain, envMain, main, hcli, henv, hmain, rfl, ?_⟩, fun c hc => ?_⟩
  · simp [stored_abis, lastAbi_append_singleton]
  · simp only [stored_abis, lastAbi_append_singleton, if_neg (Ne.symm hc)]

def repeatedPairsFile : FileConfiguration :=
  { url := some "http://localhost:8545", workingPath := some ".",
    mainConcern := some ⟨1, 1, "main.json"⟩,
    concerns := [⟨2, 2, "first.json"⟩, ⟨2, 2, "second.json"⟩, ⟨1, 1, "listed.json"⟩] }

theorem combineConfig_abis_repeatedPairs :
    ∃ config, combineConfig (fun _ => .ok 0) {} {} repeatedPairsFile = .ok config ∧
      (∀ c, c ∈ config.abis ↔ c ∈ config.concerns) ∧
      (∃ cliMainConcern envMainConcern mainConcern,
        validateConcern (fun _ => .ok 0) none none none = .ok cliMainConcern ∧
        validateConcern (fun _ => .ok 0) none none none = .ok envMainConcern ∧
        firstOf cliMainConcern envMainConcern repeatedPairsFile.mainConcern = some mainConcern ∧
        config.mainConcern = mainConcern.toConcern ∧
        config.abis[config.mainConcern]? = some ⟨mainConcern.abi⟩) ∧
      (∀ c, c ≠ config.mainConcern →
        config.abis[c]? = lastAbi repeatedPairsFile.concerns c) :=
  ⟨_, rfl, @combineConfig_abis (fun _ => .ok 0) {} {} repeatedPairsFile _ rfl⟩

end Dispatcher.Config
