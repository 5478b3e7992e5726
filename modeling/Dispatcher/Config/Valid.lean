import Dispatcher.Config.Concerns

/-! What every configuration `Configuration::new` hands out satisfies. -/

namespace Dispatcher.Config

/-- The invariant of an accepted configuration: the main concern closes the concern list, the
abi table covers exactly the listed concerns, and the warning delay does not exceed the
maximal one. -/
structure Configuration.Valid (config : Configuration) : Prop where
  mainConcern_last : config.concerns.getLast? = some config.mainConcern
  mem_abis : ∀ c, c ∈ config.abis ↔ c ∈ config.concerns
  delays_le : config.warnDelay.secs ≤ config.maxDelay.secs

theorem Configuration.Valid.concerns_ne_nil {config : Configuration} (h : config.Valid) :
    config.concerns ≠ [] := by
  intro hnil
  simpa [hnil] using h.mainConcern_last

theorem Configuration.new_mainConcern_last {File : Type} {host : Host File}
    {config : Configuration} (h : Configuration.new host = .ok config) :
    config.concerns.getLast? = some config.mainConcern := by
  obtain ⟨_, _, _, _, -, -, -, -, hc, -⟩ := Configuration.new_eq_ok h
  simp [combineConfig_concerns hc]

theorem Configuration.new_valid {File : Type} {host : Host File} {config : Configuration}
    (h : Configuration.new host = .ok config) : config.Valid := by
  obtain ⟨_, _, _, _, -, -, -, -, hc, hle⟩ := Configuration.new_eq_ok h
  exact ⟨Configuration.new_mainConcern_last h, combineConfig_mem_abis hc, hle⟩

def listedConcernHost : Host Unit where
  args := { url := some "http://localhost:8545", workingPath := some "." }
  env := .ok {}
  openFile _ := .ok ()
  readToString _ := .ok ""
  parseYaml _ := .ok
    { mainConcern := some ⟨1, 1, "vg.json"⟩, concerns := [⟨2, 2, "partition.json"⟩] }
  parseAddress _ := .ok 0

theorem configurationNew_valid_listed :
    ∃ config, Configuration.new listedConcernHost = .ok config ∧ config.Valid :=
  ⟨_, rfl, @Configuration.new_valid Unit listedConcernHost _ rfl⟩

end Dispatcher.Config
