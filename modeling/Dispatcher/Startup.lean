import Dispatcher.Config.Valid

/-! `Dispatcher::new` of `dispatcher/src/lib.rs`: load the configuration, reach the node, and
send the `instantiate` call for the concern at the head of the configured list. -/

namespace Dispatcher.Startup

open Config

structure TransactionRequest where
  concern : Concern
  value : U256
  data : List UInt8
  strategy : Strategy
deriving DecidableEq, Repr

/-- What `Dispatcher::new` reaches once configured: the node, the transaction manager, and the
compiled contract whose abi encodes the call. -/
structure Node (Json Abi : Type) where
  /-- `web3::transports::Http::new` -/
  connect : String → Except Error Unit
  /-- `test_connection` -/
  testConnection : Configuration → Except Error Unit
  /-- `TransactionManager::new` -/
  transactionManager : Configuration → Except Error Unit
  /-- `serde_json::from_str` of the bundled truffle dump -/
  truffleDump : Except Error Json
  /-- `ethabi::Contract::load` of the dump's `abi` field -/
  loadAbi : Json → Except Error Abi
  /-- `function(name).encode_input(params)` -/
  encodeInput : Abi → String → List Token → Except Error (List UInt8)
  /-- `TransactionManager::send` -/
  send : TransactionRequest → Except Error Unit

structure Dispatcher where
  config : Configuration

def instantiateParams (mainConcern : Concern) : List Token :=
  [.address mainConcern.userAddress, .address mainConcern.contractAddress,
    .fixedBytes (List.replicate 32 88), .fixedBytes (List.replicate 32 85),
    .uint 122, .uint 10, .uint 100]

def Dispatcher.new {File Json Abi : Type} (host : Host File) (node : Node Json Abi) :
    Except Error (Dispatcher × TransactionRequest) := do
  let config ← chainErr (Configuration.new host) "could not load configuration"
  chainErr (node.connect config.url) ("could not connect to Eth node at url: " ++ config.url)
  node.testConnection config
  chainErr (node.transactionManager config) "could not create transaction manager"
  let ans : Dispatcher := { config := config }
  let mainConcern ← okOr ans.config.concerns[0]?
    (.panic "index out of bounds: the len is 0 but the index is 0")
  let v ← chainErr node.truffleDump "could not read truffle json file"
  let abi ← chainErr (node.loadAbi v) "could decode json abi"
  let data ← chainErr (node.encodeInput abi "instantiate" (instantiateParams mainConcern))
    "could not encode function parameters"
  let req : TransactionRequest :=
    { concern := mainConcern, value := 0, data := data, strategy := .simplest }
  chainErr (node.send req) "transaction manager failed to send"
  pure (ans, req)

theorem Dispatcher.new_eq_ok {File Json Abi : Type} {host : Host File} {node : Node Json Abi}
    {d : Dispatcher} {req : TransactionRequest} (h : Dispatcher.new host node = .ok (d, req)) :
    Configuration.new host = .ok d.config ∧
    d.config.concerns[0]? = some req.concern ∧
    (∃ v abi, node.truffleDump = .ok v ∧ node.loadAbi v = .ok abi ∧
      node.encodeInput abi "instantiate" (instantiateParams req.concern) = .ok req.data) ∧
    req.value = 0 ∧ req.strategy = .simplest ∧ node.send req = .ok () := by
  simp only [Dispatcher.new, except_bind_eq_ok, chainErr_eq_ok, okOr_eq_ok, except_pure,
    Except.ok.injEq, Prod.mk.injEq] at h
  obtain ⟨config, hconfig, -, -, -, -, -, -, main, hmain, v, hv, abi, habi, data, hdata, _,
    hsend, rfl, rfl⟩ := h
  exact ⟨hconfig, hmain, ⟨v, abi, hv, habi, hdata⟩, rfl, rfl, hsend⟩

def acceptingNode : Node Unit Unit where
  connect _ := .ok ()
  testConnection _ := .ok ()
  transactionManager _ := .ok ()
  truffleDump := .ok ()
  loadAbi _ := .ok ()
  encodeInput _ _ _ := .ok []
  send _ := .ok ()

/-- `Dispatcher::new` instantiates the game for the first concern of the file read at the
configured path, or for the main concern when that file lists none. -/
theorem Dispatcher.new_concern {File Json Abi : Type} {host : Host File}
    {node : Node Json Abi} {d : Dispatcher} {req : TransactionRequest}
    (h : Dispatcher.new host node = .ok (d, req)) :
    ∃ envConfig file contents fileConfig,
      host.env = .ok envConfig ∧
      host.openFile ((host.args.configPath.or envConfig.configPath).getD defaultConfigPath) =
        .ok file ∧
      host.readToString file = .ok contents ∧ host.parseYaml contents = .ok fileConfig ∧
      combineConfig host.parseAddress host.args envConfig fileConfig = .ok d.config ∧
      req.concern = ((fileConfig.concerns.map FullConcern.toConcern).head?.getD
        d.config.mainConcern) := by
  obtain ⟨hconfig, hhead, -⟩ := Dispatcher.new_eq_ok h
  obtain ⟨envConfig, file, contents, fileConfig, henv, hfile, hcontents, hfc, hc, -⟩ :=
    Configuration.new_eq_ok hconfig
  refine ⟨envConfig, file, contents, fileConfig, henv, hfile, hcontents, hfc, hc, ?_⟩
  rw [combineConfig_concerns hc] at hhead
  cases hfcs : fileConfig.concerns <;> simp_all

theorem dispatcherNew_concern_listed :
    ∃ d req, Dispatcher.new listedConcernHost acceptingNode = .ok (d, req) ∧
      ∃ envConfig file contents fileConfig,
        listedConcernHost.env = .ok envConfig ∧
        listedConcernHost.openFile ((listedConcernHost.args.configPath.or
          envConfig.configPath).getD defaultConfigPath) = .ok file ∧
        listedConcernHost.readToString file = .ok contents ∧
        listedConcernHost.parseYaml contents = .ok fileConfig ∧
        combineConfig listedConcernHost.parseAddress listedConcernHost.args envConfig fileConfig =
          .ok d.config ∧
        req.concern = ((fileConfig.concerns.map FullConcern.toConcern).head?.getD
          d.config.mainConcern) :=
  ⟨_, _, rfl, @Dispatcher.new_concern Unit Unit Unit listedConcernHost acceptingNode _ _ rfl⟩

/-- With a concern listed in the file, `Dispatcher::new` instantiates for it rather than for the
configured main concern. -/
theorem dispatcherNew_listedConcern :
    ∃ d req, Dispatcher.new listedConcernHost acceptingNode = .ok (d, req) ∧
      d.config.concerns[0]? = some req.concern ∧ req.concern ≠ d.config.mainConcern :=
  ⟨_, _, rfl, rfl, by decide⟩

end Dispatcher.Startup
