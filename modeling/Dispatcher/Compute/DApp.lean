import Dispatcher.Basic

/-! Instances, reactions and the `DApp` capability every protocol implements. -/

namespace Dispatcher.Compute

structure Instance where
  index : U256
  concern : Concern
  jsonData : String
  subInstances : List Instance

structure TransactionRequest where
  concern : Concern
  value : U256
  function : String
  data : List Token
  strategy : Strategy
deriving DecidableEq, Repr

inductive Reaction where
  | idle
  | transaction (request : TransactionRequest)
deriving DecidableEq, Repr

inductive Role where
  | claimer
  | challenger
deriving DecidableEq, Repr

/-- `DApp<T>::react`: a reaction to an instance, given the archive and an auxiliary `T`. -/
abbrev DApp (Archive T : Type) := Instance → Archive → T → Except Error Reaction

end Dispatcher.Compute
