import Dispatcher.Compute.DApp

/-! The verification game's reactor, `VG::react` of `compute/src/vg.rs`. -/

namespace Dispatcher.Compute

structure AddressField where
  value : Address

structure Bytes32Field where
  value : H256

structure String32Field where
  value : String

structure U256Array6 where
  value : Fin 6 → U256

structure VGCtxParsed where
  challenger : AddressField
  claimer : AddressField
  machine : AddressField
  initialHash : Bytes32Field
  claimedFinalHash : Bytes32Field
  hashBeforeDivergence : Bytes32Field
  hashAfterDivergence : Bytes32Field
  currentState : String32Field
  uintValues : U256Array6

structure VGCtx where
  challenger : Address
  claimer : Address
  machine : Address
  initialHash : H256
  claimerFinalHash : H256
  hashBeforeDivergence : H256
  hashAfterDivergence : H256
  currentState : String
  roundDuration : U256
  finalTime : U256
  timeOfLastMove : U256
  mmInstance : U256
  partitionInstance : U256
  divergenceTime : U256

def VGCtx.ofParsed (parsed : VGCtxParsed) : VGCtx where
  challenger := parsed.challenger.value
  claimer := parsed.claimer.value
  machine := parsed.machine.value
  initialHash := parsed.initialHash.value
  claimerFinalHash := parsed.claimedFinalHash.value
  hashBeforeDivergence := parsed.hashBeforeDivergence.value
  hashAfterDivergence := parsed.hashAfterDivergence.value
  currentState := parsed.currentState.value
  roundDuration := parsed.uintValues.value 0
  finalTime := parsed.uintValues.value 1
  timeOfLastMove := parsed.uintValues.value 2
  mmInstance := parsed.uintValues.value 3
  partitionInstance := parsed.uintValues.value 4
  divergenceTime := parsed.uintValues.value 5

@[simp] theorem VGCtx.ofParsed_currentState (p : VGCtxParsed) :
    (VGCtx.ofParsed p).currentState = p.currentState.value := rfl

@[simp] theorem VGCtx.ofParsed_claimer (p : VGCtxParsed) :
    (VGCtx.ofParsed p).claimer = p.claimer.value := rfl

@[simp] theorem VGCtx.ofParsed_challenger (p : VGCtxParsed) :
    (VGCtx.ofParsed p).challenger = p.challenger.value := rfl

@[simp] theorem VGCtx.ofParsed_divergenceTime (p : VGCtxParsed) :
    (VGCtx.ofParsed p).divergenceTime = p.uintValues.value 5 := rfl

structure PartitionCtx where
  currentState : String

structure MMCtx where
  currentState : String

/-- `serde_json::from_str` of each protocol's context followed by its `into`; of the partition
and mm contexts only `current_state`, the one field VG reads, is kept. -/
structure Codec where
  vg : String → Except Error VGCtxParsed
  partition : String → Except Error PartitionCtx
  mm : String → Except Error MMCtx

namespace VG

variable {Archive : Type} (codec : Codec) (partition : DApp Archive Unit)
  (mm : DApp Archive U256)

def indexCall (inst : Instance) (function : String) : Reaction :=
  .transaction
    { concern := inst.concern
      value := 0
      function := function
      data := [.uint inst.index]
      strategy := .simplest }

def role (user : Address) (ctx : VGCtx) : Except Error Role :=
  if user = ctx.claimer then .ok .claimer
  else if user = ctx.challenger then .ok .challenger
  else .error (.ofKind (.invalidContractState "User is neither claimer nor challenger"))

theorem role_of_claimer {user : Address} {ctx : VGCtx} (h : user = ctx.claimer) :
    role user ctx = .ok .claimer := if_pos h

theorem role_of_challenger {user : Address} {ctx : VGCtx} (h₁ : user ≠ ctx.claimer)
    (h₂ : user = ctx.challenger) : role user ctx = .ok .challenger := by
  rw [role, if_neg h₁, if_pos h₂]

theorem role_of_neither {user : Address} {ctx : VGCtx} (h₁ : user ≠ ctx.claimer)
    (h₂ : user ≠ ctx.challenger) :
    role user ctx =
      .error (.ofKind (.invalidContractState "User is neither claimer nor challenger")) := by
  rw [role, if_neg h₁, if_neg h₂]

def reactAsClaimer (inst : Instance) (archive : Archive) (ctx : VGCtx) :
    Except Error Reaction :=
  match ctx.currentState with
  | "WaitPartition" => do
    let partitionInstance ← okOr inst.subInstances[0]?
      (.ofKind (.invalidContractState ("There is no partition instance " ++ ctx.currentState)))
    let partitionCtx ← chainErr (codec.partition partitionInstance.jsonData)
      ("Could not parse partition instance json_data: " ++ inst.jsonData)
    match partitionCtx.currentState with
    | "ChallengerWon" | "ClaimerWon" => pure (indexCall inst "winByPartitionTimeout")
    | "DivergenceFound" => pure (indexCall inst "startMachineRunChallenge")
    | _ => partition partitionInstance archive ()
  | "WaitMemoryProveValues" => pure .idle
  | _ => .error (.ofKind (.invalidContractState ("Unknown current state " ++ ctx.currentState)))

def reactAsChallenger (inst : Instance) (archive : Archive) (ctx : VGCtx) :
    Except Error Reaction :=
  match ctx.currentState with
  | "WaitPartition" => do
    let partitionInstance ← okOr inst.subInstances[0]?
      (.ofKind (.invalidContractState ("There is no partition instance " ++ ctx.currentState)))
    partition partitionInstance archive ()
  | "WaitMemoryProveValues" => do
    let mmInstance ← okOr inst.subInstances[0]?
      (.ofKind (.invalidContractState
        ("There is no memory manager instance " ++ ctx.currentState)))
    let mmCtx ← chainErr (codec.mm mmInstance.jsonData)
      ("Could not parse mm instance json_data: " ++ inst.jsonData)
    match mmCtx.currentState with
    | "WaitingProofs" => mm mmInstance archive ctx.divergenceTime
    | "WaitingReplay" => pure (indexCall inst "settleVerificationGame")
    | "FinishedReplay" => pure .idle
    | _ => pure .idle
  | _ => .error (.ofKind (.invalidContractState ("Unknown current state " ++ ctx.currentState)))

def react (inst : Instance) (archive : Archive) (_ : Unit) : Except Error Reaction := do
  let parsed ← chainErr (codec.vg inst.jsonData)
    ("Could not parse vg instance json_data: " ++ inst.jsonData)
  let ctx := VGCtx.ofParsed parsed
  match ctx.currentState with
  | "FinishedClaimerWon" | "FinishedChallengerWon" => pure .idle
  | _ =>
    match ← role inst.concern.userAddress ctx with
    | .claimer => reactAsClaimer codec partition inst archive ctx
    | .challenger => reactAsChallenger codec partition mm inst archive ctx

/-- VG reads no nested instance but the first. -/
theorem react_take_one (inst : Instance) (archive : Archive) :
    react codec partition mm { inst with subInstances := inst.subInstances.take 1 } archive () =
      react codec partition mm inst archive () := by
  cases h : inst.subInstances <;> simp [react, reactAsClaimer, reactAsChallenger, indexCall, h]

end VG

end Dispatcher.Compute
