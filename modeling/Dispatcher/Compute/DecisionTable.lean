import Dispatcher.Compute.VG

/-! The verification game's decision table, one rule per row, over the decoded fields of the
instance, with VG's own calls written out as the requests they are; and the proof that
`VG::react` returns exactly what the table prescribes, for every behaviour of the decoders and of
the nested reactors. -/

namespace Dispatcher.Compute.VG

variable {Archive : Type} (codec : Codec) (partition : DApp Archive Unit)
  (mm : DApp Archive U256) (inst : Instance) (archive : Archive)

def Finished (p : VGCtxParsed) : Prop :=
  p.currentState.value = "FinishedClaimerWon" ∨ p.currentState.value = "FinishedChallengerWon"

inductive ClaimerRow (p : VGCtxParsed) : Except Error Reaction → Prop
  | noPartition :
      p.currentState.value = "WaitPartition" → inst.subInstances = [] →
      ClaimerRow p
        (.error (.ofKind (.invalidContractState "There is no partition instance WaitPartition")))
  | partitionUnreadable {sub : Instance} {rest : List Instance} {e : Error} :
      p.currentState.value = "WaitPartition" → inst.subInstances = sub :: rest →
      codec.partition sub.jsonData = .error e →
      ClaimerRow p
        (.error (.chain ("Could not parse partition instance json_data: " ++ inst.jsonData) e))
  | winByPartitionTimeout {sub : Instance} {rest : List Instance} {pc : PartitionCtx} :
      p.currentState.value = "WaitPartition" → inst.subInstances = sub :: rest →
      codec.partition sub.jsonData = .ok pc →
      pc.currentState = "ChallengerWon" ∨ pc.currentState = "ClaimerWon" →
      ClaimerRow p (.ok (.transaction
        { concern := inst.concern
          value := 0
          function := "winByPartitionTimeout"
          data := [.uint inst.index]
          strategy := .simplest }))
  | startMachineRunChallenge {sub : Instance} {rest : List Instance} {pc : PartitionCtx} :
      p.currentState.value = "WaitPartition" → inst.subInstances = sub :: rest →
      codec.partition sub.jsonData = .ok pc → pc.currentState = "DivergenceFound" →
      ClaimerRow p (.ok (.transaction
        { concern := inst.concern
          value := 0
          function := "startMachineRunChallenge"
          data := [.uint inst.index]
          strategy := .simplest }))
  | partitionRunning {sub : Instance} {rest : List Instance} {pc : PartitionCtx} :
      p.currentState.value = "WaitPartition" → inst.subInstances = sub :: rest →
      codec.partition sub.jsonData = .ok pc →
      pc.currentState ≠ "ChallengerWon" → pc.currentState ≠ "ClaimerWon" →
      pc.currentState ≠ "DivergenceFound" →
      ClaimerRow p (partition sub archive ())
  | memoryPhase :
      p.currentState.value = "WaitMemoryProveValues" → ClaimerRow p (.ok .idle)
  | unknownState :
      p.currentState.value ≠ "WaitPartition" → p.currentState.value ≠ "WaitMemoryProveValues" →
      ClaimerRow p (.error (.ofKind
        (.invalidContractState ("Unknown current state " ++ p.currentState.value))))

inductive ChallengerRow (p : VGCtxParsed) : Except Error Reaction → Prop
  | noPartition :
      p.currentState.value = "WaitPartition" → inst.subInstances = [] →
      ChallengerRow p
        (.error (.ofKind (.invalidContractState "There is no partition instance WaitPartition")))
  | partitionRunning {sub : Instance} {rest : List Instance} :
      p.currentState.value = "WaitPartition" → inst.subInstances = sub :: rest →
      ChallengerRow p (partition sub archive ())
  | noMemoryManager :
      p.currentState.value = "WaitMemoryProveValues" → inst.subInstances = [] →
      ChallengerRow p (.error (.ofKind (.invalidContractState
        "There is no memory manager instance WaitMemoryProveValues")))
  | mmUnreadable {sub : Instance} {rest : List Instance} {e : Error} :
      p.currentState.value = "WaitMemoryProveValues" → inst.subInstances = sub :: rest →
      codec.mm sub.jsonData = .error e →
      ChallengerRow p
        (.error (.chain ("Could not parse mm instance json_data: " ++ inst.jsonData) e))
  | waitingProofs {sub : Instance} {rest : List Instance} {m : MMCtx} :
      p.currentState.value = "WaitMemoryProveValues" → inst.subInstances = sub :: rest →
      codec.mm sub.jsonData = .ok m → m.currentState = "WaitingProofs" →
      ChallengerRow p (mm sub archive (p.uintValues.value 5))
  | settleVerificationGame {sub : Instance} {rest : List Instance} {m : MMCtx} :
      p.currentState.value = "WaitMemoryProveValues" → inst.subInstances = sub :: rest →
      codec.mm sub.jsonData = .ok m → m.currentState = "WaitingReplay" →
      ChallengerRow p (.ok (.transaction
        { concern := inst.concern
          value := 0
          function := "settleVerificationGame"
          data := [.uint inst.index]
          strategy := .simplest }))
  | mmElsewhere {sub : Instance} {rest : List Instance} {m : MMCtx} :
      p.currentState.value = "WaitMemoryProveValues" → inst.subInstances = sub :: rest →
      codec.mm sub.jsonData = .ok m → m.currentState ≠ "WaitingProofs" →
      m.currentState ≠ "WaitingReplay" →
      ChallengerRow p (.ok .idle)
  | unknownState :
      p.currentState.value ≠ "WaitPartition" → p.currentState.value ≠ "WaitMemoryProveValues" →
      ChallengerRow p (.error (.ofKind
        (.invalidContractState ("Unknown current state " ++ p.currentState.value))))

inductive Decides : Except Error Reaction → Prop
  | unreadable {e : Error} :
      codec.vg inst.jsonData = .error e →
      Decides (.error (.chain ("Could not parse vg instance json_data: " ++ inst.jsonData) e))
  | finished {p : VGCtxParsed} :
      codec.vg inst.jsonData = .ok p → Finished p → Decides (.ok .idle)
  | stranger {p : VGCtxParsed} :
      codec.vg inst.jsonData = .ok p → ¬ Finished p →
      inst.concern.userAddress ≠ p.claimer.value → inst.concern.userAddress ≠ p.challenger.value →
      Decides (.error (.ofKind (.invalidContractState "User is neither claimer nor challenger")))
  | claimer {p : VGCtxParsed} {r : Except Error Reaction} :
      codec.vg inst.jsonData = .ok p → ¬ Finished p → inst.concern.userAddress = p.claimer.value →
      ClaimerRow codec partition inst archive p r → Decides r
  | challenger {p : VGCtxParsed} {r : Except Error Reaction} :
      codec.vg inst.jsonData = .ok p → ¬ Finished p →
      inst.concern.userAddress ≠ p.claimer.value → inst.concern.userAddress = p.challenger.value →
      ChallengerRow codec partition mm inst archive p r → Decides r

theorem claimerRow_reactAsClaimer (p : VGCtxParsed) :
    ClaimerRow codec partition inst archive p
      (reactAsClaimer codec partition inst archive (.ofParsed p)) := by
  rw [reactAsClaimer, VGCtx.ofParsed_currentState]
  split
  next hs =>
    rcases hsub : inst.subInstances with _ | ⟨sub, rest⟩
    · simp only [List.getElem?_nil, okOr_none, except_error_bind, hs]
      exact .noPartition hs hsub
    simp only [List.getElem?_cons_zero, okOr_some, except_ok_bind]
    rcases hp : codec.partition sub.jsonData with e | pc
    · exact .partitionUnreadable hs hsub hp
    simp only [chainErr_ok, except_ok_bind]
    split
    next h => exact .winByPartitionTimeout hs hsub hp (.inl h)
    next h => exact .winByPartitionTimeout hs hsub hp (.inr h)
    next h => exact .startMachineRunChallenge hs hsub hp h
    next h1 h2 h3 => exact .partitionRunning hs hsub hp h1 h2 h3
  next hs => exact .memoryPhase hs
  next h1 h2 => exact .unknownState h1 h2

theorem reactAsClaimer_of_claimerRow {p : VGCtxParsed} {r : Except Error Reaction}
    (h : ClaimerRow codec partition inst archive p r) :
    reactAsClaimer codec partition inst archive (.ofParsed p) = r := by
  cases h with
  | noPartition hs hsub => simp [reactAsClaimer, hs, hsub]
  | partitionUnreadable hs hsub hp => simp [reactAsClaimer, hs, hsub, hp]
  | winByPartitionTimeout hs hsub hp hw =>
    rcases hw with hw | hw <;> simp [reactAsClaimer, indexCall, hs, hsub, hp, hw]
  | startMachineRunChallenge hs hsub hp hd =>
    simp [reactAsClaimer, indexCall, hs, hsub, hp, hd]
  | partitionRunning hs hsub hp h1 h2 h3 =>
    simp only [reactAsClaimer, VGCtx.ofParsed_currentState, hs, hsub, hp,
      List.getElem?_cons_zero, okOr_some, chainErr_ok, except_ok_bind]
  | memoryPhase hs => simp [reactAsClaimer, hs]
  | unknownState h1 h2 =>
    rw [reactAsClaimer, VGCtx.ofParsed_currentState]
    split <;> simp_all

theorem challengerRow_reactAsChallenger (p : VGCtxParsed) :
    ChallengerRow codec partition mm inst archive p
      (reactAsChallenger codec partition mm inst archive (.ofParsed p)) := by
  rw [reactAsChallenger, VGCtx.ofParsed_currentState]
  split
  next hs =>
    rcases hsub : inst.subInstances with _ | ⟨sub, rest⟩
    · simp only [List.getElem?_nil, okOr_none, except_error_bind, hs]
      exact .noPartition hs hsub
    simp only [List.getElem?_cons_zero, okOr_some, except_ok_bind]
    exact .partitionRunning hs hsub
  next hs =>
    rcases hsub : inst.subInstances with _ | ⟨sub, rest⟩
    · simp only [List.getElem?_nil, okOr_none, except_error_bind, hs]
      exact .noMemoryManager hs hsub
    simp only [List.getElem?_cons_zero, okOr_some, except_ok_bind]
    rcases hm : codec.mm sub.jsonData with e | m
    · exact .mmUnreadable hs hsub hm
    simp only [chainErr_ok, except_ok_bind, VGCtx.ofParsed_divergenceTime]
    split
    next h => exact .waitingProofs hs hsub hm h
    next h => exact .settleVerificationGame hs hsub hm h
    next h => exact .mmElsewhere hs hsub hm (by simp [h]) (by simp [h])
    next h1 h2 _ => exact .mmElsewhere hs hsub hm h1 h2
  next h1 h2 => exact .unknownState h1 h2

theorem reactAsChallenger_of_challengerRow {p : VGCtxParsed} {r : Except Error Reaction}
    (h : ChallengerRow codec partition mm inst archive p r) :
    reactAsChallenger codec partition mm inst archive (.ofParsed p) = r := by
  cases h with
  | noPartition hs hsub => simp [reactAsChallenger, hs, hsub]
  | partitionRunning hs hsub => simp [reactAsChallenger, hs, hsub]
  | noMemoryManager hs hsub => simp [reactAsChallenger, hs, hsub]
  | mmUnreadable hs hsub hm => simp [reactAsChallenger, hs, hsub, hm]
  | waitingProofs hs hsub hm hw => simp [reactAsChallenger, hs, hsub, hm, hw]
  | settleVerificationGame hs hsub hm hw =>
    simp [reactAsChallenger, indexCall, hs, hsub, hm, hw]
  | mmElsewhere hs hsub hm h1 h2 =>
    simp only [reactAsChallenger, VGCtx.ofParsed_currentState, hs, hsub, hm,
      List.getElem?_cons_zero, okOr_some, chainErr_ok, except_ok_bind]
    split <;> simp_all
  | unknownState h1 h2 =>
    rw [reactAsChallenger, VGCtx.ofParsed_currentState]
    split <;> simp_all

theorem decides_react :
    Decides codec partition mm inst archive (react codec partition mm inst archive ()) := by
  unfold react
  rcases hv : codec.vg inst.jsonData with e | p
  · exact .unreadable hv
  simp only [chainErr_ok, except_ok_bind, VGCtx.ofParsed_currentState]
  split
  next h => exact .finished hv (.inl h)
  next h => exact .finished hv (.inr h)
  next h1 h2 =>
    have hf : ¬ Finished p := fun h => h.elim h1 h2
    by_cases hc : inst.concern.userAddress = p.claimer.value
    · simpa [@role_of_claimer _ (.ofParsed p) hc] using
        .claimer hv hf hc (claimerRow_reactAsClaimer ..)
    by_cases hch : inst.concern.userAddress = p.challenger.value
    · simpa [@role_of_challenger _ (.ofParsed p) hc hch] using
        .challenger hv hf hc hch (challengerRow_reactAsChallenger ..)
    simpa [@role_of_neither _ (.ofParsed p) hc hch] using .stranger hv hf hc hch

theorem react_of_decides {r : Except Error Reaction}
    (h : Decides codec partition mm inst archive r) :
    react codec partition mm inst archive () = r := by
  cases h with
  | unreadable hv => simp [react, hv]
  | finished hv hf => rcases hf with hf | hf <;> simp [react, hv, hf]
  | stranger hv hf hc hch =>
    obtain ⟨hf1, hf2⟩ := not_or.mp hf
    simp [react, hv, hf1, hf2, @role_of_neither _ (.ofParsed _) hc hch]
  | claimer hv hf hc hr =>
    obtain ⟨hf1, hf2⟩ := not_or.mp hf
    simp [react, hv, hf1, hf2, @role_of_claimer _ (.ofParsed _) hc,
      reactAsClaimer_of_claimerRow _ _ _ _ hr]
  | challenger hv hf hc hch hr =>
    obtain ⟨hf1, hf2⟩ := not_or.mp hf
    simp [react, hv, hf1, hf2, @role_of_challenger _ (.ofParsed _) hc hch,
      reactAsChallenger_of_challengerRow _ _ _ _ _ hr]

/-- `VG::react` returns exactly the outcomes the decision table relates to the instance. -/
theorem react_eq_iff_decides (r : Except Error Reaction) :
    react codec partition mm inst archive () = r ↔ Decides codec partition mm inst archive r :=
  ⟨fun h => h ▸ decides_react codec partition mm inst archive,
    react_of_decides codec partition mm inst archive⟩

/-- The calls VG makes on its own account, each with the role, phase and nested state that
allow it. -/
inductive OwnMove (p : VGCtxParsed) : String → Prop
  | winByPartitionTimeout {sub : Instance} {rest : List Instance} {pc : PartitionCtx} :
      inst.concern.userAddress = p.claimer.value → p.currentState.value = "WaitPartition" →
      inst.subInstances = sub :: rest → codec.partition sub.jsonData = .ok pc →
      pc.currentState = "ChallengerWon" ∨ pc.currentState = "ClaimerWon" →
      OwnMove p "winByPartitionTimeout"
  | startMachineRunChallenge {sub : Instance} {rest : List Instance} {pc : PartitionCtx} :
      inst.concern.userAddress = p.claimer.value → p.currentState.value = "WaitPartition" →
      inst.subInstances = sub :: rest → codec.partition sub.jsonData = .ok pc →
      pc.currentState = "DivergenceFound" → OwnMove p "startMachineRunChallenge"
  | settleVerificationGame {sub : Instance} {rest : List Instance} {m : MMCtx} :
      inst.concern.userAddress ≠ p.claimer.value → inst.concern.userAddress = p.challenger.value →
      p.currentState.value = "WaitMemoryProveValues" → inst.subInstances = sub :: rest →
      codec.mm sub.jsonData = .ok m → m.currentState = "WaitingReplay" →
      OwnMove p "settleVerificationGame"

def vgCalls : List String :=
  ["winByPartitionTimeout", "startMachineRunChallenge", "settleVerificationGame"]

theorem decides_transaction {req : TransactionRequest}
    (hd : Decides codec partition mm inst archive (.ok (.transaction req))) :
    (∃ p, codec.vg inst.jsonData = .ok p ∧ OwnMove codec inst p req.function ∧
      req =
        { concern := inst.concern
          value := 0
          function := req.function
          data := [.uint inst.index]
          strategy := .simplest }) ∨
    (∃ sub rest, inst.subInstances = sub :: rest ∧
      (partition sub archive () = .ok (.transaction req) ∨
        ∃ p, codec.vg inst.jsonData = .ok p ∧
          mm sub archive (p.uintValues.value 5) = .ok (.transaction req))) := by
  generalize hr : Except.ok (Reaction.transaction req) = r at hd
  cases hd with
  | unreadable => cases hr
  | finished => cases hr
  | stranger => cases hr
  | claimer hv _ hc hrow =>
    cases hrow with
    | winByPartitionTimeout hs hsub hp hw =>
      cases hr
      exact .inl ⟨_, hv, .winByPartitionTimeout hc hs hsub hp hw, rfl⟩
    | startMachineRunChallenge hs hsub hp hd =>
      cases hr
      exact .inl ⟨_, hv, .startMachineRunChallenge hc hs hsub hp hd, rfl⟩
    | partitionRunning _ hsub => exact .inr ⟨_, _, hsub, .inl rfl⟩
    | _ => cases hr
  | challenger hv _ hc hch hrow =>
    cases hrow with
    | settleVerificationGame hs hsub hm hw =>
      cases hr
      exact .inl ⟨_, hv, .settleVerificationGame hc hch hs hsub hm hw, rfl⟩
    | partitionRunning _ hsub => exact .inr ⟨_, _, hsub, .inl rfl⟩
    | waitingProofs _ hsub => exact .inr ⟨_, _, hsub, .inr ⟨_, hv, rfl⟩⟩
    | _ => cases hr

/-- Every transaction VG proposes is either one of its own moves, legal for the role, phase and
nested state, and sent as `function(index)` from the instance's concern with no value, or the
proposal of a nested reactor on the first sub-instance. -/
theorem react_transaction_legal {req : TransactionRequest}
    (h : react codec partition mm inst archive () = .ok (.transaction req)) :
    (∃ p, codec.vg inst.jsonData = .ok p ∧ OwnMove codec inst p req.function ∧
      req =
        { concern := inst.concern
          value := 0
          function := req.function
          data := [.uint inst.index]
          strategy := .simplest }) ∨
    (∃ sub rest, inst.subInstances = sub :: rest ∧
      (partition sub archive () = .ok (.transaction req) ∨
        ∃ p, codec.vg inst.jsonData = .ok p ∧
          mm sub archive (p.uintValues.value 5) = .ok (.transaction req))) :=
  decides_transaction codec partition mm inst archive
    (h ▸ decides_react codec partition mm inst archive)

theorem OwnMove.user_eq {p : VGCtxParsed} {inst₁ inst₂ : Instance} {f₁ f₂ : String}
    (h₁ : OwnMove codec inst₁ p f₁) (h₂ : OwnMove codec inst₂ p f₂) :
    inst₁.concern.userAddress = inst₂.concern.userAddress := by
  cases h₁ <;> cases h₂ <;> simp_all

theorem ownMove_of_react {req : TransactionRequest}
    (hp : ∀ sub a req, partition sub a () = .ok (.transaction req) → req.function ∉ vgCalls)
    (hm : ∀ sub a t req, mm sub a t = .ok (.transaction req) → req.function ∉ vgCalls)
    (h : react codec partition mm inst archive () = .ok (.transaction req))
    (hf : req.function ∈ vgCalls) :
    ∃ p, codec.vg inst.jsonData = .ok p ∧ OwnMove codec inst p req.function := by
  rcases decides_transaction codec partition mm inst archive
      (h ▸ decides_react codec partition mm inst archive) with
    ⟨p, hv, hown, -⟩ | ⟨_, _, -, hpart | ⟨_, -, hmm⟩⟩
  · exact ⟨p, hv, hown⟩
  · exact absurd hf (hp _ _ _ hpart)
  · exact absurd hf (hm _ _ _ _ hmm)

/-- On one snapshot of a game, VG's own calls are proposed for one user only: two instances with
the same `json_data` whose reactions are VG-level calls belong to the same user, whatever their
indices, contracts and sub-instances, provided the nested reactors never propose those calls. -/
theorem react_ownMove_same_user {inst₁ inst₂ : Instance} {archive₁ archive₂ : Archive}
    {req₁ req₂ : TransactionRequest}
    (hp : ∀ sub a req, partition sub a () = .ok (.transaction req) → req.function ∉ vgCalls)
    (hm : ∀ sub a t req, mm sub a t = .ok (.transaction req) → req.function ∉ vgCalls)
    (hjson : inst₁.jsonData = inst₂.jsonData)
    (h₁ : react codec partition mm inst₁ archive₁ () = .ok (.transaction req₁))
    (h₂ : react codec partition mm inst₂ archive₂ () = .ok (.transaction req₂))
    (hf₁ : req₁.function ∈ vgCalls) (hf₂ : req₂.function ∈ vgCalls) :
    inst₁.concern.userAddress = inst₂.concern.userAddress := by
  obtain ⟨p₁, hv₁, hown₁⟩ := ownMove_of_react codec partition mm inst₁ archive₁ hp hm h₁ hf₁
  obtain ⟨p₂, hv₂, hown₂⟩ := ownMove_of_react codec partition mm inst₂ archive₂ hp hm h₂ hf₂
  obtain rfl : p₁ = p₂ := Except.ok.inj ((hjson ▸ hv₁).symm.trans hv₂)
  exact OwnMove.user_eq codec hown₁ hown₂

/-- Every error VG returns is of one of three kinds: a decode error quoting the top
instance's `json_data` (also when the sub-instance is the one that failed to decode), an
`InvalidContractState`, or a nested reactor's error on the first sub-instance, unchanged. -/
theorem react_error_origin {e : Error}
    (h : react codec partition mm inst archive () = .error e) :
    (∃ cause, codec.vg inst.jsonData = .error cause ∧
      e = .chain ("Could not parse vg instance json_data: " ++ inst.jsonData) cause) ∨
    (∃ sub rest cause, inst.subInstances = sub :: rest ∧
      ((codec.partition sub.jsonData = .error cause ∧
          e = .chain ("Could not parse partition instance json_data: " ++ inst.jsonData) cause) ∨
        (codec.mm sub.jsonData = .error cause ∧
          e = .chain ("Could not parse mm instance json_data: " ++ inst.jsonData) cause))) ∨
    (∃ text, e = .ofKind (.invalidContractState text)) ∨
    (∃ sub rest, inst.subInstances = sub :: rest ∧
      (partition sub archive () = .error e ∨ ∃ t, mm sub archive t = .error e)) := by
  have hd := h ▸ decides_react codec partition mm inst archive
  generalize hr : Except.error e = r at hd
  cases hd with
  | unreadable hv => exact .inl ⟨_, hv, Except.error.inj hr⟩
  | finished => cases hr
  | stranger => exact .inr (.inr (.inl ⟨_, Except.error.inj hr⟩))
  | claimer _ _ _ hrow =>
    cases hrow with
    | noPartition => exact .inr (.inr (.inl ⟨_, Except.error.inj hr⟩))
    | partitionUnreadable _ hsub hp =>
      exact .inr (.inl ⟨_, _, _, hsub, .inl ⟨hp, Except.error.inj hr⟩⟩)
    | partitionRunning _ hsub => exact .inr (.inr (.inr ⟨_, _, hsub, .inl rfl⟩))
    | unknownState => exact .inr (.inr (.inl ⟨_, Except.error.inj hr⟩))
    | _ => cases hr
  | challenger _ _ _ _ hrow =>
    cases hrow with
    | noPartition => exact .inr (.inr (.inl ⟨_, Except.error.inj hr⟩))
    | partitionRunning _ hsub => exact .inr (.inr (.inr ⟨_, _, hsub, .inl rfl⟩))
    | noMemoryManager => exact .inr (.inr (.inl ⟨_, Except.error.inj hr⟩))
    | mmUnreadable _ hsub hm =>
      exact .inr (.inl ⟨_, _, _, hsub, .inr ⟨hm, Except.error.inj hr⟩⟩)
    | waitingProofs _ hsub => exact .inr (.inr (.inr ⟨_, _, hsub, .inr ⟨_, rfl⟩⟩))
    | unknownState => exact .inr (.inr (.inl ⟨_, Except.error.inj hr⟩))
    | _ => cases hr

def partitionPhase : VGCtxParsed :=
  { challenger := ⟨2⟩, claimer := ⟨1⟩, machine := ⟨0⟩, initialHash := ⟨0⟩,
    claimedFinalHash := ⟨0⟩, hashBeforeDivergence := ⟨0⟩, hashAfterDivergence := ⟨0⟩,
    currentState := ⟨"WaitPartition"⟩, uintValues := ⟨fun _ => 0⟩ }

def divergenceCodec : Codec where
  vg _ := .ok partitionPhase
  partition _ := .ok ⟨"DivergenceFound"⟩
  mm _ := .ok ⟨"WaitingProofs"⟩

def claimerInstance : Instance :=
  { index := 7, concern := ⟨0, 1⟩, jsonData := "",
    subInstances := [⟨8, ⟨0, 1⟩, "", []⟩] }

def idleReactor {T : Type} : DApp Unit T := fun _ _ _ => .ok .idle

theorem react_transaction_legal_divergence :
    ∃ req, react divergenceCodec idleReactor idleReactor claimerInstance () () =
        .ok (.transaction req) ∧
      ((∃ p, divergenceCodec.vg claimerInstance.jsonData = .ok p ∧
          OwnMove divergenceCodec claimerInstance p req.function ∧
          req =
            { concern := claimerInstance.concern
              value := 0
              function := req.function
              data := [.uint claimerInstance.index]
              strategy := .simplest }) ∨
        (∃ sub rest, claimerInstance.subInstances = sub :: rest ∧
          ((idleReactor : DApp Unit Unit) sub () () = .ok (.transaction req) ∨
            ∃ p, divergenceCodec.vg claimerInstance.jsonData = .ok p ∧
              (idleReactor : DApp Unit U256) sub () (p.uintValues.value 5) =
                .ok (.transaction req)))) :=
  ⟨_, rfl, react_transaction_legal divergenceCodec idleReactor idleReactor claimerInstance () rfl⟩

def nextInstance : Instance := { claimerInstance with index := 9 }

theorem react_ownMove_same_user_twoIndices :
    (∀ sub a req, (idleReactor : DApp Unit Unit) sub a () = .ok (.transaction req) →
      req.function ∉ vgCalls) ∧
    (∀ sub a t req, (idleReactor : DApp Unit U256) sub a t = .ok (.transaction req) →
      req.function ∉ vgCalls) ∧
    claimerInstance.jsonData = nextInstance.jsonData ∧
    ∃ req₁ req₂,
      react divergenceCodec idleReactor idleReactor claimerInstance () () =
        .ok (.transaction req₁) ∧
      react divergenceCodec idleReactor idleReactor nextInstance () () =
        .ok (.transaction req₂) ∧
      req₁.function ∈ vgCalls ∧ req₂.function ∈ vgCalls ∧
      claimerInstance.concern.userAddress = nextInstance.concern.userAddress :=
  have hp : ∀ sub a req, (idleReactor : DApp Unit Unit) sub a () = .ok (.transaction req) →
      req.function ∉ vgCalls := fun _ _ _ h => nomatch h
  have hm : ∀ sub a t req, (idleReactor : DApp Unit U256) sub a t = .ok (.transaction req) →
      req.function ∉ vgCalls := fun _ _ _ _ h => nomatch h
  have hf : "startMachineRunChallenge" ∈ vgCalls := by decide
  ⟨hp, hm, rfl, _, _, rfl, rfl, hf, hf,
    @react_ownMove_same_user Unit divergenceCodec idleReactor idleReactor claimerInstance
      nextInstance () () _ _ hp hm rfl rfl rfl hf hf⟩

def unreadablePartitionCodec : Codec :=
  { divergenceCodec with partition := fun _ => .error (.ofKind (.msg "EOF while parsing a value")) }

theorem react_error_origin_unreadablePartition :
    ∃ e, react unreadablePartitionCodec (fun _ _ _ => .ok .idle) (fun _ _ _ => .ok .idle)
        claimerInstance () () = .error e ∧
      ((∃ cause, unreadablePartitionCodec.vg claimerInstance.jsonData = .error cause ∧
        e = .chain ("Could not parse vg instance json_data: " ++ claimerInstance.jsonData)
          cause) ∨
      (∃ sub rest cause, claimerInstance.subInstances = sub :: rest ∧
        ((unreadablePartitionCodec.partition sub.jsonData = .error cause ∧
            e = .chain ("Could not parse partition instance json_data: " ++
              claimerInstance.jsonData) cause) ∨
          (unreadablePartitionCodec.mm sub.jsonData = .error cause ∧
            e = .chain ("Could not parse mm instance json_data: " ++
              claimerInstance.jsonData) cause))) ∨
      (∃ text, e = .ofKind (.invalidContractState text)) ∨
      (∃ sub rest, claimerInstance.subInstances = sub :: rest ∧
        ((fun _ _ _ => .ok .idle : DApp Unit Unit) sub () () = .error e ∨
          ∃ t, (fun _ _ _ => .ok .idle : DApp Unit U256) sub () t = .error e))) :=
  ⟨_, rfl, react_error_origin unreadablePartitionCodec (fun _ _ _ => .ok .idle)
    (fun _ _ _ => .ok .idle) claimerInstance () rfl⟩

end Dispatcher.Compute.VG
