/-
**The setup relay along every run.**

Every event of the panel and of the worker is one of the listed steps, so the agreement of the runs
and the queue holds along every run of the relay.

Main definitions:

* `HoptalkRelay.SetupRelayOk` — **the invariant of the relay**;
* `HoptalkRelay.SetupRelayMove`, `HoptalkRelay.ExecutionMove` — one step of it.

Main results:

* `HoptalkRelay.SetupRelayOk.step` — a step keeps the invariant;
* `HoptalkRelay.SetupRelayOk.setupStep` — every event is a step;
* `HoptalkRelay.setupRelayOk_of_reachable` — **the invariant holds along every run**.
-/

import HoptalkRelay.Invariants.SetupSteps

set_option relaxedAutoImplicit false
set_option autoImplicit false

namespace HoptalkRelay

open Relational Transition

/-! ### The relay -/

/-- **Between two steps.** -/
structure SetupRelayOk (relay : SetupRelay) : Prop where
  db : SetupOk relay.db
  /-- The run that a retry holds is the one it read. -/
  held : ∀ run, relay.retrying = some run →
    relay.db.runs.get? run.id = some run ∧ run.state = .readingNode
  executing : ∀ execution, relay.execution = some execution → ExecutionOk relay.db execution
  sent : ∀ commandId ∈ relay.resetFramesSent, SentNoted relay.db commandId

/-- The command a handler runs after a step. -/
inductive ExecutionMove (relay : SetupRelay) (db' : SetupDb) (outcome : SetupOutcome) :
    CommandExecution → Prop
  | kept {execution : CommandExecution} (hexecution : relay.execution = some execution)
      (hincomplete : ∀ setupRunId, outcome ≠ .completed setupRunId) :
      ExecutionMove relay db' outcome execution
  | told {execution : CommandExecution} (hexecution : relay.execution = some execution)
      (htold : ∀ setupRunId run, execution.setupRunId = some setupRunId →
        db'.runs.get? setupRunId = some run → run.state.awaitedKind ≠ some execution.kind) :
      ExecutionMove relay db' outcome { execution with outcomeRecorded := true }
  | keyRead {execution : CommandExecution} (hexecution : relay.execution = some execution)
      (hdb : db' = relay.db) :
      ExecutionMove relay db' outcome
        { execution with configuredPublicKey := some (readConfiguredPublicKey relay.db) }
  | claimed {c : NodeCommand} (hc : c ∈ db'.commands) (houtcome : outcome = .claimed c.id) :
      ExecutionMove relay db' outcome
        { commandId := c.id, kind := c.kind, setupRunId := c.setupRunId }

/-- **One step of the relay.** -/
structure SetupRelayMove (relay : SetupRelay) (event : SetupEvent) (relay' : SetupRelay)
    (outcome : SetupOutcome) : Prop where
  db : SetupMove event relay.db relay'.db outcome
  held : ∀ run, relay'.retrying = some run →
    relay'.db.runs.get? run.id = some run ∧ run.state = .readingNode
  executing : ∀ execution, relay'.execution = some execution →
    ExecutionMove relay relay'.db outcome execution
  restores : ∀ setupRunId restoredPublicKey,
    outcome = .restoreStarted setupRunId restoredPublicKey →
      restoredPublicKey ≠ [] ∧ ∃ execution, relay.execution = some execution ∧
        execution.configuredPublicKey = some restoredPublicKey ∧
          execution.outcomeRecorded = false
  sent : ∀ commandId ∈ relay'.resetFramesSent,
    commandId ∈ relay.resetFramesSent ∨ SentNoted relay'.db commandId

section Relay

variable {relay relay' : SetupRelay} {event : SetupEvent} {outcome : SetupOutcome}

/-- **A step keeps the invariant.** -/
theorem SetupRelayOk.step (h : SetupRelayOk relay)
    (hmove : SetupRelayMove relay event relay' outcome) : SetupRelayOk relay' := by
  refine ⟨h.db.step hmove.db, hmove.held, fun execution hexecution => ?_,
    fun commandId hsent => ?_⟩
  · cases hmove.executing execution hexecution with
    | kept hbefore => exact (h.executing _ hbefore).step h.db hmove.db
    | @told execution hbefore htold =>
        have hok := (h.executing _ hbefore).step h.db hmove.db
        refine ⟨hok.old, hok.row, fun _ setupRunId hrun run c hrow _ _ => ?_⟩
        exact htold setupRunId run hrun hrow
    | keyRead hbefore hdb =>
        have hok := (h.executing _ hbefore).step h.db hmove.db
        exact ⟨hok.old, hok.row, hok.told⟩
    | @claimed c hc houtcome =>
        refine ⟨relay'.db.commands.below c hc, fun d hd hid => ?_, fun htold => by cases htold⟩
        rw [Table.eq_of_key_eq hd hc hid]
        exact ⟨rfl, rfl⟩
  · rcases hmove.sent commandId hsent with hsent | hnoted
    · exact (h.sent commandId hsent).grow hmove.db.grows
    · exact hnoted

/-! The parts of a step. -/

theorem not_holds {setupRunId : ℕ} (h : relay.holds setupRunId = false) {run : NodeSetupRun}
    (hheld : relay.retrying = some run) : run.id ≠ setupRunId := by
  simpa [SetupRelay.holds, hheld] using h

theorem not_holdsOneOf {commands : List NodeCommand} (h : relay.holdsOneOf commands = false)
    {run : NodeSetupRun} (hheld : relay.retrying = some run) {c : NodeCommand}
    (hc : c ∈ commands) : c.setupRunId ≠ some run.id := by
  intro hrun
  have hfree := List.any_eq_false.1 h c hc
  rw [hrun] at hfree
  simp [SetupRelay.holds, hheld] at hfree

/-- A step that leaves the run of a retry alone. -/
theorem SetupRelayOk.dbMove (h : SetupRelayOk relay)
    (hmove : SetupMove event relay.db relay'.db outcome)
    (hkept : ∀ run, relay.retrying = some run →
      relay'.db.runs.get? run.id = relay.db.runs.get? run.id)
    (hretrying : relay'.retrying = relay.retrying)
    (hexecuting : ∀ execution, relay'.execution = some execution →
      ExecutionMove relay relay'.db outcome execution)
    (hunrestored : ∀ setupRunId restoredPublicKey,
      outcome ≠ .restoreStarted setupRunId restoredPublicKey)
    (hsent : relay'.resetFramesSent = relay.resetFramesSent) :
    SetupRelayMove relay event relay' outcome := by
  refine ⟨hmove, fun run hrun => ?_, hexecuting,
    fun _ _ houtcome => absurd houtcome (hunrestored _ _), fun id hid => Or.inl (hsent ▸ hid)⟩
  rw [hretrying] at hrun
  obtain ⟨hrow, hstate⟩ := h.held run hrun
  exact ⟨(hkept run hrun).trans hrow, hstate⟩

/-- A transaction of moves. -/
theorem SetupRelayOk.moved (h : SetupRelayOk relay) {touched : Set ℕ} {db' : SetupDb}
    (hmoved : SetupMoved touched relay.db db')
    (hfree : ∀ run, relay.retrying = some run → run.id ∉ touched) :
    SetupRelayMove relay event { relay with db := db' } .done :=
  h.dbMove (.moved hmoved rfl) (fun run hrun => hmoved.rows run.id (hfree run hrun)) rfl
    (fun _ hexecution => .kept hexecution (by simp)) (by simp) rfl

/-- A step without a transaction. -/
theorem SetupRelayOk.idle (h : SetupRelayOk relay) (hplain : outcome.isPlain = true)
    (hdb : relay'.db = relay.db) (hretrying : relay'.retrying = relay.retrying)
    (hexecution : relay'.execution = relay.execution ∨ relay'.execution = none)
    (hsent : relay'.resetFramesSent = relay.resetFramesSent) :
    SetupRelayMove relay event relay' outcome := by
  refine h.dbMove (hdb ▸ .refl hplain) (fun _ _ => by rw [hdb]) hretrying
    (fun execution hexecuting => ?_) (fun _ _ houtcome => ?_) hsent
  · rcases hexecution with hsame | hnone
    · refine .kept (hsame ▸ hexecuting) fun _ houtcome => ?_
      rw [houtcome] at hplain
      cases hplain
    · rw [hnone] at hexecuting
      cases hexecuting
  · rw [houtcome] at hplain
    cases hplain

/-- Nothing happens. -/
theorem SetupRelayOk.wait (h : SetupRelayOk relay) : SetupRelayMove relay event relay .done :=
  h.idle rfl rfl rfl (Or.inl rfl) rfl

/-- A transaction of the panel that commits or is refused. -/
theorem SetupRelayOk.commit (h : SetupRelayOk relay) {α : Type}
    {result : Except SetupError (SetupDb × α)}
    (hmove : ∀ db' a, result = .ok (db', a) → SetupMove event relay.db db' .done ∧
      ∀ run, relay.retrying = some run → db'.runs.get? run.id = relay.db.runs.get? run.id) :
    SetupRelayMove relay event (relay.commit result).1 (relay.commit result).2 := by
  cases hresult : result with
  | error error => exact h.idle rfl rfl rfl (Or.inl rfl) rfl
  | ok pair =>
      obtain ⟨hdb, hkept⟩ := hmove pair.1 pair.2 hresult
      exact h.dbMove hdb hkept rfl
        (fun _ hexecution => .kept hexecution (by simp [SetupRelay.commit]))
        (by simp [SetupRelay.commit]) rfl

/-! The panel and the worker between two commands. -/

theorem lockRunToRetry_eq_ok {db : SetupDb} {setupRunId : ℕ} {run : NodeSetupRun}
    (h : lockRunToRetry db setupRunId = .ok run) :
    db.runs.get? setupRunId = some run ∧ run.state = .readingNode := by
  unfold lockRunToRetry at h
  simp only [bind, Except.bind, pure, Except.pure, throw, throwThe, MonadExceptOf.throw] at h
  split at h
  · cases h
  · next run' hlock =>
      split at h
      · cases h
      · next hrequire =>
          split at h
          · cases h
          · obtain rfl := Except.ok.inj h
            exact ⟨lockSetupRun_eq_ok hlock, requireSetupRunState_eq_ok hrequire⟩

theorem SetupRelayOk.claim (h : SetupRelayOk relay) (lockedElsewhere : List ℕ)
    (workerInstanceId : ℕ) (now : Time) :
    SetupRelayMove relay (.claimNextNodeCommand lockedElsewhere workerInstanceId now)
      (setupQueueStep relay (.claimNextNodeCommand lockedElsewhere workerInstanceId now)).1
      (setupQueueStep relay (.claimNextNodeCommand lockedElsewhere workerInstanceId now)).2 := by
  simp only [setupQueueStep]
  split
  · exact h.wait
  · next hguard =>
      obtain ⟨hnone, hfree⟩ := not_or.1 hguard
      have hmoved := @expirePendingNodeCommands_moved relay.db now lockedElsewhere
      have hkept : ∀ run, relay.retrying = some run →
          run.id ∉ {r | ∃ c ∈ expiredPendingCommands relay.db lockedElsewhere now,
            c.setupRunId = some r} := fun run hrun ⟨c, hc, hcRun⟩ =>
        not_holdsOneOf (Bool.eq_false_iff.2 hfree) hrun hc hcRun
      rcases claimNextNodeCommand_cases relay.db lockedElsewhere workerInstanceId now with
        hresult | ⟨c, hc, hpending, htime, hidle, hresult⟩
      · rw [hresult]
        exact h.moved hmoved hkept
      · rw [hresult]
        have hclaimed : c.claimed workerInstanceId now ∈
            ((expirePendingNodeCommands relay.db lockedElsewhere now).putCommand
              (c.claimed workerInstanceId now)).commands := Table.mem_put_self hc rfl
        refine h.dbMove (.claimed rfl hmoved hc hpending htime hidle)
          (fun run hrun => hmoved.rows run.id (hkept run hrun)) rfl
          (fun execution hexecution => ?_) (by simp) rfl
        obtain rfl := Option.some.inj hexecution
        exact .claimed hclaimed rfl

/-! The worker's handlers. -/

/-- A transaction of a handler that commits, waits for the run or is refused. -/
theorem SetupRelayOk.report (h : SetupRelayOk relay) {setupRunId : ℕ}
    {execution : CommandExecution} {result : Except SetupError SetupDb}
    (hmove : ∀ db', result = .ok db' → SetupMove event relay.db db' outcome ∧
      (∀ other, other ≠ setupRunId → db'.runs.get? other = relay.db.runs.get? other) ∧
        ExecutionMove relay db' outcome execution)
    (hrestores : ∀ setupRunId restoredPublicKey,
      outcome = .restoreStarted setupRunId restoredPublicKey →
        restoredPublicKey ≠ [] ∧ ∃ execution, relay.execution = some execution ∧
          execution.configuredPublicKey = some restoredPublicKey ∧
            execution.outcomeRecorded = false) :
    SetupRelayMove relay event (relay.report execution setupRunId result outcome).1
      (relay.report execution setupRunId result outcome).2 := by
  unfold SetupRelay.report
  split
  · exact h.wait
  · next hfree =>
      split
      · next db' =>
          obtain ⟨hdb, hothers, hexecution⟩ := hmove db' rfl
          refine ⟨hdb, fun run hrun => ?_, fun other hother => ?_, hrestores,
            fun _ hid => Or.inl hid⟩
          · obtain ⟨hrow, hstate⟩ := h.held run hrun
            exact ⟨(hothers run.id (not_holds (Bool.eq_false_iff.2 hfree) hrun)).trans hrow, hstate⟩
          · obtain rfl := Option.some.inj hother
            exact hexecution
      · exact h.idle rfl rfl rfl (Or.inl rfl) rfl

section Handler

variable {execution : CommandExecution}

theorem SetupRelayOk.informationRead (h : SetupRelayOk relay)
    (hexecution : relay.execution = some execution) (readInformation : NodeInformation)
    (now : Time) :
    SetupRelayMove relay (.recordNodeInformationRead readInformation now)
      (executionStep relay execution (.recordNodeInformationRead readInformation now)).1
      (executionStep relay execution (.recordNodeInformationRead readInformation now)).2 := by
  unfold executionStep
  dsimp only
  split
  · next hkind hrun =>
      refine h.dbMove (.refl rfl) (fun _ _ => rfl) rfl (fun other hother => ?_) (by simp) rfl
      obtain rfl := Option.some.inj hother
      refine .told hexecution fun setupRunId run hrun' => ?_
      rw [hrun] at hrun'
      cases hrun'
  · next setupRunId hkind hrun =>
      refine h.report (fun db' hresult => ?_) (by simp)
      obtain ⟨hmoved, hnot⟩ := recordNodeInformationRead_moved hresult
      refine ⟨.moved hmoved rfl, fun other hne => hmoved.rows other hne,
        .told hexecution fun other run hother hrow => ?_⟩
      obtain rfl := Option.some.inj (hrun.symm.trans hother)
      rw [hkind]
      exact hnot run hrow
  · exact h.wait

theorem SetupRelayOk.resetSucceeded (h : SetupRelayOk relay)
    (hexecution : relay.execution = some execution) (newPublicKey : Text) (now : Time) :
    SetupRelayMove relay (.recordFactoryResetSucceeded newPublicKey now)
      (executionStep relay execution (.recordFactoryResetSucceeded newPublicKey now)).1
      (executionStep relay execution (.recordFactoryResetSucceeded newPublicKey now)).2 := by
  unfold executionStep
  dsimp only
  split
  · next setupRunId hkind hrun =>
      refine h.report (fun db' hresult => ?_) (by simp)
      obtain ⟨hmoved, hnone⟩ := recordFactoryResetSucceeded_moved hresult
      refine ⟨.moved hmoved rfl, fun other hne => hmoved.rows other hne,
        .told hexecution fun other run hother hrow => ?_⟩
      obtain rfl := Option.some.inj (hrun.symm.trans hother)
      rw [hnone run hrow]
      simp
  · exact h.wait

theorem SetupRelayOk.restoreStarted (h : SetupRelayOk relay)
    (hexecution : relay.execution = some execution) :
    SetupRelayMove relay .recordIdentityRestoreStarted
      (executionStep relay execution .recordIdentityRestoreStarted).1
      (executionStep relay execution .recordIdentityRestoreStarted).2 := by
  unfold executionStep
  dsimp only
  split
  · next setupRunId configuredPublicKey hkind hrun hkey =>
      split
      · exact h.wait
      · next hguard =>
          obtain ⟨htold, hne⟩ := not_or.1 hguard
          refine h.report (fun db' hresult => ?_) fun other key houtcome => ?_
          · obtain ⟨run, hreported, hstate⟩ := recordIdentityRestoreStarted_reported hresult
            exact ⟨.restored hreported hstate,
              fun other hne => congrArg Prod.fst (hreported.others other hne),
              .kept hexecution (by simp)⟩
          · obtain ⟨rfl, rfl⟩ := SetupOutcome.restoreStarted.inj houtcome
            exact ⟨hne, execution, hexecution, hkey, Bool.eq_false_iff.2 htold⟩
  · exact h.wait

theorem SetupRelayOk.configurationCompleted (h : SetupRelayOk relay)
    (hexecution : relay.execution = some execution) (nodeConfiguration : NodeConfiguration)
    (now : Time) (nodeIdentityBackup : Option NodeIdentityBackup) :
    SetupRelayMove relay (.recordConfigurationCompleted nodeConfiguration now nodeIdentityBackup)
      (executionStep relay execution
        (.recordConfigurationCompleted nodeConfiguration now nodeIdentityBackup)).1
      (executionStep relay execution
        (.recordConfigurationCompleted nodeConfiguration now nodeIdentityBackup)).2 := by
  unfold executionStep
  dsimp only
  split
  · next setupRunId hkind hrun =>
      refine h.report (fun db' hresult => ?_) (by simp)
      obtain ⟨run, hreplaced, hstate, -⟩ := recordConfigurationCompleted_replaced hresult
      refine ⟨.completed hreplaced hstate,
        fun other hne => congrArg Prod.fst (hreplaced.others other hne),
        .told hexecution fun other run' hother hrow => ?_⟩
      obtain rfl := Option.some.inj (hrun.symm.trans hother)
      obtain rfl := Option.some.inj (hreplaced.row'.symm.trans hrow)
      exact fun hawaited => by cases hawaited
  · exact h.wait

/-- The frame is given to the node only once the progress names it. -/
theorem SetupRelayOk.resetFrameSent (h : SetupRelayOk relay)
    (hexecution : relay.execution = some execution) :
    SetupRelayMove relay .sendResetFrame (executionStep relay execution .sendResetFrame).1
      (executionStep relay execution .sendResetFrame).2 := by
  unfold executionStep
  dsimp only
  split
  · next hguard =>
      refine ⟨.refl rfl, h.held, fun _ hexecuting => .kept hexecuting (by simp), by simp,
        fun commandId hsent => ?_⟩
      rcases List.mem_cons.1 hsent with rfl | hsent
      · refine Or.inr ⟨(h.executing execution hexecution).old, fun c hc hid => ?_⟩
        have hrow : relay.db.commands.get? execution.commandId = some c :=
          hid ▸ Table.get?_key hc
        simpa [hrow] using hguard.2
      · exact Or.inl hsent
  · exact h.wait

/-- A run awaits only the commands of the wizard. -/
theorem SetupRunState.mem_of_awaitedKind {state : SetupRunState} {kind : NodeCommandKind}
    (h : state.awaitedKind = some kind) : kind ∈ setupCommandKinds := by
  cases state <;> cases h <;> decide

theorem SetupRelayOk.finished (h : SetupRelayOk relay)
    (hexecution : relay.execution = some execution) (commandEnd : CommandEnd) (now : Time)
    (errorMessage : Text) :
    SetupRelayMove relay (.finishNodeCommand commandEnd now errorMessage)
      (executionStep relay execution (.finishNodeCommand commandEnd now errorMessage)).1
      (executionStep relay execution (.finishNodeCommand commandEnd now errorMessage)).2 := by
  have hok := h.executing execution hexecution
  have hfinish : ∀ {touched : Set ℕ} {db' : SetupDb}, SetupMoved touched relay.db db' →
      (∀ run, relay.retrying = some run → run.id ∉ touched) →
      SetupRelayMove relay (.finishNodeCommand commandEnd now errorMessage)
        { relay with db := db', execution := none } .done := fun hmoved hfree =>
    h.dbMove (.moved hmoved rfl) (fun run hrun => hmoved.rows run.id (hfree run hrun)) rfl
      (fun _ hnone => by cases hnone) (by simp) rfl
  unfold executionStep
  dsimp only
  split
  · split
    · exact h.wait
    · next hguard =>
        refine hfinish (finishNodeCommand_succeeded_moved
          fun c hc hid r run hrun hlatest hrow => ?_) fun _ _ => Set.notMem_empty _
        obtain ⟨hkind, hcRun⟩ := hok.row c hc hid
        intro hawaited
        have hsetup := SetupRunState.mem_of_awaitedKind hawaited
        have htold : execution.outcomeRecorded = true := by
          by_contra hnot
          exact hguard ⟨hkind ▸ hsetup, Bool.eq_false_iff.2 hnot⟩
        exact hok.told htold r (hcRun ▸ hrun) run c hrow hlatest hid (hkind ▸ hawaited)
  · next hend =>
      split
      · exact h.wait
      · next hfree =>
          refine hfinish (finishNodeCommand_moved hend execution.commandId errorMessage)
            fun run hrun ⟨c, hc, hid, hcRun⟩ => ?_
          have hrunId := (hok.row c hc hid).2.symm.trans hcRun
          rw [hrunId, Option.any_some] at hfree
          exact not_holds (Bool.eq_false_iff.2 hfree) hrun rfl

/-- **What the handler of a command does.** -/
theorem SetupRelayOk.executionStep (h : SetupRelayOk relay)
    (hexecution : relay.execution = some execution) (event : SetupEvent) :
    SetupRelayMove relay event (executionStep relay execution event).1
      (executionStep relay execution event).2 := by
  cases event with
  | recordNodeCommandProgress progressStep =>
      exact h.moved (recordNodeCommandProgress_moved _ _) fun _ _ => Set.notMem_empty _
  | recordNodeInformationRead readInformation now =>
      exact h.informationRead hexecution readInformation now
  | sendResetFrame => exact h.resetFrameSent hexecution
  | recordFactoryResetSucceeded newPublicKey now =>
      exact h.resetSucceeded hexecution newPublicKey now
  | readConfiguredPublicKey =>
      unfold HoptalkRelay.executionStep
      dsimp only
      split
      · refine h.dbMove (.refl rfl) (fun _ _ => rfl) rfl (fun other hother => ?_) (by simp) rfl
        obtain rfl := Option.some.inj hother
        exact .keyRead hexecution rfl
      · exact h.wait
  | recordIdentityRestoreStarted => exact h.restoreStarted hexecution
  | recordConfigurationCompleted nodeConfiguration now nodeIdentityBackup =>
      exact h.configurationCompleted hexecution nodeConfiguration now nodeIdentityBackup
  | finishNodeCommand commandEnd now errorMessage =>
      exact h.finished hexecution commandEnd now errorMessage
  | _ => exact h.wait

end Handler

/-! The steps. -/

/-- **What the panel does, and the worker between two commands.** -/
theorem SetupRelayOk.setupQueueStep (h : SetupRelayOk relay) (event : SetupEvent) :
    SetupRelayMove relay event (setupQueueStep relay event).1 (setupQueueStep relay event).2 := by
  cases event with
  | startSetupRun now =>
      refine h.commit fun db' run hresult => ?_
      have hmoved := startSetupRun_moved hresult
      refine ⟨.moved hmoved rfl, fun held hheld => hmoved.rows held.id ?_⟩
      have hrow := (h.held held hheld).1
      exact Nat.ne_of_lt (Table.lt_nextKey_of_isSome (Option.isSome_iff_exists.2 ⟨held, hrow⟩))
  | retryReadingNode setupRunId =>
      simp only [HoptalkRelay.setupQueueStep]
      split
      · exact h.wait
      · split
        · next setupRun hlock =>
            obtain ⟨hrow, hstate⟩ := lockRunToRetry_eq_ok hlock
            refine ⟨.refl rfl, fun run hrun => ?_, fun _ hexecuting => .kept hexecuting (by simp),
              by simp, fun _ hid => Or.inl hid⟩
            obtain rfl := Option.some.inj hrun
            have hid : setupRun.id = setupRunId := Table.key_of_get? hrow
            exact ⟨hid.symm ▸ hrow, hstate⟩
        · exact h.idle rfl rfl rfl (Or.inl rfl) rfl
  | retryCommitted now =>
      simp only [HoptalkRelay.setupQueueStep]
      split
      · exact h.wait
      · next setupRun hheld =>
          obtain ⟨hrow, hstate⟩ := h.held setupRun hheld
          refine ⟨.moved (retryReadingNode_moved hrow hstate) rfl, fun run hrun => ?_,
            fun _ hexecuting => .kept hexecuting (by simp), by simp, fun _ hid => Or.inl hid⟩
          cases hrun
  | confirmFactoryReset setupRunId typedConfirmation now =>
      simp only [HoptalkRelay.setupQueueStep]
      split
      · exact h.wait
      · next hfree =>
          refine h.commit fun db' command hresult => ?_
          have hmoved := confirmFactoryReset_moved hresult
          exact ⟨.moved hmoved rfl, fun held hheld =>
            hmoved.rows held.id (not_holds (Bool.eq_false_iff.2 hfree) hheld)⟩
  | submitNodeConfiguration setupRunId requestedConfiguration now =>
      simp only [HoptalkRelay.setupQueueStep]
      split
      · exact h.wait
      · next hfree =>
          refine h.commit fun db' command hresult => ?_
          have hmoved := submitNodeConfiguration_moved hresult
          exact ⟨.moved hmoved rfl, fun held hheld =>
            hmoved.rows held.id (not_holds (Bool.eq_false_iff.2 hfree) hheld)⟩
  | cancelSetupRun setupRunId now =>
      simp only [HoptalkRelay.setupQueueStep]
      split
      · exact h.wait
      · next hfree =>
          refine h.commit fun db' _ hresult => ?_
          cases hcancel : cancelSetupRun relay.db setupRunId now with
          | error error =>
              rw [hcancel] at hresult
              cases hresult
          | ok db₁ =>
              rw [hcancel] at hresult
              obtain rfl := (Prod.mk.inj (Except.ok.inj hresult)).1
              obtain ⟨run, hreplaced, hstate, hkept⟩ := cancelSetupRun_replaced hcancel
              exact ⟨.cancelled rfl hreplaced hstate hkept, fun held hheld =>
                congrArg Prod.fst (hreplaced.others held.id
                  (not_holds (Bool.eq_false_iff.2 hfree) hheld))⟩
  | createNodeCommand kind now =>
      exact h.moved (createNodeCommand_moved kind) fun _ _ => Set.notMem_empty _
  | expirePendingNodeCommands lockedElsewhere now =>
      simp only [HoptalkRelay.setupQueueStep]
      split
      · exact h.wait
      · next hfree =>
          exact h.moved (expirePendingNodeCommands_moved lockedElsewhere)
            fun run hrun ⟨c, hc, hcRun⟩ =>
              not_holdsOneOf (Bool.eq_false_iff.2 hfree) hrun hc hcRun
  | deleteOldNodeCommands now =>
      simp only [HoptalkRelay.setupQueueStep]
      split
      · exact h.wait
      · next hkept =>
          exact h.moved (deleteOldNodeCommands_moved (Bool.eq_false_iff.2 hkept))
            fun _ _ => Set.notMem_empty _
  | claimNextNodeCommand lockedElsewhere workerInstanceId now =>
      exact h.claim lockedElsewhere workerInstanceId now
  | executorStops => exact h.idle rfl rfl rfl (Or.inr rfl) rfl
  | processStops => exact h.idle rfl rfl rfl (Or.inr rfl) rfl
  | interruptRunningNodeCommands now =>
      simp only [HoptalkRelay.setupQueueStep]
      split
      · exact h.wait
      · next hguard =>
          obtain ⟨-, hfree⟩ := not_or.1 hguard
          exact h.moved interruptRunningNodeCommands_moved fun run hrun ⟨c, hc, hcRun⟩ =>
            not_holdsOneOf (Bool.eq_false_iff.2 hfree) hrun hc hcRun
  | interruptLeftNodeCommand nodeCommandId now errorMessage =>
      simp only [HoptalkRelay.setupQueueStep]
      split
      · exact h.wait
      · next hguard =>
          obtain ⟨-, hfree⟩ := not_or.1 hguard
          exact h.moved (finishNodeCommand_moved (by simp) nodeCommandId errorMessage)
            fun run hrun ⟨c, hc, hid, hcRun⟩ => not_holdsOneOf (Bool.eq_false_iff.2 hfree) hrun
              (Table.mem_filter.2 ⟨hc, decide_eq_true hid⟩) hcRun
  | readModeInputs =>
      simp only [HoptalkRelay.setupQueueStep]
      split
      · exact h.idle rfl rfl rfl (Or.inl rfl) rfl
      · exact h.idle rfl rfl rfl (Or.inl rfl) rfl
  | _ =>
      cases hrunning : relay.execution with
      | none =>
          simp only [HoptalkRelay.setupQueueStep, hrunning]
          exact h.wait
      | some execution =>
          simp only [HoptalkRelay.setupQueueStep, hrunning]
          exact h.executionStep hrunning _

/-- **Every step of the relay is one of these.** -/
theorem SetupRelayOk.setupStep (h : SetupRelayOk relay) (event : SetupEvent) :
    SetupRelayMove relay event (setupStep relay event).1 (setupStep relay event).2 := by
  unfold HoptalkRelay.setupStep
  split
  · exact h.wait
  · exact h.setupQueueStep event

theorem setupRelayOk_start (contacts : Table Contact) : SetupRelayOk (.start contacts) := by
  refine ⟨setupOk_empty contacts, fun run hrun => ?_, fun execution hexecution => ?_,
    fun commandId hsent => ?_⟩
  · cases hrun
  · cases hexecution
  · cases hsent

/-- **The invariant holds along every run.** -/
theorem setupRelayOk_of_reachable {contacts : Table Contact}
    (h : (setupRelay contacts).Reachable relay) : SetupRelayOk relay := by
  obtain ⟨history, run⟩ := h
  exact run.invariant' (setupRelayOk_start contacts) fun relay event hok =>
    hok.step (hok.setupStep event)

end Relay

end HoptalkRelay
