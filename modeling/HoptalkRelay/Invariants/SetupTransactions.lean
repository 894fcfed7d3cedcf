/-
**The transactions of the setup wizard.**

What each transaction does to every run, to the commands and to the configuration.  A transaction
that cancels a run, completes one or begins a restore replaces the row of that run; every other one
makes moves that are listed for a run and its latest command.

Main definitions:

* `HoptalkRelay.SetupMoved` — a transaction of moves, and the runs whose rows it may touch;
* `HoptalkRelay.RowReplaced`, `HoptalkRelay.Reported` — the row of one run changes.

Main results:

* `HoptalkRelay.startSetupRun_moved`, `HoptalkRelay.retryReadingNode_moved`,
  `HoptalkRelay.confirmFactoryReset_moved`, `HoptalkRelay.submitNodeConfiguration_moved`,
  `HoptalkRelay.cancelSetupRun_replaced` — the operator;
* `HoptalkRelay.recordNodeInformationRead_moved`, `HoptalkRelay.recordFactoryResetSucceeded_moved`,
  `HoptalkRelay.recordIdentityRestoreStarted_reported`,
  `HoptalkRelay.recordConfigurationCompleted_replaced` — the worker's reports;
* `HoptalkRelay.finishNodeCommand_moved`, `HoptalkRelay.finishNodeCommand_succeeded_moved`,
  `HoptalkRelay.expirePendingNodeCommands_moved`, `HoptalkRelay.deleteOldNodeCommands_moved` — the
  queue;
* `HoptalkRelay.claimNextNodeCommand_cases` — **the claim**.
-/

import HoptalkRelay.Invariants.SetupMoves

set_option relaxedAutoImplicit false
set_option autoImplicit false

namespace HoptalkRelay

open Relational

/-! ### What one transaction does -/

/-- The configuration stays, and the ids of new runs grow. -/
structure SetupKept (db db' : SetupDb) : Prop where
  configuration : db'.nodeConfiguration = db.nodeConfiguration
  nextRun : db.runs.nextKey ≤ db'.runs.nextKey

theorem SetupKept.trans {db db' db'' : SetupDb} (h : SetupKept db db')
    (h' : SetupKept db' db'') : SetupKept db db'' :=
  ⟨h'.configuration.trans h.configuration, h.nextRun.trans h'.nextRun⟩

/-- **A transaction** that cancels no run, completes none and begins no restore. -/
structure SetupMoved (touched : Set ℕ) (db db' : SetupDb) : Prop where
  rows : ∀ setupRunId, setupRunId ∉ touched → db'.runs.get? setupRunId = db.runs.get? setupRunId
  views : ∀ setupRunId, ViewMove db.commands.nextKey (db.view setupRunId) (db'.view setupRunId)
  started : ∀ setupRunId, db.runs.get? setupRunId = none → (db'.runs.get? setupRunId).isSome →
    setupRunId = db.runs.nextKey ∧ ∀ run ∈ db.runs, run.isActive = false
  commands : CommandsFollow db db'
  kept : SetupKept db db'

section Transactions

variable {touched : Set ℕ} {db db' : SetupDb} {setupRunId : ℕ} {run : NodeSetupRun}
  {command : NodeCommand} {now : Time}

/-- A transaction that starts no run. -/
theorem SetupMoved.of_runs (hrows : ∀ setupRunId, setupRunId ∉ touched →
      db'.runs.get? setupRunId = db.runs.get? setupRunId)
    (hviews : ∀ setupRunId,
      ViewMove db.commands.nextKey (db.view setupRunId) (db'.view setupRunId))
    (hruns : ∀ setupRunId, db.runs.get? setupRunId = none → db'.runs.get? setupRunId = none)
    (hcommands : CommandsFollow db db')
    (hkept : SetupKept db db') :
    SetupMoved touched db db' := by
  refine ⟨hrows, hviews, fun setupRunId hnone hsome => ?_, hcommands, hkept⟩
  rw [hruns setupRunId hnone] at hsome
  cases hsome

theorem get?_putRun_none {setupRun : NodeSetupRun} (hnone : db.runs.get? setupRunId = none) :
    (db.putRun setupRun).runs.get? setupRunId = none := by
  unfold SetupDb.putRun
  rw [Table.get?_put, hnone]
  split <;> rfl

theorem SetupMoved.refl (touched : Set ℕ) (db : SetupDb) : SetupMoved touched db db :=
  .of_runs (fun _ _ => rfl) (fun _ => .refl _ _) (fun _ h => h) (.refl db)
    ⟨rfl, le_rfl⟩

/-- Nothing but the commands of one run has changed. -/
structure OwnCommandsMoved (db db' : SetupDb) (setupRunId : ℕ) : Prop where
  runs : db'.runs = db.runs
  commands : CommandsFollow db db'
  others : ∀ other, other ≠ setupRunId →
    findLatestSetupRunCommand db' other = findLatestSetupRunCommand db other

theorem OwnCommandsMoved.of_eq (hruns : db'.runs = db.runs) (hcommands : db'.commands = db.commands)
    (setupRunId : ℕ) : OwnCommandsMoved db db' setupRunId := by
  refine ⟨hruns, .of_eq hcommands, fun other _ => ?_⟩
  unfold findLatestSetupRunCommand SetupDb.commandsOf
  rw [hcommands]

/-- **The row of one run changes**, and no other run's view. -/
structure RowReplaced (db db' : SetupDb) (setupRunId : ℕ) (run run' : NodeSetupRun) : Prop where
  row : db.runs.get? setupRunId = some run
  row' : db'.runs.get? setupRunId = some run'
  others : ∀ other, other ≠ setupRunId → db'.view other = db.view other
  commands : CommandsFollow db db'

theorem RowReplaced.of_put {run' : NodeSetupRun} (hmoved : OwnCommandsMoved db db' setupRunId)
    (hrow : db.runs.get? setupRunId = some run) (hid : run'.id = run.id) :
    RowReplaced db (db'.putRun run') setupRunId run run' := by
  have hrunId : run.id = setupRunId := Table.key_of_get? hrow
  subst hrunId
  have hrow' : db'.runs.get? run'.id = some run := by rw [hmoved.runs, hid, hrow]
  refine ⟨hrow, ?_, fun other hne => ?_, hmoved.commands.trans (.of_eq rfl)⟩
  · have hview : (db'.putRun run').view run.id = _ := view_putRun hrow'
    rw [if_pos hid.symm] at hview
    exact congrArg Prod.fst hview
  · rw [view_putRun hrow', if_neg fun heq => hne (heq.trans hid)]
    exact Prod.ext (congrArg (·.get? other) hmoved.runs) (hmoved.others other hne)

/-- **A run gets a new command.** -/
theorem setupMoved_ask {run' : NodeSetupRun} {kind : NodeCommandKind}
    (hmoved : OwnCommandsMoved db db' setupRunId) (hrow : db.runs.get? setupRunId = some run)
    (hid : run'.id = run.id) (hchange : RunAsks run kind run')
    (hkept : SetupKept db db') :
    SetupMoved {setupRunId} db
      (createNodeCommand (db'.putRun run') kind now (some run.id)).1 := by
  have hrunId : run.id = setupRunId := Table.key_of_get? hrow
  subst hrunId
  have hrow' : db'.runs.get? run'.id = some run := by rw [hmoved.runs, hid, hrow]
  have hput : CommandsFollow db (db'.putRun run') := hmoved.commands.trans (.of_eq rfl)
  refine .of_runs (fun other hne => ?_) (fun other => ?_)
    (fun _ h => get?_putRun_none (hmoved.runs ▸ h)) (hput.trans (commandsFollow_create _ _ _))
    ⟨hkept.configuration, hkept.nextRun⟩
  · have hother : other ≠ run'.id := fun heq => hne (heq.trans hid)
    show (db'.putRun run').runs.get? other = _
    rw [SetupDb.putRun, Table.get?_put, key_setupRun, if_neg hother, hmoved.runs]
  · rw [view_createNodeCommand, view_putRun hrow']
    by_cases heq : other = run.id
    · subst heq
      rw [if_pos hid.symm, if_pos rfl, show db.view run.id = (some run, _) from Prod.ext hrow rfl]
      exact .asked hchange now _ hmoved.commands.nextKey
    · rw [if_neg fun h => heq (h.trans hid), if_neg fun h => heq (Option.some.inj h).symm]
      rw [show ((db'.view other).1, (db'.view other).2) = db.view other from
        Prod.ext (congrArg (·.get? other) hmoved.runs) (hmoved.others other heq)]
      exact .refl _ _

/-! ### The operator -/

/-- **A run starts** where none is active. -/
theorem setupMoved_start (purpose : SetupRunPurpose)
    (hinactive : ∀ run ∈ db.runs, run.isActive = false) :
    SetupMoved {db.runs.nextKey} db (createNodeCommand (createSetupRun db purpose now).1
      .readNodeInformation now (some db.runs.nextKey)).1 := by
  have hget : ∀ r, (createSetupRun db purpose now).1.runs.get? r =
      if r = db.runs.nextKey then some (buildSetupRun purpose now r) else db.runs.get? r :=
    fun r => Table.get?_insert (h := fun _ => rfl) r
  have hcreated : CommandsFollow db (createSetupRun db purpose now).1 := .of_eq rfl
  refine ⟨fun r hr => (hget r).trans (if_neg hr), fun r => ?_,
    fun r hnone hsome => ⟨?_, hinactive⟩, hcreated.trans (commandsFollow_create _ _ _),
    ⟨rfl, Nat.le_succ _⟩⟩
  · rw [view_createNodeCommand]
    by_cases hr : r = db.runs.nextKey
    · subst hr
      rw [if_pos rfl, show db.view db.runs.nextKey = (none, _) from
          Prod.ext (Table.get?_nextKey _) rfl,
        show ((createSetupRun db purpose now).1.view db.runs.nextKey).1 = _ from
          (hget _).trans (if_pos rfl)]
      exact .started purpose now _ _ le_rfl
    · rw [if_neg fun h => hr (Option.some.inj h).symm,
        show ((createSetupRun db purpose now).1.view r).1 = _ from (hget r).trans (if_neg hr)]
      exact .refl _ _
  · by_contra hr
    rw [show (createNodeCommand (createSetupRun db purpose now).1 .readNodeInformation now
        (some db.runs.nextKey)).1.runs.get? r = _ from (hget r).trans (if_neg hr), hnone] at hsome
    cases hsome

theorem startSetupRun_eq_ok {result : SetupDb × NodeSetupRun}
    (h : startSetupRun db now = .ok result) : (∀ run ∈ db.runs, run.isActive = false) ∧
      ∃ purpose, result.1 = (createNodeCommand (createSetupRun db purpose now).1
        .readNodeInformation now (some db.runs.nextKey)).1 := by
  unfold startSetupRun at h
  dsimp only at h
  split at h
  · cases h
  · next hidle =>
      obtain rfl := Except.ok.inj h
      exact ⟨Table.any_eq_false.1 (Bool.not_eq_true _ ▸ hidle), _, rfl⟩

theorem startSetupRun_moved {result : SetupDb × NodeSetupRun}
    (h : startSetupRun db now = .ok result) : SetupMoved {db.runs.nextKey} db result.1 := by
  obtain ⟨hinactive, purpose, heq⟩ := startSetupRun_eq_ok h
  rw [heq]
  exact setupMoved_start purpose hinactive

theorem lockSetupRun_eq_ok (h : lockSetupRun db setupRunId = .ok run) :
    db.runs.get? setupRunId = some run := by
  unfold lockSetupRun at h
  split at h
  · next hrow => rw [hrow, Except.ok.inj h]
  · cases h

theorem requireSetupRunState_eq_ok {requiredState : SetupRunState} {u : Unit}
    (h : requireSetupRunState run requiredState = .ok u) : run.state = requiredState := by
  unfold requireSetupRunState at h
  split at h
  · cases h
  · next hstate => exact not_not.1 hstate

/-- One of a run's commands is cancelled. -/
theorem cancelNodeCommand_moved (hcommand : command ∈ db.commands)
    (hrun : command.setupRunId = some setupRunId) :
    OwnCommandsMoved db (cancelNodeCommand db command.id now) setupRunId := by
  refine ⟨rfl, ?_, fun other hne => ?_⟩
  · refine commandsFollow_update fun r _ _ => ⟨rfl, rfl, rfl, rfl, ?_, ?_, fun h => h⟩
    · exact fun h => by cases h
    · exact fun h => by cases h
  · refine (latest_updateWhere
      (f := fun row => { row with state := .cancelled, finishedAt := some now })
      fun _ _ => rfl).trans ?_
    cases hlatest : findLatestSetupRunCommand db other with
    | none => rfl
    | some c =>
        obtain ⟨hc, hother⟩ := mem_of_latest hlatest
        have hid : c.id ≠ command.id := by
          intro heq
          rw [Table.eq_of_key_eq hc hcommand heq, hrun] at hother
          exact hne (Option.some.inj hother).symm
        simp [hid]

/-- The other commands keep their run, whatever is cancelled. -/
theorem exists_mem_cancelNodeCommand (nodeCommandId : ℕ) {c : NodeCommand}
    (hc : c ∈ db.commands) : ∃ c' ∈ (cancelNodeCommand db nodeCommandId now).commands,
      c'.id = c.id ∧ c'.setupRunId = c.setupRunId := by
  unfold cancelNodeCommand
  refine ⟨_, (Table.mem_updateWhere (f := fun row : NodeCommand =>
    { row with state := .cancelled, finishedAt := some now }) (h := fun _ _ => rfl)).2
      ⟨c, hc, rfl⟩, ?_⟩
  split <;> exact ⟨rfl, rfl⟩

/-- **The pending commands of a run are cancelled.** -/
theorem cancelPendingSetupRunCommands_moved (db : SetupDb) (setupRunId : ℕ) (now : Time) :
    OwnCommandsMoved db (cancelPendingSetupRunCommands db setupRunId now) setupRunId := by
  have hids : ∀ id ∈ ((db.commandsOf setupRunId).filter fun row => row.state = .pending).map
      NodeCommand.id, ∃ c ∈ db.commands, c.id = id ∧ c.setupRunId = some setupRunId := by
    intro id hid
    obtain ⟨c, hc, rfl⟩ := List.mem_map.1 hid
    obtain ⟨hmem, hrun⟩ := mem_commandsOf.1 (List.mem_filter.1 hc).1
    exact ⟨c, hmem, rfl, hrun⟩
  unfold cancelPendingSetupRunCommands
  generalize ((db.commandsOf setupRunId).filter fun row => row.state = .pending).map
    NodeCommand.id = ids at hids
  induction ids generalizing db with
  | nil => exact .of_eq rfl rfl setupRunId
  | cons id ids ih =>
      obtain ⟨command, hcommand, rfl, hrun⟩ := hids id List.mem_cons_self
      have hone : OwnCommandsMoved db (cancelNodeCommand db command.id now) setupRunId :=
        cancelNodeCommand_moved hcommand hrun
      have hrest := ih (cancelNodeCommand db command.id now) fun other hother => by
        obtain ⟨c, hc, hid, hrun⟩ := hids other (List.mem_cons_of_mem _ hother)
        obtain ⟨c', hc', hid', hrun'⟩ := exists_mem_cancelNodeCommand command.id hc
        exact ⟨c', hc', hid'.trans hid, hrun'.trans hrun⟩
      exact ⟨hrest.runs.trans hone.runs, hone.commands.trans hrest.commands,
        fun other hne => (hrest.others other hne).trans (hone.others other hne)⟩

theorem cancelPendingSetupRunCommands_kept (db : SetupDb) (setupRunId : ℕ) (now : Time) :
    SetupKept db (cancelPendingSetupRunCommands db setupRunId now) := by
  unfold cancelPendingSetupRunCommands
  induction ((db.commandsOf setupRunId).filter fun row => row.state = .pending).map NodeCommand.id
    generalizing db with
  | nil => exact ⟨rfl, le_rfl⟩
  | cons id ids ih =>
      have hone : SetupKept db (cancelNodeCommand db id now) := ⟨rfl, le_rfl⟩
      exact hone.trans (ih _)

/-- **The "Retry" button** on the run as it was locked. -/
theorem retryReadingNode_moved (hrow : db.runs.get? setupRunId = some run)
    (hstate : run.state = .readingNode) :
    SetupMoved {setupRunId} db (retryReadingNode db run now).1 := by
  have hrunId : run.id = setupRunId := Table.key_of_get? hrow
  subst hrunId
  exact setupMoved_ask (cancelPendingSetupRunCommands_moved db run.id now) hrow
    (show NodeSetupRun.id { run with lastError := [] } = run.id from rfl) (.retried hstate)
    (cancelPendingSetupRunCommands_kept db run.id now)

theorem confirmFactoryReset_eq_ok {typedConfirmation : Text} {result : SetupDb × NodeCommand}
    (h : confirmFactoryReset db setupRunId typedConfirmation now = .ok result) :
    ∃ run, db.runs.get? setupRunId = some run ∧ run.state = .awaitingResetConfirmation ∧
      result = createNodeCommand (moveSetupRun db run .resetting now (some [])) .factoryReset now
        (some run.id) := by
  unfold confirmFactoryReset at h
  simp only [bind, Except.bind, pure, Except.pure, throw, throwThe, MonadExceptOf.throw] at h
  split at h
  · cases h
  · next run hlock =>
      split at h
      · cases h
      · next hrequire =>
          split at h
          · cases h
          · exact ⟨run, lockSetupRun_eq_ok hlock, requireSetupRunState_eq_ok hrequire,
              (Except.ok.inj h).symm⟩

theorem confirmFactoryReset_moved {typedConfirmation : Text} {result : SetupDb × NodeCommand}
    (h : confirmFactoryReset db setupRunId typedConfirmation now = .ok result) :
    SetupMoved {setupRunId} db result.1 := by
  obtain ⟨run, hrow, hstate, rfl⟩ := confirmFactoryReset_eq_ok h
  exact setupMoved_ask (.of_eq rfl rfl setupRunId) hrow rfl (.confirmed hstate now) ⟨rfl, le_rfl⟩

theorem submitNodeConfiguration_eq_ok {requestedConfiguration : RequestedNodeConfiguration}
    {result : SetupDb × NodeCommand}
    (h : submitNodeConfiguration db setupRunId requestedConfiguration now = .ok result) :
    ∃ run, db.runs.get? setupRunId = some run ∧ run.state = .awaitingConfiguration ∧
      result = createNodeCommand
        (moveSetupRun db { run with requestedConfiguration := some requestedConfiguration }
          .configuring now (some [])) .configureNode now (some run.id) := by
  unfold submitNodeConfiguration at h
  simp only [bind, Except.bind, pure, Except.pure] at h
  split at h
  · cases h
  · next run hlock =>
      split at h
      · cases h
      · next hrequire =>
          exact ⟨run, lockSetupRun_eq_ok hlock, requireSetupRunState_eq_ok hrequire,
            (Except.ok.inj h).symm⟩

theorem submitNodeConfiguration_moved {requestedConfiguration : RequestedNodeConfiguration}
    {result : SetupDb × NodeCommand}
    (h : submitNodeConfiguration db setupRunId requestedConfiguration now = .ok result) :
    SetupMoved {setupRunId} db result.1 := by
  obtain ⟨run, hrow, hstate, rfl⟩ := submitNodeConfiguration_eq_ok h
  exact setupMoved_ask (.of_eq rfl rfl setupRunId) hrow rfl
    (.submitted hstate requestedConfiguration now) ⟨rfl, le_rfl⟩

/-- A run that is cancelled reads the node or waits for the operator. -/
theorem cancelSetupRun_eq_ok (h : cancelSetupRun db setupRunId now = .ok db') :
    ∃ run, db.runs.get? setupRunId = some run ∧ run.state ∈ cancellableStates ∧
      db' = moveSetupRun (cancelPendingSetupRunCommands db run.id now) run .abandoned now none := by
  unfold cancelSetupRun at h
  simp only [bind, Except.bind, pure, Except.pure, throw, throwThe, MonadExceptOf.throw] at h
  split at h
  · cases h
  · next run hlock =>
      split at h
      · cases h
      · next hstate =>
          exact ⟨run, lockSetupRun_eq_ok hlock, not_not.1 hstate, (Except.ok.inj h).symm⟩

/-- **A run is cancelled**, with its pending commands. -/
theorem cancelSetupRun_replaced (h : cancelSetupRun db setupRunId now = .ok db') :
    ∃ run, RowReplaced db db' setupRunId run (run.moved .abandoned now none) ∧
      run.state ∈ cancellableStates ∧ SetupKept db db' := by
  obtain ⟨run, hrow, hstate, rfl⟩ := cancelSetupRun_eq_ok h
  have hrunId : run.id = setupRunId := Table.key_of_get? hrow
  subst hrunId
  have hcancelled := cancelPendingSetupRunCommands_moved db run.id now
  have hkept := cancelPendingSetupRunCommands_kept db run.id now
  exact ⟨run, .of_put hcancelled hrow rfl, hstate, hkept.configuration, hkept.nextRun⟩

/-! ### The worker's reports -/

/-- **A run is told** what its command achieved; its commands stay. -/
structure Reported (db db' : SetupDb) (setupRunId : ℕ) (run run' : NodeSetupRun) : Prop
    extends RowReplaced db db' setupRunId run run' where
  unchanged : db'.commands = db.commands
  kept : SetupKept db db'

theorem reported_putRun {run' : NodeSetupRun} (hruns : db'.runs = db.runs)
    (hcommands : db'.commands = db.commands) (hkept : SetupKept db db')
    (hrow : db.runs.get? setupRunId = some run) (hid : run'.id = run.id) :
    Reported db (db'.putRun run') setupRunId run run' :=
  ⟨.of_put (.of_eq hruns hcommands setupRunId) hrow hid, hcommands, hkept.configuration,
    hkept.nextRun⟩

theorem Reported.latest {run' : NodeSetupRun} (h : Reported db db' setupRunId run run') :
    findLatestSetupRunCommand db' setupRunId = findLatestSetupRunCommand db setupRunId := by
  unfold findLatestSetupRunCommand SetupDb.commandsOf
  rw [h.unchanged]

theorem Reported.moved {run' : NodeSetupRun} (h : Reported db db' setupRunId run run')
    (hchange : RunReported run run') : SetupMoved {setupRunId} db db' := by
  refine .of_runs (fun other hne => congrArg Prod.fst (h.others other hne)) (fun other => ?_)
    (fun other hnone => ?_) h.commands h.kept
  · by_cases heq : other = setupRunId
    · subst heq
      rw [show db.view other = (some run, _) from Prod.ext h.row rfl,
        show db'.view other = (some run', _) from Prod.ext h.row' h.latest]
      exact .reported hchange
    · rw [h.others other heq]
      exact .refl _ _
  · by_cases heq : other = setupRunId
    · rw [heq, h.row] at hnone
      cases hnone
    · exact (congrArg Prod.fst (h.others other heq)).trans hnone

theorem completeFactoryReset_reported {newPublicKey : Text}
    (hrow : db.runs.get? setupRunId = some run) :
    Reported db (completeFactoryReset db run newPublicKey now) setupRunId run
      ({ run with newPublicKey }.moved .awaitingConfiguration now (some [])) :=
  reported_putRun rfl rfl ⟨rfl, le_rfl⟩ hrow rfl

/-- A report after which the run waits for none. -/
theorem Reported.moved_and_waits {run' : NodeSetupRun}
    (h : Reported db db' setupRunId run run') (hchange : RunReported run run')
    (hnone : run'.state.awaitedKind = none) : SetupMoved {setupRunId} db db' ∧
      ∀ other, db'.runs.get? setupRunId = some other → other.state.awaitedKind = none := by
  refine ⟨h.moved hchange, fun other hother => ?_⟩
  obtain rfl := Option.some.inj (h.row'.symm.trans hother)
  exact hnone

/-- What a read that is recorded does to its run. -/
theorem recordNodeInformationRead_eq_ok {readInformation : NodeInformation}
    (h : recordNodeInformationRead db setupRunId readInformation now = .ok db') :
    ∃ run, db.runs.get? setupRunId = some run ∧ ((run.state ≠ .readingNode ∧ db' = db) ∨
      run.state = .readingNode ∧ ∃ run', Reported db db' setupRunId run run' ∧
        RunReported run run' ∧ run'.state.awaitedKind = none) := by
  unfold recordNodeInformationRead at h
  simp only [bind, Except.bind, pure, Except.pure] at h
  split at h
  · cases h
  · next run hlock =>
      have hrow := lockSetupRun_eq_ok hlock
      refine ⟨run, hrow, ?_⟩
      split at h
      · next hstate => exact Or.inl ⟨hstate, (Except.ok.inj h).symm⟩
      · next hstate =>
          have hreading := not_not.1 hstate
          refine Or.inr ⟨hreading, ?_⟩
          split at h
          · obtain rfl := Except.ok.inj h
            exact ⟨_, completeFactoryReset_reported hrow, .resetDone (Or.inl hreading) _ now, rfl⟩
          · obtain rfl := Except.ok.inj h
            exact ⟨_, reported_putRun rfl rfl ⟨rfl, le_rfl⟩ hrow rfl,
              .informationRead hreading readInformation now, rfl⟩

/-- **A read is recorded**: the run moves on, unless it no longer reads the node. -/
theorem recordNodeInformationRead_moved {readInformation : NodeInformation}
    (h : recordNodeInformationRead db setupRunId readInformation now = .ok db') :
    SetupMoved {setupRunId} db db' ∧ ∀ run, db'.runs.get? setupRunId = some run →
      run.state.awaitedKind ≠ some .readNodeInformation := by
  obtain ⟨run, hrow, ⟨hstate, rfl⟩ | ⟨hreading, run', hreported, hchange, hnone⟩⟩ :=
    recordNodeInformationRead_eq_ok h
  · refine ⟨.refl _ db', fun other hother hawaited => hstate ?_⟩
    obtain rfl := Option.some.inj (hrow.symm.trans hother)
    cases hrun : run.state <;> rw [hrun] at hawaited <;> first | rfl | cases hawaited
  · obtain ⟨hmoved, hwaits⟩ := hreported.moved_and_waits hchange hnone
    exact ⟨hmoved, fun other hother => by rw [hwaits other hother]; simp⟩

/-- What a reset that is recorded does to its run. -/
theorem recordFactoryResetSucceeded_eq_ok {newPublicKey : Text}
    (h : recordFactoryResetSucceeded db setupRunId newPublicKey now = .ok db') :
    ∃ run, run.state = .resetting ∧ Reported db db' setupRunId run
      ({ run with newPublicKey }.moved .awaitingConfiguration now (some [])) := by
  unfold recordFactoryResetSucceeded at h
  simp only [bind, Except.bind, pure, Except.pure, throw, throwThe, MonadExceptOf.throw] at h
  split at h
  · cases h
  · next run hlock =>
      split at h
      · cases h
      · next hrequire =>
          split at h
          · cases h
          · obtain rfl := Except.ok.inj h
            exact ⟨run, requireSetupRunState_eq_ok hrequire,
              completeFactoryReset_reported (lockSetupRun_eq_ok hlock)⟩

/-- **A reset is recorded**: the run waits for its configuration. -/
theorem recordFactoryResetSucceeded_moved {newPublicKey : Text}
    (h : recordFactoryResetSucceeded db setupRunId newPublicKey now = .ok db') :
    SetupMoved {setupRunId} db db' ∧
      ∀ run, db'.runs.get? setupRunId = some run → run.state.awaitedKind = none := by
  obtain ⟨run, hstate, hreported⟩ := recordFactoryResetSucceeded_eq_ok h
  exact hreported.moved_and_waits (.resetDone (Or.inr hstate) newPublicKey now) rfl

/-- **The restore of the configured identity begins.** -/
theorem recordIdentityRestoreStarted_reported {restoredPublicKey : Text}
    (h : recordIdentityRestoreStarted db setupRunId restoredPublicKey = .ok db') :
    ∃ run, Reported db db' setupRunId run { run with restoredPublicKey } ∧
      run.state = .configuring := by
  unfold recordIdentityRestoreStarted at h
  simp only [bind, Except.bind, pure, Except.pure] at h
  split at h
  · cases h
  · next run hlock =>
      split at h
      · cases h
      · next hrequire =>
          obtain rfl := Except.ok.inj h
          exact ⟨run, reported_putRun rfl rfl ⟨rfl, le_rfl⟩ (lockSetupRun_eq_ok hlock) rfl,
            requireSetupRunState_eq_ok hrequire⟩

/-- **A run completes**, and its commands stay. -/
theorem recordConfigurationCompleted_replaced {nodeConfiguration : NodeConfiguration}
    {nodeIdentityBackup : Option NodeIdentityBackup}
    (h : recordConfigurationCompleted db setupRunId nodeConfiguration now nodeIdentityBackup =
      .ok db') :
    ∃ run, RowReplaced db db' setupRunId run (run.moved .completed now (some [])) ∧
      run.state = .configuring ∧ db'.commands = db.commands := by
  unfold recordConfigurationCompleted at h
  simp only [bind, Except.bind, pure, Except.pure, throw, throwThe, MonadExceptOf.throw] at h
  split at h
  · cases h
  · split at h
    · cases h
    · next run hlock =>
        split at h
        · cases h
        · next hrequire =>
            obtain rfl := Except.ok.inj h
            have hreplaced : ∀ db₁ : SetupDb, db₁.runs = db.runs → db₁.commands = db.commands →
                RowReplaced db (db₁.putRun (run.moved .completed now (some []))) setupRunId run
                  (run.moved .completed now (some [])) := fun db₁ hruns hcommands =>
              .of_put (.of_eq hruns hcommands setupRunId) (lockSetupRun_eq_ok hlock) rfl
            exact ⟨run, hreplaced _ rfl rfl, requireSetupRunState_eq_ok hrequire, rfl⟩

/-! ### The queue -/

theorem QueueMove.none_of_none {nextKey : ℕ} {v w : RunView} (h : QueueMove nextKey v w)
    (hnone : v.1 = none) : w.1 = none := by
  cases h with
  | claimed => exact hnone
  | endedBeside => exact hnone
  | fellBack => cases hnone
  | readAgain => cases hnone

theorem QueueMoves.none_of_none {nextKey : ℕ} {v w : RunView} (h : QueueMoves nextKey v w)
    (hnone : v.1 = none) : w.1 = none := by
  induction h with
  | refl => exact hnone
  | tail _ hmove ih => exact hmove.none_of_none ih

theorem SetupMoved.of_queue (hrows : ∀ setupRunId, setupRunId ∉ touched →
      db'.runs.get? setupRunId = db.runs.get? setupRunId) (hcommands : CommandsFollow db db')
    (hmoves : ∀ setupRunId,
      QueueMoves db.commands.nextKey (db.view setupRunId) (db'.view setupRunId))
    (hkept : SetupKept db db') :
    SetupMoved touched db db' :=
  .of_runs hrows (fun setupRunId => .queue (hmoves setupRunId))
    (fun setupRunId hnone => (hmoves setupRunId).none_of_none hnone) hcommands hkept

/-- A command of the panel belongs to no run. -/
theorem createNodeCommand_moved (kind : NodeCommandKind) :
    SetupMoved ∅ db (createNodeCommand db kind now none).1 := by
  refine .of_runs (fun _ _ => rfl) (fun other => ?_) (fun _ h => h)
    (commandsFollow_create kind now none) ⟨rfl, le_rfl⟩
  rw [view_createNodeCommand, if_neg (by simp)]
  exact .refl _ _

theorem sent_replaceOrAppendProgressStep {progress : List ProgressStep}
    {progressStep : ProgressStep}
    (h : (progress.any fun storedStep =>
      storedStep.step = FactoryResetStep.sendResetFrame.value) = true) :
    ((replaceOrAppendProgressStep progress progressStep).any fun storedStep =>
      storedStep.step = FactoryResetStep.sendResetFrame.value) = true := by
  obtain ⟨storedStep, hmem, hstep⟩ := List.any_eq_true.1 h
  unfold replaceOrAppendProgressStep
  split
  · refine List.any_eq_true.2 ⟨_, List.mem_map_of_mem hmem, ?_⟩
    split
    · next heq => rwa [← heq]
    · exact hstep
  · exact List.any_eq_true.2 ⟨storedStep, List.mem_append_left _ hmem, hstep⟩

/-- **Progress is added** to a command. -/
theorem recordNodeCommandProgress_moved (nodeCommandId : ℕ) (progressStep : ProgressStep) :
    SetupMoved ∅ db (recordNodeCommandProgress db nodeCommandId progressStep) := by
  have hcommands : CommandsFollow db (recordNodeCommandProgress db nodeCommandId progressStep) :=
    commandsFollow_update fun r _ _ =>
      ⟨rfl, rfl, rfl, rfl, fun h => h, fun h => h, fun h => sent_replaceOrAppendProgressStep h⟩
  refine .of_runs (fun _ _ => rfl) (fun other => ?_) (fun _ h => h) hcommands ⟨rfl, le_rfl⟩
  have hlatest : findLatestSetupRunCommand (recordNodeCommandProgress db nodeCommandId progressStep)
      other = (findLatestSetupRunCommand db other).map fun r =>
        if decide (r.id = nodeCommandId) = true then
          { r with progress := replaceOrAppendProgressStep r.progress progressStep }
        else r :=
    latest_updateWhere (p := fun row => row.id = nodeCommandId)
      (f := fun row =>
        { row with progress := replaceOrAppendProgressStep row.progress progressStep })
      fun _ _ => rfl
  cases hfound : findLatestSetupRunCommand db other with
  | none =>
      rw [hfound, Option.map_none] at hlatest
      rw [show db.view other = (db.runs.get? other, none) from Prod.ext rfl hfound,
        show (recordNodeCommandProgress db nodeCommandId progressStep).view other =
          (db.runs.get? other, none) from Prod.ext rfl hlatest]
      exact .refl _ _
  | some c =>
      rw [hfound, Option.map_some] at hlatest
      rw [show db.view other = (db.runs.get? other, some c) from Prod.ext rfl hfound,
        show (recordNodeCommandProgress db nodeCommandId progressStep).view other =
          (db.runs.get? other, some _) from Prod.ext rfl hlatest]
      split
      · exact .progressed _
      · exact .refl _ _

/-- Old commands are deleted, none of them of an active run. -/
theorem view_deleteOldNodeCommands (hkept : (db.commands.any fun row =>
      row.createdAt < now - durationOfDays nodeCommandRetentionDays &&
        row.setupRunId.any fun setupRunId =>
          (db.runs.get? setupRunId).any (·.isActive)) = false)
    (hrow : db.runs.get? setupRunId = some run) (hactive : run.isActive = true) :
    (deleteOldNodeCommands db now).view setupRunId = db.view setupRunId := by
  have hsame : (deleteOldNodeCommands db now).commandsOf setupRunId = db.commandsOf setupRunId := by
    unfold SetupDb.commandsOf deleteOldNodeCommands Table.filter Table.deleteWhere
    dsimp only
    rw [List.filter_filter]
    refine List.filter_congr fun c hc => ?_
    have hold := Table.any_eq_false.1 hkept c hc
    by_cases hrun : c.setupRunId = some setupRunId
    · simp only [hrun, Option.any_some, hrow, hactive, Bool.and_true, decide_eq_false_iff_not]
        at hold
      simp [hrun, hold]
    · simp [hrun]
  exact Prod.ext rfl (congrArg List.getLast? hsame)

/-- **The deletion of old commands** leaves the active runs alone. -/
theorem deleteOldNodeCommands_moved (hkept : (db.commands.any fun row =>
      row.createdAt < now - durationOfDays nodeCommandRetentionDays &&
        row.setupRunId.any fun setupRunId =>
          (db.runs.get? setupRunId).any (·.isActive)) = false) :
    SetupMoved ∅ db (deleteOldNodeCommands db now) := by
  have hcommands : CommandsFollow db (deleteOldNodeCommands db now) := commandsFollow_delete _
  refine .of_runs (fun _ _ => rfl) (fun other => ?_) (fun _ h => h) hcommands ⟨rfl, le_rfl⟩
  by_cases hactive : ∃ run, db.runs.get? other = some run ∧ run.isActive = true
  · obtain ⟨run, hrow, hactive⟩ := hactive
    rw [view_deleteOldNodeCommands hkept hrow hactive]
    exact .refl _ _
  · refine .pruned (fun run hrow => ?_) _
    by_contra h
    exact hactive ⟨run, hrow, Bool.not_eq_false _ ▸ h⟩

/-- A fall back changes the row of the command's run, and starts none. -/
theorem fallBack_rows (db : SetupDb) (command : NodeCommand) (now : Time) :
    SetupKept db (fallBackAfterUnsuccessfulCommand db command now) ∧
      ∀ r, command.setupRunId ≠ some r →
        (fallBackAfterUnsuccessfulCommand db command now).runs.get? r = db.runs.get? r := by
  unfold fallBackAfterUnsuccessfulCommand
  split
  · exact ⟨⟨rfl, le_rfl⟩, fun _ _ => rfl⟩
  · next setupRunId hrun =>
      split
      · exact ⟨⟨rfl, le_rfl⟩, fun _ _ => rfl⟩
      · next run hrow =>
          split
          · exact ⟨⟨rfl, le_rfl⟩, fun _ _ => rfl⟩
          · have hrunId : run.id = setupRunId := Table.key_of_get? hrow
            have hput : ∀ setupRun : NodeSetupRun, setupRun.id = run.id → ∀ r,
                command.setupRunId ≠ some r →
                  (db.putRun setupRun).runs.get? r = db.runs.get? r := by
              intro setupRun hid r hr
              rw [SetupDb.putRun, Table.get?_put, key_setupRun, if_neg]
              intro heq
              exact hr (by rw [hrun, heq, hid, hrunId])
            have hfell : FallBack db run command now (fallBackLatestCommand db run command now) :=
              fallBackLatestCommand_fallBack now
            generalize fallBackLatestCommand db run command now = db' at hfell
            cases hfell with
            | beside => exact ⟨⟨rfl, le_rfl⟩, fun _ _ => rfl⟩
            | fellBack hid => exact ⟨⟨rfl, le_rfl⟩, hput _ hid⟩
            | readAgain => exact ⟨⟨rfl, le_rfl⟩, hput (run.moved _ _ _) rfl⟩

/-- The commands of a list end: their runs' rows change, and none starts. -/
theorem foldl_endNodeCommand_rows (state : NodeCommandState) (errorMessage : Text) (now : Time)
    (commands : List NodeCommand) (db : SetupDb) :
    SetupKept db (commands.foldl (endNodeCommand state errorMessage now) db) ∧
      ∀ r, (∀ c ∈ commands, c.setupRunId ≠ some r) →
        (commands.foldl (endNodeCommand state errorMessage now) db).runs.get? r =
          db.runs.get? r := by
  induction commands generalizing db with
  | nil => exact ⟨⟨rfl, le_rfl⟩, fun _ _ => rfl⟩
  | cons c commands ih =>
      obtain ⟨hkept, hrows⟩ := ih (endNodeCommand state errorMessage now db c)
      obtain ⟨hkept', hrows'⟩ := fallBack_rows
        (db.putCommand { c with state, finishedAt := some now, errorMessage })
        { c with state, finishedAt := some now, errorMessage } now
      have hput : SetupKept db (db.putCommand
        { c with state, finishedAt := some now, errorMessage }) := ⟨rfl, le_rfl⟩
      refine ⟨(hput.trans hkept').trans hkept, fun r hr => ?_⟩
      exact (hrows r fun d hd => hr d (List.mem_cons_of_mem _ hd)).trans
        (hrows' r (hr c List.mem_cons_self))

/-- The rows of a filter are commands in the order of their ids. -/
theorem commands_filter_moved {p : NodeCommand → Bool} {state : NodeCommandState}
    {errorMessage : Text} (hstate : state ∈ unsuccessfulStates) :
    SetupMoved {r | ∃ c ∈ db.commands.filter p, c.setupRunId = some r} db
      ((db.commands.filter p).foldl (endNodeCommand state errorMessage now) db) := by
  obtain ⟨hcommands, hmoves⟩ := @endNodeCommands_moves db state errorMessage now _ hstate
    (Table.pairwise_filter db.commands p) fun c hc => (Table.mem_filter.1 hc).1
  obtain ⟨hkept, hrows⟩ :=
    foldl_endNodeCommand_rows state errorMessage now (db.commands.filter p) db
  exact .of_queue (fun r hr => hrows r fun c hc hrun => hr ⟨c, hc, hrun⟩) hcommands hmoves
    hkept

theorem expirePendingNodeCommands_moved (lockedElsewhere : List ℕ) :
    SetupMoved {r | ∃ c ∈ expiredPendingCommands db lockedElsewhere now, c.setupRunId = some r} db
      (expirePendingNodeCommands db lockedElsewhere now) :=
  commands_filter_moved (by simp [unsuccessfulStates])

theorem interruptRunningNodeCommands_moved :
    SetupMoved {r | ∃ c ∈ db.commands.filter fun row => row.state = .running,
      c.setupRunId = some r} db (interruptRunningNodeCommands db now) :=
  commands_filter_moved (by simp [unsuccessfulStates])

/-- **A command that failed or was interrupted.** -/
theorem finishNodeCommand_moved {commandEnd : CommandEnd} (hend : commandEnd ≠ .succeeded)
    (nodeCommandId : ℕ) (errorMessage : Text) :
    SetupMoved {r | ∃ c ∈ db.commands, c.id = nodeCommandId ∧ c.setupRunId = some r} db
      (finishNodeCommand db nodeCommandId commandEnd now errorMessage) := by
  have hstate : commandEnd.state ∈ unsuccessfulStates := by
    cases commandEnd <;> simp [CommandEnd.state, unsuccessfulStates] at hend ⊢
  unfold finishNodeCommand
  split
  · exact .refl _ db
  · next c hfound =>
      obtain ⟨hc, hsame⟩ := Table.first?_eq_some hfound
      rw [Bool.and_eq_true, decide_eq_true_eq, decide_eq_true_eq] at hsame
      obtain ⟨hkept, hrows⟩ :=
        foldl_endNodeCommand_rows commandEnd.state errorMessage now [c] db
      rw [if_pos hstate]
      refine .of_queue (fun r hr => hrows r fun d hd hrun => hr ⟨c, hc, hsame.1, ?_⟩)
        (endNodeCommand_commands hstate hc).1
        (queueMoves_endNodeCommand hstate hc (db.commands.below c hc) le_rfl) hkept
      rw [← List.mem_singleton.1 hd, hrun]

/-- **A command that succeeded**, once no run waits for it any more. -/
theorem finishNodeCommand_succeeded_moved {nodeCommandId : ℕ} {errorMessage : Text}
    (hnot : ∀ c ∈ db.commands, c.id = nodeCommandId → ∀ r run, c.setupRunId = some r →
      findLatestSetupRunCommand db r = some c → db.runs.get? r = some run →
        run.state.awaitedKind ≠ some c.kind) :
    SetupMoved ∅ db (finishNodeCommand db nodeCommandId .succeeded now errorMessage) := by
  unfold finishNodeCommand
  split
  · exact .refl _ db
  · next c hfound =>
      obtain ⟨hc, hsame⟩ := Table.first?_eq_some hfound
      rw [Bool.and_eq_true, decide_eq_true_eq, decide_eq_true_eq] at hsame
      rw [if_neg (by simp [CommandEnd.state, unsuccessfulStates])]
      refine .of_queue (fun _ _ => rfl)
        (commandsFollow_put hc ⟨rfl, rfl, rfl, rfl, ?_, ?_, fun h => h⟩) (fun r => ?_) ⟨rfl, le_rfl⟩
      · exact fun h => by cases h
      · exact fun h => by cases h
      · let ended : NodeCommand :=
          { c with state := CommandEnd.succeeded.state, finishedAt := some now, errorMessage }
        rw [@view_putCommand db r ended c hc rfl rfl]
        split
        · next hlatest =>
            rw [show db.view r = (db.runs.get? r, some c) from Prod.ext rfl hlatest]
            refine .single (.endedBeside rfl (db.commands.below c hc) rfl fun run hrow => ?_)
            exact hnot c hc hsame.1 r run (mem_of_latest hlatest).2 hlatest hrow
        · exact .refl

/-! ### The claim -/

/-- The worker takes a command. -/
def NodeCommand.claimed (nodeCommand : NodeCommand) (workerInstanceId : ℕ) (now : Time) :
    NodeCommand :=
  { nodeCommand with
    state := .running
    claimedAt := some now
    claimedByWorkerInstance := some workerInstanceId }

/-- A new command has not expired. -/
theorem lt_expiresAt_buildNodeCommand (kind : NodeCommandKind) (now : Time)
    (setupRunId : Option ℕ) (id : ℕ) :
    now < (buildNodeCommand kind now setupRunId id).expiresAt := by
  have hpos : (0 : Duration) < durationOfSeconds (commandLifetimeSeconds kind) := by
    cases kind <;> decide +kernel
  exact lt_add_of_pos_right now hpos

/-- A command that is pending after another one ended was pending before, or is a new read. -/
theorem pending_endNodeCommand {state : NodeCommandState} {errorMessage : Text}
    (hstate : state ∈ unsuccessfulStates) (hcommand : command ∈ db.commands) {c : NodeCommand}
    (hc : c ∈ (endNodeCommand state errorMessage now db command).commands)
    (hpending : c.state = .pending) :
    (c ∈ db.commands ∧ c.id ≠ command.id) ∨
      ∃ setupRunId id, c = buildNodeCommand .readNodeInformation now setupRunId id := by
  let ended : NodeCommand := { command with state, finishedAt := some now, errorMessage }
  have hput : ∀ x, x ∈ (db.putCommand ended).commands → x.state = .pending →
      x ∈ db.commands ∧ x.id ≠ command.id := by
    intro x hx hxPending
    rcases (Table.mem_put_iff hcommand (show key ended = key command from rfl)).1 hx with rfl | hx
    · rw [show state = .pending from hxPending] at hstate
      simp [unsuccessfulStates] at hstate
    · exact hx
  have hmem : ended ∈ (db.putCommand ended).commands := Table.mem_put_self hcommand rfl
  have hc : c ∈ (fallBackAfterUnsuccessfulCommand (db.putCommand ended) ended now).commands := hc
  by_cases hlatest : ∃ x, findLatestSetupRunCommand (db.putCommand ended) x = some ended
  · obtain ⟨x, hx⟩ := hlatest
    rcases @fallBack_of_latest _ _ _ now hx with ⟨-, hsame⟩ | ⟨run, -, hfell⟩
    · rw [hsame] at hc
      exact Or.inl (hput c hc hpending)
    · generalize fallBackAfterUnsuccessfulCommand (db.putCommand ended) ended now = db₁ at hc hfell
      cases hfell with
      | beside => exact Or.inl (hput c hc hpending)
      | fellBack => exact Or.inl (hput c hc hpending)
      | readAgain =>
          rcases mem_createNodeCommand.1 hc with hc | rfl
          · exact Or.inl (hput c hc hpending)
          · exact Or.inr ⟨_, _, rfl⟩
  · rw [fallBack_of_not_latest hmem fun x _ hx => hlatest ⟨x, hx⟩] at hc
    exact Or.inl (hput c hc hpending)

/-- The commands of a list end: what is still pending was not among them, or is a new read. -/
theorem pending_foldl_endNodeCommand {state : NodeCommandState} {errorMessage : Text}
    {commands : List NodeCommand} (hstate : state ∈ unsuccessfulStates)
    (hdistinct : commands.Pairwise fun a b => a.id < b.id)
    (hmem : ∀ c ∈ commands, c ∈ db.commands) {c : NodeCommand}
    (hc : c ∈ (commands.foldl (endNodeCommand state errorMessage now) db).commands)
    (hpending : c.state = .pending) :
    (c ∈ db.commands ∧ c ∉ commands) ∨
      ∃ setupRunId id, c = buildNodeCommand .readNodeInformation now setupRunId id := by
  induction commands generalizing db with
  | nil => exact Or.inl ⟨hc, List.not_mem_nil⟩
  | cons d commands ih =>
      obtain ⟨hfirst, hrest⟩ := List.pairwise_cons.1 hdistinct
      have hd := hmem d List.mem_cons_self
      have hkept : ∀ other ∈ commands,
          other ∈ (endNodeCommand state errorMessage now db d).commands := fun other hother =>
        (endNodeCommand_commands hstate hd).2 other (hmem other (List.mem_cons_of_mem _ hother))
          (hfirst other hother).ne'
      rcases ih hrest hkept hc with ⟨hc, hnot⟩ | hlater
      · rcases pending_endNodeCommand hstate hd hc hpending with ⟨hc, hne⟩ | hlater
        · refine Or.inl ⟨hc, fun hcons => ?_⟩
          rcases List.mem_cons.1 hcons with rfl | hin
          · exact hne rfl
          · exact hnot hin
        · exact Or.inr hlater
      · exact Or.inr hlater

/-- **The claim**: the stale commands expire, and where no command is running the worker takes a
pending one whose time has not passed. -/
theorem claimNextNodeCommand_cases (db : SetupDb) (lockedElsewhere : List ℕ)
    (workerInstanceId : ℕ) (now : Time) :
    claimNextNodeCommand db lockedElsewhere workerInstanceId now =
        (expirePendingNodeCommands db lockedElsewhere now, none) ∨
      ∃ c ∈ (expirePendingNodeCommands db lockedElsewhere now).commands,
        c.state = .pending ∧ now < c.expiresAt ∧
        (∀ row ∈ (expirePendingNodeCommands db lockedElsewhere now).commands,
          row.state ≠ .running) ∧
        claimNextNodeCommand db lockedElsewhere workerInstanceId now =
          ((expirePendingNodeCommands db lockedElsewhere now).putCommand
            (c.claimed workerInstanceId now), some (c.claimed workerInstanceId now)) := by
  unfold claimNextNodeCommand
  dsimp only
  split
  · exact Or.inl rfl
  · next c hfound =>
      obtain ⟨hc, hfree⟩ := Table.first?_eq_some hfound
      rw [Bool.and_eq_true, decide_eq_true_eq, decide_eq_true_eq] at hfree
      split
      · exact Or.inl rfl
      · next hidle =>
          refine Or.inr ⟨c, hc, hfree.2, ?_, fun row hrow hrunning => hidle ?_, rfl⟩
          · have hpending := @pending_foldl_endNodeCommand db now .expired
              expiredCommandErrorMessage (expiredPendingCommands db lockedElsewhere now)
              (by simp [unsuccessfulStates]) (Table.pairwise_filter _ _)
              (fun d hd => (Table.mem_filter.1 hd).1) c hc hfree.2
            rcases hpending with ⟨hbefore, hnot⟩ | ⟨_, _, rfl⟩
            · by_contra hexpired
              refine hnot (Table.mem_filter.2 ⟨hbefore, ?_⟩)
              simp [hfree.1, hfree.2, not_lt.1 hexpired]
            · exact lt_expiresAt_buildNodeCommand _ now _ _
          · exact Table.any_eq_true.2 ⟨row, hrow, decide_eq_true hrunning⟩

end Transactions

end HoptalkRelay
