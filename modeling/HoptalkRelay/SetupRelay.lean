/-
**The setup wizard between the panel and the worker.**

The transactions of the panel and of the worker in any order.  The worker runs one command at a
time, in the order of its handler in `worker/node_setup_steps.py`: what a command achieved is
recorded before the command is finished as succeeded.  Its calls of the database run one after the
other, so none of them comes between two reads of the relay mode's inputs; the panel's do.

A transaction that needs the row of a run waits while another one holds it.  Of the panel's
transactions only a retry reads the commands of the run it holds before it writes, so it is cut
there.

Main definitions:

* `HoptalkRelay.SetupRelay` — the database, the command under way, and the reads of the mode;
* `HoptalkRelay.setupStep`, `HoptalkRelay.setupRelay` — what the panel and the worker do to it.
-/

import HoptalkRelay.NodeCommands
import HoptalkRelay.RelayModes
import HoptalkRelay.Transition.Run

set_option relaxedAutoImplicit false
set_option autoImplicit false

namespace HoptalkRelay

open Relational Transition

/-! ### The state -/

/-- The command a handler of the worker runs. -/
structure CommandExecution where
  commandId : ℕ
  kind : NodeCommandKind
  setupRunId : Option ℕ
  /-- What `configure_node` read at its start. -/
  configuredPublicKey : Option Text := none
  /-- The run was told what the command achieved. -/
  outcomeRecorded : Bool := false

structure SetupRelay where
  db : SetupDb
  /-- The run a retry holds, between its check and its writes. -/
  retrying : Option NodeSetupRun
  execution : Option CommandExecution
  /-- The commands whose reset frame was given to the node. -/
  resetFramesSent : List ℕ
  modeReads : ModeReads

namespace SetupRelay

/-- A relay that was never set up. -/
def start (contacts : Table Contact) : SetupRelay where
  db := .empty contacts
  retrying := none
  execution := none
  resetFramesSent := []
  modeReads := .idle

/-- A retry holds the run. -/
def holds (relay : SetupRelay) (setupRunId : ℕ) : Bool :=
  relay.retrying.any fun setupRun => setupRun.id = setupRunId

/-- One of the commands needs a run that a retry holds. -/
def holdsOneOf (relay : SetupRelay) (nodeCommands : List NodeCommand) : Bool :=
  nodeCommands.any fun row => row.setupRunId.any relay.holds

end SetupRelay

/-! ### The events -/

inductive SetupEvent
  | startSetupRun (now : Time)
  | retryReadingNode (setupRunId : ℕ)
  | retryCommitted (now : Time)
  | confirmFactoryReset (setupRunId : ℕ) (typedConfirmation : Text) (now : Time)
  | submitNodeConfiguration (setupRunId : ℕ)
      (requestedConfiguration : RequestedNodeConfiguration) (now : Time)
  | cancelSetupRun (setupRunId : ℕ) (now : Time)
  /-- The panel's own commands belong to no run. -/
  | createNodeCommand (kind : NodeCommandKind) (now : Time)
  /-- By the worker, or by the panel that shows a pending command. -/
  | expirePendingNodeCommands (lockedElsewhere : List ℕ) (now : Time)
  | deleteOldNodeCommands (now : Time)
  | claimNextNodeCommand (lockedElsewhere : List ℕ) (workerInstanceId : ℕ) (now : Time)
  | recordNodeCommandProgress (progressStep : ProgressStep)
  | recordNodeInformationRead (readInformation : NodeInformation) (now : Time)
  /-- The node is given the reset frame, once the progress names that step. -/
  | sendResetFrame
  | recordFactoryResetSucceeded (newPublicKey : Text) (now : Time)
  | readConfiguredPublicKey
  | recordIdentityRestoreStarted
  | recordConfigurationCompleted (nodeConfiguration : NodeConfiguration) (now : Time)
      (nodeIdentityBackup : Option NodeIdentityBackup)
  | finishNodeCommand (commandEnd : CommandEnd) (now : Time) (errorMessage : Text)
  /-- The task that runs commands ends with an internal error. -/
  | executorStops
  | processStops
  | interruptRunningNodeCommands (now : Time)
  /-- A command that a task of this process left running. -/
  | interruptLeftNodeCommand (nodeCommandId : ℕ) (now : Time) (errorMessage : Text)
  | readModeInputs
  deriving DecidableEq

inductive SetupOutcome
  | done
  | refused (error : SetupError)
  | claimed (nodeCommandId : ℕ)
  | restoreStarted (setupRunId : ℕ) (restoredPublicKey : Text)
  | completed (setupRunId : ℕ)
  | loaded (relayModeInputs : RelayModeInputs)
  deriving DecidableEq

/-- The calls of the worker's one database thread. -/
def SetupEvent.isCall : SetupEvent → Bool
  | .claimNextNodeCommand _ _ _ | .recordNodeCommandProgress _ | .recordNodeInformationRead _ _
  | .recordFactoryResetSucceeded _ _ | .readConfiguredPublicKey | .recordIdentityRestoreStarted
  | .recordConfigurationCompleted _ _ _ | .finishNodeCommand _ _ _
  | .interruptRunningNodeCommands _ | .interruptLeftNodeCommand _ _ _ => true
  | _ => false

/-- The kinds of commands that a run waits for. -/
def setupCommandKinds : List NodeCommandKind :=
  [.readNodeInformation, .factoryReset, .configureNode]

namespace SetupRelay

/-- A transaction that commits or is refused. -/
def commit (relay : SetupRelay) {α : Type} (result : Except SetupError (SetupDb × α)) :
    SetupRelay × SetupOutcome :=
  match result with
  | .ok (db, _) => ({ relay with db }, .done)
  | .error error => (relay, .refused error)

/-- A transaction of the handler on this run; one that is refused lets the handler fail. -/
def report (relay : SetupRelay) (execution : CommandExecution) (setupRunId : ℕ)
    (result : Except SetupError SetupDb) (outcome : SetupOutcome) : SetupRelay × SetupOutcome :=
  if relay.holds setupRunId then (relay, .done)
  else
    match result with
    | .ok db => ({ relay with db, execution := some execution }, outcome)
    | .error error => (relay, .refused error)

end SetupRelay

open SetupRelay

/-! ### The worker's handlers -/

/-- What the handler of a command does next; what is not its turn changes nothing. -/
def executionStep (relay : SetupRelay) (execution : CommandExecution) :
    SetupEvent → SetupRelay × SetupOutcome
  | .recordNodeCommandProgress progressStep =>
      ({ relay with
          db := recordNodeCommandProgress relay.db execution.commandId progressStep }, .done)
  | .recordNodeInformationRead readInformation now =>
      let recorded := { execution with outcomeRecorded := true }
      match execution.kind, execution.setupRunId with
      | .readNodeInformation, none => ({ relay with execution := some recorded }, .done)
      | .readNodeInformation, some setupRunId =>
          relay.report recorded setupRunId
            (recordNodeInformationRead relay.db setupRunId readInformation now) .done
      | _, _ => (relay, .done)
  | .sendResetFrame =>
      if execution.kind = .factoryReset ∧
          (relay.db.commands.get? execution.commandId).any factoryResetFrameMayHaveBeenSent then
        ({ relay with resetFramesSent := execution.commandId :: relay.resetFramesSent }, .done)
      else (relay, .done)
  | .recordFactoryResetSucceeded newPublicKey now =>
      match execution.kind, execution.setupRunId with
      | .factoryReset, some setupRunId =>
          relay.report { execution with outcomeRecorded := true } setupRunId
            (recordFactoryResetSucceeded relay.db setupRunId newPublicKey now) .done
      | _, _ => (relay, .done)
  | .readConfiguredPublicKey =>
      if execution.kind = .configureNode ∧ execution.configuredPublicKey = none then
        ({ relay with
            execution := some
              { execution with configuredPublicKey := some (readConfiguredPublicKey relay.db) } },
          .done)
      else (relay, .done)
  | .recordIdentityRestoreStarted =>
      match execution.kind, execution.setupRunId, execution.configuredPublicKey with
      | .configureNode, some setupRunId, some configuredPublicKey =>
          -- the restore comes before the configuration is saved, and needs a configured key
          if execution.outcomeRecorded ∨ configuredPublicKey = [] then (relay, .done)
          else
            relay.report execution setupRunId
              (recordIdentityRestoreStarted relay.db setupRunId configuredPublicKey)
              (.restoreStarted setupRunId configuredPublicKey)
      | _, _, _ => (relay, .done)
  | .recordConfigurationCompleted nodeConfiguration now nodeIdentityBackup =>
      match execution.kind, execution.setupRunId with
      | .configureNode, some setupRunId =>
          relay.report { execution with outcomeRecorded := true } setupRunId
            (recordConfigurationCompleted relay.db setupRunId nodeConfiguration now
              nodeIdentityBackup)
            (.completed setupRunId)
      | _, _ => (relay, .done)
  | .finishNodeCommand commandEnd now errorMessage =>
      -- a setup command succeeds only once its run was told, and a failed one needs its run
      if commandEnd = .succeeded then
        if execution.kind ∈ setupCommandKinds ∧ execution.outcomeRecorded = false then
          (relay, .done)
        else
          ({ relay with
              db := finishNodeCommand relay.db execution.commandId .succeeded now errorMessage
              execution := none }, .done)
      else if execution.setupRunId.any relay.holds then (relay, .done)
      else
        ({ relay with
            db := finishNodeCommand relay.db execution.commandId commandEnd now errorMessage
            execution := none }, .done)
  | _ => (relay, .done)

/-! ### The steps -/

/-- What the panel does, and the worker between two commands. -/
def setupQueueStep (relay : SetupRelay) : SetupEvent → SetupRelay × SetupOutcome
  | .startSetupRun now => relay.commit (startSetupRun relay.db now)
  | .retryReadingNode setupRunId =>
      if relay.retrying.isSome then (relay, .done)
      else
        match lockRunToRetry relay.db setupRunId with
        | .ok setupRun => ({ relay with retrying := some setupRun }, .done)
        | .error error => (relay, .refused error)
  | .retryCommitted now =>
      match relay.retrying with
      | none => (relay, .done)
      | some setupRun =>
          ({ relay with db := (retryReadingNode relay.db setupRun now).1, retrying := none }, .done)
  | .confirmFactoryReset setupRunId typedConfirmation now =>
      if relay.holds setupRunId then (relay, .done)
      else relay.commit (confirmFactoryReset relay.db setupRunId typedConfirmation now)
  | .submitNodeConfiguration setupRunId requestedConfiguration now =>
      if relay.holds setupRunId then (relay, .done)
      else relay.commit (submitNodeConfiguration relay.db setupRunId requestedConfiguration now)
  | .cancelSetupRun setupRunId now =>
      if relay.holds setupRunId then (relay, .done)
      else relay.commit ((cancelSetupRun relay.db setupRunId now).map fun db => (db, ()))
  | .createNodeCommand kind now =>
      ({ relay with db := (createNodeCommand relay.db kind now none).1 }, .done)
  | .expirePendingNodeCommands lockedElsewhere now =>
      if relay.holdsOneOf (expiredPendingCommands relay.db lockedElsewhere now) then (relay, .done)
      else ({ relay with db := expirePendingNodeCommands relay.db lockedElsewhere now }, .done)
  | .deleteOldNodeCommands now =>
      -- the commands of an active run are not pruned
      if relay.db.commands.any fun row =>
          row.createdAt < now - durationOfDays nodeCommandRetentionDays &&
            row.setupRunId.any fun setupRunId =>
              (relay.db.runs.get? setupRunId).any (·.isActive) then (relay, .done)
      else ({ relay with db := deleteOldNodeCommands relay.db now }, .done)
  | .claimNextNodeCommand lockedElsewhere workerInstanceId now =>
      if relay.execution.isSome ∨
          relay.holdsOneOf (expiredPendingCommands relay.db lockedElsewhere now) then (relay, .done)
      else
        match claimNextNodeCommand relay.db lockedElsewhere workerInstanceId now with
        | (db, none) => ({ relay with db }, .done)
        | (db, some nodeCommand) =>
            ({ relay with
                db
                execution := some
                  { commandId := nodeCommand.id
                    kind := nodeCommand.kind
                    setupRunId := nodeCommand.setupRunId } },
              .claimed nodeCommand.id)
  | .executorStops => ({ relay with execution := none }, .done)
  | .processStops => ({ relay with execution := none, modeReads := .idle }, .done)
  | .interruptRunningNodeCommands now =>
      if relay.execution.isSome ∨
          relay.holdsOneOf (relay.db.commands.filter fun row => row.state = .running) then
        (relay, .done)
      else ({ relay with db := interruptRunningNodeCommands relay.db now }, .done)
  | .interruptLeftNodeCommand nodeCommandId now errorMessage =>
      if relay.execution.isSome ∨
          relay.holdsOneOf (relay.db.commands.filter fun row => row.id = nodeCommandId) then
        (relay, .done)
      else
        ({ relay with
            db := finishNodeCommand relay.db nodeCommandId .interrupted now errorMessage }, .done)
  | .readModeInputs =>
      match readModeInputs relay.db relay.modeReads with
      | (modeReads, none) => ({ relay with modeReads }, .done)
      | (modeReads, some relayModeInputs) => ({ relay with modeReads }, .loaded relayModeInputs)
  | event =>
      match relay.execution with
      | some execution => executionStep relay execution event
      | none => (relay, .done)

/-- One event; a call of the database waits for the reads before it. -/
def setupStep (relay : SetupRelay) (event : SetupEvent) : SetupRelay × SetupOutcome :=
  if event.isCall ∧ relay.modeReads ≠ .idle then (relay, .done) else setupQueueStep relay event

/-- The wizard, the queue and the worker, from a relay that was never set up. -/
def setupRelay (contacts : Table Contact) : Machine SetupRelay SetupEvent SetupOutcome where
  init := .start contacts
  step := setupStep

end HoptalkRelay
