/-
**The setup wizard's runs and their commands.**

The state machine of `node/setup_runs.py` over the tables `node_setup_runs` and `node_commands`.  An
operator's confirmation is one transaction that moves the run and creates its command; the worker
reports the outcome of a command through the functions that record it, and a command that ends
unsuccessfully moves its run back.  Of the node's information, its configuration and the backup of
its identity only the columns that these functions read are kept.

Main definitions:

* `HoptalkRelay.NodeSetupRun`, `HoptalkRelay.NodeCommand`, `HoptalkRelay.SetupDb` — the rows;
* `HoptalkRelay.startSetupRun`, `HoptalkRelay.retryReadingNode`, `HoptalkRelay.confirmFactoryReset`,
  `HoptalkRelay.submitNodeConfiguration`, `HoptalkRelay.cancelSetupRun` — the operator;
* `HoptalkRelay.recordNodeInformationRead`, `HoptalkRelay.recordFactoryResetSucceeded`,
  `HoptalkRelay.recordIdentityRestoreStarted`, `HoptalkRelay.recordConfigurationCompleted` — the
  worker;
* `HoptalkRelay.fallBackAfterUnsuccessfulCommand` — **the run of a command that did not succeed**.
-/

import HoptalkRelay.Cards.ContactCards
import HoptalkRelay.Models

set_option relaxedAutoImplicit false
set_option autoImplicit false

namespace HoptalkRelay

open Relational

/-! ### The runs -/

inductive SetupRunPurpose
  | initial
  | reconfigure
  deriving DecidableEq, Repr

inductive SetupRunState
  | readingNode
  | awaitingResetConfirmation
  | resetting
  | awaitingConfiguration
  | configuring
  | completed
  | abandoned
  deriving DecidableEq, Repr

/-- `get_state_display`. -/
def SetupRunState.display : SetupRunState → Text
  | .readingNode => "Reading the node".toList
  | .awaitingResetConfirmation => "Awaiting the reset confirmation".toList
  | .resetting => "Resetting".toList
  | .awaitingConfiguration => "Awaiting the configuration".toList
  | .configuring => "Configuring".toList
  | .completed => "Completed".toList
  | .abandoned => "Abandoned".toList

def setupRunFinalStates : List SetupRunState := [.completed, .abandoned]

def cancellableStates : List SetupRunState :=
  [.readingNode, .awaitingResetConfirmation, .awaitingConfiguration]

/-- What a read of the attached node reports. -/
structure NodeInformation where
  publicKey : Text
  name : Text
  deriving DecidableEq, Repr

/-- The validated form of the wizard's second step. -/
structure RequestedNodeConfiguration where
  nodeName : Text
  radioPresetTitle : Text
  radioFrequencyKilohertz : ℕ
  radioBandwidthHertz : ℕ
  radioSpreadingFactor : ℕ
  radioCodingRate : ℕ
  pathHashSize : ℕ
  transmitPowerDbm : ℤ
  replacePublicChannel : Bool
  /-- Import the configured identity's backed-up key into the reset node. -/
  restoreIdentity : Bool := false
  deriving DecidableEq, Repr

/-- One pass of the setup wizard. -/
structure NodeSetupRun where
  id : ℕ
  purpose : SetupRunPurpose
  state : SetupRunState := .readingNode
  startedAt : Time
  finishedAt : Option Time := none
  originalNodeInformation : Option NodeInformation := none
  originalPublicKey : Text := []
  newPublicKey : Text := []
  /-- The configured key that began to be imported into the reset node. -/
  restoredPublicKey : Text := []
  requestedConfiguration : Option RequestedNodeConfiguration := none
  lastError : Text := []
  /-- Maintained with `state`, for the constraint `node_setup_single_active_run`. -/
  isActive : Bool := true
  deriving DecidableEq

instance : Keyed NodeSetupRun := ⟨NodeSetupRun.id⟩

/-! ### The commands -/

inductive NodeCommandKind
  | readNodeInformation
  | factoryReset
  | configureNode
  | applyConfiguredSettings
  | rebootNode
  | sendAdvert
  | exportContactCard
  | startPairing
  | stopPairing
  | reconcileContacts
  deriving DecidableEq, Repr

/-- `get_kind_display`. -/
def NodeCommandKind.display : NodeCommandKind → Text
  | .readNodeInformation => "Read node information".toList
  | .factoryReset => "Factory reset".toList
  | .configureNode => "Configure node".toList
  | .applyConfiguredSettings => "Apply configured settings".toList
  | .rebootNode => "Reboot node".toList
  | .sendAdvert => "Send advert".toList
  | .exportContactCard => "Export contact card".toList
  | .startPairing => "Start pairing".toList
  | .stopPairing => "Stop pairing".toList
  | .reconcileContacts => "Reconcile contacts".toList

inductive NodeCommandState
  | pending
  | running
  | succeeded
  | failed
  | interrupted
  | expired
  | cancelled
  deriving DecidableEq, Repr

def unsuccessfulStates : List NodeCommandState := [.failed, .interrupted, .expired]

/-- The progress steps of a factory reset, in order. -/
inductive FactoryResetStep
  | receiveWaitingMessages
  | sendResetFrame
  | waitForDisconnect
  | waitForReconnect
  | readNewIdentity
  deriving DecidableEq, Repr

def FactoryResetStep.value : FactoryResetStep → Text
  | .receiveWaitingMessages => "receive_waiting_messages".toList
  | .sendResetFrame => "send_reset_frame".toList
  | .waitForDisconnect => "wait_for_disconnect".toList
  | .waitForReconnect => "wait_for_reconnect".toList
  | .readNewIdentity => "read_new_identity".toList

inductive ProgressStepState
  | running
  | done
  | failed
  | skipped
  deriving DecidableEq, Repr

/-- One entry of a command's progress. -/
structure ProgressStep where
  step : Text
  state : ProgressStepState
  detail : Text
  recordedAt : Time
  deriving DecidableEq

/-- A request from the web to the worker, which alone talks to the node. -/
structure NodeCommand where
  id : ℕ
  kind : NodeCommandKind
  state : NodeCommandState := .pending
  setupRunId : Option ℕ := none
  createdAt : Time
  /-- The worker never starts a command after this. -/
  expiresAt : Time
  claimedAt : Option Time := none
  finishedAt : Option Time := none
  claimedByWorkerInstance : Option ℕ := none
  progress : List ProgressStep := []
  errorMessage : Text := []
  deriving DecidableEq

instance : Keyed NodeCommand := ⟨NodeCommand.id⟩

@[simp] theorem key_setupRun (r : NodeSetupRun) : key r = r.id := rfl
@[simp] theorem key_nodeCommand (r : NodeCommand) : key r = r.id := rfl

/-! ### The database of the wizard -/

/-- The configuration in `node_setting`; the table holds none or all of its keys. -/
structure NodeConfiguration where
  nodePublicKey : Text
  setupRunId : ℕ
  deriving DecidableEq, Repr

/-- The optional key of `node_setting`: the node's encrypted private key. -/
structure NodeIdentityBackup where
  publicKey : Text
  deriving DecidableEq, Repr

structure SetupDb where
  runs : Table NodeSetupRun
  commands : Table NodeCommand
  nodeConfiguration : Option NodeConfiguration
  nodeIdentityBackup : Option NodeIdentityBackup
  contacts : Table Contact

inductive SetupError
  /-- `SetupRunTransitionError`: the message is shown to the operator. -/
  | transition (message : Text)
  /-- `ValueError`. -/
  | value (message : Text)
  deriving DecidableEq, Repr

namespace SetupDb

/-- The database before the first setup. -/
def empty (contacts : Table Contact) : SetupDb where
  runs := .empty
  commands := .empty
  nodeConfiguration := none
  nodeIdentityBackup := none
  contacts := contacts

def putRun (db : SetupDb) (setupRun : NodeSetupRun) : SetupDb :=
  { db with runs := db.runs.put setupRun }

def putCommand (db : SetupDb) (nodeCommand : NodeCommand) : SetupDb :=
  { db with commands := db.commands.put nodeCommand }

/-- `setup_run.node_commands`, by id. -/
def commandsOf (db : SetupDb) (setupRunId : ℕ) : List NodeCommand :=
  db.commands.filter fun nodeCommand => nodeCommand.setupRunId = some setupRunId

end SetupDb

def isNodeConfigured (db : SetupDb) : Bool := db.nodeConfiguration.isSome

def getActiveSetupRun (db : SetupDb) : Option NodeSetupRun := db.runs.first? (·.isActive)

def findLatestSetupRunCommand (db : SetupDb) (setupRunId : ℕ) : Option NodeCommand :=
  (db.commandsOf setupRunId).getLast?

/-- The greatest id of a completed run. -/
def latestCompletedRunId (db : SetupDb) : Option ℕ :=
  ((db.runs.filter fun row => row.state = .completed).getLast?).map NodeSetupRun.id

/-- The abandoned runs after this one that began to import the key. -/
def existsAbandonedRestore (db : SetupDb) (configuredPublicKey : Text) (latestId : Option ℕ) :
    Bool :=
  db.runs.any fun row =>
    row.state = .abandoned && row.restoredPublicKey = configuredPublicKey &&
      latestId.getD 0 < row.id

/-! ### The command rows -/

def shortCommandLifetimeSeconds : ℕ := 60

def defaultCommandLifetimeSeconds : ℕ := 300

def commandLifetimeSeconds : NodeCommandKind → ℕ
  | .factoryReset | .configureNode | .rebootNode | .startPairing => shortCommandLifetimeSeconds
  | .readNodeInformation | .applyConfiguredSettings | .sendAdvert | .exportContactCard
  | .stopPairing | .reconcileContacts => defaultCommandLifetimeSeconds

/-- A pending command with the lifetime of its kind. -/
def buildNodeCommand (kind : NodeCommandKind) (now : Time) (setupRunId : Option ℕ) (id : ℕ) :
    NodeCommand where
  id := id
  kind := kind
  state := .pending
  setupRunId := setupRunId
  createdAt := now
  expiresAt := now + durationOfSeconds (commandLifetimeSeconds kind)

def createNodeCommand (db : SetupDb) (kind : NodeCommandKind) (now : Time)
    (setupRunId : Option ℕ) : SetupDb × NodeCommand :=
  ({ db with commands := db.commands.insert (buildNodeCommand kind now setupRunId) },
    buildNodeCommand kind now setupRunId db.commands.nextKey)

/-- A pending command becomes cancelled; one the worker claimed first stays as it is. -/
def cancelNodeCommand (db : SetupDb) (nodeCommandId : ℕ) (now : Time) : SetupDb :=
  { db with
    commands := db.commands.updateWhere (fun row => row.id = nodeCommandId && row.state = .pending)
      fun row => { row with state := .cancelled, finishedAt := some now } }

def cancelPendingSetupRunCommands (db : SetupDb) (setupRunId : ℕ) (now : Time) : SetupDb :=
  (((db.commandsOf setupRunId).filter fun row => row.state = .pending).map NodeCommand.id).foldl
    (fun db nodeCommandId => cancelNodeCommand db nodeCommandId now) db

/-! ### The run rows -/

def lockSetupRun (db : SetupDb) (setupRunId : ℕ) : Except SetupError NodeSetupRun :=
  match db.runs.get? setupRunId with
  | some setupRun => .ok setupRun
  | none => .error (.transition "This setup run does not exist.".toList)

def requireSetupRunState (setupRun : NodeSetupRun) (requiredState : SetupRunState) :
    Except SetupError Unit :=
  if setupRun.state ≠ requiredState then
    .error (.transition ("This step is not possible while setup is ".toList ++
      setupRun.state.display.map Char.toLower ++
        ". Reload the page to see where it stands.".toList))
  else .ok ()

/-- The state together with what follows from it; no error keeps the one the run already shows. -/
def NodeSetupRun.moved (setupRun : NodeSetupRun) (newState : SetupRunState) (now : Time)
    (lastError : Option Text) : NodeSetupRun :=
  let isFinalState := setupRunFinalStates.contains newState
  { setupRun with
    state := newState
    isActive := !isFinalState
    finishedAt := if isFinalState then some now else none
    lastError := lastError.getD setupRun.lastError }

def moveSetupRun (db : SetupDb) (setupRun : NodeSetupRun) (newState : SetupRunState) (now : Time)
    (lastError : Option Text) : SetupDb :=
  db.putRun (setupRun.moved newState now lastError)

/-! ### The operator -/

/-- The run, reading the node, as it is created. -/
def buildSetupRun (purpose : SetupRunPurpose) (now : Time) (id : ℕ) : NodeSetupRun where
  id := id
  purpose := purpose
  state := .readingNode
  startedAt := now
  isActive := true

def createSetupRun (db : SetupDb) (purpose : SetupRunPurpose) (now : Time) :
    SetupDb × NodeSetupRun :=
  ({ db with runs := db.runs.insert (buildSetupRun purpose now) },
    buildSetupRun purpose now db.runs.nextKey)

def startSetupRun (db : SetupDb) (now : Time) : Except SetupError (SetupDb × NodeSetupRun) :=
  let purpose : SetupRunPurpose := if isNodeConfigured db then .reconfigure else .initial
  -- the constraint `node_setup_single_active_run`
  if db.runs.any (·.isActive) then
    .error (.transition "Another setup run is already in progress.".toList)
  else
    let (db, setupRun) := createSetupRun db purpose now
    .ok ((createNodeCommand db .readNodeInformation now (some setupRun.id)).1, setupRun)

/-- The run of the "Retry" button is locked and may be read again. -/
def lockRunToRetry (db : SetupDb) (setupRunId : ℕ) : Except SetupError NodeSetupRun := do
  let setupRun ← lockSetupRun db setupRunId
  requireSetupRunState setupRun .readingNode
  if (db.commandsOf setupRunId).any fun row => row.state = .running then
    throw (.transition "The node is being read right now.".toList)
  return setupRun

/-- The rest of the transaction.  Other transactions may commit between the check and here, as long
as they need no lock on the run. -/
def retryReadingNode (db : SetupDb) (setupRun : NodeSetupRun) (now : Time) :
    SetupDb × NodeCommand :=
  let db := cancelPendingSetupRunCommands db setupRun.id now
  let db := db.putRun { setupRun with lastError := [] }
  createNodeCommand db .readNodeInformation now (some setupRun.id)

def unnamedNodeConfirmationKeyDigits : ℕ := 8

/-- The node's current name, or the first digits of its key when it has none. -/
def findExpectedFactoryResetConfirmation (setupRun : NodeSetupRun) : Text :=
  match setupRun.originalNodeInformation with
  | none => []
  | some nodeInformation =>
      if nodeInformation.name ≠ [] then nodeInformation.name
      else nodeInformation.publicKey.take unnamedNodeConfirmationKeyDigits

/-- `str.strip`. -/
def stripText (text : Text) : Text :=
  ((text.dropWhile isWhitespace).reverse.dropWhile isWhitespace).reverse

def confirmFactoryReset (db : SetupDb) (setupRunId : ℕ) (typedConfirmation : Text) (now : Time) :
    Except SetupError (SetupDb × NodeCommand) := do
  let setupRun ← lockSetupRun db setupRunId
  requireSetupRunState setupRun .awaitingResetConfirmation
  let expectedConfirmation := findExpectedFactoryResetConfirmation setupRun
  if expectedConfirmation = [] ∨ stripText typedConfirmation ≠ expectedConfirmation then
    throw (.transition ("Type the node's current name, ".toList ++ expectedConfirmation ++
      ", exactly to confirm the factory reset.".toList))
  let db := moveSetupRun db setupRun .resetting now (some [])
  return createNodeCommand db .factoryReset now (some setupRun.id)

def submitNodeConfiguration (db : SetupDb) (setupRunId : ℕ)
    (requestedConfiguration : RequestedNodeConfiguration) (now : Time) :
    Except SetupError (SetupDb × NodeCommand) := do
  let setupRun ← lockSetupRun db setupRunId
  requireSetupRunState setupRun .awaitingConfiguration
  let setupRun := { setupRun with requestedConfiguration := some requestedConfiguration }
  let db := moveSetupRun db setupRun .configuring now (some [])
  return createNodeCommand db .configureNode now (some setupRun.id)

/-- An abandoned run keeps its restored key: the node may hold it without its settings. -/
def cancelSetupRun (db : SetupDb) (setupRunId : ℕ) (now : Time) : Except SetupError SetupDb := do
  let setupRun ← lockSetupRun db setupRunId
  if setupRun.state ∉ cancellableStates then
    throw (.transition ("Setup cannot be cancelled while it is ".toList ++
      setupRun.state.display.map Char.toLower ++ ['.']))
  let db := cancelPendingSetupRunCommands db setupRun.id now
  return moveSetupRun db setupRun .abandoned now none

/-! ### The worker -/

/-- The wiped node holds no contacts, so every one of them is to be added again. -/
def completeFactoryReset (db : SetupDb) (setupRun : NodeSetupRun) (newPublicKey : Text)
    (now : Time) : SetupDb :=
  let db :=
    { db with
      contacts := db.contacts.updateWhere (fun _ => true) fun row =>
        { row with nodeSyncState := .pendingAdd, nodeSyncError := [] } }
  moveSetupRun db { setupRun with newPublicKey } .awaitingConfiguration now (some [])

/-- A run that no longer reads the node is left alone. -/
def recordNodeInformationRead (db : SetupDb) (setupRunId : ℕ) (readInformation : NodeInformation)
    (now : Time) : Except SetupError SetupDb := do
  let setupRun ← lockSetupRun db setupRunId
  if setupRun.state ≠ .readingNode then
    return db
  -- after a reset the node is read again, and a changed key shows that it was reset
  if setupRun.originalPublicKey ≠ [] ∧ readInformation.publicKey ≠ setupRun.originalPublicKey then
    return completeFactoryReset db setupRun readInformation.publicKey now
  let setupRun :=
    { setupRun with
      originalNodeInformation := some readInformation
      originalPublicKey := readInformation.publicKey }
  return moveSetupRun db setupRun .awaitingResetConfirmation now (some [])

def recordFactoryResetSucceeded (db : SetupDb) (setupRunId : ℕ) (newPublicKey : Text)
    (now : Time) : Except SetupError SetupDb := do
  let setupRun ← lockSetupRun db setupRunId
  requireSetupRunState setupRun .resetting
  if newPublicKey = setupRun.originalPublicKey then
    throw (.transition "The node kept its identity, so it was not reset.".toList)
  return completeFactoryReset db setupRun newPublicKey now

/-- Noted before the import frame is sent: the node may hold this identity from now on. -/
def recordIdentityRestoreStarted (db : SetupDb) (setupRunId : ℕ) (restoredPublicKey : Text) :
    Except SetupError SetupDb := do
  let setupRun ← lockSetupRun db setupRunId
  requireSetupRunState setupRun .configuring
  return db.putRun { setupRun with restoredPublicKey }

/-- Without a new backup the stored one stays only if it is the configured key's. -/
def recordConfigurationCompleted (db : SetupDb) (setupRunId : ℕ)
    (nodeConfiguration : NodeConfiguration) (now : Time)
    (nodeIdentityBackup : Option NodeIdentityBackup) : Except SetupError SetupDb := do
  if nodeIdentityBackup.any fun backup => backup.publicKey ≠ nodeConfiguration.nodePublicKey then
    throw (.value
      "The identity backup written with a configuration must be the configured key's.".toList)
  let setupRun ← lockSetupRun db setupRunId
  requireSetupRunState setupRun .configuring
  let keptBackup := db.nodeIdentityBackup.filter fun backup =>
    backup.publicKey = nodeConfiguration.nodePublicKey
  let db :=
    { db with
      nodeConfiguration := some nodeConfiguration
      nodeIdentityBackup := nodeIdentityBackup.or keptBackup }
  return moveSetupRun db setupRun .completed now (some [])

/-! ### Commands that did not succeed -/

def describeUnsuccessfulSetupCommand (nodeCommand : NodeCommand) : Text :=
  let actionDescription : Text :=
    match nodeCommand.kind with
    | .readNodeInformation => "Reading the node".toList
    | .factoryReset => "The factory reset".toList
    | .configureNode => "Configuring the node".toList
    | kind => kind.display
  let outcomeDescription : Text :=
    match nodeCommand.state with
    | .failed => "failed".toList
    | .interrupted => "was interrupted".toList
    | .expired => "did not start".toList
    | _ => "did not succeed".toList
  let reason : Text :=
    if nodeCommand.errorMessage ≠ [] then nodeCommand.errorMessage
    else "No reason was reported.".toList
  actionDescription ++ ' ' :: outcomeDescription ++ [':', ' '] ++ reason

/-- The command's progress reached the reset frame, whatever that step's state. -/
def factoryResetFrameMayHaveBeenSent (nodeCommand : NodeCommand) : Bool :=
  nodeCommand.progress.any fun storedStep =>
    storedStep.step = FactoryResetStep.sendResetFrame.value

def fallBackAfterUnsuccessfulFactoryReset (db : SetupDb) (setupRun : NodeSetupRun)
    (nodeCommand : NodeCommand) (lastError : Text) (now : Time) : SetupDb :=
  if !factoryResetFrameMayHaveBeenSent nodeCommand then
    moveSetupRun db setupRun .awaitingResetConfirmation now (some lastError)
  else
    -- the node may have been reset, so its identity is read again
    let db := moveSetupRun db setupRun .readingNode now (some (lastError ++
      " The node is being read again to find out whether it was reset.".toList))
    (createNodeCommand db .readNodeInformation now (some setupRun.id)).1

/-- The run of a command that did not succeed, unless it already moved on. -/
def fallBackLatestCommand (db : SetupDb) (setupRun : NodeSetupRun) (nodeCommand : NodeCommand)
    (now : Time) : SetupDb :=
  let lastError := describeUnsuccessfulSetupCommand nodeCommand
  match nodeCommand.kind, setupRun.state with
  | .readNodeInformation, .readingNode => db.putRun { setupRun with lastError }
  | .factoryReset, .resetting =>
      fallBackAfterUnsuccessfulFactoryReset db setupRun nodeCommand lastError now
  | .configureNode, .configuring =>
      moveSetupRun db setupRun .awaitingConfiguration now (some lastError)
  | _, _ => db

/-- A command that is no longer the run's latest one changes nothing.  A run is never deleted, so
the lock finds it. -/
def fallBackAfterUnsuccessfulCommand (db : SetupDb) (nodeCommand : NodeCommand) (now : Time) :
    SetupDb :=
  match nodeCommand.setupRunId with
  | none => db
  | some setupRunId =>
      match db.runs.get? setupRunId with
      | none => db
      | some setupRun =>
          if (db.commandsOf setupRunId).any fun row => nodeCommand.id < row.id then db
          else fallBackLatestCommand db setupRun nodeCommand now

end HoptalkRelay
