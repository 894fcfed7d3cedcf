/-
**Supervising the connection to the node.**

The connection supervisor and the executor of the panel's commands, over the setup relay.  A client
is attached, shakes hands and is torn down again; the relay mode is published after a handshake, at
a teardown and whenever somebody recomputes it; and a claimed command is admitted by the mode.

What a coroutine does between two of its awaits is one step.  The worker's calls of the database
run one after the other on one thread, and their callers go on in the order in which the calls
ended: an answer waits behind the answers before it.  A caller may be gone by then, and a call may
have raised.  Claims, recomputations and the end of a connection may come at any time.

The back-off, the watchdog's checks and what is only shown in the panel are left out.

Main definitions:

* `HoptalkRelay.ConnectionPhase`, `HoptalkRelay.CommandStage` — where the supervisor and the
  executor are;
* `HoptalkRelay.RelaySupervision` — the worker;
* `HoptalkRelay.hearAnswer`, `HoptalkRelay.superviseSetup`, `HoptalkRelay.supervisionStep`,
  `HoptalkRelay.relaySupervision` — what it does.
-/

import HoptalkRelay.SetupRelay

set_option relaxedAutoImplicit false
set_option autoImplicit false

namespace HoptalkRelay

open Relational Transition

/-! ### The state -/

/-- Where `_connect_once` is. -/
inductive ConnectionPhase
  | disconnected
  | connecting
  /-- The device query, the node's identity and its clock. -/
  | handshaking
  /-- The node has this key, and the mode's inputs are loaded next. -/
  | identified (publicKey : Text)
  | loadingModeInputs (publicKey : Text)
  /-- The settings are checked where the node is to relay, and then the backup. -/
  | checkingSettings (publicKey : Text) (relayMode : RelayMode)
  | connected
  deriving DecidableEq, Repr

/-- Where the executor is with the command it claimed. -/
inductive CommandStage
  | claimed
  /-- The active run was read, and its answer is on the way. -/
  | checked
  | refused (refusal : Text)
  | admitted
  /-- `configure_node` has confirmed the settings and saves them. -/
  | saving
  /-- The call that saves them has ended, and its answer is on the way. -/
  | saved
  /-- Its task ends; a call of the handler may still run. -/
  | abandoned (isCalling : Bool)
  deriving DecidableEq, Repr

/-- Who loads the inputs of the mode; clients are counted. -/
inductive ModeCaller
  | handshake (client : ℕ)
  | recomputation
  deriving DecidableEq, Repr

/-- What the database thread answered. -/
inductive DatabaseAnswer
  | modeInputs (caller : ModeCaller) (relayModeInputs : RelayModeInputs)
  | activeSetupRun (activeSetupRun : Option ActiveSetupRunSummary)
  | configurationSaved (isSaved : Bool)
  deriving DecidableEq, Repr

def DatabaseAnswer.isModeInputs : DatabaseAnswer → Bool
  | .modeInputs _ _ => true
  | _ => false

structure RelaySupervision where
  setup : SetupRelay
  phase : ConnectionPhase
  /-- The clients that were attached. -/
  clients : ℕ
  connectedNodePublicKey : Option Text
  nodeSettingsCheckedOnThisConnection : Bool
  reconnectRequested : Bool
  connectionGeneration : ℕ
  relayMode : RelayMode
  loading : Option ModeCaller
  /-- The answers that are on the way, oldest first. -/
  answers : List DatabaseAnswer
  stage : CommandStage

inductive SupervisionEvent
  | setup (event : SetupEvent)
  | connectStarts
  | connectFails
  | clientAttached
  | nodeIdentified (publicKey : Text)
  | handshakeLoads
  | recomputationLoads
  /-- The load raises, and nobody is answered. -/
  | loadRaises
  | answerArrives
  /-- The call raised after its commit, or its caller is gone. -/
  | answerLost
  | handshakeCompletes
  | connectionEnds
  | requestReconnect
  /-- `_execute_claimed_command` reads the active run. -/
  | readActiveSetupRun
  | confirmNodeSettingsVerified
  /-- The call that saves the configuration raises before its commit. -/
  | savingRaises
  | handlerCancelled
  | recordNodeIdentity (publicKey : Text)
  deriving DecidableEq

inductive SupervisionOutcome
  | done
  | setup (outcome : SetupOutcome)
  | attached
  | connected (relayMode : RelayMode)
  | disconnected
  | settingsConfirmed
  | settingsWithdrawn
  deriving DecidableEq

def claimedAtShutdownErrorMessage : Text :=
  "The relay worker stopped before this command could run.".toList

namespace RelaySupervision

/-- A worker that starts on this database. -/
def ofSetup (setup : SetupRelay) : RelaySupervision where
  setup
  phase := .disconnected
  clients := 0
  connectedNodePublicKey := none
  nodeSettingsCheckedOnThisConnection := false
  reconnectRequested := false
  connectionGeneration := 0
  relayMode := .disconnected
  loading := none
  answers := []
  stage := .claimed

/-- The run of the command was told what it achieved. -/
def outcomeIsRecorded (relay : RelaySupervision) : Bool :=
  relay.setup.execution.any (·.outcomeRecorded)

/-- The executor's task no longer hears its answers. -/
def forgetAnswers (relay : RelaySupervision) : RelaySupervision :=
  { relay with answers := relay.answers.filter DatabaseAnswer.isModeInputs }

/-! ### The relay mode -/

/-- `recompute_relay_mode`, once its inputs are loaded.  A node whose settings were not checked on
this connection is reconnected before it relays. -/
def recompute (relay : RelaySupervision) (relayModeInputs : RelayModeInputs) : RelaySupervision :=
  let connectedNodePublicKey :=
    if relay.phase = .connected then relay.connectedNodePublicKey else none
  let relayMode := decideRelayMode connectedNodePublicKey relayModeInputs.configuredNode
    relayModeInputs.activeSetupRun
  if relayMode = .running ∧ relay.nodeSettingsCheckedOnThisConnection = false then
    { relay with reconnectRequested := true }
  else { relay with relayMode }

/-- `_run_handshake_steps`, once its inputs are loaded; an older client's are heard by nobody. -/
def decideAtHandshake (relay : RelaySupervision) (client : ℕ) (relayModeInputs : RelayModeInputs) :
    RelaySupervision :=
  match relay.phase with
  | .loadingModeInputs publicKey =>
      if client = relay.clients then
        { relay with
          phase := .checkingSettings publicKey
            (decideRelayMode (some publicKey) relayModeInputs.configuredNode
              relayModeInputs.activeSetupRun) }
      else relay
  | _ => relay

/-- `_mark_connected`. -/
def markConnected (relay : RelaySupervision) (publicKey : Text) (relayMode : RelayMode) :
    RelaySupervision :=
  { relay with
    phase := .connected
    connectedNodePublicKey := some publicKey
    nodeSettingsCheckedOnThisConnection := relayMode = .running
    connectionGeneration := relay.connectionGeneration + 1
    relayMode }

/-- `_tear_down`, up to its first await. -/
def tearDown (relay : RelaySupervision) : RelaySupervision :=
  { relay with phase := .disconnected, connectedNodePublicKey := none, relayMode := .disconnected }

/-! ### The command -/

/-- `_execute_claimed_command`, once the active run is read. -/
def hearActiveSetupRun (relay : RelaySupervision)
    (activeSetupRun : Option ActiveSetupRunSummary) : RelaySupervision :=
  match relay.stage, relay.setup.execution with
  | .checked, some execution =>
      match findNodeCommandRefusal execution.kind execution.setupRunId relay.relayMode
        activeSetupRun with
      | some refusal => { relay with stage := .refused refusal }
      | none => { relay with stage := .admitted }
  | _, _ => relay

/-- `_persist_configuration`, once its call has ended. -/
def hearSaved (relay : RelaySupervision) (isSaved : Bool) : RelaySupervision × SupervisionOutcome :=
  match relay.stage with
  | .saved =>
      if isSaved then ({ relay with stage := .admitted }, .done)
      else
        ({ relay with stage := .admitted, nodeSettingsCheckedOnThisConnection := false },
          .settingsWithdrawn)
  | _ => (relay, .done)

/-- The call that saves the configuration has ended; a handler that was cancelled is not told. -/
def savingEnds (relay : RelaySupervision) (setup : SetupRelay) (isSaved : Bool) :
    RelaySupervision :=
  if relay.stage = .saving then
    { relay with
      setup
      stage := .saved
      answers := relay.answers ++ [.configurationSaved isSaved] }
  else { relay with setup, stage := .abandoned false }

/-- The handler of `configure_node` runs, and its run was not told. -/
def isConfiguring (relay : RelaySupervision) : Bool :=
  relay.stage = .admitted && relay.setup.execution.any fun execution =>
    execution.kind = .configureNode && execution.setupRunId.isSome && !execution.outcomeRecorded

end RelaySupervision

open RelaySupervision

/-! ### The steps -/

/-- The caller of a call that has ended goes on. -/
def hearAnswer (relay : RelaySupervision) : DatabaseAnswer → RelaySupervision × SupervisionOutcome
  | .modeInputs (.handshake client) relayModeInputs =>
      (relay.decideAtHandshake client relayModeInputs, .done)
  | .modeInputs .recomputation relayModeInputs => (relay.recompute relayModeInputs, .done)
  | .activeSetupRun activeSetupRun => (relay.hearActiveSetupRun activeSetupRun, .done)
  | .configurationSaved isSaved => relay.hearSaved isSaved

/-- A caller hears that its call raised, or is gone; the executor's task ends where it is to read
the active run. -/
def loseAnswer (relay : RelaySupervision) : DatabaseAnswer → RelaySupervision × SupervisionOutcome
  | .modeInputs _ _ => (relay, .done)
  | .activeSetupRun _ =>
      if relay.stage = .checked then ({ relay with stage := .abandoned false }, .done)
      else (relay, .done)
  | .configurationSaved _ => relay.hearSaved false

/-- The events of a handler, while it runs; it reports to its run once. -/
def allowsSetup (relay : RelaySupervision) : SetupEvent → Bool
  | .recordNodeCommandProgress _ | .readConfiguredPublicKey | .recordIdentityRestoreStarted =>
      relay.stage = .admitted
  -- the frame is sent before the reset is recorded
  | .sendResetFrame | .recordNodeInformationRead _ _ | .recordFactoryResetSucceeded _ _ =>
      relay.stage = .admitted && !relay.outcomeIsRecorded
  | .recordConfigurationCompleted _ _ _ =>
      (relay.stage = .saving || relay.stage = .abandoned true) && !relay.outcomeIsRecorded
  | .finishNodeCommand commandEnd _ errorMessage =>
      match relay.stage with
      | .admitted => true
      | .refused refusal => commandEnd = .failed && errorMessage = refusal
      | .claimed => commandEnd = .interrupted && errorMessage = claimedAtShutdownErrorMessage
      | _ => false
  | .executorStops => relay.stage ≠ .saving && relay.stage ≠ .saved
  | .readModeInputs => relay.loading.isSome
  | _ => true

/-- What a transaction means to the supervisor and the executor. -/
def afterSetup (relay : RelaySupervision) (event : SetupEvent) (setup : SetupRelay)
    (outcome : SetupOutcome) : RelaySupervision :=
  match event, outcome with
  | .readModeInputs, .loaded relayModeInputs =>
      { relay with
        setup
        loading := none
        answers := relay.answers ++
          [.modeInputs (relay.loading.getD .recomputation) relayModeInputs] }
  | .recordConfigurationCompleted _ _ _, .completed _ => relay.savingEnds setup true
  | .recordConfigurationCompleted _ _ _, .refused _ => relay.savingEnds setup false
  | .claimNextNodeCommand _ _ _, .claimed _ => { relay with setup, stage := .claimed }
  | .finishNodeCommand _ _ _, _ =>
      if setup.execution.isNone then { relay with setup, stage := .claimed }
      else { relay with setup }
  | .executorStops, _ => { relay.forgetAnswers with setup, stage := .claimed }
  | .processStops, _ => .ofSetup setup
  | _, _ => { relay with setup }

/-- An event of the panel, of the queue or of a handler. -/
def superviseSetup (relay : RelaySupervision) (event : SetupEvent) :
    RelaySupervision × SupervisionOutcome :=
  if allowsSetup relay event then
    let (setup, outcome) := setupStep relay.setup event
    (afterSetup relay event setup outcome,
      if event = .processStops then .disconnected else .setup outcome)
  else (relay, .done)

/-- The supervisor's own events. -/
def connectionStep (relay : RelaySupervision) :
    SupervisionEvent → RelaySupervision × SupervisionOutcome
  | .connectStarts =>
      if relay.phase = .disconnected then ({ relay with phase := .connecting }, .done)
      else (relay, .done)
  | .connectFails =>
      if relay.phase = .connecting then ({ relay with phase := .disconnected }, .done)
      else (relay, .done)
  | .clientAttached =>
      if relay.phase = .connecting then
        ({ relay with
            phase := .handshaking
            clients := relay.clients + 1
            reconnectRequested := false
            nodeSettingsCheckedOnThisConnection := false },
          .attached)
      else (relay, .done)
  | .nodeIdentified publicKey =>
      if relay.phase = .handshaking then
        ({ relay with phase := .identified publicKey }, .done)
      else (relay, .done)
  | .handshakeCompletes =>
      match relay.phase with
      | .checkingSettings publicKey relayMode =>
          (relay.markConnected publicKey relayMode, .connected relayMode)
      | _ => (relay, .done)
  | .connectionEnds =>
      match relay.phase with
      | .disconnected | .connecting => (relay, .done)
      | _ => (relay.tearDown, .disconnected)
  | .requestReconnect => ({ relay with reconnectRequested := true }, .done)
  | _ => (relay, .done)

/-- The loads of the mode's inputs; the database thread is free. -/
def loadStep (relay : RelaySupervision) : SupervisionEvent → RelaySupervision × SupervisionOutcome
  | .handshakeLoads =>
      match relay.phase with
      | .identified publicKey =>
          if relay.loading.isNone ∧ relay.setup.modeReads = .idle then
            ({ relay with
                phase := .loadingModeInputs publicKey
                loading := some (.handshake relay.clients) },
              .done)
          else (relay, .done)
      | _ => (relay, .done)
  | .recomputationLoads =>
      if relay.loading.isNone ∧ relay.setup.modeReads = .idle then
        ({ relay with loading := some .recomputation }, .done)
      else (relay, .done)
  | .loadRaises =>
      ({ relay with loading := none, setup := { relay.setup with modeReads := .idle } }, .done)
  | _ => (relay, .done)

/-- The executor's own events, and those of a handler that need no transaction. -/
def commandStep (relay : RelaySupervision) :
    SupervisionEvent → RelaySupervision × SupervisionOutcome
  | .readActiveSetupRun =>
      if relay.stage = .claimed ∧ relay.setup.execution.isSome ∧ relay.setup.modeReads = .idle then
        ({ relay with
            stage := .checked
            answers := relay.answers ++
              [.activeSetupRun (loadActiveSetupRunSummary relay.setup.db)] },
          .done)
      else (relay, .done)
  | .confirmNodeSettingsVerified =>
      if relay.isConfiguring then
        ({ relay with stage := .saving, nodeSettingsCheckedOnThisConnection := true },
          .settingsConfirmed)
      else (relay, .done)
  | .savingRaises =>
      if relay.stage = .saving then (relay.savingEnds relay.setup false, .done)
      else (relay, .done)
  | .handlerCancelled =>
      if relay.stage = .saving ∨ relay.stage = .saved then
        ({ relay.forgetAnswers with
            stage := .abandoned (relay.stage = .saving)
            nodeSettingsCheckedOnThisConnection := false },
          .settingsWithdrawn)
      else (relay, .done)
  | .recordNodeIdentity publicKey =>
      if relay.isConfiguring then
        ({ relay with connectedNodePublicKey := some publicKey }, .done)
      else (relay, .done)
  | _ => (relay, .done)

def supervisionStep (relay : RelaySupervision) (event : SupervisionEvent) :
    RelaySupervision × SupervisionOutcome :=
  match event with
  | .setup event => superviseSetup relay event
  | .answerArrives =>
      match relay.answers with
      | [] => (relay, .done)
      | answer :: answers => hearAnswer { relay with answers } answer
  | .answerLost =>
      match relay.answers with
      | [] => (relay, .done)
      | answer :: answers => loseAnswer { relay with answers } answer
  | .handshakeLoads | .recomputationLoads | .loadRaises => loadStep relay event
  | .readActiveSetupRun | .confirmNodeSettingsVerified | .savingRaises | .handlerCancelled
  | .recordNodeIdentity _ => commandStep relay event
  | event => connectionStep relay event

/-- The worker on a relay that was never set up. -/
def relaySupervision (contacts : Table Contact) :
    Machine RelaySupervision SupervisionEvent SupervisionOutcome where
  init := .ofSetup (.start contacts)
  step := supervisionStep

end HoptalkRelay
