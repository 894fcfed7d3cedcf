/-
**Relay modes: what the worker may do with the attached node.**

The functions of `worker/relay_modes.py` that decide the mode and the commands it allows.  Its
inputs are loaded by reads that are committed one by one, the configured node first and the active
run last, and an operator's transaction may commit between any two of them.

Main definitions:

* `HoptalkRelay.decideRelayMode` — **the mode**;
* `HoptalkRelay.ModeReads`, `HoptalkRelay.readModeInputs` — the reads of `load_relay_mode_inputs`;
* `HoptalkRelay.findNodeCommandRefusal` — why a command may not run.
-/

import HoptalkRelay.SetupRuns

set_option relaxedAutoImplicit false
set_option autoImplicit false

namespace HoptalkRelay

open Relational

/-! ### The mode -/

inductive RelayMode
  | disconnected
  | notConfigured
  | setupInProgress
  | identityMismatch
  | running
  deriving DecidableEq, Repr

def setupRunStatesOwningTheNode : List SetupRunState := [.resetting, .configuring]

structure ActiveSetupRunSummary where
  setupRunId : ℕ
  state : SetupRunState
  /-- The key the successful factory reset produced. -/
  newPublicKey : Text
  /-- The configured key that began to be imported into the reset node. -/
  restoredPublicKey : Text
  deriving DecidableEq, Repr

/-- `node_setting` as the relay mode sees it. -/
structure ConfiguredNode where
  isConfigured : Bool
  publicKey : Text
  configurationError : Text := []
  /-- A cancelled run may have left this identity on a reset node it never configured. -/
  identityRestoredWithoutConfiguration : Bool := false
  deriving DecidableEq, Repr

structure RelayModeInputs where
  configuredNode : ConfiguredNode
  activeSetupRun : Option ActiveSetupRunSummary
  deriving DecidableEq, Repr

/-- A run that resets or configures owns the node; so does one whose reset or restore produced the
attached key. -/
def isSetupInProgress (connectedNodePublicKey : Text)
    (activeSetupRun : Option ActiveSetupRunSummary) : Bool :=
  match activeSetupRun with
  | none => false
  | some summary =>
      if summary.state ∈ setupRunStatesOwningTheNode then true
      else
        ([summary.newPublicKey, summary.restoredPublicKey].filter fun key => key ≠ []).contains
          connectedNodePublicKey

/-- The first match wins; no key is there until a handshake has finished. -/
def decideRelayMode (connectedNodePublicKey : Option Text) (configuredNode : ConfiguredNode)
    (activeSetupRun : Option ActiveSetupRunSummary) : RelayMode :=
  match connectedNodePublicKey with
  | none => .disconnected
  | some connectedNodePublicKey =>
      if isSetupInProgress connectedNodePublicKey activeSetupRun then .setupInProgress
      else if !configuredNode.isConfigured then .notConfigured
      else if configuredNode.publicKey ≠ [] ∧ connectedNodePublicKey = configuredNode.publicKey then
        if configuredNode.identityRestoredWithoutConfiguration then .notConfigured else .running
      else .identityMismatch

/-! ### The reads -/

def loadActiveSetupRunSummary (db : SetupDb) : Option ActiveSetupRunSummary :=
  (getActiveSetupRun db).map fun activeSetupRun =>
    { setupRunId := activeSetupRun.id
      state := activeSetupRun.state
      newPublicKey := activeSetupRun.newPublicKey
      restoredPublicKey := activeSetupRun.restoredPublicKey }

def readConfiguredPublicKey (db : SetupDb) : Text :=
  (db.nodeConfiguration.map NodeConfiguration.nodePublicKey).getD []

/-- Where `load_relay_mode_inputs` is. -/
inductive ModeReads
  | idle
  /-- The node is configured; the configuration is read next. -/
  | configured
  /-- The greatest id of a completed run is read next. -/
  | configurationRead (publicKey : Text)
  /-- The abandoned runs are read next. -/
  | completedRead (publicKey : Text) (latestId : Option ℕ)
  /-- The active run is read last. -/
  | configuredNodeRead (configuredNode : ConfiguredNode)
  deriving DecidableEq, Repr

/-- One read, and what was loaded after the last one.  A key that is empty was not restored. -/
def readModeInputs (db : SetupDb) : ModeReads → ModeReads × Option RelayModeInputs
  | .idle =>
      if isNodeConfigured db then (.configured, none)
      else (.configuredNodeRead { isConfigured := false, publicKey := [] }, none)
  | .configured =>
      match db.nodeConfiguration with
      | none => (.configuredNodeRead { isConfigured := false, publicKey := [] }, none)
      | some nodeConfiguration =>
          if nodeConfiguration.nodePublicKey = [] then
            (.configuredNodeRead { isConfigured := true, publicKey := [] }, none)
          else (.configurationRead nodeConfiguration.nodePublicKey, none)
  | .configurationRead publicKey => (.completedRead publicKey (latestCompletedRunId db), none)
  | .completedRead publicKey latestId =>
      (.configuredNodeRead
        { isConfigured := true
          publicKey
          identityRestoredWithoutConfiguration := existsAbandonedRestore db publicKey latestId },
        none)
  | .configuredNodeRead configuredNode =>
      (.idle, some ⟨configuredNode, loadActiveSetupRunSummary db⟩)

/-! ### The commands a mode allows -/

def notAllowedWhileDisconnected : Text := "The node is not connected.".toList

def notAllowedOnAnotherNode : Text :=
  "Not allowed while the attached node is not the configured one.".toList

def notAllowedBeforeSetup : Text := "Not allowed before the node has been set up.".toList

def notAllowedDuringSetup : Text := "Not allowed while setup is in progress.".toList

def notAllowedOutsideSetup : Text := "Only the setup wizard's active run can do this.".toList

def notAllowedWhileRelaying : Text :=
  "Not allowed while the node relays messages; start the setup wizard instead.".toList

def describeModeRefusal : RelayMode → Text
  | .identityMismatch => notAllowedOnAnotherNode
  | .notConfigured => notAllowedBeforeSetup
  | .setupInProgress => notAllowedDuringSetup
  | _ => notAllowedWhileDisconnected

/-- `factory_reset` and `configure_node` belong to the active run, in the state that created
them. -/
def findSetupCommandRefusal (setupRunId : Option ℕ) (relayMode : RelayMode)
    (activeSetupRun : Option ActiveSetupRunSummary) (requiredRunState : SetupRunState) :
    Option Text :=
  if relayMode = .running then some notAllowedWhileRelaying
  else if relayMode ≠ .setupInProgress then some notAllowedOutsideSetup
  else
    match activeSetupRun with
    | none => some notAllowedOutsideSetup
    | some summary =>
        if setupRunId ≠ some summary.setupRunId ∨ summary.state ≠ requiredRunState then
          some notAllowedOutsideSetup
        else none

/-- Why a command of this kind and run may not run in this mode. -/
def findNodeCommandRefusal (kind : NodeCommandKind) (setupRunId : Option ℕ) (relayMode : RelayMode)
    (activeSetupRun : Option ActiveSetupRunSummary) : Option Text :=
  if relayMode = .disconnected then some notAllowedWhileDisconnected
  else
    match kind with
    | .readNodeInformation | .stopPairing => none
    | .factoryReset => findSetupCommandRefusal setupRunId relayMode activeSetupRun .resetting
    | .configureNode => findSetupCommandRefusal setupRunId relayMode activeSetupRun .configuring
    | .rebootNode =>
        if relayMode ∈ [.running, .notConfigured, .identityMismatch] then none
        else some (describeModeRefusal relayMode)
    | _ => if relayMode = .running then none else some (describeModeRefusal relayMode)

/-- A setup command is admitted where the node does not relay. -/
theorem not_running_of_admitted {kind : NodeCommandKind} {setupRunId : Option ℕ}
    {relayMode : RelayMode} {activeSetupRun : Option ActiveSetupRunSummary}
    (hkind : kind = .factoryReset ∨ kind = .configureNode)
    (h : findNodeCommandRefusal kind setupRunId relayMode activeSetupRun = none) :
    relayMode = .setupInProgress ∧ ∃ summary, activeSetupRun = some summary ∧
      setupRunId = some summary.setupRunId := by
  have hsetup : ∃ state, findSetupCommandRefusal setupRunId relayMode activeSetupRun state =
      none := by
    unfold findNodeCommandRefusal at h
    split at h
    · cases h
    · rcases hkind with rfl | rfl
      · exact ⟨_, h⟩
      · exact ⟨_, h⟩
  obtain ⟨state, hstate⟩ := hsetup
  unfold findSetupCommandRefusal at hstate
  split at hstate
  · cases hstate
  · split at hstate
    · cases hstate
    · next hmode =>
        refine ⟨not_not.1 hmode, ?_⟩
        split at hstate
        · cases hstate
        · next summary =>
            split at hstate
            · cases hstate
            · next hrun => exact ⟨summary, rfl, not_not.1 (not_or.1 hrun).1⟩

end HoptalkRelay
