/-
**What a node that relays was checked for.**

A node is relayed over on a connection on which the handshake checked its settings or the handler
that configured it confirmed them; and its key is the one for which inputs that were loaded decide
on relaying.  A check counts until the connection ends or the check is withdrawn.

Main definitions:

* `HoptalkRelay.RelaySupervision.IsChecked` — the connection is up and its node was checked;
* `HoptalkRelay.DecidedOk` — the published mode and those on the way rest on what was loaded.

Main results:

* `HoptalkRelay.checkMove_supervisionStep` — how a connection comes to be checked, and stays so;
* `HoptalkRelay.relays_over_a_checked_connection` — **what relays was checked**.
-/

import HoptalkRelay.Invariants.Supervision

set_option relaxedAutoImplicit false
set_option autoImplicit false

namespace HoptalkRelay

open Relational Transition

/-! ### The check of a connection -/

/-- The connection is up, and the settings of its node were checked on it. -/
def RelaySupervision.IsChecked (relay : RelaySupervision) : Prop :=
  relay.phase = .connected ∧ relay.nodeSettingsCheckedOnThisConnection = true

namespace SupervisionOutcome

/-- The settings were checked by a handshake that is to relay, or a setup run confirmed them. -/
def isCheck : SupervisionOutcome → Bool
  | .connected relayMode => relayMode = .running
  | .settingsConfirmed => true
  | _ => false

/-- No earlier check counts. -/
def endsCheck : SupervisionOutcome → Bool
  | .attached | .connected _ | .disconnected | .settingsWithdrawn => true
  | _ => false

end SupervisionOutcome

/-- What an outcome says about the check. -/
structure CheckMove (relay relay' : RelaySupervision) (outcome : SupervisionOutcome) : Prop where
  entered : ¬ relay.IsChecked → relay'.IsChecked → outcome.isCheck = true
  kept : relay.IsChecked → relay'.IsChecked → outcome.endsCheck = false

section Checks

variable {relay relay' : RelaySupervision} {outcome : SupervisionOutcome}

theorem CheckMove.frame (hphase : relay'.phase = relay.phase)
    (hchecked : relay'.nodeSettingsCheckedOnThisConnection =
      relay.nodeSettingsCheckedOnThisConnection) (houtcome : outcome.endsCheck = false) :
    CheckMove relay relay' outcome := by
  refine ⟨fun hunchecked hchecked' => absurd ?_ hunchecked, fun _ _ => houtcome⟩
  exact ⟨hphase ▸ hchecked'.1, hchecked ▸ hchecked'.2⟩

theorem CheckMove.unchecked (h : ¬ relay'.IsChecked) : CheckMove relay relay' outcome :=
  ⟨fun _ h' => absurd h' h, fun _ h' => absurd h' h⟩

/-- A phase in which no connection is up. -/
theorem CheckMove.phase (h : relay'.phase ≠ .connected) : CheckMove relay relay' outcome :=
  .unchecked fun hchecked => h hchecked.1

theorem checkMove_hearSaved (isSaved : Bool) :
    CheckMove relay (relay.hearSaved isSaved).1 (relay.hearSaved isSaved).2 := by
  unfold RelaySupervision.hearSaved
  split
  · split
    · exact .frame rfl rfl rfl
    · exact .unchecked fun hchecked => by cases hchecked.2
  · exact .frame rfl rfl rfl

theorem checkMove_hearAnswer (answer : DatabaseAnswer) :
    CheckMove relay (hearAnswer relay answer).1 (hearAnswer relay answer).2 := by
  cases answer with
  | modeInputs caller relayModeInputs =>
      cases caller with
      | handshake client =>
          simp only [hearAnswer]
          unfold RelaySupervision.decideAtHandshake
          split
          · split
            · exact .phase (by simp)
            · exact .frame rfl rfl rfl
          · exact .frame rfl rfl rfl
      | recomputation =>
          simp only [hearAnswer]
          unfold RelaySupervision.recompute
          dsimp only
          generalize (if relay.phase = .connected then relay.connectedNodePublicKey else none) = key
          split <;> exact .frame rfl rfl rfl
  | activeSetupRun activeSetupRun =>
      simp only [hearAnswer]
      unfold RelaySupervision.hearActiveSetupRun
      split
      · split <;> exact .frame rfl rfl rfl
      · exact .frame rfl rfl rfl
  | configurationSaved isSaved => exact checkMove_hearSaved isSaved

theorem checkMove_loseAnswer (answer : DatabaseAnswer) :
    CheckMove relay (loseAnswer relay answer).1 (loseAnswer relay answer).2 := by
  cases answer with
  | modeInputs => exact .frame rfl rfl rfl
  | activeSetupRun =>
      simp only [loseAnswer]
      split <;> exact .frame rfl rfl rfl
  | configurationSaved => exact checkMove_hearSaved false

theorem CheckMove.savingEnds (setup : SetupRelay) (isSaved : Bool)
    (houtcome : outcome.endsCheck = false) :
    CheckMove relay (relay.savingEnds setup isSaved) outcome := by
  unfold RelaySupervision.savingEnds
  split <;> exact .frame rfl rfl houtcome

theorem checkMove_superviseSetup (event : SetupEvent) :
    CheckMove relay (superviseSetup relay event).1 (superviseSetup relay event).2 := by
  unfold superviseSetup
  split
  · generalize setupStep relay.setup event = step
    obtain ⟨setup, outcome⟩ := step
    by_cases hstops : event = .processStops
    · subst hstops
      exact .phase (by simp [afterSetup, RelaySupervision.ofSetup])
    · simp only [if_neg hstops]
      unfold afterSetup
      split
      · exact .frame rfl rfl rfl
      · exact .savingEnds _ _ rfl
      · exact .savingEnds _ _ rfl
      · exact .frame rfl rfl rfl
      · split <;> exact .frame rfl rfl rfl
      · exact .frame rfl rfl rfl
      · exact absurd rfl hstops
      · exact .frame rfl rfl rfl
  · exact .frame rfl rfl rfl

theorem checkMove_connectionStep (event : SupervisionEvent) :
    CheckMove relay (connectionStep relay event).1 (connectionStep relay event).2 := by
  cases event with
  | connectStarts | connectFails | clientAttached | nodeIdentified =>
      simp only [connectionStep]
      split
      · exact .phase (by simp)
      · exact .frame rfl rfl rfl
  | handshakeCompletes =>
      simp only [connectionStep]
      split
      · next publicKey relayMode hphase =>
          refine ⟨fun _ hchecked => hchecked.2, fun hchecked => ?_⟩
          cases hphase.symm.trans hchecked.1
      · exact .frame rfl rfl rfl
  | connectionEnds =>
      simp only [connectionStep]
      split
      · exact .frame rfl rfl rfl
      · exact .frame rfl rfl rfl
      · exact .phase (by simp [RelaySupervision.tearDown])
  | _ => exact .frame rfl rfl rfl

theorem checkMove_loadStep (event : SupervisionEvent) :
    CheckMove relay (loadStep relay event).1 (loadStep relay event).2 := by
  cases event with
  | handshakeLoads =>
      simp only [loadStep]
      split
      · split
        · exact .phase (by simp)
        · exact .frame rfl rfl rfl
      · exact .frame rfl rfl rfl
  | recomputationLoads =>
      simp only [loadStep]
      split <;> exact .frame rfl rfl rfl
  | _ => exact .frame rfl rfl rfl

theorem checkMove_commandStep (event : SupervisionEvent) :
    CheckMove relay (commandStep relay event).1 (commandStep relay event).2 := by
  cases event with
  | readActiveSetupRun | recordNodeIdentity =>
      simp only [commandStep]
      split <;> exact .frame rfl rfl rfl
  | confirmNodeSettingsVerified =>
      simp only [commandStep]
      split
      · exact ⟨fun _ _ => rfl, fun _ _ => rfl⟩
      · exact .frame rfl rfl rfl
  | savingRaises =>
      simp only [commandStep]
      split
      · exact .savingEnds _ _ rfl
      · exact .frame rfl rfl rfl
  | handlerCancelled =>
      simp only [commandStep]
      split
      · exact .unchecked fun hchecked => by cases hchecked.2
      · exact .frame rfl rfl rfl
  | _ => exact .frame rfl rfl rfl

/-- **The check and one event.** -/
theorem checkMove_supervisionStep (event : SupervisionEvent) :
    CheckMove relay (supervisionStep relay event).1 (supervisionStep relay event).2 := by
  cases event with
  | setup event => exact checkMove_superviseSetup event
  | answerArrives =>
      unfold supervisionStep
      dsimp only
      split
      · exact .frame rfl rfl rfl
      · next answer answers _ =>
          have hmove := @checkMove_hearAnswer { relay with answers } answer
          exact ⟨hmove.entered, hmove.kept⟩
  | answerLost =>
      unfold supervisionStep
      dsimp only
      split
      · exact .frame rfl rfl rfl
      · next answer answers _ =>
          have hmove := @checkMove_loseAnswer { relay with answers } answer
          exact ⟨hmove.entered, hmove.kept⟩
  | handshakeLoads | recomputationLoads | loadRaises => exact checkMove_loadStep _
  | readActiveSetupRun | confirmNodeSettingsVerified | savingRaises | handlerCancelled
  | recordNodeIdentity => exact checkMove_commandStep _
  | _ => exact checkMove_connectionStep _

end Checks

/-! ### The decision -/

/-- A load decides on this mode for the key. -/
def DecidesOn (loaded : Set RelayModeInputs) (publicKey : Text) (relayMode : RelayMode) : Prop :=
  ∃ relayModeInputs ∈ loaded, decideRelayMode (some publicKey) relayModeInputs.configuredNode
    relayModeInputs.activeSetupRun = relayMode

/-- **The modes rest on what was loaded**: the answers on the way, what the handshake is to publish,
and what is published for the node that is connected. -/
structure DecidedOk (loaded : Set RelayModeInputs) (relay : RelaySupervision) : Prop where
  answers : ∀ caller relayModeInputs,
    DatabaseAnswer.modeInputs caller relayModeInputs ∈ relay.answers → relayModeInputs ∈ loaded
  deciding : ∀ publicKey relayMode, relay.phase = .checkingSettings publicKey relayMode →
    DecidesOn loaded publicKey relayMode
  running : relay.relayMode = .running → ∃ publicKey,
    relay.connectedNodePublicKey = some publicKey ∧ DecidesOn loaded publicKey .running

section Decisions

variable {loaded loaded' : Set RelayModeInputs} {relay relay' : RelaySupervision}

theorem DecidedOk.mono (h : DecidedOk loaded relay) (hsubset : loaded ⊆ loaded') :
    DecidedOk loaded' relay := by
  refine ⟨fun caller inputs hmem => hsubset (h.answers caller inputs hmem),
    fun publicKey relayMode hphase => ?_, fun hrunning => ?_⟩
  · obtain ⟨inputs, hmem, hdecides⟩ := h.deciding publicKey relayMode hphase
    exact ⟨inputs, hsubset hmem, hdecides⟩
  · obtain ⟨publicKey, hkey, inputs, hmem, hdecides⟩ := h.running hrunning
    exact ⟨publicKey, hkey, inputs, hsubset hmem, hdecides⟩

/-- Nothing new is decided. -/
theorem DecidedOk.frame (h : DecidedOk loaded relay)
    (hanswers : ∀ a ∈ relay'.answers, a.isModeInputs = true → a ∈ relay.answers)
    (hphase : relay'.phase = relay.phase)
    (hmode : relay'.relayMode = relay.relayMode)
    (hkey : relay'.connectedNodePublicKey = relay.connectedNodePublicKey) :
    DecidedOk loaded relay' := by
  refine ⟨fun caller inputs hmem => h.answers caller inputs (hanswers _ hmem rfl), ?_, ?_⟩
  · rw [hphase]
    exact h.deciding
  · rw [hmode, hkey]
    exact h.running

theorem DecidedOk.kept (h : DecidedOk loaded relay) (hanswers : relay'.answers = relay.answers)
    (hphase : relay'.phase = relay.phase) (hmode : relay'.relayMode = relay.relayMode)
    (hkey : relay'.connectedNodePublicKey = relay.connectedNodePublicKey) :
    DecidedOk loaded relay' :=
  h.frame (fun _ ha _ => hanswers ▸ ha) hphase hmode hkey

/-- A handshake goes on, or a client is looked for. -/
theorem DecidedOk.handshake (h : DecidedOk loaded relay) (hanswers : relay'.answers = relay.answers)
    (hphase : ∀ publicKey relayMode, relay'.phase ≠ .checkingSettings publicKey relayMode)
    (hmode : relay'.relayMode = relay.relayMode)
    (hkey : relay'.connectedNodePublicKey = relay.connectedNodePublicKey) :
    DecidedOk loaded relay' := by
  refine ⟨by rw [hanswers]; exact h.answers,
    fun publicKey relayMode hchecking => absurd hchecking (hphase _ _), ?_⟩
  rw [hmode, hkey]
  exact h.running

theorem DecidedOk.decideAtHandshake (h : DecidedOk loaded relay) {relayModeInputs : RelayModeInputs}
    (hinputs : relayModeInputs ∈ loaded) (client : ℕ) :
    DecidedOk loaded (relay.decideAtHandshake client relayModeInputs) := by
  unfold RelaySupervision.decideAtHandshake
  split
  · split
    · refine ⟨h.answers, fun key relayMode hchecking => ?_, h.running⟩
      obtain ⟨rfl, rfl⟩ := ConnectionPhase.checkingSettings.inj hchecking
      exact ⟨relayModeInputs, hinputs, rfl⟩
    · exact h
  · exact h

theorem DecidedOk.recompute (h : DecidedOk loaded relay) {relayModeInputs : RelayModeInputs}
    (hinputs : relayModeInputs ∈ loaded) : DecidedOk loaded (relay.recompute relayModeInputs) := by
  unfold RelaySupervision.recompute
  by_cases hphase : relay.phase = .connected
  · simp only [if_pos hphase]
    split
    · exact h.kept rfl rfl rfl rfl
    · refine ⟨h.answers, h.deciding, fun hrunning => ?_⟩
      cases hkey : relay.connectedNodePublicKey with
      | none =>
          rw [hkey] at hrunning
          cases hrunning
      | some publicKey =>
          rw [hkey] at hrunning
          exact ⟨publicKey, rfl, relayModeInputs, hinputs, hrunning⟩
  · simp only [if_neg hphase]
    split
    · exact h.kept rfl rfl rfl rfl
    · exact ⟨h.answers, h.deciding, fun hrunning => by cases hrunning⟩

theorem DecidedOk.hearSaved (h : DecidedOk loaded relay) (isSaved : Bool) :
    DecidedOk loaded (relay.hearSaved isSaved).1 := by
  unfold RelaySupervision.hearSaved
  split
  · split <;> exact h.kept rfl rfl rfl rfl
  · exact h

theorem DecidedOk.hearAnswer (h : DecidedOk loaded relay) {answer : DatabaseAnswer}
    (hanswer : ∀ caller relayModeInputs, answer = .modeInputs caller relayModeInputs →
      relayModeInputs ∈ loaded) : DecidedOk loaded (HoptalkRelay.hearAnswer relay answer).1 := by
  cases answer with
  | modeInputs caller relayModeInputs =>
      have hinputs := hanswer caller relayModeInputs rfl
      cases caller with
      | handshake client => exact h.decideAtHandshake hinputs client
      | recomputation => exact h.recompute hinputs
  | activeSetupRun activeSetupRun =>
      simp only [HoptalkRelay.hearAnswer]
      unfold RelaySupervision.hearActiveSetupRun
      split
      · split <;> exact h.kept rfl rfl rfl rfl
      · exact h
  | configurationSaved isSaved => exact h.hearSaved isSaved

theorem DecidedOk.loseAnswer (h : DecidedOk loaded relay) (answer : DatabaseAnswer) :
    DecidedOk loaded (HoptalkRelay.loseAnswer relay answer).1 := by
  cases answer with
  | modeInputs => exact h
  | activeSetupRun =>
      simp only [HoptalkRelay.loseAnswer]
      split
      · exact h.kept rfl rfl rfl rfl
      · exact h
  | configurationSaved => exact h.hearSaved false

/-- The oldest answer is taken. -/
theorem DecidedOk.tail (h : DecidedOk loaded relay) {answer : DatabaseAnswer}
    {answers : List DatabaseAnswer} (hanswers : relay.answers = answer :: answers) :
    DecidedOk loaded { relay with answers } :=
  h.frame (fun a ha _ => by rw [hanswers]; exact List.mem_cons_of_mem _ ha) rfl rfl rfl

theorem DecidedOk.savingEnds (h : DecidedOk loaded relay) (setup : SetupRelay) (isSaved : Bool) :
    DecidedOk loaded (relay.savingEnds setup isSaved) := by
  unfold RelaySupervision.savingEnds
  split
  · refine h.frame (fun a ha hinputs => ?_) rfl rfl rfl
    rcases List.mem_append.1 ha with ha | ha
    · exact ha
    · rw [List.mem_singleton.1 ha] at hinputs
      cases hinputs
  · exact h.kept rfl rfl rfl rfl

theorem decidedOk_ofSetup (setup : SetupRelay) : DecidedOk loaded (.ofSetup setup) := by
  refine ⟨by simp [RelaySupervision.ofSetup], fun _ _ hphase => ?_, fun hrunning => ?_⟩
  · cases hphase
  · cases hrunning

theorem DecidedOk.superviseSetup (h : DecidedOk loaded relay) (event : SetupEvent)
    (hloaded : ∀ relayModeInputs,
      (HoptalkRelay.superviseSetup relay event).2 = .setup (.loaded relayModeInputs) →
        relayModeInputs ∈ loaded) :
    DecidedOk loaded (HoptalkRelay.superviseSetup relay event).1 := by
  unfold HoptalkRelay.superviseSetup at hloaded ⊢
  split
  · next hallowed =>
      rw [if_pos hallowed] at hloaded
      generalize setupStep relay.setup event = step at hloaded ⊢
      obtain ⟨setup, outcome⟩ := step
      dsimp only at hloaded ⊢
      unfold afterSetup
      split
      · next relayModeInputs =>
          refine ⟨fun caller inputs hmem => ?_, h.deciding, h.running⟩
          rcases List.mem_append.1 hmem with hmem | hmem
          · exact h.answers caller inputs hmem
          · obtain ⟨-, rfl⟩ := DatabaseAnswer.modeInputs.inj (List.mem_singleton.1 hmem)
            exact hloaded inputs rfl
      · exact h.savingEnds _ _
      · exact h.savingEnds _ _
      · exact h.kept rfl rfl rfl rfl
      · split <;> exact h.kept rfl rfl rfl rfl
      · exact h.frame (fun a ha _ => (List.mem_filter.1 ha).1) rfl rfl rfl
      · exact decidedOk_ofSetup setup
      · exact h.kept rfl rfl rfl rfl
  · exact h

theorem DecidedOk.connectionStep (h : DecidedOk loaded relay) (event : SupervisionEvent) :
    DecidedOk loaded (HoptalkRelay.connectionStep relay event).1 := by
  cases event with
  | connectStarts | connectFails | clientAttached | nodeIdentified =>
      simp only [HoptalkRelay.connectionStep]
      split
      · exact h.handshake rfl (fun _ _ hphase => by cases hphase) rfl rfl
      · exact h
  | handshakeCompletes =>
      simp only [HoptalkRelay.connectionStep]
      split
      · next publicKey relayMode hphase =>
          refine ⟨h.answers, fun _ _ hphase => (by cases hphase), fun hrunning => ?_⟩
          have hdecides := h.deciding publicKey relayMode hphase
          rw [show relayMode = .running from hrunning] at hdecides
          exact ⟨publicKey, rfl, hdecides⟩
      · exact h
  | connectionEnds =>
      simp only [HoptalkRelay.connectionStep]
      split
      · exact h
      · exact h
      · exact ⟨h.answers, fun _ _ hphase => (by cases hphase), fun hrunning => (by cases hrunning)⟩
  | requestReconnect => exact h.kept rfl rfl rfl rfl
  | _ => exact h

theorem DecidedOk.loadStep (h : DecidedOk loaded relay) (event : SupervisionEvent) :
    DecidedOk loaded (HoptalkRelay.loadStep relay event).1 := by
  cases event with
  | handshakeLoads =>
      simp only [HoptalkRelay.loadStep]
      split
      · split
        · exact h.handshake rfl (fun _ _ hphase => by cases hphase) rfl rfl
        · exact h
      · exact h
  | recomputationLoads =>
      simp only [HoptalkRelay.loadStep]
      split
      · exact h.kept rfl rfl rfl rfl
      · exact h
  | loadRaises => exact h.kept rfl rfl rfl rfl
  | _ => exact h

/-- The node takes another identity only where it is not relayed over. -/
theorem DecidedOk.commandStep (h : DecidedOk loaded relay) (hok : SupervisionOk relay)
    (event : SupervisionEvent) : DecidedOk loaded (HoptalkRelay.commandStep relay event).1 := by
  cases event with
  | readActiveSetupRun =>
      simp only [HoptalkRelay.commandStep]
      split
      · refine h.frame (fun a ha hinputs => ?_) rfl rfl rfl
        rcases List.mem_append.1 ha with ha | ha
        · exact ha
        · rw [List.mem_singleton.1 ha] at hinputs
          cases hinputs
      · exact h
  | confirmNodeSettingsVerified =>
      simp only [HoptalkRelay.commandStep]
      split
      · exact h.kept rfl rfl rfl rfl
      · exact h
  | savingRaises =>
      simp only [HoptalkRelay.commandStep]
      split
      · exact h.savingEnds _ _
      · exact h
  | handlerCancelled =>
      simp only [HoptalkRelay.commandStep]
      split
      · exact h.frame (fun a ha _ => (List.mem_filter.1 ha).1) rfl rfl rfl
      · exact h
  | recordNodeIdentity publicKey =>
      simp only [HoptalkRelay.commandStep]
      split
      · next hconfiguring =>
          have hsettingUp :=
            hok.settingUp (Or.inr (Or.inr (runsSetupCommand_of_isConfiguring hconfiguring)))
          exact ⟨h.answers, h.deciding, fun hrunning => absurd hrunning hsettingUp.ne_running⟩
      · exact h
  | _ => exact h

/-- **Every event** rests its modes on what was loaded. -/
theorem DecidedOk.step (h : DecidedOk loaded relay) (hok : SupervisionOk relay)
    (event : SupervisionEvent)
    (hloaded : ∀ relayModeInputs,
      (supervisionStep relay event).2 = .setup (.loaded relayModeInputs) →
        relayModeInputs ∈ loaded) : DecidedOk loaded (supervisionStep relay event).1 := by
  cases event with
  | setup event => exact h.superviseSetup event hloaded
  | answerArrives =>
      unfold supervisionStep
      dsimp only
      split
      · exact h
      · next answer answers hanswers =>
          refine (h.tail hanswers).hearAnswer fun caller inputs hanswer => ?_
          exact h.answers caller inputs (by rw [hanswers, hanswer]; exact List.mem_cons_self)
  | answerLost =>
      unfold supervisionStep
      dsimp only
      split
      · exact h
      · next hanswers => exact (h.tail hanswers).loseAnswer _
  | handshakeLoads | recomputationLoads | loadRaises => exact h.loadStep _
  | readActiveSetupRun | confirmNodeSettingsVerified | savingRaises | handlerCancelled
  | recordNodeIdentity => exact h.commandStep hok _
  | _ => exact h.connectionStep _

end Decisions

/-! ### What relays was checked -/

/-- What was loaded in a run. -/
def loadedInputs (history : List (SupervisionEvent × SupervisionOutcome)) : Set RelayModeInputs :=
  { relayModeInputs | .setup (.loaded relayModeInputs) ∈ history.map Prod.snd }

theorem decidedOk_of_run {contacts : Table Contact}
    {history : List (SupervisionEvent × SupervisionOutcome)} {relay : RelaySupervision}
    (run : (relaySupervision contacts).Run (relaySupervision contacts).init history relay) :
    DecidedOk (loadedInputs history) relay := by
  refine run.invariant (P := fun earlier u => DecidedOk (loadedInputs earlier) u)
    (decidedOk_ofSetup _) fun earlier u event hrun _ h => ?_
  refine DecidedOk.step (h.mono fun inputs hmem => ?_) (supervisionOk_of_run hrun) event
    fun inputs houtcome => ?_
  · show _ ∈ (earlier ++ [_]).map Prod.snd
    rw [List.map_append]
    exact List.mem_append_left _ hmem
  · show _ ∈ (earlier ++ [_]).map Prod.snd
    rw [List.map_append]
    exact List.mem_append_right _ (List.mem_singleton.2 houtcome.symm)

/-- **What relays was checked.**  A node is relayed over while its connection is up, and where what
was loaded decides on it for the key that the node has; and its settings were checked, by the
handshake or by a setup run, since when the connection has not ended, no other has begun and the
check was not withdrawn. -/
theorem relays_over_a_checked_connection {contacts : Table Contact}
    {history : List (SupervisionEvent × SupervisionOutcome)} {relay : RelaySupervision}
    (run : (relaySupervision contacts).Run (relaySupervision contacts).init history relay)
    (hrunning : relay.relayMode = .running) :
    relay.phase = .connected ∧
      (∃ publicKey relayModeInputs, relay.connectedNodePublicKey = some publicKey ∧
        .setup (.loaded relayModeInputs) ∈ history.map Prod.snd ∧
          decideRelayMode (some publicKey) relayModeInputs.configuredNode
            relayModeInputs.activeSetupRun = .running) ∧
      ∃ earlier check later, history = earlier ++ check :: later ∧ check.2.isCheck = true ∧
        ∀ entry ∈ later, entry.2.endsCheck = false := by
  have hok := supervisionOk_of_run run
  have hconnected := hok.connected (by rw [hrunning]; decide)
  obtain ⟨publicKey, hkey, inputs, hmem, hdecides⟩ := (decidedOk_of_run run).running hrunning
  refine ⟨hconnected, ⟨publicKey, inputs, hkey, hmem, hdecides⟩, ?_⟩
  refine run.since (P := RelaySupervision.IsChecked) (fun hchecked => ?_)
    (fun _ event => (checkMove_supervisionStep event).entered)
    (fun _ event => (checkMove_supervisionStep event).kept)
    ⟨hconnected, hok.checked hrunning⟩
  cases hchecked.1

/-! The reset node is connected, configured and relayed over. -/

def sampleConfiguration : List SupervisionEvent :=
  [.setup .sendResetFrame, .connectionEnds] ++ sampleHandshake "cd34".toList ++
    [.setup (.recordFactoryResetSucceeded "cd34".toList 3),
      .setup (.finishNodeCommand .succeeded 3 []),
      .setup (.submitNodeConfiguration 1 sampleRequested 4), .recomputationLoads] ++
    sampleLoad ++ sampleClaim 4 ++
    [.setup .readConfiguredPublicKey, .confirmNodeSettingsVerified,
      .setup (.recordConfigurationCompleted
        { nodePublicKey := "cd34".toList, setupRunId := 1 } 5 none),
      .answerArrives, .setup (.finishNodeCommand .succeeded 5 []), .recomputationLoads] ++
    sampleLoad

theorem relays_over_a_checked_connection_sampleConfiguration :
    let relayed := (relaySupervision .empty).exec (relaySupervision .empty).init
      (sampleConnectedReset ++ sampleConfiguration)
    relayed.2.relayMode = .running ∧
      ∃ earlier check later, relayed.1 = earlier ++ check :: later ∧ check.2.isCheck = true ∧
        ∀ entry ∈ later, entry.2.endsCheck = false :=
  ⟨by decide +kernel, (relays_over_a_checked_connection ((relaySupervision .empty).run_exec
    (relaySupervision .empty).init (sampleConnectedReset ++ sampleConfiguration))
    (by decide +kernel)).2.2⟩

end HoptalkRelay
