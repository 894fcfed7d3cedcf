/-
**The relay mode of a supervised node.**

A command that resets or configures the node is admitted only where a setup is in progress, and its
run owns the node from then on.  What was loaded before the admission was heard before it, and what
is loaded later finds the run; so the node is not relayed over until the handler hears that its run
was told.  Only in that time does the node take another identity, and is a check of its settings
withdrawn.

Main definitions:

* `HoptalkRelay.RelaySupervision.RunsSetupCommand` — the handler of such a command runs;
* `HoptalkRelay.PendingAnswersOk`, `HoptalkRelay.SupervisionOk` — the answers on the way, and **the
  invariant**.

Main results:

* `HoptalkRelay.SupervisionOk.step` — every event keeps the invariant;
* `HoptalkRelay.setup_commands_never_relay` — **no relaying under a setup command**.
-/

import HoptalkRelay.Invariants.OwningRuns
import HoptalkRelay.Invariants.RestoredIdentities
import HoptalkRelay.RelaySupervision

set_option relaxedAutoImplicit false
set_option autoImplicit false

namespace HoptalkRelay

open Relational Transition

/-! ### Inputs that find the node owned -/

/-- A load that found the node owned by a run. -/
def RelayModeInputs.IsOwned (relayModeInputs : RelayModeInputs) : Prop :=
  ∀ publicKey, decideRelayMode (some publicKey) relayModeInputs.configuredNode
    relayModeInputs.activeSetupRun = .setupInProgress

def DatabaseAnswer.IsOwned : DatabaseAnswer → Prop
  | .modeInputs _ relayModeInputs => relayModeInputs.IsOwned
  | _ => True

/-- The stages in which a handler hears its answers. -/
def handlingStages : List CommandStage := [.admitted, .saving, .saved]

namespace RelaySupervision

/-- The worker executes a reset or a configuration whose run was not told. -/
def OwnsNode (relay : RelaySupervision) : Prop :=
  ∃ execution, relay.setup.execution = some execution ∧ execution.kind ∈ owningCommandKinds ∧
    execution.setupRunId.isSome ∧ execution.outcomeRecorded = false

/-- **The handler of a setup command runs**, and has not heard that its run was told. -/
def RunsSetupCommand (relay : RelaySupervision) : Prop :=
  relay.stage = .saving ∨ relay.stage = .saved ∨ relay.stage = .admitted ∧ relay.OwnsNode

theorem RunsSetupCommand.mem_handlingStages {relay : RelaySupervision}
    (h : relay.RunsSetupCommand) : relay.stage ∈ handlingStages := by
  rcases h with hstage | hstage | ⟨hstage, -⟩ <;> simp [handlingStages, hstage]

end RelaySupervision

/-! ### The answers on the way -/

/-- **The answers on the way** in each stage: who is answered, and which loads found the node
owned. -/
inductive PendingAnswersOk (owns : Prop) : CommandStage → List DatabaseAnswer → Prop
  | claimed {answers : List DatabaseAnswer} (h : ∀ a ∈ answers, a.isModeInputs = true) :
      PendingAnswersOk owns .claimed answers
  | checked {before after : List DatabaseAnswer} (activeSetupRun : Option ActiveSetupRunSummary)
      (hbefore : ∀ a ∈ before, a.isModeInputs = true)
      (hafter : ∀ a ∈ after, a.isModeInputs = true) (howned : owns → ∀ a ∈ after, a.IsOwned) :
      PendingAnswersOk owns .checked (before ++ .activeSetupRun activeSetupRun :: after)
  | refused {answers : List DatabaseAnswer} (refusal : Text)
      (h : ∀ a ∈ answers, a.isModeInputs = true) : PendingAnswersOk owns (.refused refusal) answers
  | admitted {answers : List DatabaseAnswer} (h : ∀ a ∈ answers, a.isModeInputs = true)
      (howned : owns → ∀ a ∈ answers, a.IsOwned) : PendingAnswersOk owns .admitted answers
  | saving {answers : List DatabaseAnswer} (howns : owns)
      (h : ∀ a ∈ answers, a.isModeInputs = true) (howned : ∀ a ∈ answers, a.IsOwned) :
      PendingAnswersOk owns .saving answers
  | saved {before after : List DatabaseAnswer} (isSaved : Bool)
      (hbefore : ∀ a ∈ before, a.isModeInputs = true)
      (hafter : ∀ a ∈ after, a.isModeInputs = true) (howned : ∀ a ∈ before, a.IsOwned)
      (howned' : owns → ∀ a ∈ after, a.IsOwned) :
      PendingAnswersOk owns .saved (before ++ .configurationSaved isSaved :: after)
  | abandoned {answers : List DatabaseAnswer} (isCalling : Bool)
      (h : ∀ a ∈ answers, a.isModeInputs = true) :
      PendingAnswersOk owns (.abandoned isCalling) answers

section Answers

variable {owns owns' : Prop} {stage : CommandStage} {answers rest : List DatabaseAnswer}
  {answer : DatabaseAnswer}

theorem forall_mem_snoc {p : DatabaseAnswer → Prop} (h : ∀ a ∈ answers, p a) (hanswer : p answer) :
    ∀ a ∈ answers ++ [answer], p a := by
  intro a ha
  rcases List.mem_append.1 ha with ha | ha
  · exact h a ha
  · rw [List.mem_singleton.1 ha]
    exact hanswer

/-- Inputs were loaded. -/
theorem PendingAnswersOk.loaded (h : PendingAnswersOk owns stage answers) {caller : ModeCaller}
    {relayModeInputs : RelayModeInputs} (howned : owns → relayModeInputs.IsOwned) :
    PendingAnswersOk owns stage (answers ++ [.modeInputs caller relayModeInputs]) := by
  cases h with
  | claimed h => exact .claimed (forall_mem_snoc h rfl)
  | checked activeSetupRun hbefore hafter hheld =>
      rw [List.append_assoc, List.cons_append]
      exact .checked activeSetupRun hbefore (forall_mem_snoc hafter rfl)
        fun howns => forall_mem_snoc (hheld howns) (howned howns)
  | refused refusal h => exact .refused refusal (forall_mem_snoc h rfl)
  | admitted h hheld =>
      exact .admitted (forall_mem_snoc h rfl)
        fun howns => forall_mem_snoc (hheld howns) (howned howns)
  | saving howns h hheld =>
      exact .saving howns (forall_mem_snoc h rfl) (forall_mem_snoc hheld (howned howns))
  | saved isSaved hbefore hafter hheld hheld' =>
      rw [List.append_assoc, List.cons_append]
      exact .saved isSaved hbefore (forall_mem_snoc hafter rfl) hheld
        fun howns => forall_mem_snoc (hheld' howns) (howned howns)
  | abandoned isCalling h => exact .abandoned isCalling (forall_mem_snoc h rfl)

/-- The node is owned by nobody new, and nothing is being saved. -/
theorem PendingAnswersOk.mono (h : PendingAnswersOk owns stage answers) (himp : owns' → owns)
    (hsaving : stage = .saving → owns') : PendingAnswersOk owns' stage answers := by
  cases h with
  | claimed h => exact .claimed h
  | checked activeSetupRun hbefore hafter hheld =>
      exact .checked activeSetupRun hbefore hafter fun howns => hheld (himp howns)
  | refused refusal h => exact .refused refusal h
  | admitted h hheld => exact .admitted h fun howns => hheld (himp howns)
  | saving howns h hheld => exact .saving (hsaving rfl) h hheld
  | saved isSaved hbefore hafter hheld hheld' =>
      exact .saved isSaved hbefore hafter hheld fun howns => hheld' (himp howns)
  | abandoned isCalling h => exact .abandoned isCalling h

/-- The inputs of a load are heard: they found the node owned where a setup command runs. -/
theorem PendingAnswersOk.heard (h : PendingAnswersOk owns stage (answer :: rest))
    (hanswer : answer.isModeInputs = true) :
    PendingAnswersOk owns stage rest ∧
      (stage = .saving ∨ stage = .saved ∨ stage = .admitted ∧ owns → answer.IsOwned) := by
  generalize hanswers : answer :: rest = answers at h
  cases h with
  | claimed h =>
      subst hanswers
      exact ⟨.claimed fun a ha => h a (List.mem_cons_of_mem _ ha), by simp⟩
  | @checked before after activeSetupRun hbefore hafter hheld =>
      cases before with
      | nil =>
          obtain ⟨rfl, -⟩ := List.cons.inj hanswers
          cases hanswer
      | cons first before =>
          obtain ⟨rfl, rfl⟩ := List.cons.inj hanswers
          exact ⟨.checked activeSetupRun (fun a ha => hbefore a (List.mem_cons_of_mem _ ha)) hafter
            hheld, by simp⟩
  | refused refusal h =>
      subst hanswers
      exact ⟨.refused refusal fun a ha => h a (List.mem_cons_of_mem _ ha), by simp⟩
  | admitted h hheld =>
      subst hanswers
      refine ⟨.admitted (fun a ha => h a (List.mem_cons_of_mem _ ha))
        fun howns a ha => hheld howns a (List.mem_cons_of_mem _ ha), ?_⟩
      rintro (hstage | hstage | ⟨-, howns⟩)
      · cases hstage
      · cases hstage
      · exact hheld howns answer List.mem_cons_self
  | saving howns h hheld =>
      subst hanswers
      exact ⟨.saving howns (fun a ha => h a (List.mem_cons_of_mem _ ha))
        fun a ha => hheld a (List.mem_cons_of_mem _ ha), fun _ => hheld answer List.mem_cons_self⟩
  | @saved before after isSaved hbefore hafter hheld hheld' =>
      cases before with
      | nil =>
          obtain ⟨rfl, -⟩ := List.cons.inj hanswers
          cases hanswer
      | cons first before =>
          obtain ⟨rfl, rfl⟩ := List.cons.inj hanswers
          exact ⟨.saved isSaved (fun a ha => hbefore a (List.mem_cons_of_mem _ ha)) hafter
            (fun a ha => hheld a (List.mem_cons_of_mem _ ha)) hheld',
            fun _ => hheld answer List.mem_cons_self⟩
  | abandoned isCalling h =>
      subst hanswers
      exact ⟨.abandoned isCalling fun a ha => h a (List.mem_cons_of_mem _ ha), by simp⟩

/-- Where no call of the executor's task is answered, only loads are. -/
theorem PendingAnswersOk.isModeInputs (h : PendingAnswersOk owns stage answers)
    (hchecked : stage ≠ .checked) (hsaved : stage ≠ .saved) :
    ∀ a ∈ answers, a.isModeInputs = true := by
  cases h with
  | claimed h | refused _ h | admitted h | saving _ h | abandoned _ h => exact h
  | checked => exact absurd rfl hchecked
  | saved => exact absurd rfl hsaved

/-- The executor hears of the active run. -/
theorem PendingAnswersOk.heardRun {activeSetupRun : Option ActiveSetupRunSummary}
    (h : PendingAnswersOk owns stage (.activeSetupRun activeSetupRun :: rest)) :
    stage = .checked ∧ (∀ a ∈ rest, a.isModeInputs = true) ∧ (owns → ∀ a ∈ rest, a.IsOwned) := by
  generalize hanswers : DatabaseAnswer.activeSetupRun activeSetupRun :: rest = answers at h
  cases h with
  | @checked before after other hbefore hafter hheld =>
      cases before with
      | nil =>
          obtain ⟨-, rfl⟩ := List.cons.inj hanswers
          exact ⟨rfl, hafter, hheld⟩
      | cons first before =>
          obtain ⟨rfl, -⟩ := List.cons.inj hanswers
          cases hbefore _ List.mem_cons_self
  | @saved before after isSaved hbefore =>
      cases before with
      | nil => cases hanswers
      | cons first before =>
          obtain ⟨rfl, -⟩ := List.cons.inj hanswers
          cases hbefore _ List.mem_cons_self
  | claimed h | refused _ h | admitted h | saving _ h | abandoned _ h =>
      subst hanswers
      cases h _ List.mem_cons_self

/-- The handler hears of the configuration. -/
theorem PendingAnswersOk.heardSaved {isSaved : Bool}
    (h : PendingAnswersOk owns stage (.configurationSaved isSaved :: rest)) :
    stage = .saved ∧ (∀ a ∈ rest, a.isModeInputs = true) ∧ (owns → ∀ a ∈ rest, a.IsOwned) := by
  generalize hanswers : DatabaseAnswer.configurationSaved isSaved :: rest = answers at h
  cases h with
  | @checked before after other hbefore =>
      cases before with
      | nil => cases hanswers
      | cons first before =>
          obtain ⟨rfl, -⟩ := List.cons.inj hanswers
          cases hbefore _ List.mem_cons_self
  | @saved before after other hbefore hafter hheld hheld' =>
      cases before with
      | nil =>
          obtain ⟨-, rfl⟩ := List.cons.inj hanswers
          exact ⟨rfl, hafter, hheld'⟩
      | cons first before =>
          obtain ⟨rfl, -⟩ := List.cons.inj hanswers
          cases hbefore _ List.mem_cons_self
  | claimed h | refused _ h | admitted h | saving _ h | abandoned _ h =>
      subst hanswers
      cases h _ List.mem_cons_self

end Answers

/-! ### The command under way -/

/-- The command under way ends with the event. -/
def SetupEvent.endsExecution : SetupEvent → Bool
  | .finishNodeCommand _ _ _ | .executorStops | .processStops => true
  | _ => false

/-- No command is taken or left, and the run is told by a report alone. -/
inductive ExecutionKept (relay relay' : SetupRelay) (isReport : Bool) : Prop
  | idle (h : relay.execution = none) (h' : relay'.execution = none) :
      ExecutionKept relay relay' isReport
  | busy {execution execution' : CommandExecution} (h : relay.execution = some execution)
      (h' : relay'.execution = some execution') (hkind : execution'.kind = execution.kind)
      (hrun : execution'.setupRunId = execution.setupRunId)
      (htold : execution.outcomeRecorded = true → execution'.outcomeRecorded = true)
      (hplain : isReport = false → execution'.outcomeRecorded = execution.outcomeRecorded) :
      ExecutionKept relay relay' isReport

section Execution

variable {relay relay' : SetupRelay} {event : SetupEvent} {isReport : Bool}

theorem ExecutionKept.of_eq (h : relay'.execution = relay.execution) :
    ExecutionKept relay relay' isReport := by
  cases hexecution : relay.execution with
  | none => exact .idle hexecution (h.trans hexecution)
  | some execution =>
      exact .busy hexecution (h.trans hexecution) rfl rfl (fun h => h) fun _ => rfl

theorem ExecutionKept.commit {α : Type} (result : Except SetupError (SetupDb × α)) :
    ExecutionKept relay (relay.commit result).1 isReport := by
  cases result <;> exact .of_eq rfl

theorem ExecutionKept.report {execution : CommandExecution}
    (hexecution : relay.execution = some execution) (setupRunId : ℕ)
    (result : Except SetupError SetupDb) (outcome : SetupOutcome) :
    ExecutionKept relay
      (relay.report { execution with outcomeRecorded := true } setupRunId result outcome).1
      true := by
  unfold SetupRelay.report
  split
  · exact .of_eq rfl
  · split
    · exact .busy hexecution rfl rfl rfl (fun _ => rfl) (by simp)
    · exact .of_eq rfl

/-- The node is owned by nobody new. -/
theorem ExecutionKept.ownsNode {supervision supervision' : RelaySupervision}
    (h : ExecutionKept supervision.setup supervision'.setup isReport)
    (howns : supervision'.OwnsNode) : supervision.OwnsNode := by
  obtain ⟨owner, howner, hkind, hrun, hunrecorded⟩ := howns
  cases h with
  | idle _ h' => cases h'.symm.trans howner
  | @busy execution execution' h h' hkind' hrun' htold =>
      obtain rfl := Option.some.inj (h'.symm.trans howner)
      refine ⟨execution, h, hkind' ▸ hkind, hrun' ▸ hrun, ?_⟩
      by_contra hrecorded
      rw [htold (Bool.eq_true_of_not_eq_false hrecorded)] at hunrecorded
      cases hunrecorded

/-- Only a report ends the ownership. -/
theorem ExecutionKept.keepsNode {supervision supervision' : RelaySupervision}
    (h : ExecutionKept supervision.setup supervision'.setup isReport) (hplain : isReport = false)
    (howns : supervision.OwnsNode) : supervision'.OwnsNode := by
  obtain ⟨owner, howner, hkind, hrun, hunrecorded⟩ := howns
  cases h with
  | idle h => cases h.symm.trans howner
  | @busy execution execution' h h' hkind' hrun' _ hsame =>
      obtain rfl := Option.some.inj (h.symm.trans howner)
      exact ⟨execution', h', hkind' ▸ hkind, hrun' ▸ hrun, (hsame hplain).trans hunrecorded⟩

/-- The command keeps its run. -/
theorem ExecutionKept.ofRun (h : ExecutionKept relay relay' isReport)
    (hofRun : ∀ execution, relay.execution = some execution →
      execution.kind ∈ owningCommandKinds → execution.setupRunId.isSome)
    {execution' : CommandExecution} (hexecution : relay'.execution = some execution')
    (hkind : execution'.kind ∈ owningCommandKinds) : execution'.setupRunId.isSome := by
  cases h with
  | idle _ h' => cases h'.symm.trans hexecution
  | busy h h' hkind' hrun =>
      obtain rfl := Option.some.inj (h'.symm.trans hexecution)
      rw [hrun]
      exact hofRun _ h (hkind' ▸ hkind)

theorem ExecutionKept.eq_none (h : ExecutionKept relay relay' isReport)
    (hnone : relay'.execution = none) : relay.execution = none := by
  cases h with
  | idle h => exact h
  | busy _ h' => cases h'.symm.trans hnone

/-- What a handler does to the command it runs. -/
theorem executionKept_executionStep {execution : CommandExecution}
    (hexecution : relay.execution = some execution) (hends : event.endsExecution = false) :
    ExecutionKept relay (executionStep relay execution event).1 event.isReport := by
  unfold executionStep
  cases event with
  | recordNodeInformationRead readInformation now =>
      dsimp only
      split
      · exact .busy hexecution rfl rfl rfl (fun _ => rfl) (by simp [SetupEvent.isReport])
      · exact .report hexecution _ _ _
      · exact .of_eq rfl
  | sendResetFrame =>
      dsimp only
      split <;> exact .of_eq rfl
  | recordFactoryResetSucceeded newPublicKey now =>
      dsimp only
      split
      · exact .report hexecution _ _ _
      · exact .of_eq rfl
  | readConfiguredPublicKey =>
      dsimp only
      split
      · exact .busy hexecution rfl rfl rfl (fun h => h) fun _ => rfl
      · exact .of_eq rfl
  | recordIdentityRestoreStarted =>
      dsimp only
      split
      · split
        · exact .of_eq rfl
        · unfold SetupRelay.report
          split
          · exact .of_eq rfl
          · split
            · exact .busy hexecution rfl rfl rfl (fun h => h) fun _ => rfl
            · exact .of_eq rfl
      · exact .of_eq rfl
  | recordConfigurationCompleted nodeConfiguration now nodeIdentityBackup =>
      dsimp only
      split
      · exact .report hexecution _ _ _
      · exact .of_eq rfl
  | finishNodeCommand => cases hends
  | _ => exact .of_eq rfl

/-- **The command under way**, unless the event ends it or a claim takes one. -/
theorem executionKept_setupStep (hends : event.endsExecution = false)
    (hunclaimed : ∀ commandId, (setupStep relay event).2 ≠ .claimed commandId) :
    ExecutionKept relay (setupStep relay event).1 event.isReport := by
  unfold setupStep at hunclaimed ⊢
  split
  · exact .of_eq rfl
  · next hcall =>
      rw [if_neg hcall] at hunclaimed
      cases event with
      | startSetupRun now => exact .commit _
      | confirmFactoryReset setupRunId typedConfirmation now =>
          simp only [setupQueueStep]
          split
          · exact .of_eq rfl
          · exact .commit _
      | submitNodeConfiguration setupRunId requestedConfiguration now =>
          simp only [setupQueueStep]
          split
          · exact .of_eq rfl
          · exact .commit _
      | cancelSetupRun setupRunId now =>
          simp only [setupQueueStep]
          split
          · exact .of_eq rfl
          · exact .commit _
      | claimNextNodeCommand lockedElsewhere workerInstanceId now =>
          simp only [setupQueueStep] at hunclaimed ⊢
          split
          · exact .of_eq rfl
          · next hfree =>
              rw [if_neg hfree] at hunclaimed
              split at hunclaimed
              · exact .of_eq rfl
              · exact absurd rfl (hunclaimed _)
      | retryReadingNode setupRunId =>
          simp only [setupQueueStep]
          split
          · exact .of_eq rfl
          · split <;> exact .of_eq rfl
      | executorStops => cases hends
      | processStops => cases hends
      | createNodeCommand => exact .of_eq rfl
      | retryCommitted | expirePendingNodeCommands | deleteOldNodeCommands
      | interruptRunningNodeCommands | interruptLeftNodeCommand | readModeInputs =>
          simp only [setupQueueStep]
          split <;> exact .of_eq rfl
      | _ =>
          cases hrunning : relay.execution with
          | none =>
              simp only [setupQueueStep, hrunning]
              exact .of_eq rfl
          | some execution =>
              simp only [setupQueueStep, hrunning]
              exact executionKept_executionStep hrunning hends

/-- The configuration is saved, or nothing changes. -/
theorem setupStep_recordConfigurationCompleted (relay : SetupRelay)
    (nodeConfiguration : NodeConfiguration) (now : Time)
    (nodeIdentityBackup : Option NodeIdentityBackup) :
    (setupStep relay (.recordConfigurationCompleted nodeConfiguration now nodeIdentityBackup)).1 =
        relay ∨
      ∃ setupRunId,
        (setupStep relay
          (.recordConfigurationCompleted nodeConfiguration now nodeIdentityBackup)).2 =
          .completed setupRunId := by
  unfold setupStep
  split
  · exact Or.inl rfl
  · cases hrunning : relay.execution with
    | none => simp [setupQueueStep, hrunning]
    | some execution =>
        simp only [setupQueueStep, hrunning, executionStep]
        split
        · unfold SetupRelay.report
          split
          · exact Or.inl rfl
          · split
            · exact Or.inr ⟨_, rfl⟩
            · exact Or.inl rfl
        · exact Or.inl rfl

/-- The command under way ends, or nothing changes. -/
theorem setupStep_finishNodeCommand (relay : SetupRelay) (commandEnd : CommandEnd) (now : Time)
    (errorMessage : Text) :
    (setupStep relay (.finishNodeCommand commandEnd now errorMessage)).1 = relay ∨
      (setupStep relay (.finishNodeCommand commandEnd now errorMessage)).1.execution = none := by
  unfold setupStep
  split
  · exact Or.inl rfl
  · cases hrunning : relay.execution with
    | none => simp [setupQueueStep, hrunning]
    | some execution =>
        simp only [setupQueueStep, hrunning, executionStep]
        split
        · split
          · exact Or.inl rfl
          · exact Or.inr rfl
        · split
          · exact Or.inl rfl
          · exact Or.inr rfl

/-- A command is claimed where none is under way. -/
theorem execution_of_claimed {commandId : ℕ} (h : (setupStep relay event).2 = .claimed commandId)
    (hok : SetupRelayOk relay) :
    relay.execution = none ∧ ∃ lockedElsewhere workerInstanceId now,
      event = .claimNextNodeCommand lockedElsewhere workerInstanceId now := by
  have hmove := (hok.setupStep event).db
  rw [h] at hmove
  obtain ⟨lockedElsewhere, workerInstanceId, now, rfl, -⟩ := hmove.claimed_running
  refine ⟨?_, lockedElsewhere, workerInstanceId, now, rfl⟩
  unfold setupStep at h
  split at h
  · cases h
  · simp only [setupQueueStep] at h
    split at h
    · cases h
    · next hguard => simpa using (not_or.1 hguard).1

end Execution

/-! ### The invariant -/

/-- The modes in which a setup command runs. -/
def RelayMode.IsSettingUp (relayMode : RelayMode) : Prop :=
  relayMode = .setupInProgress ∨ relayMode = .disconnected

/-- **Between two steps.** -/
structure SupervisionOk (relay : RelaySupervision) : Prop where
  setup : SetupRelayOk relay.setup
  owned : CommandsOwned relay.setup
  idle : relay.setup.execution = none → relay.stage = .claimed
  answers : PendingAnswersOk relay.OwnsNode relay.stage relay.answers
  connected : relay.relayMode ≠ .disconnected → relay.phase = .connected
  settingUp : relay.RunsSetupCommand → relay.relayMode.IsSettingUp
  deciding : relay.RunsSetupCommand → ∀ publicKey relayMode,
    relay.phase = .checkingSettings publicKey relayMode → relayMode = .setupInProgress
  checked : relay.relayMode = .running → relay.nodeSettingsCheckedOnThisConnection = true
  /-- A setup command that was admitted belongs to a run. -/
  ofRun : relay.stage ∈ handlingStages → ∀ execution, relay.setup.execution = some execution →
    execution.kind ∈ owningCommandKinds → execution.setupRunId.isSome

section Invariant

variable {relay : RelaySupervision}

theorem RelayMode.IsSettingUp.ne_running {relayMode : RelayMode} (h : relayMode.IsSettingUp) :
    relayMode ≠ .running := by
  rcases h with rfl | rfl <;> decide

/-- A load finds the run of the command that is executed. -/
theorem SupervisionOk.loads_owned (h : SupervisionOk relay) (howns : relay.OwnsNode)
    (configuredNode : ConfiguredNode) :
    RelayModeInputs.IsOwned ⟨configuredNode, loadActiveSetupRunSummary relay.setup.db⟩ := by
  obtain ⟨execution, hexecution, hkind, hrun, hunrecorded⟩ := howns
  obtain ⟨setupRunId, hrun⟩ := Option.isSome_iff_exists.1 hrun
  exact fun publicKey => decideRelayMode_of_awaits h.setup.db hkind
    (h.owned.executing execution hexecution hkind hunrecorded setupRunId hrun) publicKey
    configuredNode

/-- Nothing changes but the connection. -/
theorem SupervisionOk.move (h : SupervisionOk relay) {relay' : RelaySupervision}
    (hsetup : relay'.setup = relay.setup) (hstage : relay'.stage = relay.stage)
    (hanswers : PendingAnswersOk relay.OwnsNode relay.stage relay'.answers)
    (hconnected : relay'.relayMode ≠ .disconnected → relay'.phase = .connected)
    (hsettingUp : relay.RunsSetupCommand → relay'.relayMode.IsSettingUp)
    (hdeciding : relay.RunsSetupCommand → ∀ publicKey relayMode,
      relay'.phase = .checkingSettings publicKey relayMode → relayMode = .setupInProgress)
    (hchecked : relay'.relayMode = .running →
      relay'.nodeSettingsCheckedOnThisConnection = true) : SupervisionOk relay' := by
  have howns : relay'.OwnsNode = relay.OwnsNode := by
    unfold RelaySupervision.OwnsNode
    rw [hsetup]
  have hruns : relay'.RunsSetupCommand = relay.RunsSetupCommand := by
    unfold RelaySupervision.RunsSetupCommand
    rw [hstage, howns]
  refine ⟨hsetup ▸ h.setup, hsetup ▸ h.owned, ?_, ?_, hconnected, hruns ▸ hsettingUp,
    hruns ▸ hdeciding, hchecked, ?_⟩
  · rw [hsetup, hstage]
    exact h.idle
  · rw [howns, hstage]
    exact hanswers
  · rw [hsetup, hstage]
    exact h.ofRun

/-- The executor has no handler, or the handler is not told. -/
theorem SupervisionOk.unhandled (h : SupervisionOk relay) {setup : SetupRelay}
    {stage : CommandStage} {answers : List DatabaseAnswer} (hsetup : SetupRelayOk setup)
    (howned : CommandsOwned setup) (hidle : setup.execution = none → stage = .claimed)
    (hstage : stage ∉ handlingStages)
    (hanswers : PendingAnswersOk { relay with setup }.OwnsNode stage answers) :
    SupervisionOk { relay with setup, stage, answers } := by
  have hunhandled : ¬ { relay with setup, stage, answers }.RunsSetupCommand :=
    fun hruns => hstage hruns.mem_handlingStages
  exact ⟨hsetup, howned, hidle, hanswers, h.connected, fun hruns => absurd hruns hunhandled,
    fun hruns => absurd hruns hunhandled, h.checked, fun hhandling => absurd hhandling hstage⟩

/-! The answers. -/

/-- A recomputation publishes a mode of setup where a setup command runs. -/
theorem SupervisionOk.recompute (h : SupervisionOk relay) {relayModeInputs : RelayModeInputs}
    {answers : List DatabaseAnswer}
    (hanswers : PendingAnswersOk relay.OwnsNode relay.stage answers)
    (howned : relay.RunsSetupCommand → relayModeInputs.IsOwned) :
    SupervisionOk ({ relay with answers }.recompute relayModeInputs) := by
  unfold RelaySupervision.recompute
  by_cases hphase : relay.phase = .connected
  · simp only [if_pos hphase]
    split
    · exact h.move rfl rfl hanswers h.connected h.settingUp h.deciding h.checked
    · next hguard =>
        refine h.move rfl rfl hanswers (fun _ => hphase) (fun hruns => ?_) h.deciding
          fun hrunning => ?_
        · cases relay.connectedNodePublicKey with
          | none => exact Or.inr rfl
          | some publicKey => exact Or.inl (howned hruns publicKey)
        · by_contra hunchecked
          exact hguard ⟨hrunning, Bool.eq_false_iff.2 hunchecked⟩
  · simp only [if_neg hphase]
    split
    · next hguard => cases hguard.1
    · exact h.move rfl rfl hanswers (fun hmode => absurd rfl hmode) (fun _ => Or.inr rfl) h.deciding
        fun hrunning => by cases hrunning

/-- A handshake decides on a mode of setup where a setup command runs. -/
theorem SupervisionOk.decideAtHandshake (h : SupervisionOk relay)
    {relayModeInputs : RelayModeInputs} {answers : List DatabaseAnswer}
    (hanswers : PendingAnswersOk relay.OwnsNode relay.stage answers)
    (howned : relay.RunsSetupCommand → relayModeInputs.IsOwned) (client : ℕ) :
    SupervisionOk ({ relay with answers }.decideAtHandshake client relayModeInputs) := by
  have hkept : SupervisionOk { relay with answers } :=
    h.move rfl rfl hanswers h.connected h.settingUp h.deciding h.checked
  unfold RelaySupervision.decideAtHandshake
  split
  · next publicKey hphase =>
      split
      · refine h.move rfl rfl hanswers (fun hmode => ?_) h.settingUp
          (fun hruns key relayMode hchecking => ?_) h.checked
        · cases (show relay.phase = .loadingModeInputs publicKey from hphase).symm.trans
            (h.connected hmode)
        · obtain ⟨rfl, rfl⟩ := ConnectionPhase.checkingSettings.inj hchecking
          exact howned hruns publicKey
      · exact hkept
  · exact hkept

/-- **The admission**: a setup command is admitted where a setup is in progress, and every load
that was not heard then found its run. -/
theorem SupervisionOk.hearActiveSetupRun (h : SupervisionOk relay)
    {activeSetupRun : Option ActiveSetupRunSummary} {answers : List DatabaseAnswer}
    (hstage : relay.stage = .checked) (hanswers : ∀ a ∈ answers, a.isModeInputs = true)
    (howned : relay.OwnsNode → ∀ a ∈ answers, a.IsOwned) :
    SupervisionOk ({ relay with answers }.hearActiveSetupRun activeSetupRun) := by
  obtain ⟨execution, hexecution⟩ : ∃ execution, relay.setup.execution = some execution := by
    refine Option.ne_none_iff_exists'.1 fun hnone => ?_
    cases hstage.symm.trans (h.idle hnone)
  have hbusy : ∀ stage, relay.setup.execution = none → stage = CommandStage.claimed :=
    fun _ hnone => by rw [hexecution] at hnone; cases hnone
  unfold RelaySupervision.hearActiveSetupRun
  simp only [hstage, hexecution]
  split
  · next refusal hrefusal =>
      exact h.unhandled h.setup h.owned (hbusy _) (by simp [handlingStages])
        (.refused refusal hanswers)
  · next hadmitted =>
      have hofRun : ∀ other, relay.setup.execution = some other →
          other.kind ∈ owningCommandKinds →
          relay.relayMode = .setupInProgress ∧ other.setupRunId.isSome := by
        intro other hother hkind
        obtain rfl := Option.some.inj (hexecution.symm.trans hother)
        obtain ⟨hmode, summary, -, hrun⟩ :=
          not_running_of_admitted (by simpa [owningCommandKinds] using hkind) hadmitted
        exact ⟨hmode, by simp [hrun]⟩
      have hmode : relay.OwnsNode → relay.relayMode = .setupInProgress := by
        rintro ⟨other, hother, hkind, -⟩
        exact (hofRun other hother hkind).1
      have howns : { relay with answers, stage := .admitted }.RunsSetupCommand →
          relay.OwnsNode := by
        rintro (hruns | hruns | ⟨-, howns⟩)
        · cases hruns
        · cases hruns
        · exact howns
      refine ⟨h.setup, h.owned, hbusy _, .admitted hanswers howned, h.connected,
        fun hruns => Or.inl (hmode (howns hruns)),
        fun hruns publicKey relayMode hphase => ?_, h.checked,
        fun _ other hother hkind => (hofRun other hother hkind).2⟩
      -- the node is connected, so no handshake is under way
      have hconnected := h.connected (by rw [hmode (howns hruns)]; decide)
      cases (show relay.phase = .checkingSettings publicKey relayMode from hphase).symm.trans
        hconnected

/-- The handler goes on once the configuration is saved, or is not. -/
theorem SupervisionOk.hearSaved (h : SupervisionOk relay) {answers : List DatabaseAnswer}
    (hstage : relay.stage = .saved) (hanswers : ∀ a ∈ answers, a.isModeInputs = true)
    (howned : relay.OwnsNode → ∀ a ∈ answers, a.IsOwned) (isSaved : Bool) :
    SupervisionOk ({ relay with answers }.hearSaved isSaved).1 := by
  have hruns : relay.RunsSetupCommand := Or.inr (Or.inl hstage)
  have hbusy : relay.setup.execution = none → CommandStage.admitted = .claimed := fun hnone => by
    cases hstage.symm.trans (h.idle hnone)
  have hofRun := h.ofRun hruns.mem_handlingStages
  unfold RelaySupervision.hearSaved
  simp only [hstage]
  split
  · exact ⟨h.setup, h.owned, hbusy, .admitted hanswers howned, h.connected,
      fun _ => h.settingUp hruns, fun _ => h.deciding hruns, h.checked, fun _ => hofRun⟩
  · refine ⟨h.setup, h.owned, hbusy, .admitted hanswers howned, h.connected,
      fun _ => h.settingUp hruns, fun _ => h.deciding hruns, fun hrunning => ?_, fun _ => hofRun⟩
    exact absurd hrunning (h.settingUp hruns).ne_running

/-- **The caller of a call goes on.** -/
theorem SupervisionOk.hearAnswer (h : SupervisionOk relay) {answer : DatabaseAnswer}
    {answers : List DatabaseAnswer} (hanswers : relay.answers = answer :: answers) :
    SupervisionOk (HoptalkRelay.hearAnswer { relay with answers } answer).1 := by
  have hbefore := h.answers
  rw [hanswers] at hbefore
  cases answer with
  | modeInputs caller relayModeInputs =>
      obtain ⟨hrest, howned⟩ := hbefore.heard rfl
      cases caller with
      | handshake client => exact h.decideAtHandshake hrest howned client
      | recomputation => exact h.recompute hrest howned
  | activeSetupRun activeSetupRun =>
      obtain ⟨hstage, hrest, howned⟩ := hbefore.heardRun
      exact h.hearActiveSetupRun hstage hrest howned
  | configurationSaved isSaved =>
      obtain ⟨hstage, hrest, howned⟩ := hbefore.heardSaved
      exact h.hearSaved hstage hrest howned isSaved

theorem SupervisionOk.loseAnswer (h : SupervisionOk relay) {answer : DatabaseAnswer}
    {answers : List DatabaseAnswer} (hanswers : relay.answers = answer :: answers) :
    SupervisionOk (HoptalkRelay.loseAnswer { relay with answers } answer).1 := by
  have hbefore := h.answers
  rw [hanswers] at hbefore
  cases answer with
  | modeInputs caller relayModeInputs =>
      exact h.move rfl rfl (hbefore.heard rfl).1 h.connected h.settingUp h.deciding h.checked
  | activeSetupRun activeSetupRun =>
      obtain ⟨hstage, hrest, -⟩ := hbefore.heardRun
      simp only [HoptalkRelay.loseAnswer, if_pos hstage]
      refine h.unhandled h.setup h.owned (fun hnone => ?_) (by simp [handlingStages])
        (.abandoned false hrest)
      cases hstage.symm.trans (h.idle hnone)
  | configurationSaved isSaved =>
      obtain ⟨hstage, hrest, howned⟩ := hbefore.heardSaved
      exact h.hearSaved hstage hrest howned false

/-! The connection. -/

/-- A handshake goes on, or a client is looked for. -/
theorem SupervisionOk.handshake (h : SupervisionOk relay) (hphase : relay.phase ≠ .connected)
    {relay' : RelaySupervision} (hsetup : relay'.setup = relay.setup)
    (hstage : relay'.stage = relay.stage) (hanswers : relay'.answers = relay.answers)
    (hmode : relay'.relayMode = relay.relayMode)
    (hdeciding : ∀ publicKey relayMode,
      relay'.phase ≠ .checkingSettings publicKey relayMode) : SupervisionOk relay' := by
  have hdisconnected : relay'.relayMode = .disconnected := by
    rw [hmode]
    by_contra hmode
    exact hphase (h.connected hmode)
  refine h.move hsetup hstage (hanswers ▸ h.answers) (fun hmode => absurd hdisconnected hmode)
    (fun _ => Or.inr hdisconnected)
    (fun _ publicKey relayMode hchecking => absurd hchecking (hdeciding _ _)) fun hrunning => ?_
  cases hdisconnected.symm.trans hrunning

theorem SupervisionOk.connectionStep (h : SupervisionOk relay) (event : SupervisionEvent) :
    SupervisionOk (HoptalkRelay.connectionStep relay event).1 := by
  cases event with
  | connectStarts | connectFails | clientAttached | nodeIdentified =>
      simp only [HoptalkRelay.connectionStep]
      split
      · next hphase =>
          exact h.handshake (by rw [hphase]; decide) rfl rfl rfl rfl fun _ _ hphase => by
            cases hphase
      · exact h
  | handshakeCompletes =>
      simp only [HoptalkRelay.connectionStep]
      split
      · next publicKey relayMode hphase =>
          exact h.move rfl rfl h.answers (fun _ => rfl)
            (fun hruns => Or.inl (h.deciding hruns _ _ hphase))
            (fun _ _ _ hphase => by cases hphase) fun hrunning => decide_eq_true hrunning
      · exact h
  | connectionEnds =>
      simp only [HoptalkRelay.connectionStep]
      split
      · exact h
      · exact h
      · exact h.move rfl rfl h.answers (fun hmode => absurd rfl hmode) (fun _ => Or.inr rfl)
          (fun _ _ _ hphase => by cases hphase) fun hrunning => by cases hrunning
  | requestReconnect =>
      exact h.move rfl rfl h.answers h.connected h.settingUp h.deciding h.checked
  | _ => exact h

/-! The transactions. -/

/-- The command under way is kept, and nothing is saved by a report. -/
theorem SupervisionOk.kept (h : SupervisionOk relay) (isReport : Bool) {setup : SetupRelay}
    {loading : Option ModeCaller} {answers : List DatabaseAnswer} (hsetup : SetupRelayOk setup)
    (howned : CommandsOwned setup) (hkept : ExecutionKept relay.setup setup isReport)
    (hplain : relay.stage = .saving → isReport = false)
    (hanswers : PendingAnswersOk relay.OwnsNode relay.stage answers) :
    SupervisionOk { relay with setup, loading, answers } := by
  have howns : { relay with setup, loading, answers }.OwnsNode → relay.OwnsNode := hkept.ownsNode
  have hruns : { relay with setup, loading, answers }.RunsSetupCommand →
      relay.RunsSetupCommand :=
    Or.imp_right (Or.imp_right (And.imp_right howns))
  refine ⟨hsetup, howned, fun hnone => h.idle (hkept.eq_none hnone), ?_, h.connected,
    fun hruns' => h.settingUp (hruns hruns'), fun hruns' => h.deciding (hruns hruns'), h.checked,
    fun hhandling _ => hkept.ofRun (h.ofRun hhandling)⟩
  refine hanswers.mono howns fun hsaving => ?_
  have howned : relay.OwnsNode := by
    have hbefore := h.answers
    rw [hsaving] at hbefore
    cases hbefore with
    | saving howns => exact howns
  exact hkept.keepsNode (hplain hsaving) howned

/-- The call that saves the configuration ends. -/
theorem SupervisionOk.savingEnds (h : SupervisionOk relay) {isReport : Bool} {setup : SetupRelay}
    (hsetup : SetupRelayOk setup) (howned : CommandsOwned setup)
    (hkept : ExecutionKept relay.setup setup isReport)
    (hstage : relay.stage = .saving ∨ relay.stage = .abandoned true) (isSaved : Bool) :
    SupervisionOk (relay.savingEnds setup isSaved) := by
  have hbusy : setup.execution ≠ none := fun hnone => by
    have hclaimed := h.idle (hkept.eq_none hnone)
    rcases hstage with hstage | hstage <;> cases hstage.symm.trans hclaimed
  have hbefore := h.answers
  unfold RelaySupervision.savingEnds
  split
  · next hsaving =>
      have hruns : relay.RunsSetupCommand := Or.inl hsaving
      rw [hsaving] at hbefore
      cases hbefore with
      | saving howns hinputs hfound =>
          exact ⟨hsetup, howned, fun hnone => absurd hnone hbusy,
            .saved isSaved hinputs (by simp) hfound (by simp), h.connected,
            fun _ => h.settingUp hruns, fun _ => h.deciding hruns, h.checked,
            fun _ _ => hkept.ofRun (h.ofRun hruns.mem_handlingStages)⟩
  · next hsaving =>
      have habandoned := hstage.resolve_left hsaving
      rw [habandoned] at hbefore
      cases hbefore with
      | abandoned _ hinputs =>
          exact h.unhandled hsetup howned (fun hnone => absurd hnone hbusy)
            (by simp [handlingStages]) (.abandoned false hinputs)

/-! The loads, and the executor. -/

theorem SupervisionOk.loadStep (h : SupervisionOk relay) (event : SupervisionEvent) :
    SupervisionOk (HoptalkRelay.loadStep relay event).1 := by
  cases event with
  | handshakeLoads =>
      simp only [HoptalkRelay.loadStep]
      split
      · next publicKey hphase =>
          split
          · exact h.handshake (by rw [hphase]; simp) rfl rfl rfl rfl fun _ _ hphase => by
              cases hphase
          · exact h
      · exact h
  | recomputationLoads =>
      simp only [HoptalkRelay.loadStep]
      split
      · exact h.move rfl rfl h.answers h.connected h.settingUp h.deciding h.checked
      · exact h
  | loadRaises =>
      exact h.kept false ⟨h.setup.db, h.setup.held, h.setup.executing, h.setup.sent⟩
        ⟨h.owned.pending, h.owned.executing, h.owned.started⟩ (.of_eq rfl) (fun _ => rfl) h.answers
  | _ => exact h

/-- The settings are withdrawn while a setup command runs. -/
theorem SupervisionOk.withdraw (h : SupervisionOk relay) (hruns : relay.RunsSetupCommand) :
    SupervisionOk { relay with nodeSettingsCheckedOnThisConnection := false } :=
  h.move rfl rfl h.answers h.connected h.settingUp h.deciding fun hrunning =>
    absurd hrunning (h.settingUp hruns).ne_running

theorem isModeInputs_of_mem_filter {answers : List DatabaseAnswer} :
    ∀ a ∈ answers.filter DatabaseAnswer.isModeInputs, a.isModeInputs = true :=
  fun _ ha => (List.mem_filter.1 ha).2

/-- A handler that configures the node runs a setup command. -/
theorem runsSetupCommand_of_isConfiguring (h : relay.isConfiguring = true) :
    relay.stage = .admitted ∧ relay.OwnsNode := by
  simp only [RelaySupervision.isConfiguring, Bool.and_eq_true, decide_eq_true_eq,
    Option.any_eq_true_iff_get, Bool.not_eq_true'] at h
  obtain ⟨hstage, hsome, ⟨hkind, hrun⟩, hunrecorded⟩ := h
  exact ⟨hstage, relay.setup.execution.get hsome, (Option.some_get hsome).symm,
    by simp [owningCommandKinds, hkind], hrun, hunrecorded⟩

theorem SupervisionOk.commandStep (h : SupervisionOk relay) (event : SupervisionEvent) :
    SupervisionOk (HoptalkRelay.commandStep relay event).1 := by
  have hbefore := h.answers
  cases event with
  | readActiveSetupRun =>
      simp only [HoptalkRelay.commandStep]
      split
      · next hguard =>
          obtain ⟨hstage, hsome, -⟩ := hguard
          refine h.unhandled h.setup h.owned (fun hnone => ?_) (by simp [handlingStages]) ?_
          · rw [hnone] at hsome
            cases hsome
          · exact .checked _ (hbefore.isModeInputs (by rw [hstage]; decide)
              (by rw [hstage]; decide)) (by simp) (by simp)
      · exact h
  | confirmNodeSettingsVerified =>
      simp only [HoptalkRelay.commandStep]
      split
      · next hconfiguring =>
          obtain ⟨hstage, howns⟩ := runsSetupCommand_of_isConfiguring hconfiguring
          have hruns : relay.RunsSetupCommand := Or.inr (Or.inr ⟨hstage, howns⟩)
          rw [hstage] at hbefore
          cases hbefore with
          | admitted hinputs hfound =>
              refine ⟨h.setup, h.owned, fun hnone => ?_, .saving howns hinputs (hfound howns),
                h.connected, fun _ => h.settingUp hruns, fun _ => h.deciding hruns, fun _ => rfl,
                fun _ => h.ofRun hruns.mem_handlingStages⟩
              cases hstage.symm.trans (h.idle hnone)
      · exact h
  | savingRaises =>
      simp only [HoptalkRelay.commandStep]
      split
      · next hstage =>
          have hkept : ExecutionKept relay.setup relay.setup false := .of_eq rfl
          exact h.savingEnds h.setup h.owned hkept (Or.inl hstage) false
      · exact h
  | handlerCancelled =>
      simp only [HoptalkRelay.commandStep]
      split
      · next hstage =>
          have hruns : relay.RunsSetupCommand := hstage.imp_right Or.inl
          refine (h.withdraw hruns).unhandled h.setup h.owned (fun hnone => ?_)
            (by simp [handlingStages]) (.abandoned _ isModeInputs_of_mem_filter)
          have hclaimed := h.idle hnone
          rcases hstage with hstage | hstage <;> cases hstage.symm.trans hclaimed
      · exact h
  | recordNodeIdentity publicKey =>
      simp only [HoptalkRelay.commandStep]
      split
      · exact h.move rfl rfl h.answers h.connected h.settingUp h.deciding h.checked
      · exact h
  | _ => exact h

/-- A handler reports once. -/
theorem outcomeRecorded_of_allowsSetup {event : SetupEvent} (h : allowsSetup relay event = true)
    (hreport : event.isReport = true) {execution : CommandExecution}
    (hexecution : relay.setup.execution = some execution) : execution.outcomeRecorded = false := by
  have hunrecorded : relay.outcomeIsRecorded = false := by
    cases event with
    | recordNodeInformationRead | recordFactoryResetSucceeded | recordConfigurationCompleted =>
        unfold allowsSetup at h
        simp only [Bool.and_eq_true, Bool.not_eq_true'] at h
        exact h.2
    | _ => cases hreport
  simpa [RelaySupervision.outcomeIsRecorded, hexecution] using hunrecorded

/-- What is reported while the configuration is saved. -/
theorem isReport_of_saving {event : SetupEvent} (h : allowsSetup relay event = true)
    (hstage : relay.stage = .saving) (hreport : event.isReport = true) :
    ∃ nodeConfiguration now nodeIdentityBackup,
      event = .recordConfigurationCompleted nodeConfiguration now nodeIdentityBackup := by
  cases event with
  | recordConfigurationCompleted nodeConfiguration now nodeIdentityBackup =>
      exact ⟨nodeConfiguration, now, nodeIdentityBackup, rfl⟩
  | recordNodeInformationRead | recordFactoryResetSucceeded =>
      unfold allowsSetup at h
      simp [hstage] at h
  | _ => cases hreport

/-- The configuration is saved by the call that the handler made. -/
theorem saving_of_allowsSetup {nodeConfiguration : NodeConfiguration} {now : Time}
    {nodeIdentityBackup : Option NodeIdentityBackup}
    (h : allowsSetup relay
      (.recordConfigurationCompleted nodeConfiguration now nodeIdentityBackup) = true) :
    relay.stage = .saving ∨ relay.stage = .abandoned true := by
  unfold allowsSetup at h
  simp only [Bool.and_eq_true] at h
  simpa using h.1

/-- A worker that starts. -/
theorem supervisionOk_ofSetup {setup : SetupRelay} (hsetup : SetupRelayOk setup)
    (howned : CommandsOwned setup) : SupervisionOk (.ofSetup setup) := by
  refine ⟨hsetup, howned, fun _ => rfl, .claimed (by simp [RelaySupervision.ofSetup]),
    fun hmode => absurd rfl hmode, fun _ => Or.inr rfl, fun _ _ _ hphase => ?_,
    fun hrunning => ?_, fun hhandling => ?_⟩
  · cases hphase
  · cases hrunning
  · simp [RelaySupervision.ofSetup, handlingStages] at hhandling

/-- What holds beneath is kept, where a handler reports once. -/
theorem SupervisionOk.beneath (h : SupervisionOk relay) {event : SetupEvent}
    (hallowed : allowsSetup relay event = true) :
    SetupRelayOk (setupStep relay.setup event).1 ∧
      CommandsOwned (setupStep relay.setup event).1 :=
  ⟨h.setup.step (h.setup.setupStep event), h.owned.step h.setup event fun hreport _ hexecution =>
    outcomeRecorded_of_allowsSetup hallowed hreport hexecution⟩

/-- An event that takes, saves and ends nothing. -/
theorem SupervisionOk.plainStep (h : SupervisionOk relay) {event : SetupEvent}
    (hallowed : allowsSetup relay event = true) (hends : event.endsExecution = false)
    (hunclaimed : ∀ commandId, (setupStep relay.setup event).2 ≠ .claimed commandId)
    (hunsaved : ∀ nodeConfiguration now nodeIdentityBackup,
      event = .recordConfigurationCompleted nodeConfiguration now nodeIdentityBackup →
        ∀ setupRunId, (setupStep relay.setup event).2 ≠ .completed setupRunId) :
    SupervisionOk { relay with setup := (setupStep relay.setup event).1 } := by
  obtain ⟨hsetup, howned⟩ := h.beneath hallowed
  by_cases hreport : relay.stage = .saving ∧ event.isReport = true
  · -- the call that saves the configuration has not ended
    obtain ⟨nodeConfiguration, now, nodeIdentityBackup, rfl⟩ :=
      isReport_of_saving hallowed hreport.1 hreport.2
    rcases setupStep_recordConfigurationCompleted relay.setup nodeConfiguration now
      nodeIdentityBackup with hsame | ⟨setupRunId, houtcome⟩
    · rw [hsame]
      exact h
    · exact absurd houtcome (hunsaved _ _ _ rfl setupRunId)
  · exact h.kept _ hsetup howned (executionKept_setupStep hends hunclaimed)
      (fun hstage => Bool.eq_false_iff.2 fun hreports => hreport ⟨hstage, hreports⟩) h.answers

/-- The executor is done with its command. -/
theorem SupervisionOk.finishes (h : SupervisionOk relay) {commandEnd : CommandEnd}
    {now : Time} {errorMessage : Text}
    (hallowed : allowsSetup relay (.finishNodeCommand commandEnd now errorMessage) = true) :
    SupervisionOk (afterSetup relay (.finishNodeCommand commandEnd now errorMessage)
      (setupStep relay.setup (.finishNodeCommand commandEnd now errorMessage)).1
      (setupStep relay.setup (.finishNodeCommand commandEnd now errorMessage)).2) := by
  obtain ⟨hsetup, howned⟩ := h.beneath hallowed
  unfold afterSetup
  dsimp only
  split
  · refine h.unhandled hsetup howned (fun _ => rfl) (by simp [handlingStages])
      (.claimed (h.answers.isModeInputs (fun hstage => ?_) fun hstage => ?_))
    · unfold allowsSetup at hallowed
      simp [hstage] at hallowed
    · unfold allowsSetup at hallowed
      simp [hstage] at hallowed
  · next hbusy =>
      have hsame := (setupStep_finishNodeCommand relay.setup commandEnd now
        errorMessage).resolve_right fun hnone => hbusy (by rw [hnone]; rfl)
      rw [hsame]
      exact h

/-- **The panel, the queue and the handlers** keep it. -/
theorem SupervisionOk.superviseSetup (h : SupervisionOk relay) (event : SetupEvent) :
    SupervisionOk (HoptalkRelay.superviseSetup relay event).1 := by
  unfold HoptalkRelay.superviseSetup
  split
  · next hallowed =>
      obtain ⟨hsetup, howned⟩ := h.beneath hallowed
      have hkept := @executionKept_setupStep relay.setup event
      have hclaim := fun commandId hclaimed =>
        @execution_of_claimed relay.setup event commandId hclaimed h.setup
      have hplain := h.plainStep hallowed
      show SupervisionOk (afterSetup relay event (setupStep relay.setup event).1
        (setupStep relay.setup event).2)
      generalize hstep : setupStep relay.setup event = step at *
      obtain ⟨setup, outcome⟩ := step
      dsimp only at *
      unfold afterSetup
      split
      · next relayModeInputs =>
          have hloads : (setupStep relay.setup .readModeInputs).2 = .loaded relayModeInputs :=
            congrArg Prod.snd hstep
          obtain ⟨configuredNode, -, hinputs⟩ := loaded_setupStep hloads
          refine h.kept false hsetup howned (hkept rfl (by simp)) (fun _ => rfl)
            (h.answers.loaded fun howns => ?_)
          rw [hinputs]
          exact h.loads_owned howns configuredNode
      · exact h.savingEnds hsetup howned (hkept rfl (by simp)) (saving_of_allowsSetup hallowed) true
      · exact h.savingEnds hsetup howned (hkept rfl (by simp)) (saving_of_allowsSetup hallowed)
          false
      · next commandId =>
          have hstage := h.idle (hclaim commandId rfl).1
          exact h.unhandled hsetup howned (fun _ => rfl) (by simp [handlingStages])
            (.claimed (h.answers.isModeInputs (by rw [hstage]; decide) (by rw [hstage]; decide)))
      · next commandEnd now errorMessage =>
          have hfinished := h.finishes hallowed
          rw [hstep] at hfinished
          exact hfinished
      · exact h.unhandled hsetup howned (fun _ => rfl) (by simp [handlingStages])
          (.claimed isModeInputs_of_mem_filter)
      · exact supervisionOk_ofSetup hsetup howned
      · next hfinish hexecutor hprocess _ hcompleted _ hunclaimed =>
          refine hplain ?_ (fun commandId houtcome => ?_) fun _ _ _ hevent _ houtcome =>
            hcompleted _ _ _ _ hevent houtcome
          · cases event with
            | finishNodeCommand commandEnd now errorMessage =>
                exact (hfinish commandEnd now errorMessage rfl).elim
            | executorStops => exact (hexecutor rfl).elim
            | processStops => exact (hprocess rfl).elim
            | _ => rfl
          · obtain ⟨-, lockedElsewhere, workerInstanceId, now, hevent⟩ := hclaim commandId houtcome
            exact hunclaimed _ _ _ _ hevent houtcome
  · exact h

/-- **Every event** keeps the invariant. -/
theorem SupervisionOk.step (h : SupervisionOk relay) (event : SupervisionEvent) :
    SupervisionOk (supervisionStep relay event).1 := by
  cases event with
  | setup event => exact h.superviseSetup event
  | answerArrives =>
      unfold supervisionStep
      dsimp only
      split
      · exact h
      · next hanswers => exact h.hearAnswer hanswers
  | answerLost =>
      unfold supervisionStep
      dsimp only
      split
      · exact h
      · next hanswers => exact h.loseAnswer hanswers
  | handshakeLoads | recomputationLoads | loadRaises => exact h.loadStep _
  | readActiveSetupRun | confirmNodeSettingsVerified | savingRaises | handlerCancelled
  | recordNodeIdentity => exact h.commandStep _
  | _ => exact h.connectionStep _

theorem supervisionOk_of_run {contacts : Table Contact}
    {history : List (SupervisionEvent × SupervisionOutcome)}
    (run : (relaySupervision contacts).Run (relaySupervision contacts).init history relay) :
    SupervisionOk relay :=
  run.invariant'
    (supervisionOk_ofSetup (setupRelayOk_start contacts) (commandsOwned_start contacts))
    fun _ event h => h.step event

/-! ### What a setup command does to the node -/

/-- An unheard handler of a setup command of a run. -/
theorem SupervisionOk.runsSetupCommand (h : SupervisionOk relay) (hstage : relay.stage = .admitted)
    {execution : CommandExecution} (hexecution : relay.setup.execution = some execution)
    (hkind : execution.kind ∈ owningCommandKinds)
    (hunrecorded : execution.outcomeRecorded = false) : relay.RunsSetupCommand := by
  have hrun := h.ofRun (by simp [handlingStages, hstage]) execution hexecution hkind
  exact Or.inr (Or.inr ⟨hstage, execution, hexecution, hkind, hrun, hunrecorded⟩)

/-- The reset frame is sent by the handler of a reset. -/
theorem SupervisionOk.sendResetFrame (h : SupervisionOk relay)
    (hsent : (supervisionStep relay (.setup .sendResetFrame)).1.setup.resetFramesSent ≠
      relay.setup.resetFramesSent) : relay.RunsSetupCommand := by
  unfold supervisionStep at hsent
  simp only [HoptalkRelay.superviseSetup] at hsent
  split at hsent
  · next hallowed =>
      cases hexecution : relay.setup.execution with
      | none => simp [afterSetup, setupStep, SetupEvent.isCall, setupQueueStep, hexecution] at hsent
      | some execution =>
          have hkind : execution.kind = .factoryReset := by
            by_contra hkind
            simp [afterSetup, setupStep, SetupEvent.isCall, setupQueueStep, hexecution,
              executionStep, hkind] at hsent
          unfold allowsSetup at hallowed
          simp only [Bool.and_eq_true, decide_eq_true_eq, Bool.not_eq_true'] at hallowed
          refine h.runsSetupCommand hallowed.1 hexecution (by simp [owningCommandKinds, hkind]) ?_
          simpa [RelaySupervision.outcomeIsRecorded, hexecution] using hallowed.2
  · exact absurd rfl hsent

/-- A restore begins in the handler that configures the node. -/
theorem SupervisionOk.restoreStarted (h : SupervisionOk relay) {setupRunId : ℕ}
    {restoredPublicKey : Text}
    (hrestores : (supervisionStep relay (.setup .recordIdentityRestoreStarted)).2 =
      .setup (.restoreStarted setupRunId restoredPublicKey)) : relay.RunsSetupCommand := by
  unfold supervisionStep at hrestores
  simp only [HoptalkRelay.superviseSetup] at hrestores
  split at hrestores
  · next hallowed =>
      have houtcome := SupervisionOutcome.setup.inj hrestores
      obtain ⟨-, execution, hexecution, -, hunrecorded⟩ :=
        (h.setup.setupStep _).restores _ _ houtcome
      have hkind : execution.kind = .configureNode := by
        unfold setupStep at houtcome
        split at houtcome
        · cases houtcome
        · simp only [setupQueueStep, hexecution, executionStep] at houtcome
          split at houtcome
          · assumption
          · cases houtcome
      exact h.runsSetupCommand (by simpa [allowsSetup] using hallowed) hexecution
        (by simp [owningCommandKinds, hkind]) hunrecorded
  · cases hrestores

/-- **No relaying under a setup command.**  While the handler that resets or configures the node
runs, the node is not relayed over, whatever was loaded and whoever recomputes the mode; and the
reset frame is sent, and a restore begins, in that time alone. -/
theorem setup_commands_never_relay {contacts : Table Contact}
    {history : List (SupervisionEvent × SupervisionOutcome)}
    (run : (relaySupervision contacts).Run (relaySupervision contacts).init history relay) :
    (relay.RunsSetupCommand → relay.relayMode.IsSettingUp) ∧
      ((supervisionStep relay (.setup .sendResetFrame)).1.setup.resetFramesSent ≠
          relay.setup.resetFramesSent → relay.relayMode.IsSettingUp) ∧
      ∀ setupRunId restoredPublicKey,
        (supervisionStep relay (.setup .recordIdentityRestoreStarted)).2 =
            .setup (.restoreStarted setupRunId restoredPublicKey) →
          relay.relayMode.IsSettingUp := by
  have h := supervisionOk_of_run run
  exact ⟨h.settingUp, fun hsent => h.settingUp (h.sendResetFrame hsent),
    fun _ _ hrestores => h.settingUp (h.restoreStarted hrestores)⟩

end Invariant

/-! A reset of a connected node, up to its frame. -/

def sampleLoad : List SupervisionEvent :=
  List.replicate 5 (.setup .readModeInputs) ++ [.answerArrives]

def sampleHandshake (publicKey : Text) : List SupervisionEvent :=
  [.connectStarts, .clientAttached, .nodeIdentified publicKey, .handshakeLoads] ++ sampleLoad ++
    [.handshakeCompletes]

def sampleClaim (now : Time) : List SupervisionEvent :=
  [.setup (.claimNextNodeCommand [] 1 now), .readActiveSetupRun, .answerArrives]

def sampleConnectedReset : List SupervisionEvent :=
  sampleHandshake "ab12".toList ++ [.setup (.startSetupRun 0)] ++ sampleClaim 0 ++
    [.setup (.recordNodeInformationRead sampleNode 1), .setup (.finishNodeCommand .succeeded 1 []),
      .setup (.confirmFactoryReset 1 "Relay".toList 2), .recomputationLoads] ++
    sampleLoad ++ sampleClaim 3 ++
    [.setup (.recordNodeCommandProgress
      { step := FactoryResetStep.sendResetFrame.value, state := .running, detail := [],
        recordedAt := 3 })]

theorem setup_commands_never_relay_sampleConnectedReset :
    let relay := ((relaySupervision .empty).exec (relaySupervision .empty).init
      sampleConnectedReset).2
    (supervisionStep relay (.setup .sendResetFrame)).1.setup.resetFramesSent = [2] ∧
      relay.relayMode.IsSettingUp :=
  ⟨by decide +kernel, (setup_commands_never_relay ((relaySupervision .empty).run_exec
    (relaySupervision .empty).init sampleConnectedReset)).2.1 (by decide +kernel)⟩

end HoptalkRelay
