/-
**A restored identity without its settings.**

A handler notes the configured key it is about to import into a reset node.  Until a run completes,
the node with that key must not relay: its settings are those of the factory.  The mode is decided
from reads that are committed one by one, and either the read of the abandoned runs or the later
read of the active run finds the run that began to import the key, unless the operator cancels it
between the two.

Main definitions:

* `HoptalkRelay.restoredKeys` — the keys that began to be imported since a run completed;
* `HoptalkRelay.RestoreOk` — **the run of every such key is there**;
* `HoptalkRelay.ReadUndisturbed` — what the reads found is still so.

Main results:

* `HoptalkRelay.SetupMove.runStep` — what a step does to a run;
* `HoptalkRelay.restoreOk_of_run` — **the runs of the restored keys, along every run**;
* `HoptalkRelay.restored_identity_never_relays` — **a restored identity never relays**.
-/

import HoptalkRelay.Invariants.SetupAgreement

set_option relaxedAutoImplicit false
set_option autoImplicit false

namespace HoptalkRelay

open Relational Transition

/-! ### The rows of the runs -/

/-- What a step does to one run. -/
inductive RunStep (event : SetupEvent) (outcome : SetupOutcome) (run : NodeSetupRun) :
    NodeSetupRun → Prop
  | follows {run' : NodeSetupRun} (hfollows : RunFollows run run') : RunStep event outcome run run'
  | cancelled {setupRunId : ℕ} {now : Time} (hevent : event = .cancelSetupRun setupRunId now)
      (houtcome : outcome = .done) (hstate : run.state ∈ cancellableStates) :
      RunStep event outcome run (run.moved .abandoned now none)
  | restored {setupRunId : ℕ} {restoredPublicKey : Text}
      (houtcome : outcome = .restoreStarted setupRunId restoredPublicKey)
      (hstate : run.state = .configuring) :
      RunStep event outcome run { run with restoredPublicKey }
  | completed {setupRunId : ℕ} {now : Time} (houtcome : outcome = .completed setupRunId) :
      RunStep event outcome run (run.moved .completed now (some []))

section Rows

variable {event : SetupEvent} {outcome : SetupOutcome} {db db' : SetupDb} {setupRunId : ℕ}
  {run run' : NodeSetupRun}

/-- The row of another run is the same. -/
theorem RowReplaced.other {r : ℕ} {before after : NodeSetupRun}
    (h : RowReplaced db db' r before after) (hrow : db.runs.get? setupRunId = some run)
    (hne : setupRunId ≠ r) : db'.runs.get? setupRunId = some run :=
  (congrArg Prod.fst (h.others setupRunId hne)).trans hrow

/-- **A run stays**, and moves as the step says. -/
theorem SetupMove.runStep (h : SetupMove event db db' outcome)
    (hrow : db.runs.get? setupRunId = some run) :
    ∃ run', db'.runs.get? setupRunId = some run' ∧ RunStep event outcome run run' := by
  have hreplaced : ∀ {r : ℕ} {before after : NodeSetupRun}, RowReplaced db db' r before after →
      RunStep event outcome before after →
        ∃ run', db'.runs.get? setupRunId = some run' ∧ RunStep event outcome run run' := by
    intro r before after hreplaced hstep
    by_cases hid : setupRunId = r
    · subst hid
      obtain rfl := Option.some.inj (hrow.symm.trans hreplaced.row)
      exact ⟨after, hreplaced.row', hstep⟩
    · exact ⟨run, hreplaced.other hrow hid, .follows (.refl run)⟩
  cases h with
  | moved hmoved =>
      obtain ⟨run', hrow', hfollows⟩ :=
        (hmoved.views setupRunId).row (show (db.view _).1 = _ from hrow)
      exact ⟨run', hrow', .follows hfollows⟩
  | claimed hevent hmoved =>
      obtain ⟨run', hrow', hfollows⟩ :=
        (hmoved.views setupRunId).row (show (db.view _).1 = _ from hrow)
      exact ⟨run', hrow', .follows hfollows⟩
  | cancelled hevent hrows hstate => exact hreplaced hrows (.cancelled hevent rfl hstate)
  | restored hreported hstate => exact hreplaced hreported.toRowReplaced (.restored rfl hstate)
  | completed hrows => exact hreplaced hrows (.completed rfl)

/-- A run that starts reads the node. -/
theorem ViewMove.started_state {nextKey : ℕ} {v w : RunView} (h : ViewMove nextKey v w)
    (hnone : v.1 = none) (hrow : w.1 = some run) : run.state = .readingNode := by
  cases h with
  | queue moves =>
      rw [moves.none_of_none hnone] at hrow
      cases hrow
  | started =>
      obtain rfl := Option.some.inj hrow
      rfl
  | asked => cases hnone
  | reported => cases hnone
  | progressed => cases hnone.symm.trans hrow
  | pruned => cases hnone.symm.trans hrow

/-- A row after the step is that of a run that was there, or of one that starts. -/
theorem SetupMove.run_before (h : SetupMove event db db' outcome) (hrun : run' ∈ db'.runs) :
    (∃ run ∈ db.runs, run.id = run'.id) ∨
      run'.state = .readingNode ∧ run'.id = db.runs.nextKey := by
  have hrow' : db'.runs.get? run'.id = some run' := Table.get?_key hrun
  cases hrow : db.runs.get? run'.id with
  | some run => exact Or.inl ⟨run, Table.mem_of_get? hrow, Table.key_of_get? hrow⟩
  | none =>
      have hmoved : ∀ {touched : Set ℕ} {db₁ : SetupDb}, SetupMoved touched db db₁ →
          db₁.runs.get? run'.id = some run' →
            run'.state = .readingNode ∧ run'.id = db.runs.nextKey := by
        intro touched db₁ hmoved hrow₁
        refine ⟨(hmoved.views run'.id).started_state (show (db.view _).1 = _ from hrow) hrow₁, ?_⟩
        exact (hmoved.started run'.id hrow (by rw [hrow₁]; rfl)).1
      have hreplaced : ∀ {r : ℕ} {before after : NodeSetupRun},
          RowReplaced db db' r before after → False := by
        intro r before after hreplaced
        by_cases hid : run'.id = r
        · rw [hid, hreplaced.row] at hrow
          cases hrow
        · have hsame := congrArg Prod.fst (hreplaced.others run'.id hid)
          rw [show (db'.view run'.id).1 = some run' from hrow',
            show (db.view run'.id).1 = none from hrow] at hsame
          cases hsame
      cases h with
      | moved h => exact Or.inr (hmoved h hrow')
      | claimed hevent h => exact Or.inr (hmoved h hrow')
      | cancelled hevent hrows => exact absurd hrows hreplaced
      | restored hreported => exact absurd hreported.toRowReplaced hreplaced
      | completed hrows => exact absurd hrows hreplaced

/-- A completed run was completed before, unless the step completes one. -/
theorem SetupMove.completed_before (h : SetupMove event db db' outcome)
    (hincomplete : ∀ setupRunId, outcome ≠ .completed setupRunId) (hrun : run' ∈ db'.runs)
    (hstate : run'.state = .completed) :
    ∃ run ∈ db.runs, run.id = run'.id ∧ run.state = .completed := by
  rcases h.run_before hrun with ⟨run, hmem, hid⟩ | ⟨hreading, -⟩
  · obtain ⟨other, hrow, hstep⟩ := h.runStep (Table.get?_key hmem)
    have hsame : other = run' := Table.eq_of_key_eq (Table.mem_of_get? hrow) hrun
      ((Table.key_of_get? hrow).trans hid)
    subst hsame
    refine ⟨run, hmem, hid, ?_⟩
    cases hstep with
    | follows hfollows =>
        by_contra hne
        by_cases hended : run.state ∈ setupRunFinalStates
        · rw [hfollows.ended hended] at hstate
          exact hne hstate
        · exact hfollows.open_ hended (by rw [hstate]; simp [setupRunFinalStates])
    | cancelled => cases hstate
    | restored houtcome hconfiguring => exact hstate
    | completed houtcome => exact absurd houtcome (hincomplete _)
  · rw [hreading] at hstate
    cases hstate

/-- The configuration changes only where a run completes. -/
theorem SetupMove.configuration (h : SetupMove event db db' outcome)
    (hincomplete : ∀ setupRunId, outcome ≠ .completed setupRunId) :
    db'.nodeConfiguration = db.nodeConfiguration := by
  cases h with
  | moved hmoved => exact hmoved.kept.configuration
  | claimed hevent hmoved => exact hmoved.kept.configuration
  | cancelled hevent hrows hstate hkept => exact hkept.configuration
  | restored hreported => exact hreported.kept.configuration
  | completed => exact absurd rfl (hincomplete _)

/-- The ids of the runs count from one. -/
structure RunIdsOk (db : SetupDb) : Prop where
  next : 0 < db.runs.nextKey
  ids : ∀ run ∈ db.runs, 0 < run.id

theorem RunIdsOk.step (h : RunIdsOk db) (hmove : SetupMove event db db' outcome) :
    RunIdsOk db' := by
  have hids : ∀ run' ∈ db'.runs, 0 < run'.id := by
    intro run' hrun'
    rcases hmove.run_before hrun' with ⟨run, hrun, hid⟩ | ⟨-, hid⟩
    · rw [← hid]
      exact h.ids run hrun
    · rw [hid]
      exact h.next
  have hrows : ∀ {r : ℕ} {before after : NodeSetupRun}, RowReplaced db db' r before after →
      0 < db'.runs.nextKey := fun hreplaced =>
    (hids _ (Table.mem_of_get? hreplaced.row')).trans
      (db'.runs.below _ (Table.mem_of_get? hreplaced.row'))
  refine ⟨?_, hids⟩
  cases hmove with
  | moved hmoved => exact h.next.trans_le hmoved.kept.nextRun
  | claimed hevent hmoved => exact h.next.trans_le hmoved.kept.nextRun
  | cancelled hevent hreplaced => exact hrows hreplaced
  | restored hreported => exact hrows hreported.toRowReplaced
  | completed hreplaced => exact hrows hreplaced

end Rows

/-! ### The restored keys -/

/-- One step of `restoredKeys`. -/
def restoredKeysAfter (keys : List Text) : SetupOutcome → List Text
  | .restoreStarted _ restoredPublicKey => restoredPublicKey :: keys
  | .completed _ => []
  | _ => keys

/-- The keys whose import into a node began since a run completed last. -/
def restoredKeys (history : List (SetupEvent × SetupOutcome)) : List Text :=
  history.foldl (fun keys p => restoredKeysAfter keys p.2) []

@[simp] theorem restoredKeys_nil : restoredKeys [] = [] := rfl

@[simp] theorem restoredKeys_snoc (history : List (SetupEvent × SetupOutcome))
    (p : SetupEvent × SetupOutcome) :
    restoredKeys (history ++ [p]) = restoredKeysAfter (restoredKeys history) p.2 := by
  simp [restoredKeys]

/-- A step after which a key is restored did not complete a run. -/
theorem mem_restoredKeysAfter {keys : List Text} {outcome : SetupOutcome} {restoredKey : Text}
    (h : restoredKey ∈ restoredKeysAfter keys outcome) :
    (∀ setupRunId, outcome ≠ .completed setupRunId) ∧
      (restoredKey ∈ keys ∨ ∃ setupRunId, outcome = .restoreStarted setupRunId restoredKey) := by
  cases outcome with
  | restoreStarted setupRunId restoredPublicKey =>
      refine ⟨by simp, ?_⟩
      rcases List.mem_cons.1 h with rfl | hkeys
      · exact Or.inr ⟨setupRunId, rfl⟩
      · exact Or.inl hkeys
  | completed setupRunId => cases h
  | done => exact ⟨by simp, Or.inl h⟩
  | refused error => exact ⟨by simp, Or.inl h⟩
  | claimed nodeCommandId => exact ⟨by simp, Or.inl h⟩
  | loaded relayModeInputs => exact ⟨by simp, Or.inl h⟩

/-- The run that began to import a key; no run after it has completed. -/
structure RestoringRun (db : SetupDb) (restoredKey : Text) (run : NodeSetupRun) : Prop where
  mem : run ∈ db.runs
  restored : run.restoredPublicKey = restoredKey
  incomplete : run.state ≠ .completed
  latest : ∀ other ∈ db.runs, other.state = .completed → other.id < run.id

/-- **A key that began to be imported** is the configured one, and its run is there. -/
structure KeyRestored (db : SetupDb) (restoredKey : Text) : Prop where
  nonempty : restoredKey ≠ []
  configured : readConfiguredPublicKey db = restoredKey
  run : ∃ run, RestoringRun db restoredKey run

section Restoring

variable {event : SetupEvent} {outcome : SetupOutcome} {db db' : SetupDb} {restoredKey : Text}
  {run : NodeSetupRun}

theorem readConfiguredPublicKey_step (h : SetupMove event db db' outcome)
    (hincomplete : ∀ setupRunId, outcome ≠ .completed setupRunId) :
    readConfiguredPublicKey db' = readConfiguredPublicKey db := by
  unfold readConfiguredPublicKey
  rw [h.configuration hincomplete]

/-- The run stays where it was restoring. -/
theorem RestoringRun.step (h : RestoringRun db restoredKey run)
    (hmove : SetupMove event db db' outcome)
    (hincomplete : ∀ setupRunId, outcome ≠ .completed setupRunId)
    (hsame : ∀ setupRunId restoredPublicKey,
      outcome = .restoreStarted setupRunId restoredPublicKey → restoredPublicKey = restoredKey) :
    ∃ run', RestoringRun db' restoredKey run' ∧ RunStep event outcome run run' := by
  obtain ⟨run', hrow', hstep⟩ := hmove.runStep (Table.get?_key h.mem)
  refine ⟨run', ⟨Table.mem_of_get? hrow', ?_, ?_, fun other hother hstate => ?_⟩, hstep⟩
  · cases hstep with
    | follows hfollows => exact hfollows.restored.trans h.restored
    | cancelled => exact h.restored
    | restored houtcome => exact hsame _ _ houtcome
    | completed => exact h.restored
  · cases hstep with
    | follows hfollows =>
        intro hcompleted
        by_cases hended : run.state ∈ setupRunFinalStates
        · rw [hfollows.ended hended] at hcompleted
          exact h.incomplete hcompleted
        · exact hfollows.open_ hended (by rw [hcompleted]; simp [setupRunFinalStates])
    | cancelled => exact fun hcompleted => by cases hcompleted
    | restored houtcome hconfiguring => exact h.incomplete
    | completed houtcome => exact absurd houtcome (hincomplete _)
  · obtain ⟨before, hbefore, hid, hcompleted⟩ :=
      hmove.completed_before hincomplete hother hstate
    have hlt := h.latest before hbefore hcompleted
    have hrunId : run'.id = run.id := Table.key_of_get? hrow'
    omega

/-- The run of a key stays. -/
theorem KeyRestored.step (h : KeyRestored db restoredKey) (hmove : SetupMove event db db' outcome)
    (hincomplete : ∀ setupRunId, outcome ≠ .completed setupRunId)
    (hsame : ∀ setupRunId restoredPublicKey,
      outcome = .restoreStarted setupRunId restoredPublicKey → restoredPublicKey = restoredKey) :
    KeyRestored db' restoredKey := by
  obtain ⟨run, hrun⟩ := h.run
  obtain ⟨run', hrun', -⟩ := hrun.step hmove hincomplete hsame
  exact ⟨h.nonempty, (readConfiguredPublicKey_step hmove hincomplete).trans h.configured,
    run', hrun'⟩

/-- **An import begins**: its run is the active one, so none after it has completed. -/
theorem keyRestored_of_restoreStarted {setupRunId : ℕ} (hok : SetupOk db)
    (hmove : SetupMove event db db' (.restoreStarted setupRunId restoredKey))
    (hnonempty : restoredKey ≠ []) (hconfigured : readConfiguredPublicKey db = restoredKey) :
    KeyRestored db' restoredKey ∧
      ∃ run ∈ db'.runs, run.isActive = true ∧ run.restoredPublicKey = restoredKey := by
  have hok' := hok.step hmove
  have hconfigured' : readConfiguredPublicKey db' = restoredKey :=
    (readConfiguredPublicKey_step hmove (by simp)).trans hconfigured
  cases hmove with
  | moved hmoved hplain => cases hplain
  | restored hreported hstate =>
      have hmem := Table.mem_of_get? hreported.row'
      have hactive := (hok'.isActive_iff hreported.row').2 (by
        rw [show NodeSetupRun.state _ = .configuring from hstate]
        decide)
      refine ⟨⟨hnonempty, hconfigured', _, hmem, rfl, fun hcompleted => ?_,
        fun other hother hcompleted => ?_⟩, _, hmem, hactive, rfl⟩
      · rw [show NodeSetupRun.state _ = .configuring from hstate] at hcompleted
        cases hcompleted
      · refine lt_of_le_of_ne (hok'.activeLast _ hmem hactive other hother) fun hid => ?_
        rw [Table.eq_of_key_eq hother hmem hid,
          show NodeSetupRun.state _ = .configuring from hstate] at hcompleted
        cases hcompleted

end Restoring

/-! ### The reads -/

/-- **What the relay knows of the restored keys**, wherever the reads of the mode are. -/
structure RestoreOk (keys : List Text) (relay : SetupRelay) : Prop where
  ok : SetupRelayOk relay
  ids : RunIdsOk relay.db
  /-- The key a handler read is the configured one until its run is told. -/
  configured : ∀ execution, relay.execution = some execution → execution.outcomeRecorded = false →
    ∀ publicKey, execution.configuredPublicKey = some publicKey →
      readConfiguredPublicKey relay.db = publicKey
  restored : ∀ restoredKey ∈ keys, KeyRestored relay.db restoredKey
  /-- The completed run that was read is there. -/
  completed : ∀ publicKey latestId, relay.modeReads = .completedRead publicKey (some latestId) →
    ∃ run ∈ relay.db.runs, run.id = latestId ∧ run.state = .completed

/-- **What the last reads missed is an active run**: where they found the configured key and no
abandoned restore of it, a run that restores the key is active. -/
def ReadUndisturbed (keys : List Text) (relay : SetupRelay) : Prop :=
  ∀ configuredNode, relay.modeReads = .configuredNodeRead configuredNode →
    configuredNode.identityRestoredWithoutConfiguration = false →
      ∀ restoredKey ∈ keys, configuredNode.publicKey = restoredKey →
        ∃ run ∈ relay.db.runs, run.isActive = true ∧ run.restoredPublicKey = restoredKey

section Reads

variable {relay : SetupRelay} {event : SetupEvent} {keys : List Text}

/-- The reads of the mode stay where they are or end, and nothing is loaded. -/
structure ReadsKept (relay : SetupRelay) (result : SetupRelay × SetupOutcome) : Prop where
  reads : result.1.modeReads = relay.modeReads ∨ result.1.modeReads = .idle
  unloaded : ∀ relayModeInputs, result.2 ≠ .loaded relayModeInputs

theorem readsKept_commit {α : Type} (result : Except SetupError (SetupDb × α)) :
    ReadsKept relay (relay.commit result) := by
  cases result with
  | ok pair => exact ⟨Or.inl rfl, by simp [SetupRelay.commit]⟩
  | error error => exact ⟨Or.inl rfl, by simp [SetupRelay.commit]⟩

theorem readsKept_report (execution : CommandExecution) (setupRunId : ℕ)
    (result : Except SetupError SetupDb) {outcome : SetupOutcome}
    (hunloaded : ∀ relayModeInputs, outcome ≠ .loaded relayModeInputs) :
    ReadsKept relay (relay.report execution setupRunId result outcome) := by
  unfold SetupRelay.report
  split
  · exact ⟨Or.inl rfl, by simp⟩
  · cases result with
    | ok db => exact ⟨Or.inl rfl, hunloaded⟩
    | error error => exact ⟨Or.inl rfl, by simp⟩

theorem readsKept_executionStep (execution : CommandExecution) (event : SetupEvent) :
    ReadsKept relay (executionStep relay execution event) := by
  have hdone : ∀ relay' : SetupRelay, relay'.modeReads = relay.modeReads →
      ReadsKept relay (relay', .done) := fun relay' hreads => ⟨Or.inl hreads, by simp⟩
  unfold executionStep
  cases event with
  | recordNodeCommandProgress => exact hdone _ rfl
  | recordNodeInformationRead =>
      dsimp only
      split
      · exact hdone _ rfl
      · exact readsKept_report _ _ _ (by simp)
      · exact hdone _ rfl
  | sendResetFrame =>
      dsimp only
      split <;> exact hdone _ rfl
  | recordFactoryResetSucceeded =>
      dsimp only
      split
      · exact readsKept_report _ _ _ (by simp)
      · exact hdone _ rfl
  | readConfiguredPublicKey =>
      dsimp only
      split <;> exact hdone _ rfl
  | recordIdentityRestoreStarted =>
      dsimp only
      split
      · split
        · exact hdone _ rfl
        · exact readsKept_report _ _ _ (by simp)
      · exact hdone _ rfl
  | recordConfigurationCompleted =>
      dsimp only
      split
      · exact readsKept_report _ _ _ (by simp)
      · exact hdone _ rfl
  | finishNodeCommand =>
      dsimp only
      split
      · split <;> exact hdone _ rfl
      · split <;> exact hdone _ rfl
  | _ => exact hdone _ rfl

/-- **Only the reads of the mode move it**, and the end of the process. -/
theorem readsKept_setupStep (hevent : event ≠ .readModeInputs) :
    ReadsKept relay (setupStep relay event) := by
  have hdone : ∀ relay' : SetupRelay, relay'.modeReads = relay.modeReads →
      ReadsKept relay (relay', .done) := fun relay' hreads => ⟨Or.inl hreads, by simp⟩
  unfold setupStep
  split
  · exact hdone relay rfl
  · cases event with
    | startSetupRun => exact readsKept_commit _
    | retryReadingNode =>
        simp only [setupQueueStep]
        split
        · exact hdone _ rfl
        · split
          · exact hdone _ rfl
          · exact ⟨Or.inl rfl, by simp⟩
    | retryCommitted =>
        simp only [setupQueueStep]
        split <;> exact hdone _ rfl
    | confirmFactoryReset =>
        simp only [setupQueueStep]
        split
        · exact hdone _ rfl
        · exact readsKept_commit _
    | submitNodeConfiguration =>
        simp only [setupQueueStep]
        split
        · exact hdone _ rfl
        · exact readsKept_commit _
    | cancelSetupRun =>
        simp only [setupQueueStep]
        split
        · exact hdone _ rfl
        · exact readsKept_commit _
    | createNodeCommand => exact hdone _ rfl
    | expirePendingNodeCommands =>
        simp only [setupQueueStep]
        split <;> exact hdone _ rfl
    | deleteOldNodeCommands =>
        simp only [setupQueueStep]
        split <;> exact hdone _ rfl
    | claimNextNodeCommand =>
        simp only [setupQueueStep]
        split
        · exact hdone _ rfl
        · split
          · exact hdone _ rfl
          · exact ⟨Or.inl rfl, by simp⟩
    | executorStops => exact hdone _ rfl
    | processStops => exact ⟨Or.inr rfl, by simp [setupQueueStep]⟩
    | interruptRunningNodeCommands =>
        simp only [setupQueueStep]
        split <;> exact hdone _ rfl
    | interruptLeftNodeCommand =>
        simp only [setupQueueStep]
        split <;> exact hdone _ rfl
    | readModeInputs => exact absurd rfl hevent
    | _ =>
        simp only [setupQueueStep]
        split
        · exact readsKept_executionStep _ _
        · exact hdone _ rfl

/-- A read of the mode changes nothing else. -/
theorem setupStep_readModeInputs (relay : SetupRelay) :
    (setupStep relay .readModeInputs).1 =
      { relay with modeReads := (readModeInputs relay.db relay.modeReads).1 } := by
  rw [setupStep, if_neg (by simp [SetupEvent.isCall])]
  simp only [setupQueueStep]
  split <;> next hread => rw [hread]

/-- The inputs are loaded by the read of the active run. -/
theorem readModeInputs_loaded {db : SetupDb} {reads : ModeReads}
    {relayModeInputs : RelayModeInputs}
    (h : (readModeInputs db reads).2 = some relayModeInputs) :
    ∃ configuredNode, reads = .configuredNodeRead configuredNode ∧
      relayModeInputs = ⟨configuredNode, loadActiveSetupRunSummary db⟩ := by
  cases reads with
  | idle =>
      simp only [readModeInputs] at h
      split at h <;> cases h
  | configured =>
      simp only [readModeInputs] at h
      split at h
      · cases h
      · split at h <;> cases h
  | configurationRead publicKey => cases h
  | completedRead publicKey latestId => cases h
  | configuredNodeRead configuredNode => exact ⟨configuredNode, rfl, (Option.some.inj h).symm⟩

/-- A configured node with a key is read after the abandoned runs. -/
theorem readModeInputs_configuredNode {db : SetupDb} {reads : ModeReads}
    {configuredNode : ConfiguredNode}
    (h : (readModeInputs db reads).1 = .configuredNodeRead configuredNode)
    (hkey : configuredNode.publicKey ≠ []) :
    ∃ latestId, reads = .completedRead configuredNode.publicKey latestId ∧
      configuredNode.identityRestoredWithoutConfiguration =
        existsAbandonedRestore db configuredNode.publicKey latestId := by
  cases reads with
  | idle =>
      simp only [readModeInputs] at h
      split at h
      · cases h
      · obtain rfl := ModeReads.configuredNodeRead.inj h
        exact absurd rfl hkey
  | configured =>
      simp only [readModeInputs] at h
      split at h
      · obtain rfl := ModeReads.configuredNodeRead.inj h
        exact absurd rfl hkey
      · split at h
        · obtain rfl := ModeReads.configuredNodeRead.inj h
          exact absurd rfl hkey
        · cases h
  | configurationRead publicKey => cases h
  | completedRead publicKey latestId =>
      obtain rfl := ModeReads.configuredNodeRead.inj h
      exact ⟨latestId, rfl, rfl⟩
  | configuredNodeRead configuredNode => cases h

theorem readModeInputs_completed {db : SetupDb} {reads : ModeReads} {publicKey : Text}
    {latestId : Option ℕ} (h : (readModeInputs db reads).1 = .completedRead publicKey latestId) :
    latestId = latestCompletedRunId db := by
  cases reads with
  | idle =>
      simp only [readModeInputs] at h
      split at h <;> cases h
  | configured =>
      simp only [readModeInputs] at h
      split at h
      · cases h
      · split at h <;> cases h
  | configurationRead => exact (ModeReads.completedRead.inj h).2.symm
  | completedRead => cases h
  | configuredNodeRead => cases h

theorem mem_of_latestCompletedRunId {db : SetupDb} {latestId : ℕ}
    (h : latestCompletedRunId db = some latestId) :
    ∃ run ∈ db.runs, run.id = latestId ∧ run.state = .completed := by
  obtain ⟨run, hlast, rfl⟩ := Option.map_eq_some_iff.1 h
  obtain ⟨hrun, hstate⟩ := Table.mem_filter.1 (List.mem_of_getLast? hlast)
  exact ⟨run, hrun, rfl, of_decide_eq_true hstate⟩

theorem loaded_setupStep {relayModeInputs : RelayModeInputs}
    (h : (setupStep relay event).2 = .loaded relayModeInputs) :
    ∃ configuredNode, relay.modeReads = .configuredNodeRead configuredNode ∧
      relayModeInputs = ⟨configuredNode, loadActiveSetupRunSummary relay.db⟩ := by
  by_cases hevent : event = .readModeInputs
  · subst hevent
    refine readModeInputs_loaded ?_
    rw [setupStep, if_neg (by simp [SetupEvent.isCall])] at h
    simp only [setupQueueStep] at h
    split at h
    · cases h
    · next hread =>
        rw [hread]
        exact congrArg some (SetupOutcome.loaded.inj h)
  · exact absurd h ((readsKept_setupStep hevent).unloaded _)

end Reads

/-! ### The steps -/

section Steps

variable {relay relay' : SetupRelay} {event : SetupEvent} {keys : List Text}
  {outcome : SetupOutcome}

/-- What a handler read is the configured key. -/
theorem configured_step (h : RestoreOk keys relay)
    (hmove : SetupRelayMove relay event relay' outcome) (execution : CommandExecution)
    (hexecution : relay'.execution = some execution) (htold : execution.outcomeRecorded = false)
    (publicKey : Text) (hkey : execution.configuredPublicKey = some publicKey) :
    readConfiguredPublicKey relay'.db = publicKey := by
  cases hmove.executing execution hexecution with
  | kept hbefore hincomplete =>
      rw [readConfiguredPublicKey_step hmove.db hincomplete]
      exact h.configured execution hbefore htold publicKey hkey
  | told => cases htold
  | keyRead hbefore hdb =>
      rw [hdb]
      exact Option.some.inj hkey
  | claimed => cases hkey

/-- The key of a restore that begins is the configured one. -/
theorem restoredKey_eq (h : RestoreOk keys relay)
    (hmove : SetupRelayMove relay event relay' outcome) {setupRunId : ℕ} {restoredKey : Text}
    (houtcome : outcome = .restoreStarted setupRunId restoredKey) :
    restoredKey ≠ [] ∧ readConfiguredPublicKey relay.db = restoredKey := by
  obtain ⟨hnonempty, execution, hexecution, hkey, htold⟩ := hmove.restores _ _ houtcome
  exact ⟨hnonempty, h.configured execution hexecution htold restoredKey hkey⟩

/-- **The restored keys and one step.** -/
theorem keyRestored_step (h : RestoreOk keys relay)
    (hmove : SetupRelayMove relay event relay' outcome) {restoredKey : Text}
    (hmem : restoredKey ∈ restoredKeysAfter keys outcome) : KeyRestored relay'.db restoredKey := by
  obtain ⟨hincomplete, hkeys | ⟨setupRunId, rfl⟩⟩ := mem_restoredKeysAfter hmem
  · refine (h.restored restoredKey hkeys).step hmove.db hincomplete fun r key houtcome => ?_
    exact (restoredKey_eq h hmove houtcome).2.symm.trans (h.restored restoredKey hkeys).configured
  · obtain ⟨hnonempty, hconfigured⟩ := restoredKey_eq h hmove rfl
    exact (keyRestored_of_restoreStarted h.ok.db hmove.db hnonempty hconfigured).1

/-- A completed run stays. -/
theorem completed_step {run : NodeSetupRun} (hmove : SetupRelayMove relay event relay' outcome)
    (hrun : run ∈ relay.db.runs) (hstate : run.state = .completed) :
    ∃ run' ∈ relay'.db.runs, run'.id = run.id ∧ run'.state = .completed := by
  obtain ⟨run', hrow', hstep⟩ := hmove.db.runStep (Table.get?_key hrun)
  refine ⟨run', Table.mem_of_get? hrow', Table.key_of_get? hrow', ?_⟩
  cases hstep with
  | follows hfollows =>
      rw [hfollows.ended (by rw [hstate]; simp [setupRunFinalStates]), hstate]
  | cancelled hevent houtcome hcancellable => simp [hstate, cancellableStates] at hcancellable
  | restored houtcome hconfiguring => exact hstate
  | completed => rfl

/-- **A step keeps what the relay knows of the restored keys.** -/
theorem RestoreOk.step (h : RestoreOk keys relay) (event : SetupEvent) :
    RestoreOk (restoredKeysAfter keys (setupStep relay event).2) (setupStep relay event).1 := by
  have hmove := h.ok.setupStep event
  refine ⟨h.ok.step hmove, h.ids.step hmove.db, configured_step h hmove,
    fun restoredKey hmem => keyRestored_step h hmove hmem, fun publicKey latestId hreads => ?_⟩
  by_cases hevent : event = .readModeInputs
  · subst hevent
    rw [setupStep_readModeInputs] at hreads ⊢
    exact mem_of_latestCompletedRunId (readModeInputs_completed hreads).symm
  · rcases (readsKept_setupStep hevent).reads with hsame | hidle
    · rw [hsame] at hreads
      obtain ⟨run, hrun, hid, hstate⟩ := h.completed publicKey latestId hreads
      obtain ⟨run', hrun', hid', hstate'⟩ := completed_step hmove hrun hstate
      exact ⟨run', hrun', hid'.trans hid, hstate'⟩
    · rw [hidle] at hreads
      cases hreads

/-- An abandoned restore that the reads missed is none: the run is active. -/
theorem RestoringRun.active_of_missed {db : SetupDb} {restoredKey : Text} {run : NodeSetupRun}
    {latestId : Option ℕ} (hok : SetupOk db) (h : RestoringRun db restoredKey run)
    (hlatest : latestId.getD 0 < run.id)
    (hmissed : existsAbandonedRestore db restoredKey latestId = false) : run.isActive = true := by
  have hrow : db.runs.get? run.id = some run := Table.get?_key h.mem
  refine (hok.isActive_iff hrow).2 fun hended => ?_
  rcases List.mem_cons.1 hended with hcompleted | hlast
  · exact h.incomplete hcompleted
  · have habandoned : run.state = .abandoned := List.mem_singleton.1 hlast
    have hnone := Table.any_eq_false.1 hmissed run h.mem
    simp [habandoned, h.restored, hlatest] at hnone

/-- The read of the abandoned runs. -/
theorem RestoreOk.read (h : RestoreOk keys relay) {restoredKey : Text}
    (hrestored : KeyRestored relay.db restoredKey) {latestId : Option ℕ}
    (hreads : relay.modeReads = .completedRead restoredKey latestId)
    (hmissed : existsAbandonedRestore relay.db restoredKey latestId = false) :
    ∃ run ∈ relay.db.runs, run.isActive = true ∧ run.restoredPublicKey = restoredKey := by
  obtain ⟨run, hrun⟩ := hrestored.run
  have hlatest : latestId.getD 0 < run.id := by
    cases latestId with
    | none => exact h.ids.ids run hrun.mem
    | some latestId =>
        obtain ⟨other, hother, rfl, hstate⟩ := h.completed _ _ hreads
        exact hrun.latest other hother hstate
  exact ⟨run, hrun.mem, hrun.active_of_missed h.ok.db hlatest hmissed, hrun.restored⟩

/-- An active run that restores the key stays active, unless it is cancelled or completes. -/
theorem RestoreOk.activeRun (h : RestoreOk keys relay)
    (hmove : SetupRelayMove relay event relay' outcome)
    (hcancel : ∀ setupRunId now, event = .cancelSetupRun setupRunId now → outcome ≠ .done)
    (hincomplete : ∀ setupRunId, outcome ≠ .completed setupRunId) {restoredKey : Text}
    (hkey : restoredKey ∈ keys)
    (hactive : ∃ run ∈ relay.db.runs, run.isActive = true ∧ run.restoredPublicKey = restoredKey) :
    ∃ run ∈ relay'.db.runs, run.isActive = true ∧ run.restoredPublicKey = restoredKey := by
  obtain ⟨run, hrun, hactive, hrunKey⟩ := hactive
  obtain ⟨run', hrow', hstep⟩ := hmove.db.runStep (Table.get?_key hrun)
  have hopen := (h.ok.db.isActive_iff (Table.get?_key hrun)).1 hactive
  have hok' := (h.ok.step hmove).db
  refine ⟨run', Table.mem_of_get? hrow', ?_⟩
  cases hstep with
  | follows hfollows =>
      exact ⟨(hok'.isActive_iff hrow').2 (hfollows.open_ hopen), hfollows.restored.trans hrunKey⟩
  | cancelled hevent houtcome => exact absurd houtcome (hcancel _ _ hevent)
  | restored houtcome =>
      refine ⟨(hok'.isActive_iff hrow').2 hopen, ?_⟩
      exact (restoredKey_eq h hmove houtcome).2.symm.trans (h.restored restoredKey hkey).configured
  | completed houtcome => exact absurd houtcome (hincomplete _)

/-- **What the last reads missed**, where no run is cancelled. -/
theorem ReadUndisturbed.step (h : RestoreOk keys relay) (hreads : ReadUndisturbed keys relay)
    (event : SetupEvent)
    (hcancel : ∀ setupRunId now, event = .cancelSetupRun setupRunId now →
      (setupStep relay event).2 ≠ .done) :
    ReadUndisturbed (restoredKeysAfter keys (setupStep relay event).2)
      (setupStep relay event).1 := by
  have hmove := h.ok.setupStep event
  intro configuredNode hread hflag restoredKey hmem hkey
  have hrestored := keyRestored_step h hmove hmem
  by_cases hevent : event = .readModeInputs
  · subst hevent
    rw [setupStep_readModeInputs] at hread hrestored ⊢
    have hnonempty : configuredNode.publicKey ≠ [] := hkey ▸ hrestored.nonempty
    obtain ⟨latestId, hcompleted, hexists⟩ := readModeInputs_configuredNode hread hnonempty
    rw [hkey] at hcompleted hexists
    exact h.read hrestored hcompleted (hexists.symm.trans hflag)
  · rcases (readsKept_setupStep hevent).reads with hsame | hidle
    · rw [hsame] at hread
      obtain ⟨hincomplete, hkeys | ⟨setupRunId, houtcome⟩⟩ := mem_restoredKeysAfter hmem
      · exact h.activeRun hmove hcancel hincomplete hkeys
          (hreads configuredNode hread hflag restoredKey hkeys hkey)
      · obtain ⟨hnonempty, hconfigured⟩ := restoredKey_eq h hmove houtcome
        exact (keyRestored_of_restoreStarted h.ok.db (houtcome ▸ hmove.db) hnonempty
          hconfigured).2
    · rw [hidle] at hread
      cases hread

end Steps

/-! ### The mode of a restored node -/

theorem restoreOk_start (contacts : Table Contact) : RestoreOk [] (.start contacts) := by
  refine ⟨setupRelayOk_start contacts, ⟨Nat.one_pos, fun run hrun => ?_⟩, fun _ hexecution => ?_,
    fun _ hkey => ?_, fun _ _ hreads => ?_⟩
  · cases Table.not_mem_empty run hrun
  · cases hexecution
  · cases hkey
  · cases hreads

/-- **The runs of the restored keys are there**, along every run. -/
theorem restoreOk_of_run {contacts : Table Contact} {relay : SetupRelay}
    {history : List (SetupEvent × SetupOutcome)}
    (run : (setupRelay contacts).Run (.start contacts) history relay) :
    RestoreOk (restoredKeys history) relay :=
  run.invariant (P := fun history relay => RestoreOk (restoredKeys history) relay)
    (restoreOk_start contacts) fun _ relay event _ _ hok => by
      rw [restoredKeys_snoc]
      exact hok.step event

/-- Reads that no cancellation interrupts. -/
theorem readUndisturbed_of_run {contacts : Table Contact} {relay relay' : SetupRelay}
    {earlier later : List (SetupEvent × SetupOutcome)}
    (run : (setupRelay contacts).Run (.start contacts) earlier relay)
    (run' : (setupRelay contacts).Run relay later relay')
    (hreads : ∀ configuredNode, relay.modeReads ≠ .configuredNodeRead configuredNode)
    (hcancels : ∀ setupRunId now, (.cancelSetupRun setupRunId now, .done) ∉ later) :
    ReadUndisturbed (restoredKeys (earlier ++ later)) relay' := by
  refine run'.invariant
    (P := fun history relay => ReadUndisturbed (restoredKeys (earlier ++ history)) relay)
    (fun configuredNode hread => absurd hread (hreads configuredNode))
    fun history relay event hrun hpre hundisturbed => ?_
  rw [← List.append_assoc, restoredKeys_snoc]
  refine hundisturbed.step (restoreOk_of_run (run.append hrun)) event fun r now hevent hdone => ?_
  have hentry := hpre.subset (List.mem_append_right _ List.mem_cons_self)
  refine hcancels r now ?_
  rw [← hevent, ← hdone]
  exact hentry

/-- A node with the key of an active run's restore is being set up. -/
theorem decideRelayMode_of_active {db : SetupDb} {run : NodeSetupRun} (hok : SetupOk db)
    (hrun : run ∈ db.runs) (hactive : run.isActive = true) (hkey : run.restoredPublicKey ≠ [])
    (configuredNode : ConfiguredNode) :
    decideRelayMode (some run.restoredPublicKey) configuredNode (loadActiveSetupRunSummary db) =
      .setupInProgress := by
  have hfound : getActiveSetupRun db = some run :=
    Table.first?_eq_of_unique hrun hactive fun other hother hotherActive =>
      hok.agreement.oneActive other hother run hrun hotherActive hactive
  simp [decideRelayMode, loadActiveSetupRunSummary, hfound, isSetupInProgress, hkey]

/-- **A restored identity never relays.**  Where no cancellation commits between the read of the
abandoned runs and that of the active run, a node with a key that began to be imported since a run
completed is not found to be running. -/
theorem restored_identity_never_relays {contacts : Table Contact} {relay relay' : SetupRelay}
    {earlier later : List (SetupEvent × SetupOutcome)}
    (run : (setupRelay contacts).Run (.start contacts) earlier relay)
    (run' : (setupRelay contacts).Run relay later relay')
    (hreads : ∀ configuredNode, relay.modeReads ≠ .configuredNodeRead configuredNode)
    (hcancels : ∀ setupRunId now, (.cancelSetupRun setupRunId now, .done) ∉ later)
    {event : SetupEvent} {relayModeInputs : RelayModeInputs}
    (hloaded : (setupStep relay' event).2 = .loaded relayModeInputs) :
    ∀ restoredKey ∈ restoredKeys (earlier ++ later),
      decideRelayMode (some restoredKey) relayModeInputs.configuredNode
        relayModeInputs.activeSetupRun ≠ .running := by
  intro restoredKey hmem hrunning
  have hok := restoreOk_of_run (run.append run')
  obtain ⟨configuredNode, hread, rfl⟩ := loaded_setupStep hloaded
  have hfound : configuredNode.identityRestoredWithoutConfiguration = false ∧
      configuredNode.publicKey = restoredKey := by
    simp only [decideRelayMode] at hrunning
    repeat' split at hrunning
    all_goals simp_all
  obtain ⟨restoring, hrestoring, hactive, rfl⟩ := readUndisturbed_of_run run run' hreads hcancels
    configuredNode hread hfound.1 restoredKey hmem hfound.2
  rw [decideRelayMode_of_active hok.ok.db hrestoring hactive
    (hok.restored _ hmem).nonempty] at hrunning
  cases hrunning

/-! A restore of the configured identity that fails. -/

def sampleRequested : RequestedNodeConfiguration where
  nodeName := "Relay".toList
  radioPresetTitle := "EU".toList
  radioFrequencyKilohertz := 869525
  radioBandwidthHertz := 250000
  radioSpreadingFactor := 11
  radioCodingRate := 5
  pathHashSize := 1
  transmitPowerDbm := 22
  replacePublicChannel := false
  restoreIdentity := true

/-- The node is set up with its new key. -/
def sampleSetup : List SetupEvent :=
  sampleSetupStart ++
    [.claimNextNodeCommand [] 1 3, .recordFactoryResetSucceeded "cd34".toList 3,
      .finishNodeCommand .succeeded 3 [], .submitNodeConfiguration 1 sampleRequested 4,
      .claimNextNodeCommand [] 1 4, .readConfiguredPublicKey,
      .recordConfigurationCompleted { nodePublicKey := "cd34".toList, setupRunId := 1 } 5 none,
      .finishNodeCommand .succeeded 5 []]

/-- It is reset again, and the import of that key fails. -/
def sampleRestoreFails : List SetupEvent :=
  [.startSetupRun 6, .claimNextNodeCommand [] 1 6,
    .recordNodeInformationRead { publicKey := "cd34".toList, name := "Relay".toList } 6,
    .finishNodeCommand .succeeded 6 [], .confirmFactoryReset 2 "Relay".toList 7,
    .claimNextNodeCommand [] 1 7, .recordFactoryResetSucceeded "ef56".toList 7,
    .finishNodeCommand .succeeded 7 [], .submitNodeConfiguration 2 sampleRequested 8,
    .claimNextNodeCommand [] 1 8, .readConfiguredPublicKey, .recordIdentityRestoreStarted,
    .finishNodeCommand .failed 9 "The node did not answer.".toList]

def sampleModeReads : List SetupEvent :=
  [.readModeInputs, .readModeInputs, .readModeInputs, .readModeInputs]

theorem restored_identity_never_relays_sampleRestoreFails :
    let failed := (setupRelay .empty).exec (.start .empty) (sampleSetup ++ sampleRestoreFails)
    let read := (setupRelay .empty).exec failed.2 sampleModeReads
    restoredKeys (failed.1 ++ read.1) = ["cd34".toList] ∧
      ∀ relayModeInputs, (setupStep read.2 .readModeInputs).2 = .loaded relayModeInputs →
        ∀ restoredKey ∈ restoredKeys (failed.1 ++ read.1),
          decideRelayMode (some restoredKey) relayModeInputs.configuredNode
            relayModeInputs.activeSetupRun ≠ .running := by
  refine ⟨by decide +kernel, fun relayModeInputs hloaded => ?_⟩
  have hidle : ((setupRelay .empty).exec (.start .empty)
      (sampleSetup ++ sampleRestoreFails)).2.modeReads = .idle := by decide +kernel
  refine restored_identity_never_relays
    ((setupRelay .empty).run_exec (.start .empty) (sampleSetup ++ sampleRestoreFails))
    ((setupRelay .empty).run_exec _ sampleModeReads) (fun configuredNode hread => ?_)
    (fun setupRunId now hmem => ?_) hloaded
  · rw [hidle] at hread
    cases hread
  · have hevent := List.mem_map_of_mem (f := Prod.fst) hmem
    rw [Machine.map_fst_exec] at hevent
    simp [sampleModeReads] at hevent

-- a cancellation between the last two reads is seen by neither of them
example :
    let read := (setupRelay .empty).exec (.start .empty)
      (sampleSetup ++ sampleRestoreFails ++ sampleModeReads ++ [.cancelSetupRun 2 10])
    (setupStep read.2 .readModeInputs).2 =
        .loaded ⟨{ isConfigured := true, publicKey := "cd34".toList }, none⟩ ∧
      decideRelayMode (some "cd34".toList) { isConfigured := true, publicKey := "cd34".toList }
        none = .running := by
  decide +kernel

end HoptalkRelay
