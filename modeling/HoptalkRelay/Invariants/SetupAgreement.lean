/-
**The setup wizard and the command queue never disagree.**

Along every run of the relay at most one run of the wizard is active and at most one command is
running, a run that waits has its command, no command is claimed twice or after its time, and a run
whose reset failed is read again unless the reset frame was certainly not sent.

Main definitions:

* `HoptalkRelay.FallenBack` — the run of a command that ended has moved;
* `HoptalkRelay.ResetStep` — where a run that resets the node can be after a step;
* `HoptalkRelay.SetupAgreement` — **the agreement**.

Main results:

* `HoptalkRelay.fallBack_fallBack` — falling back twice is falling back once;
* `HoptalkRelay.resetStep_setupMove` — a run that resets the node, and one step;
* `HoptalkRelay.setup_runs_and_commands_agree` — **the agreement holds along every run**;
* `HoptalkRelay.no_command_claimed_twice` — **no command is claimed twice**, or too late;
* `HoptalkRelay.reset_node_read_again` — **a node that may have been reset is read again**.
-/

import HoptalkRelay.Invariants.SetupRelays
import HoptalkRelay.Transition.Stages

set_option relaxedAutoImplicit false
set_option autoImplicit false

namespace HoptalkRelay

open Relational Transition

/-! ### A command that ended has moved its run -/

/-- The run of the command has fallen back, or never waited for it. -/
def FallenBack (db : SetupDb) (command : NodeCommand) : Prop :=
  ∀ setupRunId run, findLatestSetupRunCommand db setupRunId = some command →
    db.runs.get? setupRunId = some run →
      run.state.awaitedKind ≠ some command.kind ∨
        run.state = .readingNode ∧ command.kind = .readNodeInformation ∧
          run.lastError = describeUnsuccessfulSetupCommand command

section FallenBack

variable {db : SetupDb} {setupRunId : ℕ} {run : NodeSetupRun} {command : NodeCommand}
  {now : Time}

/-- Where a run has fallen back, it does not fall back again. -/
theorem FallBack.eq_self {db' : SetupDb} (hrow : db.runs.get? setupRunId = some run)
    (hfallen : run.state.awaitedKind ≠ some command.kind ∨
      run.state = .readingNode ∧ command.kind = .readNodeInformation ∧
        run.lastError = describeUnsuccessfulSetupCommand command)
    (h : FallBack db run command now db') : db' = db := by
  cases h with
  | beside => rfl
  | fellBack hid hchange =>
      cases hchange with
      | readFailed hkind hstate =>
          rcases hfallen with hnot | ⟨-, -, herror⟩
          · rw [hstate, hkind] at hnot
            exact absurd rfl hnot
          · rw [← herror]
            show { db with runs := db.runs.put run } = db
            rw [Table.put_self (Table.mem_of_get? hrow)]
      | resetFailed hkind hstate =>
          rw [hstate, hkind] at hfallen
          simp [SetupRunState.awaitedKind] at hfallen
      | configurationFailed hkind hstate =>
          rw [hstate, hkind] at hfallen
          simp [SetupRunState.awaitedKind] at hfallen
  | readAgain hkind hstate =>
      rw [hstate, hkind] at hfallen
      simp [SetupRunState.awaitedKind] at hfallen

/-- **A command whose run has fallen back changes nothing.** -/
theorem FallenBack.fallBack_eq_self (h : FallenBack db command) (hcommand : command ∈ db.commands)
    (now : Time) : fallBackAfterUnsuccessfulCommand db command now = db := by
  by_cases hlatest : ∃ x, findLatestSetupRunCommand db x = some command
  · obtain ⟨x, hx⟩ := hlatest
    rcases @fallBack_of_latest _ _ _ now hx with ⟨-, hsame⟩ | ⟨run, hrow, hfell⟩
    · exact hsame
    · exact hfell.eq_self hrow (h x run hx hrow)
  · exact fallBack_of_not_latest hcommand fun x _ hx => hlatest ⟨x, hx⟩

/-- **Ended commands have moved their runs.** -/
theorem SetupOk.fallenBack (h : SetupOk db) (hended : command.state ∈ unsuccessfulStates) :
    FallenBack db command := by
  intro setupRunId run hlatest hrow
  by_cases hawaited : run.state.awaitedKind = some command.kind
  · obtain ⟨latest, hfound, hkind, hlive | ⟨hread, -, herror⟩⟩ :=
      (h.views setupRunId).waits run command.kind hrow hawaited
    · obtain rfl := Option.some.inj (hlatest.symm.trans hfound)
      cases hstate : command.state <;> rw [hstate] at hlive hended <;>
        simp [liveStates, unsuccessfulStates] at hlive hended
    · obtain rfl := Option.some.inj (hlatest.symm.trans hfound)
      refine Or.inr ⟨?_, hread, herror⟩
      cases hstate : run.state <;> rw [hstate, hread] at hawaited <;> first | rfl | cases hawaited
  · exact Or.inl hawaited

/-- **After a fall back** the run has fallen back. -/
theorem fallenBack_fallBack (hcommand : command ∈ db.commands) (now : Time) :
    FallenBack (fallBackAfterUnsuccessfulCommand db command now) command := by
  by_cases hlatest : ∃ x, findLatestSetupRunCommand db x = some command
  · obtain ⟨x, hx⟩ := hlatest
    have hrunOnly : ∀ r, findLatestSetupRunCommand db r = some command → r = x := fun r hr =>
      Option.some.inj ((mem_of_latest hr).2.symm.trans (mem_of_latest hx).2)
    rcases @fallBack_of_latest _ _ _ now hx with ⟨hnone, hsame⟩ | ⟨run, hrow, hfell⟩
    · rw [hsame]
      intro r run hr hrow
      rw [hrunOnly r hr, hnone] at hrow
      cases hrow
    · have hrunId : run.id = x := Table.key_of_get? hrow
      generalize fallBackAfterUnsuccessfulCommand db command now = db' at hfell
      cases hfell with
      | beside hnot =>
          intro r other hr hother
          rw [hrunOnly r hr, hrow] at hother
          obtain rfl := Option.some.inj hother
          exact Or.inl hnot
      | @fellBack run' hid hchange =>
          intro r other hr hother
          have hx' : r = run'.id := (hrunOnly r hr).trans (hrunId.symm.trans hid.symm)
          have hput : (db.putRun run').runs.get? run'.id = some run' := by
            rw [SetupDb.putRun, Table.get?_put, key_setupRun, if_pos rfl, hid, hrunId, hrow]
            rfl
          rw [hx', hput] at hother
          obtain rfl := Option.some.inj hother
          cases hchange with
          | readFailed hkind hstate => exact Or.inr ⟨hstate, hkind, rfl⟩
          | resetFailed => exact Or.inl fun h => by cases h
          | configurationFailed => exact Or.inl fun h => by cases h
      | readAgain hkind hstate hsent lastError =>
          intro r other hr hother
          have hnew := hr
          rw [latest_createNodeCommand] at hnew
          split at hnew
          · have hbelow := db.commands.below command hcommand
            rw [← Option.some.inj hnew] at hbelow
            exact absurd hbelow (lt_irrefl _)
          · next hne =>
              exact absurd (congrArg some (hrunId.trans (hrunOnly r hnew).symm)) hne
  · rw [fallBack_of_not_latest hcommand fun x _ hx => hlatest ⟨x, hx⟩]
    exact fun r run hr => absurd ⟨r, hr⟩ hlatest

/-- **Falling back twice is falling back once.** -/
theorem fallBack_fallBack (hcommand : command ∈ db.commands) (now later : Time) :
    fallBackAfterUnsuccessfulCommand (fallBackAfterUnsuccessfulCommand db command now) command
      later = fallBackAfterUnsuccessfulCommand db command now :=
  (fallenBack_fallBack hcommand now).fallBack_eq_self
    ((fallBack_commands hcommand now).2 _ hcommand) later

end FallenBack

/-! ### A run that resets the node -/

theorem sent_congr {c d : NodeCommand} (h : c.progress = d.progress) :
    factoryResetFrameMayHaveBeenSent c = factoryResetFrameMayHaveBeenSent d := by
  unfold factoryResetFrameMayHaveBeenSent
  rw [h]

/-- Where a run that resets the node can be after a step. -/
inductive ResetStep (command : NodeCommand) : RunView → Prop
  | resetting {run : NodeSetupRun} {latest : Option NodeCommand}
      (hstate : run.state = .resetting) : ResetStep command (some run, latest)
  | configuration {run : NodeSetupRun} {latest : Option NodeCommand}
      (hstate : run.state = .awaitingConfiguration) : ResetStep command (some run, latest)
  | confirmation {run : NodeSetupRun} {latest : Option NodeCommand}
      (hstate : run.state = .awaitingResetConfirmation)
      (hsent : factoryResetFrameMayHaveBeenSent command = false) :
      ResetStep command (some run, latest)
  | readAgain {run : NodeSetupRun} {latest : NodeCommand} (hstate : run.state = .readingNode)
      (hsent : factoryResetFrameMayHaveBeenSent command = true)
      (hkind : latest.kind = .readNodeInformation) (hlive : latest.state ∈ liveStates) :
      ResetStep command (some run, some latest)

/-- What the queue makes of a run that resets the node. -/
inductive ResetMoved (nextKey : ℕ) (command : NodeCommand) : RunView → Prop
  | resetting {run : NodeSetupRun} {latest : NodeCommand} (hstate : run.state = .resetting)
      (hkind : latest.kind = .factoryReset) (hprogress : latest.progress = command.progress) :
      ResetMoved nextKey command (some run, some latest)
  | confirmation {run : NodeSetupRun} {latest : Option NodeCommand}
      (hstate : run.state = .awaitingResetConfirmation)
      (hsent : factoryResetFrameMayHaveBeenSent command = false) :
      ResetMoved nextKey command (some run, latest)
  | readAgain {run : NodeSetupRun} {latest : NodeCommand} (hstate : run.state = .readingNode)
      (hsent : factoryResetFrameMayHaveBeenSent command = true)
      (hkind : latest.kind = .readNodeInformation) (hlive : latest.state ∈ liveStates)
      (hnew : nextKey ≤ latest.id) : ResetMoved nextKey command (some run, some latest)

section Resetting

variable {v w : RunView} {nextKey : ℕ} {command : NodeCommand} {run : NodeSetupRun}

theorem ResetMoved.queueMove (h : ResetMoved nextKey command v) (hmove : QueueMove nextKey v w) :
    ResetMoved nextKey command w := by
  cases h with
  | resetting hstate hkind hprogress =>
      cases hmove with
      | claimed hid hkind' hprogress' =>
          exact .resetting hstate (hkind'.trans hkind) (hprogress'.trans hprogress)
      | endedBeside hid hold hprogress' hnot =>
          have hawaits := hnot _ rfl
          rw [hstate, hkind] at hawaits
          exact absurd rfl hawaits
      | fellBack hid hold hkind' hprogress' hended hchange =>
          cases hchange with
          | readFailed _ hstate' =>
              rw [hstate] at hstate'
              cases hstate'
          | resetFailed _ _ hsent =>
              exact .confirmation rfl ((sent_congr (hprogress'.trans hprogress)).symm.trans hsent)
          | configurationFailed _ hstate' =>
              rw [hstate] at hstate'
              cases hstate'
      | readAgain hold _ hsent lastError now id hnew =>
          exact .readAgain rfl ((sent_congr hprogress).symm.trans hsent) rfl
            (by simp [buildNodeCommand, liveStates]) hnew
  | confirmation hstate hsent =>
      cases hmove with
      | claimed => exact .confirmation hstate hsent
      | endedBeside => exact .confirmation hstate hsent
      | fellBack hid hold hkind' hprogress' hended hchange =>
          cases hchange with
          | readFailed _ hstate' =>
              rw [hstate] at hstate'
              cases hstate'
          | resetFailed _ hstate' =>
              rw [hstate] at hstate'
              cases hstate'
          | configurationFailed _ hstate' =>
              rw [hstate] at hstate'
              cases hstate'
      | readAgain hold hstate' =>
          rw [hstate] at hstate'
          cases hstate'
  | readAgain hstate hsent hkind hlive hnew =>
      cases hmove with
      | claimed hid hkind' hprogress' hpending hrunning =>
          exact .readAgain hstate hsent (hkind'.trans hkind) (by simp [hrunning, liveStates])
            (hid ▸ hnew)
      | endedBeside hid hold => exact absurd hnew (not_le.2 hold)
      | fellBack hid hold => exact absurd hnew (not_le.2 hold)
      | readAgain hold => exact absurd hnew (not_le.2 hold)

theorem ResetMoved.step (h : ResetMoved nextKey command v) : ResetStep command v := by
  cases h with
  | resetting hstate => exact .resetting hstate
  | confirmation hstate hsent => exact .confirmation hstate hsent
  | readAgain hstate hsent hkind hlive => exact .readAgain hstate hsent hkind hlive

/-- **A run that resets the node** and one transaction of moves. -/
theorem resetStep_viewMove (hstate : run.state = .resetting) (hkind : command.kind = .factoryReset)
    (hmove : ViewMove nextKey (some run, some command) w) : ResetStep command w := by
  have hstart : ResetMoved nextKey command (some run, some command) :=
    .resetting hstate hkind rfl
  cases hmove with
  | queue moves =>
      have hmoved : ResetMoved nextKey command w := by
        induction moves with
        | refl => exact hstart
        | tail _ hmove ih => exact ih.queueMove hmove
      exact hmoved.step
  | asked hchange =>
      cases hchange with
      | retried hstate' =>
          rw [hstate] at hstate'
          cases hstate'
      | confirmed hstate' =>
          rw [hstate] at hstate'
          cases hstate'
      | submitted hstate' =>
          rw [hstate] at hstate'
          cases hstate'
  | reported hchange =>
      cases hchange with
      | informationRead hstate' =>
          rw [hstate] at hstate'
          cases hstate'
      | resetDone => exact .configuration rfl
  | progressed => exact .resetting hstate
  | pruned => exact .resetting hstate

/-- A command that is claimed in the same step. -/
theorem ResetStep.claimed {db : SetupDb} {setupRunId : ℕ} {c : NodeCommand}
    (h : ResetStep command (db.view setupRunId)) (hc : c ∈ db.commands) (workerInstanceId : ℕ)
    (now : Time) :
    ResetStep command ((db.putCommand (c.claimed workerInstanceId now)).view setupRunId) := by
  rw [@view_putCommand db setupRunId (c.claimed workerInstanceId now) c hc rfl rfl]
  split
  · next hlatest =>
      rw [show db.view setupRunId = (db.runs.get? setupRunId, some c) from
        Prod.ext rfl hlatest] at h ⊢
      generalize db.runs.get? setupRunId = row at h
      cases h with
      | resetting hstate => exact .resetting hstate
      | configuration hstate => exact .configuration hstate
      | confirmation hstate hsent => exact .confirmation hstate hsent
      | readAgain hstate hsent hkind hlive =>
          exact .readAgain hstate hsent hkind (by simp [NodeCommand.claimed, liveStates])
  · exact h

/-- **A run that resets the node** and one step. -/
theorem resetStep_setupMove {db db' : SetupDb} {event : SetupEvent} {outcome : SetupOutcome}
    {setupRunId : ℕ} (hrow : db.runs.get? setupRunId = some run) (hstate : run.state = .resetting)
    (hlatest : findLatestSetupRunCommand db setupRunId = some command)
    (hkind : command.kind = .factoryReset) (hmove : SetupMove event db db' outcome) :
    ResetStep command (db'.view setupRunId) := by
  have hview : db.view setupRunId = (some run, some command) := Prod.ext hrow hlatest
  have hother : ∀ {r : ℕ} {before after : NodeSetupRun}, RowReplaced db db' r before after →
      before.state ≠ .resetting → ResetStep command (db'.view setupRunId) := by
    intro r before after hreplaced hne
    rw [hreplaced.others setupRunId, hview]
    · exact .resetting hstate
    · rintro rfl
      exact hne (Option.some.inj (hrow.symm.trans hreplaced.row) ▸ hstate)
  cases hmove with
  | moved hmoved => exact resetStep_viewMove hstate hkind (hview ▸ hmoved.views setupRunId)
  | claimed hevent hmoved hc =>
      exact (resetStep_viewMove hstate hkind (hview ▸ hmoved.views setupRunId)).claimed hc _ _
  | cancelled hevent hreplaced hcancellable =>
      exact hother hreplaced fun h => by simp [h, cancellableStates] at hcancellable
  | restored hreported hconfiguring =>
      exact hother hreported.toRowReplaced (by rw [hconfiguring]; simp)
  | completed hreplaced hconfiguring => exact hother hreplaced (by rw [hconfiguring]; simp)

end Resetting

/-! ### Claims -/

/-- The command that was claimed. -/
def SetupOutcome.claimedCommand : SetupOutcome → Option ℕ
  | .claimed commandId => some commandId
  | _ => none

/-- The commands the worker claimed, in order. -/
def claimedCommands (history : List (SetupEvent × SetupOutcome)) : List ℕ :=
  history.filterMap fun p => p.2.claimedCommand

/-- The command was there and is not pending any more. -/
structure Spent (db : SetupDb) (commandId : ℕ) : Prop where
  old : commandId < db.commands.nextKey
  notPending : ∀ c ∈ db.commands, c.id = commandId → c.state ≠ .pending

section Claims

variable {db db' : SetupDb} {event : SetupEvent} {outcome : SetupOutcome} {commandId : ℕ}

theorem Spent.grow (h : Spent db commandId) (hgrow : CommandsGrow db db') :
    Spent db' commandId := by
  refine ⟨h.old.trans_le hgrow.nextKey, fun c' hc' hid hpending => ?_⟩
  rcases hgrow.later c' hc' with ⟨c, hc, hgrows⟩ | hnew
  · exact h.notPending c hc (hgrows.id.symm.trans hid) (hgrows.pending hpending)
  · exact absurd (hid ▸ hnew) (not_le.2 h.old)

/-- **A claim spends a command that was not spent.** -/
theorem SetupMove.claim (h : SetupMove event db db' (.claimed commandId)) :
    ¬ Spent db commandId ∧ Spent db' commandId := by
  cases h with
  | moved hmoved hplain => cases hplain
  | @claimed _ db₁ c lockedElsewhere workerInstanceId now hevent hmoved hc hpending =>
      have hkey : key (c.claimed workerInstanceId now) = key c := rfl
      refine ⟨fun hspent => ?_, db₁.commands.below c hc, fun d hd hid => ?_⟩
      · exact (hspent.grow hmoved.commands.grows).notPending c hc rfl hpending
      · rcases (Table.mem_put_iff hc hkey).1 hd with rfl | ⟨hd, hne⟩
        · simp [NodeCommand.claimed]
        · exact absurd hid hne

/-- What a claim finds: a pending command whose time has not passed. -/
theorem SetupMove.claimed_running (h : SetupMove event db db' (.claimed commandId)) :
    ∃ lockedElsewhere workerInstanceId now,
      event = .claimNextNodeCommand lockedElsewhere workerInstanceId now ∧
        ∃ c ∈ db'.commands, c.id = commandId ∧ c.state = .running ∧ now < c.expiresAt := by
  cases h with
  | moved hmoved hplain => cases hplain
  | @claimed _ db₁ c lockedElsewhere workerInstanceId now hevent hmoved hc hpending htime =>
      exact ⟨lockedElsewhere, workerInstanceId, now, hevent, c.claimed workerInstanceId now,
        Table.mem_put_self hc rfl, rfl, rfl, htime⟩

theorem claimedCommand_eq_some : outcome.claimedCommand = some commandId ↔
    outcome = .claimed commandId := by
  cases outcome <;> simp [SetupOutcome.claimedCommand]

/-- **No command is claimed twice**, nor one that was there and not pending. -/
theorem claimedCommands_spent_once {contacts : Table Contact} {relay relay' : SetupRelay}
    {history : List (SetupEvent × SetupOutcome)} (hok : SetupRelayOk relay)
    (run : (setupRelay contacts).Run relay history relay') :
    (claimedCommands history).Nodup ∧
      ∀ commandId ∈ claimedCommands history,
        ¬ Spent relay.db commandId ∧ Spent relay'.db commandId := by
  have hkeep : ∀ (u : SetupRelay) (event : SetupEvent) (id : ℕ), SetupRelayOk u → Spent u.db id →
      Spent (setupStep u event).1.db id := fun u event id hu hspent =>
    hspent.grow (hu.setupStep event).db.grows
  refine run.spent_once hok (fun u event hu => hu.step (hu.setupStep event)) hkeep
    fun u event id hu hnamed => ?_
  exact SetupMove.claim (claimedCommand_eq_some.1 hnamed ▸ (hu.setupStep event).db)

end Claims

/-! ### The agreement along every run -/

/-- **The runs and the queue agree**, at every commit. -/
structure SetupAgreement (db : SetupDb) : Prop where
  active : ∀ run ∈ db.runs, run.isActive = true ↔ run.state ∉ setupRunFinalStates
  oneActive : ∀ run ∈ db.runs, ∀ other ∈ db.runs, run.isActive = true → other.isActive = true →
    run = other
  oneRunning : ∀ c ∈ db.commands, ∀ d ∈ db.commands, c.state = .running → d.state = .running →
    c = d
  resetting : ∀ run ∈ db.runs, run.state = .resetting →
    ∃ c, findLatestSetupRunCommand db run.id = some c ∧ c.kind = .factoryReset ∧
      c.state ∈ liveStates
  configuring : ∀ run ∈ db.runs, run.state = .configuring →
    ∃ c, findLatestSetupRunCommand db run.id = some c ∧ c.kind = .configureNode ∧
      c.state ∈ liveStates
  reading : ∀ run ∈ db.runs, run.state = .readingNode →
    ∃ c, findLatestSetupRunCommand db run.id = some c ∧ c.kind = .readNodeInformation ∧
      (c.state ∈ liveStates ∨ c.state ∈ unsuccessfulStates ∧ run.lastError ≠ [])
  /-- A second fall back changes nothing. -/
  fallBackTwice : ∀ c ∈ db.commands, ∀ now later,
    fallBackAfterUnsuccessfulCommand (fallBackAfterUnsuccessfulCommand db c now) c later =
      fallBackAfterUnsuccessfulCommand db c now
  /-- Nor does one of a command that ended before. -/
  fallenBack : ∀ c ∈ db.commands, c.state ∈ unsuccessfulStates → ∀ now,
    fallBackAfterUnsuccessfulCommand db c now = db

theorem SetupOk.agreement {db : SetupDb} (h : SetupOk db) : SetupAgreement db := by
  have hwaits : ∀ run ∈ db.runs, ∀ kind, run.state.awaitedKind = some kind →
      ∃ c, findLatestSetupRunCommand db run.id = some c ∧ c.kind = kind ∧
        (c.state ∈ liveStates ∨ kind = .readNodeInformation ∧ c.state ∈ unsuccessfulStates ∧
          run.lastError = describeUnsuccessfulSetupCommand c) :=
    fun run hrun kind hkind => (h.views run.id).waits run kind (Table.get?_key hrun) hkind
  refine ⟨fun run hrun => h.isActive_iff (Table.get?_key hrun),
    fun run hrun other hother hactive hotherActive => ?_, h.oneRunning, fun run hrun hstate => ?_,
    fun run hrun hstate => ?_, fun run hrun hstate => ?_,
    fun c hc now later => fallBack_fallBack hc now later,
    fun c hc hended now => (h.fallenBack hended).fallBack_eq_self hc now⟩
  · have hle := h.activeLast other hother hotherActive run hrun
    have hge := h.activeLast run hrun hactive other hother
    exact Table.eq_of_key_eq hrun hother (le_antisymm hle hge)
  · obtain ⟨c, hlatest, hkind, hlive | ⟨hread, -⟩⟩ :=
      hwaits run hrun .factoryReset (by rw [hstate]; rfl)
    · exact ⟨c, hlatest, hkind, hlive⟩
    · cases hread
  · obtain ⟨c, hlatest, hkind, hlive | ⟨hread, -⟩⟩ :=
      hwaits run hrun .configureNode (by rw [hstate]; rfl)
    · exact ⟨c, hlatest, hkind, hlive⟩
    · cases hread
  · obtain ⟨c, hlatest, hkind, hlive | ⟨-, hended, herror⟩⟩ :=
      hwaits run hrun .readNodeInformation (by rw [hstate]; rfl)
    · exact ⟨c, hlatest, hkind, Or.inl hlive⟩
    · exact ⟨c, hlatest, hkind,
        Or.inr ⟨hended, herror ▸ describeUnsuccessfulSetupCommand_ne_nil c⟩⟩

/-- **The wizard and the queue never disagree**, in whatever order the panel and the worker act. -/
theorem setup_runs_and_commands_agree {contacts : Table Contact} {relay : SetupRelay}
    {history : List (SetupEvent × SetupOutcome)}
    (run : (setupRelay contacts).Run (.start contacts) history relay) : SetupAgreement relay.db :=
  (setupRelayOk_of_reachable ⟨history, run⟩).db.agreement

/-! A factory reset that fails after its frame was sent. -/

def sampleNode : NodeInformation := { publicKey := "ab12".toList, name := "Relay".toList }

def sampleSetupStart : List SetupEvent :=
  [.startSetupRun 0, .claimNextNodeCommand [] 1 0, .recordNodeInformationRead sampleNode 1,
    .finishNodeCommand .succeeded 1 [], .confirmFactoryReset 1 "Relay".toList 2]

def sampleResetFails : List SetupEvent :=
  [.claimNextNodeCommand [] 1 3,
    .recordNodeCommandProgress
      { step := FactoryResetStep.sendResetFrame.value, state := .running, detail := [],
        recordedAt := 3 },
    .sendResetFrame, .finishNodeCommand .failed 4 "The node did not answer.".toList]

theorem setup_runs_and_commands_agree_sampleReset :
    let history := (setupRelay .empty).exec (.start .empty) (sampleSetupStart ++ sampleResetFails)
    (history.2.db.runs.get? 1).map NodeSetupRun.state = some .readingNode ∧
      SetupAgreement history.2.db :=
  ⟨by decide +kernel, setup_runs_and_commands_agree
    ((setupRelay .empty).run_exec (.start .empty) (sampleSetupStart ++ sampleResetFails))⟩

/-- **A node that may have been reset is read again.**  A run that resets the node goes back to its
confirmation only where the progress of its command does not name the reset frame, and every
command whose frame was given to the node names it. -/
theorem reset_node_read_again {contacts : Table Contact} {relay : SetupRelay}
    {history : List (SetupEvent × SetupOutcome)}
    (run : (setupRelay contacts).Run (.start contacts) history relay) :
    (∀ commandId ∈ relay.resetFramesSent, ∀ c ∈ relay.db.commands, c.id = commandId →
        factoryResetFrameMayHaveBeenSent c = true) ∧
      ∀ event, ∀ row ∈ relay.db.runs, row.state = .resetting →
        ∃ c, findLatestSetupRunCommand relay.db row.id = some c ∧ c.kind = .factoryReset ∧
          ResetStep c ((setupStep relay event).1.db.view row.id) := by
  have hok := setupRelayOk_of_reachable ⟨history, run⟩
  refine ⟨fun commandId hsent => (hok.sent commandId hsent).noted, fun event row hrow hstate => ?_⟩
  obtain ⟨c, hlatest, hkind, -⟩ := hok.db.agreement.resetting row hrow hstate
  exact ⟨c, hlatest, hkind, resetStep_setupMove (Table.get?_key hrow) hstate hlatest hkind
    (hok.setupStep event).db⟩

theorem reset_node_read_again_sampleReset :
    let reset := (setupRelay .empty).exec (.start .empty)
      (sampleSetupStart ++ sampleResetFails.take 3)
    reset.2.resetFramesSent = [2] ∧
      ∀ commandId ∈ reset.2.resetFramesSent, ∀ c ∈ reset.2.db.commands, c.id = commandId →
        factoryResetFrameMayHaveBeenSent c = true :=
  ⟨by decide +kernel, (reset_node_read_again ((setupRelay .empty).run_exec (.start .empty)
    (sampleSetupStart ++ sampleResetFails.take 3))).1⟩

end HoptalkRelay
