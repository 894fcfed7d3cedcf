/-
**A setup run and the command it waits for.**

What the database holds of one run is its row and its latest command.  Everything a transaction can
do to the two is listed once, as the moves of the queue (a claim, the end of a command, a fall back)
and those of the operator and the worker, and each keeps that a waiting run has its command.  Where
a run is cancelled, completed or begins a restore, only its row changes.

Main definitions:

* `HoptalkRelay.SetupDb.view` — a run and its latest command;
* `HoptalkRelay.QueueMove`, `HoptalkRelay.ViewMove` — **what one transaction does to a run**;
* `HoptalkRelay.ViewOk` — a waiting run has its command.

Main results:

* `HoptalkRelay.latest_createNodeCommand`, `HoptalkRelay.latest_updateWhere`,
  `HoptalkRelay.latest_putCommand` — the latest command after a write;
* `HoptalkRelay.ViewOk.step` — every move keeps it.
-/

import HoptalkRelay.NodeCommands

set_option relaxedAutoImplicit false
set_option autoImplicit false

namespace HoptalkRelay

open Relational

/-! ### The latest command of a run -/

/-- A run and its latest command. -/
abbrev RunView := Option NodeSetupRun × Option NodeCommand

/-- What the database holds of one run. -/
def SetupDb.view (db : SetupDb) (setupRunId : ℕ) : RunView :=
  (db.runs.get? setupRunId, findLatestSetupRunCommand db setupRunId)

section Latest

variable {db : SetupDb} {setupRunId : ℕ} {command : NodeCommand}

theorem mem_commandsOf : command ∈ db.commandsOf setupRunId ↔
    command ∈ db.commands ∧ command.setupRunId = some setupRunId := by
  simp [SetupDb.commandsOf]

theorem mem_of_latest (h : findLatestSetupRunCommand db setupRunId = some command) :
    command ∈ db.commands ∧ command.setupRunId = some setupRunId :=
  mem_commandsOf.1 (List.mem_of_getLast? h)

/-- No command of the run comes after its latest one. -/
theorem id_le_of_latest (h : findLatestSetupRunCommand db setupRunId = some command)
    {other : NodeCommand} (hother : other ∈ db.commandsOf setupRunId) : other.id ≤ command.id := by
  have hsorted : (db.commandsOf setupRunId).Pairwise fun a b => key a < key b :=
    Table.pairwise_filter _ _
  obtain ⟨before, hsplit⟩ := List.getLast?_eq_some_iff.1 h
  rw [hsplit] at hsorted hother
  rcases List.mem_append.1 hother with hmem | hmem
  · exact le_of_lt ((List.pairwise_append.1 hsorted).2.2 other hmem command List.mem_cons_self)
  · rw [List.mem_singleton.1 hmem]

/-- A command of the run that none comes after is its latest one. -/
theorem latest_of_forall_le (hcommand : command ∈ db.commandsOf setupRunId)
    (hlast : ∀ other ∈ db.commandsOf setupRunId, other.id ≤ command.id) :
    findLatestSetupRunCommand db setupRunId = some command := by
  cases hlatest : findLatestSetupRunCommand db setupRunId with
  | none =>
      rw [List.getLast?_eq_none_iff.1 hlatest] at hcommand
      cases hcommand
  | some latest =>
      obtain ⟨hlatestMem, hlatestRun⟩ := mem_of_latest hlatest
      have hle := id_le_of_latest hlatest hcommand
      have hge := hlast latest (mem_commandsOf.2 ⟨hlatestMem, hlatestRun⟩)
      have hkey : key latest = key command := le_antisymm hge hle
      rw [Table.eq_of_key_eq hlatestMem (mem_commandsOf.1 hcommand).1 hkey]

theorem latest_createNodeCommand (kind : NodeCommandKind) (now : Time) (newRunId : Option ℕ) :
    findLatestSetupRunCommand (createNodeCommand db kind now newRunId).1 setupRunId =
      if newRunId = some setupRunId then
        some (buildNodeCommand kind now newRunId db.commands.nextKey)
      else findLatestSetupRunCommand db setupRunId := by
  have hrows : (createNodeCommand db kind now newRunId).1.commandsOf setupRunId =
      db.commandsOf setupRunId ++
        [buildNodeCommand kind now newRunId db.commands.nextKey].filter fun row =>
          row.setupRunId = some setupRunId := by
    simp only [createNodeCommand, SetupDb.commandsOf, Table.filter, Table.insert,
      List.filter_append]
  rw [findLatestSetupRunCommand, hrows]
  split
  · next hrun => simp [buildNodeCommand, hrun]
  · next hrun => simp [buildNodeCommand, hrun, findLatestSetupRunCommand]

/-- An update of the commands that keeps their runs. -/
theorem latest_updateWhere {p : NodeCommand → Bool} {f : NodeCommand → NodeCommand}
    {h : ∀ r, p r = true → key (f r) = key r}
    (hrun : ∀ r, p r = true → (f r).setupRunId = r.setupRunId) :
    findLatestSetupRunCommand { db with commands := db.commands.updateWhere p f h } setupRunId =
      (findLatestSetupRunCommand db setupRunId).map fun r => if p r = true then f r else r := by
  have hsame : ∀ r : NodeCommand,
      (if p r = true then f r else r).setupRunId = r.setupRunId := by
    intro r
    split
    · next hp => exact hrun r hp
    · rfl
  have hrows : SetupDb.commandsOf { db with commands := db.commands.updateWhere p f h }
      setupRunId = (db.commandsOf setupRunId).map fun r => if p r = true then f r else r := by
    simp only [SetupDb.commandsOf, Table.filter, Table.updateWhere, List.filter_map]
    refine congrArg _ (List.filter_congr fun r _ => ?_)
    simp only [Function.comp, hsame]
  rw [findLatestSetupRunCommand, hrows, List.getLast?_map, findLatestSetupRunCommand]

/-- Another row with the same key and the same run. -/
theorem latest_putCommand {old : NodeCommand} (hrun : command.setupRunId = old.setupRunId)
    (hold : old ∈ db.commands) (hid : command.id = old.id) :
    findLatestSetupRunCommand (db.putCommand command) setupRunId =
      (findLatestSetupRunCommand db setupRunId).map fun r =>
        if r.id = command.id then command else r := by
  have hrows : (db.putCommand command).commandsOf setupRunId =
      (db.commandsOf setupRunId).map fun r => if r.id = command.id then command else r := by
    simp only [SetupDb.commandsOf, SetupDb.putCommand, Table.filter, Table.put, Table.updateWhere,
      List.filter_map, decide_eq_true_eq]
    refine congrArg _ (List.filter_congr fun r hr => ?_)
    simp only [Function.comp, key]
    split
    · next hkey =>
        rw [hrun, Table.eq_of_key_eq hr hold (hkey.trans hid)]
    · rfl
  rw [findLatestSetupRunCommand, hrows, List.getLast?_map, findLatestSetupRunCommand]

end Latest

/-! ### What becomes of a run -/

/-- The kind of command a run in this state waits for. -/
def SetupRunState.awaitedKind : SetupRunState → Option NodeCommandKind
  | .readingNode => some .readNodeInformation
  | .resetting => some .factoryReset
  | .configuring => some .configureNode
  | _ => none

/-- The operator lets the run wait for a new command. -/
inductive RunAsks : NodeSetupRun → NodeCommandKind → NodeSetupRun → Prop
  | retried {run : NodeSetupRun} (hstate : run.state = .readingNode) :
      RunAsks run .readNodeInformation { run with lastError := [] }
  | confirmed {run : NodeSetupRun} (hstate : run.state = .awaitingResetConfirmation) (now : Time) :
      RunAsks run .factoryReset (run.moved .resetting now (some []))
  | submitted {run : NodeSetupRun} (hstate : run.state = .awaitingConfiguration)
      (requestedConfiguration : RequestedNodeConfiguration) (now : Time) :
      RunAsks run .configureNode
        ({ run with requestedConfiguration := some requestedConfiguration }.moved .configuring now
          (some []))

/-- The run is told what its command achieved, and waits for the operator. -/
inductive RunReported : NodeSetupRun → NodeSetupRun → Prop
  | informationRead {run : NodeSetupRun} (hstate : run.state = .readingNode)
      (information : NodeInformation) (now : Time) :
      RunReported run
        ({ run with
            originalNodeInformation := some information
            originalPublicKey := information.publicKey }.moved .awaitingResetConfirmation now
          (some []))
  | resetDone {run : NodeSetupRun} (hstate : run.state = .readingNode ∨ run.state = .resetting)
      (newPublicKey : Text) (now : Time) :
      RunReported run ({ run with newPublicKey }.moved .awaitingConfiguration now (some []))

/-- The run of a command that did not succeed. -/
inductive RunFellBack (nodeCommand : NodeCommand) : NodeSetupRun → NodeSetupRun → Prop
  | readFailed {run : NodeSetupRun} (hkind : nodeCommand.kind = .readNodeInformation)
      (hstate : run.state = .readingNode) :
      RunFellBack nodeCommand run
        { run with lastError := describeUnsuccessfulSetupCommand nodeCommand }
  | resetFailed {run : NodeSetupRun} (hkind : nodeCommand.kind = .factoryReset)
      (hstate : run.state = .resetting)
      (hsent : factoryResetFrameMayHaveBeenSent nodeCommand = false) (lastError : Text)
      (now : Time) :
      RunFellBack nodeCommand run (run.moved .awaitingResetConfirmation now (some lastError))
  | configurationFailed {run : NodeSetupRun} (hkind : nodeCommand.kind = .configureNode)
      (hstate : run.state = .configuring) (lastError : Text) (now : Time) :
      RunFellBack nodeCommand run (run.moved .awaitingConfiguration now (some lastError))

/-- **The queue and one run**: what expiry, claim and end of a command do to it. -/
inductive QueueMove (nextKey : ℕ) : RunView → RunView → Prop
  | claimed {row : Option NodeSetupRun} {command claimed : NodeCommand}
      (hid : claimed.id = command.id) (hkind : claimed.kind = command.kind)
      (hprogress : claimed.progress = command.progress) (hpending : command.state = .pending)
      (hrunning : claimed.state = .running) :
      QueueMove nextKey (row, some command) (row, some claimed)
  | endedBeside {row : Option NodeSetupRun} {command ended : NodeCommand}
      (hid : ended.id = command.id) (hold : command.id < nextKey)
      (hprogress : ended.progress = command.progress)
      (hnot : ∀ run, row = some run → run.state.awaitedKind ≠ some command.kind) :
      QueueMove nextKey (row, some command) (row, some ended)
  | fellBack {run run' : NodeSetupRun} {command ended : NodeCommand}
      (hid : ended.id = command.id) (hold : command.id < nextKey)
      (hkind : ended.kind = command.kind) (hprogress : ended.progress = command.progress)
      (hended : ended.state ∈ unsuccessfulStates) (hchange : RunFellBack ended run run') :
      QueueMove nextKey (some run, some command) (some run', some ended)
  | readAgain {run : NodeSetupRun} {command : NodeCommand} (hold : command.id < nextKey)
      (hstate : run.state = .resetting) (hsent : factoryResetFrameMayHaveBeenSent command = true)
      (lastError : Text) (now : Time) (id : ℕ) (hnew : nextKey ≤ id) :
      QueueMove nextKey (some run, some command)
        (some (run.moved .readingNode now (some lastError)),
          some (buildNodeCommand .readNodeInformation now (some run.id) id))

/-- The queue's moves of one transaction. -/
def QueueMoves (nextKey : ℕ) : RunView → RunView → Prop :=
  Relation.ReflTransGen (QueueMove nextKey)

/-- **One transaction and one run**, unless the run is cancelled, completed or begins a restore. -/
inductive ViewMove (nextKey : ℕ) : RunView → RunView → Prop
  | queue {v w : RunView} (moves : QueueMoves nextKey v w) : ViewMove nextKey v w
  | started {latest : Option NodeCommand} (purpose : SetupRunPurpose) (now : Time)
      (setupRunId id : ℕ) (hnew : nextKey ≤ id) :
      ViewMove nextKey (none, latest)
        (some (buildSetupRun purpose now setupRunId),
          some (buildNodeCommand .readNodeInformation now (some setupRunId) id))
  | asked {run run' : NodeSetupRun} {kind : NodeCommandKind} {latest : Option NodeCommand}
      (hchange : RunAsks run kind run') (now : Time) (id : ℕ) (hnew : nextKey ≤ id) :
      ViewMove nextKey (some run, latest)
        (some run', some (buildNodeCommand kind now (some run.id) id))
  | reported {run run' : NodeSetupRun} {latest : Option NodeCommand}
      (hchange : RunReported run run') : ViewMove nextKey (some run, latest) (some run', latest)
  | progressed {row : Option NodeSetupRun} {command : NodeCommand} (progress : List ProgressStep) :
      ViewMove nextKey (row, some command) (row, some { command with progress })
  | pruned {row : Option NodeSetupRun} {latest : Option NodeCommand}
      (hinactive : ∀ run, row = some run → run.isActive = false) (latest' : Option NodeCommand) :
      ViewMove nextKey (row, latest) (row, latest')

theorem ViewMove.refl (nextKey : ℕ) (v : RunView) : ViewMove nextKey v v :=
  .queue Relation.ReflTransGen.refl

/-! ### A run and the command it waits for -/

/-- The commands that are waited for. -/
def liveStates : List NodeCommandState := [.pending, .running]

/-- **A waiting run has its command**: pending or running, or a read that failed with the error
shown. -/
structure ViewOk (v : RunView) : Prop where
  active : ∀ run, v.1 = some run → run.isActive = !setupRunFinalStates.contains run.state
  waits : ∀ run kind, v.1 = some run → run.state.awaitedKind = some kind →
    ∃ command, v.2 = some command ∧ command.kind = kind ∧
      (command.state ∈ liveStates ∨ kind = .readNodeInformation ∧
        command.state ∈ unsuccessfulStates ∧
          run.lastError = describeUnsuccessfulSetupCommand command)

section Ok

variable {v w : RunView} {nextKey : ℕ}

/-- A run that waits for a command just created. -/
theorem viewOk_created {run : NodeSetupRun} {kind : NodeCommandKind} {now : Time}
    {setupRunId : Option ℕ} {id : ℕ}
    (hactive : run.isActive = !setupRunFinalStates.contains run.state)
    (hkind : run.state.awaitedKind = some kind) :
    ViewOk (some run, some (buildNodeCommand kind now setupRunId id)) := by
  refine ⟨fun other hother => ?_, fun other awaited hother hawaited => ?_⟩
  · obtain rfl := Option.some.inj hother
    exact hactive
  · obtain rfl := Option.some.inj hother
    obtain rfl := Option.some.inj (hkind.symm.trans hawaited)
    exact ⟨_, rfl, rfl, Or.inl List.mem_cons_self⟩

/-- A run that waits for none. -/
theorem viewOk_of_not_waiting {run : NodeSetupRun} {latest : Option NodeCommand}
    (hactive : run.isActive = !setupRunFinalStates.contains run.state)
    (hnone : run.state.awaitedKind = none) : ViewOk (some run, latest) := by
  refine ⟨fun other hother => ?_, fun other awaited hother hawaited => ?_⟩
  · obtain rfl := Option.some.inj hother
    exact hactive
  · obtain rfl := Option.some.inj hother
    rw [hnone] at hawaited
    cases hawaited

/-- **The queue keeps it.** -/
theorem ViewOk.queueMove (h : ViewOk v) (hmove : QueueMove nextKey v w) : ViewOk w := by
  cases hmove with
  | claimed hid hkind hprogress hpending hrunning =>
      refine ⟨h.active, fun run kind hrun hawaited => ?_⟩
      obtain ⟨command, hcommand, hcommandKind, -⟩ := h.waits run kind hrun hawaited
      obtain rfl := Option.some.inj hcommand
      exact ⟨_, rfl, hkind.trans hcommandKind, Or.inl (by simp [hrunning, liveStates])⟩
  | endedBeside hid hold hprogress hnot =>
      refine ⟨h.active, fun run kind hrun hawaited => ?_⟩
      obtain ⟨command, hcommand, hcommandKind, -⟩ := h.waits run kind hrun hawaited
      obtain rfl := Option.some.inj hcommand
      exact absurd (hawaited.trans (congrArg some hcommandKind.symm)) (hnot run hrun)
  | @fellBack run run' command ended hid hold hkind hprogress hended hchange =>
      cases hchange with
      | readFailed hread hstate =>
          refine ⟨fun other hother => ?_, fun other kind hother hawaited => ?_⟩
          · obtain rfl := Option.some.inj hother
            exact h.active run rfl
          · obtain rfl := Option.some.inj hother
            have hkindRead : kind = .readNodeInformation := by
              have hreading : run.state.awaitedKind = some kind := hawaited
              rw [hstate] at hreading
              exact (Option.some.inj hreading).symm
            exact ⟨_, rfl, hread.trans hkindRead.symm, Or.inr ⟨hkindRead, hended, rfl⟩⟩
      | resetFailed => exact viewOk_of_not_waiting rfl rfl
      | configurationFailed => exact viewOk_of_not_waiting rfl rfl
  | readAgain => exact viewOk_created rfl rfl

theorem ViewOk.queueMoves (h : ViewOk v) (hmoves : QueueMoves nextKey v w) : ViewOk w := by
  induction hmoves with
  | refl => exact h
  | tail _ hmove ih => exact ih.queueMove hmove

/-- **The other transactions keep it.** -/
theorem ViewOk.step (h : ViewOk v) (hmove : ViewMove nextKey v w) : ViewOk w := by
  cases hmove with
  | queue moves => exact h.queueMoves moves
  | started => exact viewOk_created rfl rfl
  | @asked run run' kind latest hchange now id hnew =>
      cases hchange with
      | retried hstate =>
          exact viewOk_created (h.active run rfl) (by rw [hstate]; rfl)
      | confirmed => exact viewOk_created rfl rfl
      | submitted => exact viewOk_created rfl rfl
  | @reported run run' latest hchange =>
      cases hchange with
      | informationRead => exact viewOk_of_not_waiting rfl rfl
      | resetDone => exact viewOk_of_not_waiting rfl rfl
  | progressed progress =>
      refine ⟨h.active, fun run kind hrun hawaited => ?_⟩
      obtain ⟨command, hcommand, hcommandKind, hstates⟩ := h.waits run kind hrun hawaited
      obtain rfl := Option.some.inj hcommand
      exact ⟨_, rfl, hcommandKind, hstates⟩
  | pruned hinactive =>
      refine ⟨h.active, fun run kind hrun hawaited => ?_⟩
      have hactive := h.active run hrun
      rw [hinactive run hrun] at hactive
      cases hstate : run.state <;> rw [hstate] at hactive hawaited <;>
        first | (cases hactive; done) | cases hawaited

end Ok

end HoptalkRelay
