/-
**The runs that own the node.**

A run that resets or configures owns the node, and a load of the relay mode's inputs finds it so.
It waits for one command, its latest: as long as that command is pending, and from its claim until
the run is told what the command achieved.  Neither the operator nor a transaction beside can end
that wait; the end of the command can, and the handler that reports to the run.

Main definitions:

* `HoptalkRelay.RunView.Awaits` — the run waits for this command;
* `HoptalkRelay.AwaitEnds`, `HoptalkRelay.AwaitsMove` — what a step does to the waits;
* `HoptalkRelay.CommandsOwned` — **the commands that own the node have a run that waits for them**.

Main results:

* `HoptalkRelay.SetupRelayOk.awaitsMove` — every event is such a step;
* `HoptalkRelay.CommandsOwned.step` — every step keeps it, where a handler reports once;
* `HoptalkRelay.decideRelayMode_of_awaits` — the mode while a run waits.
-/

import HoptalkRelay.Invariants.SetupRelays
import HoptalkRelay.Invariants.SetupAgreement

set_option relaxedAutoImplicit false
set_option autoImplicit false

namespace HoptalkRelay

open Relational Transition

/-! ### A run that waits -/

/-- The commands whose run owns the node. -/
def owningCommandKinds : List NodeCommandKind := [.factoryReset, .configureNode]

/-- The run waits for this command, its latest one. -/
def RunView.Awaits (v : RunView) (commandId : ℕ) (kind : NodeCommandKind) : Prop :=
  ∃ run c, v = (some run, some c) ∧ c.id = commandId ∧ c.kind = kind ∧
    run.state.awaitedKind = some kind

section Awaits

variable {db db' : SetupDb} {setupRunId commandId otherId : ℕ} {kind : NodeCommandKind}
  {run : NodeSetupRun} {command : NodeCommand}

/-- A run that resets or configures is in such a state. -/
theorem awaitedKind_owning {state : SetupRunState} (hkind : kind ∈ owningCommandKinds)
    (h : state.awaitedKind = some kind) :
    state ∈ setupRunStatesOwningTheNode ∧ state ∉ setupRunFinalStates ∧
      state ∉ cancellableStates := by
  cases state <;> cases h <;> first | decide | (revert hkind; decide)

/-- A run waits for one command. -/
theorem RunView.Awaits.inj {v : RunView} (h : v.Awaits commandId kind) {otherKind : NodeCommandKind}
    (h' : v.Awaits otherId otherKind) : commandId = otherId := by
  obtain ⟨run, c, rfl, hid, -, -⟩ := h
  obtain ⟨run', c', hview, hid', -, -⟩ := h'
  obtain rfl := Option.some.inj (Prod.mk.inj hview).2
  exact hid.symm.trans hid'

/-- The run of a wait. -/
theorem RunView.Awaits.row (h : (db.view setupRunId).Awaits commandId kind)
    (hrow : db.runs.get? setupRunId = some run) : run.state.awaitedKind = some kind := by
  obtain ⟨run', c, hview, -, -, hawaited⟩ := h
  obtain rfl := Option.some.inj (hrow.symm.trans (congrArg Prod.fst hview))
  exact hawaited

/-- **While a run waits for a reset or a configuration** the mode is none that relays. -/
theorem decideRelayMode_of_awaits (hok : SetupOk db) (hkind : kind ∈ owningCommandKinds)
    (h : (db.view setupRunId).Awaits commandId kind) (publicKey : Text)
    (configuredNode : ConfiguredNode) :
    decideRelayMode (some publicKey) configuredNode (loadActiveSetupRunSummary db) =
      .setupInProgress := by
  obtain ⟨run, c, hview, -, -, hawaited⟩ := h
  have hrow : db.runs.get? setupRunId = some run := congrArg Prod.fst hview
  obtain ⟨howning, hopen, -⟩ := awaitedKind_owning hkind hawaited
  have hactive : run.isActive = true := (hok.isActive_iff hrow).2 hopen
  have hfound : getActiveSetupRun db = some run :=
    Table.first?_eq_of_unique (Table.mem_of_get? hrow) hactive fun other hother hotherActive =>
      hok.agreement.oneActive other hother run (Table.mem_of_get? hrow) hotherActive hactive
  simp [decideRelayMode, loadActiveSetupRunSummary, hfound, isSetupInProgress, howning]

end Awaits

/-! ### Commands that end beside a run -/

section Ended

variable {db : SetupDb} {setupRunId : ℕ} {command : NodeCommand} {state : NodeCommandState}
  {errorMessage : Text} {now : Time}

/-- The end of a command that is not the run's latest one leaves the run alone. -/
theorem view_endNodeCommand (hcommand : command ∈ db.commands)
    (hlatest : findLatestSetupRunCommand db setupRunId ≠ some command) :
    (endNodeCommand state errorMessage now db command).view setupRunId = db.view setupRunId := by
  let ended : NodeCommand := { command with state, finishedAt := some now, errorMessage }
  have hmem : ended ∈ (db.putCommand ended).commands := Table.mem_put_self hcommand rfl
  have hput : ∀ other, (db.putCommand ended).view other =
      if findLatestSetupRunCommand db other = some command then
        ((db.view other).1, some ended)
      else db.view other := fun other => view_putCommand hcommand rfl rfl
  show (fallBackAfterUnsuccessfulCommand (db.putCommand ended) ended now).view setupRunId =
    db.view setupRunId
  by_cases hany : ∃ x, findLatestSetupRunCommand (db.putCommand ended) x = some ended
  · obtain ⟨x, hx⟩ := hany
    have hne : setupRunId ≠ x := by
      intro heq
      have hview : findLatestSetupRunCommand (db.putCommand ended) setupRunId = _ :=
        congrArg Prod.snd ((hput setupRunId).trans (if_neg hlatest))
      have hbefore : findLatestSetupRunCommand db setupRunId = some ended :=
        hview.symm.trans (heq ▸ hx)
      refine hlatest (hbefore.trans (congrArg some ?_))
      exact Table.eq_of_key_eq (mem_of_latest hbefore).1 hcommand rfl
    rcases @fallBack_of_latest _ _ _ now hx with ⟨-, hsame⟩ | ⟨run, hrow, hfell⟩
    · rw [hsame, hput, if_neg hlatest]
    · rw [hfell.others hrow hne, hput, if_neg hlatest]
  · rw [fallBack_of_not_latest hmem fun x _ hx => hany ⟨x, hx⟩, hput, if_neg hlatest]

/-- So do the ends of several. -/
theorem view_foldl_endNodeCommand {commands : List NodeCommand}
    (hstate : state ∈ unsuccessfulStates) (hdistinct : commands.Pairwise fun a b => a.id < b.id)
    (hmem : ∀ c ∈ commands, c ∈ db.commands)
    (hlatest : ∀ c ∈ commands, findLatestSetupRunCommand db setupRunId ≠ some c) :
    (commands.foldl (endNodeCommand state errorMessage now) db).view setupRunId =
      db.view setupRunId := by
  induction commands generalizing db with
  | nil => rfl
  | cons c commands ih =>
      obtain ⟨hfirst, hrest⟩ := List.pairwise_cons.1 hdistinct
      have hc := hmem c List.mem_cons_self
      have hview : (endNodeCommand state errorMessage now db c).view setupRunId =
          db.view setupRunId := view_endNodeCommand hc (hlatest c List.mem_cons_self)
      refine (ih hrest (fun other hother => ?_) fun other hother heq => ?_).trans hview
      · exact (endNodeCommand_commands hstate hc).2 other
          (hmem other (List.mem_cons_of_mem _ hother)) (hfirst other hother).ne'
      · exact hlatest other (List.mem_cons_of_mem _ hother)
          ((congrArg Prod.snd hview).symm.trans heq)

end Ended

/-! ### What a step does to the waits -/

/-- The run is told what its command achieved. -/
def SetupEvent.isReport : SetupEvent → Bool
  | .recordNodeInformationRead _ _ | .recordFactoryResetSucceeded _ _
  | .recordConfigurationCompleted _ _ _ => true
  | _ => false

/-- Why a run no longer waits for a command. -/
inductive AwaitEnds (relay : SetupRelay) (event : SetupEvent) (relay' : SetupRelay)
    (setupRunId commandId : ℕ) : Prop
  | expired {c : NodeCommand} (hc : c ∈ relay.db.commands) (hid : c.id = commandId)
      (hpending : c.state = .pending)
      (hrow : ∀ c' ∈ relay'.db.commands, c'.id = commandId → c'.state ∉ liveStates) :
      AwaitEnds relay event relay' setupRunId commandId
  | ended (hidle : relay'.execution = none)
      (hrow : ∀ c' ∈ relay'.db.commands, c'.id = commandId → c'.state ≠ .pending) :
      AwaitEnds relay event relay' setupRunId commandId
  | told {execution : CommandExecution} (hreport : event.isReport = true)
      (hexecution : relay.execution = some execution)
      (hkind : execution.kind ∈ owningCommandKinds) (hrun : execution.setupRunId = some setupRunId)
      (htold : relay'.execution = some { execution with outcomeRecorded := true }) :
      AwaitEnds relay event relay' setupRunId commandId

/-- The run of the command waits for it. -/
def SetupDb.IsAwaited (db : SetupDb) (command : NodeCommand) : Prop :=
  ∀ setupRunId, command.setupRunId = some setupRunId →
    (db.view setupRunId).Awaits command.id command.kind

/-- The command was pending before the step. -/
def SetupDb.WasPending (db : SetupDb) (command : NodeCommand) : Prop :=
  ∃ c ∈ db.commands, c.state = .pending ∧ CommandGrows c command

/-- **What a step does to the waits** for the commands that own the node. -/
structure AwaitsMove (relay : SetupRelay) (event : SetupEvent) (relay' : SetupRelay)
    (outcome : SetupOutcome) : Prop where
  kept : ∀ setupRunId commandId, ∀ kind ∈ owningCommandKinds,
    (relay.db.view setupRunId).Awaits commandId kind →
      (relay'.db.view setupRunId).Awaits commandId kind ∨
        AwaitEnds relay event relay' setupRunId commandId
  created : ∀ c ∈ relay'.db.commands, c.kind ∈ owningCommandKinds →
    c.state = .pending ∨ outcome = .claimed c.id →
      relay.db.WasPending c ∨ relay'.db.IsAwaited c

/-- A transaction after which every wait goes on. -/
structure WaitsKept (db db' : SetupDb) : Prop where
  kept : ∀ setupRunId commandId, ∀ kind ∈ owningCommandKinds,
    (db.view setupRunId).Awaits commandId kind → (db'.view setupRunId).Awaits commandId kind
  created : ∀ c ∈ db'.commands, c.kind ∈ owningCommandKinds → c.state = .pending →
    db.WasPending c ∨ db'.IsAwaited c

section Move

variable {relay relay' : SetupRelay} {event : SetupEvent} {outcome : SetupOutcome}
  {db db' : SetupDb}

theorem CommandGrows.refl (c : NodeCommand) : CommandGrows c c :=
  ⟨rfl, rfl, rfl, fun h => h, fun h => h⟩

/-- Where no command was created, a pending one was pending. -/
theorem CommandsFollow.wasPending (h : CommandsFollow db db')
    (hnext : db'.commands.nextKey = db.commands.nextKey) {c : NodeCommand}
    (hc : c ∈ db'.commands) (hpending : c.state = .pending) : db.WasPending c := by
  rcases h.later c hc with ⟨before, hbefore, hfollows⟩ | ⟨hnew, -⟩
  · exact ⟨before, hbefore, hfollows.pending hpending, hfollows.id, hfollows.kind,
      hfollows.setupRunId, hfollows.pending, hfollows.sent⟩
  · exact absurd (db'.commands.below c hc) (not_lt.2 (hnext ▸ hnew))

theorem AwaitsMove.of_kept (hunclaimed : ∀ commandId, outcome ≠ .claimed commandId)
    (h : WaitsKept relay.db relay'.db) : AwaitsMove relay event relay' outcome := by
  refine ⟨fun r id kind hkind hawaits => Or.inl (h.kept r id kind hkind hawaits),
    fun c hc hkind hstate => ?_⟩
  rcases hstate with hpending | hclaimed
  · exact h.created c hc hkind hpending
  · exact absurd hclaimed (hunclaimed c.id)

theorem WaitsKept.refl (db : SetupDb) : WaitsKept db db :=
  ⟨fun _ _ _ _ hawaits => hawaits, fun c hc _ hpending => Or.inl ⟨c, hc, hpending, .refl c⟩⟩

theorem AwaitsMove.idle (hunclaimed : ∀ commandId, outcome ≠ .claimed commandId)
    (hdb : relay'.db = relay.db) : AwaitsMove relay event relay' outcome :=
  .of_kept hunclaimed (hdb ▸ .refl relay.db)

/-- A transaction of the panel that commits or is refused. -/
theorem AwaitsMove.commit {α : Type} {result : Except SetupError (SetupDb × α)}
    (hkept : ∀ db' a, result = .ok (db', a) → WaitsKept relay.db db') :
    AwaitsMove relay event (relay.commit result).1 (relay.commit result).2 := by
  cases hresult : result with
  | error error => exact .idle (by simp [SetupRelay.commit]) rfl
  | ok pair => exact .of_kept (by simp [SetupRelay.commit]) (hkept pair.1 pair.2 hresult)

/-- A run that waits for the operator or reads the node gets a new command. -/
theorem waitsKept_ask {run run' : NodeSetupRun} {kind : NodeCommandKind} {now : Time}
    {setupRunId : ℕ} (hmoved : OwnCommandsMoved db db' setupRunId)
    (hnext : db'.commands.nextKey = db.commands.nextKey)
    (hrow : db.runs.get? setupRunId = some run) (hid : run'.id = run.id)
    (hchange : RunAsks run kind run') :
    WaitsKept db (createNodeCommand (db'.putRun run') kind now (some run.id)).1 := by
  have hrunId : run.id = setupRunId := Table.key_of_get? hrow
  subst hrunId
  have hrow' : db'.runs.get? run'.id = some run := by rw [hmoved.runs, hid, hrow]
  have hview : ∀ other, (createNodeCommand (db'.putRun run') kind now (some run.id)).1.view other =
      if other = run.id then
        (some run', some (buildNodeCommand kind now (some run.id) db'.commands.nextKey))
      else db.view other := by
    intro other
    rw [view_createNodeCommand, view_putRun hrow']
    by_cases heq : other = run.id
    · subst heq
      rw [if_pos hid.symm, if_pos rfl, if_pos rfl]
      rfl
    · rw [if_neg fun h => heq (h.trans hid), if_neg fun h => heq (Option.some.inj h).symm,
        if_neg heq]
      exact Prod.ext (congrArg (·.get? other) hmoved.runs) (hmoved.others other heq)
  refine ⟨fun other commandId owning howning hawaits => ?_, fun c hc howning hpending => ?_⟩
  · rw [hview, if_neg]
    · exact hawaits
    · rintro rfl
      obtain ⟨-, -, hfixed⟩ := awaitedKind_owning howning (hawaits.row hrow)
      cases hchange with
      | retried hstate => exact hfixed (by rw [hstate]; decide)
      | confirmed hstate => exact hfixed (by rw [hstate]; decide)
      | submitted hstate => exact hfixed (by rw [hstate]; decide)
  · rcases mem_createNodeCommand.1 hc with hc | rfl
    · exact Or.inl (hmoved.commands.wasPending hnext hc hpending)
    · refine Or.inr fun other hother => ?_
      obtain rfl := Option.some.inj hother
      rw [hview, if_pos rfl]
      refine ⟨run', _, rfl, rfl, rfl, ?_⟩
      cases hchange with
      | retried => exact absurd howning (by simp [buildNodeCommand, owningCommandKinds])
      | confirmed => rfl
      | submitted => rfl

/-! The operator. -/

theorem startSetupRun_waitsKept {result : SetupDb × NodeSetupRun} {now : Time}
    (h : startSetupRun db now = .ok result) : WaitsKept db result.1 := by
  obtain ⟨-, purpose, heq⟩ := startSetupRun_eq_ok h
  rw [heq]
  refine ⟨fun r commandId kind hkind hawaits => ?_, fun c hc hkind hpending => Or.inl ?_⟩
  · obtain ⟨run, _, hview, -⟩ := id hawaits
    have hrow : db.runs.get? r = some run := congrArg Prod.fst hview
    have hne : r ≠ db.runs.nextKey :=
      Nat.ne_of_lt (Table.lt_nextKey_of_isSome (Option.isSome_iff_exists.2 ⟨run, hrow⟩))
    have hget : (createSetupRun db purpose now).1.runs.get? r = db.runs.get? r :=
      (Table.get?_insert (h := fun _ => rfl) r).trans (if_neg hne)
    rw [view_createNodeCommand, if_neg fun heq => hne (Option.some.inj heq).symm]
    rw [show (createSetupRun db purpose now).1.view r = db.view r from Prod.ext hget rfl]
    exact hawaits
  · rcases mem_createNodeCommand.1 hc with hc | rfl
    · exact ⟨c, hc, hpending, .refl c⟩
    · exact absurd hkind (by simp [buildNodeCommand, owningCommandKinds])

theorem nextKey_cancelPendingSetupRunCommands (db : SetupDb) (setupRunId : ℕ) (now : Time) :
    (cancelPendingSetupRunCommands db setupRunId now).commands.nextKey = db.commands.nextKey := by
  unfold cancelPendingSetupRunCommands
  induction ((db.commandsOf setupRunId).filter fun row => row.state = .pending).map NodeCommand.id
    generalizing db with
  | nil => rfl
  | cons id ids ih => exact ih (cancelNodeCommand db id now)

theorem retryReadingNode_waitsKept {run : NodeSetupRun} {now : Time}
    (hrow : db.runs.get? run.id = some run) (hstate : run.state = .readingNode) :
    WaitsKept db (retryReadingNode db run now).1 :=
  waitsKept_ask (cancelPendingSetupRunCommands_moved db run.id now)
    (nextKey_cancelPendingSetupRunCommands db run.id now) hrow
    (show NodeSetupRun.id { run with lastError := [] } = run.id from rfl) (.retried hstate)

theorem confirmFactoryReset_waitsKept {setupRunId : ℕ} {typedConfirmation : Text} {now : Time}
    {result : SetupDb × NodeCommand}
    (h : confirmFactoryReset db setupRunId typedConfirmation now = .ok result) :
    WaitsKept db result.1 := by
  obtain ⟨run, hrow, hstate, rfl⟩ := confirmFactoryReset_eq_ok h
  exact waitsKept_ask (.of_eq rfl rfl setupRunId) rfl hrow rfl (.confirmed hstate now)

theorem submitNodeConfiguration_waitsKept {setupRunId : ℕ}
    {requestedConfiguration : RequestedNodeConfiguration} {now : Time}
    {result : SetupDb × NodeCommand}
    (h : submitNodeConfiguration db setupRunId requestedConfiguration now = .ok result) :
    WaitsKept db result.1 := by
  obtain ⟨run, hrow, hstate, rfl⟩ := submitNodeConfiguration_eq_ok h
  exact waitsKept_ask (.of_eq rfl rfl setupRunId) rfl hrow rfl
    (.submitted hstate requestedConfiguration now)

/-- A run that owns the node is not cancelled. -/
theorem cancelSetupRun_waitsKept {setupRunId : ℕ} {now : Time}
    (h : cancelSetupRun db setupRunId now = .ok db') : WaitsKept db db' := by
  obtain ⟨run, hreplaced, hstate, -⟩ := cancelSetupRun_replaced h
  obtain ⟨run', -, -, hdb⟩ := cancelSetupRun_eq_ok h
  refine ⟨fun r id kind hkind hawaits => ?_, fun c hc _ hpending => Or.inl ?_⟩
  · rw [hreplaced.others r]
    · exact hawaits
    · rintro rfl
      exact (awaitedKind_owning hkind (hawaits.row hreplaced.row)).2.2 hstate
  · refine hreplaced.commands.wasPending ?_ hc hpending
    rw [hdb]
    exact nextKey_cancelPendingSetupRunCommands db run'.id now

/-- The panel's own commands belong to no run. -/
theorem createNodeCommand_waitsKept (kind : NodeCommandKind) (now : Time) :
    WaitsKept db (createNodeCommand db kind now none).1 := by
  refine ⟨fun r id owning _ hawaits => ?_, fun c hc _ hpending => ?_⟩
  · rw [view_createNodeCommand, if_neg (by simp)]
    exact hawaits
  · rcases mem_createNodeCommand.1 hc with hc | rfl
    · exact Or.inl ⟨c, hc, hpending, .refl c⟩
    · exact Or.inr fun r hrun => by cases hrun

/-! Commands that end. -/

section Ends

variable {commands : List NodeCommand} {state : NodeCommandState} {errorMessage : Text}
  {now : Time} {setupRunId commandId : ℕ} {kind : NodeCommandKind}

/-- A pending command that owns the node was pending before others ended. -/
theorem mem_of_pending_foldl (hstate : state ∈ unsuccessfulStates)
    (hdistinct : commands.Pairwise fun a b => a.id < b.id) (hmem : ∀ c ∈ commands, c ∈ db.commands)
    {c : NodeCommand}
    (hc : c ∈ (commands.foldl (endNodeCommand state errorMessage now) db).commands)
    (hkind : c.kind ∈ owningCommandKinds) (hpending : c.state = .pending) :
    c ∈ db.commands ∧ c ∉ commands := by
  rcases pending_foldl_endNodeCommand hstate hdistinct hmem hc hpending with hbefore | ⟨_, _, rfl⟩
  · exact hbefore
  · exact absurd hkind (by simp [buildNodeCommand, owningCommandKinds])

/-- A run that waits still does, unless its command is among those that end. -/
theorem RunView.Awaits.foldl_endNodeCommand
    (h : (db.view setupRunId).Awaits commandId kind) (hkind : kind ∈ owningCommandKinds)
    (hstate : state ∈ unsuccessfulStates)
    (hdistinct : commands.Pairwise fun a b => a.id < b.id)
    (hmem : ∀ c ∈ commands, c ∈ db.commands) :
    ((commands.foldl (endNodeCommand state errorMessage now) db).view setupRunId).Awaits commandId
        kind ∨
      ∃ c ∈ commands, c.id = commandId ∧
        ∀ c' ∈ (commands.foldl (endNodeCommand state errorMessage now) db).commands,
          c'.id = commandId → c'.state ≠ .pending := by
  obtain ⟨run, c, hview, hid, hcKind, -⟩ := id h
  have hlatest : findLatestSetupRunCommand db setupRunId = some c := congrArg Prod.snd hview
  by_cases hends : c ∈ commands
  · refine Or.inr ⟨c, hends, hid, fun c' hc' hid' hpending => ?_⟩
    have hc := hmem c hends
    have hsame : c'.kind = c.kind := by
      have hfollow := (@endNodeCommands_moves db state errorMessage now _ hstate hdistinct hmem).1
      rcases hfollow.later c' hc' with ⟨before, hbefore, hfollows⟩ | ⟨hnew, -⟩
      · have hkey : key before = key c := hfollows.id.symm.trans (hid'.trans hid.symm)
        rw [hfollows.kind, Table.eq_of_key_eq hbefore hc hkey]
      · have hbelow := db.commands.below c hc
        have hcId : key c = c'.id := hid.trans hid'.symm
        omega
    obtain ⟨hbefore, hnot⟩ := mem_of_pending_foldl hstate hdistinct hmem hc'
      (hsame ▸ hcKind ▸ hkind) hpending
    have hkey : key c' = key c := hid'.trans hid.symm
    exact hnot (Table.eq_of_key_eq hbefore hc hkey ▸ hends)
  · left
    rw [view_foldl_endNodeCommand hstate hdistinct hmem fun other hother heq => hends ?_]
    · exact h
    · rw [← Option.some.inj (heq.symm.trans hlatest)]
      exact hother

/-- Another row of the same command. -/
theorem RunView.Awaits.putCommand (h : (db.view setupRunId).Awaits commandId kind)
    {old command : NodeCommand} (hold : old ∈ db.commands) (hid : command.id = old.id)
    (hrun : command.setupRunId = old.setupRunId) (hkind : command.kind = old.kind) :
    ((db.putCommand command).view setupRunId).Awaits commandId kind := by
  rw [view_putCommand hold hid hrun]
  split
  · next hlatest =>
      obtain ⟨run, c, hview, hcId, hcKind, hawaited⟩ := h
      obtain rfl := Option.some.inj (hlatest.symm.trans (congrArg Prod.snd hview))
      refine ⟨run, command, ?_, hid.trans hcId, hkind.trans hcKind, hawaited⟩
      rw [hview]
  · exact h

/-! The worker. -/

theorem recordNodeCommandProgress_waitsKept (nodeCommandId : ℕ) (progressStep : ProgressStep) :
    WaitsKept db (recordNodeCommandProgress db nodeCommandId progressStep) := by
  refine ⟨fun r awaitedId owning _ hawaits => ?_, fun c hc _ hpending => Or.inl ?_⟩
  · obtain ⟨run, c, hview, hid, hkind, hawaited⟩ := hawaits
    have hlatest : findLatestSetupRunCommand
        (recordNodeCommandProgress db nodeCommandId progressStep) r =
          (findLatestSetupRunCommand db r).map fun row =>
            if decide (row.id = nodeCommandId) = true then
              { row with progress := replaceOrAppendProgressStep row.progress progressStep }
            else row :=
      latest_updateWhere (p := fun row => row.id = nodeCommandId)
        (f := fun row =>
          { row with progress := replaceOrAppendProgressStep row.progress progressStep })
        fun _ _ => rfl
    rw [show findLatestSetupRunCommand db r = some c from congrArg Prod.snd hview,
      Option.map_some] at hlatest
    have hrow : db.runs.get? r = some run := congrArg Prod.fst hview
    refine ⟨run, _, Prod.ext hrow hlatest, ?_, ?_, hawaited⟩
    · split <;> exact hid
    · split <;> exact hkind
  · exact (recordNodeCommandProgress_moved nodeCommandId progressStep).commands.wasPending rfl hc
      hpending

theorem deleteOldNodeCommands_waitsKept {now : Time} (hok : SetupOk db)
    (hkept : (db.commands.any fun row =>
      row.createdAt < now - durationOfDays nodeCommandRetentionDays &&
        row.setupRunId.any fun setupRunId =>
          (db.runs.get? setupRunId).any (·.isActive)) = false) :
    WaitsKept db (deleteOldNodeCommands db now) := by
  refine ⟨fun r awaitedId owning howning hawaits => ?_, fun c hc _ hpending => Or.inl ?_⟩
  · obtain ⟨run, _, hview, -⟩ := id hawaits
    have hrow : db.runs.get? r = some run := congrArg Prod.fst hview
    rw [view_deleteOldNodeCommands hkept hrow
      ((hok.isActive_iff hrow).2 (awaitedKind_owning howning (hawaits.row hrow)).2.1)]
    exact hawaits
  · exact (deleteOldNodeCommands_moved hkept).commands.wasPending rfl hc hpending

/-- **Stale commands expire**, and with them the waits for them. -/
theorem RunView.Awaits.expire (h : (db.view setupRunId).Awaits commandId kind)
    (hkind : kind ∈ owningCommandKinds) (lockedElsewhere : List ℕ) (now : Time) :
    ((expirePendingNodeCommands db lockedElsewhere now).view setupRunId).Awaits commandId kind ∨
      ∃ c ∈ db.commands, c.id = commandId ∧ c.state = .pending ∧
        ∀ c' ∈ (expirePendingNodeCommands db lockedElsewhere now).commands,
          c'.id = commandId → c'.state ∉ liveStates := by
  have hmem : ∀ c ∈ expiredPendingCommands db lockedElsewhere now, c ∈ db.commands :=
    fun c hc => (Table.mem_filter.1 hc).1
  rcases h.foldl_endNodeCommand hkind (show NodeCommandState.expired ∈ unsuccessfulStates by
      simp [unsuccessfulStates]) (Table.pairwise_filter _ _) hmem with
    hawaits | ⟨c, hexpired, hid, hended⟩
  · exact Or.inl hawaits
  · have hpending : c.state = .pending := by
      have hstale := (Table.mem_filter.1 hexpired).2
      simp only [Bool.and_eq_true, decide_eq_true_eq] at hstale
      exact hstale.1.2
    refine Or.inr ⟨c, hmem c hexpired, hid, hpending, fun c' hc' hid' hlive => ?_⟩
    rcases List.mem_cons.1 hlive with hpending' | hrunning
    · exact hended c' hc' hid' hpending'
    · have hrunning' : c'.state = .running := List.mem_singleton.1 hrunning
      have hfollow := (@expirePendingNodeCommands_moved db now lockedElsewhere).commands
      rcases hfollow.later c' hc' with ⟨before, hbefore, hfollows⟩ | ⟨-, hidle⟩
      · have hkey : key before = key c := hfollows.id.symm.trans (hid'.trans hid.symm)
        have hsame := Table.eq_of_key_eq hbefore (hmem c hexpired) hkey
        rw [hsame] at hfollows
        cases hpending.symm.trans (hfollows.running hrunning')
      · exact hidle hrunning'

theorem wasPending_expire {lockedElsewhere : List ℕ} {now : Time} {c : NodeCommand}
    (hc : c ∈ (expirePendingNodeCommands db lockedElsewhere now).commands)
    (hkind : c.kind ∈ owningCommandKinds) (hpending : c.state = .pending) : db.WasPending c :=
  ⟨c, (mem_of_pending_foldl (show NodeCommandState.expired ∈ unsuccessfulStates by
      simp [unsuccessfulStates]) (Table.pairwise_filter _ _) (fun d hd => (Table.mem_filter.1 hd).1)
    hc hkind hpending).1, hpending, .refl c⟩

/-- The command that is finished or interrupted. -/
theorem AwaitsMove.end_ (commands : List NodeCommand) (hidle : relay'.execution = none)
    (hunclaimed : ∀ commandId, outcome ≠ .claimed commandId) (hstate : state ∈ unsuccessfulStates)
    (hdistinct : commands.Pairwise fun a b => a.id < b.id)
    (hmem : ∀ c ∈ commands, c ∈ relay.db.commands)
    (hdb : relay'.db = commands.foldl (endNodeCommand state errorMessage now) relay.db) :
    AwaitsMove relay event relay' outcome := by
  refine ⟨fun r id owning howning hawaits => ?_, fun c hc howning hwhy => Or.inl ?_⟩
  · rw [hdb]
    rcases hawaits.foldl_endNodeCommand howning hstate hdistinct hmem with
      hkept | ⟨c, -, hid, hended⟩
    · exact Or.inl hkept
    · exact Or.inr (.ended hidle fun c' hc' => hended c' (hdb ▸ hc'))
  · rcases hwhy with hpending | hclaimed
    · rw [hdb] at hc
      exact ⟨c, (mem_of_pending_foldl hstate hdistinct hmem hc howning hpending).1, hpending,
        .refl c⟩
    · exact absurd hclaimed (hunclaimed c.id)

theorem finishNodeCommand_awaitsMove (hidle : relay'.execution = none)
    (hunclaimed : ∀ commandId, outcome ≠ .claimed commandId) {commandEnd : CommandEnd}
    {nodeCommandId : ℕ}
    (hdb : relay'.db = finishNodeCommand relay.db nodeCommandId commandEnd now errorMessage) :
    AwaitsMove relay event relay' outcome := by
  unfold finishNodeCommand at hdb
  split at hdb
  · exact .idle hunclaimed hdb
  · next c hfound =>
      obtain ⟨hc, -⟩ := Table.first?_eq_some hfound
      split at hdb
      · next hstate =>
          exact .end_ [c] hidle hunclaimed hstate (List.pairwise_singleton _ c)
            (fun d hd => List.mem_singleton.1 hd ▸ hc) hdb
      · next hstate =>
          refine .of_kept hunclaimed ⟨fun r id owning _ hawaits => ?_, fun d hd _ hpending => ?_⟩
          · rw [hdb]
            exact hawaits.putCommand hc rfl rfl rfl
          · rw [hdb] at hd
            rcases (Table.mem_put_iff hc (show key { c with
              state := commandEnd.state, finishedAt := some now, errorMessage } = key c from
                rfl)).1 hd with rfl | ⟨hd, -⟩
            · cases commandEnd <;> simp [CommandEnd.state] at hpending
            · exact Or.inl ⟨d, hd, hpending, .refl d⟩

/-- The row of a run is replaced. -/
theorem RowReplaced.awaits {run run' : NodeSetupRun} {r : ℕ}
    (h : RowReplaced db db' setupRunId run run')
    (hawaits : (db.view r).Awaits commandId kind) :
    (db'.view r).Awaits commandId kind ∨ r = setupRunId ∧ run.state.awaitedKind = some kind := by
  by_cases hid : r = setupRunId
  · subst hid
    exact Or.inr ⟨rfl, hawaits.row h.row⟩
  · rw [h.others r hid]
    exact Or.inl hawaits

/-- A handler's transaction that commits, waits for the run or is refused. -/
theorem AwaitsMove.report {recorded : CommandExecution} {result : Except SetupError SetupDb}
    (hunclaimed : ∀ commandId, outcome ≠ .claimed commandId)
    (hcommands : ∀ db', result = .ok db' → db'.commands = relay.db.commands)
    (hkept : ∀ db', result = .ok db' → ∀ r commandId, ∀ kind ∈ owningCommandKinds,
      (relay.db.view r).Awaits commandId kind → (db'.view r).Awaits commandId kind ∨
        AwaitEnds relay event { relay with db := db', execution := some recorded } r commandId) :
    AwaitsMove relay event (relay.report recorded setupRunId result outcome).1
      (relay.report recorded setupRunId result outcome).2 := by
  unfold SetupRelay.report
  split
  · exact .idle (by simp) rfl
  · split
    · next db' =>
        refine ⟨hkept db' rfl, fun c hc _ hstate => Or.inl ?_⟩
        rcases hstate with hpending | hclaimed
        · exact ⟨c, hcommands db' rfl ▸ hc, hpending, .refl c⟩
        · exact absurd hclaimed (hunclaimed c.id)
    · exact .idle (by simp) rfl

end Ends

end Move

/-! ### Every event -/

section Events

variable {relay : SetupRelay} {execution : CommandExecution}

theorem informationRead_awaitsMove (readInformation : NodeInformation) (now : Time) :
    AwaitsMove relay (.recordNodeInformationRead readInformation now)
      (executionStep relay execution (.recordNodeInformationRead readInformation now)).1
      (executionStep relay execution (.recordNodeInformationRead readInformation now)).2 := by
  unfold executionStep
  dsimp only
  split
  · exact .idle (by simp) rfl
  · refine .report (by simp) (fun db' hresult => ?_) fun db' hresult r commandId kind hkind h => ?_
    · obtain ⟨run, -, ⟨-, rfl⟩ | ⟨-, run', hreported, -⟩⟩ := recordNodeInformationRead_eq_ok hresult
      · rfl
      · exact hreported.unchanged
    · obtain ⟨run, -, ⟨-, rfl⟩ | ⟨hreading, run', hreported, -⟩⟩ :=
        recordNodeInformationRead_eq_ok hresult
      · exact Or.inl h
      · rcases hreported.awaits h with hkept | ⟨-, hawaited⟩
        · exact Or.inl hkept
        · rw [hreading] at hawaited
          exact absurd (awaitedKind_owning hkind hawaited).2.2 (by decide)
  · exact .idle (by simp) rfl

theorem resetSucceeded_awaitsMove (hexecution : relay.execution = some execution)
    (newPublicKey : Text) (now : Time) :
    AwaitsMove relay (.recordFactoryResetSucceeded newPublicKey now)
      (executionStep relay execution (.recordFactoryResetSucceeded newPublicKey now)).1
      (executionStep relay execution (.recordFactoryResetSucceeded newPublicKey now)).2 := by
  unfold executionStep
  dsimp only
  split
  · next setupRunId hkind hrun =>
      refine .report (by simp) (fun db' hresult => ?_) fun db' hresult r commandId kind hown h => ?_
      · obtain ⟨run, -, hreported⟩ := recordFactoryResetSucceeded_eq_ok hresult
        exact hreported.unchanged
      · obtain ⟨run, -, hreported⟩ := recordFactoryResetSucceeded_eq_ok hresult
        rcases hreported.awaits h with hkept | ⟨rfl, -⟩
        · exact Or.inl hkept
        · exact Or.inr (.told rfl hexecution (by rw [hkind]; decide) hrun rfl)
  · exact .idle (by simp) rfl

theorem restoreStarted_awaitsMove :
    AwaitsMove relay .recordIdentityRestoreStarted
      (executionStep relay execution .recordIdentityRestoreStarted).1
      (executionStep relay execution .recordIdentityRestoreStarted).2 := by
  unfold executionStep
  dsimp only
  split
  · split
    · exact .idle (by simp) rfl
    · refine .report (by simp) (fun db' hresult => ?_) fun db' hresult r commandId kind _ h => ?_
      · obtain ⟨run, hreported, -⟩ := recordIdentityRestoreStarted_reported hresult
        exact hreported.unchanged
      · obtain ⟨run, hreported, -⟩ := recordIdentityRestoreStarted_reported hresult
        rcases hreported.awaits h with hkept | ⟨rfl, hawaited⟩
        · exact Or.inl hkept
        · obtain ⟨before, c, hview, hid, hkind, -⟩ := h
          refine Or.inl ⟨_, c, Prod.ext hreported.row' ?_, hid, hkind, hawaited⟩
          exact hreported.latest.trans (congrArg Prod.snd hview)
  · exact .idle (by simp) rfl

theorem configurationCompleted_awaitsMove (hexecution : relay.execution = some execution)
    (nodeConfiguration : NodeConfiguration) (now : Time)
    (nodeIdentityBackup : Option NodeIdentityBackup) :
    AwaitsMove relay (.recordConfigurationCompleted nodeConfiguration now nodeIdentityBackup)
      (executionStep relay execution
        (.recordConfigurationCompleted nodeConfiguration now nodeIdentityBackup)).1
      (executionStep relay execution
        (.recordConfigurationCompleted nodeConfiguration now nodeIdentityBackup)).2 := by
  unfold executionStep
  dsimp only
  split
  · next setupRunId hkind hrun =>
      refine .report (by simp) (fun db' hresult => ?_) fun db' hresult r commandId kind hown h => ?_
      · obtain ⟨run, -, -, hcommands⟩ := recordConfigurationCompleted_replaced hresult
        exact hcommands
      · obtain ⟨run, hreplaced, -⟩ := recordConfigurationCompleted_replaced hresult
        rcases hreplaced.awaits h with hkept | ⟨rfl, -⟩
        · exact Or.inl hkept
        · exact Or.inr (.told rfl hexecution (by rw [hkind]; decide) hrun rfl)
  · exact .idle (by simp) rfl

/-- What the handler of a command does. -/
theorem executionStep_awaitsMove (hexecution : relay.execution = some execution)
    (event : SetupEvent) :
    AwaitsMove relay event (executionStep relay execution event).1
      (executionStep relay execution event).2 := by
  unfold executionStep
  cases event with
  | recordNodeCommandProgress progressStep =>
      exact .of_kept (by simp) (recordNodeCommandProgress_waitsKept _ progressStep)
  | recordNodeInformationRead readInformation now =>
      exact informationRead_awaitsMove readInformation now
  | sendResetFrame =>
      dsimp only
      split <;> exact .idle (by simp) rfl
  | recordFactoryResetSucceeded newPublicKey now =>
      exact resetSucceeded_awaitsMove hexecution newPublicKey now
  | readConfiguredPublicKey =>
      dsimp only
      split <;> exact .idle (by simp) rfl
  | recordIdentityRestoreStarted => exact restoreStarted_awaitsMove
  | recordConfigurationCompleted nodeConfiguration now nodeIdentityBackup =>
      exact configurationCompleted_awaitsMove hexecution nodeConfiguration now nodeIdentityBackup
  | finishNodeCommand commandEnd now errorMessage =>
      dsimp only
      split
      · split
        · exact .idle (by simp) rfl
        · exact finishNodeCommand_awaitsMove rfl (by simp) rfl
      · split
        · exact .idle (by simp) rfl
        · exact finishNodeCommand_awaitsMove rfl (by simp) rfl
  | _ => exact .idle (by simp) rfl

/-- **The claim**: what was pending may have expired, and a pending command is taken. -/
theorem claim_awaitsMove (lockedElsewhere : List ℕ) (workerInstanceId : ℕ) (now : Time) :
    AwaitsMove relay (.claimNextNodeCommand lockedElsewhere workerInstanceId now)
      (setupQueueStep relay (.claimNextNodeCommand lockedElsewhere workerInstanceId now)).1
      (setupQueueStep relay (.claimNextNodeCommand lockedElsewhere workerInstanceId now)).2 := by
  simp only [setupQueueStep]
  split
  · exact .idle (by simp) rfl
  · rcases claimNextNodeCommand_cases relay.db lockedElsewhere workerInstanceId now with
      hresult | ⟨c, hc, hpending, -, -, hresult⟩
    · rw [hresult]
      refine ⟨fun r commandId kind hkind hawaits => ?_, fun d hd hkind hstate => Or.inl ?_⟩
      · rcases hawaits.expire hkind lockedElsewhere now with hkept | ⟨d, hd, hid, hpending, hended⟩
        · exact Or.inl hkept
        · exact Or.inr (.expired hd hid hpending hended)
      · exact wasPending_expire hd hkind (by simpa using hstate)
    · rw [hresult]
      have hput : key (c.claimed workerInstanceId now) = key c := rfl
      refine ⟨fun r commandId kind hkind hawaits => ?_, fun d hd hkind hstate => Or.inl ?_⟩
      · rcases hawaits.expire hkind lockedElsewhere now with hkept | ⟨d, hd, hid, hpending', hended⟩
        · exact Or.inl (hkept.putCommand hc rfl rfl rfl)
        · refine Or.inr (.expired hd hid hpending' fun d' hd' hid' => ?_)
          rcases (Table.mem_put_iff hc hput).1 hd' with rfl | ⟨hd', -⟩
          · exact absurd (hended c hc hid') (by simp [hpending, liveStates])
          · exact hended d' hd' hid'
      · rcases (Table.mem_put_iff hc hput).1 hd with rfl | ⟨hd, hne⟩
        · obtain ⟨before, hbefore, hbeforePending, hgrows⟩ := wasPending_expire hc hkind hpending
          exact ⟨before, hbefore, hbeforePending, hgrows.id, hgrows.kind, hgrows.setupRunId,
            (fun h => by cases h), hgrows.sent⟩
        · rcases hstate with hdPending | hclaimed
          · exact wasPending_expire hd hkind hdPending
          · exact absurd (SetupOutcome.claimed.inj hclaimed).symm hne

/-- What the panel does, and the worker between two commands. -/
theorem setupQueueStep_awaitsMove (h : SetupRelayOk relay) (event : SetupEvent) :
    AwaitsMove relay event (setupQueueStep relay event).1 (setupQueueStep relay event).2 := by
  cases event with
  | startSetupRun now => exact .commit fun db' run hresult => startSetupRun_waitsKept hresult
  | retryReadingNode setupRunId =>
      simp only [setupQueueStep]
      split
      · exact .idle (by simp) rfl
      · split <;> exact .idle (by simp) rfl
  | retryCommitted now =>
      simp only [setupQueueStep]
      split
      · exact .idle (by simp) rfl
      · next setupRun hheld =>
          obtain ⟨hrow, hstate⟩ := h.held setupRun hheld
          exact .of_kept (by simp) (retryReadingNode_waitsKept hrow hstate)
  | confirmFactoryReset setupRunId typedConfirmation now =>
      simp only [setupQueueStep]
      split
      · exact .idle (by simp) rfl
      · exact .commit fun db' command hresult => confirmFactoryReset_waitsKept hresult
  | submitNodeConfiguration setupRunId requestedConfiguration now =>
      simp only [setupQueueStep]
      split
      · exact .idle (by simp) rfl
      · exact .commit fun db' command hresult => submitNodeConfiguration_waitsKept hresult
  | cancelSetupRun setupRunId now =>
      simp only [setupQueueStep]
      split
      · exact .idle (by simp) rfl
      · refine .commit fun db' _ hresult => ?_
        cases hcancel : cancelSetupRun relay.db setupRunId now with
        | error error =>
            rw [hcancel] at hresult
            cases hresult
        | ok db₁ =>
            rw [hcancel] at hresult
            obtain rfl := (Prod.mk.inj (Except.ok.inj hresult)).1
            exact cancelSetupRun_waitsKept hcancel
  | createNodeCommand kind now =>
      exact .of_kept (by simp [setupQueueStep]) (createNodeCommand_waitsKept kind now)
  | expirePendingNodeCommands lockedElsewhere now =>
      simp only [setupQueueStep]
      split
      · exact .idle (by simp) rfl
      · refine ⟨fun r commandId kind hkind hawaits => ?_, fun d hd hkind hstate => Or.inl ?_⟩
        · rcases hawaits.expire hkind lockedElsewhere now with
            hkept | ⟨d, hd, hid, hpending, hended⟩
          · exact Or.inl hkept
          · exact Or.inr (.expired hd hid hpending hended)
        · exact wasPending_expire hd hkind (by simpa using hstate)
  | deleteOldNodeCommands now =>
      simp only [setupQueueStep]
      split
      · exact .idle (by simp) rfl
      · next hkept =>
          exact .of_kept (by simp)
            (deleteOldNodeCommands_waitsKept h.db (Bool.eq_false_iff.2 hkept))
  | claimNextNodeCommand lockedElsewhere workerInstanceId now =>
      exact claim_awaitsMove lockedElsewhere workerInstanceId now
  | executorStops => exact .idle (by simp [setupQueueStep]) rfl
  | processStops => exact .idle (by simp [setupQueueStep]) rfl
  | interruptRunningNodeCommands now =>
      simp only [setupQueueStep]
      split
      · exact .idle (by simp) rfl
      · next hguard =>
          refine .end_ _ (by simpa using (not_or.1 hguard).1) (by simp)
            (show NodeCommandState.interrupted ∈ unsuccessfulStates by simp [unsuccessfulStates])
            (Table.pairwise_filter _ _) (fun c hc => (Table.mem_filter.1 hc).1) rfl
  | interruptLeftNodeCommand nodeCommandId now errorMessage =>
      simp only [setupQueueStep]
      split
      · exact .idle (by simp) rfl
      · next hguard =>
          exact finishNodeCommand_awaitsMove (by simpa using (not_or.1 hguard).1) (by simp) rfl
  | readModeInputs =>
      simp only [setupQueueStep]
      split <;> exact .idle (by simp) rfl
  | _ =>
      cases hrunning : relay.execution with
      | none =>
          simp only [setupQueueStep, hrunning]
          exact .idle (by simp) rfl
      | some execution =>
          simp only [setupQueueStep, hrunning]
          exact executionStep_awaitsMove hrunning _

/-- **Every event is such a step.** -/
theorem SetupRelayOk.awaitsMove (h : SetupRelayOk relay) (event : SetupEvent) :
    AwaitsMove relay event (HoptalkRelay.setupStep relay event).1
      (HoptalkRelay.setupStep relay event).2 := by
  unfold HoptalkRelay.setupStep
  split
  · exact .idle (by simp) rfl
  · exact setupQueueStep_awaitsMove h event

end Events

/-! ### Commands that own the node -/

/-- **The commands that own the node have a run that waits for them**: a pending one, and one that
runs and whose run was not told. -/
structure CommandsOwned (relay : SetupRelay) : Prop where
  pending : ∀ c ∈ relay.db.commands, c.kind ∈ owningCommandKinds → c.state = .pending →
    relay.db.IsAwaited c
  executing : ∀ execution, relay.execution = some execution →
    execution.kind ∈ owningCommandKinds → execution.outcomeRecorded = false →
      ∀ setupRunId, execution.setupRunId = some setupRunId →
        (relay.db.view setupRunId).Awaits execution.commandId execution.kind
  started : ∀ execution, relay.execution = some execution →
    ∀ c ∈ relay.db.commands, c.id = execution.commandId → c.state ≠ .pending

section Owned

variable {relay : SetupRelay}

theorem running_of_claimed {db db' : SetupDb} {event : SetupEvent} {commandId : ℕ}
    (h : SetupMove event db db' (.claimed commandId)) {c : NodeCommand} (hc : c ∈ db'.commands)
    (hid : c.id = commandId) : c.state = .running := by
  obtain ⟨-, -, -, -, row, hrow, hrowId, hrunning, -⟩ := h.claimed_running
  have hkey : key c = key row := hid.trans hrowId.symm
  rw [Table.eq_of_key_eq hc hrow hkey]
  exact hrunning

/-- **Every step keeps it**, where a handler reports once. -/
theorem CommandsOwned.step (h : CommandsOwned relay) (hok : SetupRelayOk relay) (event : SetupEvent)
    (honce : event.isReport = true → ∀ execution, relay.execution = some execution →
      execution.outcomeRecorded = false) :
    CommandsOwned (setupStep relay event).1 := by
  have hmove := hok.setupStep event
  have hwaits := hok.awaitsMove event
  have hok' := hok.step hmove
  generalize HoptalkRelay.setupStep relay event = step at hmove hwaits hok' ⊢
  obtain ⟨relay', outcome⟩ := step
  dsimp only at hmove hwaits hok' ⊢
  -- a command that was pending is still awaited when it is pending or claimed now
  have hawaited : ∀ c ∈ relay'.db.commands, c.kind ∈ owningCommandKinds →
      (c.state = .pending ∨ outcome = .claimed c.id ∧ c.state = .running ∧
        ∃ execution, relay'.execution = some execution ∧ execution.outcomeRecorded = false) →
      relay'.db.IsAwaited c := by
    intro c hc hkind hstate r hrun
    have hlive : c.state ∈ liveStates := by
      rcases hstate with hpending | ⟨-, hrunning, -⟩
      · simp [hpending, liveStates]
      · simp [hrunning, liveStates]
    rcases hwaits.created c hc hkind (hstate.imp_right And.left) with
      ⟨before, hbefore, hpending, hgrows⟩ | hcreated
    · have hold := h.pending before hbefore (hgrows.kind ▸ hkind) hpending r
        (hgrows.setupRunId.symm.trans hrun)
      rw [← hgrows.id, ← hgrows.kind] at hold
      rcases hwaits.kept r c.id c.kind hkind hold with hkept | hends
      · exact hkept
      · cases hends with
        | expired _ _ _ hrow => exact absurd hlive (hrow c hc rfl)
        | ended hidle hrow =>
            rcases hstate with hpending' | ⟨-, -, execution, hexecution, -⟩
            · exact absurd hpending' (hrow c hc rfl)
            · rw [hidle] at hexecution
              cases hexecution
        | @told execution hreport hexecution hown hrun' _ =>
            -- the run waits for the handler's command, which is not pending
            have htold := h.executing execution hexecution hown (honce hreport _ hexecution) r hrun'
            exact absurd hpending (h.started execution hexecution before hbefore
              (hgrows.id.symm.trans (hold.inj htold)))
    · exact hcreated r hrun
  refine ⟨fun c hc hkind hpending => hawaited c hc hkind (Or.inl hpending),
    fun execution hexecution hkind hunrecorded r hrun => ?_,
    fun execution hexecution c hc hid => ?_⟩
  · cases hmove.executing execution hexecution with
    | kept hbefore =>
        rcases hwaits.kept r _ _ hkind (h.executing execution hbefore hkind hunrecorded r hrun) with
          hkept | hends
        · exact hkept
        · cases hends with
          | expired hc hid hpending => exact absurd hpending (h.started execution hbefore _ hc hid)
          | ended hidle =>
              rw [hidle] at hexecution
              cases hexecution
          | told _ _ _ _ htold =>
              rw [htold] at hexecution
              rw [← Option.some.inj hexecution] at hunrecorded
              cases hunrecorded
    | told => cases hunrecorded
    | @keyRead before hbefore hdb =>
        rw [hdb]
        exact h.executing before hbefore hkind hunrecorded r hrun
    | @claimed c hc houtcome =>
        refine hawaited c hc hkind (Or.inr ⟨houtcome, ?_, _, hexecution, rfl⟩) r hrun
        exact running_of_claimed (houtcome ▸ hmove.db) hc rfl
  · cases hmove.executing execution hexecution with
    | kept hbefore =>
        rcases hmove.db.grows.later c hc with ⟨before, hmem, hgrows⟩ | hnew
        · intro hpending
          exact h.started execution hbefore before hmem (hgrows.id.symm.trans hid)
            (hgrows.pending hpending)
        · exact absurd (hid ▸ hnew) (not_le.2 (hok.executing execution hbefore).old)
    | @told before hbefore =>
        rcases hmove.db.grows.later c hc with ⟨row, hmem, hgrows⟩ | hnew
        · intro hpending
          exact h.started before hbefore row hmem (hgrows.id.symm.trans hid)
            (hgrows.pending hpending)
        · exact absurd (hid ▸ hnew) (not_le.2 (hok.executing before hbefore).old)
    | @keyRead before hbefore hdb =>
        rw [hdb] at hc
        exact h.started before hbefore c hc hid
    | @claimed d hd houtcome =>
        rw [running_of_claimed (houtcome ▸ hmove.db) hc hid]
        simp

theorem commandsOwned_start (contacts : Table Contact) : CommandsOwned (.start contacts) := by
  refine ⟨fun c hc => ?_, fun execution hexecution => ?_, fun execution hexecution => ?_⟩
  · cases Table.not_mem_empty c hc
  · cases hexecution
  · cases hexecution

end Owned

end HoptalkRelay
