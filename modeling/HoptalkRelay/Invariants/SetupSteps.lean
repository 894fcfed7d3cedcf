/-
**The steps of the setup wizard.**

Every step makes moves, claims a command, cancels a run, begins a restore or completes a run.  Each
keeps the runs and the queue in agreement: a waiting run has its command, the active run is the last
one, and one command is running at most.  What a handler was told about the command it runs stays
true, and so does what the command's progress names.

Main definitions:

* `HoptalkRelay.SetupOk` — **the runs and the queue agree**;
* `HoptalkRelay.SetupMove` — what a step does to the database;
* `HoptalkRelay.ExecutionOk`, `HoptalkRelay.SentNoted` — the command under way.

Main results:

* `HoptalkRelay.ViewMove.row` — a run is neither ended nor opened by a move;
* `HoptalkRelay.SetupOk.step` — **every step keeps the agreement**;
* `HoptalkRelay.ExecutionOk.step`, `HoptalkRelay.SentNoted.grow` — and what was told.
-/

import HoptalkRelay.Invariants.SetupTransactions
import HoptalkRelay.SetupRelay

set_option relaxedAutoImplicit false
set_option autoImplicit false

namespace HoptalkRelay

open Relational

/-! ### The rows of the runs -/

/-- A later row of the same run, neither cancelled nor completed in between. -/
structure RunFollows (run run' : NodeSetupRun) : Prop where
  restored : run'.restoredPublicKey = run.restoredPublicKey
  ended : run.state ∈ setupRunFinalStates → run' = run
  open_ : run.state ∉ setupRunFinalStates → run'.state ∉ setupRunFinalStates

section Rows

variable {v w : RunView} {nextKey : ℕ} {run run' run'' : NodeSetupRun}

theorem RunFollows.refl (run : NodeSetupRun) : RunFollows run run :=
  ⟨rfl, fun _ => rfl, fun h => h⟩

theorem RunFollows.trans (h : RunFollows run run') (h' : RunFollows run' run'') :
    RunFollows run run'' := by
  refine ⟨h'.restored.trans h.restored, fun hended => ?_, fun hopen => h'.open_ (h.open_ hopen)⟩
  have hsame := h.ended hended
  exact (h'.ended (hsame ▸ hended)).trans hsame

/-- A run that moves between states that are not final. -/
theorem RunFollows.of_open (hrestored : run'.restoredPublicKey = run.restoredPublicKey)
    (hstate : run.state ∉ setupRunFinalStates) (hstate' : run'.state ∉ setupRunFinalStates) :
    RunFollows run run' :=
  ⟨hrestored, fun h => absurd h hstate, fun _ => hstate'⟩

theorem RunAsks.follows {kind : NodeCommandKind} (h : RunAsks run kind run') :
    RunFollows run run' := by
  cases h with
  | retried hstate => exact .of_open rfl (by rw [hstate]; decide) (hstate ▸ by decide)
  | confirmed hstate =>
      exact .of_open rfl (by rw [hstate]; decide) (show SetupRunState.resetting ∉ _ by decide)
  | submitted hstate =>
      exact .of_open rfl (by rw [hstate]; decide) (show SetupRunState.configuring ∉ _ by decide)

theorem RunReported.follows (h : RunReported run run') : RunFollows run run' := by
  cases h with
  | informationRead hstate =>
      exact .of_open rfl (by rw [hstate]; decide)
        (show SetupRunState.awaitingResetConfirmation ∉ _ by decide)
  | resetDone hstate =>
      refine .of_open rfl ?_ (show SetupRunState.awaitingConfiguration ∉ _ by decide)
      rcases hstate with hstate | hstate <;> rw [hstate] <;> decide

theorem RunFellBack.follows {command : NodeCommand} (h : RunFellBack command run run') :
    RunFollows run run' := by
  cases h with
  | readFailed hkind hstate => exact .of_open rfl (by rw [hstate]; decide) (hstate ▸ by decide)
  | resetFailed hkind hstate =>
      exact .of_open rfl (by rw [hstate]; decide)
        (show SetupRunState.awaitingResetConfirmation ∉ _ by decide)
  | configurationFailed hkind hstate =>
      exact .of_open rfl (by rw [hstate]; decide)
        (show SetupRunState.awaitingConfiguration ∉ _ by decide)

theorem QueueMove.row (h : QueueMove nextKey v w) (hrow : v.1 = some run) :
    ∃ run', w.1 = some run' ∧ RunFollows run run' := by
  cases h with
  | claimed => exact ⟨run, hrow, .refl run⟩
  | endedBeside => exact ⟨run, hrow, .refl run⟩
  | fellBack hid hold hkind hprogress hended hchange =>
      obtain rfl := Option.some.inj hrow
      exact ⟨_, rfl, hchange.follows⟩
  | readAgain hold hstate =>
      obtain rfl := Option.some.inj hrow
      exact ⟨_, rfl, .of_open rfl (by rw [hstate]; decide)
        (show SetupRunState.readingNode ∉ _ by decide)⟩

theorem QueueMoves.row (h : QueueMoves nextKey v w) (hrow : v.1 = some run) :
    ∃ run', w.1 = some run' ∧ RunFollows run run' := by
  induction h with
  | refl => exact ⟨run, hrow, .refl run⟩
  | tail _ hmove ih =>
      obtain ⟨run', hrow', hfollows⟩ := ih
      obtain ⟨run'', hrow'', hfollows'⟩ := hmove.row hrow'
      exact ⟨run'', hrow'', hfollows.trans hfollows'⟩

/-- **A run stays**, and it is neither ended nor opened again. -/
theorem ViewMove.row (h : ViewMove nextKey v w) (hrow : v.1 = some run) :
    ∃ run', w.1 = some run' ∧ RunFollows run run' := by
  cases h with
  | queue moves => exact moves.row hrow
  | started => cases hrow
  | asked hchange =>
      obtain rfl := Option.some.inj hrow
      exact ⟨_, rfl, hchange.follows⟩
  | reported hchange =>
      obtain rfl := Option.some.inj hrow
      exact ⟨_, rfl, hchange.follows⟩
  | progressed => exact ⟨run, hrow, .refl run⟩
  | pruned => exact ⟨run, hrow, .refl run⟩

end Rows

/-! ### The database -/

/-- **The runs and the queue agree.** -/
structure SetupOk (db : SetupDb) : Prop where
  views : ∀ setupRunId, ViewOk (db.view setupRunId)
  /-- The active run is the last one. -/
  activeLast : ∀ run ∈ db.runs, run.isActive = true → ∀ other ∈ db.runs, other.id ≤ run.id
  oneRunning : ∀ c ∈ db.commands, ∀ d ∈ db.commands, c.state = .running → d.state = .running →
    c = d

section Database

variable {db db' : SetupDb} {setupRunId : ℕ} {run run' : NodeSetupRun}

theorem setupOk_empty (contacts : Table Contact) : SetupOk (.empty contacts) := by
  refine ⟨fun setupRunId => ⟨fun run hrun => ?_, fun run kind hrun => ?_⟩,
    fun run hrun => ?_, fun c hc => ?_⟩
  · cases hrun
  · cases hrun
  · cases Table.not_mem_empty run hrun
  · cases Table.not_mem_empty c hc

theorem CommandsFollow.oneRunning (h : CommandsFollow db db')
    (hone : ∀ c ∈ db.commands, ∀ d ∈ db.commands, c.state = .running → d.state = .running → c = d) :
    ∀ c ∈ db'.commands, ∀ d ∈ db'.commands, c.state = .running → d.state = .running → c = d := by
  have hbefore : ∀ c' ∈ db'.commands, c'.state = .running →
      ∃ c ∈ db.commands, c.state = .running ∧ c'.id = c.id := by
    intro c' hc' hrunning
    rcases h.later c' hc' with ⟨c, hc, hfollows⟩ | ⟨-, hidle⟩
    · exact ⟨c, hc, hfollows.running hrunning, hfollows.id⟩
    · exact absurd hrunning hidle
  intro c' hc' d' hd' hc'Running hd'Running
  obtain ⟨c, hc, hcRunning, hcId⟩ := hbefore c' hc' hc'Running
  obtain ⟨d, hd, hdRunning, hdId⟩ := hbefore d' hd' hd'Running
  have hsame := hone c hc d hd hcRunning hdRunning
  exact Table.eq_of_key_eq hc' hd' (hcId.trans ((congrArg _ hsame).trans hdId.symm))

/-- An active run is one whose state is not final. -/
theorem SetupOk.isActive_iff (h : SetupOk db) (hrow : db.runs.get? setupRunId = some run) :
    run.isActive = true ↔ run.state ∉ setupRunFinalStates := by
  rw [(h.views setupRunId).active run hrow]
  simp

theorem SetupOk.moved {touched : Set ℕ} (h : SetupOk db) (hmoved : SetupMoved touched db db') :
    SetupOk db' := by
  have hviews : ∀ setupRunId, ViewOk (db'.view setupRunId) :=
    fun setupRunId => (h.views setupRunId).step (hmoved.views setupRunId)
  refine ⟨hviews, fun run' hrun' hactive' other' hother' => ?_,
    hmoved.commands.oneRunning h.oneRunning⟩
  have hrow' : db'.runs.get? run'.id = some run' := Table.get?_key hrun'
  have hotherRow' : db'.runs.get? other'.id = some other' := Table.get?_key hother'
  cases hrow : db.runs.get? run'.id with
  | none =>
      obtain ⟨hnew, -⟩ := hmoved.started run'.id hrow (by rw [hrow']; rfl)
      cases hother : db.runs.get? other'.id with
      | none =>
          obtain ⟨hotherNew, -⟩ := hmoved.started other'.id hother (by rw [hotherRow']; rfl)
          exact le_of_eq (hotherNew.trans hnew.symm)
      | some other =>
          have hbelow := Table.lt_nextKey_of_isSome (Option.isSome_iff_exists.2 ⟨other, hother⟩)
          omega
  | some run =>
      obtain ⟨run₁, hrun₁, hfollows⟩ :=
        (hmoved.views run'.id).row (show (db.view _).1 = _ from hrow)
      obtain rfl := Option.some.inj (hrow'.symm.trans hrun₁)
      have hactive : run.isActive = true := by
        rw [h.isActive_iff hrow]
        intro hended
        rw [hfollows.ended hended, h.isActive_iff hrow] at hactive'
        exact hactive' hended
      cases hother : db.runs.get? other'.id with
      | none =>
          obtain ⟨-, hinactive⟩ := hmoved.started other'.id hother (by rw [hotherRow']; rfl)
          rw [hinactive run (Table.mem_of_get? hrow)] at hactive
          cases hactive
      | some other =>
          have hle := h.activeLast run (Table.mem_of_get? hrow) hactive other
            (Table.mem_of_get? hother)
          have hrunId : run.id = run'.id := Table.key_of_get? hrow
          have hotherId : other.id = other'.id := Table.key_of_get? hother
          omega

/-- The row of one run is replaced by one that is not active unless it was. -/
theorem SetupOk.replaced (h : SetupOk db) (hreplaced : RowReplaced db db' setupRunId run run')
    (hview : ViewOk (db'.view setupRunId)) (hactive : run'.isActive = true → run.isActive = true) :
    SetupOk db' := by
  have hbefore : ∀ x' ∈ db'.runs, ∃ x ∈ db.runs, x.id = x'.id ∧
      (x'.isActive = true → x.isActive = true) := by
    intro x' hx'
    have hrow' : db'.runs.get? x'.id = some x' := Table.get?_key hx'
    by_cases hid : x'.id = setupRunId
    · have hrow := hreplaced.row
      have hsame := Option.some.inj ((hid ▸ hrow').symm.trans hreplaced.row')
      exact ⟨run, Table.mem_of_get? hrow, (Table.key_of_get? hrow).trans hid.symm,
        hsame ▸ hactive⟩
    · have hrow : db.runs.get? x'.id = some x' :=
        (congrArg Prod.fst (hreplaced.others x'.id hid)).symm.trans hrow'
      exact ⟨x', Table.mem_of_get? hrow, rfl, fun h => h⟩
  refine ⟨fun other => ?_, fun x' hx' hx'Active y' hy' => ?_,
    hreplaced.commands.oneRunning h.oneRunning⟩
  · by_cases hid : other = setupRunId
    · rw [hid]
      exact hview
    · rw [hreplaced.others other hid]
      exact h.views other
  · obtain ⟨x, hx, hxId, hxActive⟩ := hbefore x' hx'
    obtain ⟨y, hy, hyId, -⟩ := hbefore y' hy'
    have hle := h.activeLast x hx (hxActive hx'Active) y hy
    omega

/-- A run that ends. -/
theorem SetupOk.ended (h : SetupOk db) {newState : SetupRunState} {now : Time}
    {lastError : Option Text}
    (hreplaced : RowReplaced db db' setupRunId run (run.moved newState now lastError))
    (hfinal : newState ∈ setupRunFinalStates) : SetupOk db' := by
  have hinactive : (run.moved newState now lastError).isActive = false := by
    simpa [NodeSetupRun.moved] using hfinal
  refine h.replaced hreplaced ?_ fun hactive => absurd hactive (by rw [hinactive]; simp)
  rw [show db'.view setupRunId = (some _, _) from Prod.ext hreplaced.row' rfl]
  refine viewOk_of_not_waiting rfl ?_
  show newState.awaitedKind = none
  cases newState <;> first | rfl | simp [setupRunFinalStates] at hfinal

/-- A run that begins a restore. -/
theorem SetupOk.restored (h : SetupOk db) {restoredPublicKey : Text}
    (hreported : Reported db db' setupRunId run { run with restoredPublicKey }) : SetupOk db' := by
  refine h.replaced hreported.toRowReplaced ?_ fun hactive => hactive
  have hview := h.views setupRunId
  rw [show db.view setupRunId = (some run, _) from Prod.ext hreported.row rfl] at hview
  rw [show db'.view setupRunId = (some _, _) from Prod.ext hreported.row' hreported.latest]
  refine ⟨fun other hother => ?_, fun other kind hother hawaited => ?_⟩
  · obtain rfl := Option.some.inj hother
    exact hview.active run rfl
  · obtain rfl := Option.some.inj hother
    exact hview.waits run kind rfl hawaited

/-- A pending command is claimed where none is running. -/
theorem SetupOk.claimed (h : SetupOk db) {c : NodeCommand} (hc : c ∈ db.commands)
    (hpending : c.state = .pending) (hidle : ∀ row ∈ db.commands, row.state ≠ .running)
    (workerInstanceId : ℕ) (now : Time) :
    SetupOk (db.putCommand (c.claimed workerInstanceId now)) := by
  refine ⟨fun setupRunId => ?_, h.activeLast, fun x hx y hy hxRunning hyRunning => ?_⟩
  · rw [@view_putCommand db setupRunId (c.claimed workerInstanceId now) c hc rfl rfl]
    split
    · next hlatest =>
        have hview := h.views setupRunId
        rw [show db.view setupRunId = (db.runs.get? setupRunId, some c) from
          Prod.ext rfl hlatest] at hview ⊢
        exact hview.queueMove (show QueueMove 0 _ _ from .claimed rfl rfl rfl hpending rfl)
    · exact h.views setupRunId
  · have hput : ∀ z ∈ (db.putCommand (c.claimed workerInstanceId now)).commands,
        z.state = .running → z = c.claimed workerInstanceId now := by
      intro z hz hzRunning
      rcases (Table.mem_put_iff hc (show key (c.claimed workerInstanceId now) = key c from rfl)).1
        hz with hz | ⟨hz, -⟩
      · exact hz
      · exact absurd hzRunning (hidle z hz)
    rw [hput x hx hxRunning, hput y hy hyRunning]

end Database

/-! ### What a step does -/

/-- What was answered neither claims, restores nor completes. -/
def SetupOutcome.isPlain : SetupOutcome → Bool
  | .done | .refused _ | .loaded _ => true
  | .claimed _ | .restoreStarted _ _ | .completed _ => false

/-- **What a step does to the database.** -/
inductive SetupMove (event : SetupEvent) (db : SetupDb) : SetupDb → SetupOutcome → Prop
  | moved {touched : Set ℕ} {db' : SetupDb} {outcome : SetupOutcome}
      (hmoved : SetupMoved touched db db') (hplain : outcome.isPlain = true) :
      SetupMove event db db' outcome
  | claimed {touched : Set ℕ} {db' : SetupDb} {c : NodeCommand} {lockedElsewhere : List ℕ}
      {workerInstanceId : ℕ} {now : Time}
      (hevent : event = .claimNextNodeCommand lockedElsewhere workerInstanceId now)
      (hmoved : SetupMoved touched db db') (hc : c ∈ db'.commands) (hpending : c.state = .pending)
      (htime : now < c.expiresAt) (hidle : ∀ row ∈ db'.commands, row.state ≠ .running) :
      SetupMove event db (db'.putCommand (c.claimed workerInstanceId now)) (.claimed c.id)
  | cancelled {db' : SetupDb} {setupRunId : ℕ} {run : NodeSetupRun} {now : Time}
      (hevent : event = .cancelSetupRun setupRunId now)
      (hreplaced : RowReplaced db db' setupRunId run (run.moved .abandoned now none))
      (hstate : run.state ∈ cancellableStates)
      (hkept : SetupKept db db') :
      SetupMove event db db' .done
  | restored {db' : SetupDb} {setupRunId : ℕ} {run : NodeSetupRun} {restoredPublicKey : Text}
      (hreported : Reported db db' setupRunId run { run with restoredPublicKey })
      (hstate : run.state = .configuring) :
      SetupMove event db db' (.restoreStarted setupRunId restoredPublicKey)
  | completed {db' : SetupDb} {setupRunId : ℕ} {run : NodeSetupRun} {now : Time}
      (hreplaced : RowReplaced db db' setupRunId run (run.moved .completed now (some [])))
      (hstate : run.state = .configuring) : SetupMove event db db' (.completed setupRunId)

section Move

variable {event : SetupEvent} {db db' : SetupDb} {outcome : SetupOutcome}

theorem SetupMove.refl (hplain : outcome.isPlain = true) : SetupMove event db db outcome :=
  .moved (.refl ∅ db) hplain

/-- **Every step keeps the runs and the queue in agreement.** -/
theorem SetupOk.step (h : SetupOk db) (hmove : SetupMove event db db' outcome) : SetupOk db' := by
  cases hmove with
  | moved hmoved => exact h.moved hmoved
  | claimed hevent hmoved hc hpending htime hidle =>
      exact (h.moved hmoved).claimed hc hpending hidle _ _
  | cancelled hevent hreplaced => exact h.ended hreplaced (by simp [setupRunFinalStates])
  | restored hreported => exact h.restored hreported
  | completed hreplaced => exact h.ended hreplaced (by simp [setupRunFinalStates])

/-- A later row of the same command. -/
structure CommandGrows (c c' : NodeCommand) : Prop where
  id : c'.id = c.id
  kind : c'.kind = c.kind
  setupRunId : c'.setupRunId = c.setupRunId
  pending : c'.state = .pending → c.state = .pending
  sent : factoryResetFrameMayHaveBeenSent c = true → factoryResetFrameMayHaveBeenSent c' = true

/-- Every command is a later row of one that was there, or a new one. -/
structure CommandsGrow (db db' : SetupDb) : Prop where
  nextKey : db.commands.nextKey ≤ db'.commands.nextKey
  later : ∀ c' ∈ db'.commands, (∃ c ∈ db.commands, CommandGrows c c') ∨
    db.commands.nextKey ≤ c'.id

theorem CommandsFollow.grows (h : CommandsFollow db db') : CommandsGrow db db' := by
  refine ⟨h.nextKey, fun c' hc' => ?_⟩
  rcases h.later c' hc' with ⟨c, hc, hfollows⟩ | ⟨hnew, -⟩
  · exact Or.inl ⟨c, hc, hfollows.id, hfollows.kind, hfollows.setupRunId, hfollows.pending,
      hfollows.sent⟩
  · exact Or.inr hnew

theorem SetupMove.grows (h : SetupMove event db db' outcome) : CommandsGrow db db' := by
  cases h with
  | moved hmoved => exact hmoved.commands.grows
  | @claimed _ db' c lockedElsewhere workerInstanceId now hevent hmoved hc =>
      refine ⟨hmoved.commands.nextKey, fun c' hc' => ?_⟩
      have hkey : key (c.claimed workerInstanceId now) = key c := rfl
      rcases (Table.mem_put_iff hc hkey).1 hc' with rfl | ⟨hc', -⟩
      · rcases hmoved.commands.grows.later c hc with ⟨c₀, hc₀, hgrows⟩ | hnew
        · exact Or.inl ⟨c₀, hc₀, hgrows.id, hgrows.kind, hgrows.setupRunId,
            (fun h => by cases h), hgrows.sent⟩
        · exact Or.inr hnew
      · exact hmoved.commands.grows.later c' hc'
  | cancelled hevent hreplaced => exact hreplaced.commands.grows
  | restored hreported => exact hreported.commands.grows
  | completed hreplaced => exact hreplaced.commands.grows

end Move

/-! ### A command that is executed -/

/-- The command is not one that its run waits for. -/
def RunView.NotAwaiting (v : RunView) (commandId : ℕ) (kind : NodeCommandKind) : Prop :=
  ∀ run c, v.1 = some run → v.2 = some c → c.id = commandId → run.state.awaitedKind ≠ some kind

section NotAwaiting

variable {v w : RunView} {nextKey commandId : ℕ} {kind : NodeCommandKind} {run : NodeSetupRun}

theorem notAwaiting_of_none {latest : Option NodeCommand} (hnone : run.state.awaitedKind = none) :
    RunView.NotAwaiting (some run, latest) commandId kind := by
  intro other c hother _ _
  obtain rfl := Option.some.inj hother
  rw [hnone]
  simp

theorem notAwaiting_of_new {row : Option NodeSetupRun} {c : NodeCommand}
    (hold : commandId < nextKey) (hnew : nextKey ≤ c.id) :
    RunView.NotAwaiting (row, some c) commandId kind := by
  intro other d _ hd hid
  obtain rfl := Option.some.inj hd
  omega

theorem RunView.NotAwaiting.queueMove (h : v.NotAwaiting commandId kind)
    (hold : commandId < nextKey) (hmove : QueueMove nextKey v w) :
    w.NotAwaiting commandId kind := by
  cases hmove with
  | claimed hid =>
      intro run c hrun hc hsame
      obtain rfl := Option.some.inj hc
      exact h run _ hrun rfl (hid.symm.trans hsame)
  | endedBeside hid =>
      intro run c hrun hc hsame
      obtain rfl := Option.some.inj hc
      exact h run _ hrun rfl (hid.symm.trans hsame)
  | @fellBack run run' command ended hid _ _ _ _ hchange =>
      cases hchange with
      | readFailed hread hstate =>
          intro other c hother hc hsame
          obtain rfl := Option.some.inj hother
          obtain rfl := Option.some.inj hc
          exact h run command rfl rfl (hid.symm.trans hsame)
      | resetFailed => exact notAwaiting_of_none rfl
      | configurationFailed => exact notAwaiting_of_none rfl
  | readAgain _ _ _ _ _ _ hnew => exact notAwaiting_of_new hold hnew

theorem RunView.NotAwaiting.viewMove (h : v.NotAwaiting commandId kind) (hok : ViewOk v)
    (hold : commandId < nextKey) (hmove : ViewMove nextKey v w) :
    w.NotAwaiting commandId kind := by
  cases hmove with
  | queue moves =>
      induction moves with
      | refl => exact h
      | tail _ hmove ih => exact ih.queueMove hold hmove
  | started _ _ _ _ hnew => exact notAwaiting_of_new hold hnew
  | asked _ _ _ hnew => exact notAwaiting_of_new hold hnew
  | reported hchange => cases hchange <;> exact notAwaiting_of_none rfl
  | progressed =>
      intro run c hrun hc hsame
      obtain rfl := Option.some.inj hc
      exact h run _ hrun rfl hsame
  | pruned hinactive =>
      intro run c hrun _ _ hawaited
      have hactive := hok.active run hrun
      rw [hinactive run hrun] at hactive
      cases hstate : run.state <;> rw [hstate] at hactive hawaited <;>
        first | (cases hactive; done) | cases hawaited

end NotAwaiting

/-- **The command under way**, as its handler sees it. -/
structure ExecutionOk (db : SetupDb) (execution : CommandExecution) : Prop where
  old : execution.commandId < db.commands.nextKey
  row : ∀ c ∈ db.commands, c.id = execution.commandId →
    c.kind = execution.kind ∧ c.setupRunId = execution.setupRunId
  told : execution.outcomeRecorded = true → ∀ setupRunId, execution.setupRunId = some setupRunId →
    (db.view setupRunId).NotAwaiting execution.commandId execution.kind

/-- The progress of the command names the reset frame. -/
structure SentNoted (db : SetupDb) (commandId : ℕ) : Prop where
  old : commandId < db.commands.nextKey
  noted : ∀ c ∈ db.commands, c.id = commandId → factoryResetFrameMayHaveBeenSent c = true

section Execution

variable {event : SetupEvent} {db db' : SetupDb} {outcome : SetupOutcome}
  {execution : CommandExecution} {commandId : ℕ}

theorem SentNoted.grow (h : SentNoted db commandId) (hgrow : CommandsGrow db db') :
    SentNoted db' commandId := by
  refine ⟨h.old.trans_le hgrow.nextKey, fun c' hc' hid => ?_⟩
  rcases hgrow.later c' hc' with ⟨c, hc, hgrows⟩ | hnew
  · exact hgrows.sent (h.noted c hc (hgrows.id.symm.trans hid))
  · exact absurd (hid ▸ hnew) (not_le.2 h.old)

/-- A run that is replaced by one that waits for none. -/
theorem notAwaiting_replaced {setupRunId commandId : ℕ} {kind : NodeCommandKind}
    {run run' : NodeSetupRun} (hreplaced : RowReplaced db db' setupRunId run run')
    (hnone : run'.state.awaitedKind = none) (other : ℕ)
    (h : (db.view other).NotAwaiting commandId kind) :
    (db'.view other).NotAwaiting commandId kind := by
  by_cases hid : other = setupRunId
  · rw [hid, show db'.view setupRunId = (some run', _) from Prod.ext hreplaced.row' rfl]
    exact notAwaiting_of_none hnone
  · rw [hreplaced.others other hid]
    exact h

/-- A step keeps what was told. -/
theorem SetupMove.notAwaiting {kind : NodeCommandKind} (hok : SetupOk db)
    (hold : commandId < db.commands.nextKey) (hmove : SetupMove event db db' outcome)
    (setupRunId : ℕ) (h : (db.view setupRunId).NotAwaiting commandId kind) :
    (db'.view setupRunId).NotAwaiting commandId kind := by
  cases hmove with
  | moved hmoved => exact h.viewMove (hok.views setupRunId) hold (hmoved.views setupRunId)
  | @claimed _ db' c lockedElsewhere workerInstanceId now hevent hmoved hc =>
      have h' := h.viewMove (hok.views setupRunId) hold (hmoved.views setupRunId)
      rw [@view_putCommand db' setupRunId (c.claimed workerInstanceId now) c hc rfl rfl]
      split
      · next hlatest =>
          intro run d hrun hd hsame
          obtain rfl := Option.some.inj hd
          exact h' run c hrun hlatest hsame
      · exact h'
  | cancelled hevent hreplaced => exact notAwaiting_replaced hreplaced rfl setupRunId h
  | @restored db' runId run restoredPublicKey hreported =>
      by_cases hid : setupRunId = runId
      · subst hid
        intro other c hother hc hsame
        obtain rfl := Option.some.inj (hreported.row'.symm.trans hother)
        exact h run c hreported.row (hreported.latest.symm.trans hc) hsame
      · rw [hreported.others setupRunId hid]
        exact h
  | completed hreplaced => exact notAwaiting_replaced hreplaced rfl setupRunId h

theorem ExecutionOk.step (h : ExecutionOk db execution) (hok : SetupOk db)
    (hmove : SetupMove event db db' outcome) : ExecutionOk db' execution := by
  have hgrow := hmove.grows
  refine ⟨h.old.trans_le hgrow.nextKey, fun c' hc' hid => ?_, fun htold setupRunId hrun => ?_⟩
  · rcases hgrow.later c' hc' with ⟨c, hc, hgrows⟩ | hnew
    · obtain ⟨hkind, hrun⟩ := h.row c hc (hgrows.id.symm.trans hid)
      exact ⟨hgrows.kind.trans hkind, hgrows.setupRunId.trans hrun⟩
    · exact absurd (hid ▸ hnew) (not_le.2 h.old)
  · exact hmove.notAwaiting hok h.old setupRunId (h.told htold setupRunId hrun)

end Execution

end HoptalkRelay
