/-
**Commands that end, and their runs.**

A command that ends unsuccessfully moves at most its run, and that only while it is the run's latest
command.  The commands themselves only grow older: no end makes a command pending or running again.

Main definitions:

* `HoptalkRelay.FallBack` — what becomes of the run of a command that did not succeed;
* `HoptalkRelay.CommandsFollow` — every command is a later row of one that was there, or a new one.

Main results:

* `HoptalkRelay.view_putRun`, `HoptalkRelay.view_putCommand`,
  `HoptalkRelay.view_createNodeCommand` — a run and its latest command after a write;
* `HoptalkRelay.endNodeCommands_moves` — **the commands of a list end**, one after the other.
-/

import HoptalkRelay.Invariants.SetupViews

set_option relaxedAutoImplicit false
set_option autoImplicit false

namespace HoptalkRelay

open Relational

/-! ### The views after a write -/

section Views

variable {db : SetupDb} {setupRunId : ℕ} {run : NodeSetupRun} {command : NodeCommand}

theorem view_putRun {setupRun : NodeSetupRun} (hrun : db.runs.get? setupRun.id = some run) :
    (db.putRun setupRun).view setupRunId =
      if setupRunId = setupRun.id then
        (some setupRun, findLatestSetupRunCommand db setupRun.id)
      else db.view setupRunId := by
  unfold SetupDb.view SetupDb.putRun
  dsimp only
  rw [Table.get?_put, key_setupRun]
  by_cases hid : setupRunId = setupRun.id
  · subst hid
    rw [if_pos rfl, if_pos rfl, hrun]
    rfl
  · rw [if_neg hid, if_neg hid]
    rfl

theorem view_createNodeCommand (kind : NodeCommandKind) (now : Time) (newRunId : Option ℕ) :
    (createNodeCommand db kind now newRunId).1.view setupRunId =
      ((db.view setupRunId).1,
        if newRunId = some setupRunId then
          some (buildNodeCommand kind now newRunId db.commands.nextKey)
        else (db.view setupRunId).2) :=
  Prod.ext rfl (latest_createNodeCommand kind now newRunId)

theorem view_putCommand {old : NodeCommand} (hold : old ∈ db.commands)
    (hid : command.id = old.id) (hrun : command.setupRunId = old.setupRunId) :
    (db.putCommand command).view setupRunId =
      if findLatestSetupRunCommand db setupRunId = some old then
        ((db.view setupRunId).1, some command)
      else db.view setupRunId := by
  have hlatest : findLatestSetupRunCommand (db.putCommand command) setupRunId = _ :=
    latest_putCommand hrun hold hid
  refine Prod.ext ?_ (hlatest.trans ?_)
  · split <;> rfl
  · split
    · next h => simp [h, hid]
    · next h =>
        show _ = findLatestSetupRunCommand db setupRunId
        cases hfound : findLatestSetupRunCommand db setupRunId with
        | none => rfl
        | some other =>
            have hne : other.id ≠ command.id := fun heq =>
              h (hfound.trans (congrArg some
                (Table.eq_of_key_eq (mem_of_latest hfound).1 hold (heq.trans hid))))
            rw [Option.map_some, if_neg hne]

theorem describeUnsuccessfulSetupCommand_ne_nil (nodeCommand : NodeCommand) :
    describeUnsuccessfulSetupCommand nodeCommand ≠ [] := by
  intro h
  cases (List.append_eq_nil_iff.1 (List.append_eq_nil_iff.1 h).1).2

/-! ### A command that did not succeed -/

/-- The run is left alone, falls back, or reads the node again. -/
inductive FallBack (db : SetupDb) (run : NodeSetupRun) (command : NodeCommand) (now : Time) :
    SetupDb → Prop
  | beside (hnot : run.state.awaitedKind ≠ some command.kind) : FallBack db run command now db
  | fellBack {run' : NodeSetupRun} (hid : run'.id = run.id)
      (hchange : RunFellBack command run run') : FallBack db run command now (db.putRun run')
  | readAgain (hkind : command.kind = .factoryReset) (hstate : run.state = .resetting)
      (hsent : factoryResetFrameMayHaveBeenSent command = true) (lastError : Text) :
      FallBack db run command now
        (createNodeCommand (moveSetupRun db run .readingNode now (some lastError))
          .readNodeInformation now (some run.id)).1

theorem fallBackLatestCommand_fallBack (now : Time) :
    FallBack db run command now (fallBackLatestCommand db run command now) := by
  unfold fallBackLatestCommand
  dsimp only
  split
  · next hread hstate =>
      exact .fellBack rfl (.readFailed hread hstate)
  · next hreset hstate =>
      unfold fallBackAfterUnsuccessfulFactoryReset
      split
      · next hsent =>
          exact .fellBack rfl (.resetFailed hreset hstate (by simpa using hsent) _ now)
      · next hsent => exact .readAgain hreset hstate (by simpa using hsent) _
  · next hconfigure hstate =>
      exact .fellBack rfl (.configurationFailed hconfigure hstate _ now)
  · next hread hreset hconfigure =>
      refine .beside fun hawaited => ?_
      cases hstate : run.state <;> rw [hstate] at hawaited <;> cases hkind : command.kind <;>
        rw [hkind] at hawaited <;> cases hawaited
      · exact hread hkind hstate
      · exact hreset hkind hstate
      · exact hconfigure hkind hstate

/-- A command that another one of the run came after changes nothing. -/
theorem fallBack_of_not_latest {now : Time} (hcommand : command ∈ db.commands)
    (hlatest : ∀ setupRunId, command.setupRunId = some setupRunId →
      findLatestSetupRunCommand db setupRunId ≠ some command) :
    fallBackAfterUnsuccessfulCommand db command now = db := by
  unfold fallBackAfterUnsuccessfulCommand
  split
  · rfl
  · next setupRunId hrun =>
      split
      · rfl
      · rw [if_pos]
        by_contra hnone
        refine hlatest setupRunId hrun
          (latest_of_forall_le (mem_commandsOf.2 ⟨hcommand, hrun⟩) fun other hother => ?_)
        by_contra hlater
        exact hnone (List.any_eq_true.2 ⟨other, hother, decide_eq_true (not_le.1 hlater)⟩)

/-- The latest command of a run. -/
theorem fallBack_of_latest {now : Time}
    (hlatest : findLatestSetupRunCommand db setupRunId = some command) :
    (db.runs.get? setupRunId = none ∧ fallBackAfterUnsuccessfulCommand db command now = db) ∨
      ∃ run, db.runs.get? setupRunId = some run ∧
        FallBack db run command now (fallBackAfterUnsuccessfulCommand db command now) := by
  have hlast : ¬ ((db.commandsOf setupRunId).any fun row => command.id < row.id) = true := by
    intro hany
    obtain ⟨other, hother, hlater⟩ := List.any_eq_true.1 hany
    exact absurd (id_le_of_latest hlatest hother) (not_le.2 (of_decide_eq_true hlater))
  unfold fallBackAfterUnsuccessfulCommand
  simp only [(mem_of_latest hlatest).2, if_neg hlast]
  cases hrow : db.runs.get? setupRunId with
  | none => exact Or.inl ⟨rfl, rfl⟩
  | some run => exact Or.inr ⟨run, rfl, fallBackLatestCommand_fallBack now⟩

/-- A fall back leaves the other runs alone. -/
theorem FallBack.others {now : Time} {db' : SetupDb} (h : FallBack db run command now db')
    (hrow : db.runs.get? setupRunId = some run) {other : ℕ} (hne : other ≠ setupRunId) :
    db'.view other = db.view other := by
  have hrunId : run.id = setupRunId := Table.key_of_get? hrow
  subst hrunId
  have hput : ∀ setupRun : NodeSetupRun, setupRun.id = run.id →
      (db.putRun setupRun).view other = db.view other := by
    intro setupRun heq
    rw [view_putRun (heq ▸ hrow), heq, if_neg hne]
  cases h with
  | beside => rfl
  | fellBack hid => exact hput _ hid
  | readAgain =>
      rw [view_createNodeCommand, if_neg fun heq => hne (Option.some.inj heq).symm, moveSetupRun,
        hput (run.moved _ _ _) rfl]

/-- The view after a fall back of this run. -/
theorem FallBack.view {nextKey : ℕ} {before : NodeCommand} {now : Time} {db' : SetupDb}
    (h : FallBack db run command now db') (hrow : db.runs.get? setupRunId = some run)
    (hlatest : findLatestSetupRunCommand db setupRunId = some command)
    (hid : command.id = before.id) (hold : before.id < nextKey)
    (hnew : nextKey ≤ db.commands.nextKey) (hkind : command.kind = before.kind)
    (hprogress : command.progress = before.progress)
    (hended : command.state ∈ unsuccessfulStates) :
    QueueMove nextKey (some run, some before) (db'.view setupRunId) := by
  have hrunId : run.id = setupRunId := Table.key_of_get? hrow
  subst hrunId
  have hput : ∀ setupRun : NodeSetupRun, setupRun.id = run.id →
      (db.putRun setupRun).view run.id = (some setupRun, some command) := by
    intro setupRun heq
    rw [view_putRun (heq ▸ hrow), heq, hlatest, if_pos rfl]
  cases h with
  | beside hnot =>
      rw [show db.view run.id = (some run, some command) from Prod.ext hrow hlatest]
      refine .endedBeside hid hold hprogress fun other hother => ?_
      obtain rfl := Option.some.inj hother
      exact hkind ▸ hnot
  | @fellBack run' hid' hchange =>
      rw [hput run' hid']
      exact .fellBack hid hold hkind hprogress hended hchange
  | readAgain hreset hstate hsent lastError =>
      rw [view_createNodeCommand, if_pos rfl, moveSetupRun, hput (run.moved _ _ _) rfl]
      refine .readAgain hold hstate ?_ lastError now _ hnew
      rw [factoryResetFrameMayHaveBeenSent, ← hprogress]
      exact hsent

/-- **A command that ends unsuccessfully** moves at most its run. -/
theorem queueMoves_endNodeCommand {nextKey : ℕ} {state : NodeCommandState} {errorMessage : Text}
    {now : Time} (hstate : state ∈ unsuccessfulStates) (hcommand : command ∈ db.commands)
    (hold : command.id < nextKey) (hnew : nextKey ≤ db.commands.nextKey) (setupRunId : ℕ) :
    QueueMoves nextKey (db.view setupRunId)
      ((endNodeCommand state errorMessage now db command).view setupRunId) := by
  let ended : NodeCommand := { command with state, finishedAt := some now, errorMessage }
  have hmem : ended ∈ (db.putCommand ended).commands := Table.mem_put_self hcommand rfl
  have hput : ∀ other, (db.putCommand ended).view other =
      if findLatestSetupRunCommand db other = some command then
        ((db.view other).1, some ended)
      else db.view other := fun other => view_putCommand hcommand rfl rfl
  show QueueMoves nextKey (db.view setupRunId)
    ((fallBackAfterUnsuccessfulCommand (db.putCommand ended) ended now).view setupRunId)
  by_cases hlatest : ∃ x, findLatestSetupRunCommand db x = some command
  · obtain ⟨x, hx⟩ := hlatest
    have hafter : findLatestSetupRunCommand (db.putCommand ended) x = some ended := by
      have hview := hput x
      rw [if_pos hx] at hview
      exact congrArg Prod.snd hview
    have hothers : ∀ other, other ≠ x → (db.putCommand ended).view other = db.view other := by
      intro other hne
      rw [hput, if_neg fun heq => hne ?_]
      exact Option.some.inj ((mem_of_latest heq).2.symm.trans (mem_of_latest hx).2)
    have hview : db.view x = (db.runs.get? x, some command) := Prod.ext rfl hx
    rcases @fallBack_of_latest _ _ _ now hafter with ⟨hnone, hsame⟩ | ⟨run, hrow, hfell⟩
    · rw [hsame]
      by_cases hid : setupRunId = x
      · subst hid
        rw [hput, if_pos hx, hview, show db.runs.get? setupRunId = none from hnone]
        exact .single (.endedBeside rfl hold rfl fun run hrun => by cases hrun)
      · rw [hothers setupRunId hid]
        exact .refl
    · by_cases hid : setupRunId = x
      · subst hid
        rw [hview, show db.runs.get? setupRunId = some run from hrow]
        exact .single (hfell.view hrow hafter (show ended.id = command.id from rfl) hold hnew rfl
          rfl hstate)
      · rw [hfell.others hrow hid, hothers setupRunId hid]
        exact .refl
  · have hsame : ∀ other, (db.putCommand ended).view other = db.view other :=
      fun other => (hput other).trans (if_neg fun heq => hlatest ⟨other, heq⟩)
    rw [fallBack_of_not_latest hmem, hsame]
    · exact .refl
    · intro x hrun heq
      have hbefore : findLatestSetupRunCommand db x = some ended :=
        (congrArg Prod.snd (hsame x)).symm.trans heq
      refine hlatest ⟨x, hbefore.trans (congrArg some ?_)⟩
      exact Table.eq_of_key_eq (mem_of_latest hbefore).1 hcommand rfl

end Views

/-! ### The commands -/

/-- A later row of the same command, which no claim made a running one. -/
structure CommandFollows (c c' : NodeCommand) : Prop where
  id : c'.id = c.id
  kind : c'.kind = c.kind
  setupRunId : c'.setupRunId = c.setupRunId
  expiresAt : c'.expiresAt = c.expiresAt
  pending : c'.state = .pending → c.state = .pending
  running : c'.state = .running → c.state = .running
  sent : factoryResetFrameMayHaveBeenSent c = true → factoryResetFrameMayHaveBeenSent c' = true

/-- Every command is a later row of one that was there, or a new one. -/
structure CommandsFollow (db db' : SetupDb) : Prop where
  nextKey : db.commands.nextKey ≤ db'.commands.nextKey
  later : ∀ c' ∈ db'.commands, (∃ c ∈ db.commands, CommandFollows c c') ∨
    db.commands.nextKey ≤ c'.id ∧ c'.state ≠ .running

section Follow

variable {db db' db'' : SetupDb} {c c' command : NodeCommand}

theorem CommandFollows.refl (c : NodeCommand) : CommandFollows c c :=
  ⟨rfl, rfl, rfl, rfl, fun h => h, fun h => h, fun h => h⟩

theorem CommandFollows.trans {c'' : NodeCommand} (h : CommandFollows c c')
    (h' : CommandFollows c' c'') : CommandFollows c c'' :=
  ⟨h'.id.trans h.id, h'.kind.trans h.kind, h'.setupRunId.trans h.setupRunId,
    h'.expiresAt.trans h.expiresAt, fun hp => h.pending (h'.pending hp),
    fun hr => h.running (h'.running hr), fun hs => h'.sent (h.sent hs)⟩

theorem CommandsFollow.of_eq (h : db'.commands = db.commands) : CommandsFollow db db' := by
  refine ⟨by rw [h], fun c' hc' => ?_⟩
  rw [h] at hc'
  exact Or.inl ⟨c', hc', .refl c'⟩

theorem CommandsFollow.refl (db : SetupDb) : CommandsFollow db db := .of_eq rfl

theorem CommandsFollow.trans (h : CommandsFollow db db') (h' : CommandsFollow db' db'') :
    CommandsFollow db db'' := by
  refine ⟨h.nextKey.trans h'.nextKey, fun c'' hc'' => ?_⟩
  rcases h'.later c'' hc'' with ⟨c', hc', hfollows'⟩ | ⟨hnew, hidle⟩
  · rcases h.later c' hc' with ⟨c, hc, hfollows⟩ | ⟨hnew, hidle⟩
    · exact Or.inl ⟨c, hc, hfollows.trans hfollows'⟩
    · exact Or.inr ⟨hfollows'.id ▸ hnew, fun hrunning => hidle (hfollows'.running hrunning)⟩
  · exact Or.inr ⟨h.nextKey.trans hnew, hidle⟩

theorem mem_createNodeCommand {kind : NodeCommandKind} {now : Time} {setupRunId : Option ℕ} :
    c ∈ (createNodeCommand db kind now setupRunId).1.commands ↔
      c ∈ db.commands ∨ c = buildNodeCommand kind now setupRunId db.commands.nextKey := by
  exact Table.mem_insert (h := fun _ => rfl)

theorem commandsFollow_create (kind : NodeCommandKind) (now : Time) (setupRunId : Option ℕ) :
    CommandsFollow db (createNodeCommand db kind now setupRunId).1 := by
  refine ⟨Nat.le_succ _, fun c' hc' => ?_⟩
  rcases mem_createNodeCommand.1 hc' with hc' | rfl
  · exact Or.inl ⟨c', hc', .refl c'⟩
  · exact Or.inr ⟨le_rfl, by simp [buildNodeCommand]⟩

theorem commandsFollow_update {p : NodeCommand → Bool} {f : NodeCommand → NodeCommand}
    {h : ∀ r, p r = true → key (f r) = key r}
    (hfollows : ∀ r ∈ db.commands, p r = true → CommandFollows r (f r)) :
    CommandsFollow db { db with commands := db.commands.updateWhere p f h } := by
  refine ⟨le_rfl, fun c' hc' => ?_⟩
  dsimp only at hc'
  obtain ⟨c, hc, rfl⟩ := (Table.mem_updateWhere (h := h)).1 hc'
  refine Or.inl ⟨c, hc, ?_⟩
  split
  · next hp => exact hfollows c hc hp
  · exact .refl c

theorem commandsFollow_put (hcommand : command ∈ db.commands) (h : CommandFollows command c') :
    CommandsFollow db (db.putCommand c') := by
  refine commandsFollow_update fun r hr hkey => ?_
  rw [Table.eq_of_key_eq hr hcommand ((of_decide_eq_true hkey).trans h.id)]
  exact h

theorem commandsFollow_delete (p : NodeCommand → Bool) :
    CommandsFollow db { db with commands := db.commands.deleteWhere p } :=
  ⟨le_rfl, fun c' hc' => Or.inl ⟨c', (Table.mem_deleteWhere.1 hc').1, .refl c'⟩⟩

theorem FallBack.commandsFollow {run : NodeSetupRun} {now : Time}
    (h : FallBack db run command now db') : CommandsFollow db db' := by
  cases h with
  | beside => exact .refl db
  | fellBack => exact .of_eq rfl
  | readAgain hreset hstate hsent lastError =>
      have hmoved : CommandsFollow db (moveSetupRun db run .readingNode now (some lastError)) :=
        .of_eq rfl
      exact hmoved.trans (commandsFollow_create _ _ _)

theorem FallBack.mem {run : NodeSetupRun} {now : Time} (h : FallBack db run command now db')
    (hc : c ∈ db.commands) : c ∈ db'.commands := by
  cases h with
  | beside => exact hc
  | fellBack => exact hc
  | readAgain => exact mem_createNodeCommand.2 (Or.inl hc)

/-- What a fall back does to the commands. -/
theorem fallBack_commands (hcommand : command ∈ db.commands) (now : Time) :
    CommandsFollow db (fallBackAfterUnsuccessfulCommand db command now) ∧
      ∀ c ∈ db.commands, c ∈ (fallBackAfterUnsuccessfulCommand db command now).commands := by
  by_cases hlatest : ∃ x, findLatestSetupRunCommand db x = some command
  · obtain ⟨x, hx⟩ := hlatest
    rcases @fallBack_of_latest _ _ _ now hx with ⟨-, hsame⟩ | ⟨run, -, hfell⟩
    · rw [hsame]
      exact ⟨.refl db, fun _ hc => hc⟩
    · exact ⟨hfell.commandsFollow, fun _ hc => hfell.mem hc⟩
  · rw [fallBack_of_not_latest hcommand fun x _ hx => hlatest ⟨x, hx⟩]
    exact ⟨.refl db, fun _ hc => hc⟩

variable {state : NodeCommandState} {errorMessage : Text} {now : Time}

/-- What the end of a command does to the commands. -/
theorem endNodeCommand_commands (hstate : state ∈ unsuccessfulStates)
    (hcommand : command ∈ db.commands) :
    CommandsFollow db (endNodeCommand state errorMessage now db command) ∧
      ∀ c ∈ db.commands, c.id ≠ command.id →
        c ∈ (endNodeCommand state errorMessage now db command).commands := by
  let ended : NodeCommand := { command with state, finishedAt := some now, errorMessage }
  have hmem : ended ∈ (db.putCommand ended).commands := Table.mem_put_self hcommand rfl
  obtain ⟨hfollow, hkept⟩ := fallBack_commands hmem now
  have hput : CommandsFollow db (db.putCommand ended) := by
    refine commandsFollow_put hcommand ⟨rfl, rfl, rfl, rfl, fun h => ?_, fun h => ?_, fun h => h⟩
    · rw [show state = .pending from h] at hstate
      simp [unsuccessfulStates] at hstate
    · rw [show state = .running from h] at hstate
      simp [unsuccessfulStates] at hstate
  exact ⟨hput.trans hfollow, fun c hc hne =>
    hkept c ((Table.mem_put_iff hcommand (show key ended = key command from rfl)).2
      (Or.inr ⟨hc, hne⟩))⟩

/-- The commands of a list end one after the other. -/
theorem foldl_endNodeCommand {P : SetupDb → Prop} {commands : List NodeCommand}
    (hstate : state ∈ unsuccessfulStates) (hdistinct : commands.Pairwise fun a b => a.id < b.id)
    (hmem : ∀ c ∈ commands, c ∈ db.commands) (hP : P db)
    (hstep : ∀ db, P db → ∀ c ∈ commands, c ∈ db.commands →
      P (endNodeCommand state errorMessage now db c)) :
    P (commands.foldl (endNodeCommand state errorMessage now) db) := by
  induction commands generalizing db with
  | nil => exact hP
  | cons c commands ih =>
      obtain ⟨hfirst, hrest⟩ := List.pairwise_cons.1 hdistinct
      have hc := hmem c List.mem_cons_self
      refine ih hrest (fun other hother => ?_) (hstep db hP c List.mem_cons_self hc)
        fun db hdb other hother => hstep db hdb other (List.mem_cons_of_mem _ hother)
      exact (endNodeCommand_commands hstate hc).2 other (hmem other (List.mem_cons_of_mem _ hother))
        (hfirst other hother).ne'

/-- **The commands of a list end**: each run makes moves of the queue. -/
theorem endNodeCommands_moves {commands : List NodeCommand} (hstate : state ∈ unsuccessfulStates)
    (hdistinct : commands.Pairwise fun a b => a.id < b.id)
    (hmem : ∀ c ∈ commands, c ∈ db.commands) :
    CommandsFollow db (commands.foldl (endNodeCommand state errorMessage now) db) ∧
      ∀ setupRunId, QueueMoves db.commands.nextKey (db.view setupRunId)
        ((commands.foldl (endNodeCommand state errorMessage now) db).view setupRunId) := by
  refine foldl_endNodeCommand
    (P := fun db' => CommandsFollow db db' ∧
      ∀ setupRunId, QueueMoves db.commands.nextKey (db.view setupRunId) (db'.view setupRunId))
    hstate hdistinct hmem ⟨.refl db, fun _ => .refl⟩ fun db' ⟨hfollow, hmoves⟩ c hc hc' => ?_
  refine ⟨hfollow.trans (endNodeCommand_commands hstate hc').1, fun setupRunId => ?_⟩
  exact (hmoves setupRunId).trans (queueMoves_endNodeCommand hstate hc'
    (db.commands.below c (hmem c hc)) hfollow.nextKey setupRunId)

end Follow

end HoptalkRelay
