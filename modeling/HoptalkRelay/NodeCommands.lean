/-
**The node command queue between the panel and the worker.**

The transactions of `node/node_commands.py`.  The worker expires stale commands, claims the oldest
pending one, adds to its progress and finishes it; a setup run's command that ends unsuccessfully
moves its run back in the same transaction.  Rows that another transaction has locked are skipped by
the expiry and the claim, whichever they are.

Main definitions:

* `HoptalkRelay.expirePendingNodeCommands`, `HoptalkRelay.claimNextNodeCommand`,
  `HoptalkRelay.recordNodeCommandProgress`, `HoptalkRelay.finishNodeCommand`,
  `HoptalkRelay.interruptRunningNodeCommands` — the transactions;
* `HoptalkRelay.endNodeCommand` — a command that ends unsuccessfully, with its run.
-/

import HoptalkRelay.SetupRuns

set_option relaxedAutoImplicit false
set_option autoImplicit false

namespace HoptalkRelay

open Relational

def nodeCommandRetentionDays : ℕ := 90

def expiredCommandErrorMessage : Text :=
  ("The relay worker did not start this command in time: it was offline, or the node was not " ++
    "connected.").toList

def interruptedCommandErrorMessage : Text :=
  "The relay worker restarted while this command was running.".toList

/-- The command ends in this state, and its run falls back. -/
def endNodeCommand (state : NodeCommandState) (errorMessage : Text) (now : Time) (db : SetupDb)
    (nodeCommand : NodeCommand) : SetupDb :=
  let endedCommand := { nodeCommand with state, finishedAt := some now, errorMessage }
  fallBackAfterUnsuccessfulCommand (db.putCommand endedCommand) endedCommand now

/-! ### Expiry and claim -/

/-- The commands the expiry finds, past `expires_at` and not locked elsewhere. -/
def expiredPendingCommands (db : SetupDb) (lockedElsewhere : List ℕ) (now : Time) :
    List NodeCommand :=
  db.commands.filter fun row =>
    row.id ∉ lockedElsewhere && row.state = .pending && row.expiresAt ≤ now

def expirePendingNodeCommands (db : SetupDb) (lockedElsewhere : List ℕ) (now : Time) : SetupDb :=
  (expiredPendingCommands db lockedElsewhere now).foldl
    (endNodeCommand .expired expiredCommandErrorMessage now) db

/-- Expire, then mark the oldest pending command running; `node_command_single_running` refuses a
second running one. -/
def claimNextNodeCommand (db : SetupDb) (lockedElsewhere : List ℕ) (workerInstanceId : ℕ)
    (now : Time) : SetupDb × Option NodeCommand :=
  let db := expirePendingNodeCommands db lockedElsewhere now
  match db.commands.first? fun row => row.id ∉ lockedElsewhere && row.state = .pending with
  | none => (db, none)
  | some nodeCommand =>
      if db.commands.any fun row => row.state = .running then (db, none)
      else
        let claimedCommand :=
          { nodeCommand with
            state := .running
            claimedAt := some now
            claimedByWorkerInstance := some workerInstanceId }
        (db.putCommand claimedCommand, some claimedCommand)

/-! ### Progress and end -/

/-- The entry with the same step is replaced, or the step is added. -/
def replaceOrAppendProgressStep (storedProgress : List ProgressStep) (progressStep : ProgressStep) :
    List ProgressStep :=
  if storedProgress.any fun storedStep => storedStep.step = progressStep.step then
    storedProgress.map fun storedStep =>
      if storedStep.step = progressStep.step then progressStep else storedStep
  else storedProgress ++ [progressStep]

def recordNodeCommandProgress (db : SetupDb) (nodeCommandId : ℕ) (progressStep : ProgressStep) :
    SetupDb :=
  { db with
    commands := db.commands.updateWhere (fun row => row.id = nodeCommandId) fun row =>
      { row with progress := replaceOrAppendProgressStep row.progress progressStep } }

/-- The terminal states the worker finishes a command with. -/
inductive CommandEnd
  | succeeded
  | failed
  | interrupted
  deriving DecidableEq, Repr

def CommandEnd.state : CommandEnd → NodeCommandState
  | .succeeded => .succeeded
  | .failed => .failed
  | .interrupted => .interrupted

/-- A running command ends; one that is not running stays as it is. -/
def finishNodeCommand (db : SetupDb) (nodeCommandId : ℕ) (commandEnd : CommandEnd) (now : Time)
    (errorMessage : Text) : SetupDb :=
  match db.commands.first? fun row => row.id = nodeCommandId && row.state = .running with
  | none => db
  | some nodeCommand =>
      if commandEnd.state ∈ unsuccessfulStates then
        endNodeCommand commandEnd.state errorMessage now db nodeCommand
      else
        db.putCommand
          { nodeCommand with state := commandEnd.state, finishedAt := some now, errorMessage }

/-- What was running when the process started belongs to a dead process. -/
def interruptRunningNodeCommands (db : SetupDb) (now : Time) : SetupDb :=
  (db.commands.filter fun row => row.state = .running).foldl
    (endNodeCommand .interrupted interruptedCommandErrorMessage now) db

def deleteOldNodeCommands (db : SetupDb) (now : Time) : SetupDb :=
  { db with
    commands := db.commands.deleteWhere fun row =>
      row.createdAt < now - durationOfDays nodeCommandRetentionDays }

end HoptalkRelay
