import HoptalkRelay.Cards.CardLayout
import HoptalkRelay.Invariants.Acknowledgements
import HoptalkRelay.Invariants.Answers
import HoptalkRelay.Invariants.CheckedConnections
import HoptalkRelay.Invariants.Confluence
import HoptalkRelay.Invariants.Deliveries
import HoptalkRelay.Invariants.FirmwareRepeats
import HoptalkRelay.Invariants.Forwarding
import HoptalkRelay.Invariants.Guesses
import HoptalkRelay.Invariants.Heads
import HoptalkRelay.Invariants.Links
import HoptalkRelay.Invariants.Pacing
import HoptalkRelay.Invariants.Passwords
import HoptalkRelay.Invariants.Places
import HoptalkRelay.Invariants.Receipts
import HoptalkRelay.Invariants.Reconciliation
import HoptalkRelay.Invariants.Refreshes
import HoptalkRelay.Invariants.Refusals
import HoptalkRelay.Invariants.Repeats
import HoptalkRelay.Invariants.RestoredIdentities
import HoptalkRelay.Invariants.Retries
import HoptalkRelay.Invariants.Rounds
import HoptalkRelay.Invariants.RouteResets
import HoptalkRelay.Invariants.Scheduler
import HoptalkRelay.Invariants.Throttle
import HoptalkRelay.Invariants.Timestamps
import HoptalkRelay.Invariants.Uploads
import HoptalkRelay.Invariants.Wakeups
import HoptalkRelay.Protocol.FewestParts
