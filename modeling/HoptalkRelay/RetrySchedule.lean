/-
**When a delivery or receipt tries again.**

Points in time are microseconds since the Unix epoch and durations are microseconds, as integers,
so a clock that is set back needs no special case.  The operator's settings are decimal numbers;
they are taken as rationals, and a duration is their value in microseconds rounded half to even,
as `timedelta` rounds it.

Main definitions:

* `HoptalkRelay.RelaySettings` — the settings the delivery engine reads;
* `HoptalkRelay.calculateRetryPause`, `HoptalkRelay.calculateAcknowledgementWait`,
  `HoptalkRelay.calculateRoundCompletionDueTime`, `HoptalkRelay.calculateMissingPartsRoundTime` —
  the due times.
-/

import Mathlib.Data.Rat.Floor

set_option relaxedAutoImplicit false
set_option autoImplicit false

namespace HoptalkRelay

/-- A point in time, in microseconds since the Unix epoch. -/
abbrev Time := ℤ

/-- A duration in microseconds. -/
abbrev Duration := ℤ

/-- The nearest integer, the even one of two that are equally near. -/
def roundHalfEven (q : ℚ) : ℤ :=
  let below := ⌊q⌋
  if q - below < 1 / 2 then below
  else if 1 / 2 < q - below then below + 1
  else if below % 2 = 0 then below else below + 1

/-- `timedelta(seconds=...)`. -/
def durationOfSeconds (seconds : ℚ) : Duration := roundHalfEven (seconds * 1000000)

def durationOfHours (hours : ℕ) : Duration := hours * 3600000000

def durationOfDays (days : ℕ) : Duration := days * 86400000000

def durationOfMinutes (minutes : ℕ) : Duration := minutes * 60000000

/-- `int(now.timestamp())`: whole seconds since the Unix epoch. -/
def unixSeconds (now : Time) : ℤ := now.tdiv 1000000

structure RetryStrategy where
  maximumAttempts : ℕ
  initialPauseSeconds : ℚ
  backoffMultiplier : ℚ
  maximumPauseSeconds : ℚ
  deliveredReceiptDelaySeconds : ℚ

/-- The engine's fixed timing floors and windows, with their defaults. -/
structure EngineTimingSettings where
  minimumAcknowledgementWaitSeconds : ℚ := 3
  maximumAcknowledgementWaitSeconds : ℚ := 60
  unknownAcknowledgementWaitSeconds : ℚ := 10
  missingPartsRoundDelaySeconds : ℚ := 5
  /-- A route the node learned this recently came from the flood exchange that just happened. -/
  recentPathUpdateSeconds : ℚ := 30
  floodArrivalResetMaximumAgeSeconds : ℚ := 60
  /-- A reply sent again by flood after a route reset must still be worth waiting for. -/
  replyResendMaximumAgeSeconds : ℚ := 60

/-- The settings the delivery engine reads; the configuration admits no retention below one day
and no attempt limit or limit of active deliveries below one. -/
structure RelaySettings where
  retryStrategy : RetryStrategy
  maximumActiveDeliveriesPerDevice : ℕ
  logRetentionDays : ℕ
  engineTiming : EngineTimingSettings := {}
  one_le_maximumAttempts : 1 ≤ retryStrategy.maximumAttempts
  one_le_maximumActiveDeliveries : 1 ≤ maximumActiveDeliveriesPerDevice
  one_le_logRetentionDays : 1 ≤ logRetentionDays

/-- The node's suggested timeout is advisory: its duty-cycle bucket can hold a packet back. -/
def suggestedTimeoutSafetyFactor : ℚ := 12 / 10

/-- The pause after attempt n: initial pause x multiplier ^ (n - 1), at most the maximum pause. -/
def calculateRetryPause (attemptNumber : ℕ) (retryStrategy : RetryStrategy) : Duration :=
  let exponent := max attemptNumber 1 - 1
  let pauseSeconds := retryStrategy.initialPauseSeconds * retryStrategy.backoffMultiplier ^ exponent
  durationOfSeconds (min pauseSeconds retryStrategy.maximumPauseSeconds)

/-- How long a packet waits for its firmware acknowledgement. -/
def calculateAcknowledgementWait (engineTiming : EngineTimingSettings)
    (suggestedTimeoutMilliseconds : Option ℕ) : Duration :=
  match suggestedTimeoutMilliseconds with
  | none => durationOfSeconds engineTiming.unknownAcknowledgementWaitSeconds
  | some milliseconds =>
      let waitSeconds : ℚ := milliseconds / 1000 * suggestedTimeoutSafetyFactor
      durationOfSeconds
        (min (max waitSeconds engineTiming.minimumAcknowledgementWaitSeconds)
          engineTiming.maximumAcknowledgementWaitSeconds)

/-- The `next_attempt_at` of a round that has nothing left to send. -/
def calculateRoundCompletionDueTime (settings : RelaySettings) (attemptCount : ℕ)
    (roundStartedAt lastSentAt : Option Time) (lastPacketSuggestedTimeoutMilliseconds : Option ℕ)
    (now : Time) : Time :=
  -- the wait counts from the last send of this round, or from now when the round sent nothing
  let baseTime :=
    match lastSentAt, roundStartedAt with
    | some sent, some started => if started ≤ sent then sent else now
    | _, _ => now
  baseTime +
    max (calculateRetryPause attemptCount settings.retryStrategy)
      (calculateAcknowledgementWait settings.engineTiming lastPacketSuggestedTimeoutMilliseconds)

def calculateMissingPartsRoundTime (settings : RelaySettings) (now : Time) : Time :=
  now + durationOfSeconds settings.engineTiming.missingPartsRoundDelaySeconds

end HoptalkRelay
