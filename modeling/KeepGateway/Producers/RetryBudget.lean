import KeepGateway.Producers.KafkaProducer
import Mathlib.Algebra.Order.Field.Rat
import Mathlib.Tactic.Linarith

/-!
# The budget of a produce

`KafkaEventProducer._produce_with_retry` on a clock that moves while the code awaits a send or
a sleep.  Times are exact, in seconds.
-/

namespace KeepGateway
namespace Producers

/-- How `_send_bounded` ends. -/
inductive SendOutcome where
  | acknowledged
  | failed
  | timedOut
  deriving DecidableEq, Repr

/-- The settings of `_produce_with_retry`. -/
structure RetrySettings where
  maxRetries : Int
  produceTimeout : ℚ
  sendTimeout : ℚ
  retryBackoff : ℚ
  retryBackoffMax : ℚ
  produceTimeout_nonneg : 0 ≤ produceTimeout
  sendTimeout_nonneg : 0 ≤ sendTimeout
  retryBackoff_nonneg : 0 ≤ retryBackoff
  retryBackoffMax_nonneg : 0 ≤ retryBackoffMax

/-- One send, with the sleep that follows it. -/
structure Attempt where
  startedAt : ℚ
  timeout : ℚ
  outcome : SendOutcome
  endedAt : ℚ
  slept : Option ℚ

/-- What `_produce_with_retry` returns, what it did and when it ended. -/
structure Produced where
  result : Option String
  attempts : List Attempt
  endedAt : ℚ

def Produced.after (produced : Produced) (attempt : Attempt) : Produced :=
  { produced with attempts := attempt :: produced.attempts }

/-- `if pause > 0: await asyncio.sleep(pause)` -/
def sleepFor (pause : ℚ) : Option ℚ := if pause > 0 then some pause else none

namespace RetrySettings

variable (settings : RetrySettings) (sends : Sends)

def nextBackoff (backoff : ℚ) : ℚ := min (backoff * 2) settings.retryBackoffMax

end RetrySettings

section

variable {settings : RetrySettings} {sends : Sends} {deadline clock backoff : ℚ}
variable {attempt left : Nat}

end

/-- What the rounds that are left keep to. -/
structure RoundsKeep (settings : RetrySettings) (deadline clock backoff : ℚ) (left : Nat)
    (produced : Produced) : Prop where
  length_le : produced.attempts.length ≤ left
  acknowledged_last : forall before attempt rest,
    produced.attempts = before ++ attempt :: rest -> attempt.outcome = .acknowledged -> rest = []
  endedAt_le : produced.endedAt ≤ deadline
  result_iff : forall taskName, produced.result = some taskName <->
    taskName = mainTaskName ∧
      exists attempt, attempt ∈ produced.attempts ∧ attempt.outcome = .acknowledged
  startedAt : forall attempt rest,
    produced.attempts = attempt :: rest -> attempt.startedAt = clock
  pause : forall before attempt next rest,
    produced.attempts = before ++ attempt :: next :: rest ->
      let pause := min (settings.nextBackoff^[before.length] backoff) (deadline - attempt.endedAt)
      attempt.slept = sleepFor pause ∧ next.startedAt = attempt.endedAt + pause

section

variable {settings : RetrySettings} {deadline clock backoff : ℚ} {left : Nat}

/-- A round that fails comes before rounds that keep to theirs. -/
theorem RoundsKeep.after {clock' backoff' : ℚ} {produced : Produced} {attempt : Attempt}
    (h : RoundsKeep settings deadline clock' backoff' left produced)
    (hstart : attempt.startedAt = clock) (hsend : attempt.outcome ≠ .acknowledged)
    (hpause : produced.attempts ≠ [] ->
      let pause := min backoff (deadline - attempt.endedAt)
      attempt.slept = sleepFor pause ∧ clock' = attempt.endedAt + pause ∧
        backoff' = settings.nextBackoff backoff) :
    RoundsKeep settings deadline clock backoff (left + 1) (produced.after attempt) := by
  constructor
  · exact Nat.succ_le_succ h.length_le
  · intro before last rest hattempts hlast
    cases before with
    | nil =>
        rw [← (List.cons.inj hattempts).1] at hlast
        exact absurd hlast hsend
    | cons first before => exact h.acknowledged_last before last rest (List.cons.inj hattempts).2 hlast
  · exact h.endedAt_le
  · intro taskName
    show produced.result = some taskName <-> taskName = mainTaskName ∧
      exists last, last ∈ attempt :: produced.attempts ∧ last.outcome = .acknowledged
    rw [h.result_iff]
    simp [hsend]
  · intro first rest hattempts
    rw [← (List.cons.inj hattempts).1]
    exact hstart
  · intro before last next rest hattempts
    cases before with
    | nil =>
        rcases List.cons.inj hattempts with ⟨hlast, hnext⟩
        have hne : produced.attempts ≠ [] := by
          rw [hnext]
          exact List.cons_ne_nil next rest
        rcases hpause hne with ⟨hslept, hclock, _⟩
        rw [← hlast, h.startedAt next rest hnext]
        exact ⟨hslept, hclock⟩
    | cons first before =>
        have htail := (List.cons.inj hattempts).2
        have hne : produced.attempts ≠ [] := by
          rw [htail]
          simp
        rcases hpause hne with ⟨_, _, hbackoff⟩
        have hpauses := h.pause before last next rest htail
        rw [hbackoff] at hpauses
        exact hpauses

end

end Producers
end KeepGateway
