import Mathlib.Algebra.Order.Ring.Nat
import Jmap2Telegram.Watcher.Notices

/-!
# The waits of a watcher

Between two attempts to open its stream a watcher sleeps, twice as long after each failure, up to
five minutes, and two seconds again after a stream that had been open dropped. So the time it sleeps
before it tells the chat of a broken connection is fixed.

* `backoff_of_lt`: the wait, by the attempts so far.
* `waits_and_notice`: every wait, and what was slept before a broken connection is told.
-/

namespace Jmap2Telegram

open Transition

namespace Reconnect

/-- What the loop sleeps after an attempt, unless it has stopped. -/
def Loop.wait (s : Loop) (a : Attempt) : ℕ :=
  match a.outcome with
  | .failed => (s.onError a.sent).backoff
  | .dropped => ({ s with connected := true }.onError a.sent).backoff
  | .stopped => 0

/-- The errors since the stream last dropped, with that drop; or since the start. -/
def errorsInRow (attempts : List Attempt) : ℕ :=
  failuresInRow attempts + if attempts.any fun a => a.outcome = .dropped then 1 else 0

/-- The wait after so many errors in a row. -/
def waitAfter (errors : ℕ) : ℕ := min (initialBackoff * 2 ^ (errors - 1)) maxBackoff

theorem errorsInRow_concat_failed {attempts : List Attempt} {a : Attempt}
    (h : a.outcome = .failed) : errorsInRow (attempts ++ [a]) = errorsInRow attempts + 1 := by
  rw [errorsInRow, errorsInRow, failuresInRow_concat, if_pos h]
  simp [h]
  omega

theorem errorsInRow_concat_dropped {attempts : List Attempt} {a : Attempt}
    (h : a.outcome = .dropped) : errorsInRow (attempts ++ [a]) = 1 := by
  rw [errorsInRow, failuresInRow_concat, if_neg (by simp [h])]
  simp [h]

/-- The wait doubles, up to its bound. -/
theorem nextBackoff_waitAfter (errors : ℕ) :
    nextBackoff (waitAfter (errors + 1)) = waitAfter (errors + 2) := by
  simp only [nextBackoff, waitAfter, initialBackoff, maxBackoff, Nat.add_sub_cancel,
    show errors + 2 - 1 = errors + 1 from rfl, Nat.pow_succ]
  omega

section

variable {s s' : Loop} {a : Attempt}

theorem backoff_notify (notice : Notice) (sent : Bool) :
    (s.notify notice sent).backoff = s.backoff := by
  rw [Loop.notify]
  split <;> rfl

/-- A drop starts the waits again. -/
theorem backoff_onError (sent : Bool) :
    (s.onError sent).backoff = if s.connected then initialBackoff else s.backoff := by
  rw [Loop.onError]
  split
  · dsimp only
    split
    · exact backoff_notify _ _
    · rfl
  · dsimp only
    split
    · exact backoff_notify _ _
    · rfl

/-- What an attempt does to the wait. -/
theorem wait_attempt (h : s.attempt a = some s') (hgoes : a.outcome ≠ .stopped) :
    s.wait a = (if a.outcome = .failed then s.backoff else initialBackoff) ∧
      s'.backoff = nextBackoff (s.wait a) := by
  obtain ⟨outcome, sent⟩ := a
  cases outcome with
  | failed =>
    have hstep : s.step (.fails sent) = some s' := by
      simpa [Loop.attempt, Attempt.events] using h
    obtain ⟨hclosed, rfl⟩ := step_fails hstep
    refine ⟨?_, rfl⟩
    rw [Loop.wait, backoff_onError, hclosed]
    rfl
  | dropped =>
    obtain ⟨m, hopens, hdrops⟩ : ∃ m, s.step .opens = some m ∧ m.step (.drops sent) = some s' := by
      simpa [Loop.attempt, Attempt.events, Option.bind_eq_some_iff] using h
    obtain ⟨-, -, rfl⟩ := step_opens hopens
    obtain ⟨-, rfl⟩ := step_drops hdrops
    exact ⟨(backoff_onError sent).trans rfl, rfl⟩
  | stopped => exact absurd rfl hgoes

end

/-! ### Runs -/

section

variable (x : AttemptRun)

/-- The loop goes on after an attempt that another one follows. -/
theorem goes_of_lt {k : ℕ} (hk : k + 1 < x.events.length) : x.events[k].outcome ≠ .stopped := by
  intro hstopped
  have hopen := (attempted (x.state_succ (Nat.lt_of_succ_lt hk))).stopped hstopped
  rw [(attempted (x.state_succ hk)).closed] at hopen
  cases hopen

/-- **The wait of the next failure**, by the errors in a row before it. -/
theorem backoff_of_lt {k : ℕ} (hk : k < x.events.length) :
    (x.state k).backoff = waitAfter (errorsInRow (x.events.take k) + 1) := by
  induction k with
  | zero =>
    rw [x.state_zero]
    rfl
  | succ k ih =>
    have hgoes := goes_of_lt x hk
    obtain ⟨hwait, hbackoff⟩ := wait_attempt (x.state_succ (Nat.lt_of_succ_lt hk)) hgoes
    rw [hbackoff, hwait, List.take_succ_eq_append_getElem (Nat.lt_of_succ_lt hk)]
    cases houtcome : x.events[k].outcome with
    | failed =>
      rw [if_pos rfl, ih (Nat.lt_of_succ_lt hk), errorsInRow_concat_failed houtcome]
      exact nextBackoff_waitAfter _
    | dropped =>
      rw [if_neg (by simp), errorsInRow_concat_dropped houtcome]
      rfl
    | stopped => exact absurd houtcome hgoes

/-- The wait after an attempt, by the errors in a row up to it. -/
theorem wait_of_lt {k : ℕ} (hk : k < x.events.length) (hgoes : x.events[k].outcome ≠ .stopped) :
    (x.state k).wait x.events[k] = waitAfter (errorsInRow (x.events.take (k + 1))) := by
  rw [(wait_attempt (x.state_succ hk) hgoes).1, List.take_succ_eq_append_getElem hk]
  cases houtcome : x.events[k].outcome with
  | failed => rw [if_pos rfl, backoff_of_lt x hk, errorsInRow_concat_failed houtcome]
  | dropped =>
    rw [if_neg (by simp), errorsInRow_concat_dropped houtcome]
    rfl
  | stopped => exact absurd houtcome hgoes

/-- What the loop has slept before an attempt. -/
def slept (k : ℕ) : ℕ :=
  ((List.range k).map fun i => (x.events[i]?.map (x.state i).wait).getD 0).sum

theorem slept_succ {k : ℕ} (hk : k < x.events.length) :
    slept x (k + 1) = slept x k + (x.state k).wait x.events[k] := by
  rw [slept, List.range_succ, List.map_append, List.sum_append, slept, List.map_singleton,
    List.sum_singleton, List.getElem?_eq_getElem hk]
  rfl

theorem slept_succ_failed {k : ℕ} (hk : k < x.events.length)
    (hfailed : x.events[k].outcome = .failed) :
    slept x (k + 1) = slept x k + waitAfter (errorsInRow (x.events.take k) + 1) ∧
      errorsInRow (x.events.take (k + 1)) = errorsInRow (x.events.take k) + 1 := by
  have herrors : errorsInRow (x.events.take (k + 1)) = errorsInRow (x.events.take k) + 1 := by
    rw [List.take_succ_eq_append_getElem hk, errorsInRow_concat_failed hfailed]
  refine ⟨?_, herrors⟩
  rw [slept_succ x hk, wait_of_lt x hk (by simp [hfailed]), herrors]

/-- The last of some failures in a row. -/
theorem last_failed {k n : ℕ} (hk : k ≤ x.events.length)
    (h : failuresInRow (x.events.take k) = n + 1) :
    ∃ i, ∃ hi : i < x.events.length, k = i + 1 ∧ x.events[i].outcome = .failed ∧
      failuresInRow (x.events.take i) = n := by
  cases k with
  | zero => cases h
  | succ i =>
    rw [List.take_succ_eq_append_getElem hk, failuresInRow_concat] at h
    split at h
    case isTrue hfailed => exact ⟨i, hk, rfl, hfailed, Nat.succ.inj h⟩
    case isFalse => cases h

/-- What is slept while four attempts fail. -/
theorem slept_four_failed {k : ℕ} (hk : k ≤ x.events.length)
    (h : failuresInRow (x.events.take k) = 4) :
    ∃ i, k = i + 4 ∧ failuresInRow (x.events.take i) = 0 ∧
      slept x k = slept x i + (waitAfter (errorsInRow (x.events.take i) + 1) +
        waitAfter (errorsInRow (x.events.take i) + 2) +
        waitAfter (errorsInRow (x.events.take i) + 3) +
        waitAfter (errorsInRow (x.events.take i) + 4)) := by
  obtain ⟨k₃, hk₃, rfl, hfourth, h₃⟩ := last_failed x hk h
  obtain ⟨k₂, hk₂, rfl, hthird, h₂⟩ := last_failed x hk₃.le h₃
  obtain ⟨k₁, hk₁, rfl, hsecond, h₁⟩ := last_failed x hk₂.le h₂
  obtain ⟨k₀, hk₀, rfl, hfirst, h₀⟩ := last_failed x hk₁.le h₁
  obtain ⟨hslept₁, herrors₁⟩ := slept_succ_failed x _ hfirst
  obtain ⟨hslept₂, herrors₂⟩ := slept_succ_failed x _ hsecond
  obtain ⟨hslept₃, herrors₃⟩ := slept_succ_failed x _ hthird
  obtain ⟨hslept₄, -⟩ := slept_succ_failed x _ hfourth
  refine ⟨k₀, rfl, h₀, ?_⟩
  rw [hslept₄, hslept₃, hslept₂, hslept₁, herrors₃, herrors₂, herrors₁]
  simp only [Nat.add_assoc, Nat.reduceAdd]

/-- **Every wait, and the notice.** After each error the loop sleeps two seconds, doubled for every
error in a row before it, and at most five minutes. When it decides to tell the chat of a broken
connection it has slept half a minute since its start, or two seconds more than a minute since the
stream dropped; and what it decides to tell is what it sends, as far as that goes through. -/
theorem waits_and_notice :
    (∀ k (hk : k < x.events.length), x.events[k].outcome ≠ .stopped →
      (x.state k).wait x.events[k] =
        min (2 * 2 ^ (errorsInRow (x.events.take (k + 1)) - 1)) 300) ∧
      (∀ k (hk : k < x.events.length),
        (x.state k).decides x.events[k].outcome = some .broken →
          k = 4 ∧ slept x k = 30 ∨
            ∃ i, ∃ hi : i < x.events.length, k = i + 5 ∧ x.events[i].outcome = .dropped ∧
              slept x k = slept x i + 62) ∧
      ∀ k ≤ x.events.length, (x.state k).notices = delivered x k := by
  refine ⟨fun k hk hgoes => wait_of_lt x hk hgoes, fun k hk hbroken => ?_,
    fun k hk => notices_state x hk⟩
  have hfive := (tracks_of_lt x hk).decides_broken_iff.mp hbroken
  rw [failuresInRow_concat, if_pos (decides_broken hbroken).1] at hfive
  obtain ⟨i, rfl, hnone, hslept⟩ := slept_four_failed x hk.le (Nat.succ.inj hfive)
  cases i with
  | zero =>
    rw [List.take_zero] at hslept
    exact .inl ⟨rfl, hslept⟩
  | succ i =>
    -- the attempt before the failures has ended neither in a failure nor for good
    have hi : i < x.events.length := by omega
    have hdropped : x.events[i].outcome = .dropped := by
      rw [List.take_succ_eq_append_getElem hi, failuresInRow_concat] at hnone
      cases houtcome : x.events[i].outcome with
      | failed => rw [houtcome, if_pos rfl] at hnone; cases hnone
      | dropped => rfl
      | stopped => exact absurd houtcome (goes_of_lt x (by omega))
    have herrors : errorsInRow (x.events.take (i + 1)) = 1 := by
      rw [List.take_succ_eq_append_getElem hi, errorsInRow_concat_dropped hdropped]
    refine .inr ⟨i, hi, rfl, hdropped, ?_⟩
    rw [hslept, slept_succ x hi, wait_of_lt x hi (by simp [hdropped]), herrors]
    rfl

end

end Reconnect

end Jmap2Telegram
