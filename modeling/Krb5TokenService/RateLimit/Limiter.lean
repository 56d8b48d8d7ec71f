import Krb5TokenService.Python.Text
import Krb5TokenService.RateLimit.SlidingWindow
import Mathlib.Algebra.Order.Ring.Rat
import Mathlib.Data.Rat.Floor

/-! The failed-authentication limiter of `ratelimit.py`. Clock readings are
arguments, because the three methods run without an await in between. -/
namespace Krb5TokenService.RateLimit

open Python SlidingWindow

/-- The constructor arguments. `config.Settings` declares all three `gt=0`. Times
are exact rationals here; the source computes with floats. -/
structure Limits where
  maxAttempts : Nat
  windowSeconds : ℚ
  lockoutSeconds : ℚ
  maxAttempts_pos : 0 < maxAttempts
  windowSeconds_pos : 0 < windowSeconds
  lockoutSeconds_pos : 0 < lockoutSeconds

/-- Python's `format(x, ".0f")`: to the nearest integer, ties to even. -/
def roundHalfEven (x : ℚ) : ℤ :=
  let fraction := x - ⌊x⌋
  if fraction < 1 / 2 then ⌊x⌋
  else if 1 / 2 < fraction then ⌊x⌋ + 1
  else if ⌊x⌋ % 2 = 0 then ⌊x⌋
  else ⌊x⌋ + 1

structure RateLimitedError where
  retryAfterSeconds : ℚ

/-- `str(exc)`, which the handlers return to the client. -/
def RateLimitedError.message (exc : RateLimitedError) : String :=
  "too many failed authentication attempts; retry after " ++
    toString (roundHalfEven exc.retryAfterSeconds) ++ "s"

structure UsernameState where
  failureTimes : List ℚ := []
  lockedUntil : Option ℚ := none

/-- What `self._state.get(username)` finds, with clock readings that are exact
rationals where `time.monotonic` returns floats. -/
abbrev Entry := Option UsernameState

namespace Entry

def failureTimes (entry : Entry) : List ℚ := (entry.getD {}).failureTimes

def lockedUntil (entry : Entry) : Option ℚ := (entry.getD {}).lockedUntil

def check (now : ℚ) : Entry → Except RateLimitedError Unit × Entry
  | none => (.ok (), none)
  | some state =>
      match state.lockedUntil with
      | none => (.ok (), some state)
      | some lockedUntil =>
          if now < lockedUntil then (.error ⟨lockedUntil - now⟩, some state)
          else
            -- an expired lockout starts clean, without the failures before it
            (.ok (), some { failureTimes := [], lockedUntil := none })

def recordFailure (limits : Limits) (now : ℚ) (entry : Entry) : Entry :=
  let state := entry.getD {}
  let failureTimes := recent limits.windowSeconds now state.failureTimes ++ [now]
  some {
    failureTimes := failureTimes
    lockedUntil :=
      if limits.maxAttempts ≤ failureTimes.length then some (now + limits.lockoutSeconds)
      else state.lockedUntil }

@[simp] theorem failureTimes_none : failureTimes none = [] := rfl

@[simp] theorem lockedUntil_none : lockedUntil none = none := rfl

@[simp] theorem failureTimes_some (state : UsernameState) :
    failureTimes (some state) = state.failureTimes := rfl

@[simp] theorem lockedUntil_some (state : UsernameState) :
    lockedUntil (some state) = state.lockedUntil := rfl

/-- Every way `check` can end: locked out, cleared after an expired lockout,
or passed without a change. -/
theorem check_cases (now : ℚ) (entry : Entry) :
    (∃ lockedUntil, entry.lockedUntil = some lockedUntil ∧ now < lockedUntil ∧
      entry.check now = (.error ⟨lockedUntil - now⟩, entry)) ∨
    (∃ lockedUntil, entry.lockedUntil = some lockedUntil ∧ lockedUntil ≤ now ∧
      entry.check now = (.ok (), some {})) ∨
    (entry.lockedUntil = none ∧ entry.check now = (.ok (), entry)) := by
  cases entry with
  | none => exact .inr (.inr ⟨rfl, rfl⟩)
  | some state =>
      cases hLock : state.lockedUntil with
      | none => exact .inr (.inr ⟨hLock, by simp [check, hLock]⟩)
      | some lockedUntil =>
          by_cases hNow : now < lockedUntil
          · exact .inl ⟨lockedUntil, hLock, hNow, by simp [check, hLock, hNow]⟩
          · exact .inr (.inl ⟨lockedUntil, hLock, not_lt.mp hNow, by simp [check, hLock, hNow]⟩)

theorem check_of_locked {now lockedUntil : ℚ} {entry : Entry}
    (hLock : entry.lockedUntil = some lockedUntil) (hNow : now < lockedUntil) :
    entry.check now = (.error ⟨lockedUntil - now⟩, entry) := by
  cases entry with
  | none => simp at hLock
  | some state => simp_all [check]

theorem locked_of_check_error {now : ℚ} {entry : Entry} {exc : RateLimitedError}
    (h : (entry.check now).1 = .error exc) :
    ∃ lockedUntil, entry.lockedUntil = some lockedUntil ∧ now < lockedUntil := by
  obtain ⟨lockedUntil, hLock, hNow, _⟩ | ⟨_, _, _, hCheck⟩ | ⟨_, hCheck⟩ := check_cases now entry
  · exact ⟨lockedUntil, hLock, hNow⟩
  · simp [hCheck] at h
  · simp [hCheck] at h

@[simp] theorem failureTimes_recordFailure (limits : Limits) (now : ℚ) (entry : Entry) :
    (entry.recordFailure limits now).failureTimes =
      recent limits.windowSeconds now entry.failureTimes ++ [now] := rfl

theorem lockedUntil_recordFailure (limits : Limits) (now : ℚ) (entry : Entry) :
    (entry.recordFailure limits now).lockedUntil =
      if limits.maxAttempts ≤ (recent limits.windowSeconds now entry.failureTimes).length + 1 then
        some (now + limits.lockoutSeconds)
      else entry.lockedUntil := by
  have hLength : (recent limits.windowSeconds now entry.failureTimes).length + 1 =
      (recent limits.windowSeconds now entry.failureTimes ++ [now]).length := by simp
  rw [hLength]
  rfl

/-- A recorded failure always shows: the present time is counted once more. -/
theorem recordFailure_ne (limits : Limits) (now : ℚ) (entry : Entry) :
    entry.recordFailure limits now ≠ entry := by
  intro h
  have hTimes : recent limits.windowSeconds now entry.failureTimes ++ [now] =
      entry.failureTimes := by
    rw [← failureTimes_recordFailure, h]
  have hCount : (recent limits.windowSeconds now entry.failureTimes).count now =
      entry.failureTimes.count now :=
    List.count_filter (by simp [limits.windowSeconds_pos])
  have hBoth := congrArg (List.count now) hTimes
  rw [List.count_append, hCount, List.count_singleton_self] at hBoth
  omega

end Entry

/-- `RateLimiter._state`. -/
abbrev LimiterState := PyStr → Entry

namespace LimiterState

def check (state : LimiterState) (username : PyStr) (now : ℚ) :
    Except RateLimitedError Unit × LimiterState :=
  let checked := (state username).check now
  (checked.1, Function.update state username checked.2)

def recordFailure (limits : Limits) (state : LimiterState) (username : PyStr) (now : ℚ) :
    LimiterState :=
  Function.update state username ((state username).recordFailure limits now)

def reset (state : LimiterState) (username : PyStr) : LimiterState :=
  Function.update state username none

section

variable (limits : Limits) (state : LimiterState) (username : PyStr) (now : ℚ)

@[simp] theorem check_self : (state.check username now).2 username =
    ((state username).check now).2 := by
  simp [check]

@[simp] theorem check_fst : (state.check username now).1 = ((state username).check now).1 := rfl

@[simp] theorem recordFailure_self : (state.recordFailure limits username now) username =
    (state username).recordFailure limits now := by
  simp [recordFailure]

@[simp] theorem reset_self : state.reset username username = none := by
  simp [reset]

theorem recordFailure_ne : state.recordFailure limits username now ≠ state := by
  intro h
  refine Entry.recordFailure_ne limits now (state username) ?_
  rw [← recordFailure_self, h]

variable {username} {other : PyStr} (hOther : other ≠ username)

include hOther

theorem check_other : (state.check username now).2 other = state other := by
  simp [check, hOther]

theorem recordFailure_other :
    (state.recordFailure limits username now) other = state other := by
  simp [recordFailure, hOther]

theorem reset_other : state.reset username other = state other := by
  simp [reset, hOther]

end

/-- A check that raises changes nothing. -/
theorem check_state_of_error {state : LimiterState} {username : PyStr} {now : ℚ}
    {exc : RateLimitedError} (h : (state.check username now).1 = .error exc) :
    (state.check username now).2 = state := by
  rw [check_fst] at h
  obtain ⟨_, _, _, hCheck⟩ | ⟨_, _, _, hCheck⟩ | ⟨_, hCheck⟩ :=
    Entry.check_cases now (state username)
  · simp [check, hCheck]
  · simp [hCheck] at h
  · simp [hCheck] at h

end LimiterState

end Krb5TokenService.RateLimit
