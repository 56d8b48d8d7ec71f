import Krb5TokenService.RateLimit.History
import Mathlib

/-! What the message of a `RateLimitedError` promises: that a check after the
seconds it names will pass. The seconds are rounded to the nearest integer, so
the promise is kept unless the rounding went down. -/
namespace Krb5TokenService.RateLimit

open Python

section Rounding

variable {x : ℚ}

/-- The integer nearest to `x` is not below it: `x` is whole, or more than a
half above an integer, or a half above an odd one. -/
def RoundsUp (x : ℚ) : Prop :=
  Int.fract x = 0 ∨ 1 / 2 < Int.fract x ∨ Int.fract x = 1 / 2 ∧ ⌊x⌋ % 2 = 1

theorem le_roundHalfEven_iff : x ≤ roundHalfEven x ↔ RoundsUp x := by
  have hFract : x - ⌊x⌋ = Int.fract x := rfl
  have hNonneg := Int.fract_nonneg x
  have hLess := Int.fract_lt_one x
  unfold roundHalfEven RoundsUp
  simp only [hFract]
  split
  · next hBelow =>
      constructor
      · intro hLe
        exact .inl (by linarith)
      · rintro (hWhole | hAbove | ⟨hHalf, -⟩)
        · linarith
        · linarith
        · linarith
  · next hNotBelow =>
      split
      · next hAbove =>
          refine ⟨fun _ => .inr (.inl hAbove), fun _ => ?_⟩
          push_cast
          linarith
      · next hNotAbove =>
          have hHalf : Int.fract x = 1 / 2 :=
            le_antisymm (not_lt.mp hNotAbove) (not_lt.mp hNotBelow)
          split
          · next hEven =>
              constructor
              · intro hLe
                linarith
              · rintro (hWhole | hAbove | ⟨-, hOdd⟩)
                · linarith
                · linarith
                · omega
          · next hOdd =>
              refine ⟨fun _ => .inr (.inr ⟨hHalf, by omega⟩), fun _ => ?_⟩
              push_cast
              linarith

theorem roundHalfEven_nonneg (h : 0 ≤ x) : 0 ≤ roundHalfEven x := by
  have hFloor := Int.floor_nonneg.mpr h
  unfold roundHalfEven
  simp only
  split
  · exact hFloor
  · split
    · omega
    · split
      · exact hFloor
      · omega

end Rounding

/-- The message that names a number of seconds. -/
def retryMessage (seconds : ℤ) : String :=
  "too many failed authentication attempts; retry after " ++ toString seconds ++ "s"

theorem message_eq (exc : RateLimitedError) :
    exc.message = retryMessage (roundHalfEven exc.retryAfterSeconds) := rfl

theorem seconds_of_text {before after : String} {seconds seconds' : ℤ}
    (h : before ++ toString seconds ++ after = before ++ toString seconds' ++ after) :
    seconds = seconds' :=
  Int.repr_inj.mp ((String.append_right_inj before).mp ((String.append_left_inj after).mp h))

/-- A message names one number. -/
theorem retryMessage_inj {seconds seconds' : ℤ} (h : retryMessage seconds = retryMessage seconds') :
    seconds = seconds' := by
  unfold retryMessage at h
  exact seconds_of_text h

section Promise

variable {limits : Limits} {history : List Call} {username : PyStr} {now : ℚ}

/-- The limiter's entry while no call is made for the username. -/
theorem after_others {between : List Call} (h : ∀ call ∈ between, call.username ≠ username) :
    after limits (between ++ history) username = after limits history username := by
  induction between with
  | nil => rfl
  | cons call between ih =>
      rw [List.cons_append, after, apply_other limits _ (h call List.mem_cons_self)]
      exact ih fun c hc => h c (List.mem_cons_of_mem call hc)

/-- A check that raises leaves the entry as it is. -/
theorem after_check_error {exc : RateLimitedError}
    (h : ((after limits history).check username now).1 = .error exc) :
    after limits (⟨username, now, .check⟩ :: history) = after limits history :=
  LimiterState.check_state_of_error h

/-- A raised check names what is left of the lockout. -/
theorem remaining_of_check_error {exc : RateLimitedError}
    (h : ((after limits history).check username now).1 = .error exc) :
    ∃ deadline, (after limits history username).lockedUntil = some deadline ∧ now < deadline ∧
      exc.retryAfterSeconds = deadline - now := by
  rw [LimiterState.check_fst] at h
  obtain ⟨deadline, hLock, hNow⟩ := Entry.locked_of_check_error h
  rw [Entry.check_of_locked hLock hNow] at h
  cases h
  exact ⟨deadline, hLock, hNow, rfl⟩

/-- A check passes exactly from the deadline on. -/
theorem check_ok_iff {entry : Entry} {deadline : ℚ} (hLock : entry.lockedUntil = some deadline) :
    (entry.check now).1 = .ok () ↔ deadline ≤ now := by
  obtain ⟨deadline', hLock', hNow, hCheck⟩ | ⟨deadline', hLock', hNow, hCheck⟩ | ⟨hNone, -⟩ :=
    Entry.check_cases now entry
  · obtain rfl := Option.some.inj (hLock.symm.trans hLock')
    simp [hCheck, hNow]
  · obtain rfl := Option.some.inj (hLock.symm.trans hLock')
    simp [hCheck, hNow]
  · rw [hLock] at hNone
    cases hNone

/-- The promise of a message that names `seconds`: in every continuation of
the run without a call for the username, a check after the seconds passes. -/
def RetryKept (limits : Limits) (history : List Call) (username : PyStr) (now : ℚ)
    (seconds : ℤ) : Prop :=
  ∀ between later, (∀ call ∈ between, call.username ≠ username) → now + seconds ≤ later →
    Chronological (⟨username, later, .check⟩ :: between ++ ⟨username, now, .check⟩ :: history) →
    ((after limits (between ++ ⟨username, now, .check⟩ :: history)).check username later).1 =
      .ok ()

/-- A message keeps its promise exactly when what is left of the lockout does
not round down. -/
theorem retry_after_kept_iff
    (hChrono : Chronological (⟨username, now, .check⟩ :: history)) {exc : RateLimitedError}
    (hRaises : ((after limits history).check username now).1 = .error exc) {seconds : ℤ}
    (hMessage : exc.message = retryMessage seconds) :
    RetryKept limits history username now seconds ↔
      ∃ deadline, (after limits history username).lockedUntil = some deadline ∧
        RoundsUp (deadline - now) := by
  obtain ⟨deadline, hLock, hNow, hRemaining⟩ := remaining_of_check_error hRaises
  have hSeconds : seconds = roundHalfEven exc.retryAfterSeconds := by
    rw [message_eq] at hMessage
    exact (retryMessage_inj hMessage).symm
  rw [hRemaining] at hSeconds
  have hEntry {between : List Call} (hOthers : ∀ call ∈ between, call.username ≠ username) :
      after limits (between ++ ⟨username, now, .check⟩ :: history) username =
        after limits history username := by
    rw [after_others hOthers, after_check_error hRaises]
  have hLong : deadline - now ≤ seconds ↔ RoundsUp (deadline - now) := by
    rw [hSeconds, le_roundHalfEven_iff]
  constructor
  · intro hKept
    have hNonneg : (0 : ℚ) ≤ seconds := by
      have hRounded := roundHalfEven_nonneg (sub_nonneg.mpr hNow.le)
      rw [← hSeconds] at hRounded
      exact_mod_cast hRounded
    have hNext : Chronological (⟨username, now + seconds, .check⟩ ::
        ([] : List Call) ++ ⟨username, now, .check⟩ :: history) := by
      refine List.pairwise_cons.mpr ⟨fun call hMem => ?_, hChrono⟩
      have hBefore : call.time ≤ now := by
        rcases List.mem_cons.mp hMem with rfl | hPast
        · exact le_rfl
        · exact (List.pairwise_cons.mp hChrono).1 call hPast
      linarith
    have hPasses := hKept [] (now + seconds) (by simp) le_rfl hNext
    rw [LimiterState.check_fst, hEntry (by simp), check_ok_iff hLock] at hPasses
    exact ⟨deadline, hLock, hLong.mp (by linarith)⟩
  · rintro ⟨deadline', hLock', hRounds⟩ between later hOthers hLater -
    obtain rfl := Option.some.inj (hLock.symm.trans hLock')
    rw [LimiterState.check_fst, hEntry hOthers, check_ok_iff hLock]
    linarith [hLong.mpr hRounds]

end Promise

section Cases

/-- One failure at the start, under `strictLimits`: locked for five seconds. -/
def oneFailure : List Call := [⟨py "gstark", 0, .recordFailure⟩]

theorem oneFailure_locked :
    (after strictLimits oneFailure (py "gstark")).lockedUntil = some 5 := by
  have hEntry : after strictLimits oneFailure (py "gstark") =
      Entry.recordFailure strictLimits 0 none := apply_self strictLimits _ rfl
  have hEnough (n : Nat) : strictLimits.maxAttempts ≤ n + 1 := Nat.le_add_left 1 n
  rw [hEntry, Entry.lockedUntil_recordFailure, if_pos (hEnough _)]
  norm_num [strictLimits]

theorem oneFailure_raises {now : ℚ} (h : now < 5) :
    ((after strictLimits oneFailure).check (py "gstark") now).1 = .error ⟨5 - now⟩ := by
  rw [LimiterState.check_fst, Entry.check_of_locked oneFailure_locked h]

theorem oneFailure_chronological {now : ℚ} (h : 0 ≤ now) :
    Chronological (⟨py "gstark", now, .check⟩ :: oneFailure) := by
  simpa [Chronological, oneFailure] using h

/-- With 4.4 seconds left the message says four, and when they are over the
username is still locked. -/
theorem retry_after_rounds_down :
    ∃ exc : RateLimitedError,
      ((after strictLimits oneFailure).check (py "gstark") (3 / 5)).1 = .error exc ∧
      exc.message = retryMessage 4 ∧
      ((after strictLimits (⟨py "gstark", 3 / 5, .check⟩ :: oneFailure)).check (py "gstark")
        (3 / 5 + 4)).1 ≠ .ok () ∧
      ¬ RetryKept strictLimits oneFailure (py "gstark") (3 / 5) 4 := by
  have hRaises := @oneFailure_raises (3 / 5) (by norm_num)
  have hLocked : ((after strictLimits (⟨py "gstark", 3 / 5, .check⟩ :: oneFailure)).check
      (py "gstark") (3 / 5 + 4)).1 ≠ .ok () := by
    rw [after_check_error hRaises, oneFailure_raises (by norm_num)]
    simp
  have hFour : roundHalfEven (5 - 3 / 5) = 4 := by
    have hFloor : ⌊(5 - 3 / 5 : ℚ)⌋ = 4 := by norm_num [Int.floor_eq_iff]
    norm_num [roundHalfEven, hFloor]
  refine ⟨_, hRaises, ?_, hLocked, fun hKept => hLocked ?_⟩
  · exact (message_eq _).trans (congrArg retryMessage hFour)
  · exact hKept [] (3 / 5 + 4) (by simp) (by norm_num) (by norm_num [Chronological, oneFailure])

/-- With four seconds left the promise is kept. -/
theorem retry_after_whole : RetryKept strictLimits oneFailure (py "gstark") 1 4 := by
  have hFour : roundHalfEven (5 - 1) = 4 := by
    have hFloor : ⌊(5 - 1 : ℚ)⌋ = 4 := by norm_num [Int.floor_eq_iff]
    norm_num [roundHalfEven, hFloor]
  refine (retry_after_kept_iff (oneFailure_chronological (by norm_num))
    (oneFailure_raises (by norm_num))
    ((message_eq _).trans (congrArg retryMessage hFour))).mpr ?_
  refine ⟨5, oneFailure_locked, .inl ?_⟩
  norm_num [Int.fract_eq_iff]

end Cases

end Krb5TokenService.RateLimit
