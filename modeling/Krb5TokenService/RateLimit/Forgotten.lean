import Krb5TokenService.RateLimit.Serial

/-! What the limiter forgets: failures that the window has left behind, and
with the next check a lockout that has run out. -/
namespace Krb5TokenService.RateLimit

open SlidingWindow

variable {limits : Limits} {now : ℚ} {entry entry' : Entry}

/-- The same lockout, and the same failures within the window. -/
structure Interchangeable (limits : Limits) (now : ℚ) (entry entry' : Entry) : Prop where
  lockedUntil : entry'.lockedUntil = entry.lockedUntil
  failures : recent limits.windowSeconds now entry'.failureTimes =
    recent limits.windowSeconds now entry.failureTimes

namespace Interchangeable

protected theorem refl : Interchangeable limits now entry entry := ⟨rfl, rfl⟩

theorem later (h : Interchangeable limits now entry entry') {later : ℚ} (hNow : now ≤ later) :
    Interchangeable limits later entry entry' where
  lockedUntil := h.lockedUntil
  failures := by
    rw [← recent_recent le_rfl hNow, h.failures, recent_recent le_rfl hNow]

/-- An entry without a lockout and without a failure in the window is as good
as none. -/
theorem of_idle (hLock : entry.lockedUntil = none)
    (hIdle : ∀ t ∈ entry.failureTimes, limits.windowSeconds ≤ now - t) :
    Interchangeable limits now entry none where
  lockedUntil := hLock.symm
  failures := (recent_eq_nil hIdle).symm

variable (h : Interchangeable limits now entry entry')

include h

/-- No check tells them apart, and none makes a difference. -/
theorem check : (entry'.check now).1 = (entry.check now).1 ∧
    Interchangeable limits now (entry.check now).2 (entry'.check now).2 := by
  obtain ⟨lockedUntil, hLock, hNow, hCheck⟩ | ⟨lockedUntil, hLock, hNow, hCheck⟩ |
    ⟨hLock, hCheck⟩ := Entry.check_cases now entry
  · have hLock' := h.lockedUntil.trans hLock
    rw [hCheck, Entry.check_of_locked hLock' hNow]
    exact ⟨rfl, h⟩
  · have hCheck' : entry'.check now = (.ok (), some {}) := by
      obtain ⟨other, hOther, hBefore, -⟩ | ⟨_, _, _, hCheck'⟩ | ⟨hOther, -⟩ :=
        Entry.check_cases now entry'
      · rw [h.lockedUntil, hLock] at hOther
        obtain rfl := Option.some.inj hOther
        exact absurd hBefore (not_lt.mpr hNow)
      · exact hCheck'
      · rw [h.lockedUntil, hLock] at hOther
        cases hOther
    rw [hCheck, hCheck']
    exact ⟨rfl, .refl⟩
  · have hCheck' : entry'.check now = (.ok (), entry') := by
      obtain ⟨_, hOther, _⟩ | ⟨_, hOther, _⟩ | ⟨-, hCheck'⟩ := Entry.check_cases now entry'
      · rw [h.lockedUntil, hLock] at hOther
        cases hOther
      · rw [h.lockedUntil, hLock] at hOther
        cases hOther
      · exact hCheck'
    rw [hCheck, hCheck']
    exact ⟨rfl, h⟩

theorem recordFailure :
    Interchangeable limits now (entry.recordFailure limits now)
      (entry'.recordFailure limits now) where
  lockedUntil := by
    rw [Entry.lockedUntil_recordFailure, Entry.lockedUntil_recordFailure, h.failures, h.lockedUntil]
  failures := by
    rw [Entry.failureTimes_recordFailure, Entry.failureTimes_recordFailure, h.failures]

theorem settle (ending : Ending) :
    Interchangeable limits now (entry.settle limits now ending)
      (entry'.settle limits now ending) := by
  cases ending with
  | bad => exact h.recordFailure
  | ok => exact .refl
  | other => exact h

end Interchangeable

/-- A lockout that has run out and has not been checked since. -/
def Lapsed (now : ℚ) (entry : Entry) : Prop :=
  ∃ lockedUntil, entry.lockedUntil = some lockedUntil ∧ lockedUntil ≤ now

/-- Two entries that no one can tell apart: if nothing is recorded before the
next check, one of them may hold a lockout that has run out, and the other
nothing that counts. -/
def AsGood (limits : Limits) (now : ℚ) (recorded : Prop) (entry entry' : Entry) : Prop :=
  Interchangeable limits now entry entry' ∨
    ¬ recorded ∧ Lapsed now entry ∧ Interchangeable limits now none entry'

namespace AsGood

variable {recorded : Prop}

theorem interchangeable (h : AsGood limits now recorded entry entry') (hRecorded : recorded) :
    Interchangeable limits now entry entry' :=
  h.resolve_right fun hLapsed => hLapsed.1 hRecorded

theorem later (h : AsGood limits now recorded entry entry') {time : ℚ} (hNow : now ≤ time) :
    AsGood limits time recorded entry entry' := by
  obtain h | ⟨hNot, ⟨lockedUntil, hLock, hBefore⟩, hNone⟩ := h
  · exact .inl (h.later hNow)
  · exact .inr ⟨hNot, ⟨lockedUntil, hLock, hBefore.trans hNow⟩, hNone.later hNow⟩

theorem of_implies {recorded' : Prop} (h : AsGood limits now recorded entry entry')
    (hLess : recorded' → recorded) : AsGood limits now recorded' entry entry' :=
  h.imp_right fun hLapsed => ⟨fun hRecorded => hLapsed.1 (hLess hRecorded), hLapsed.2⟩

/-- Whatever they differ in, a check passes both or neither, and forgets it. -/
theorem check (h : AsGood limits now recorded entry entry') :
    (entry'.check now).1 = (entry.check now).1 ∧
      Interchangeable limits now (entry.check now).2 (entry'.check now).2 := by
  obtain h | ⟨-, ⟨lockedUntil, hLock, hBefore⟩, hNone⟩ := h
  · exact h.check
  · obtain ⟨hPass, hNext⟩ := hNone.check
    obtain ⟨other, hOther, hNow, -⟩ | ⟨_, _, _, hCheck⟩ | ⟨hOther, -⟩ :=
      Entry.check_cases now entry
    · rw [hLock] at hOther
      obtain rfl := Option.some.inj hOther
      exact absurd hNow (not_lt.mpr hBefore)
    · rw [hCheck]
      exact ⟨hPass, hNext.lockedUntil, hNext.failures⟩
    · rw [hLock] at hOther
      cases hOther

end AsGood

end Krb5TokenService.RateLimit
