import Krb5TokenService.RateLimit.Budget
import Krb5TokenService.RateLimit.History

/-! Password attempts for one username made one after the other. The limiter
admits exactly the attempts that a reference admits which looks only at how
the earlier ones ended. -/
namespace Krb5TokenService.RateLimit

open Python SlidingWindow

/-- An attempt calls `check` at one time and, if that passes, ends later. -/
structure Attempt where
  checkAt : ℚ
  endAt : ℚ
  ending : Ending
  checkAt_le_endAt : checkAt ≤ endAt

/-- Oldest first; the next attempt starts at or after the end of the last. -/
def Serialised (attempts : List Attempt) : Prop :=
  attempts.Pairwise fun earlier later => earlier.endAt ≤ later.checkAt

def LimiterState.settle (limits : Limits) (state : LimiterState) (username : PyStr) (now : ℚ) :
    Ending → LimiterState
  | .bad => state.recordFailure limits username now
  | .ok => state.reset username
  | .other => state

theorem LimiterState.settle_self (limits : Limits) (state : LimiterState) (username : PyStr)
    (now : ℚ) (ending : Ending) :
    state.settle limits username now ending username =
      (state username).settle limits now ending := by
  cases ending with
  | bad => exact recordFailure_self limits state username now
  | ok => exact reset_self state username
  | other => rfl

theorem LimiterState.settle_other (limits : Limits) (state : LimiterState) (now : ℚ)
    (ending : Ending) {username other : PyStr} (hOther : other ≠ username) :
    state.settle limits username now ending other = state other := by
  cases ending with
  | bad => exact recordFailure_other limits state now hOther
  | ok => exact reset_other state hOther
  | other => rfl

/-- Only a bad ending leaves what a recorded failure leaves. -/
theorem LimiterState.settle_ne_recordFailure (limits : Limits) (state : LimiterState)
    (username : PyStr) (now : ℚ) {ending : Ending} (hEnding : ending ≠ .bad) :
    state.settle limits username now ending ≠ state.recordFailure limits username now := by
  cases ending with
  | bad => exact absurd rfl hEnding
  | ok =>
      intro h
      have hEntry := congrFun h username
      simp [settle, Entry.recordFailure] at hEntry
  | other => exact (recordFailure_ne limits state username now).symm

/-- Which attempts the limiter admits, and how the admitted ones ended. -/
def runLimiter (limits : Limits) (username : PyStr) :
    LimiterState → List Ended → List Attempt → List Bool × List Ended
  | _, past, [] => ([], past)
  | state, past, a :: rest =>
      match state.check username a.checkAt with
      | (.error _, checked) =>
          let later := runLimiter limits username checked past rest
          (false :: later.1, later.2)
      | (.ok (), checked) =>
          let later := runLimiter limits username
            (checked.settle limits username a.endAt a.ending) (⟨a.endAt, a.ending⟩ :: past) rest
          (true :: later.1, later.2)

/-- The bad endings after the last ok and after the previous lock-start,
oldest first. -/
def sinceLockStart (limits : Limits) : List Ended → List ℚ
  | [] => []
  | ⟨s, .bad⟩ :: past =>
      if Locks limits (sinceLockStart limits past) s then []
      else sinceLockStart limits past ++ [s]
  | ⟨_, .ok⟩ :: _ => []
  | ⟨_, .other⟩ :: past => sinceLockStart limits past

def lockStarts (limits : Limits) : List Ended → List ℚ
  | [] => []
  | ⟨s, .bad⟩ :: past =>
      if Locks limits (sinceLockStart limits past) s then s :: lockStarts limits past
      else lockStarts limits past
  | ⟨_, .ok⟩ :: past => lockStarts limits past
  | ⟨_, .other⟩ :: past => lockStarts limits past

/-- The reference: no lock-start so far reaches past `c`. -/
def Admits (limits : Limits) (past : List Ended) (c : ℚ) : Prop :=
  ∀ s ∈ lockStarts limits past, ¬ c < s + limits.lockoutSeconds

instance (limits : Limits) (past : List Ended) (c : ℚ) : Decidable (Admits limits past c) :=
  inferInstanceAs (Decidable (∀ s ∈ lockStarts limits past, _))

def runReference (limits : Limits) : List Ended → List Attempt → List Bool × List Ended
  | past, [] => ([], past)
  | past, a :: rest =>
      if Admits limits past a.checkAt then
        let later := runReference limits (⟨a.endAt, a.ending⟩ :: past) rest
        (true :: later.1, later.2)
      else
        let later := runReference limits past rest
        (false :: later.1, later.2)

section

variable {limits : Limits} {entry : Entry} {past : List Ended} {now c : ℚ}

/-- No lockout is pending: every lock-start has run out, and the entry holds
what the window still needs of the bad endings since the last one. -/
structure Open (limits : Limits) (entry : Entry) (past : List Ended) (now : ℚ) : Prop where
  refines : Refines limits entry ⟨sinceLockStart limits past, none⟩ now
  elapsed : ∀ s ∈ lockStarts limits past, s + limits.lockoutSeconds ≤ now

/-- The last bad ending was a lock-start, and no attempt was admitted since. -/
structure Locked (limits : Limits) (entry : Entry) (past : List Ended) (s : ℚ) : Prop where
  locked : entry.lockedUntil = some (s + limits.lockoutSeconds)
  start : s ∈ lockStarts limits past
  last : ∀ earlier ∈ lockStarts limits past, earlier ≤ s
  since : sinceLockStart limits past = []

/-- How the limiter's entry and the reference's history go together between
two attempts. -/
def InStep (limits : Limits) (entry : Entry) (past : List Ended) (now : ℚ) : Prop :=
  Open limits entry past now ∨ ∃ s, Locked limits entry past s

theorem Open.mono (h : Open limits entry past now) (hNow : now ≤ c) :
    Open limits entry past c :=
  ⟨h.refines.mono hNow, fun s hs => (h.elapsed s hs).trans hNow⟩

theorem InStep.mono (h : InStep limits entry past now) (hNow : now ≤ c) :
    InStep limits entry past c := by
  rcases h with hOpen | hLocked
  · exact .inl (hOpen.mono hNow)
  · exact .inr hLocked

theorem Open.check (h : Open limits entry past now) :
    entry.check now = (.ok (), entry) ∧ Admits limits past now := by
  have hNone : entry.lockedUntil = none := by simpa using h.refines.locked
  refine ⟨?_, fun s hs => not_lt.mpr (h.elapsed s hs)⟩
  obtain ⟨_, hLock, _⟩ | ⟨_, hLock, _⟩ | ⟨_, hCheck⟩ := Entry.check_cases now entry
  · simp [hNone] at hLock
  · simp [hNone] at hLock
  · exact hCheck

/-- The check decides as the reference does, and an admitted attempt starts
with no lockout pending. -/
theorem InStep.check (h : InStep limits entry past now) :
    (∃ exc, entry.check now = (.error exc, entry) ∧ ¬ Admits limits past now) ∨
      (∃ checked, entry.check now = (.ok (), checked) ∧ Admits limits past now ∧
        Open limits checked past now) := by
  rcases h with hOpen | ⟨s, hLocked⟩
  · obtain ⟨hCheck, hAdmits⟩ := hOpen.check
    exact .inr ⟨entry, hCheck, hAdmits, hOpen⟩
  · by_cases hNow : now < s + limits.lockoutSeconds
    · refine .inl ⟨_, Entry.check_of_locked hLocked.locked hNow, ?_⟩
      exact fun hAdmits => hAdmits s hLocked.start hNow
    · have hOver : ∀ earlier ∈ lockStarts limits past,
          earlier + limits.lockoutSeconds ≤ now := fun earlier hEarlier => by
        linarith [hLocked.last earlier hEarlier]
      refine .inr ⟨some {}, ?_, fun s hs => not_lt.mpr (hOver s hs), ?_, hOver⟩
      · obtain ⟨_, hLock, hLt, _⟩ | ⟨_, _, _, hCheck⟩ | ⟨hNone, _⟩ := Entry.check_cases now entry
        · obtain rfl := Option.some.inj (hLocked.locked.symm.trans hLock)
          exact absurd hLt hNow
        · exact hCheck
        · simp [hLocked.locked] at hNone
      · rw [hLocked.since]
        exact Refines.cleared

/-- Whatever way an admitted attempt ends, limiter and reference stay in step. -/
theorem Open.settle (h : Open limits entry past now) (ending : Ending) :
    InStep limits (entry.settle limits now ending) (⟨now, ending⟩ :: past) now := by
  cases ending with
  | bad =>
      have hRecorded := h.refines.recordFailure
      by_cases hLocks : Locks limits (sinceLockStart limits past) now
      · refine .inr ⟨now, ?_, ?_, ?_, ?_⟩
        · simpa [Standing.call, Entry.settle, hLocks] using hRecorded.locked
        · simp [lockStarts, hLocks]
        · intro earlier hEarlier
          simp only [lockStarts, hLocks, if_true, List.mem_cons] at hEarlier
          rcases hEarlier with rfl | hOld
          · exact le_rfl
          · linarith [h.elapsed earlier hOld, limits.lockoutSeconds_pos]
        · simp [sinceLockStart, hLocks]
      · refine .inl ⟨?_, ?_⟩
        · simpa [Standing.call, sinceLockStart, Entry.settle, hLocks] using hRecorded
        · simpa [lockStarts, hLocks] using h.elapsed
  | ok => exact .inl ⟨Refines.clear, by simpa [lockStarts] using h.elapsed⟩
  | other =>
      exact .inl ⟨by simpa [sinceLockStart, Entry.settle] using h.refines,
        by simpa [lockStarts] using h.elapsed⟩

end

section

variable (limits : Limits) (username : PyStr)

theorem runLimiter_eq_runReference {state : LimiterState} {past : List Ended} {now : ℚ}
    {attempts : List Attempt} (hStep : InStep limits (state username) past now)
    (hSerial : Serialised attempts) (hNow : ∀ a ∈ attempts, now ≤ a.checkAt) :
    runLimiter limits username state past attempts = runReference limits past attempts := by
  induction attempts generalizing state past now with
  | nil => rfl
  | cons a rest ih =>
      obtain ⟨hNext, hRest⟩ := List.pairwise_cons.mp hSerial
      have hBefore := hStep.mono (hNow a List.mem_cons_self)
      rw [runLimiter, runReference]
      obtain ⟨exc, hCheck, hRefused⟩ | ⟨checked, hCheck, hAdmits, hOpen⟩ := hBefore.check
      · have hState : state.check username a.checkAt = (.error exc, state) := by
          simp [LimiterState.check, hCheck]
        rw [hState, if_neg hRefused]
        simp only
        rw [ih hBefore hRest fun b hb => a.checkAt_le_endAt.trans (hNext b hb)]
      · have hState : state.check username a.checkAt =
            (.ok (), Function.update state username checked) := by
          simp [LimiterState.check, hCheck]
        rw [hState, if_pos hAdmits]
        simp only
        have hSettled := (hOpen.mono a.checkAt_le_endAt).settle a.ending
        rw [ih (by simpa [LimiterState.settle_self] using hSettled) hRest hNext]

/-- A serialised attempt is a run of the budget machine with one attempt in
flight at most. -/
theorem runLimiter_withinBudget {state : LimiterState} {past : List Ended} {now : ℚ}
    {attempts : List Attempt}
    (hBudget : Account.Budgeted limits ⟨state username, now, 0, past⟩)
    (hSerial : Serialised attempts) (hNow : ∀ a ∈ attempts, now ≤ a.checkAt) :
    WithinBudget limits (runLimiter limits username state past attempts).2 := by
  induction attempts generalizing state past now with
  | nil => exact hBudget.bounded
  | cons a rest ih =>
      obtain ⟨hNext, hRest⟩ := List.pairwise_cons.mp hSerial
      have hBefore := hBudget.wait (hNow a List.mem_cons_self)
      rw [runLimiter]
      cases hCheck : state.check username a.checkAt with
      | mk result checked =>
          cases result with
          | error exc =>
              have hState := LimiterState.check_state_of_error (congrArg Prod.fst hCheck)
              rw [hCheck] at hState
              obtain rfl : checked = state := hState
              exact ih hBefore hRest fun b hb => a.checkAt_le_endAt.trans (hNext b hb)
          | ok _ =>
              have hPass : ((state username).check a.checkAt).1 = .ok () :=
                congrArg Prod.fst hCheck
              have hEntry : ((state username).check a.checkAt).2 = checked username := by
                rw [← LimiterState.check_self, hCheck]
              have hAdmitted := hBefore.admitted hPass (hBefore.room_of_idle rfl hPass)
              have hEnded := (hAdmitted.wait a.checkAt_le_endAt).settle a.ending Nat.one_pos
              simp only [hEntry] at hEnded
              exact ih (by simpa [LimiterState.settle_self] using hEnded) hRest hNext

/-- On every serialised run of attempts the limiter admits what the reference
admits, and no interval shorter than the window and the lockout that holds no
success holds more bad endings than attempts allowed. -/
theorem serialised_admissions {attempts : List Attempt} (hSerial : Serialised attempts) :
    runLimiter limits username (fun _ => none) [] attempts =
        runReference limits [] attempts ∧
      WithinBudget limits (runLimiter limits username (fun _ => none) [] attempts).2 := by
  cases attempts with
  | nil => exact ⟨rfl, (Account.fresh_budgeted 0).bounded⟩
  | cons a rest =>
      obtain ⟨hNext, _⟩ := List.pairwise_cons.mp hSerial
      have hNow : ∀ b ∈ a :: rest, a.checkAt ≤ b.checkAt := List.forall_mem_cons.mpr
        ⟨le_rfl, fun b hb => a.checkAt_le_endAt.trans (hNext b hb)⟩
      have hOpen : Open limits none [] a.checkAt := ⟨Refines.clear, by simp [lockStarts]⟩
      exact ⟨runLimiter_eq_runReference limits username (.inl hOpen) hSerial hNow,
        runLimiter_withinBudget limits username (Account.fresh_budgeted a.checkAt) hSerial hNow⟩

end

def lastingAttempt (checkAt : ℚ) (ending : Ending) : Attempt :=
  ⟨checkAt, checkAt + 1, ending, by linarith⟩

theorem two_attempts_admitted_alike :
    runLimiter strictLimits (py "gstark") (fun _ => none) []
          [lastingAttempt 0 .bad, lastingAttempt 1 .ok] =
        runReference strictLimits [] [lastingAttempt 0 .bad, lastingAttempt 1 .ok] ∧
      WithinBudget strictLimits (runLimiter strictLimits (py "gstark") (fun _ => none) []
        [lastingAttempt 0 .bad, lastingAttempt 1 .ok]).2 :=
  serialised_admissions strictLimits (py "gstark") (by simp [Serialised, lastingAttempt])

end Krb5TokenService.RateLimit
