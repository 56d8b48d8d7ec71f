import Krb5TokenService.RateLimit.Limiter
import Mathlib.Tactic.Linarith

/-! The limiter under calls in any order, as concurrently handled requests
produce them, against an account of the same calls that forgets nothing it
counts. The limiter keeps a pruned list and one deadline; the account keeps
every failure since the last clearing and the failure that locked last. -/
namespace Krb5TokenService.RateLimit

open Python SlidingWindow

inductive Method where
  | check
  | recordFailure
  | reset
deriving DecidableEq

structure Call where
  username : PyStr
  time : ℚ
  method : Method

/-- Histories list their newest call first. The clock never goes back. -/
def Chronological (history : List Call) : Prop :=
  history.Pairwise fun later earlier => earlier.time ≤ later.time

def LimiterState.apply (limits : Limits) (state : LimiterState) (call : Call) : LimiterState :=
  match call.method with
  | .check => (state.check call.username call.time).2
  | .recordFailure => state.recordFailure limits call.username call.time
  | .reset => state.reset call.username

/-- The limiter's state after a whole history, from a fresh limiter. -/
def after (limits : Limits) : List Call → LimiterState
  | [] => fun _ => none
  | call :: past => (after limits past).apply limits call

/-- A failure at `s` locks when enough counted failures, itself included,
lie in `(s - window, s]`. -/
def Locks (limits : Limits) (counted : List ℚ) (s : ℚ) : Prop :=
  limits.maxAttempts ≤ (counted ++ [s]).countP fun t =>
    decide (s - limits.windowSeconds < t ∧ t ≤ s)

instance (limits : Limits) (counted : List ℚ) (s : ℚ) : Decidable (Locks limits counted s) :=
  inferInstanceAs (Decidable (_ ≤ _))

/-- What a history says about one username, with nothing pruned: the failures
since it was last cleared, oldest first, and the last one of them that locked. -/
structure Standing where
  counted : List ℚ
  lockStart : Option ℚ

namespace Standing

def clear : Standing := ⟨[], none⟩

/-- A check at `t` finds a lockout that has run out. -/
def Expired (limits : Limits) (standing : Standing) (t : ℚ) : Prop :=
  ∃ s ∈ standing.lockStart, s + limits.lockoutSeconds ≤ t

instance (limits : Limits) (standing : Standing) (t : ℚ) :
    Decidable (standing.Expired limits t) :=
  inferInstanceAs (Decidable (∃ s ∈ standing.lockStart, _))

def call (limits : Limits) (standing : Standing) (t : ℚ) : Method → Standing
  | .check => if standing.Expired limits t then clear else standing
  | .recordFailure =>
      ⟨standing.counted ++ [t],
        if Locks limits standing.counted t then some t else standing.lockStart⟩
  | .reset => clear

end Standing

/-- A username's standing after a history, from the history alone. -/
def standing (limits : Limits) (username : PyStr) : List Call → Standing
  | [] => .clear
  | call :: past =>
      if call.username = username then
        (standing limits username past).call limits call.time call.method
      else standing limits username past

/-- A `record_failure` at `s` that locks, coming after this history. -/
def Locking (limits : Limits) (username : PyStr) (past : List Call) (s : ℚ) : Prop :=
  Locks limits (standing limits username past).counted s

/-- The limiter's entry is the standing seen through the window: what it
pruned is out of every later window as well. -/
structure Refines (limits : Limits) (entry : Entry) (standing : Standing) (now : ℚ) : Prop where
  window : ∀ later, now ≤ later →
    recent limits.windowSeconds later entry.failureTimes =
      recent limits.windowSeconds later standing.counted
  past : ∀ t ∈ standing.counted, t ≤ now
  locked : entry.lockedUntil = standing.lockStart.map (· + limits.lockoutSeconds)

namespace Refines

variable {limits : Limits} {entry : Entry} {standing : Standing} {now later : ℚ}

theorem clear : Refines limits none .clear now :=
  ⟨fun _ _ => rfl, by simp [Standing.clear], rfl⟩

theorem cleared : Refines limits (some {}) .clear now :=
  ⟨fun _ _ => rfl, by simp [Standing.clear], rfl⟩

theorem mono (h : Refines limits entry standing now) (hNow : now ≤ later) :
    Refines limits entry standing later :=
  ⟨fun t ht => h.window t (hNow.trans ht), fun t ht => (h.past t ht).trans hNow, h.locked⟩

/-- The lockout the standing has started is the one the entry holds. -/
theorem lockedUntil_eq_some_iff (h : Refines limits entry standing now) {deadline : ℚ} :
    entry.lockedUntil = some deadline ↔
      ∃ s, standing.lockStart = some s ∧ s + limits.lockoutSeconds = deadline := by
  rw [h.locked, Option.map_eq_some_iff]

theorem check (h : Refines limits entry standing now) :
    Refines limits (entry.check now).2 (standing.call limits now .check) now := by
  obtain ⟨deadline, hLock, hNow, hCheck⟩ | ⟨deadline, hLock, hNow, hCheck⟩ | ⟨hLock, hCheck⟩ :=
    Entry.check_cases now entry
  · obtain ⟨s, hStart, rfl⟩ := h.lockedUntil_eq_some_iff.mp hLock
    have hNot : ¬ standing.Expired limits now := by
      simpa [Standing.Expired, hStart] using hNow
    simpa [Standing.call, hNot, hCheck] using h
  · obtain ⟨s, hStart, rfl⟩ := h.lockedUntil_eq_some_iff.mp hLock
    have hExpired : standing.Expired limits now := ⟨s, hStart, hNow⟩
    simpa [Standing.call, hExpired, hCheck] using cleared
  · have hStart : standing.lockStart = none := by simpa [h.locked] using hLock
    have hNot : ¬ standing.Expired limits now := by simp [Standing.Expired, hStart]
    simpa [Standing.call, hNot, hCheck] using h

/-- The pruned list is long enough to lock exactly when the history is. -/
theorem locks_iff (h : Refines limits entry standing now) :
    limits.maxAttempts ≤ (recent limits.windowSeconds now entry.failureTimes).length + 1 ↔
      Locks limits standing.counted now := by
  have hPast : ∀ t ∈ standing.counted ++ [now], t ≤ now := by
    intro t ht
    rcases List.mem_append.mp ht with hOld | hNew
    · exact h.past t hOld
    · exact (List.mem_singleton.mp hNew).le
  rw [Locks, ← recent_length_eq_countP hPast, recent_append, h.window now le_rfl,
    recent_singleton_self limits.windowSeconds_pos, List.length_append, List.length_singleton]

theorem recordFailure (h : Refines limits entry standing now) :
    Refines limits (entry.recordFailure limits now)
      (standing.call limits now .recordFailure) now := by
  refine ⟨?_, ?_, ?_⟩
  · intro t ht
    simp only [Entry.failureTimes_recordFailure, Standing.call, recent_append,
      recent_recent le_rfl ht, h.window t ht]
  · intro t ht
    rcases List.mem_append.mp ht with hOld | hNew
    · exact h.past t hOld
    · exact (List.mem_singleton.mp hNew).le
  · simp only [Entry.lockedUntil_recordFailure, h.locks_iff]
    by_cases hLocks : Locks limits standing.counted now
    · simp [Standing.call, hLocks]
    · simp [Standing.call, hLocks, h.locked]

end Refines

section

variable (limits : Limits) {username : PyStr}

theorem apply_self (state : LimiterState) {call : Call} (hUser : call.username = username) :
    state.apply limits call username =
      match call.method with
      | .check => ((state username).check call.time).2
      | .recordFailure => (state username).recordFailure limits call.time
      | .reset => none := by
  subst hUser
  unfold LimiterState.apply
  cases call.method <;> simp

theorem apply_other (state : LimiterState) {call : Call} (hUser : call.username ≠ username) :
    state.apply limits call username = state username := by
  unfold LimiterState.apply
  cases call.method with
  | check => exact LimiterState.check_other state call.time hUser.symm
  | recordFailure => exact LimiterState.recordFailure_other limits state call.time hUser.symm
  | reset => exact LimiterState.reset_other state hUser.symm

/-- One call keeps the limiter's entry and the standing in step. -/
theorem Refines.apply {state : LimiterState} {past : List Call} {call : Call}
    (hUser : call.username = username)
    (h : Refines limits (state username) (standing limits username past) call.time) :
    Refines limits (state.apply limits call username) (standing limits username (call :: past))
      call.time := by
  rw [apply_self limits state hUser, standing, if_pos hUser]
  cases call.method with
  | check => exact h.check
  | recordFailure => exact h.recordFailure
  | reset => exact Refines.clear

variable (username) in
/-- After any history the limiter refines the standing, at every later time. -/
theorem after_refines {history : List Call} (hSorted : Chronological history) {now : ℚ}
    (hNow : ∀ call ∈ history, call.time ≤ now) :
    Refines limits (after limits history username) (standing limits username history) now := by
  induction history generalizing now with
  | nil => exact Refines.clear
  | cons call past ih =>
      obtain ⟨hLast, hPast⟩ := List.pairwise_cons.mp hSorted
      by_cases hUser : call.username = username
      · have hStep := Refines.apply limits hUser (ih hPast hLast)
        exact hStep.mono (hNow call List.mem_cons_self)
      · rw [after, apply_other limits _ hUser, standing, if_neg hUser]
        exact ih hPast fun c hc => hNow c (List.mem_cons_of_mem call hc)

variable (username) in
/-- The calls for one username decide its entry and its standing. -/
theorem after_filter (history : List Call) :
    after limits (history.filter fun call => decide (call.username = username)) username =
        after limits history username ∧
      standing limits username (history.filter fun call => decide (call.username = username)) =
        standing limits username history := by
  induction history with
  | nil => exact ⟨rfl, rfl⟩
  | cons call past ih =>
      obtain ⟨hAfter, hStanding⟩ := ih
      by_cases hUser : call.username = username
      · simp only [hUser, decide_true, List.filter_cons_of_pos, after, standing, if_true,
          apply_self limits _ hUser, hAfter, hStanding, and_self]
      · simp only [hUser, decide_false, Bool.false_eq_true, not_false_eq_true,
          List.filter_cons_of_neg, after, standing, if_false, apply_other limits _ hUser,
          hAfter, hStanding, and_self]

variable {limits}

/-- A lockout is not shortened: until it runs out, only a reset ends it. -/
theorem lockStart_of_locking {past : List Call} {s : ℚ} (hLocking : Locking limits username past s)
    (mid : List Call) (hReset : ∀ call ∈ mid, call.username = username → call.method ≠ .reset)
    (hTime : ∀ call ∈ mid, s ≤ call.time ∧ call.time < s + limits.lockoutSeconds) :
    ∃ start, s ≤ start ∧
      (standing limits username (mid ++ ⟨username, s, .recordFailure⟩ :: past)).lockStart =
        some start := by
  induction mid with
  | nil =>
      refine ⟨s, le_rfl, ?_⟩
      have hLocks : Locks limits (standing limits username past).counted s := hLocking
      simp [standing, Standing.call, hLocks]
  | cons call mid ih =>
      obtain ⟨start, hStart, hLock⟩ := ih (fun c hc => hReset c (List.mem_cons_of_mem call hc))
        (fun c hc => hTime c (List.mem_cons_of_mem call hc))
      obtain ⟨hAfter, hBefore⟩ := hTime call List.mem_cons_self
      rw [List.cons_append, standing]
      by_cases hUser : call.username = username
      · rw [if_pos hUser]
        cases hMethod : call.method with
        | check =>
            -- the lockout ends at `start + lockout`, which is still to come
            have hNot : ¬ Standing.Expired limits
                (standing limits username (mid ++ ⟨username, s, .recordFailure⟩ :: past))
                call.time := by
              simp only [Standing.Expired, hLock, Option.mem_def, Option.some.injEq,
                exists_eq_left', not_le]
              linarith
            exact ⟨start, hStart, by simp [Standing.call, hNot, hLock]⟩
        | recordFailure =>
            simp only [Standing.call]
            split
            · exact ⟨call.time, hAfter, rfl⟩
            · exact ⟨start, hStart, hLock⟩
        | reset => exact absurd hMethod (hReset call List.mem_cons_self hUser)
      · rw [if_neg hUser]
        exact ⟨start, hStart, hLock⟩

/-- A lockout is not invented: it began with a locking failure that no reset
has followed. -/
theorem locking_of_lockStart {history : List Call} {s : ℚ}
    (h : (standing limits username history).lockStart = some s) :
    ∃ mid past, history = mid ++ ⟨username, s, .recordFailure⟩ :: past ∧
      Locking limits username past s ∧
      ∀ call ∈ mid, call.username = username → call.method ≠ .reset := by
  induction history with
  | nil => simp [standing, Standing.clear] at h
  | cons call past ih =>
      have hExtend (hPast : (standing limits username past).lockStart = some s)
          (hKeep : call.username = username → call.method ≠ .reset) :
          ∃ mid older, call :: past = mid ++ ⟨username, s, .recordFailure⟩ :: older ∧
            Locking limits username older s ∧
            ∀ c ∈ mid, c.username = username → c.method ≠ .reset := by
        obtain ⟨mid, older, hEq, hLocking, hReset⟩ := ih hPast
        refine ⟨call :: mid, older, by rw [hEq, List.cons_append], hLocking, ?_⟩
        intro c hc
        rcases List.mem_cons.mp hc with rfl | hc
        · exact hKeep
        · exact hReset c hc
      rw [standing] at h
      by_cases hUser : call.username = username
      · rw [if_pos hUser] at h
        obtain ⟨name, time, method⟩ := call
        obtain rfl : name = username := hUser
        cases method with
        | check =>
            simp only [Standing.call] at h
            split at h
            · simp [Standing.clear] at h
            · exact hExtend h fun _ hEq => by cases hEq
        | recordFailure =>
            simp only [Standing.call] at h
            split at h
            · rename_i hLocks
              obtain rfl : time = s := Option.some.inj h
              exact ⟨[], past, rfl, hLocks, by simp⟩
            · exact hExtend h fun _ hEq => by cases hEq
        | reset => simp [Standing.call, Standing.clear] at h
      · rw [if_neg hUser] at h
        exact hExtend h fun hEq => absurd hEq hUser

theorem check_raises_of_locking {past mid : List Call} {s t : ℚ}
    (hSorted : Chronological
      (⟨username, t, .check⟩ :: (mid ++ ⟨username, s, .recordFailure⟩ :: past)))
    (hLocking : Locking limits username past s)
    (hReset : ∀ call ∈ mid, call.username = username → call.method ≠ .reset)
    (hTime : t < s + limits.lockoutSeconds) :
    ∃ exc : RateLimitedError,
      ((after limits (mid ++ ⟨username, s, .recordFailure⟩ :: past)).check username t).1 =
        .error exc ∧
      s + limits.lockoutSeconds - t ≤ exc.retryAfterSeconds := by
  obtain ⟨hLast, hHistory⟩ := List.pairwise_cons.mp hSorted
  have hMid : ∀ call ∈ mid, s ≤ call.time ∧ call.time < s + limits.lockoutSeconds := by
    intro call hCall
    have hFirst := (List.pairwise_append.mp hHistory).2.2 call hCall _ List.mem_cons_self
    exact ⟨hFirst, (hLast call (List.mem_append_left _ hCall)).trans_lt hTime⟩
  obtain ⟨start, hStart, hLock⟩ := lockStart_of_locking hLocking mid hReset hMid
  have hRefines := after_refines limits username hHistory hLast
  have hDeadline := hRefines.lockedUntil_eq_some_iff.mpr ⟨start, hLock, rfl⟩
  have hLater : t < start + limits.lockoutSeconds := by linarith
  have hCheck := Entry.check_of_locked hDeadline hLater
  refine ⟨_, by rw [LimiterState.check_fst, hCheck], ?_⟩
  simp only
  linarith

theorem locking_of_check_raises {history : List Call} {t : ℚ} {exc : RateLimitedError}
    (hSorted : Chronological (⟨username, t, .check⟩ :: history))
    (hRaise : ((after limits history).check username t).1 = .error exc) :
    ∃ mid past s, history = mid ++ ⟨username, s, .recordFailure⟩ :: past ∧
      Locking limits username past s ∧
      (∀ call ∈ mid, call.username = username → call.method ≠ .reset) ∧
      t < s + limits.lockoutSeconds := by
  obtain ⟨hLast, hHistory⟩ := List.pairwise_cons.mp hSorted
  have hRefines := after_refines limits username hHistory hLast
  rw [LimiterState.check_fst] at hRaise
  obtain ⟨deadline, hLocked, hNow⟩ := Entry.locked_of_check_error hRaise
  obtain ⟨s, hLock, rfl⟩ := hRefines.lockedUntil_eq_some_iff.mp hLocked
  obtain ⟨mid, past, hEq, hLocking, hReset⟩ := locking_of_lockStart hLock
  exact ⟨mid, past, s, hEq, hLocking, hReset, hNow⟩

end

/-- Under calls in any order a lockout is neither shortened nor invented: a
locking failure makes every check up to its deadline raise unless a reset
comes first, a check raises only after such a failure, and the calls for
other usernames do not matter. -/
theorem lockouts_follow_history (limits : Limits) (username : PyStr) :
    (∀ (past mid : List Call) (s t : ℚ),
      Chronological
        (⟨username, t, .check⟩ :: (mid ++ ⟨username, s, .recordFailure⟩ :: past)) →
      Locking limits username past s →
      (∀ call ∈ mid, call.username = username → call.method ≠ .reset) →
      t < s + limits.lockoutSeconds →
      ∃ exc : RateLimitedError,
        ((after limits (mid ++ ⟨username, s, .recordFailure⟩ :: past)).check username t).1 =
          .error exc ∧
        s + limits.lockoutSeconds - t ≤ exc.retryAfterSeconds) ∧
    (∀ (history : List Call) (t : ℚ) (exc : RateLimitedError),
      Chronological (⟨username, t, .check⟩ :: history) →
      ((after limits history).check username t).1 = .error exc →
      ∃ mid past s, history = mid ++ ⟨username, s, .recordFailure⟩ :: past ∧
        Locking limits username past s ∧
        (∀ call ∈ mid, call.username = username → call.method ≠ .reset) ∧
        t < s + limits.lockoutSeconds) ∧
    (∀ (history : List Call) (t : ℚ),
      ((after limits history).check username t).1 =
        ((after limits (history.filter fun call => decide (call.username = username))).check
          username t).1 ∧
      (Locking limits username history t ↔
        Locking limits username
          (history.filter fun call => decide (call.username = username)) t)) := by
  refine ⟨fun _ _ _ _ => check_raises_of_locking, fun _ _ _ => locking_of_check_raises, ?_⟩
  intro history t
  obtain ⟨hAfter, hStanding⟩ := after_filter limits username history
  simp [LimiterState.check_fst, hAfter, Locking, hStanding]

/-- One attempt is allowed; its failure locks at once, for five seconds. -/
def strictLimits : Limits := ⟨1, 10, 5, by decide, by norm_num, by norm_num⟩

theorem one_failure_locks_out :
    ∃ exc : RateLimitedError,
      ((after strictLimits [⟨py "gstark", 0, .recordFailure⟩]).check (py "gstark") 1).1 =
          .error exc ∧
        ∃ mid past s, [⟨py "gstark", 0, .recordFailure⟩] =
            mid ++ ⟨py "gstark", s, .recordFailure⟩ :: past ∧
          Locking strictLimits (py "gstark") past s ∧
          (∀ call ∈ mid, call.username = py "gstark" → call.method ≠ .reset) ∧
          1 < s + strictLimits.lockoutSeconds := by
  obtain ⟨raises, raised, -⟩ := lockouts_follow_history strictLimits (py "gstark")
  have hSorted : Chronological
      [⟨py "gstark", 1, .check⟩, ⟨py "gstark", 0, .recordFailure⟩] := by
    simp [Chronological]
  have hLocking : Locks strictLimits (standing strictLimits (py "gstark") []).counted 0 := by
    decide +kernel
  obtain ⟨exc, hRaise, -⟩ := raises [] [] 0 1 hSorted hLocking (by simp)
    (by norm_num [strictLimits])
  exact ⟨exc, hRaise, raised _ 1 exc hSorted hRaise⟩

end Krb5TokenService.RateLimit
