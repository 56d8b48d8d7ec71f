import Krb5TokenService.RateLimit.Limiter
import Mathlib.Logic.Relation
import Mathlib.Order.Interval.Set.OrdConnected
import Mathlib.Tactic.Linarith

/-! What the limiter is for: the attempts against one username that end as a
bad password stay within a budget. An attempt that is waiting for its child
is in flight; the machine admits a new one only while the attempts in flight
and the failures still counted leave room for it. -/
namespace Krb5TokenService.RateLimit

open SlidingWindow

/-- How an admitted attempt ends: `record_failure`, `reset`, or neither. -/
inductive Ending where
  | bad
  | ok
  | other
deriving DecidableEq

structure Ended where
  time : ℚ
  ending : Ending

def Entry.settle (limits : Limits) (now : ℚ) (entry : Entry) : Ending → Entry
  | .bad => entry.recordFailure limits now
  | .ok => none
  | .other => entry

/-- An interval of time shorter than `width`. -/
structure ShortInterval (width : ℚ) (I : Set ℚ) : Prop where
  convex : I.OrdConnected
  short : ∀ x ∈ I, ∀ y ∈ I, y - x < width

theorem ShortInterval.Icc {width a b : ℚ} (h : b - a < width) :
    ShortInterval width (Set.Icc a b) :=
  ⟨Set.ordConnected_Icc, fun x hx y hy => by linarith [hx.1, hy.2]⟩

/-- The times of the bad endings since the last ok, oldest first. Histories
list their newest ending first. -/
def badsSinceOk : List Ended → List ℚ
  | [] => []
  | ⟨time, .bad⟩ :: past => badsSinceOk past ++ [time]
  | ⟨_, .ok⟩ :: _ => []
  | ⟨_, .other⟩ :: past => badsSinceOk past

def badCount (I : Set ℚ) [DecidablePred (· ∈ I)] (history : List Ended) : Nat :=
  history.countP fun e => decide (e.ending = .bad ∧ e.time ∈ I)

def NoOkIn (I : Set ℚ) (history : List Ended) : Prop :=
  ∀ e ∈ history, e.time ∈ I → e.ending ≠ .ok

instance (I : Set ℚ) [DecidablePred (· ∈ I)] (history : List Ended) :
    Decidable (NoOkIn I history) :=
  inferInstanceAs (Decidable (∀ e ∈ history, e.time ∈ I → e.ending ≠ .ok))

theorem NoOkIn.tail {I : Set ℚ} {e : Ended} {history : List Ended}
    (h : NoOkIn I (e :: history)) : NoOkIn I history :=
  fun d hd => h d (List.mem_cons_of_mem e hd)

/-- Below both the window and the lockout, no interval without a success
holds more bad endings than the budget. -/
def WithinBudget (limits : Limits) (history : List Ended) : Prop :=
  ∀ (I : Set ℚ) [DecidablePred (· ∈ I)],
    ShortInterval (min limits.windowSeconds limits.lockoutSeconds) I →
    NoOkIn I history → badCount I history ≤ limits.maxAttempts

section Counting

variable {I : Set ℚ} [DecidablePred (· ∈ I)] {width now : ℚ} {history : List Ended}

@[simp] theorem badCount_nil : badCount I [] = 0 := rfl

theorem badCount_cons (e : Ended) :
    badCount I (e :: history) =
      badCount I history + if e.ending = .bad ∧ e.time ∈ I then 1 else 0 := by
  simp [badCount, List.countP_cons]

theorem badCount_eq_zero (h : ∀ e ∈ history, e.time ∉ I) : badCount I history = 0 := by
  simp only [badCount, List.countP_eq_zero, decide_eq_true_eq, not_and]
  exact fun e he _ => h e he

/-- Seen from a moment in the interval, the bad endings in it are among the
recent ones since the last ok: an ok after one of them would lie in it too. -/
theorem badCount_le_recent (hShort : ShortInterval width I) (hNow : now ∈ I)
    (hSorted : history.Pairwise fun later earlier => earlier.time ≤ later.time)
    (hPast : ∀ e ∈ history, e.time ≤ now) (hNoOk : NoOkIn I history) :
    badCount I history ≤ (recent width now (badsSinceOk history)).length := by
  induction history with
  | nil => simp
  | cons e past ih =>
      obtain ⟨hLast, hSortedPast⟩ := List.pairwise_cons.mp hSorted
      have hTail := ih hSortedPast (fun d hd => hPast d (List.mem_cons_of_mem e hd)) hNoOk.tail
      have hLe := hPast e List.mem_cons_self
      obtain ⟨time, ending⟩ := e
      cases ending with
      | bad =>
          rw [badCount_cons, badsSinceOk, recent_append, List.length_append]
          by_cases hIn : time ∈ I
          · have hRecent : recent width now [time] = [time] := by
              simp [recent, hShort.short time hIn now hNow]
            simpa [hIn, hRecent] using hTail
          · simp only [hIn, and_false, if_false, add_zero]
            exact hTail.trans (Nat.le_add_right _ _)
      | ok =>
          have hOut : time ∉ I := fun hIn => hNoOk _ List.mem_cons_self hIn rfl
          have hNone : ∀ d ∈ past, d.time ∉ I := fun d hd hIn =>
            hOut (hShort.convex.out hIn hNow ⟨hLast d hd, hLe⟩)
          rw [badCount_cons, badCount_eq_zero hNone]
          simp
      | other =>
          rw [badCount_cons, badsSinceOk]
          simpa using hTail

end Counting

/-- One username as the limiter and the event loop see it, with the endings
so far, newest first. -/
structure Account where
  entry : Entry
  now : ℚ
  inFlight : Nat
  history : List Ended

namespace Account

def fresh (now : ℚ) : Account := ⟨none, now, 0, []⟩

/-- The failures that still count once a check has passed. -/
def live (limits : Limits) (entry : Entry) (now : ℚ) : Nat :=
  (recent limits.windowSeconds now (entry.check now).2.failureTimes).length

inductive Step (limits : Limits) : Account → Account → Prop where
  | wait {a : Account} (later : ℚ) (hLater : a.now ≤ later) :
      Step limits a { a with now := later }
  /-- A check that passes for a request that starts no child. -/
  | check {a : Account} (hPass : (a.entry.check a.now).1 = .ok ()) :
      Step limits a { a with entry := (a.entry.check a.now).2 }
  | admitted {a : Account} (hPass : (a.entry.check a.now).1 = .ok ())
      (hRoom : a.inFlight + live limits a.entry a.now < limits.maxAttempts) :
      Step limits a { a with entry := (a.entry.check a.now).2, inFlight := a.inFlight + 1 }
  | settle {a : Account} (ending : Ending) (hFlight : 0 < a.inFlight) :
      Step limits a {
        entry := a.entry.settle limits a.now ending
        now := a.now
        inFlight := a.inFlight - 1
        history := ⟨a.now, ending⟩ :: a.history }

/-- The invariant of budgeted runs. While a lockout lasts nothing is in
flight, so no late failure can be forgotten when it runs out. -/
structure Budgeted (limits : Limits) (a : Account) : Prop where
  reserved : a.inFlight +
    (recent limits.windowSeconds a.now a.entry.failureTimes).length ≤ limits.maxAttempts
  unlocked : a.entry.lockedUntil = none → a.entry.failureTimes.length < limits.maxAttempts
  drained : ∀ deadline, a.entry.lockedUntil = some deadline → a.inFlight = 0 ∧
    ∀ t ∈ a.entry.failureTimes, t + limits.lockoutSeconds ≤ deadline
  failed : ∀ t ∈ a.entry.failureTimes, t ≤ a.now
  remembered :
    recent (min limits.windowSeconds limits.lockoutSeconds) a.now (badsSinceOk a.history) =
      recent (min limits.windowSeconds limits.lockoutSeconds) a.now a.entry.failureTimes
  past : ∀ e ∈ a.history, e.time ≤ a.now
  sorted : a.history.Pairwise fun later earlier => earlier.time ≤ later.time
  bounded : WithinBudget limits a.history

variable {limits : Limits} {a b : Account}

theorem fresh_budgeted (now : ℚ) : Budgeted limits (fresh now) where
  reserved := by simp [fresh]
  unlocked _ := by simpa [fresh] using limits.maxAttempts_pos
  drained := by simp [fresh]
  failed := by simp [fresh]
  remembered := rfl
  past := by simp [fresh]
  sorted := List.Pairwise.nil
  bounded _ _ _ _ := Nat.zero_le _

namespace Budgeted

theorem wait (h : Budgeted limits a) {later : ℚ} (hLater : a.now ≤ later) :
    Budgeted limits { a with now := later } where
  reserved := by
    have hMono : (recent limits.windowSeconds later a.entry.failureTimes).length ≤
        (recent limits.windowSeconds a.now a.entry.failureTimes).length :=
      recent_length_mono le_rfl hLater
    have hRoom := h.reserved
    simp only
    omega
  unlocked := h.unlocked
  drained := h.drained
  failed t ht := (h.failed t ht).trans hLater
  remembered := by
    simp only
    rw [← recent_recent le_rfl hLater, h.remembered, recent_recent le_rfl hLater]
  past e he := (h.past e he).trans hLater
  sorted := h.sorted
  bounded := h.bounded

/-- A check that passes leaves no lockout, and forgets only failures that no
interval shorter than the lockout can join with what is to come. -/
theorem check (h : Budgeted limits a) (hPass : (a.entry.check a.now).1 = .ok ()) :
    Budgeted limits { a with entry := (a.entry.check a.now).2 } ∧
      (a.entry.check a.now).2.lockedUntil = none := by
  obtain ⟨_, _, _, hCheck⟩ | ⟨deadline, hLock, hNow, hCheck⟩ | ⟨hNone, hCheck⟩ :=
    Entry.check_cases a.now a.entry
  · simp [hCheck] at hPass
  · obtain ⟨hIdle, hOld⟩ := h.drained deadline hLock
    rw [hCheck]
    refine ⟨{ h with
      reserved := by simp [hIdle]
      unlocked := fun _ => by simpa using limits.maxAttempts_pos
      drained := by simp
      failed := by simp
      remembered := ?_ }, rfl⟩
    rw [h.remembered]
    refine (recent_eq_nil fun t ht => ?_).trans recent_nil.symm
    have hGone := hOld t ht
    exact (min_le_right _ _).trans (by linarith)
  · rw [hCheck]
    exact ⟨h, hNone⟩

theorem admitted (h : Budgeted limits a) (hPass : (a.entry.check a.now).1 = .ok ())
    (hRoom : a.inFlight + live limits a.entry a.now < limits.maxAttempts) :
    Budgeted limits
      { a with entry := (a.entry.check a.now).2, inFlight := a.inFlight + 1 } := by
  obtain ⟨hChecked, hNone⟩ := h.check hPass
  exact { hChecked with
    reserved := by
      simp only [live] at hRoom ⊢
      omega
    drained := by simp [hNone] }

/-- With an attempt in flight there is no lockout. -/
theorem lockedUntil_eq_none (h : Budgeted limits a) (hFlight : 0 < a.inFlight) :
    a.entry.lockedUntil = none := by
  cases hLock : a.entry.lockedUntil with
  | none => rfl
  | some deadline =>
      obtain ⟨hIdle, _⟩ := h.drained deadline hLock
      omega

/-- The new bad ending has its place: those it shares an interval with are
among the failures the limiter still counts. -/
theorem bounded_bad (h : Budgeted limits a) (hFlight : 0 < a.inFlight) :
    WithinBudget limits (⟨a.now, .bad⟩ :: a.history) := by
  intro I _ hShort hNoOk
  by_cases hNow : a.now ∈ I
  · have hCount := badCount_le_recent hShort hNow h.sorted h.past hNoOk.tail
    rw [h.remembered] at hCount
    have hMono : (recent (min limits.windowSeconds limits.lockoutSeconds) a.now
        a.entry.failureTimes).length ≤
          (recent limits.windowSeconds a.now a.entry.failureTimes).length :=
      recent_length_mono (min_le_left ..) le_rfl
    have hRoom := h.reserved
    simp only [badCount_cons, hNow, and_self, if_true]
    omega
  · simpa [badCount_cons, hNow] using h.bounded I hShort hNoOk.tail

theorem settle_bad (h : Budgeted limits a) (hFlight : 0 < a.inFlight) :
    Budgeted limits {
      entry := a.entry.recordFailure limits a.now
      now := a.now
      inFlight := a.inFlight - 1
      history := ⟨a.now, .bad⟩ :: a.history } where
  reserved := by
    have hRoom := h.reserved
    simp only [Entry.failureTimes_recordFailure, recent_append, recent_recent le_rfl le_rfl,
      recent_singleton_self limits.windowSeconds_pos, List.length_append, List.length_singleton]
    omega
  unlocked := by
    simp only [Entry.lockedUntil_recordFailure, Entry.failureTimes_recordFailure,
      List.length_append, List.length_singleton]
    split
    · simp
    · omega
  drained := by
    intro deadline hLock
    simp only [Entry.lockedUntil_recordFailure, h.lockedUntil_eq_none hFlight] at hLock
    split at hLock
    · rename_i hFull
      have hRoom := h.reserved
      obtain rfl := Option.some.inj hLock
      refine ⟨by simp only; omega, ?_⟩
      intro t ht
      rcases List.mem_append.mp ht with hOld | hNew
      · linarith [h.failed t (mem_recent.mp hOld).1]
      · linarith [(List.mem_singleton.mp hNew).le]
    · simp at hLock
  failed := by
    intro t ht
    rcases List.mem_append.mp ht with hOld | hNew
    · exact h.failed t (mem_recent.mp hOld).1
    · exact (List.mem_singleton.mp hNew).le
  remembered := by
    simp only [badsSinceOk, Entry.failureTimes_recordFailure, recent_append, h.remembered,
      recent_recent (min_le_left _ _) le_rfl]
  past := List.forall_mem_cons.mpr ⟨le_rfl, h.past⟩
  sorted := List.pairwise_cons.mpr ⟨h.past, h.sorted⟩
  bounded := h.bounded_bad hFlight

/-- An ending that is not bad adds nothing to any count. -/
theorem bounded_not_bad (h : Budgeted limits a) {ending : Ending} (hEnding : ending ≠ .bad) :
    WithinBudget limits (⟨a.now, ending⟩ :: a.history) := by
  intro I _ hShort hNoOk
  simpa [badCount_cons, hEnding] using h.bounded I hShort hNoOk.tail

theorem settle (h : Budgeted limits a) (ending : Ending) (hFlight : 0 < a.inFlight) :
    Budgeted limits {
      entry := a.entry.settle limits a.now ending
      now := a.now
      inFlight := a.inFlight - 1
      history := ⟨a.now, ending⟩ :: a.history } := by
  have hRoom := h.reserved
  have hPast : ∀ e ∈ (⟨a.now, ending⟩ :: a.history : List Ended), e.time ≤ a.now :=
    List.forall_mem_cons.mpr ⟨le_rfl, h.past⟩
  have hSorted : (⟨a.now, ending⟩ :: a.history : List Ended).Pairwise
      fun later earlier => earlier.time ≤ later.time :=
    List.pairwise_cons.mpr ⟨h.past, h.sorted⟩
  cases ending with
  | bad => exact h.settle_bad hFlight
  | ok =>
      exact {
        reserved := by simp only [Entry.settle, Entry.failureTimes_none, recent_nil]; simp; omega
        unlocked := fun _ => by simpa [Entry.settle] using limits.maxAttempts_pos
        drained := by simp [Entry.settle]
        failed := by simp [Entry.settle]
        remembered := rfl
        past := hPast
        sorted := hSorted
        bounded := h.bounded_not_bad (by decide) }
  | other =>
      exact {
        reserved := by simp only [Entry.settle]; omega
        unlocked := h.unlocked
        drained := fun deadline hLock => by
          obtain ⟨hIdle, _⟩ := h.drained deadline hLock
          omega
        failed := h.failed
        remembered := h.remembered
        past := hPast
        sorted := hSorted
        bounded := h.bounded_not_bad (by decide) }

theorem step (h : Budgeted limits a) (hStep : Step limits a b) : Budgeted limits b := by
  cases hStep with
  | wait later hLater => exact h.wait hLater
  | check hPass => exact (h.check hPass).1
  | admitted hPass hRoom => exact h.admitted hPass hRoom
  | settle ending hFlight => exact h.settle ending hFlight

theorem run (h : Budgeted limits a) (hRun : Relation.ReflTransGen (Step limits) a b) :
    Budgeted limits b := by
  induction hRun with
  | refl => exact h
  | tail _ hStep ih => exact ih.step hStep

end Budgeted

/-- One attempt at a time always finds room: a check passes only while the
failures counted are fewer than the attempts allowed. -/
theorem Budgeted.room_of_idle (h : Budgeted limits a) (hIdle : a.inFlight = 0)
    (hPass : (a.entry.check a.now).1 = .ok ()) :
    a.inFlight + live limits a.entry a.now < limits.maxAttempts := by
  obtain ⟨hChecked, hNone⟩ := h.check hPass
  have hLength := hChecked.unlocked hNone
  have hRecent : (recent limits.windowSeconds a.now
      (a.entry.check a.now).2.failureTimes).length ≤
        (a.entry.check a.now).2.failureTimes.length := recent_length_le
  simp only [live, hIdle] at hLength ⊢
  omega

end Account

end Krb5TokenService.RateLimit
