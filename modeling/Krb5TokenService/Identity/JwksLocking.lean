import Krb5TokenService.EventLoop.SingleFlight
import Krb5TokenService.Identity.Jwks

/-! Any number of `get_jwks` calls on one event loop, and the lock that they
share: it is held exactly while a fetch is under way, whatever the fetches
bring. -/
namespace Krb5TokenService.Identity

open Python EventLoop EventLoop.Task

/-- Calls are numbered; nothing that a call does depends on its number. -/
abbrev JwksLoop := Loop Nat JwksState PyExc JwksQuery JwksQuery.Answer Json

abbrev JwksMove := Move Nat JwksQuery JwksQuery.Answer Delay

abbrev JwksStretch := Stretch Nat JwksState PyExc JwksQuery JwksQuery.Answer Json

abbrev JwksWaiting := Waiting Nat JwksState PyExc JwksQuery JwksQuery.Answer Json

def JwksState.wait (delay : Delay) (s : JwksState) : JwksState := { s with now := s.now + delay }

/-- A process that has just been started. -/
def freshJwks (now : ℚ) : JwksLoop :=
  Loop.idle ⟨fun _ => none, fun _ => none, 0, fun _ => false, now, []⟩

section Statements

variable (settings : Settings) (eventLoop : Nat)

def sentAt (w : JwksWaiting) : Option ℚ :=
  match w.query with
  | .get _ sent => some sent
  | .acquire _ => none

/-- What is left of a waiting call. One that fetches has read the entry that is
still cached. -/
def Held (s : JwksState) : JwksWaiting → Prop
  | ⟨_, .acquire lock, next⟩ =>
      s.lockFor eventLoop settings.brokerJwksUrl = some lock ∧ next = withLock settings lock
  | ⟨_, .get _ sent, next⟩ =>
      ∃ lock, s.lockFor eventLoop settings.brokerJwksUrl = some lock ∧
        next = afterGet settings lock (s.cache settings.brokerJwksUrl) sent

/-- A lock is acquired only while no one holds it. -/
def Exclusive (loop : JwksLoop) : JwksMove → Prop
  | .resume index reply =>
      ∀ w, loop.waiting[index]? = some w →
        match w.query with
        | .acquire lock => reply (.acquire lock) = .acquired → loop.state.locked lock = false
        | .get .. => True
  | _ => True

/-- At most one fetch is under way, and the lock is held exactly while one is. -/
structure Locking (loop : JwksLoop) : Prop where
  single : (loop.waiting.filterMap sentAt).length ≤ 1
  held : ∀ w ∈ loop.waiting, Held settings eventLoop loop.state w
  guarded : ∀ lock, loop.state.lockFor eventLoop settings.brokerJwksUrl = some lock →
    (loop.state.locked lock = false ↔ loop.waiting.filterMap sentAt = [])

end Statements

section Moves

variable {settings : Settings} {eventLoop : Nat} {loop : JwksLoop} {s s' : JwksState}
    {w : JwksWaiting} {waiting : List JwksWaiting} {trace : List JwksStretch} {index : Nat}

/-- What a waiting call needs of a state to go on as before. -/
theorem Held.frame (h : Held settings eventLoop s w)
    (hLock : ∀ lock, s.lockFor eventLoop settings.brokerJwksUrl = some lock →
      s'.lockFor eventLoop settings.brokerJwksUrl = some lock)
    (hCache : sentAt w ≠ none →
      s'.cache settings.brokerJwksUrl = s.cache settings.brokerJwksUrl) :
    Held settings eventLoop s' w := by
  obtain ⟨label, query, next⟩ := w
  cases query with
  | acquire lock => exact ⟨hLock lock h.1, h.2⟩
  | get url sent =>
      obtain ⟨lock, hFor, hNext⟩ := h
      refine ⟨lock, hLock lock hFor, ?_⟩
      rw [hNext, hCache (by simp [sentAt])]

/-- Whoever waits has a lock to wait for. -/
theorem Held.lockFor (h : Held settings eventLoop s w) :
    ∃ lock, s.lockFor eventLoop settings.brokerJwksUrl = some lock := by
  obtain ⟨label, query, next⟩ := w
  cases query with
  | acquire lock => exact ⟨lock, h.1⟩
  | get url sent => exact ⟨h.choose, h.choose_spec.1⟩

/-- The call that fetches is the only one to do so. -/
theorem Locking.alone (h : Locking settings eventLoop loop) {sent : ℚ}
    (hIndex : loop.waiting[index]? = some w) (hSent : sentAt w = some sent) :
    loop.waiting.filterMap sentAt = [sent] ∧
      (loop.waiting.eraseIdx index).filterMap sentAt = [] := by
  have hMem : sent ∈ loop.waiting.filterMap sentAt :=
    List.mem_filterMap.mpr ⟨w, List.mem_of_getElem? hIndex, hSent⟩
  obtain ⟨first, hFirst⟩ := List.length_eq_one_iff.mp
    (Nat.le_antisymm h.single (List.length_pos_of_mem hMem))
  rw [hFirst] at hMem
  rw [← List.mem_singleton.mp hMem] at hFirst
  refine ⟨hFirst, ?_⟩
  have hCount := Loop.countP_eraseIdx hIndex fun w => (sentAt w).isSome
  rw [← List.length_filterMap_eq_countP, ← List.length_filterMap_eq_countP, hSent, hFirst]
    at hCount
  exact List.eq_nil_of_length_eq_zero (by simpa using hCount)

/-- A stretch outside any fetch, which leaves the cache as it is. -/
theorem Locking.quiet (h : Locking settings eventLoop loop)
    (hWaiting : ∀ w ∈ waiting, w ∈ loop.waiting ∨ Held settings eventLoop s' w)
    (hFlying : waiting.filterMap sentAt = loop.waiting.filterMap sentAt)
    (hCache : s'.cache = loop.state.cache)
    (hLock : ∀ lock, loop.state.lockFor eventLoop settings.brokerJwksUrl = some lock →
      s'.lockFor eventLoop settings.brokerJwksUrl = some lock)
    (hGuarded : ∀ lock, s'.lockFor eventLoop settings.brokerJwksUrl = some lock →
      (s'.locked lock = false ↔ loop.waiting.filterMap sentAt = [])) :
    Locking settings eventLoop ⟨s', waiting, trace⟩ := by
  refine ⟨hFlying ▸ h.single, ?_, ?_⟩
  · intro w hw
    rcases hWaiting w hw with hOld | hNew
    · exact (h.held w hOld).frame hLock fun _ => congrFun hCache _
    · exact hNew
  · intro lock hFor
    rw [hFlying]
    exact hGuarded lock hFor

theorem Locking.start (h : Locking settings eventLoop loop) (call : Nat) :
    Locking settings eventLoop
      (loop.move (fun _ => getJwks settings eventLoop) JwksState.wait (.start call)) := by
  cases hFresh : loop.state.freshKeys settings with
  | some keys =>
      rw [Loop.move, advance_getJwks_hit hFresh]
      exact h.quiet (fun _ => .inl) rfl rfl (fun _ => id) h.guarded
  | none =>
      cases hFor : loop.state.lockFor eventLoop settings.brokerJwksUrl with
      | some lock =>
          rw [Loop.move, advance_getJwks_miss hFresh hFor]
          refine h.quiet ?_ ?_ rfl (fun _ => id) h.guarded
          · intro w hw
            rcases List.mem_append.mp hw with hOld | hNew
            · exact .inl hOld
            · rw [List.mem_singleton.mp hNew]
              exact .inr ⟨hFor, rfl⟩
          · simp [sentAt]
      | none =>
          -- without a lock no one can have waited yet
          have hNobody : loop.waiting = [] := List.eq_nil_iff_forall_not_mem.mpr fun w hw => by
            obtain ⟨lock, hLock⟩ := (h.held w hw).lockFor
            rw [hFor] at hLock
            cases hLock
          rw [Loop.move, advance_getJwks_first hFresh hFor]
          refine h.quiet ?_ ?_ rfl ?_ ?_
          · intro w hw
            rw [hNobody] at hw
            rw [List.mem_singleton.mp hw]
            exact .inr ⟨JwksState.lockFor_makeLock, rfl⟩
          · simp [sentAt]
          · intro lock hLock
            rw [hFor] at hLock
            cases hLock
          · intro lock hLock
            obtain rfl := Option.some.inj (JwksState.lockFor_makeLock.symm.trans hLock)
            rw [hNobody]
            exact ⟨fun _ => rfl, fun _ => JwksState.locked_makeLock_self⟩

/-- A call that has got the lock and found no fresh entry sends a fetch. -/
theorem Locking.depart (h : Locking settings eventLoop loop) {lock call : Nat}
    {next : AcquireReply → JwksAction Json}
    (hIndex : loop.waiting[index]? = some ⟨call, .acquire lock, next⟩)
    (hFree : loop.state.locked lock = false) :
    Locking settings eventLoop
      ⟨loop.state.setLocked lock true,
        loop.waiting.eraseIdx index ++ [⟨call, .get settings.brokerJwksUrl loop.state.now,
          afterGet settings lock (loop.state.cache settings.brokerJwksUrl) loop.state.now⟩],
        trace⟩ := by
  have hFor : loop.state.lockFor eventLoop settings.brokerJwksUrl = some lock :=
    (h.held _ (List.mem_of_getElem? hIndex)).1
  have hErased : (loop.waiting.eraseIdx index).filterMap sentAt = [] := by
    rw [Loop.filterMap_eraseIdx hIndex rfl, (h.guarded lock hFor).mp hFree]
  refine ⟨?_, ?_, ?_⟩
  · rw [List.filterMap_append, hErased]
    exact Nat.le_refl 1
  · intro w hw
    rcases List.mem_append.mp hw with hOld | hNew
    · exact (h.held w (List.mem_of_mem_eraseIdx hOld)).frame (fun _ => id) fun _ => rfl
    · rw [List.mem_singleton.mp hNew]
      exact ⟨lock, hFor, rfl⟩
  · intro lock' hFor'
    obtain rfl := Option.some.inj (hFor.symm.trans hFor')
    rw [List.filterMap_append, hErased]
    simp [sentAt]

theorem Locking.acquire (h : Locking settings eventLoop loop) {lock call : Nat}
    {next : AcquireReply → JwksAction Json}
    (hIndex : loop.waiting[index]? = some ⟨call, .acquire lock, next⟩) (reply : AcquireReply)
    (hFree : reply = .acquired → loop.state.locked lock = false) :
    Locking settings eventLoop
      (Loop.place ⟨loop.state, loop.waiting.eraseIdx index, loop.trace⟩ call
        (some ⟨.acquire lock, reply⟩) ((next reply).advance loop.state)) := by
  obtain ⟨hFor, rfl⟩ := h.held _ (List.mem_of_getElem? hIndex)
  have hErased : (loop.waiting.eraseIdx index).filterMap sentAt = loop.waiting.filterMap sentAt :=
    Loop.filterMap_eraseIdx hIndex rfl
  have hMem : ∀ w ∈ loop.waiting.eraseIdx index,
      w ∈ loop.waiting ∨ Held settings eventLoop loop.state w :=
    fun w hw => .inl (List.mem_of_mem_eraseIdx hw)
  cases reply with
  | cancelled => exact h.quiet hMem hErased rfl (fun _ => id) h.guarded
  | acquired =>
      cases hFresh : loop.state.freshKeys settings with
      | none =>
          rw [advance_withLock_miss hFresh]
          exact h.depart hIndex (hFree rfl)
      | some keys =>
          rw [advance_withLock_hit hFresh]
          refine h.quiet (fun w hw => .inl (List.mem_of_mem_eraseIdx hw)) hErased rfl
            (fun _ => id) ?_
          intro lock' hFor'
          obtain rfl := Option.some.inj (hFor.symm.trans hFor')
          exact ⟨fun _ => (h.guarded lock hFor).mp (hFree rfl),
            fun _ => JwksState.locked_setLocked_self lock false⟩

/-- The end of a fetch, with which its call ends and gives the lock back. -/
theorem Locking.get (h : Locking settings eventLoop loop) {call : Nat} {url : PyStr} {sent : ℚ}
    {next : HttpReply → JwksAction Json}
    (hIndex : loop.waiting[index]? = some ⟨call, .get url sent, next⟩) (reply : HttpReply) :
    Locking settings eventLoop
      (Loop.place ⟨loop.state, loop.waiting.eraseIdx index, loop.trace⟩ call
        (some ⟨.get url sent, reply⟩) ((next reply).advance loop.state)) := by
  obtain ⟨lock, hFor, rfl⟩ := h.held _ (List.mem_of_getElem? hIndex)
  obtain ⟨-, hErased⟩ := h.alone hIndex rfl
  obtain ⟨outcome, cache, log, hAdvance⟩ := advance_afterGet settings lock sent loop.state
    (loop.state.cache settings.brokerJwksUrl) reply
  rw [hAdvance]
  refine ⟨?_, ?_, ?_⟩
  · show ((loop.waiting.eraseIdx index).filterMap sentAt).length ≤ 1
    rw [hErased]
    exact Nat.zero_le 1
  · intro v hv
    refine (h.held v (List.mem_of_mem_eraseIdx hv)).frame (fun _ => id) ?_
    -- no one else fetches
    intro hOther
    obtain ⟨sent', hSent'⟩ := Option.ne_none_iff_exists'.mp hOther
    have hFound : sent' ∈ (loop.waiting.eraseIdx index).filterMap sentAt :=
      List.mem_filterMap.mpr ⟨v, hv, hSent'⟩
    rw [hErased] at hFound
    cases hFound
  · intro lock' hFor'
    obtain rfl := Option.some.inj (hFor.symm.trans hFor')
    exact ⟨fun _ => hErased, fun _ => JwksState.locked_setLocked_self lock false⟩

theorem Locking.wait (h : Locking settings eventLoop loop) (delay : Delay) :
    Locking settings eventLoop
      (loop.move (fun _ => getJwks settings eventLoop) JwksState.wait (.outside delay)) :=
  ⟨h.single, h.held, h.guarded⟩

/-- What a move preserves that acquires the lock only while it is free. -/
theorem Locking.move (loop : JwksLoop) (m : JwksMove) (hFree : Exclusive loop m)
    (h : Locking settings eventLoop loop) :
    Locking settings eventLoop
      (loop.move (fun _ => getJwks settings eventLoop) JwksState.wait m) := by
  cases m with
  | start call => exact h.start call
  | outside delay => exact h.wait delay
  | resume index reply =>
      rw [Loop.move]
      cases hIndex : loop.waiting[index]? with
      | none => exact h
      | some w =>
          have hHere := hFree w hIndex
          obtain ⟨call, query, next⟩ := w
          cases query with
          | acquire lock => exact h.acquire hIndex _ hHere
          | get url sent => exact h.get hIndex _

theorem freshJwks_locking (now : ℚ) : Locking settings eventLoop (freshJwks now) :=
  ⟨Nat.zero_le 1, fun _ hw => absurd hw List.not_mem_nil, fun _ hFor => by cases hFor⟩

end Moves

end Krb5TokenService.Identity
