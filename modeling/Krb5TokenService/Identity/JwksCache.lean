import Krb5TokenService.Identity.JwksLocking

/-! The key cache under any interleaving of `get_jwks` calls on one event loop.
Its fetches are single flights, its entry is the last of them to arrive, and
every call ends as that entry and the call's own fetch decide. -/
namespace Krb5TokenService.Identity

open Python EventLoop EventLoop.Task

/-- What is assumed of a schedule: a lock is acquired only while no one holds
it, and a fetch that succeeds brings a list. -/
def Reliable (loop : JwksLoop) : JwksMove → Prop
  | .resume index reply =>
      ∀ w, loop.waiting[index]? = some w →
        match w.query with
        | .acquire lock => reply (.acquire lock) = .acquired → loop.state.locked lock = false
        | .get url sent =>
            ∀ keys, HttpReply.keys (reply (.get url sent)) = .ok keys → ∃ values, keys = .arr values
  | _ => True

section Observations

/-- When the call's own fetch was sent and how it ended, if this stretch began
with its end. -/
def ownFetch (s : JwksStretch) : Option (ℚ × Except PyExc Json) :=
  match s.cause with
  | some ⟨.get _ sent, reply⟩ => some (sent, HttpReply.keys reply)
  | _ => none

def FetchFailed (s : JwksStretch) : Prop :=
  ∃ sent exc, ownFetch s = some (sent, .error exc) ∧ exc ≠ .cancelled

def Cancelled (s : JwksStretch) : Prop :=
  (∃ lock, s.cause = some ⟨.acquire lock, .cancelled⟩) ∨
    ∃ sent, ownFetch s = some (sent, .error .cancelled)

/-- The last clock reading of a call that ends with this stretch. A fetch is
sent right after the second reading. -/
def lastReading (s : JwksStretch) : ℚ :=
  match ownFetch s with
  | some (sent, _) => sent
  | none => s.found.now

/-- A fetch that succeeded: when it was sent, and its keys. -/
def landing (s : JwksStretch) : Option (ℚ × Json) :=
  match ownFetch s with
  | some (sent, .ok keys) => some (sent, keys)
  | _ => none

/-- The fetches under way, and those that succeeded, newest first. -/
def flights (loop : JwksLoop) : Flights ℚ Json :=
  ⟨loop.state.now, loop.waiting.filterMap sentAt, loop.trace.filterMap landing⟩

end Observations

section Statements

variable (settings : Settings) (eventLoop : Nat)

/-- How a call may end, given the stretches before its last one. -/
structure Answered (s : JwksStretch) (older : List JwksStretch) : Prop where
  ends : ownFetch s ≠ none → s.ended ≠ none
  cancelled : Cancelled s → s.ended = some (.error .cancelled)
  failed : FetchFailed s →
    s.ended = some (fallback settings (s.found.cache settings.brokerJwksUrl))
  raised : ∀ detail headers, s.ended = some (.error (.httpException 502 detail headers)) →
    FetchFailed s ∧ older.filterMap landing = []
  fresh : ∀ outcome, s.ended = some outcome → ¬ Cancelled s → ¬ FetchFailed s →
    ∃ keys sent, outcome = .ok keys ∧ (sent, keys) ∈ (s :: older).filterMap landing ∧
      lastReading s - settings.jwksCacheTtlSeconds ≤ sent

/-- At most one fetch is under way, fetches arrive in the order in which they
were sent, the cache holds what arrived last, and calls end as they should. -/
structure CacheCorrect (loop : JwksLoop) : Prop where
  orderly : (flights loop).Orderly
  newest : loop.state.cache settings.brokerJwksUrl =
    (flights loop).landed.head?.map fun arrival => ⟨arrival.2, arrival.1⟩
  answered : ∀ s older, s :: older <:+ loop.trace → Answered settings s older

/-- The invariant: the lock is held exactly while a fetch is under way. -/
structure Consistent (loop : JwksLoop) : Prop where
  correct : CacheCorrect settings loop
  held : ∀ w ∈ loop.waiting, Held settings eventLoop loop.state w
  guarded : ∀ lock, loop.state.lockFor eventLoop settings.brokerJwksUrl = some lock →
    (loop.state.locked lock = false ↔ (flights loop).flying = [])

end Statements

section Moves

variable {settings : Settings} {eventLoop : Nat} {loop : JwksLoop} {s s' : JwksState}
    {w : JwksWaiting} {keys : Json}

theorem Consistent.locking (h : Consistent settings eventLoop loop) :
    Locking settings eventLoop loop :=
  ⟨h.correct.orderly.single, h.held, h.guarded⟩

theorem Locking.consistent (h : Locking settings eventLoop loop)
    (hCorrect : CacheCorrect settings loop) : Consistent settings eventLoop loop :=
  ⟨hCorrect, h.held, h.guarded⟩

/-- A first stretch, and one that begins with the lock, bring no fetch and no
cancellation. -/
theorem undisturbed {stretch : JwksStretch}
    (hCause : stretch.cause = none ∨ ∃ lock, stretch.cause = some ⟨.acquire lock, .acquired⟩) :
    ownFetch stretch = none ∧ ¬ Cancelled stretch ∧ ¬ FetchFailed stretch := by
  have hNoFetch : ownFetch stretch = none := by
    unfold ownFetch
    rcases hCause with hCause | ⟨lock, hCause⟩ <;> rw [hCause]
  refine ⟨hNoFetch, ?_, ?_⟩
  · rintro (⟨lock, hLock⟩ | ⟨sent, hSent⟩)
    · rcases hCause with hCause | ⟨lock', hCause⟩ <;> rw [hCause] at hLock <;> cases hLock
    · rw [hNoFetch] at hSent
      cases hSent
  · rintro ⟨sent, exc, hFailed, -⟩
    rw [hNoFetch] at hFailed
    cases hFailed

theorem landing_of_ownFetch_none {stretch : JwksStretch} (h : ownFetch stretch = none) :
    landing stretch = none := by
  rw [landing, h]

theorem landing_of_error {stretch : JwksStretch} {sent : ℚ} {exc : PyExc}
    (h : ownFetch stretch = some (sent, .error exc)) : landing stretch = none := by
  rw [landing, h]

theorem landing_of_ok {stretch : JwksStretch} {sent : ℚ}
    (h : ownFetch stretch = some (sent, .ok keys)) : landing stretch = some (sent, keys) := by
  rw [landing, h]

theorem ownFetch_get {stretch : JwksStretch} {url : PyStr} {sent : ℚ} {reply : HttpReply}
    {result : Except PyExc Json} (hCause : stretch.cause = some ⟨.get url sent, reply⟩)
    (hKeys : reply.keys = result) : ownFetch stretch = some (sent, result) := by
  rw [ownFetch, hCause, ← hKeys]

/-- A stretch after which the call waits on. -/
theorem answered_waiting {stretch : JwksStretch} {older : List JwksStretch}
    (hCause : stretch.cause = none ∨ ∃ lock, stretch.cause = some ⟨.acquire lock, .acquired⟩)
    (hEnded : stretch.ended = none) : Answered settings stretch older := by
  obtain ⟨hNoFetch, hNotCancelled, hNotFailed⟩ := undisturbed hCause
  refine ⟨fun h => absurd hNoFetch h, fun h => absurd h hNotCancelled,
    fun h => absurd h hNotFailed, ?_, ?_⟩
  · intro detail headers hRaised
    rw [hEnded] at hRaised
    cases hRaised
  · intro outcome hOutcome
    rw [hEnded] at hOutcome
    cases hOutcome

/-- A call that finds a fresh entry returns the keys of the newest arrival. -/
theorem CacheCorrect.answered_hit (h : CacheCorrect settings loop)
    (hFresh : loop.state.freshKeys settings = some keys) {stretch : JwksStretch}
    (hCause : stretch.cause = none ∨ ∃ lock, stretch.cause = some ⟨.acquire lock, .acquired⟩)
    (hFound : stretch.found = loop.state) (hEnded : stretch.ended = some (.ok keys)) :
    Answered settings stretch loop.trace := by
  obtain ⟨hNoFetch, hNotCancelled, hNotFailed⟩ := undisturbed hCause
  obtain ⟨fetchedAt, hEntry, hAge⟩ := JwksState.entry_of_freshKeys hFresh
  refine ⟨fun h => absurd hNoFetch h, fun h => absurd h hNotCancelled,
    fun h => absurd h hNotFailed, ?_, ?_⟩
  · intro detail headers hRaised
    rw [hEnded] at hRaised
    cases hRaised
  · intro outcome hOutcome _ _
    rw [hEnded] at hOutcome
    have hNewest := h.newest
    rw [hEntry] at hNewest
    obtain ⟨arrival, hHead, hArrival⟩ := Option.map_eq_some_iff.mp hNewest.symm
    obtain ⟨rfl, rfl⟩ := JwksEntry.mk.inj hArrival
    refine ⟨arrival.2, arrival.1, (Option.some.inj hOutcome).symm, ?_, ?_⟩
    · rw [List.filterMap_cons_none (landing_of_ownFetch_none hNoFetch)]
      exact List.mem_of_mem_head? hHead
    · rw [lastReading, hNoFetch]
      show stretch.found.now - _ ≤ _
      rw [hFound]
      linarith

/-- A call that is cancelled while it waits, or while it fetches. -/
theorem answered_cancelled {stretch : JwksStretch} {older : List JwksStretch}
    (hCancelled : Cancelled stretch) (hEnded : stretch.ended = some (.error .cancelled)) :
    Answered settings stretch older := by
  have hNotFailed : ¬ FetchFailed stretch := by
    rintro ⟨sent, exc, hFailed, hExc⟩
    rcases hCancelled with ⟨lock, hLock⟩ | ⟨sent', hFetch⟩
    · rw [ownFetch, hLock] at hFailed
      cases hFailed
    · rw [hFetch] at hFailed
      cases hFailed
      exact hExc rfl
  refine ⟨fun _ => ?_, fun _ => hEnded, fun h => absurd h hNotFailed, ?_, ?_⟩
  · rw [hEnded]
    exact Option.some_ne_none _
  · intro detail headers hRaised
    rw [hEnded] at hRaised
    cases hRaised
  · intro outcome _ hNot
    exact absurd hCancelled hNot

/-- A call whose fetch brought keys returns them. -/
theorem answered_landed (hTtl : 0 ≤ settings.jwksCacheTtlSeconds) {stretch : JwksStretch}
    {older : List JwksStretch} {sent : ℚ} (hFetch : ownFetch stretch = some (sent, .ok keys))
    (hEnded : stretch.ended = some (.ok keys)) : Answered settings stretch older := by
  have hNotCancelled : ¬ Cancelled stretch := by
    rintro (⟨lock, hLock⟩ | ⟨sent', hSent⟩)
    · rw [ownFetch, hLock] at hFetch
      cases hFetch
    · rw [hFetch] at hSent
      cases hSent
  have hNotFailed : ¬ FetchFailed stretch := by
    rintro ⟨sent', exc, hFailed, -⟩
    rw [hFetch] at hFailed
    cases hFailed
  refine ⟨fun _ => ?_, fun h => absurd h hNotCancelled, fun h => absurd h hNotFailed, ?_, ?_⟩
  · rw [hEnded]
    exact Option.some_ne_none _
  · intro detail headers hRaised
    rw [hEnded] at hRaised
    cases hRaised
  · intro outcome hOutcome _ _
    rw [hEnded] at hOutcome
    refine ⟨keys, sent, (Option.some.inj hOutcome).symm, ?_, ?_⟩
    · rw [List.filterMap_cons_some (landing_of_ok hFetch)]
      exact List.mem_cons_self
    · have hTtl : (0 : ℚ) ≤ settings.jwksCacheTtlSeconds := by exact_mod_cast hTtl
      rw [lastReading, hFetch]
      show sent - _ ≤ sent
      linarith

/-- A call whose fetch failed falls back on what is cached. -/
theorem CacheCorrect.answered_failed (h : CacheCorrect settings loop) {stretch : JwksStretch}
    (hFailed : FetchFailed stretch) (hFound : stretch.found = loop.state)
    (hEnded : stretch.ended =
      some (fallback settings (stretch.found.cache settings.brokerJwksUrl))) :
    Answered settings stretch loop.trace := by
  have hNotCancelled : ¬ Cancelled stretch := by
    obtain ⟨sent, exc, hFetch, hExc⟩ := hFailed
    rintro (⟨lock, hLock⟩ | ⟨sent', hSent⟩)
    · rw [ownFetch, hLock] at hFetch
      cases hFetch
    · rw [hFetch] at hSent
      cases hSent
      exact hExc rfl
  refine ⟨fun _ => ?_, fun h => absurd h hNotCancelled, fun _ => hEnded, ?_,
    fun _ _ _ hNot => absurd hFailed hNot⟩
  · rw [hEnded]
    exact Option.some_ne_none _
  · intro detail headers hRaised
    refine ⟨hFailed, ?_⟩
    have hNewest := h.newest
    rw [hEnded, hFound, hNewest] at hRaised
    -- an arrival would be the entry to fall back on
    cases hLanded : loop.trace.filterMap landing with
    | nil => rfl
    | cons arrival rest =>
        rw [show (flights loop).landed = arrival :: rest from hLanded] at hRaised
        cases hRaised

/-- The calls that have ended, with one more. -/
theorem answered_cons {stretch : JwksStretch} {trace : List JwksStretch}
    (hAnswered : ∀ s older, s :: older <:+ trace → Answered settings s older)
    (hNew : Answered settings stretch trace) :
    ∀ s older, s :: older <:+ stretch :: trace → Answered settings s older := by
  intro s older hSuffix
  rcases List.suffix_cons_iff.mp hSuffix with hHere | hBefore
  · obtain ⟨rfl, rfl⟩ := List.cons.inj hHere
    exact hNew
  · exact hAnswered s older hBefore

/-- A stretch outside any fetch, which leaves the cache as it is. -/
theorem CacheCorrect.quiet (h : CacheCorrect settings loop) {waiting : List JwksWaiting}
    {stretch : JwksStretch}
    (hFlying : waiting.filterMap sentAt = loop.waiting.filterMap sentAt)
    (hCache : s'.cache = loop.state.cache) (hNow : s'.now = loop.state.now)
    (hNoFetch : ownFetch stretch = none) (hAnswered : Answered settings stretch loop.trace) :
    CacheCorrect settings ⟨s', waiting, stretch :: loop.trace⟩ := by
  have hFlights : flights ⟨s', waiting, stretch :: loop.trace⟩ = flights loop := by
    rw [flights, flights, hFlying, hNow,
      List.filterMap_cons_none (landing_of_ownFetch_none hNoFetch)]
  refine ⟨?_, ?_, answered_cons h.answered hAnswered⟩
  · rw [hFlights]
    exact h.orderly
  · rw [hFlights]
    show s'.cache settings.brokerJwksUrl = _
    rw [hCache]
    exact h.newest

/-- A call that has got the lock and found no fresh entry sends a fetch. -/
theorem CacheCorrect.depart (h : CacheCorrect settings loop) {call lock : Nat}
    {waiting : List JwksWaiting} (hNone : loop.waiting.filterMap sentAt = [])
    (hFlying : waiting.filterMap sentAt = [loop.state.now]) :
    CacheCorrect settings ⟨loop.state.setLocked lock true, waiting,
      ⟨call, some ⟨.acquire lock, .acquired⟩, loop.state, none⟩ :: loop.trace⟩ := by
  refine ⟨?_, h.newest, answered_cons h.answered (answered_waiting (.inr ⟨lock, rfl⟩) rfl)⟩
  have hDeparted := h.orderly.step (.depart hNone)
  rw [flights, hFlying]
  exact hDeparted

/-- The end of a fetch, with which its call ends. -/
theorem CacheCorrect.arrive (h : CacheCorrect settings loop) {waiting : List JwksWaiting}
    {sent : ℚ} {stretch : JwksStretch} (hFlying : loop.waiting.filterMap sentAt = [sent])
    (hErased : waiting.filterMap sentAt = []) (hNow : s'.now = loop.state.now)
    (hArrived : landing stretch = none ∧ s'.cache = loop.state.cache ∨
      ∃ keys, landing stretch = some (sent, keys) ∧
        s'.cache settings.brokerJwksUrl = some ⟨keys, sent⟩)
    (hAnswered : Answered settings stretch loop.trace) :
    CacheCorrect settings ⟨s', waiting, stretch :: loop.trace⟩ := by
  have hFlights : flights ⟨s', waiting, stretch :: loop.trace⟩ =
      ⟨loop.state.now, [], (stretch :: loop.trace).filterMap landing⟩ := by
    rw [flights, hErased, hNow]
  refine ⟨?_, ?_, answered_cons h.answered hAnswered⟩
  · rw [hFlights]
    rcases hArrived with ⟨hLanding, -⟩ | ⟨keys, hLanding, -⟩
    · rw [List.filterMap_cons_none hLanding]
      exact h.orderly.step (.fail hFlying)
    · rw [List.filterMap_cons_some hLanding]
      exact h.orderly.step (.land hFlying keys)
  · rw [hFlights]
    rcases hArrived with ⟨hLanding, hCache⟩ | ⟨keys, hLanding, hCache⟩
    · rw [List.filterMap_cons_none hLanding]
      show s'.cache settings.brokerJwksUrl = _
      rw [hCache]
      exact h.newest
    · rw [List.filterMap_cons_some hLanding]
      exact hCache

theorem Consistent.start (h : Consistent settings eventLoop loop) (call : Nat) :
    Consistent settings eventLoop
      (loop.move (fun _ => getJwks settings eventLoop) JwksState.wait (.start call)) := by
  refine (h.locking.start call).consistent ?_
  cases hFresh : loop.state.freshKeys settings with
  | some keys =>
      rw [Loop.move, advance_getJwks_hit hFresh]
      exact h.correct.quiet rfl rfl rfl rfl (h.correct.answered_hit hFresh (.inl rfl) rfl rfl)
  | none =>
      cases hFor : loop.state.lockFor eventLoop settings.brokerJwksUrl with
      | some lock =>
          rw [Loop.move, advance_getJwks_miss hFresh hFor]
          exact h.correct.quiet (by simp [sentAt]) rfl rfl rfl (answered_waiting (.inl rfl) rfl)
      | none =>
          rw [Loop.move, advance_getJwks_first hFresh hFor]
          exact h.correct.quiet (by simp [sentAt]) rfl rfl rfl (answered_waiting (.inl rfl) rfl)

theorem Consistent.acquire (h : Consistent settings eventLoop loop) {index lock call : Nat}
    {next : AcquireReply → JwksAction Json}
    (hIndex : loop.waiting[index]? = some ⟨call, .acquire lock, next⟩) (reply : AcquireReply)
    (hFree : reply = .acquired → loop.state.locked lock = false) :
    Consistent settings eventLoop
      (Loop.place ⟨loop.state, loop.waiting.eraseIdx index, loop.trace⟩ call
        (some ⟨.acquire lock, reply⟩) ((next reply).advance loop.state)) := by
  refine (h.locking.acquire hIndex reply hFree).consistent ?_
  obtain ⟨hFor, rfl⟩ := h.held _ (List.mem_of_getElem? hIndex)
  have hErased : (loop.waiting.eraseIdx index).filterMap sentAt = loop.waiting.filterMap sentAt :=
    Loop.filterMap_eraseIdx hIndex rfl
  cases reply with
  | cancelled =>
      exact h.correct.quiet hErased rfl rfl rfl (answered_cancelled (.inl ⟨lock, rfl⟩) rfl)
  | acquired =>
      cases hFresh : loop.state.freshKeys settings with
      | none =>
          have hNone := (h.guarded lock hFor).mp (hFree rfl)
          rw [advance_withLock_miss hFresh]
          refine h.correct.depart hNone ?_
          rw [List.filterMap_append, hErased, show loop.waiting.filterMap sentAt = [] from hNone]
          rfl
      | some keys =>
          rw [advance_withLock_hit hFresh]
          exact h.correct.quiet hErased rfl rfl rfl
            (h.correct.answered_hit hFresh (.inr ⟨lock, rfl⟩) rfl rfl)

theorem Consistent.get (hTtl : 0 ≤ settings.jwksCacheTtlSeconds)
    (h : Consistent settings eventLoop loop) {index call : Nat} {url : PyStr} {sent : ℚ}
    {next : HttpReply → JwksAction Json}
    (hIndex : loop.waiting[index]? = some ⟨call, .get url sent, next⟩) (reply : HttpReply)
    (hList : ∀ keys, reply.keys = .ok keys → ∃ values, keys = .arr values) :
    Consistent settings eventLoop
      (Loop.place ⟨loop.state, loop.waiting.eraseIdx index, loop.trace⟩ call
        (some ⟨.get url sent, reply⟩) ((next reply).advance loop.state)) := by
  refine (h.locking.get hIndex reply).consistent ?_
  obtain ⟨lock, hFor, rfl⟩ := h.held _ (List.mem_of_getElem? hIndex)
  obtain ⟨hFlying, hErased⟩ := h.locking.alone hIndex rfl
  cases hKeys : reply.keys with
  | ok keys =>
      obtain ⟨values, rfl⟩ := hList keys hKeys
      rw [advance_afterGet_ok hKeys]
      exact h.correct.arrive hFlying hErased rfl
        (.inr ⟨.arr values, landing_of_ok (ownFetch_get rfl hKeys),
          JwksState.cache_storeEntry_self _⟩)
        (answered_landed hTtl (ownFetch_get rfl hKeys) rfl)
  | error exc =>
      by_cases hExc : exc = .cancelled
      · subst hExc
        rw [advance_afterGet_cancelled hKeys]
        exact h.correct.arrive hFlying hErased rfl
          (.inl ⟨landing_of_error (ownFetch_get rfl hKeys), rfl⟩)
          (answered_cancelled (.inr ⟨sent, ownFetch_get rfl hKeys⟩) rfl)
      · obtain ⟨log, hAdvance⟩ := advance_afterGet_failed settings lock sent loop.state
          (loop.state.cache settings.brokerJwksUrl) hKeys hExc
        rw [hAdvance]
        exact h.correct.arrive hFlying hErased rfl
          (.inl ⟨landing_of_error (ownFetch_get rfl hKeys), rfl⟩)
          (h.correct.answered_failed ⟨sent, exc, ownFetch_get rfl hKeys, hExc⟩ rfl rfl)

/-- What a reliable move preserves. -/
theorem Consistent.move (hTtl : 0 ≤ settings.jwksCacheTtlSeconds) (loop : JwksLoop)
    (m : JwksMove) (hReliable : Reliable loop m) (h : Consistent settings eventLoop loop) :
    Consistent settings eventLoop
      (loop.move (fun _ => getJwks settings eventLoop) JwksState.wait m) := by
  cases m with
  | start call => exact h.start call
  | outside delay =>
      refine (h.locking.wait delay).consistent ⟨?_, h.correct.newest, h.correct.answered⟩
      exact h.correct.orderly.step (.wait (le_add_of_nonneg_right delay.2))
  | resume index reply =>
      rw [Loop.move]
      cases hIndex : loop.waiting[index]? with
      | none => exact h
      | some w =>
          have hHere := hReliable w hIndex
          obtain ⟨call, query, next⟩ := w
          cases query with
          | acquire lock => exact h.acquire hIndex _ hHere
          | get url sent => exact h.get hTtl hIndex _ hHere

theorem freshJwks_consistent (now : ℚ) : Consistent settings eventLoop (freshJwks now) := by
  refine (freshJwks_locking now).consistent ⟨Flights.orderly_grounded now, rfl, ?_⟩
  intro s older hSuffix
  exact absurd hSuffix.eq_of_length (by simpa using List.suffix_nil.mp hSuffix)

end Moves

/-- In every reliable schedule of `get_jwks` calls the cache is right. -/
theorem cache_correct (settings : Settings) (hTtl : 0 ≤ settings.jwksCacheTtlSeconds)
    (eventLoop : Nat) (now : ℚ) (moves : List JwksMove)
    (hReliable : (freshJwks now).Meets (fun _ => getJwks settings eventLoop) JwksState.wait
      Reliable moves) :
    CacheCorrect settings
      ((freshJwks now).run (fun _ => getJwks settings eventLoop) JwksState.wait moves) :=
  (Loop.run_invariant (Consistent.move hTtl) hReliable (freshJwks_consistent now)).correct

section Cases

/-- The lock is free, and the endpoint serves this list. -/
def sampleAnswers (keys : List Json) : (query : JwksQuery) → query.Answer
  | .acquire _ => .acquired
  | .get .. => .served (.obj [(py "keys", .arr keys)])

theorem two_calls_correct :
    CacheCorrect {} ((freshJwks 0).run (fun _ => getJwks {} 0) JwksState.wait
      [.start 0, .start 1, .resume 0 (sampleAnswers []), .outside ⟨1, by decide⟩,
        .resume 1 (sampleAnswers [])]) := by
  refine cache_correct {} (by decide) 0 0 _ ⟨trivial, trivial, ?_, trivial, ?_, trivial⟩
  · intro w hIndex
    obtain rfl := Option.some.inj hIndex
    exact fun _ => rfl
  · intro w hIndex
    obtain rfl := Option.some.inj hIndex
    intro keys hKeys
    exact ⟨[], (Except.ok.inj hKeys).symm⟩

end Cases

/-- The handlers' view of `get_jwks` covers every way in which a call ends. -/
theorem Answered.received {settings : Settings} {s : JwksStretch} {older : List JwksStretch}
    (h : Answered settings s older) {outcome : Except PyExc Json}
    (hEnded : s.ended = some outcome) :
    ∃ reply : JwksReply, outcome = Identity.received settings reply := by
  by_cases hCancelled : Cancelled s
  · have hOutcome := hEnded.symm.trans (h.cancelled hCancelled)
    exact ⟨.cancelled, Option.some.inj hOutcome⟩
  by_cases hFailed : FetchFailed s
  · have hOutcome := hEnded.symm.trans (h.failed hFailed)
    cases hEntry : s.found.cache settings.brokerJwksUrl with
    | none =>
        rw [hEntry] at hOutcome
        exact ⟨.unreachable, Option.some.inj hOutcome⟩
    | some entry =>
        rw [hEntry] at hOutcome
        exact ⟨.keys entry.keys, Option.some.inj hOutcome⟩
  · obtain ⟨keys, -, hOutcome, -⟩ := h.fresh outcome hEnded hCancelled hFailed
    exact ⟨.keys keys, hOutcome⟩

end Krb5TokenService.Identity
