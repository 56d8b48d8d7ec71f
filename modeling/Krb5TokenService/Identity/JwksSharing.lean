import Krb5TokenService.Identity.JwksCache

/-! Callers that wait for the lock while another one fetches. They share that
fetch's outcome as long as it succeeds and leaves its keys fresh until their
turn has come. -/
namespace Krb5TokenService.Identity

open Python EventLoop EventLoop.Task

section Statements

/-- The fetches that have ended. -/
def fetchesEnded (trace : List JwksStretch) : Nat := trace.countP fun s => (ownFetch s).isSome

/-- What is assumed of a schedule: a call's number is that of the fetches that
ended before it, nothing is cancelled, and the lock, once it is free, goes to
the call that has waited longest. -/
def Fair (loop : JwksLoop) : JwksMove → Prop
  | .start call => call = fetchesEnded loop.trace
  | .resume index reply =>
      ∀ w, loop.waiting[index]? = some w →
        match w.query with
        | .acquire lock => reply (.acquire lock) = .acquired ∧ loop.state.locked lock = false ∧
            ∀ v ∈ loop.waiting.take index, sentAt v ≠ none
        | .get url sent => HttpReply.keys (reply (.get url sent)) ≠ .error .cancelled
  | _ => True

/-- The fetch brings keys that can be counted. -/
def Succeeds (reply : HttpReply) : Prop :=
  ∃ keys count, reply.keys = .ok keys ∧ jsonLen keys = .ok count

/-- The condition under which waiting calls share a fetch: one that ends while
calls wait for the lock succeeds, and when the lock comes to a call that was
waiting then, the cached keys are still fresh. -/
def KeepsFresh (settings : Settings) (loop : JwksLoop) : JwksMove → Prop
  | .resume index reply =>
      ∀ w, loop.waiting[index]? = some w →
        match w.query with
        | .acquire _ => w.label < fetchesEnded loop.trace → loop.state.freshKeys settings ≠ none
        | .get url sent => (∃ v ∈ loop.waiting, sentAt v = none) → Succeeds (reply (.get url sent))
  | _ => True

/-- A call that was waiting when a fetch ended, and now has the lock, ends at
once as the call that fetched did. -/
def Shared (trace : List JwksStretch) : Prop :=
  ∀ newer s middle fetch older, trace = newer ++ s :: (middle ++ fetch :: older) →
    (∃ lock, s.cause = some ⟨.acquire lock, .acquired⟩) → ownFetch fetch ≠ none →
      s.label ≤ fetchesEnded older → s.ended = fetch.ended

/-- How the last fetch ended. -/
def lastEnd (trace : List JwksStretch) : Option (Except PyExc Json) :=
  (trace.find? fun s => (ownFetch s).isSome).bind Stretch.ended

def queue (loop : JwksLoop) : List Nat :=
  loop.waiting.filterMap fun w => if sentAt w = none then some w.label else none

/-- The invariant. While a fetch is under way no one waits for an earlier one;
at most one fetch has ended while a call waited, and the cache holds its keys. -/
structure Sharing (settings : Settings) (eventLoop : Nat) (loop : JwksLoop) : Prop where
  locking : Locking settings eventLoop loop
  numbered : ∀ call ∈ queue loop, call ≤ fetchesEnded loop.trace
  sorted : (queue loop).Pairwise (· ≤ ·)
  unawaited : loop.waiting.filterMap sentAt ≠ [] →
    ∀ call ∈ queue loop, fetchesEnded loop.trace ≤ call
  awaited : ∀ call ∈ queue loop, call < fetchesEnded loop.trace →
    fetchesEnded loop.trace = call + 1 ∧
      ∃ entry, loop.state.cache settings.brokerJwksUrl = some entry ∧
        lastEnd loop.trace = some (.ok entry.keys)
  shared : Shared loop.trace

end Statements

section Counting

variable {s : JwksStretch} {trace older middle : List JwksStretch}

theorem fetchesEnded_cons_none (h : ownFetch s = none) :
    fetchesEnded (s :: trace) = fetchesEnded trace := by
  simp [fetchesEnded, h]

theorem fetchesEnded_cons_some (h : ownFetch s ≠ none) :
    fetchesEnded (s :: trace) = fetchesEnded trace + 1 := by
  simp [fetchesEnded, Option.isSome_iff_ne_none.mpr h]

/-- The fetches that ended before, after and with this one. -/
theorem fetchesEnded_split (hTrace : trace = middle ++ s :: older) (h : ownFetch s ≠ none) :
    fetchesEnded trace = fetchesEnded middle + (fetchesEnded older + 1) := by
  rw [hTrace, ← fetchesEnded_cons_some h]
  exact List.countP_append

theorem lastEnd_cons_none (h : ownFetch s = none) : lastEnd (s :: trace) = lastEnd trace := by
  simp [lastEnd, h]

theorem lastEnd_cons_some (h : ownFetch s ≠ none) : lastEnd (s :: trace) = s.ended := by
  simp [lastEnd, Option.isSome_iff_ne_none.mpr h]

/-- The last fetch is the one after which none has ended. -/
theorem lastEnd_append (hMiddle : fetchesEnded middle = 0) (h : ownFetch s ≠ none) :
    lastEnd (middle ++ s :: older) = s.ended := by
  induction middle with
  | nil => exact lastEnd_cons_some h
  | cons t rest ih =>
      have hNone : ownFetch t = none := by
        by_contra hSome
        rw [fetchesEnded_cons_some hSome] at hMiddle
        omega
      rw [fetchesEnded_cons_none hNone] at hMiddle
      rw [List.cons_append, lastEnd_cons_none hNone, ih hMiddle]

/-- A further stretch, when it shares what it has to. -/
theorem Shared.cons (hShared : Shared trace)
    (hNew : (∃ lock, s.cause = some ⟨.acquire lock, .acquired⟩) →
      ∀ middle fetch older, trace = middle ++ fetch :: older → ownFetch fetch ≠ none →
        s.label ≤ fetchesEnded older → s.ended = fetch.ended) :
    Shared (s :: trace) := by
  intro newer t middle fetch older hTrace hCause hFetch hLabel
  cases newer with
  | nil =>
      obtain ⟨rfl, rfl⟩ := List.cons.inj hTrace
      exact hNew hCause middle fetch older rfl hFetch hLabel
  | cons first rest =>
      obtain ⟨rfl, hRest⟩ := List.cons.inj hTrace
      exact hShared rest t middle fetch older hRest hCause hFetch hLabel

end Counting

section Moves

variable {settings : Settings} {eventLoop : Nat} {loop : JwksLoop} {state : JwksState}
    {waiting : List JwksWaiting} {stretch : JwksStretch}

/-- A stretch that ends no fetch and sends none. -/
theorem Sharing.quiet (h : Sharing settings eventLoop loop)
    (hLocking : Locking settings eventLoop ⟨state, waiting, stretch :: loop.trace⟩)
    (hCache : state.cache = loop.state.cache) (hNoFetch : ownFetch stretch = none)
    (hFlying : waiting.filterMap sentAt = loop.waiting.filterMap sentAt)
    (hQueue : (queue ⟨state, waiting, stretch :: loop.trace⟩).Sublist
      (queue loop ++ [fetchesEnded loop.trace]))
    (hShared : Shared (stretch :: loop.trace)) :
    Sharing settings eventLoop ⟨state, waiting, stretch :: loop.trace⟩ := by
  have hMem : ∀ call ∈ queue ⟨state, waiting, stretch :: loop.trace⟩,
      call ∈ queue loop ∨ call = fetchesEnded loop.trace := fun call hCall => by
    simpa using hQueue.subset hCall
  have hEnded : fetchesEnded (stretch :: loop.trace) = fetchesEnded loop.trace :=
    fetchesEnded_cons_none hNoFetch
  refine ⟨hLocking, ?_, ?_, ?_, ?_, hShared⟩
  · intro call hCall
    rw [hEnded]
    rcases hMem call hCall with hOld | hNew
    · exact h.numbered call hOld
    · exact hNew.le
  · refine List.Pairwise.sublist hQueue (List.pairwise_append.mpr ⟨h.sorted, ?_, ?_⟩)
    · exact List.pairwise_singleton ..
    · intro call hCall last hLast
      rw [List.mem_singleton.mp hLast]
      exact h.numbered call hCall
  · intro hFlies call hCall
    rw [hEnded]
    rcases hMem call hCall with hOld | hNew
    · exact h.unawaited (by rwa [hFlying] at hFlies) call hOld
    · exact hNew.ge
  · intro call hCall hBefore
    rw [hEnded] at hBefore ⊢
    rcases hMem call hCall with hOld | hNew
    · obtain ⟨hNext, entry, hEntry, hLast⟩ := h.awaited call hOld hBefore
      refine ⟨hNext, entry, ?_, ?_⟩
      · show state.cache settings.brokerJwksUrl = some entry
        rw [hCache, hEntry]
      · rw [lastEnd_cons_none hNoFetch, hLast]
    · omega

/-- A call that waited for the lock and gets it was the first to wait. -/
theorem queue_first {index call lock : Nat} {next : AcquireReply → JwksAction Json}
    (hSorted : (queue loop).Pairwise (· ≤ ·))
    (hIndex : loop.waiting[index]? = some ⟨call, .acquire lock, next⟩)
    (hFirst : ∀ v ∈ loop.waiting.take index, sentAt v ≠ none) :
    call ∈ queue loop ∧ ∀ other ∈ queue loop, call ≤ other := by
  obtain ⟨hIn, hHere⟩ := List.getElem?_eq_some_iff.mp hIndex
  have hTake : (loop.waiting.take index).filterMap
      (fun w => if sentAt w = none then some w.label else none) = [] :=
    List.filterMap_eq_nil_iff.mpr fun v hv => if_neg (hFirst v hv)
  have hQueue : queue loop = call :: (loop.waiting.drop (index + 1)).filterMap
      (fun w => if sentAt w = none then some w.label else none) := by
    rw [queue]
    nth_rewrite 1 [← List.take_append_drop index loop.waiting]
    rw [List.drop_eq_getElem_cons hIn, hHere, List.filterMap_append, hTake, List.nil_append]
    rfl
  rw [hQueue] at hSorted ⊢
  refine ⟨List.mem_cons_self, fun other hOther => ?_⟩
  rcases List.mem_cons.mp hOther with hSame | hLater
  · exact hSame.ge
  · exact (List.pairwise_cons.mp hSorted).1 other hLater

variable (loop state) in
theorem queue_eraseIdx (index : Nat) (trace : List JwksStretch) :
    (queue ⟨state, loop.waiting.eraseIdx index, trace⟩).Sublist (queue loop) :=
  (List.eraseIdx_sublist ..).filterMap _

theorem Sharing.start (h : Sharing settings eventLoop loop) :
    Sharing settings eventLoop (loop.move (fun _ => getJwks settings eventLoop) JwksState.wait
      (.start (fetchesEnded loop.trace))) := by
  have hLocking := h.locking.start (fetchesEnded loop.trace)
  have hShared (stretch : JwksStretch) (hCause : stretch.cause = none) :
      Shared (stretch :: loop.trace) := by
    refine h.shared.cons ?_
    rintro ⟨lock, hLock⟩
    rw [hCause] at hLock
    cases hLock
  cases hFresh : loop.state.freshKeys settings with
  | some keys =>
      rw [Loop.move, advance_getJwks_hit hFresh] at hLocking ⊢
      exact h.quiet hLocking rfl rfl rfl (List.sublist_append_left ..) (hShared _ rfl)
  | none =>
      cases hFor : loop.state.lockFor eventLoop settings.brokerJwksUrl with
      | some lock =>
          rw [Loop.move, advance_getJwks_miss hFresh hFor] at hLocking ⊢
          refine h.quiet hLocking rfl rfl ?_ ?_ (hShared _ rfl)
          · simp [sentAt]
          · rw [queue, List.filterMap_append]
            exact List.Sublist.refl _
      | none =>
          rw [Loop.move, advance_getJwks_first hFresh hFor] at hLocking ⊢
          refine h.quiet hLocking rfl rfl ?_ ?_ (hShared _ rfl)
          · simp [sentAt]
          · rw [queue, List.filterMap_append]
            exact List.Sublist.refl _

/-- The lock comes to the call that has waited longest. If a fetch ended in the
meantime, it was one, and its keys are still in the cache. -/
theorem Sharing.acquire (h : Sharing settings eventLoop loop) {index call lock : Nat}
    {next : AcquireReply → JwksAction Json}
    (hIndex : loop.waiting[index]? = some ⟨call, .acquire lock, next⟩)
    (hFree : loop.state.locked lock = false)
    (hFirst : ∀ v ∈ loop.waiting.take index, sentAt v ≠ none)
    (hFresh : call < fetchesEnded loop.trace → loop.state.freshKeys settings ≠ none) :
    Sharing settings eventLoop
      (Loop.place ⟨loop.state, loop.waiting.eraseIdx index, loop.trace⟩ call
        (some ⟨.acquire lock, .acquired⟩) ((next .acquired).advance loop.state)) := by
  have hLocking := h.locking.acquire hIndex .acquired fun _ => hFree
  obtain ⟨hFor, rfl⟩ := h.locking.held _ (List.mem_of_getElem? hIndex)
  obtain ⟨hMem, hLeast⟩ := queue_first h.sorted hIndex hFirst
  cases hKeys : loop.state.freshKeys settings with
  | some keys =>
      rw [advance_withLock_hit hKeys] at hLocking ⊢
      refine h.quiet hLocking rfl rfl (Loop.filterMap_eraseIdx hIndex rfl)
        ((queue_eraseIdx loop _ index _).trans (List.sublist_append_left ..)) (h.shared.cons ?_)
      intro _ middle fetch older hTrace hFetch hLabel
      have hCount := fetchesEnded_split hTrace hFetch
      have hCall : call ≤ fetchesEnded older := hLabel
      obtain ⟨hOne, entry, hEntry, hLast⟩ := h.awaited call hMem (by omega)
      obtain ⟨fetchedAt, hCached, _⟩ := JwksState.entry_of_freshKeys hKeys
      obtain rfl := Option.some.inj (hEntry.symm.trans hCached)
      rw [hTrace, lastEnd_append (by omega) hFetch] at hLast
      exact hLast.symm
  | none =>
      have hNumber : fetchesEnded loop.trace ≤ call := not_lt.mp fun hBefore => hFresh hBefore hKeys
      rw [advance_withLock_miss hKeys] at hLocking ⊢
      have hQueue : (queue (Loop.place ⟨loop.state, loop.waiting.eraseIdx index, loop.trace⟩ call
          (some ⟨.acquire lock, .acquired⟩)
          (.waiting (.get settings.brokerJwksUrl loop.state.now) (afterGet settings lock
            (loop.state.cache settings.brokerJwksUrl) loop.state.now),
            loop.state.setLocked lock true))).Sublist (queue loop) := by
        rw [Loop.place, queue, List.filterMap_append]
        show List.Sublist (_ ++ []) _
        rw [List.append_nil]
        exact (List.eraseIdx_sublist ..).filterMap _
      have hEnded : fetchesEnded (⟨call, some ⟨.acquire lock, .acquired⟩, loop.state, none⟩ ::
          loop.trace) = fetchesEnded loop.trace := fetchesEnded_cons_none rfl
      refine ⟨hLocking, ?_, h.sorted.sublist hQueue, ?_, ?_, h.shared.cons ?_⟩
      · exact fun other hOther => hEnded ▸ h.numbered other (hQueue.subset hOther)
      · intro _ other hOther
        exact hEnded ▸ hNumber.trans (hLeast other (hQueue.subset hOther))
      · intro other hOther hBefore
        have hLater := hLeast other (hQueue.subset hOther)
        change other < fetchesEnded (_ :: loop.trace) at hBefore
        rw [hEnded] at hBefore
        omega
      · intro _ middle fetch older hTrace hFetch hLabel
        have hCount := fetchesEnded_split hTrace hFetch
        have hCall : call ≤ fetchesEnded older := hLabel
        omega

/-- The end of a fetch: the calls that wait for the lock have all started since
the fetch before. -/
theorem Sharing.arrive (h : Sharing settings eventLoop loop) {index : Nat} {w : JwksWaiting}
    {sent : ℚ} (hIndex : loop.waiting[index]? = some w) (hSent : sentAt w = some sent)
    (hLocking : Locking settings eventLoop
      ⟨state, loop.waiting.eraseIdx index, stretch :: loop.trace⟩)
    (hFetch : ownFetch stretch ≠ none)
    (hCause : ∀ lock, stretch.cause ≠ some ⟨.acquire lock, .acquired⟩)
    (hArrived : (∃ v ∈ loop.waiting, sentAt v = none) →
      ∃ entry, state.cache settings.brokerJwksUrl = some entry ∧
        stretch.ended = some (.ok entry.keys)) :
    Sharing settings eventLoop ⟨state, loop.waiting.eraseIdx index, stretch :: loop.trace⟩ := by
  obtain ⟨hFlying, hErased⟩ := h.locking.alone hIndex hSent
  have hQueue := queue_eraseIdx loop state index (stretch :: loop.trace)
  have hEnded : fetchesEnded (stretch :: loop.trace) = fetchesEnded loop.trace + 1 :=
    fetchesEnded_cons_some hFetch
  refine ⟨hLocking, ?_, h.sorted.sublist hQueue, ?_, ?_, h.shared.cons ?_⟩
  · intro call hCall
    have hNumber := h.numbered call (hQueue.subset hCall)
    show call ≤ fetchesEnded (stretch :: loop.trace)
    omega
  · intro hFlies
    exact absurd hErased hFlies
  · intro call hCall _
    have hNumber := h.numbered call (hQueue.subset hCall)
    have hSince := h.unawaited (by rw [hFlying]; simp) call (hQueue.subset hCall)
    obtain ⟨v, hv, hLabel⟩ := List.mem_filterMap.mp (hQueue.subset hCall)
    have hWaits : sentAt v = none := by
      by_contra hSome
      rw [if_neg hSome] at hLabel
      cases hLabel
    obtain ⟨entry, hEntry, hOk⟩ := hArrived ⟨v, hv, hWaits⟩
    refine ⟨?_, entry, hEntry, (lastEnd_cons_some hFetch).trans hOk⟩
    show fetchesEnded (stretch :: loop.trace) = call + 1
    omega
  · rintro ⟨lock, hLock⟩
    exact absurd hLock (hCause lock)

theorem Sharing.get (h : Sharing settings eventLoop loop) {index call : Nat} {url : PyStr}
    {sent : ℚ} {next : HttpReply → JwksAction Json}
    (hIndex : loop.waiting[index]? = some ⟨call, .get url sent, next⟩) (reply : HttpReply)
    (hSucceeds : (∃ v ∈ loop.waiting, sentAt v = none) → Succeeds reply) :
    Sharing settings eventLoop
      (Loop.place ⟨loop.state, loop.waiting.eraseIdx index, loop.trace⟩ call
        (some ⟨.get url sent, reply⟩) ((next reply).advance loop.state)) := by
  have hLocking := h.locking.get hIndex reply
  obtain ⟨lock, hFor, rfl⟩ := h.locking.held _ (List.mem_of_getElem? hIndex)
  obtain ⟨outcome, cache, log, hAdvance⟩ := advance_afterGet settings lock sent loop.state
    (loop.state.cache settings.brokerJwksUrl) reply
  rw [hAdvance] at hLocking ⊢
  refine h.arrive hIndex rfl hLocking (by simp [ownFetch]) (fun _ hCause => by cases hCause) ?_
  intro hWaits
  obtain ⟨keys, count, hKeys, hLen⟩ := hSucceeds hWaits
  rw [advance_afterGet_sized hKeys hLen] at hAdvance
  obtain ⟨hOutcome, hState⟩ := Prod.mk.inj hAdvance
  refine ⟨⟨keys, sent⟩, ?_, ?_⟩
  · rw [← hState]
    exact JwksState.cache_storeEntry_self _
  · exact congrArg some (Turn.finished.inj hOutcome).symm

/-- What a move preserves that shares its fetches. -/
theorem Sharing.move (loop : JwksLoop) (m : JwksMove)
    (hMove : Fair loop m ∧ KeepsFresh settings loop m)
    (h : Sharing settings eventLoop loop) :
    Sharing settings eventLoop
      (loop.move (fun _ => getJwks settings eventLoop) JwksState.wait m) := by
  obtain ⟨hFair, hFresh⟩ := hMove
  cases m with
  | start call =>
      obtain rfl : call = fetchesEnded loop.trace := hFair
      exact h.start
  | outside delay =>
      have hLocking := h.locking.wait delay
      exact ⟨hLocking, h.numbered, h.sorted, h.unawaited, h.awaited, h.shared⟩
  | resume index reply =>
      rw [Loop.move]
      cases hIndex : loop.waiting[index]? with
      | none => exact h
      | some w =>
          have hWaits := hFair w hIndex
          have hKeeps := hFresh w hIndex
          obtain ⟨call, query, next⟩ := w
          cases query with
          | acquire lock =>
              have hReply : reply (.acquire lock) = .acquired := hWaits.1
              show Sharing settings eventLoop (Loop.place _ call
                (some ⟨.acquire lock, reply (.acquire lock)⟩) ((next (reply _)).advance _))
              rw [hReply]
              exact h.acquire hIndex hWaits.2.1 hWaits.2.2 hKeeps
          | get url sent => exact h.get hIndex _ hKeeps

theorem freshJwks_sharing (now : ℚ) : Sharing settings eventLoop (freshJwks now) where
  locking := freshJwks_locking now
  numbered _ hCall := absurd hCall List.not_mem_nil
  sorted := .nil
  unawaited hFlies := absurd rfl hFlies
  awaited _ hCall := absurd hCall List.not_mem_nil
  shared newer s middle fetch older hTrace := by simp [freshJwks, Loop.idle] at hTrace

end Moves

/-- In every fair schedule whose fetches succeed while calls wait for them, and
are still fresh when those have their turn, every call that waits for a fetch
ends as that fetch does, without one of its own. -/
theorem waiting_calls_share (settings : Settings) (eventLoop : Nat) (now : ℚ)
    (moves : List JwksMove)
    (hMoves : (freshJwks now).Meets (fun _ => getJwks settings eventLoop) JwksState.wait
      (fun loop m => Fair loop m ∧ KeepsFresh settings loop m) moves) :
    Shared ((freshJwks now).run (fun _ => getJwks settings eventLoop) JwksState.wait moves).trace :=
  (Loop.run_invariant Sharing.move hMoves (freshJwks_sharing now)).shared

section Cases

theorem two_calls_share :
    Shared ((freshJwks 0).run (fun _ => getJwks {} 0) JwksState.wait
      [.start 0, .resume 0 (sampleAnswers []), .start 0, .resume 0 (sampleAnswers []),
        .resume 0 (sampleAnswers [])]).trace := by
  refine waiting_calls_share {} 0 0 _ ⟨⟨rfl, trivial⟩, ⟨?_, ?_⟩, ⟨rfl, trivial⟩, ⟨?_, ?_⟩,
    ⟨?_, ?_⟩, trivial⟩
  · intro w hIndex
    obtain rfl := Option.some.inj hIndex
    exact ⟨rfl, rfl, fun v hv => absurd hv List.not_mem_nil⟩
  · intro w hIndex
    obtain rfl := Option.some.inj hIndex
    exact fun hBefore => absurd hBefore (Nat.lt_irrefl 0)
  · intro w hIndex
    obtain rfl := Option.some.inj hIndex
    intro hCancelled
    cases hCancelled
  · intro w hIndex
    obtain rfl := Option.some.inj hIndex
    exact fun _ => ⟨.arr [], 0, rfl, rfl⟩
  · intro w hIndex
    obtain rfl := Option.some.inj hIndex
    exact ⟨rfl, rfl, fun v hv => absurd hv List.not_mem_nil⟩
  · intro w hIndex
    obtain rfl := Option.some.inj hIndex
    intro _ hStale
    change (if (0 : ℚ) - 0 ≤ (300 : ℤ) then some (Json.arr []) else none) = none at hStale
    rw [if_pos (by norm_num)] at hStale
    cases hStale

/-- The lock is free, and the endpoint does not answer. -/
def unanswered : (query : JwksQuery) → query.Answer
  | .acquire _ => .acquired
  | .get .. => .raised (.osError (py "timed out"))

/-- A second call waits while the first one's fetch fails, and then sends its
own. -/
theorem failure_not_shared :
    ∃ moves, (freshJwks 0).Meets (fun _ => getJwks {} 0) JwksState.wait Fair moves ∧
      ¬ Shared ((freshJwks 0).run (fun _ => getJwks {} 0) JwksState.wait moves).trace := by
  refine ⟨[.start 0, .resume 0 unanswered, .start 0, .resume 0 unanswered,
    .resume 0 unanswered], ⟨rfl, ?_, rfl, ?_, ?_, trivial⟩, ?_⟩
  · intro w hIndex
    obtain rfl := Option.some.inj hIndex
    exact ⟨rfl, rfl, fun v hv => absurd hv List.not_mem_nil⟩
  · intro w hIndex
    obtain rfl := Option.some.inj hIndex
    intro hCancelled
    cases hCancelled
  · intro w hIndex
    obtain rfl := Option.some.inj hIndex
    exact ⟨rfl, rfl, fun v hv => absurd hv List.not_mem_nil⟩
  · intro hShared
    have hSame := hShared [] _ [] _ _ rfl ⟨0, rfl⟩ (Option.some_ne_none _) (Nat.le_refl 0)
    exact Option.some_ne_none _ hSame.symm

end Cases

end Krb5TokenService.Identity
