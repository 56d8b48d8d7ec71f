import Krb5TokenService.Identity.JwksCache

/-! How often the key endpoint is asked. A fetch that brings something, list or
not, is the last for a TTL: whoever finds its entry fresh does not fetch. -/
namespace Krb5TokenService.Identity

open Python EventLoop EventLoop.Task

/-- The entry is what arrived last, and every fetch was sent later than a TTL
after those that had arrived. -/
structure Spaced (settings : Settings) (loop : JwksLoop) : Prop where
  newest : loop.state.cache settings.brokerJwksUrl =
    (loop.trace.filterMap landing).head?.map fun arrival => ⟨arrival.2, arrival.1⟩
  ended : ∀ s older, s :: older <:+ loop.trace → ∀ sent result, ownFetch s = some (sent, result) →
    ∀ arrival ∈ older.filterMap landing, settings.jwksCacheTtlSeconds < sent - arrival.1
  flying : ∀ sent ∈ loop.waiting.filterMap sentAt, ∀ arrival ∈ loop.trace.filterMap landing,
    settings.jwksCacheTtlSeconds < sent - arrival.1

section Arrivals

variable {settings : Settings} {trace : List JwksStretch}

theorem ownFetch_of_landing {s : JwksStretch} {arrival : ℚ × Json}
    (h : landing s = some arrival) : ownFetch s = some (arrival.1, .ok arrival.2) := by
  unfold landing at h
  split at h
  · next hFetch =>
      obtain rfl := Option.some.inj h
      exact hFetch
  · cases h

/-- Arrivals are a TTL apart. -/
theorem landed_apart (h : ∀ s older, s :: older <:+ trace → ∀ sent result,
      ownFetch s = some (sent, result) → ∀ arrival ∈ older.filterMap landing,
        (settings.jwksCacheTtlSeconds : ℚ) < sent - arrival.1) :
    (trace.filterMap landing).Pairwise fun newer older =>
      (settings.jwksCacheTtlSeconds : ℚ) < newer.1 - older.1 := by
  induction trace with
  | nil => exact .nil
  | cons s rest ih =>
      have hRest := ih fun t older hSuffix => h t older (hSuffix.trans (List.suffix_cons _ _))
      cases hLanding : landing s with
      | none =>
          rw [List.filterMap_cons_none hLanding]
          exact hRest
      | some arrival =>
          rw [List.filterMap_cons_some hLanding]
          exact List.pairwise_cons.mpr
            ⟨h s rest List.suffix_rfl arrival.1 _ (ownFetch_of_landing hLanding), hRest⟩

end Arrivals

section Moves

variable {settings : Settings} {eventLoop : Nat} {loop : JwksLoop} {s' : JwksState}
    {waiting : List JwksWaiting} {stretch : JwksStretch} {index : Nat}

/-- A call that finds no fresh entry finds none that has arrived within a TTL. -/
theorem Spaced.apart_of_stale (hTtl : 0 ≤ settings.jwksCacheTtlSeconds) (h : Spaced settings loop)
    (hStale : loop.state.freshKeys settings = none) :
    ∀ arrival ∈ loop.trace.filterMap landing,
      settings.jwksCacheTtlSeconds < loop.state.now - arrival.1 := by
  have hApart := landed_apart h.ended
  have hNewest := h.newest
  cases hLanded : loop.trace.filterMap landing with
  | nil => exact fun _ hNone => absurd hNone List.not_mem_nil
  | cons first rest =>
      rw [hLanded] at hApart hNewest
      have hFirst : (settings.jwksCacheTtlSeconds : ℚ) < loop.state.now - first.1 := by
        rw [JwksState.freshKeys, hNewest] at hStale
        by_contra hAge
        rw [not_lt] at hAge
        simp [hAge] at hStale
      have hTtl : (0 : ℚ) ≤ settings.jwksCacheTtlSeconds := by exact_mod_cast hTtl
      intro arrival hArrival
      rcases List.mem_cons.mp hArrival with rfl | hOlder
      · exact hFirst
      · have hBefore := (List.pairwise_cons.mp hApart).1 arrival hOlder
        linarith

/-- A stretch that neither sends a fetch nor ends one. -/
theorem Spaced.quiet (h : Spaced settings loop) (hCache : s'.cache = loop.state.cache)
    (hFlying : waiting.filterMap sentAt = loop.waiting.filterMap sentAt)
    (hNoFetch : ownFetch stretch = none) :
    Spaced settings ⟨s', waiting, stretch :: loop.trace⟩ := by
  have hLanded : (stretch :: loop.trace).filterMap landing = loop.trace.filterMap landing :=
    List.filterMap_cons_none (landing_of_ownFetch_none hNoFetch)
  refine ⟨?_, ?_, ?_⟩
  · rw [hLanded, ← h.newest]
    exact congrFun hCache _
  · intro t older hSuffix sent result hFetch
    rcases List.suffix_cons_iff.mp hSuffix with hHere | hBefore
    · obtain ⟨rfl, rfl⟩ := List.cons.inj hHere
      rw [hNoFetch] at hFetch
      cases hFetch
    · exact h.ended t older hBefore sent result hFetch
  · rw [hLanded]
    intro sent hSent
    exact h.flying sent (hFlying ▸ hSent)

theorem Spaced.start (h : Spaced settings loop) (call : Nat) :
    Spaced settings
      (loop.move (fun _ => getJwks settings eventLoop) JwksState.wait (.start call)) := by
  cases hFresh : loop.state.freshKeys settings with
  | some keys =>
      rw [Loop.move, advance_getJwks_hit hFresh]
      exact h.quiet rfl rfl rfl
  | none =>
      cases hFor : loop.state.lockFor eventLoop settings.brokerJwksUrl with
      | some lock =>
          rw [Loop.move, advance_getJwks_miss hFresh hFor]
          exact h.quiet rfl (by simp [sentAt]) rfl
      | none =>
          rw [Loop.move, advance_getJwks_first hFresh hFor]
          exact h.quiet rfl (by simp [sentAt]) rfl

theorem Spaced.acquire (hTtl : 0 ≤ settings.jwksCacheTtlSeconds) (h : Spaced settings loop)
    {lock call : Nat} {next : AcquireReply → JwksAction Json}
    (hIndex : loop.waiting[index]? = some ⟨call, .acquire lock, next⟩)
    (hNext : next = withLock settings lock) (reply : AcquireReply) :
    Spaced settings
      (Loop.place ⟨loop.state, loop.waiting.eraseIdx index, loop.trace⟩ call
        (some ⟨.acquire lock, reply⟩) ((next reply).advance loop.state)) := by
  subst hNext
  have hErased : (loop.waiting.eraseIdx index).filterMap sentAt = loop.waiting.filterMap sentAt :=
    Loop.filterMap_eraseIdx hIndex rfl
  cases reply with
  | cancelled => exact h.quiet rfl hErased rfl
  | acquired =>
      cases hFresh : loop.state.freshKeys settings with
      | some keys =>
          rw [advance_withLock_hit hFresh]
          exact h.quiet rfl hErased rfl
      | none =>
          rw [advance_withLock_miss hFresh]
          refine ⟨h.newest, ?_, ?_⟩
          · intro t older hSuffix sent result hFetch
            rcases List.suffix_cons_iff.mp hSuffix with hHere | hBefore
            · obtain ⟨rfl, rfl⟩ := List.cons.inj hHere
              cases hFetch
            · exact h.ended t older hBefore sent result hFetch
          · intro sent hSent
            rw [Loop.place, List.filterMap_append, hErased] at hSent
            rcases List.mem_append.mp hSent with hOld | hNew
            · exact h.flying sent hOld
            · obtain rfl := List.mem_singleton.mp hNew
              have hApart := h.apart_of_stale hTtl hFresh
              exact hApart

/-- The entry after a fetch: what it brought, or the one before. -/
theorem afterGet_cache (settings : Settings) (lock : Nat) (sent : ℚ) (s : JwksState)
    (entry : Option JwksEntry) (reply : HttpReply) :
    (∃ keys, reply.keys = .ok keys ∧
      ((afterGet settings lock entry sent reply).advance s).2.cache settings.brokerJwksUrl =
        some ⟨keys, sent⟩) ∨
    (∃ exc, reply.keys = .error exc) ∧
      ((afterGet settings lock entry sent reply).advance s).2.cache = s.cache := by
  cases hKeys : reply.keys with
  | ok keys =>
      refine .inl ⟨keys, rfl, ?_⟩
      cases hLen : jsonLen keys with
      | ok count =>
          rw [advance_afterGet_sized hKeys hLen]
          exact JwksState.cache_storeEntry_self _
      | error exc =>
          rw [advance_afterGet_unsized hKeys hLen]
          exact JwksState.cache_storeEntry_self _
  | error exc =>
      refine .inr ⟨⟨exc, rfl⟩, ?_⟩
      by_cases hExc : exc = .cancelled
      · rw [hExc] at hKeys
        rw [advance_afterGet_cancelled hKeys]
        rfl
      · obtain ⟨log, hAdvance⟩ := advance_afterGet_failed settings lock sent s entry hKeys hExc
        rw [hAdvance]
        rfl

theorem Spaced.get (hLocking : Locking settings eventLoop loop) (h : Spaced settings loop)
    {call : Nat} {url : PyStr} {sent : ℚ} {next : HttpReply → JwksAction Json}
    (hIndex : loop.waiting[index]? = some ⟨call, .get url sent, next⟩) (reply : HttpReply) :
    Spaced settings
      (Loop.place ⟨loop.state, loop.waiting.eraseIdx index, loop.trace⟩ call
        (some ⟨.get url sent, reply⟩) ((next reply).advance loop.state)) := by
  obtain ⟨lock, hFor, rfl⟩ := hLocking.held _ (List.mem_of_getElem? hIndex)
  obtain ⟨hFlying, hErased⟩ := hLocking.alone hIndex rfl
  obtain ⟨outcome, cache, log, hAdvance⟩ := advance_afterGet settings lock sent loop.state
    (loop.state.cache settings.brokerJwksUrl) reply
  have hSent : sent ∈ loop.waiting.filterMap sentAt := by
    rw [hFlying]
    exact List.mem_singleton_self sent
  have hCache := afterGet_cache settings lock sent loop.state
    (loop.state.cache settings.brokerJwksUrl) reply
  rw [hAdvance] at hCache ⊢
  refine ⟨?_, ?_, ?_⟩
  · rcases hCache with ⟨keys, hKeys, hStored⟩ | ⟨⟨exc, hKeys⟩, hKept⟩
    · refine hStored.trans ?_
      rw [Loop.place, List.filterMap_cons_some (landing_of_ok (ownFetch_get rfl hKeys))]
      rfl
    · refine (congrFun hKept _).trans ?_
      rw [Loop.place, List.filterMap_cons_none (landing_of_error (ownFetch_get rfl hKeys))]
      exact h.newest
  · intro t older hSuffix sent' result hFetch
    rcases List.suffix_cons_iff.mp hSuffix with hHere | hBefore
    · obtain ⟨rfl, rfl⟩ := List.cons.inj hHere
      obtain ⟨rfl, -⟩ := Prod.mk.inj (Option.some.inj hFetch)
      exact h.flying _ hSent
    · exact h.ended t older hBefore sent' result hFetch
  · intro sent' hOther
    rw [Loop.place, hErased] at hOther
    cases hOther

/-- What a move preserves that acquires the lock only while it is free. -/
theorem Spaced.move (hTtl : 0 ≤ settings.jwksCacheTtlSeconds) (loop : JwksLoop) (m : JwksMove)
    (hLocking : Locking settings eventLoop loop) (h : Spaced settings loop) :
    Spaced settings
      (loop.move (fun _ => getJwks settings eventLoop) JwksState.wait m) := by
  cases m with
  | start call => exact h.start call
  | outside delay => exact ⟨h.newest, h.ended, h.flying⟩
  | resume index reply =>
      rw [Loop.move]
      cases hIndex : loop.waiting[index]? with
      | none => exact h
      | some w =>
          have hHeld := hLocking.held w (List.mem_of_getElem? hIndex)
          obtain ⟨call, query, next⟩ := w
          cases query with
          | acquire lock => exact h.acquire hTtl hIndex hHeld.2 _
          | get url sent => exact h.get hLocking hIndex _

theorem freshJwks_spaced (now : ℚ) : Spaced settings (freshJwks now) := by
  refine ⟨rfl, ?_, fun _ hSent => absurd hSent List.not_mem_nil⟩
  intro s older hSuffix
  exact absurd hSuffix.eq_of_length (by simpa using List.suffix_nil.mp hSuffix)

end Moves

end Krb5TokenService.Identity
