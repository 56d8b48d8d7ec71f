import Krb5TokenService.Identity.JwksSpacing
import Krb5TokenService.Service.Progress

/-! How often the process asks the key endpoint, whatever its requests and its
probes do. -/
namespace Krb5TokenService.Service

open Python EventLoop EventLoop.Task Krb5TokenService.Action
open RateLimit Identity Minting

/-- A fetch that was sent in the TTL from `since` on. -/
def sentWithin (ttl since : ℚ) (arrival : ℚ × Json) : Bool :=
  since ≤ arrival.1 ∧ arrival.1 ≤ since + ttl

/-- A fetch is sent only later than a TTL after the last one that brought
something, so that no TTL holds two of those. -/
structure EndpointSpared (settings : Settings) (p : ProcessLoop) : Prop where
  ended : ∀ s older, s :: older <:+ p.trace → ∀ sent result, fetchEnded s = some (sent, result) →
    ∀ arrival ∈ keysServed older, settings.jwksCacheTtlSeconds < sent - arrival.1
  underWay : ∀ w ∈ p.waiting, ∀ sent, fetchSent w = some sent →
    ∀ arrival ∈ keysServed p.trace, settings.jwksCacheTtlSeconds < sent - arrival.1
  atMostOne : ∀ since,
    (keysServed p.trace).countP (sentWithin settings.jwksCacheTtlSeconds since) ≤ 1

section Windows

variable {ttl : ℚ} {arrivals : List (ℚ × Json)}

theorem at_most_one_in_window
    (hApart : arrivals.Pairwise fun newer older => ttl < newer.1 - older.1) (since : ℚ) :
    arrivals.countP (sentWithin ttl since) ≤ 1 := by
  have hWithin := hApart.filter (sentWithin ttl since)
  have hInside : ∀ arrival ∈ arrivals.filter (sentWithin ttl since),
      since ≤ arrival.1 ∧ arrival.1 ≤ since + ttl :=
    fun arrival hArrival => of_decide_eq_true (List.mem_filter.mp hArrival).2
  rw [List.countP_eq_length_filter]
  rcases hWindow : arrivals.filter (sentWithin ttl since) with _ | ⟨newer, _ | ⟨older, rest⟩⟩
  · exact Nat.zero_le 1
  · exact Nat.le_refl 1
  · rw [hWindow] at hWithin hInside
    have hGap := (List.pairwise_cons.mp hWithin).1 older List.mem_cons_self
    have hNewer := hInside newer List.mem_cons_self
    have hOlder := hInside older (List.mem_cons_of_mem _ List.mem_cons_self)
    linarith [hNewer.2, hOlder.1]

end Windows

section Runs

variable {d : Deployment} {eventLoop : Nat} {p : ProcessLoop} {replica : Replica}
    {cache : JwksLoop}

/-- The fetch that a stretch of the process ends, in the cache's terms. -/
theorem Told.fetch {s : ProcessStretch} {rs : List ReplicaStretch} {js : List JwksStretch}
    (h : Told d s rs js) {sent : ℚ} {result : Except PyExc Json}
    (hFetch : fetchEnded s = some (sent, result)) :
    ∃ t, js = [t] ∧ ownFetch t = some (sent, result) := by
  cases h with
  | alive => cases hFetch
  | refused outcome => cases hFetch
  | @asked route s cause => exact ⟨_, rfl, (fetchEnded_heard route cause s none none) ▸ hFetch⟩
  | @keyed job s cause outcome ended =>
      exact ⟨_, rfl, (fetchEnded_heard (.request job) cause s (answered ended) (some outcome)) ▸
        hFetch⟩
  | @probed probe s cause outcome =>
      exact ⟨_, rfl, (fetchEnded_heard (.readyz probe) cause s _ (some outcome)) ▸ hFetch⟩
  | child ended => cases hFetch

theorem Joined.endpointSpared (h : Joined d eventLoop p replica cache)
    (hSpaced : Spaced d.settings cache) : EndpointSpared d.settings p := by
  refine ⟨?_, ?_, ?_⟩
  · intro s older hSuffix sent result hFetch
    obtain ⟨r, j, rs, js, hTold, hOlder, -, hJs⟩ := h.traced.before hSuffix
    obtain ⟨t, rfl, hOwn⟩ := hTold.fetch hFetch
    rw [hOlder.landings]
    exact hSpaced.ended t js hJs sent result hOwn
  · intro w hw sent hSent
    rw [h.traced.landings]
    exact hSpaced.flying sent
      (h.fetches.mem_iff.mp (List.mem_filterMap.mpr ⟨w, hw, hSent⟩))
  · intro since
    rw [h.traced.landings]
    exact at_most_one_in_window (landed_apart hSpaced.ended) since

theorem ProcessReliable.exclusive {p : ProcessLoop} {m : ProcessMove} (h : ProcessReliable p m) :
    ProcessGuarded ExclusiveAnswer p m := by
  cases m with
  | start route => trivial
  | outside delay => trivial
  | resume index reply =>
      intro w query hIndex hQuery
      have hHere := h.guarded w query hIndex hQuery
      cases query with
      | acquire lock => exact hHere
      | get url sent => trivial

/-- In every interleaving of calls in which the lock is acquired only while it
is free, whatever the endpoint serves and whoever is cancelled, the endpoint is
asked again only once a TTL has passed since it was last asked with success. -/
theorem process_spares_endpoint (d : Deployment) (hTtl : 0 ≤ d.settings.jwksCacheTtlSeconds)
    (eventLoop : Nat) (now : ℚ) (schedule : List ProcessMove)
    (hExclusive : (freshProcess now).Meets (Route.task d eventLoop) ProcessState.wait
      (ProcessGuarded ExclusiveAnswer) schedule) :
    EndpointSpared d.settings
      ((freshProcess now).run (Route.task d eventLoop) ProcessState.wait schedule) := by
  obtain ⟨moves, calls, hJoined, -, hCalls⟩ :=
    (freshProcess_joined now : Joined d eventLoop _ _ _).run schedule
  have hMeets := Loop.Meets.imp (fun _ _ => exclusive_of_guarded)
    (hCalls ExclusiveAnswer hExclusive)
  have hCache := Loop.run_invariant
    (P := fun loop => Locking d.settings eventLoop loop ∧ Spaced d.settings loop)
    (fun loop m hMove h =>
      ⟨Locking.move loop m hMove h.1, Spaced.move hTtl loop m h.1 h.2⟩)
    hMeets ⟨freshJwks_locking now, freshJwks_spaced now⟩
  exact hJoined.endpointSpared hCache.2

/-- A request and a probe share a fetch that is served. -/
theorem shared_fetch_spares_endpoint :
    EndpointSpared sampleDeployment.settings
      ((freshProcess 0).run (Route.task sampleDeployment 0) ProcessState.wait
        (sharedFetch (.request (sampleJob sampleEnv)) (.readyz ⟨true, true⟩))) :=
  process_spares_endpoint sampleDeployment (by decide) 0 0 _
    (Loop.Meets.imp (fun _ _ => ProcessReliable.exclusive) (sharedFetch_reliable (.inl rfl)))

end Runs

end Krb5TokenService.Service
