import Krb5TokenService.Service.Composed

/-! What holds in every run of the process, because it holds of the replica and
of the cache that it is: the budget of bad passwords, single flights to the
endpoint, and the tokens and probes that its key lists decide. -/
namespace Krb5TokenService.Service

open Python EventLoop EventLoop.Task Krb5TokenService.Action
open RateLimit Identity Minting

section Observations

/-- The outcome of a POST, if this is one. -/
def responded : Option (Except PyExc Answer) → Option (Except PyExc Response)
  | some (.ok (.response r)) => some (.ok r)
  | some (.error exc) => some (.error exc)
  | _ => none

/-- The ending of a child that ran with a password. -/
def processEnding (s : ProcessStretch) : Option (PyStr × Ended) :=
  match s.label, s.cause with
  | .request job, some ⟨.child spec, reply⟩ =>
      childEnding ⟨job, some ⟨.child spec, reply⟩, s.found.world, responded s.ended⟩
  | _, _ => none

/-- The endings of the children for `username`, newest first. -/
def processHistory (username : PyStr) (p : ProcessLoop) : List Ended :=
  ((p.trace.filterMap processEnding).filter fun ending =>
    decide (ending.1 = username)).map Prod.snd

/-- When the fetch was sent that the call waits for. -/
def fetchSent (w : ProcessWaiting) : Option ℚ :=
  match w.query with
  | .jwks (.get _ sent) => some sent
  | _ => none

/-- When the call's own fetch was sent and how it ended, if this stretch began
with its end. -/
def fetchEnded (s : ProcessStretch) : Option (ℚ × Except PyExc Json) :=
  match s.cause with
  | some ⟨.jwks (.get _ sent), reply⟩ => some (sent, HttpReply.keys reply)
  | _ => none

def served (s : ProcessStretch) : Option (ℚ × Json) :=
  match fetchEnded s with
  | some (sent, .ok keys) => some (sent, keys)
  | _ => none

/-- The key lists that the endpoint has served, newest first. -/
def keysServed (trace : List ProcessStretch) : List (ℚ × Json) := trace.filterMap served

def processFlights (p : ProcessLoop) : Flights ℚ Json :=
  ⟨p.state.jwks.now, p.waiting.filterMap fetchSent, keysServed p.trace⟩

/-- The refresh that this stretch ends has failed. -/
def RefreshFailed (s : ProcessStretch) : Prop :=
  ∃ sent exc, fetchEnded s = some (sent, .error exc) ∧ exc ≠ .cancelled

/-- The clock reading by which a call judges the age of its keys. -/
def judgedAt (s : ProcessStretch) : ℚ :=
  match fetchEnded s with
  | some (sent, _) => sent
  | none => s.found.jwks.now

end Observations

section Correspondence

variable {d : Deployment} {eventLoop : Nat} {ps : List ProcessStretch} {rs : List ReplicaStretch}
    {js : List JwksStretch}

theorem responded_answered (ended : Option (Except PyExc Response)) :
    responded (answered ended) = ended := by
  rcases ended with _ | ⟨exc | response⟩ <;> rfl

theorem processEnding_heard (route : Route) (cause : Option ((query : JwksQuery) × query.Answer))
    (s : ProcessState) (ended : Option (Except PyExc Answer)) :
    processEnding ⟨route, heard cause, s, ended⟩ = none := by
  cases route <;> cases cause <;> rfl

theorem fetchEnded_heard (route : Route) (cause : Option ((query : JwksQuery) × query.Answer))
    (s : ProcessState) (ended : Option (Except PyExc Answer))
    (ended' : Option (Except PyExc Json)) :
    fetchEnded ⟨route, heard cause, s, ended⟩ = ownFetch ⟨0, cause, s.jwks, ended'⟩ := by
  rcases cause with _ | ⟨query, reply⟩
  · rfl
  · cases query <;> rfl

theorem served_heard (route : Route) (cause : Option ((query : JwksQuery) × query.Answer))
    (s : ProcessState) (ended : Option (Except PyExc Answer))
    (ended' : Option (Except PyExc Json)) :
    served ⟨route, heard cause, s, ended⟩ = landing ⟨0, cause, s.jwks, ended'⟩ := by
  rw [served, fetchEnded_heard _ _ _ _ ended']
  rfl

theorem filterMap_cons_toList {α β : Type} (f : α → Option β) (a : α) (rest : List α) :
    (a :: rest).filterMap f = (f a).toList ++ rest.filterMap f := by
  rw [List.filterMap_cons]
  cases f a <;> rfl

theorem Told.endings {s : ProcessStretch} (h : Told d s rs js) :
    (processEnding s).toList = rs.filterMap childEnding := by
  cases h with
  | alive => rfl
  | refused outcome => rfl
  | asked => rw [processEnding_heard]; rfl
  | keyed ended => rw [processEnding_heard]; rfl
  | probed => rw [processEnding_heard]; rfl
  | @child job s spec reply ended =>
      show (childEnding
        ⟨job, some ⟨.child spec, reply⟩, s.world, responded (answered ended)⟩).toList = _
      rw [responded_answered, filterMap_cons_toList]
      exact (List.append_nil _).symm

theorem Told.landings {s : ProcessStretch} (h : Told d s rs js) :
    (served s).toList = js.filterMap landing := by
  have hHeard (route : Route) (cause : Option ((query : JwksQuery) × query.Answer))
      (s : ProcessState) (ended : Option (Except PyExc Answer))
      (ended' : Option (Except PyExc Json)) :
      (served ⟨route, heard cause, s, ended⟩).toList =
        [(⟨0, cause, s.jwks, ended'⟩ : JwksStretch)].filterMap landing := by
    rw [served_heard _ _ _ _ ended', filterMap_cons_toList]
    exact (List.append_nil _).symm
  cases h with
  | alive => rfl
  | refused outcome => rfl
  | asked => exact hHeard ..
  | keyed ended => exact hHeard ..
  | probed => exact hHeard ..
  | child ended => rfl

theorem Traced.endings (h : Traced d ps rs js) :
    ps.filterMap processEnding = rs.filterMap childEnding := by
  induction h with
  | nil => rfl
  | arrived h ih => rw [List.filterMap_cons_none rfl, ih]
  | told hTold h ih =>
      rw [filterMap_cons_toList, List.filterMap_append, hTold.endings, ih]

theorem Traced.landings (h : Traced d ps rs js) : keysServed ps = js.filterMap landing := by
  unfold keysServed
  induction h with
  | nil => rfl
  | arrived h ih => exact ih
  | told hTold h ih =>
      rw [filterMap_cons_toList, List.filterMap_append, hTold.landings, ih]

variable {s : ProcessStretch} {older : List ProcessStretch}

/-- What the run was when a stretch began. -/
theorem Traced.before (h : Traced d ps rs js) (hHere : s :: older <:+ ps) :
    ∃ r j rs' js', Told d s r j ∧ Traced d older rs' js' ∧ r ++ rs' <:+ rs ∧ j ++ js' <:+ js := by
  induction h with
  | nil => cases (List.suffix_nil.mp hHere)
  | arrived h ih =>
      obtain ⟨r, j, rs', js', hTold, hOlder, hRs, hJs⟩ := ih hHere
      exact ⟨r, j, rs', js', hTold, hOlder, hRs.trans (List.suffix_cons _ _), hJs⟩
  | told hTold h ih =>
      rcases List.suffix_cons_iff.mp hHere with hNew | hOld
      · obtain ⟨rfl, rfl⟩ := List.cons.inj hNew
        exact ⟨_, _, _, _, hTold, h, List.suffix_rfl, List.suffix_rfl⟩
      · obtain ⟨r, j, rs', js', hTold', hOlder, hRs, hJs⟩ := ih hOld
        exact ⟨r, j, rs', js', hTold', hOlder, hRs.trans (List.suffix_append _ _),
          hJs.trans (List.suffix_append _ _)⟩

/-- A stretch of the replica is part of a stretch of the process, or only marks
the arrival of a request. -/
theorem Traced.origin (h : Traced d ps rs js) {x : ReplicaStretch} (hx : x ∈ rs) :
    x.cause = none ∨ ∃ s older r j rs' js', s :: older <:+ ps ∧ Told d s r j ∧ x ∈ r ∧
      Traced d older rs' js' ∧ j ++ js' <:+ js := by
  induction h with
  | nil => cases hx
  | arrived h ih =>
      rcases List.mem_cons.mp hx with rfl | hOld
      · exact .inl rfl
      · exact ih hOld
  | @told s ps r rs j js hTold h ih =>
      rcases List.mem_append.mp hx with hNew | hOld
      · exact .inr ⟨s, ps, r, j, rs, js, List.suffix_rfl, hTold, hNew, h, List.suffix_rfl⟩
      · rcases ih hOld with hNone | ⟨s', older, r', j', rs', js', hHere, hTold', hIn, hOlder, hJs⟩
        · exact .inl hNone
        · exact .inr ⟨s', older, r', j', rs', js', hHere.trans (List.suffix_cons _ _), hTold', hIn,
            hOlder, hJs.trans (List.suffix_append _ _)⟩

end Correspondence

section Calls

variable {d : Deployment} {eventLoop : Nat} {loop cache : JwksLoop}

/-- Every stretch found the entry that had arrived last. -/
def FoundNewest (settings : Settings) (loop : JwksLoop) : Prop :=
  ∀ t older, t :: older <:+ loop.trace →
    t.found.cache settings.brokerJwksUrl =
      (older.filterMap landing).head?.map fun arrival => ⟨arrival.2, arrival.1⟩

theorem move_foundNewest (settings : Settings) {loop : JwksLoop} (m : JwksMove)
    (hCorrect : CacheCorrect settings loop) (h : FoundNewest settings loop) :
    FoundNewest settings
      (loop.move (fun _ => getJwks settings eventLoop) JwksState.wait m) := by
  rcases Loop.move_trace (fun _ => getJwks settings eventLoop) JwksState.wait loop m with
    hSame | ⟨label, cause, ended, hMore⟩
  · unfold FoundNewest
    rw [hSame]
    exact h
  · unfold FoundNewest
    rw [hMore]
    intro t older hSuffix
    rcases List.suffix_cons_iff.mp hSuffix with hNew | hOld
    · obtain ⟨rfl, rfl⟩ := List.cons.inj hNew
      exact hCorrect.newest
    · exact h t older hOld

/-- What is known of the cache of a process whose schedule is reliable. -/
structure CacheKnown (settings : Settings) (eventLoop : Nat) (loop : JwksLoop) : Prop where
  consistent : Consistent settings eventLoop loop
  foundNewest : FoundNewest settings loop

theorem cacheKnown_run (settings : Settings) (eventLoop : Nat)
    (hTtl : 0 ≤ settings.jwksCacheTtlSeconds) (now : ℚ) {calls : List JwksMove}
    (hReliable : (freshJwks now).Meets (fun _ => getJwks settings eventLoop) JwksState.wait
      Reliable calls) :
    CacheKnown settings eventLoop
      ((freshJwks now).run (fun _ => getJwks settings eventLoop) JwksState.wait calls) := by
  refine Loop.run_invariant (fun loop m hMove h => ?_) hReliable ⟨freshJwks_consistent now, ?_⟩
  · exact ⟨h.consistent.move hTtl loop m hMove,
      move_foundNewest settings m h.consistent.correct h.foundNewest⟩
  · intro t older hSuffix
    cases (List.suffix_nil.mp hSuffix)

/-- How a call of `get_jwks` ends: cancelled, for want of any key list, or with
one that the endpoint has served. That one is not older than the TTL, unless
the call's own refresh has just failed. -/
theorem CacheKnown.call_ends {settings : Settings} (h : CacheKnown settings eventLoop loop)
    {t : JwksStretch} {older : List JwksStretch} (hHere : t :: older <:+ loop.trace)
    {outcome : Except PyExc Json} (hEnded : t.ended = some outcome) :
    Cancelled t ∧ outcome = .error .cancelled ∨
      outcome = .error (unreachable settings.brokerJwksUrl) ∧
        (t :: older).filterMap landing = [] ∨
      ∃ sent keys, outcome = .ok keys ∧ (sent, keys) ∈ (t :: older).filterMap landing ∧
        (FetchFailed t ∨ lastReading t - settings.jwksCacheTtlSeconds ≤ sent) := by
  have hAnswered := h.consistent.correct.answered t older hHere
  by_cases hCancelled : Cancelled t
  · have hOutcome := hEnded.symm.trans (hAnswered.cancelled hCancelled)
    exact .inl ⟨hCancelled, Option.some.inj hOutcome⟩
  by_cases hFailed : FetchFailed t
  · have hOutcome := Option.some.inj (hEnded.symm.trans (hAnswered.failed hFailed))
    have hNoLanding : (t :: older).filterMap landing = older.filterMap landing := by
      obtain ⟨sent, exc, hFetch, -⟩ := hFailed
      exact List.filterMap_cons_none (landing_of_error hFetch)
    rw [h.foundNewest t older hHere] at hOutcome
    rw [hNoLanding]
    cases hLanded : older.filterMap landing with
    | nil =>
        rw [hLanded] at hOutcome
        exact .inr (.inl ⟨hOutcome, rfl⟩)
    | cons arrival rest =>
        rw [hLanded] at hOutcome
        exact .inr (.inr ⟨arrival.1, arrival.2, hOutcome, List.mem_cons_self, .inl hFailed⟩)
  · obtain ⟨keys, sent, hOutcome, hLanded, hAge⟩ :=
      hAnswered.fresh outcome hEnded hCancelled hFailed
    exact .inr (.inr ⟨sent, keys, hOutcome, hLanded, .inr hAge⟩)

end Calls

section Cases

/-- The lock is free, the endpoint serves one key, and a child fails with this
line. -/
def sampleWire (line : String) : (query : ProcessQuery) → ProcessReply query
  | .jwks (.acquire _) => .acquired
  | .jwks (.get ..) => .served (.obj [(py "keys", sampleKeys)])
  | .child _ => sampleFailure line

/-- Two calls share one fetch. -/
def sharedFetch (first second : Route) : List ProcessMove :=
  [.start first, .start second, .resume 0 (sampleWire "kinit: Password incorrect"),
    .resume 1 (sampleWire "kinit: Password incorrect")]

/-- The request's child fails, and then the probe finds the request's keys. -/
def requestAndProbe : List ProcessMove :=
  sharedFetch (.request (sampleJob sampleEnv)) (.readyz ⟨true, true⟩) ++
    [.resume 1 (sampleWire "kinit: Password incorrect"),
      .resume 0 (sampleWire "kinit: Password incorrect")]

theorem sampleWire_reliable {p : ProcessLoop} {index : Nat} (line : String)
    (h : ∀ w lock, p.waiting[index]? = some w → w.query = .jwks (.acquire lock) →
      p.state.jwks.locked lock = false) :
    ProcessReliable p (.resume index (sampleWire line)) := by
  intro w hIndex
  have hFree := h w
  obtain ⟨label, query, next⟩ := w
  rcases query with (lock | ⟨url, sent⟩) | spec
  · exact fun _ => hFree lock hIndex rfl
  · intro keys hKeys
    obtain rfl := Except.ok.inj hKeys
    exact ⟨_, rfl⟩
  · trivial

/-- Whoever of these two asks first fetches. -/
theorem sharedFetch_reliable {first second : Route}
    (hRoutes : (first, second) = (.request (sampleJob sampleEnv), .readyz ⟨true, true⟩) ∨
      (first, second) = (.readyz ⟨true, true⟩, .request (sampleJob sampleEnv))) :
    (freshProcess 0).Meets (Route.task sampleDeployment 0) ProcessState.wait ProcessReliable
      (sharedFetch first second) := by
  rcases hRoutes with h | h
  all_goals
    obtain ⟨rfl, rfl⟩ := Prod.mk.inj h
    refine ⟨trivial, trivial, sampleWire_reliable _ ?_, sampleWire_reliable _ ?_, trivial⟩
    · intro w lock hIndex hQuery
      obtain rfl := Option.some.inj hIndex
      cases hQuery
      rfl
    · intro w lock hIndex hQuery
      obtain rfl := Option.some.inj hIndex
      cases hQuery

end Cases

section Budget

/-- In every interleaving of calls whose moves leave room, no interval shorter
than the window and the lockout that holds no success for `username` holds more
bad passwords for it than attempts allowed. Neither what the probes do nor
where a request's key list comes from makes a difference. -/
theorem process_bad_passwords_bounded (d : Deployment) (eventLoop : Nat) (username : PyStr)
    (now : ℚ) (schedule : List ProcessMove)
    (hRoom : (freshProcess now).Meets (Route.task d eventLoop) ProcessState.wait
      (ProcessRoom d eventLoop username) schedule) :
    WithinBudget d.settings.failedAuth
      (processHistory username
        ((freshProcess now).run (Route.task d eventLoop) ProcessState.wait schedule)) := by
  obtain ⟨moves, calls, hJoined, hHasRoom, -⟩ :=
    (freshProcess_joined now : Joined d eventLoop _ _ _).run schedule
  have hWithin := Loop.run_invariant move_withinAccount (hHasRoom username hRoom)
    (freshReplica_withinAccount now)
  unfold processHistory
  rw [hJoined.traced.endings]
  exact hWithin.budgeted.bounded

theorem one_failure_bounded :
    WithinBudget sampleDeployment.settings.failedAuth
      (processHistory (py "gstark")
        ((freshProcess 0).run (Route.task sampleDeployment 0) ProcessState.wait
          requestAndProbe)) := by
  refine process_bad_passwords_bounded sampleDeployment 0 (py "gstark") 0 _
    ⟨⟨by decide, trivial⟩, ⟨by decide, trivial⟩, ⟨by decide, ?_⟩, ⟨by decide, ?_⟩,
      ⟨by decide, ?_⟩, ⟨by decide +kernel, ?_⟩, trivial⟩
  · intro job spec next hIndex
    cases hIndex
  · intro job spec next hIndex
    cases hIndex
  · intro job spec next hIndex _ _
    obtain rfl := Route.request.inj (congrArg Waiting.label (Option.some.inj hIndex))
    rfl
  · intro job spec next hIndex
    cases hIndex

end Budget

section Keys

variable {d : Deployment} {eventLoop : Nat}

/-- At most one fetch is under way, fetches arrive in the order in which they
were sent, and the cache holds the keys that were served last. -/
structure KeysInOrder (settings : Settings) (p : ProcessLoop) : Prop where
  orderly : (processFlights p).Orderly
  newest : p.state.jwks.cache settings.brokerJwksUrl =
    (keysServed p.trace).head?.map fun arrival => ⟨arrival.2, arrival.1⟩

theorem Joined.fetches {p : ProcessLoop} {replica : Replica} {cache : JwksLoop}
    (h : Joined d eventLoop p replica cache) :
    (p.waiting.filterMap fetchSent).Perm (cache.waiting.filterMap sentAt) := by
  refine h.waiting.filterMap_right fun w left right hStands => ?_
  cases hStands with
  | @request job query rest next => cases query <;> rfl
  | @probe probe query rest next hNext => cases query <;> rfl
  | child => rfl

theorem Joined.keysInOrder {p : ProcessLoop} {replica : Replica} {cache : JwksLoop}
    (h : Joined d eventLoop p replica cache) (hCorrect : CacheCorrect d.settings cache) :
    KeysInOrder d.settings p := by
  have hPerm := h.fetches
  have hFlights : processFlights p =
      ⟨(flights cache).now, p.waiting.filterMap fetchSent, (flights cache).landed⟩ := by
    rw [processFlights, h.traced.landings, ← h.jwks]
    rfl
  have hOrderly := hCorrect.orderly
  refine ⟨?_, ?_⟩
  · rw [hFlights]
    exact ⟨hPerm.length_eq.trans_le hOrderly.single,
      fun sent hSent => hOrderly.sentBefore sent (hPerm.mem_iff.mp hSent),
      hOrderly.landedBefore, hOrderly.ordered⟩
  · rw [← h.jwks, h.traced.landings]
    exact hCorrect.newest

/-- In every reliable interleaving of calls, POSTs and probes together, the
fetches of key lists are single flights, and the cache holds what was served
last. -/
theorem process_keys_in_order (d : Deployment) (hTtl : 0 ≤ d.settings.jwksCacheTtlSeconds)
    (eventLoop : Nat) (now : ℚ) (schedule : List ProcessMove)
    (hReliable : (freshProcess now).Meets (Route.task d eventLoop) ProcessState.wait
      ProcessReliable schedule) :
    KeysInOrder d.settings
      ((freshProcess now).run (Route.task d eventLoop) ProcessState.wait schedule) := by
  obtain ⟨moves, calls, hJoined, -, hCalls⟩ :=
    (freshProcess_joined now : Joined d eventLoop _ _ _).run schedule
  exact hJoined.keysInOrder
    (cacheKnown_run d.settings eventLoop hTtl now
      (reliable_calls hCalls hReliable)).consistent.correct

theorem shared_fetch_in_order :
    KeysInOrder sampleDeployment.settings
      ((freshProcess 0).run (Route.task sampleDeployment 0) ProcessState.wait
        (sharedFetch (.request (sampleJob sampleEnv)) (.readyz ⟨true, true⟩))) :=
  process_keys_in_order sampleDeployment (by decide) 0 0 _ (sharedFetch_reliable (.inl rfl))

/-- The call of `get_jwks` that this stretch resumes is cancelled. -/
def CallCancelled (s : ProcessStretch) : Prop :=
  (∃ lock, s.cause = some ⟨.jwks (.acquire lock), .cancelled⟩) ∨
    ∃ sent, fetchEnded s = some (sent, .error .cancelled)

/-- The problems that a probe reports in a process that has had these key
lists. -/
def problemsAfter (settings : Settings) (probe : Probe) (keys : List (ℚ × Json)) : List PyStr :=
  localProblems settings probe ++ if keys.isEmpty then [jwksProblem settings] else []

theorem served_eq_landing {s : ProcessStretch} {t : JwksStretch}
    (hFetch : fetchEnded s = ownFetch t) : served s = landing t := by
  rw [served, hFetch]
  rfl

/-- In every reliable interleaving of calls, a readiness probe that is not
cancelled reports what is wrong on its pod, and the endpoint only in a process
that has never been served a key list. -/
theorem probe_reports (d : Deployment) (hTtl : 0 ≤ d.settings.jwksCacheTtlSeconds)
    (eventLoop : Nat) (now : ℚ) (schedule : List ProcessMove)
    (hReliable : (freshProcess now).Meets (Route.task d eventLoop) ProcessState.wait
      ProcessReliable schedule)
    {s : ProcessStretch} {older : List ProcessStretch} {probe : Probe}
    {outcome : Except PyExc Answer}
    (hHere : s :: older <:+
      ((freshProcess now).run (Route.task d eventLoop) ProcessState.wait schedule).trace)
    (hProbe : s.label = .readyz probe) (hEnded : s.ended = some outcome)
    (hNotCancelled : ¬ CallCancelled s) :
    outcome = .ok (reported (problemsAfter d.settings probe (keysServed (s :: older)))) := by
  obtain ⟨moves, calls, hJoined, -, hCalls⟩ :=
    (freshProcess_joined now : Joined d eventLoop _ _ _).run schedule
  have hKnown := cacheKnown_run d.settings eventLoop hTtl now (reliable_calls hCalls hReliable)
  obtain ⟨r, j, rs', js', hTold, hOlder, -, hJs⟩ := hJoined.traced.before hHere
  cases hTold with
  | @probed probe' s cause keys =>
      cases hProbe
      obtain rfl := Option.some.inj hEnded
      have hFetch := fetchEnded_heard (.readyz probe) cause s
        (some (.ok (probed d.settings probe (captured keys)))) (some keys)
      have hServed : keysServed (⟨.readyz probe, heard cause, s,
          some (.ok (probed d.settings probe (captured keys)))⟩ :: older) =
          (⟨0, cause, s.jwks, some keys⟩ :: js').filterMap landing := by
        rw [keysServed, filterMap_cons_toList, filterMap_cons_toList, served_eq_landing hFetch,
          ← hOlder.landings, keysServed]
      rw [hServed]
      rw [List.singleton_append] at hJs
      obtain ⟨hCancelled, -⟩ | ⟨rfl, hNone⟩ | ⟨sent, value, rfl, hLanded, -⟩ :=
        hKnown.call_ends hJs rfl
      · refine absurd ?_ hNotCancelled
        rcases hCancelled with ⟨lock, hCause⟩ | ⟨sent, hSent⟩
        · refine .inl ⟨lock, ?_⟩
          show heard cause = _
          rw [show cause = _ from hCause]
          rfl
        · exact .inr ⟨sent, hFetch.trans hSent⟩
      · rw [hNone]
        rfl
      · rw [problemsAfter, if_neg (by simpa using List.ne_nil_of_mem hLanded), List.append_nil]
        rfl
  | alive => cases hProbe
  | refused answer => cases hProbe
  | asked => cases hEnded
  | keyed answer => cases hProbe
  | child answer => cases hProbe

theorem shared_fetch_reported :
    ∃ s older,
      s :: older <:+
        ((freshProcess 0).run (Route.task sampleDeployment 0) ProcessState.wait
          (sharedFetch (.readyz ⟨true, true⟩) (.request (sampleJob sampleEnv)))).trace ∧
      ∃ outcome, s.ended = some outcome ∧
        outcome = .ok
          (reported (problemsAfter sampleDeployment.settings ⟨true, true⟩
            (keysServed (s :: older)))) := by
  refine ⟨_, _, ⟨[], rfl⟩, _, rfl,
    probe_reports sampleDeployment (by decide) 0 0 _ (sharedFetch_reliable (.inr rfl))
      ⟨[], rfl⟩ rfl rfl ?_⟩
  rintro (⟨lock, hCause⟩ | ⟨sent, hFetch⟩)
  · cases hCause
  · cases hFetch

end Keys

section Tokens

variable {d : Deployment} {eventLoop : Nat}

/-- The request has passed its opening, with the key list of this stretch. -/
def OpenedBy (d : Deployment) (job : Job) (x : ReplicaStretch) : Prop :=
  x.label = job ∧ ∃ reply, x.cause = some ⟨.jwks, reply⟩ ∧ job.opening d reply x.found = .ok ()

/-- Only requests that have passed it run a child, or are issued a credential. -/
structure Gated (d : Deployment) (replica : Replica) : Prop where
  conducted : ∀ w ∈ replica.waiting, Conducted d w
  running : ∀ job spec next, (⟨job, .child spec, next⟩ : ReplicaWaiting) ∈ replica.waiting →
    ∃ x ∈ replica.trace, OpenedBy d job x
  issued : ∀ x ∈ replica.trace, ∀ response, x.ended = some (.ok response) →
    response.body.Issued → ∃ y ∈ replica.trace, OpenedBy d x.label y

/-- A stretch that issues nothing, and after which nothing new waits but for
its key list. -/
theorem Gated.quiet {replica : Replica} (h : Gated d replica) {w : World}
    {waiting : List ReplicaWaiting} {x : ReplicaStretch}
    (hConducted : ∀ v ∈ waiting, Conducted d v)
    (hWaiting : ∀ job spec next, (⟨job, .child spec, next⟩ : ReplicaWaiting) ∈ waiting →
      ⟨job, .child spec, next⟩ ∈ replica.waiting ∨ OpenedBy d job x)
    (hIssued : ∀ response, x.ended = some (.ok response) → response.body.Issued →
      ∃ y ∈ replica.trace, OpenedBy d x.label y) :
    Gated d ⟨w, waiting, x :: replica.trace⟩ := by
  refine ⟨hConducted, ?_, ?_⟩
  · intro job spec next hIn
    rcases hWaiting job spec next hIn with hOld | hNew
    · obtain ⟨y, hy, hOpened⟩ := h.running job spec next hOld
      exact ⟨y, List.mem_cons_of_mem _ hy, hOpened⟩
    · exact ⟨x, List.mem_cons_self, hNew⟩
  · intro y hy response hEnded hBody
    have hOpened : ∃ z ∈ replica.trace, OpenedBy d y.label z := by
      rcases List.mem_cons.mp hy with rfl | hOld
      · exact hIssued response hEnded hBody
      · exact h.issued y hOld response hEnded hBody
    obtain ⟨z, hz, hBy⟩ := hOpened
    exact ⟨z, List.mem_cons_of_mem _ hz, hBy⟩

theorem Gated.move (replica : Replica) (m : ReplicaMove) (h : Gated d replica) :
    Gated d (replica.move (Job.task d) wait m) := by
  have hConducted := move_conducted replica m h.conducted
  have hOld (index : Nat) (job : Job) (spec : ChildSpec) (next : ChildReply → Action Response)
      (hIn : (⟨job, .child spec, next⟩ : ReplicaWaiting) ∈ replica.waiting.eraseIdx index) :
      ⟨job, .child spec, next⟩ ∈ replica.waiting := List.mem_of_mem_eraseIdx hIn
  cases m with
  | outside delay => exact ⟨h.conducted, h.running, h.issued⟩
  | start job =>
      simp only [Loop.move] at hConducted ⊢
      cases hToken : job.request.credentials with
      | none =>
          obtain ⟨w', hAdvance, -⟩ := job.answers_of_none d hToken replica.state
          rw [hAdvance] at hConducted ⊢
          refine h.quiet hConducted (fun _ _ _ => .inl) ?_
          intro response hEnded hBody
          obtain rfl := Except.ok.inj (Option.some.inj hEnded)
          exact absurd hBody (Refusal.withheld _)
      | some token =>
          obtain ⟨next, hAdvance, -⟩ := job.serves d hToken replica.state
          rw [hAdvance] at hConducted ⊢
          refine h.quiet hConducted ?_ fun response hEnded => by cases hEnded
          intro job' spec next' hIn
          rcases List.mem_append.mp hIn with hBefore | hNew
          · exact .inl hBefore
          · cases List.mem_singleton.mp hNew
  | resume index reply =>
      simp only [Loop.move] at hConducted ⊢
      cases hIndex : replica.waiting[index]? with
      | none => exact h
      | some v =>
          rw [hIndex] at hConducted
          have hHere := h.conducted v (List.mem_of_getElem? hIndex)
          obtain ⟨job, query, next⟩ := v
          cases query with
          | jwks =>
              have hServe := hHere (reply .jwks) replica.state
              dsimp only at hConducted ⊢
              cases hOpening : job.opening d (reply .jwks) replica.state with
              | error refusal =>
                  rw [hOpening] at hServe
                  obtain ⟨w', hAdvance, -⟩ := hServe
                  rw [hAdvance] at hConducted ⊢
                  refine h.quiet hConducted (fun _ _ _ hIn => .inl (hOld _ _ _ _ hIn)) ?_
                  intro response hEnded hBody
                  obtain rfl := Except.ok.inj (Option.some.inj hEnded)
                  exact absurd hBody refusal.withheld
              | ok _ =>
                  rw [hOpening] at hServe
                  obtain ⟨spec, next', w', hAdvance, -⟩ := hServe
                  rw [hAdvance] at hConducted ⊢
                  refine h.quiet hConducted ?_ fun response hEnded => by cases hEnded
                  intro job' spec' next'' hIn
                  rcases List.mem_append.mp hIn with hBefore | hNew
                  · exact .inl (hOld _ _ _ _ hBefore)
                  · cases List.mem_singleton.mp hNew
                    exact .inr ⟨rfl, reply .jwks, rfl, hOpening⟩
          | child spec =>
              obtain ⟨-, hAnswers⟩ := hHere
              obtain ⟨w', hAdvance, -⟩ := hAnswers (reply (.child spec)) replica.state
              dsimp only at hConducted ⊢
              rw [hAdvance] at hConducted ⊢
              refine h.quiet hConducted (fun _ _ _ hIn => .inl (hOld _ _ _ _ hIn)) ?_
              intro response _ _
              exact h.running job spec next (List.mem_of_getElem? hIndex)

theorem gated_run (now : ℚ) (moves : List ReplicaMove) :
    Gated d ((freshReplica now).run (Job.task d) wait moves) := by
  induction moves using List.reverseRecOn with
  | nil =>
      exact ⟨fun _ hw => absurd hw List.not_mem_nil, fun _ _ _ hw => absurd hw List.not_mem_nil,
        fun _ hx => absurd hx List.not_mem_nil⟩
  | append_singleton moves m ih =>
      rw [Loop.run_append]
      exact ih.move _ m

theorem authentication_ok {job : Job} {reply : JwksReply} {caller : Caller}
    (h : job.authentication d reply = .ok caller) :
    ∃ token keys, job.request.credentials = some token ∧ reply = .keys keys ∧
      verdict d.jwt d.settings keys token = .accepted caller.claims := by
  unfold Job.authentication authentication at h
  cases hToken : job.request.credentials with
  | none => simp [hToken] at h
  | some token =>
      simp only [hToken] at h
      cases reply with
      | keys keys =>
          cases hVerdict : verdict d.jwt d.settings keys token with
          | accepted claims =>
              simp only [hVerdict] at h
              exact ⟨token, keys, rfl, rfl, by rw [hVerdict, ← Except.ok.inj h]⟩
          | rejected error => simp [hVerdict] at h
          | escaped error => simp [hVerdict] at h
      | unreachable => cases h
      | noLength => cases h
      | cancelled => cases h

/-- A child of the request runs, or the request has been issued a credential. -/
def Serviced (p : ProcessLoop) (job : Job) : Prop :=
  (∃ spec next, (⟨.request job, .child spec, next⟩ : ProcessWaiting) ∈ p.waiting) ∨
    ∃ s ∈ p.trace, s.label = .request job ∧
      ∃ response, s.ended = some (.ok (.response response)) ∧ response.body.Issued

/-- In this stretch the request's token was accepted, under keys that the
endpoint had served: not longer ago than the TTL, unless the refresh that the
stretch ends has failed. -/
structure Vouched (d : Deployment) (job : Job) (s : ProcessStretch)
    (older : List ProcessStretch) : Prop where
  label : s.label = .request job
  accepted : ∃ token claims sent keys, job.request.credentials = some token ∧
    verdict d.jwt d.settings keys token = .accepted claims ∧
    (sent, keys) ∈ keysServed (s :: older) ∧
    (RefreshFailed s ∨ judgedAt s - d.settings.jwksCacheTtlSeconds ≤ sent)

theorem Told.issued {s : ProcessStretch} {rs : List ReplicaStretch} {js : List JwksStretch}
    (h : Told d s rs js) {job : Job} (hLabel : s.label = .request job) {response : Response}
    (hEnded : s.ended = some (.ok (.response response))) :
    ∃ x ∈ rs, x.label = job ∧ x.ended = some (.ok response) := by
  have hInj {ended : Option (Except PyExc Response)}
      (hAnswered : answered ended = some (.ok (.response response))) :
      ended = some (.ok response) := by
    rw [← responded_answered ended, hAnswered]
    rfl
  cases h with
  | alive => cases hLabel
  | asked => cases hEnded
  | probed => cases hLabel
  | refused outcome =>
      cases hLabel
      exact ⟨_, List.mem_singleton_self _, rfl, hInj hEnded⟩
  | keyed ended =>
      cases hLabel
      exact ⟨_, List.mem_singleton_self _, rfl, hInj hEnded⟩
  | child ended =>
      cases hLabel
      exact ⟨_, List.mem_singleton_self _, rfl, hInj hEnded⟩

theorem Joined.openedBy {p : ProcessLoop} {replica : Replica} {cache : JwksLoop}
    (h : Joined d eventLoop p replica cache) (hGated : Gated d replica) {job : Job}
    (hServiced : Serviced p job) : ∃ x ∈ replica.trace, OpenedBy d job x := by
  rcases hServiced with ⟨spec, next, hIn⟩ | ⟨s, hs, hLabel, response, hEnded, hIssued⟩
  · obtain ⟨left, right, hStands, hLeft, -⟩ := h.waiting.mem hIn
    cases hStands with
    | @child job spec next' => exact hGated.running job spec next' (hLeft _ rfl)
  · obtain ⟨before, older, hSplit⟩ := List.append_of_mem hs
    obtain ⟨r, j, rs', js', hTold, -, hRs, -⟩ := h.traced.before ⟨before, hSplit.symm⟩
    obtain ⟨x, hx, rfl, hEnded'⟩ := hTold.issued hLabel hEnded
    have hMem : x ∈ replica.trace := hRs.subset (List.mem_append_left _ hx)
    exact hGated.issued x hMem response hEnded' hIssued

/-- In every reliable interleaving of calls, whoever runs a child or is issued
a credential has a token that was accepted under keys the endpoint had served
no longer before than the TTL; only while its refreshes fail are older keys
relied on. -/
theorem serviced_vouched (d : Deployment) (hTtl : 0 ≤ d.settings.jwksCacheTtlSeconds)
    (eventLoop : Nat) (now : ℚ) (schedule : List ProcessMove)
    (hReliable : (freshProcess now).Meets (Route.task d eventLoop) ProcessState.wait
      ProcessReliable schedule)
    {job : Job}
    (hServiced : Serviced
      ((freshProcess now).run (Route.task d eventLoop) ProcessState.wait schedule) job) :
    ∃ s older,
      s :: older <:+
        ((freshProcess now).run (Route.task d eventLoop) ProcessState.wait schedule).trace ∧
      Vouched d job s older := by
  obtain ⟨moves, calls, hJoined, -, hCalls⟩ :=
    (freshProcess_joined now : Joined d eventLoop _ _ _).run schedule
  have hKnown := cacheKnown_run d.settings eventLoop hTtl now (reliable_calls hCalls hReliable)
  obtain ⟨x, hx, rfl, reply, hCause, hOpening⟩ := hJoined.openedBy (gated_run now moves) hServiced
  obtain hNone | ⟨s, older, r, j, rs', js', hHere, hTold, hIn, hOlder, hJs⟩ :=
    hJoined.traced.origin hx
  · rw [hNone] at hCause
    cases hCause
  refine ⟨s, older, hHere, ?_⟩
  obtain ⟨⟨caller, hCaller⟩, -⟩ := x.label.opening_ok d hOpening
  obtain ⟨token, keys, hToken, rfl, hVerdict⟩ := authentication_ok hCaller
  cases hTold with
  | alive => cases hIn
  | asked => cases hIn
  | probed => cases hIn
  | refused outcome =>
      cases List.mem_singleton.mp hIn
      cases hCause
  | child ended =>
      cases List.mem_singleton.mp hIn
      cases hCause
  | @keyed job s cause outcome ended =>
      cases List.mem_singleton.mp hIn
      have hKeys : captured outcome = .keys keys := by
        simpa using hCause
      rw [List.singleton_append] at hJs
      have hFetch := fetchEnded_heard (.request job) cause s (answered ended) (some outcome)
      obtain ⟨-, rfl⟩ | ⟨rfl, -⟩ | ⟨sent, value, rfl, hLanded, hAge⟩ := hKnown.call_ends hJs rfl
      · cases hKeys
      · cases hKeys
      · cases hKeys
        refine ⟨rfl, token, caller.claims, sent, keys, hToken, hVerdict, ?_, ?_⟩
        · rw [keysServed, filterMap_cons_toList, served_eq_landing hFetch, ← keysServed,
            hOlder.landings, ← filterMap_cons_toList]
          exact hLanded
        · rcases hAge with ⟨sent', exc, hOwn, hExc⟩ | hAge
          · exact .inl ⟨sent', exc, hFetch.trans hOwn, hExc⟩
          · refine .inr ?_
            rw [judgedAt, hFetch]
            exact hAge

theorem shared_fetch_vouched :
    ∃ s older,
      s :: older <:+
        ((freshProcess 0).run (Route.task sampleDeployment 0) ProcessState.wait
          (sharedFetch (.request (sampleJob sampleEnv)) (.readyz ⟨true, true⟩))).trace ∧
      Vouched sampleDeployment (sampleJob sampleEnv) s older :=
  serviced_vouched sampleDeployment (by decide) 0 0 _ (sharedFetch_reliable (.inl rfl))
    (.inl ⟨_, _, List.mem_of_getElem? (i := 1) rfl⟩)

end Tokens

end Krb5TokenService.Service
