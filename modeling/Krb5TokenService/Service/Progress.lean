import Krb5TokenService.EventLoop.Numbered
import Krb5TokenService.Service.ProcessRuns

/-! The process never comes to a standstill. A call awaits the lock, then a
fetch, then its child, each at most once, and while no fetch is under way the
lock is free for whoever waits for it. -/
namespace Krb5TokenService.Service

open Python EventLoop EventLoop.Task Krb5TokenService.Action
open RateLimit Identity Minting

/-- The awaits that a call has left, the one it is at included. -/
def queryLeft : ProcessQuery → Nat
  | .jwks (.acquire _) => 3
  | .jwks (.get ..) => 2
  | .child _ => 1

def awaitsLeft (w : ProcessWaiting) : Nat := queryLeft w.query

/-- A lock is acquired only while no one holds it. -/
def ExclusiveAnswer : JwksGuard
  | .acquire lock, reply, s => reply = .acquired → s.locked lock = false
  | .get .., _, _ => True

theorem queryLeft_le (query : ProcessQuery) : queryLeft query ≤ 3 := by
  rcases query with (lock | ⟨url, sent⟩) | spec <;> simp [queryLeft]

theorem one_lt_queryLeft (query : JwksQuery) : 1 < queryLeft (.jwks query) := by
  cases query <;> simp [queryLeft]

section Sequence

variable (settings : Settings)

/-- What is left of a waiting `get_jwks`, whatever the cache holds by now. -/
def Sequenced : JwksWaiting → Prop
  | ⟨_, .acquire lock, next⟩ => next = withLock settings lock
  | ⟨_, .get _ sent, next⟩ => ∃ lock entry, next = afterGet settings lock entry sent

variable {settings} {eventLoop : Nat}

theorem sequenced_start (call : Nat) (s : JwksState) :
    Loop.TurnsInto (Sequenced settings) call ((getJwks settings eventLoop).advance s).1 := by
  cases hFresh : s.freshKeys settings with
  | some keys =>
      rw [advance_getJwks_hit hFresh]
      trivial
  | none =>
      cases hFor : s.lockFor eventLoop settings.brokerJwksUrl with
      | some lock =>
          rw [advance_getJwks_miss hFresh hFor]
          exact rfl
      | none =>
          rw [advance_getJwks_first hFresh hFor]
          exact rfl

/-- From the lock to the fetch, and from the fetch to the end. -/
theorem Sequenced.turn {w : JwksWaiting} (h : Sequenced settings w) (reply : w.query.Answer)
    (s : JwksState) :
    Loop.TurnsInto
      (fun v => Sequenced settings v ∧ queryLeft (.jwks v.query) < queryLeft (.jwks w.query))
      w.label ((w.next reply).advance s).1 := by
  obtain ⟨call, query, next⟩ := w
  cases query with
  | acquire lock =>
      obtain rfl : next = withLock settings lock := h
      cases reply with
      | cancelled => trivial
      | acquired =>
          cases hFresh : s.freshKeys settings with
          | some keys =>
              rw [advance_withLock_hit hFresh]
              trivial
          | none =>
              rw [advance_withLock_miss hFresh]
              exact ⟨⟨lock, _, rfl⟩, Nat.lt_add_one 2⟩
  | get url sent =>
      obtain ⟨lock, entry, rfl⟩ := h
      obtain ⟨outcome, cache, log, hAdvance⟩ := advance_afterGet settings lock sent s entry reply
      rw [hAdvance]
      trivial

theorem Sequenced.next (w : JwksWaiting) (reply : w.query.Answer) (s : JwksState)
    (h : Sequenced settings w) :
    Loop.TurnsInto (Sequenced settings) w.label ((w.next reply).advance s).1 := by
  have hTurn := h.turn reply s
  rcases hAdvance : (w.next reply).advance s with ⟨outcome | ⟨query, next⟩, s'⟩
  · trivial
  · rw [hAdvance] at hTurn
    exact hTurn.1

theorem sequenced_of_held {w : JwksWaiting} {s : JwksState} (h : Held settings eventLoop s w) :
    Sequenced settings w := by
  obtain ⟨call, query, next⟩ := w
  cases query with
  | acquire lock => exact h.2
  | get url sent =>
      obtain ⟨lock, -, rfl⟩ := h
      exact ⟨lock, _, rfl⟩

end Sequence

section Descent

variable {d : Deployment} {eventLoop : Nat} {label : Route}

/-- A request that has its keys ends, or waits for its child. -/
theorem keyed_turn {job : Job} {next : JwksReply → Action Response}
    (hConducted : Conducted d ⟨job, .jwks, next⟩) (reply : JwksReply) (s : ProcessState) :
    Loop.TurnsInto (fun w => awaitsLeft w ≤ 1) label
      ((Realised d.settings eventLoop (Answer.response <$> next reply)).advance s).1 := by
  have hServes := hConducted reply s.world
  cases hOpening : job.opening d reply s.world with
  | error refusal =>
      rw [hOpening] at hServes
      obtain ⟨w', hAdvance, -⟩ := hServes
      rw [advance_realised_finished (advance_response hAdvance)]
      trivial
  | ok _ =>
      rw [hOpening] at hServes
      obtain ⟨spec, next', w', hAdvance, -⟩ := hServes
      rw [advance_realised_child (advance_response_waiting hAdvance)]
      exact Nat.le_refl 1

/-- A stretch of `get_jwks` within a call. -/
theorem capturing_turn {call : JwksAction Json} {query : JwksQuery} {s : ProcessState}
    {rest : JwksReply → ProcessAction Answer}
    (hCall : Loop.TurnsInto (fun v => queryLeft (.jwks v.query) < queryLeft (.jwks query)) 0
      (call.advance s.jwks).1)
    (hRest : ∀ reply s, Loop.TurnsInto (fun w => awaitsLeft w ≤ 1) label
      ((rest reply).advance s).1) :
    Loop.TurnsInto (fun w => awaitsLeft w < queryLeft (.jwks query)) label
      (((capturing call).andThen rest).advance s).1 := by
  rcases hAdvance : call.advance s.jwks with ⟨outcome | ⟨query', next⟩, j⟩
  · rw [advance_capturing_finished hAdvance]
    have hLater := hRest (captured outcome) { s with jwks := j }
    rcases hEnd : (rest (captured outcome)).advance { s with jwks := j } with
      ⟨outcome' | ⟨query', next⟩, s'⟩
    · trivial
    · rw [hEnd] at hLater
      exact Nat.lt_of_le_of_lt hLater (one_lt_queryLeft query)
  · rw [advance_capturing_waiting hAdvance]
    rw [hAdvance] at hCall
    exact hCall

theorem Stands.descends {w : ProcessWaiting} {left : Option ReplicaWaiting}
    {right : Option JwksWaiting} (h : Stands d eventLoop w left right)
    (hLeft : ∀ x ∈ left, Conducted d x) (hRight : ∀ y ∈ right, Sequenced d.settings y) :
    Loop.Descends awaitsLeft w := by
  have hAsked {query : JwksQuery} {rest : query.Answer → JwksAction Json}
      (hHere : Sequenced d.settings ⟨0, query, rest⟩) (reply : query.Answer) (j : JwksState) :
      Loop.TurnsInto (fun v => queryLeft (.jwks v.query) < queryLeft (.jwks query)) 0
        ((rest reply).advance j).1 := by
    have hTurn := hHere.turn reply j
    dsimp only at hTurn
    rcases hAdvance : (rest reply).advance j with ⟨outcome | ⟨query', next⟩, j'⟩
    · trivial
    · rw [hAdvance] at hTurn
      exact hTurn.2
  cases h with
  | @request job query rest next =>
      refine ⟨Nat.zero_lt_of_lt (one_lt_queryLeft query), fun reply s => ?_⟩
      exact capturing_turn (hAsked (hRight _ rfl) reply s.jwks) (keyed_turn (hLeft _ rfl))
  | @probe probe query rest next hNext =>
      refine ⟨Nat.zero_lt_of_lt (one_lt_queryLeft query), fun reply s => ?_⟩
      refine capturing_turn (hAsked (hRight _ rfl) reply s.jwks) fun answer s => ?_
      rw [advance_realised_finished (hNext answer s.world)]
      trivial
  | @child job spec next =>
      refine ⟨Nat.one_pos, fun reply s => ?_⟩
      obtain ⟨w', hAdvance, -⟩ := (hLeft _ rfl).2 reply s.world
      dsimp only
      rw [advance_realised_finished (advance_response hAdvance)]
      trivial

variable {p : ProcessLoop} {replica : Replica} {cache : JwksLoop}

theorem Joined.descends (h : Joined d eventLoop p replica cache)
    (hSequenced : ∀ y ∈ cache.waiting, Sequenced d.settings y) :
    ∀ w ∈ p.waiting, Loop.Descends awaitsLeft w := by
  intro w hw
  obtain ⟨left, right, hStands, hLeft, hRight⟩ := h.waiting.mem hw
  exact hStands.descends (fun x hx => h.conducted x (hLeft x hx))
    fun y hy => hSequenced y (hRight y hy)

/-- While no fetch is under way everyone can go on; else the fetch can. -/
theorem Joined.ready (h : Joined d eventLoop p replica cache)
    (hLocking : Locking d.settings eventLoop cache)
    (reply : (query : ProcessQuery) → ProcessReply query) (hSome : p.waiting ≠ []) :
    ∃ index w, p.waiting[index]? = some w ∧
      ProcessGuarded ExclusiveAnswer p (.resume index reply) := by
  by_cases hFlying : p.waiting.filterMap fetchSent = []
  · obtain ⟨w, hw⟩ := List.exists_mem_of_ne_nil _ hSome
    obtain ⟨index, hIndex⟩ := List.mem_iff_getElem?.mp hw
    refine ⟨index, w, hIndex, fun v query hHere hQuery => ?_⟩
    obtain rfl := Option.some.inj (hIndex.symm.trans hHere)
    cases query with
    | get url sent => trivial
    | acquire lock =>
        intro _
        have hNone : cache.waiting.filterMap sentAt = [] := by
          have hPerm := h.fetches
          rw [hFlying] at hPerm
          exact hPerm.nil_eq.symm
        obtain ⟨left, right, hStands, -, hRight⟩ := h.waiting.mem hw
        rw [← h.jwks]
        -- whoever awaits the lock awaits the one the cache is entered with
        have hFor : cache.state.lockFor eventLoop d.settings.brokerJwksUrl = some lock := by
          cases hStands with
          | request =>
              obtain rfl := ProcessQuery.jwks.inj hQuery
              exact (hLocking.held _ (hRight _ rfl)).1
          | probe =>
              obtain rfl := ProcessQuery.jwks.inj hQuery
              exact (hLocking.held _ (hRight _ rfl)).1
          | child => cases hQuery
        exact (hLocking.guarded lock hFor).mpr hNone
  · obtain ⟨sent, hSent⟩ := List.exists_mem_of_ne_nil _ hFlying
    obtain ⟨w, hw, hFetch⟩ := List.mem_filterMap.mp hSent
    obtain ⟨index, hIndex⟩ := List.mem_iff_getElem?.mp hw
    refine ⟨index, w, hIndex, fun v query hHere hQuery => ?_⟩
    obtain rfl := Option.some.inj (hIndex.symm.trans hHere)
    cases query with
    | get url sent => trivial
    | acquire lock =>
        rw [fetchSent, hQuery] at hFetch
        cases hFetch

end Descent

section Runs

variable {d : Deployment} {eventLoop : Nat}

/-- The cache runs one `get_jwks` after another. -/
def Stepping (d : Deployment) (eventLoop : Nat) (p : ProcessLoop) : Prop :=
  ∃ replica cache, Joined d eventLoop p replica cache ∧
    ∀ y ∈ cache.waiting, Sequenced d.settings y

theorem Stepping.move {p : ProcessLoop} (m : ProcessMove) (h : Stepping d eventLoop p) :
    Stepping d eventLoop (p.move (Route.task d eventLoop) ProcessState.wait m) := by
  obtain ⟨replica, cache, hJoined, hSequenced⟩ := h
  obtain ⟨moves, calls, hMoved, -, -⟩ := hJoined.move m
  refine ⟨_, _, hMoved, ?_⟩
  have hTrue : cache.Meets (fun _ => getJwks d.settings eventLoop) JwksState.wait
      (fun _ _ => True) calls := Loop.meets_true _ calls
  exact Loop.run_invariant (P := fun loop => ∀ y ∈ loop.waiting, Sequenced d.settings y)
    (fun _ m _ h => Loop.move_waiting sequenced_start Sequenced.next m h) hTrue hSequenced

/-- Its lock is held exactly while a fetch is under way. -/
def Unblocked (d : Deployment) (eventLoop : Nat) (p : ProcessLoop) : Prop :=
  ∃ replica cache, Joined d eventLoop p replica cache ∧ Locking d.settings eventLoop cache

theorem exclusive_of_guarded {loop : JwksLoop} {m : JwksMove}
    (h : CacheGuarded ExclusiveAnswer loop m) : Exclusive loop m := by
  cases m with
  | start call => trivial
  | outside delay => trivial
  | resume index reply =>
      intro w hIndex
      have hHere := h w hIndex
      obtain ⟨call, query, next⟩ := w
      cases query with
      | acquire lock => exact hHere
      | get url sent => trivial

theorem Unblocked.move (p : ProcessLoop) (m : ProcessMove)
    (hGuarded : ProcessGuarded ExclusiveAnswer p m) (h : Unblocked d eventLoop p) :
    Unblocked d eventLoop (p.move (Route.task d eventLoop) ProcessState.wait m) := by
  obtain ⟨replica, cache, hJoined, hLocking⟩ := h
  obtain ⟨moves, calls, hMoved, -, hCalls⟩ := hJoined.move m
  have hExclusive := Loop.Meets.imp (fun _ _ => exclusive_of_guarded)
    (hCalls ExclusiveAnswer hGuarded)
  exact ⟨_, _, hMoved, Loop.run_invariant Locking.move hExclusive hLocking⟩

theorem Stepping.descends (p : ProcessLoop) (h : Stepping d eventLoop p) :
    ∀ w ∈ p.waiting, Loop.Descends awaitsLeft w := by
  obtain ⟨replica, cache, hJoined, hSequenced⟩ := h
  exact hJoined.descends hSequenced

theorem Unblocked.descends (p : ProcessLoop) (h : Unblocked d eventLoop p) :
    ∀ w ∈ p.waiting, Loop.Descends awaitsLeft w := by
  obtain ⟨replica, cache, hJoined, hLocking⟩ := h
  exact hJoined.descends fun y hy => sequenced_of_held (hLocking.held y hy)

theorem queryLeft_range (query : ProcessQuery) : 0 < queryLeft query ∧ queryLeft query ≤ 3 := by
  rcases query with (lock | ⟨url, sent⟩) | spec <;> simp [queryLeft]

abbrev NumberedLoop := Loop (Nat × Route) ProcessState PyExc ProcessQuery ProcessReply Answer

/-- The process, with its calls numbered in the order in which they come. -/
def numberedProcess (d : Deployment) (eventLoop : Nat) (now : ℚ) (schedule : List ProcessMove) :
    NumberedLoop :=
  (Loop.idle (freshProcess now).state).run (fun call => Route.task d eventLoop call.2)
    ProcessState.wait (numbered 0 schedule)

theorem forget_numberedProcess (d : Deployment) (eventLoop : Nat) (now : ℚ)
    (schedule : List ProcessMove) :
    (numberedProcess d eventLoop now schedule).forget =
      (freshProcess now).run (Route.task d eventLoop) ProcessState.wait schedule :=
  Loop.forget_run (Route.task d eventLoop) ProcessState.wait _ 0 schedule

theorem ordered_numberedProcess (d : Deployment) (eventLoop : Nat) (now : ℚ)
    (schedule : List ProcessMove) :
    ∃ count, (numberedProcess d eventLoop now schedule).Ordered queryLeft count := by
  have hFresh : Stepping d eventLoop (freshProcess now) :=
    ⟨_, _, freshProcess_joined now, fun _ hy => absurd hy List.not_mem_nil⟩
  have hIdle : Loop.Ordered (Loop.idle (freshProcess now).state : NumberedLoop) queryLeft 0 :=
    ⟨.nil, fun _ hw => absurd hw List.not_mem_nil, fun _ hs => absurd hs List.not_mem_nil,
      fun _ => .nil, fun _ hw => absurd hw List.not_mem_nil, fun _ => Nat.zero_le _⟩
  exact Loop.run_ordered (fun p m => Stepping.move m) Stepping.descends hIdle hFresh schedule

/-- In every schedule, whatever the calls are told and whenever they are
cancelled, each call awaits the lock, then a fetch, then its child, each at
most once, and what it has run and has left to await is at most four. -/
theorem process_calls_in_order (d : Deployment) (eventLoop : Nat) (now : ℚ)
    (schedule : List ProcessMove) :
    let p := numberedProcess d eventLoop now schedule
    p.forget = (freshProcess now).run (Route.task d eventLoop) ProcessState.wait schedule ∧
      (∀ call, ((p.asked call).map queryLeft).Pairwise (· < ·)) ∧
      (∀ call, Loop.stretches call p.trace ≤ 4) ∧
      ∀ w ∈ p.waiting, Loop.stretches w.label.1 p.trace + queryLeft w.query ≤ 4 := by
  obtain ⟨count, hOrdered⟩ := ordered_numberedProcess d eventLoop now schedule
  refine ⟨forget_numberedProcess d eventLoop now schedule, hOrdered.asked_ascending, ?_, ?_⟩
  · exact hOrdered.stretches_le queryLeft_range
  · exact fun w hw => hOrdered.stretches_waiting queryLeft_range hw

/-- From every state the process can reach its calls come to rest, whatever
replies they are given on the way. At most three replies for each waiting call,
counted together, are enough in some order, and no call awaits more than three
things in its life; then every call that was ever started has been answered,
once. -/
theorem process_comes_to_rest (d : Deployment) (eventLoop : Nat) (now : ℚ)
    (schedule : List ProcessMove)
    (hExclusive : (freshProcess now).Meets (Route.task d eventLoop) ProcessState.wait
      (ProcessGuarded ExclusiveAnswer) schedule)
    (reply : ProcessLoop → (query : ProcessQuery) → ProcessReply query) :
    ∃ order : List ProcessMove,
      order.length ≤ 3 * ((freshProcess now).run (Route.task d eventLoop) ProcessState.wait
        schedule).waiting.length ∧
      (∀ call, ((numberedProcess d eventLoop now (schedule ++ order)).asked call).length ≤ 3) ∧
      ((freshProcess now).run (Route.task d eventLoop) ProcessState.wait schedule).Meets
        (Route.task d eventLoop) ProcessState.wait (Loop.Replying reply) order ∧
      (freshProcess now).Meets (Route.task d eventLoop) ProcessState.wait
        (ProcessGuarded ExclusiveAnswer) (schedule ++ order) ∧
      ((freshProcess now).run (Route.task d eventLoop) ProcessState.wait
        (schedule ++ order)).waiting = [] ∧
      ((freshProcess now).run (Route.task d eventLoop) ProcessState.wait
        (schedule ++ order)).ends = Loop.starts schedule := by
  have hFresh : Unblocked d eventLoop (freshProcess now) :=
    ⟨_, _, freshProcess_joined now, freshJwks_locking now⟩
  have hReached := Loop.run_invariant Unblocked.move hExclusive hFresh
  obtain ⟨order, hLength, hMeets, hReplies, hRest⟩ := Loop.exists_rest Unblocked.move
    Unblocked.descends reply
    (fun p h hSome => by
      obtain ⟨replica, cache, hJoined, hLocking⟩ := h
      exact hJoined.ready hLocking (reply p) hSome) hReached
  have hWork := Loop.work_le awaitsLeft
    ((freshProcess now).run (Route.task d eventLoop) ProcessState.wait schedule)
    fun w => queryLeft_le w.query
  obtain ⟨count, hOrdered⟩ := ordered_numberedProcess d eventLoop now (schedule ++ order)
  refine ⟨order, hLength.trans hWork, hOrdered.asked_length_le queryLeft_range, hReplies,
    Loop.meets_append _ hExclusive hMeets, ?_, ?_⟩
  · rw [Loop.run_append]
    exact hRest
  · have hTally := Loop.run_ends (Route.task d eventLoop) ProcessState.wait
      (freshProcess now) (schedule ++ order)
    have hNothing : (freshProcess now).ends + (freshProcess now).waiting.length = 0 := rfl
    rw [Loop.starts_append, Loop.starts_replying hReplies, hNothing, Nat.zero_add,
      Nat.add_zero] at hTally
    rw [Loop.run_append] at hTally ⊢
    rw [hRest] at hTally
    exact hTally

/-- A request fetches, and a probe waits for its lock. -/
def blockedProbe : List ProcessMove :=
  [.start (.request (sampleJob sampleEnv)), .start (.readyz ⟨true, true⟩),
    .resume 0 (sampleWire "kinit: Password incorrect")]

theorem blockedProbe_exclusive :
    (freshProcess 0).Meets (Route.task sampleDeployment 0) ProcessState.wait
      (ProcessGuarded ExclusiveAnswer) blockedProbe := by
  refine ⟨trivial, trivial, ?_, trivial⟩
  intro w query hIndex hQuery
  obtain rfl := Option.some.inj hIndex
  obtain rfl := ProcessQuery.jwks.inj hQuery
  exact fun _ => rfl

/-- No fetch succeeds. -/
def failingWire : (query : ProcessQuery) → ProcessReply query
  | .jwks (.acquire _) => .acquired
  | .jwks (.get ..) => .raised (.osError (py "timed out"))
  | .child _ => sampleFailure "kinit: Password incorrect"

/-- The fetch that is under way fails, and the next one does not. -/
def failsOnce (p : ProcessLoop) : (query : ProcessQuery) → ProcessReply query :=
  if p.trace.length = 3 then failingWire else sampleWire "kinit: Password incorrect"

theorem blocked_probe_comes_to_rest :
    ∃ order : List ProcessMove, order.length ≤ 6 ∧
      ((freshProcess 0).run (Route.task sampleDeployment 0) ProcessState.wait
        (blockedProbe ++ order)).waiting = [] := by
  obtain ⟨order, hLength, -, -, -, hRest, -⟩ := process_comes_to_rest sampleDeployment 0 0
    blockedProbe blockedProbe_exclusive failsOnce
  exact ⟨order, hLength, hRest⟩

end Runs

end Krb5TokenService.Service
