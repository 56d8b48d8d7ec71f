import Krb5TokenService.EventLoop.Split
import Krb5TokenService.Identity.JwksCache
import Krb5TokenService.Service.Interleaved
import Krb5TokenService.Service.Process

/-! Any interleaving of calls on one process is an interleaving of requests on
a replica and an interleaving of `get_jwks` calls on the cache, at the same
time. What the one makes of its key lists is what the other returns. -/
namespace Krb5TokenService.Service

open Python EventLoop EventLoop.Task Krb5TokenService.Action
open RateLimit Identity Minting

abbrev ProcessLoop := Loop Route ProcessState PyExc ProcessQuery ProcessReply Answer

abbrev ProcessMove := Move Route ProcessQuery ProcessReply Delay

abbrev ProcessWaiting := Waiting Route ProcessState PyExc ProcessQuery ProcessReply Answer

abbrev ProcessStretch := Stretch Route ProcessState PyExc ProcessQuery ProcessReply Answer

def ProcessState.wait (delay : Delay) (s : ProcessState) : ProcessState :=
  ⟨Service.wait delay s.world, s.jwks.wait delay⟩

/-- A process that has just been started. -/
def freshProcess (now : ℚ) : ProcessLoop :=
  Loop.idle ⟨(freshReplica now).state, (freshJwks now).state⟩

section Probes

variable (settings : Settings) (probe : Probe)

def reported (problems : List PyStr) : Answer :=
  if problems = [] then .ready
  else .response ⟨503, .detail ((py "; ").intercalate problems), []⟩

/-- What a readiness probe is answered, given how `get_jwks` ended. -/
def probed (reply : JwksReply) : Answer :=
  match reply with
  | .keys _ => reported (localProblems settings probe)
  | .unreachable => reported (localProblems settings probe ++ [jwksProblem settings])
  | .noLength => .response (errorResponse (.typeError (py "object has no len()")))
  | .cancelled => .response (errorResponse .cancelled)

end Probes

section Relation

variable (d : Deployment) (eventLoop : Nat)

/-- What a waiting call is to the replica and to the cache. -/
inductive Stands : ProcessWaiting → Option ReplicaWaiting → Option JwksWaiting → Prop
  | request {job : Job} {query : JwksQuery} {rest : query.Answer → JwksAction Json}
      {next : JwksReply → Action Response} :
      Stands ⟨.request job, .jwks query, fun r => (capturing (rest r)).andThen fun reply =>
          Realised d.settings eventLoop (Answer.response <$> next reply)⟩
        (some ⟨job, .jwks, next⟩) (some ⟨0, query, rest⟩)
  | probe {probe : Probe} {query : JwksQuery} {rest : query.Answer → JwksAction Json}
      {next : JwksReply → Action Answer}
      (hNext : ∀ reply w,
        (next reply).advance w = (.finished (.ok (probed d.settings probe reply)), w)) :
      Stands ⟨.readyz probe, .jwks query, fun r => (capturing (rest r)).andThen fun reply =>
          Realised d.settings eventLoop (next reply)⟩
        none (some ⟨0, query, rest⟩)
  | child {job : Job} {spec : ChildSpec} {next : ChildReply → Action Response} :
      Stands ⟨.request job, .child spec, fun r =>
          Realised d.settings eventLoop (Answer.response <$> next r)⟩
        (some ⟨job, .child spec, next⟩) none

/-- What the cache's code is told is told to the process. -/
def heard (cause : Option ((query : JwksQuery) × query.Answer)) :
    Option ((query : ProcessQuery) × ProcessReply query) :=
  cause.map fun c => ⟨.jwks c.1, c.2⟩

def answered (ended : Option (Except PyExc Response)) : Option (Except PyExc Answer) :=
  ended.map (Except.map Answer.response)

/-- What a stretch of the process is to the replica and to the cache: at most
one stretch of each. -/
inductive Told : ProcessStretch → List ReplicaStretch → List JwksStretch → Prop
  | alive {s : ProcessState} : Told ⟨.healthz, none, s, some (.ok .alive)⟩ [] []
  | refused {job : Job} {s : ProcessState} (outcome : Except PyExc Response) :
      Told ⟨.request job, none, s, answered (some outcome)⟩
        [⟨job, none, s.world, some outcome⟩] []
  | asked {route : Route} {s : ProcessState}
      {cause : Option ((query : JwksQuery) × query.Answer)} :
      Told ⟨route, heard cause, s, none⟩ [] [⟨0, cause, s.jwks, none⟩]
  | keyed {job : Job} {s : ProcessState} {cause : Option ((query : JwksQuery) × query.Answer)}
      {outcome : Except PyExc Json} (ended : Option (Except PyExc Response)) :
      Told ⟨.request job, heard cause, s, answered ended⟩
        [⟨job, some ⟨.jwks, captured outcome⟩, s.world, ended⟩]
        [⟨0, cause, s.jwks, some outcome⟩]
  | probed {probe : Probe} {s : ProcessState}
      {cause : Option ((query : JwksQuery) × query.Answer)} {outcome : Except PyExc Json} :
      Told ⟨.readyz probe, heard cause, s,
          some (.ok (Service.probed d.settings probe (captured outcome)))⟩
        [] [⟨0, cause, s.jwks, some outcome⟩]
  | child {job : Job} {s : ProcessState} {spec : ChildSpec} {reply : ChildReply}
      (ended : Option (Except PyExc Response)) :
      Told ⟨.request job, some ⟨.child spec, reply⟩, s, answered ended⟩
        [⟨job, some ⟨.child spec, reply⟩, s.world, ended⟩] []

/-- The stretches of a process, as stretches of a replica and of the cache. A
request that goes on to its key list within its first stretch has arrived at
the replica before. -/
inductive Traced : List ProcessStretch → List ReplicaStretch → List JwksStretch → Prop
  | nil : Traced [] [] []
  | arrived {job : Job} {w : World} {ps : List ProcessStretch} {rs : List ReplicaStretch}
      {js : List JwksStretch} (h : Traced ps rs js) :
      Traced ps (⟨job, none, w, none⟩ :: rs) js
  | told {s : ProcessStretch} {ps : List ProcessStretch} {r rs : List ReplicaStretch}
      {j js : List JwksStretch} (hTold : Told d s r j) (h : Traced ps rs js) :
      Traced (s :: ps) (r ++ rs) (j ++ js)

/-- A process is a replica and a cache at work together. -/
structure Joined (p : ProcessLoop) (replica : Replica) (cache : JwksLoop) : Prop where
  world : replica.state = p.state.world
  jwks : cache.state = p.state.jwks
  waiting : Split (Stands d eventLoop) p.waiting replica.waiting cache.waiting
  conducted : ∀ w ∈ replica.waiting, Conducted d w
  traced : Traced d p.trace replica.trace cache.trace

variable (username : PyStr)

/-- A call that runs a child with the password of `username`. -/
def runsChild (w : ProcessWaiting) : Bool :=
  match w.label, w.query with
  | .request job, .child _ => job.endpoint.passwordUser = some username
  | _, _ => false

def running (waiting : List ProcessWaiting) : Nat := waiting.countP (runsChild username)

/-- The limiter's condition: no child is started with the password of
`username` while those that run and the failures still counted leave no room
for one more, and a bad password is not lost with its private directory. -/
def ProcessRoom (p : ProcessLoop) (m : ProcessMove) : Prop :=
  (running username p.waiting <
      running username (p.move (Route.task d eventLoop) ProcessState.wait m).waiting →
    running username p.waiting + Account.live d.settings.failedAuth
      (p.state.world.limiter username) p.state.world.now < d.settings.failedAuth.maxAttempts) ∧
  match m with
  | .resume index reply => ∀ job spec next,
      p.waiting[index]? = some ⟨.request job, .child spec, next⟩ →
      job.endpoint.passwordUser = some username →
      BadPasswordExit job.endpoint.classifier (reply (.child spec)) → job.env.rmtree = none
  | _ => True

/-- The cache's condition: a lock is acquired only while no one holds it, and a
fetch that succeeds brings a list. -/
def ProcessReliable (p : ProcessLoop) : ProcessMove → Prop
  | .resume index reply =>
      ∀ w, p.waiting[index]? = some w →
        match w.query with
        | .jwks (.acquire lock) =>
            reply (.jwks (.acquire lock)) = .acquired → p.state.jwks.locked lock = false
        | .jwks (.get url sent) =>
            ∀ keys, HttpReply.keys (reply (.jwks (.get url sent))) = .ok keys →
              ∃ values, keys = .arr values
        | .child _ => True
  | _ => True

/-- A condition on what the cache's code is told. -/
abbrev JwksGuard := (query : JwksQuery) → query.Answer → JwksState → Prop

def CacheGuarded (G : JwksGuard) (loop : JwksLoop) : JwksMove → Prop
  | .resume index reply =>
      ∀ w, loop.waiting[index]? = some w → G w.query (reply w.query) loop.state
  | _ => True

/-- The same condition, put to the process. -/
def ProcessGuarded (G : JwksGuard) (p : ProcessLoop) : ProcessMove → Prop
  | .resume index reply =>
      ∀ w query, p.waiting[index]? = some w → w.query = .jwks query →
        G query (reply (.jwks query)) p.state.jwks
  | _ => True

def ReliableAnswer : JwksGuard
  | .acquire lock, reply, s => reply = .acquired → s.locked lock = false
  | .get .., reply, _ => ∀ keys, HttpReply.keys reply = .ok keys → ∃ values, keys = .arr values

end Relation

section Steps

variable {d : Deployment} {eventLoop : Nat} {s : ProcessState} {ps : List ProcessStretch}
    {rs : List ReplicaStretch} {js : List JwksStretch} {pw : List ProcessWaiting}
    {rw rw' : List ReplicaWaiting} {jw : List JwksWaiting}

/-- The reply of `get_jwks`, and nothing for a child. -/
def keysReply (reply : JwksReply) : (query : Query) → Reply query
  | .jwks => reply
  | .child _ => .cancelled

theorem reliable_of_guarded {loop : JwksLoop} {m : JwksMove}
    (h : CacheGuarded ReliableAnswer loop m) : Reliable loop m := by
  cases m with
  | start call => trivial
  | outside delay => trivial
  | resume index reply =>
      intro w hIndex
      have hHere := h w hIndex
      obtain ⟨call, query, next⟩ := w
      cases query with
      | acquire lock => exact hHere
      | get url sent => exact hHere

theorem ProcessReliable.guarded {p : ProcessLoop} {m : ProcessMove} (h : ProcessReliable p m) :
    ProcessGuarded ReliableAnswer p m := by
  cases m with
  | start route => trivial
  | outside delay => trivial
  | resume index reply =>
      rintro ⟨route, query, next⟩ query' hIndex rfl
      have hHere := h _ hIndex
      cases query' with
      | acquire lock => exact hHere
      | get url sent => exact hHere

theorem advance_response {task : Action Response} {w w' : World} {outcome : Except PyExc Response}
    (h : task.advance w = (.finished outcome, w')) :
    (Answer.response <$> task).advance w = (.finished (outcome.map .response), w') := by
  rw [map_eq_bind]
  cases outcome with
  | ok response => exact advance_bind_ok h
  | error exc => exact advance_bind_error h

theorem advance_response_waiting {task : Action Response} {w w' : World} {query : Query}
    {next : Reply query → Action Response} (h : task.advance w = (.waiting query next, w')) :
    (Answer.response <$> task).advance w =
      (.waiting query fun r => Answer.response <$> next r, w') :=
  advance_bind_waiting h

theorem runsChild_jwks (username : PyStr) (route : Route) {query : JwksQuery}
    (next : query.Answer → ProcessAction Answer) :
    runsChild username ⟨route, .jwks query, next⟩ = false := by
  cases route <;> rfl

/-- As many children run for `username` in the process as in the replica. -/
theorem running_eq (username : PyStr) (h : Split (Stands d eventLoop) pw rw jw) :
    running username pw = rw.countP fun w => decide (RunsFor (· = username) w) := by
  refine h.countP_left fun w left right hIs => ?_
  cases hIs with
  | request => simp [runsChild_jwks]
  | probe => simp [runsChild_jwks]
  | @child job spec next =>
      simp [runsChild, runsFor_child_iff, List.countP_cons]

theorem inFlight_eq (username : PyStr) (h : Split (Stands d eventLoop) pw rw jw) {job : Job}
    {next : JwksReply → Action Response} (hPerm : rw'.Perm (⟨job, .jwks, next⟩ :: rw)) :
    inFlight username ⟨s.world, rw', rs⟩ = running username pw := by
  rw [inFlight, hPerm.countP_eq, List.countP_cons, running_eq username h]
  simp

/-- The condition under which a stretch that ends with these waiting calls may
have started a child for `username`. -/
def RoomFor (d : Deployment) (username : PyStr) (w : World) (before after : List ProcessWaiting) :
    Prop :=
  running username before < running username after →
    running username before +
      Account.live d.settings.failedAuth (w.limiter username) w.now <
        d.settings.failedAuth.maxAttempts

theorem RoomFor.child {username : PyStr} {w : World} {job : Job} {spec : ChildSpec}
    {next : ChildReply → ProcessAction Answer}
    (h : RoomFor d username w pw (pw ++ [⟨.request job, .child spec, next⟩]))
    (hUser : job.endpoint.passwordUser = some username) :
    running username pw + Account.live d.settings.failedAuth (w.limiter username) w.now <
      d.settings.failedAuth.maxAttempts := by
  refine h ?_
  have hHere : runsChild username ⟨.request job, .child spec, next⟩ = true := by
    simp [runsChild, hUser]
  simp [running, hHere]

/-- One stretch of `get_jwks`, called by a request that waits for its end. -/
theorem Joined.request_turn {job : Job} {next : JwksReply → Action Response}
    (call : JwksAction Json) (cause : Option ((query : JwksQuery) × query.Answer))
    (hSplit : Split (Stands d eventLoop) pw rw jw) (hTraced : Traced d ps rs js)
    (hPerm : rw'.Perm (⟨job, .jwks, next⟩ :: rw)) (hConducted : ∀ w ∈ rw', Conducted d w)
    {p : ProcessLoop}
    (hPlaced : p = Loop.place ⟨s, pw, ps⟩ (.request job) (heard cause)
      (((capturing call).andThen fun reply =>
        Realised d.settings eventLoop (Answer.response <$> next reply)).advance s)) :
    ∃ moves : List ReplicaMove,
      Joined d eventLoop p (Loop.run (Job.task d) wait ⟨s.world, rw', rs⟩ moves)
        (Loop.place ⟨s.jwks, jw, js⟩ 0 cause (call.advance s.jwks)) ∧
      ∀ username, RoomFor d username s.world pw p.waiting →
        Loop.Meets (Job.task d) wait (HasRoom d username) ⟨s.world, rw', rs⟩ moves := by
  have hHere : Conducted d ⟨job, .jwks, next⟩ :=
    hConducted _ (hPerm.mem_iff.mpr List.mem_cons_self)
  rcases hCall : call.advance s.jwks with ⟨outcome | ⟨query, rest⟩, j⟩
  · obtain ⟨index, hIndex, hErased⟩ := exists_index_of_perm hPerm
    refine ⟨[.resume index (keysReply (captured outcome))], ?_⟩
    have hKept := move_conducted (d := d) ⟨s.world, rw', rs⟩
      (.resume index (keysReply (captured outcome))) hConducted
    simp only [Loop.run, Loop.move, hIndex] at hKept ⊢
    rw [advance_capturing_finished hCall] at hPlaced
    have hServes := hHere (captured outcome) s.world
    have hReply : keysReply (captured outcome) .jwks = captured outcome := rfl
    cases hOpening : job.opening d (captured outcome) s.world with
    | error refusal =>
        rw [hOpening] at hServes
        obtain ⟨w', hAdvance, -⟩ := hServes
        rw [hReply, hAdvance] at hKept ⊢
        rw [advance_realised_finished (s := { s with jwks := j }) (advance_response hAdvance)]
          at hPlaced
        subst hPlaced
        refine ⟨⟨rfl, rfl, hSplit.perm hErased (.refl _), hKept,
          .told (.keyed (some (.ok refusal.response))) hTraced⟩, fun username _ => ⟨?_, trivial⟩⟩
        intro w hw _
        obtain rfl := Option.some.inj (hIndex.symm.trans hw)
        intro hOk
        cases hOpening.symm.trans hOk
    | ok _ =>
        rw [hOpening] at hServes
        obtain ⟨spec, next', w', hAdvance, -⟩ := hServes
        rw [hReply, hAdvance] at hKept ⊢
        rw [advance_realised_child (s := { s with jwks := j }) (advance_response_waiting hAdvance)]
          at hPlaced
        subst hPlaced
        have hChild : Stands d eventLoop _ (some ⟨job, .child spec, next'⟩) none := .child
        have hWaiting := hSplit.append hChild
        rw [Option.toList_none, List.append_nil] at hWaiting
        refine ⟨⟨rfl, rfl, hWaiting.perm (hErased.append_right _) (.refl _), hKept,
          .told (.keyed none) hTraced⟩, fun username hRoom => ⟨?_, trivial⟩⟩
        intro w hw hUser
        obtain rfl := Option.some.inj (hIndex.symm.trans hw)
        intro _
        rw [inFlight_eq username hSplit hPerm]
        exact hRoom.child hUser
  · refine ⟨[], ?_, fun _ _ => trivial⟩
    rw [advance_capturing_waiting hCall] at hPlaced
    subst hPlaced
    refine ⟨rfl, rfl, ?_, hConducted, .told .asked hTraced⟩
    have hAsked : Stands d eventLoop _ (some ⟨job, .jwks, next⟩) (some ⟨0, query, rest⟩) := .request
    exact (hSplit.append hAsked).perm (hPerm.trans (List.perm_append_singleton _ _).symm) (.refl _)

/-- One stretch of `get_jwks`, called by a readiness probe. -/
theorem Joined.probe_turn {probe : Probe} {next : JwksReply → Action Answer}
    (hNext : ∀ reply w,
      (next reply).advance w = (.finished (.ok (probed d.settings probe reply)), w))
    (call : JwksAction Json) (cause : Option ((query : JwksQuery) × query.Answer))
    (hSplit : Split (Stands d eventLoop) pw rw jw) (hTraced : Traced d ps rs js)
    (hConducted : ∀ w ∈ rw, Conducted d w) :
    Joined d eventLoop
      (Loop.place ⟨s, pw, ps⟩ (.readyz probe) (heard cause)
        (((capturing call).andThen fun reply =>
          Realised d.settings eventLoop (next reply)).advance s))
      ⟨s.world, rw, rs⟩ (Loop.place ⟨s.jwks, jw, js⟩ 0 cause (call.advance s.jwks)) := by
  rcases hCall : call.advance s.jwks with ⟨outcome | ⟨query, rest⟩, j⟩
  · rw [advance_capturing_finished hCall,
      advance_realised_finished (s := { s with jwks := j }) (hNext _ _)]
    exact ⟨rfl, rfl, hSplit, hConducted, .told .probed hTraced⟩
  · rw [advance_capturing_waiting hCall]
    have hAsked : Stands d eventLoop _ none (some ⟨0, query, rest⟩) := .probe hNext
    have hWaiting := hSplit.append hAsked
    rw [Option.toList_none, List.append_nil] at hWaiting
    exact ⟨rfl, rfl, hWaiting, hConducted, .told .asked hTraced⟩

/-- A readiness probe asks for the key list before anything else, and is then
answered. -/
theorem readyz_asks (settings : Settings) (probe : Probe) (w : World) :
    ∃ next, (tryCatch ((fun _ => Answer.ready) <$> readyz settings probe)
        fun exc => pure (.response (errorResponse exc)) : Action Answer).advance w =
          (.waiting .jwks next, w) ∧
      ∀ reply w₁,
        (next reply).advance w₁ = (.finished (.ok (probed settings probe reply)), w₁) := by
  refine ⟨_, rfl, fun reply w₁ => ?_⟩
  have hReported (problems : List PyStr) :
      (tryCatch ((fun _ => Answer.ready) <$> report problems)
        fun exc => pure (.response (errorResponse exc)) : Action Answer).advance w₁ =
          (.finished (.ok (reported problems)), w₁) := by
    unfold report reported
    split <;> rfl
  cases reply with
  | keys keys => exact hReported _
  | unreachable => exact hReported _
  | noLength => rfl
  | cancelled => rfl

variable {p : ProcessLoop} {replica : Replica} {cache : JwksLoop}

theorem Joined.start_request (h : Joined d eventLoop p replica cache) (job : Job) :
    ∃ (moves : List ReplicaMove) (calls : List JwksMove),
      Joined d eventLoop
        (p.move (Route.task d eventLoop) ProcessState.wait (.start (.request job)))
        (replica.run (Job.task d) wait moves)
        (cache.run (fun _ => getJwks d.settings eventLoop) JwksState.wait calls) ∧
      (∀ username, ProcessRoom d eventLoop username p (.start (.request job)) →
        replica.Meets (Job.task d) wait (HasRoom d username) moves) ∧
      ∀ G, cache.Meets (fun _ => getJwks d.settings eventLoop) JwksState.wait (CacheGuarded G)
        calls := by
  obtain ⟨⟨_, _⟩, pw, ps⟩ := p
  obtain ⟨w, rw, rs⟩ := replica
  obtain ⟨j, jw, js⟩ := cache
  obtain ⟨rfl, rfl, hSplit, hConducted, hTraced⟩ := h
  cases hToken : job.request.credentials with
  | none =>
      refine ⟨[.start job], [], ?_, fun _ _ => ⟨trivial, trivial⟩, fun _ => trivial⟩
      obtain ⟨w', hAdvance, -⟩ := job.answers_of_none d hToken w
      simp only [Loop.run, Loop.move, hAdvance]
      rw [Route.task, Route.handler,
        advance_realised_finished (s := ⟨w, j⟩) (advance_response hAdvance)]
      exact ⟨rfl, rfl, hSplit, hConducted, .told (.refused _) hTraced⟩
  | some token =>
      obtain ⟨next, hAdvance, hServes⟩ := job.serves d hToken w
      have hArrived : ∀ w ∈ rw ++ [⟨job, .jwks, next⟩], Conducted d w := by
        intro v hv
        rcases List.mem_append.mp hv with hOld | hNew
        · exact hConducted v hOld
        · rw [List.mem_singleton.mp hNew]
          exact hServes
      have hHere : Traced d ps (⟨job, none, w, none⟩ :: rs) js := .arrived hTraced
      obtain ⟨moves, hJoined, hRoom⟩ := Joined.request_turn (s := ⟨w, j⟩)
        (getJwks d.settings eventLoop) none hSplit hHere (List.perm_append_singleton _ _) hArrived
        rfl
      refine ⟨.start job :: moves, [.start 0], ?_, ?_, fun _ => ⟨trivial, trivial⟩⟩
      · simp only [Loop.run, Loop.move, hAdvance]
        rw [Route.task, Route.handler,
          advance_realised_jwks (s := ⟨w, j⟩) (advance_response_waiting hAdvance)]
        exact hJoined
      · intro username hHas
        refine ⟨trivial, ?_⟩
        simp only [Loop.move, hAdvance]
        refine hRoom username fun hMore => hHas.1 ?_
        simp only [Loop.move]
        rw [Route.task, Route.handler,
          advance_realised_jwks (s := ⟨w, j⟩) (advance_response_waiting hAdvance)]
        exact hMore

theorem Joined.start_readyz (h : Joined d eventLoop p replica cache) (probe : Probe) :
    Joined d eventLoop
      (p.move (Route.task d eventLoop) ProcessState.wait (.start (.readyz probe))) replica
      (cache.move (fun _ => getJwks d.settings eventLoop) JwksState.wait (.start 0)) := by
  obtain ⟨⟨_, _⟩, pw, ps⟩ := p
  obtain ⟨w, rw, rs⟩ := replica
  obtain ⟨j, jw, js⟩ := cache
  obtain ⟨rfl, rfl, hSplit, hConducted, hTraced⟩ := h
  obtain ⟨next, hAdvance, hNext⟩ := readyz_asks d.settings probe w
  simp only [Loop.move]
  rw [Route.task, Route.handler, advance_realised_jwks (s := ⟨w, j⟩) hAdvance]
  exact Joined.probe_turn (s := ⟨w, j⟩) hNext _ none hSplit hTraced hConducted

/-- What the cache is told by a reply to the process. -/
def jwksReply (reply : (query : ProcessQuery) → ProcessReply query) :
    (query : JwksQuery) → query.Answer :=
  fun query => reply (.jwks query)

/-- And the replica; nothing there awaits the key list. -/
def childReply (reply : (query : ProcessQuery) → ProcessReply query) :
    (query : Query) → Reply query
  | .jwks => .cancelled
  | .child spec => reply (.child spec)

theorem running_eraseIdx (p : ProcessLoop) (username : PyStr) {index : Nat} {v : ProcessWaiting}
    (hIndex : p.waiting[index]? = some v) (hNot : runsChild username v = false) :
    running username (p.waiting.eraseIdx index) = running username p.waiting := by
  have hCount := Loop.countP_eraseIdx hIndex (runsChild username)
  rw [hNot] at hCount
  exact hCount

theorem Joined.resume (h : Joined d eventLoop p replica cache) (index : Nat)
    (reply : (query : ProcessQuery) → ProcessReply query) :
    ∃ (moves : List ReplicaMove) (calls : List JwksMove),
      Joined d eventLoop
        (p.move (Route.task d eventLoop) ProcessState.wait (.resume index reply))
        (replica.run (Job.task d) wait moves)
        (cache.run (fun _ => getJwks d.settings eventLoop) JwksState.wait calls) ∧
      (∀ username, ProcessRoom d eventLoop username p (.resume index reply) →
        replica.Meets (Job.task d) wait (HasRoom d username) moves) ∧
      ∀ G, ProcessGuarded G p (.resume index reply) →
        cache.Meets (fun _ => getJwks d.settings eventLoop) JwksState.wait (CacheGuarded G)
          calls := by
  obtain ⟨⟨_, _⟩, pw, ps⟩ := p
  obtain ⟨w, rw, rs⟩ := replica
  obtain ⟨j, jw, js⟩ := cache
  obtain ⟨rfl, rfl, hSplit, hConducted, hTraced⟩ := h
  cases hIndex : pw[index]? with
  | none =>
      refine ⟨[], [], ?_, fun _ _ => trivial, fun _ _ => trivial⟩
      simp only [Loop.move, Loop.run, hIndex]
      exact ⟨rfl, rfl, hSplit, hConducted, hTraced⟩
  | some v =>
      obtain ⟨left, right, ls, rest', hStands, hOthers, hLeft, hRight⟩ := hSplit.take hIndex
      cases hStands with
      | @request job query rest next =>
          obtain ⟨k, hCall, hErased⟩ := exists_index_of_perm hRight
          obtain ⟨moves, hJoined, hRoom⟩ := Joined.request_turn (s := ⟨w, j⟩)
            (rest (reply (.jwks query))) (some ⟨query, reply (.jwks query)⟩)
            (hOthers.perm (.refl _) hErased) hTraced hLeft hConducted rfl
          refine ⟨moves, [.resume k (jwksReply reply)], ?_, ?_, ?_⟩
          · simp only [Loop.move, Loop.run, hIndex, hCall]
            exact hJoined
          · intro username hHas
            refine hRoom username fun hMore => ?_
            have hSame := running_eraseIdx ⟨⟨w, j⟩, pw, ps⟩ username hIndex (runsChild_jwks ..)
            have hRoomHere := hHas.1
            simp only [Loop.move, hIndex] at hRoomHere
            rw [hSame] at hMore ⊢
            exact hRoomHere hMore
          · intro G hGuarded
            refine ⟨?_, trivial⟩
            intro u hu
            obtain rfl := Option.some.inj (hCall.symm.trans hu)
            exact hGuarded _ query hIndex rfl
      | @probe probe query rest next hNext =>
          obtain ⟨k, hCall, hErased⟩ := exists_index_of_perm hRight
          refine ⟨[], [.resume k (jwksReply reply)], ?_, fun _ _ => trivial, ?_⟩
          · simp only [Loop.move, Loop.run, hIndex, hCall]
            exact Joined.probe_turn (s := ⟨w, j⟩) hNext _ (some ⟨query, reply (.jwks query)⟩)
              (hOthers.perm hLeft hErased) hTraced hConducted
          · intro G hGuarded
            refine ⟨?_, trivial⟩
            intro u hu
            obtain rfl := Option.some.inj (hCall.symm.trans hu)
            exact hGuarded _ query hIndex rfl
      | @child job spec next =>
          obtain ⟨i, hChild, hErased⟩ := exists_index_of_perm hLeft
          obtain ⟨-, hAnswers⟩ := hConducted _ (List.mem_of_getElem? hChild)
          obtain ⟨w', hAdvance, -⟩ := hAnswers (reply (.child spec)) w
          have hReply : childReply reply (.child spec) = reply (.child spec) := rfl
          refine ⟨[.resume i (childReply reply)], [], ?_, ?_, fun _ _ => trivial⟩
          · have hKept := move_conducted (d := d) ⟨w, rw, rs⟩ (.resume i (childReply reply))
              hConducted
            simp only [Loop.move, Loop.run, hIndex, hChild] at hKept ⊢
            rw [hReply, hAdvance] at hKept ⊢
            rw [advance_realised_finished (s := ⟨w, j⟩) (advance_response hAdvance)]
            exact ⟨rfl, rfl, hOthers.perm hErased hRight, hKept,
              .told (.child (some (.ok _))) hTraced⟩
          · intro username hHas
            refine ⟨?_, trivial⟩
            intro u hu hUser
            obtain rfl := Option.some.inj (hChild.symm.trans hu)
            exact hHas.2 job spec _ hIndex hUser

/-- Every move of the process is a run of moves of the replica and of the
cache, and guards them as it is guarded. -/
theorem Joined.move (h : Joined d eventLoop p replica cache) (m : ProcessMove) :
    ∃ (moves : List ReplicaMove) (calls : List JwksMove),
      Joined d eventLoop (p.move (Route.task d eventLoop) ProcessState.wait m)
        (replica.run (Job.task d) wait moves)
        (cache.run (fun _ => getJwks d.settings eventLoop) JwksState.wait calls) ∧
      (∀ username, ProcessRoom d eventLoop username p m →
        replica.Meets (Job.task d) wait (HasRoom d username) moves) ∧
      ∀ G, ProcessGuarded G p m →
        cache.Meets (fun _ => getJwks d.settings eventLoop) JwksState.wait (CacheGuarded G)
          calls := by
  cases m with
  | resume index reply => exact h.resume index reply
  | outside delay =>
      refine ⟨[.outside delay], [.outside delay], ?_, fun _ _ => ⟨trivial, trivial⟩,
        fun _ _ => ⟨trivial, trivial⟩⟩
      refine ⟨?_, ?_, h.waiting, h.conducted, h.traced⟩
      · exact congrArg (wait delay) h.world
      · exact congrArg (JwksState.wait delay) h.jwks
  | start route =>
      cases route with
      | request job =>
          obtain ⟨moves, calls, hJoined, hRoom, hCalls⟩ := h.start_request job
          exact ⟨moves, calls, hJoined, hRoom, fun G _ => hCalls G⟩
      | readyz probe =>
          exact ⟨[], [.start 0], h.start_readyz probe, fun _ _ => trivial,
            fun _ _ => ⟨trivial, trivial⟩⟩
      | healthz =>
          exact ⟨[], [], ⟨h.world, h.jwks, h.waiting, h.conducted, .told .alive h.traced⟩,
            fun _ _ => trivial, fun _ _ => trivial⟩

end Steps

section Runs

variable {d : Deployment} {eventLoop : Nat}

theorem Joined.run {p : ProcessLoop} {replica : Replica} {cache : JwksLoop}
    (h : Joined d eventLoop p replica cache) (schedule : List ProcessMove) :
    ∃ (moves : List ReplicaMove) (calls : List JwksMove),
      Joined d eventLoop (p.run (Route.task d eventLoop) ProcessState.wait schedule)
        (replica.run (Job.task d) wait moves)
        (cache.run (fun _ => getJwks d.settings eventLoop) JwksState.wait calls) ∧
      (∀ username,
        p.Meets (Route.task d eventLoop) ProcessState.wait (ProcessRoom d eventLoop username)
          schedule →
        replica.Meets (Job.task d) wait (HasRoom d username) moves) ∧
      ∀ G, p.Meets (Route.task d eventLoop) ProcessState.wait (ProcessGuarded G) schedule →
        cache.Meets (fun _ => getJwks d.settings eventLoop) JwksState.wait (CacheGuarded G)
          calls := by
  induction schedule generalizing p replica cache with
  | nil => exact ⟨[], [], h, fun _ _ => trivial, fun _ _ => trivial⟩
  | cons m rest ih =>
      obtain ⟨moves, calls, hMoved, hRoom, hGuarded⟩ := h.move m
      obtain ⟨moves', calls', hRun, hRooms, hGuardeds⟩ := ih hMoved
      refine ⟨moves ++ moves', calls ++ calls', ?_, ?_, ?_⟩
      · rw [Loop.run_append, Loop.run_append]
        exact hRun
      · intro username hMeets
        exact Loop.meets_append _ (hRoom username hMeets.1) (hRooms username hMeets.2)
      · intro G hMeets
        exact Loop.meets_append _ (hGuarded G hMeets.1) (hGuardeds G hMeets.2)

/-- What is reliable for the process is reliable for its cache. -/
theorem reliable_calls {p : ProcessLoop} {cache : JwksLoop} {schedule : List ProcessMove}
    {calls : List JwksMove}
    (h : ∀ G, p.Meets (Route.task d eventLoop) ProcessState.wait (ProcessGuarded G) schedule →
      cache.Meets (fun _ => getJwks d.settings eventLoop) JwksState.wait (CacheGuarded G) calls)
    (hReliable : p.Meets (Route.task d eventLoop) ProcessState.wait ProcessReliable schedule) :
    cache.Meets (fun _ => getJwks d.settings eventLoop) JwksState.wait Reliable calls := by
  have hGuarded := Loop.Meets.imp (fun _ _ => ProcessReliable.guarded) hReliable
  exact Loop.Meets.imp (fun _ _ => reliable_of_guarded) (h ReliableAnswer hGuarded)

theorem freshProcess_joined (now : ℚ) :
    Joined d eventLoop (freshProcess now) (freshReplica now) (freshJwks now) :=
  ⟨rfl, rfl, .nil, fun _ hw => absurd hw List.not_mem_nil, .nil⟩

/-- Any schedule of calls of the five routes on one process is a schedule of
requests on a replica whose awaits of `get_jwks` end as the calls end that the
same schedule makes of the cache. -/
theorem process_is_replica_and_cache (d : Deployment) (eventLoop : Nat) (now : ℚ)
    (schedule : List ProcessMove) :
    ∃ (moves : List ReplicaMove) (calls : List JwksMove),
      Joined d eventLoop
        ((freshProcess now).run (Route.task d eventLoop) ProcessState.wait schedule)
        ((freshReplica now).run (Job.task d) wait moves)
        ((freshJwks now).run (fun _ => getJwks d.settings eventLoop) JwksState.wait calls) ∧
      (∀ username,
        (freshProcess now).Meets (Route.task d eventLoop) ProcessState.wait
          (ProcessRoom d eventLoop username) schedule →
        (freshReplica now).Meets (Job.task d) wait (HasRoom d username) moves) ∧
      ((freshProcess now).Meets (Route.task d eventLoop) ProcessState.wait ProcessReliable
          schedule →
        (freshJwks now).Meets (fun _ => getJwks d.settings eventLoop) JwksState.wait Reliable
          calls) := by
  obtain ⟨moves, calls, hJoined, hRoom, hGuarded⟩ :=
    (freshProcess_joined now : Joined d eventLoop _ _ _).run schedule
  exact ⟨moves, calls, hJoined, hRoom, reliable_calls hGuarded⟩

end Runs

end Krb5TokenService.Service
