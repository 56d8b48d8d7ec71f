import Krb5TokenService.EventLoop.Loop
import Krb5TokenService.Service.Limited

/-! One replica of the service: any number of requests on one event loop, with
one limiter. Seen from one username it takes the steps of an account. -/
namespace Krb5TokenService.Service

open Python EventLoop
open RateLimit Identity Minting

abbrev Replica := Loop Job World PyExc Query Reply Response

abbrev ReplicaMove := Move Job Query Reply Delay

abbrev ReplicaWaiting := Waiting Job World PyExc Query Reply Response

abbrev ReplicaStretch := Stretch Job World PyExc Query Reply Response

def wait (delay : Delay) (w : World) : World := { w with now := w.now + delay }

/-- A replica that has just been started. -/
def freshReplica (now : ℚ) : Replica := Loop.idle ⟨fun _ => none, now, [], [], fun _ => none⟩

section Histories

/-- How the child of a password request ended. -/
def seenEnding (job : Job) (reply : ChildReply) (ended : Option (Except PyExc Response)) : Ending :=
  if BadPasswordExit job.endpoint.classifier reply then .bad
  else
    match ended with
    | some (.ok response) => if response.body.Issued then .ok else .other
    | _ => .other

theorem badPasswordExit_of_seen {job : Job} {reply : ChildReply}
    {ended : Option (Except PyExc Response)} (h : seenEnding job reply ended = .bad) :
    BadPasswordExit job.endpoint.classifier reply := by
  unfold seenEnding at h
  split at h
  · assumption
  · split at h
    · split at h <;> cases h
    · cases h

/-- The ending of a child that ran with a password, under the username it was
for. -/
def childEnding (stretch : Stretch Job World PyExc Query Reply Response) : Option (PyStr × Ended) :=
  match stretch.cause, stretch.label.endpoint.passwordUser with
  | some ⟨.child _, reply⟩, some username =>
      some (username, ⟨stretch.found.now, seenEnding stretch.label reply stretch.ended⟩)
  | _, _ => none

def endings (replica : Replica) : List (PyStr × Ended) := replica.trace.filterMap childEnding

variable (mine : PyStr → Prop) [DecidablePred mine]

/-- The endings for any of these usernames, newest first. -/
def history (replica : Replica) : List Ended :=
  ((endings replica).filter fun ending => decide (mine ending.1)).map Prod.snd

/-- A child runs with the password of one of `mine`. -/
def RunsFor (w : Waiting Job World PyExc Query Reply Response) : Prop :=
  match w.query, w.label.endpoint.passwordUser with
  | .child _, some username => mine username
  | _, _ => False

instance : DecidablePred (RunsFor mine) := fun w => by
  unfold RunsFor
  split <;> infer_instance

end Histories

section

variable (d : Deployment) (username : PyStr)

/-- The children that run with the password of `username`. -/
def inFlight (replica : Replica) : Nat :=
  replica.waiting.countP fun w => decide (RunsFor (· = username) w)

/-- What a replica looks like from one username. -/
def accountOf (replica : Replica) : Account where
  entry := replica.state.limiter username
  now := replica.state.now
  inFlight := inFlight username replica
  history := history (· = username) replica

/-- The condition under which the limiter keeps its promise: a child is only
started for `username` while those that run and the failures still counted
leave room for one more bad password, and a bad password is not lost with the
removal of its private directory. -/
def HasRoom (replica : Replica) : ReplicaMove → Prop
  | .resume index reply =>
      ∀ w, replica.waiting[index]? = some w → w.label.endpoint.passwordUser = some username →
        match w.query with
        | .jwks =>
            w.label.opening d (reply .jwks) replica.state = .ok () →
              inFlight username replica + Account.live d.settings.failedAuth
                (replica.state.limiter username) replica.state.now <
                  d.settings.failedAuth.maxAttempts
        | .child spec =>
            BadPasswordExit w.label.endpoint.classifier (reply (.child spec)) →
              w.label.env.rmtree = none
  | _ => True

/-- What is known of a waiting request: with the key list it serves, and with
its child's end it answers, as its plan says. -/
def Conducted : Waiting Job World PyExc Query Reply Response → Prop
  | ⟨job, .jwks, next⟩ =>
      ∀ (reply : JwksReply) (w : World), Serves (next reply) w (job.opening d reply w)
        (job.checked d reply w) (job.plan d).closing
        fun reply => (job.plan d).settled d.settings.failedAuth ((job.plan d).ending reply)
  | ⟨job, .child _, next⟩ =>
      (job.plan d).checks = job.endpoint.passwordUser ∧
        ∀ (reply : ChildReply) (w : World), Answers (next reply) w ((job.plan d).closing reply)
          ((job.plan d).settled d.settings.failedAuth ((job.plan d).ending reply) w)

end

section Conduct

variable {d : Deployment}

theorem start_conducted (job : Job) (w : World) :
    Loop.TurnsInto (Conducted d) job ((job.task d).advance w).1 := by
  cases hToken : job.request.credentials with
  | none =>
      obtain ⟨w', hAdvance, _⟩ := job.answers_of_none d hToken w
      rw [hAdvance]
      trivial
  | some token =>
      obtain ⟨next, hAdvance, hServes⟩ := job.serves d hToken w
      rw [hAdvance]
      exact hServes

theorem next_conducted (p : Waiting Job World PyExc Query Reply Response)
    (reply : Reply p.query) (w : World) (h : Conducted d p) :
    Loop.TurnsInto (Conducted d) p.label ((p.next reply).advance w).1 := by
  obtain ⟨job, query, next⟩ := p
  cases query with
  | jwks =>
      have hServe := h reply w
      cases hOpening : job.opening d reply w with
      | error refusal =>
          rw [hOpening] at hServe
          obtain ⟨w', hAdvance, _⟩ := hServe
          rw [hAdvance]
          trivial
      | ok _ =>
          rw [hOpening] at hServe
          obtain ⟨spec, next', w', hAdvance, _, hClosing⟩ := hServe
          obtain ⟨_, hPlan⟩ := job.opening_ok d hOpening
          rw [hAdvance]
          exact ⟨job.checks_of_opening d hPlan, hClosing⟩
  | child spec =>
      obtain ⟨w', hAdvance, _⟩ := h.2 reply w
      rw [hAdvance]
      trivial

/-- Every request on the loop conducts itself as its plan says. -/
theorem move_conducted (replica : Replica) (m : ReplicaMove)
    (h : ∀ p ∈ replica.waiting, Conducted d p) :
    ∀ p ∈ (replica.move (Job.task d) wait m).waiting, Conducted d p :=
  Loop.move_waiting start_conducted next_conducted m h

/-- Everything one move can do to a replica whose requests conduct themselves:
a request arrives, is refused, starts its child or is answered. -/
inductive ReplicaStep (d : Deployment) (replica : Replica) : ReplicaMove → Replica → Prop where
  | waited (delay : Delay) :
      ReplicaStep d replica (.outside delay)
        ⟨wait delay replica.state, replica.waiting, replica.trace⟩
  | absent {index : Nat} {reply : (query : Query) → Reply query}
      (hIndex : replica.waiting[index]? = none) :
      ReplicaStep d replica (.resume index reply) replica
  | turnedAway {job : Job} {w' : World} {ended : Except PyExc Response} {emitted : Option Outcome}
      (hLeaves : Leaves replica.state.limiter emitted replica.state w') :
      ReplicaStep d replica (.start job)
        ⟨w', replica.waiting, ⟨job, none, replica.state, some ended⟩ :: replica.trace⟩
  | arrived {job : Job} {next : JwksReply → Action Response} :
      ReplicaStep d replica (.start job)
        ⟨replica.state, replica.waiting ++ [⟨job, .jwks, next⟩],
          ⟨job, none, replica.state, none⟩ :: replica.trace⟩
  | refused {index : Nat} {reply : (query : Query) → Reply query} {job : Job}
      {next : JwksReply → Action Response} {refusal : Refusal} {w' : World}
      (hIndex : replica.waiting[index]? = some ⟨job, .jwks, next⟩)
      (hLeaves : Leaves (job.checked d (reply .jwks) replica.state) refusal.audited
        replica.state w') :
      ReplicaStep d replica (.resume index reply)
        ⟨w', replica.waiting.eraseIdx index,
          ⟨job, some ⟨.jwks, reply .jwks⟩, replica.state, some (.ok refusal.response)⟩ ::
            replica.trace⟩
  | started {index : Nat} {reply : (query : Query) → Reply query} {job : Job}
      {next : JwksReply → Action Response} {spec : ChildSpec}
      {next' : ChildReply → Action Response} {w' : World}
      (hIndex : replica.waiting[index]? = some ⟨job, .jwks, next⟩)
      (hOpening : job.opening d (reply .jwks) replica.state = .ok ())
      (hLeaves : Leaves (job.checked d (reply .jwks) replica.state) none replica.state w') :
      ReplicaStep d replica (.resume index reply)
        ⟨w', replica.waiting.eraseIdx index ++ [⟨job, .child spec, next'⟩],
          ⟨job, some ⟨.jwks, reply .jwks⟩, replica.state, none⟩ :: replica.trace⟩
  | answered {index : Nat} {reply : (query : Query) → Reply query} {job : Job}
      {spec : ChildSpec} {next : ChildReply → Action Response} {w' : World}
      (hIndex : replica.waiting[index]? = some ⟨job, .child spec, next⟩)
      (hChecks : (job.plan d).checks = job.endpoint.passwordUser)
      (hLeaves : Leaves
        ((job.plan d).settled d.settings.failedAuth ((job.plan d).ending (reply (.child spec)))
          replica.state)
        (audited ((job.plan d).closing (reply (.child spec)))) replica.state w') :
      ReplicaStep d replica (.resume index reply)
        ⟨w', replica.waiting.eraseIdx index,
          ⟨job, some ⟨.child spec, reply (.child spec)⟩, replica.state,
            some (.ok (answerOf ((job.plan d).closing (reply (.child spec)))))⟩ ::
              replica.trace⟩

theorem move_steps (replica : Replica) (m : ReplicaMove)
    (h : ∀ p ∈ replica.waiting, Conducted d p) :
    ReplicaStep d replica m (replica.move (Job.task d) wait m) := by
  cases m with
  | outside delay => exact .waited delay
  | start job =>
      simp only [Loop.move]
      cases hToken : job.request.credentials with
      | none =>
          obtain ⟨w', hAdvance, hLeaves⟩ := job.answers_of_none d hToken replica.state
          rw [hAdvance]
          exact .turnedAway hLeaves
      | some token =>
          obtain ⟨next, hAdvance, _⟩ := job.serves d hToken replica.state
          rw [hAdvance]
          exact .arrived
  | resume index reply =>
      simp only [Loop.move]
      cases hIndex : replica.waiting[index]? with
      | none => exact .absent hIndex
      | some p =>
          have hHere := h p (List.mem_of_getElem? hIndex)
          obtain ⟨job, query, next⟩ := p
          cases query with
          | jwks =>
              have hServe := hHere (reply .jwks) replica.state
              dsimp only
              cases hOpening : job.opening d (reply .jwks) replica.state with
              | error refusal =>
                  rw [hOpening] at hServe
                  obtain ⟨w', hAdvance, hLeaves⟩ := hServe
                  rw [hAdvance]
                  exact .refused hIndex hLeaves
              | ok _ =>
                  rw [hOpening] at hServe
                  obtain ⟨spec, next', w', hAdvance, hLeaves, _⟩ := hServe
                  rw [hAdvance]
                  exact .started hIndex hOpening hLeaves
          | child spec =>
              obtain ⟨hChecks, hAnswers⟩ := hHere
              obtain ⟨w', hAdvance, hLeaves⟩ := hAnswers (reply (.child spec)) replica.state
              dsimp only
              rw [hAdvance]
              exact .answered hIndex hChecks hLeaves

end Conduct

section Account

variable {d : Deployment} {username : PyStr} {replica replica' : Replica}

/-- Under the guard, how a child ended is what the limiter is told. -/
theorem seenEnding_eq {job : Job} {reply : ChildReply}
    (hUser : job.endpoint.passwordUser = some username)
    (hRemoved : BadPasswordExit job.endpoint.classifier reply → job.env.rmtree = none) :
    seenEnding job reply (some (.ok (answerOf ((job.plan d).closing reply)))) =
      (job.plan d).ending reply := by
  have hBad := job.ending_bad_iff d hUser reply
  have hOk := job.closing_ok_iff d reply
  unfold seenEnding
  by_cases hExit : BadPasswordExit job.endpoint.classifier reply
  · rw [if_pos hExit, hBad.mpr ⟨hExit, hRemoved hExit⟩]
  · rw [if_neg hExit]
    have hNotBad : (job.plan d).ending reply ≠ .bad := fun hTold => hExit (hBad.mp hTold).1
    cases hClosing : (job.plan d).closing reply with
    | ok response =>
        rw [hOk.mp ⟨response, hClosing⟩]
        simp [answerOf, (job.closing_ok d hClosing).2]
    | error refusal =>
        have hNotOk : (job.plan d).ending reply ≠ .ok := fun hTold => by
          obtain ⟨response, hResponse⟩ := hOk.mpr hTold
          rw [hClosing] at hResponse
          cases hResponse
        cases hTold : (job.plan d).ending reply with
        | bad => exact absurd hTold hNotBad
        | ok => exact absurd hTold hNotOk
        | other => simp [answerOf, refusal.withheld]

@[simp] theorem not_runsFor_jwks (mine : PyStr → Prop) [DecidablePred mine] (job : Job)
    (next : JwksReply → Action Response) : ¬ RunsFor mine ⟨job, .jwks, next⟩ := id

theorem runsFor_child_iff {job : Job} {spec : ChildSpec} {next : ChildReply → Action Response} :
    RunsFor (· = username) ⟨job, .child spec, next⟩ ↔
      job.endpoint.passwordUser = some username := by
  unfold RunsFor
  cases job.endpoint.passwordUser <;> simp

variable (username) in
theorem inFlight_eraseIdx {index : Nat} {p : Waiting Job World PyExc Query Reply Response}
    (hIndex : replica.waiting[index]? = some p) :
    (replica.waiting.eraseIdx index).countP (fun w => decide (RunsFor (· = username) w)) +
      (if RunsFor (· = username) p then 1 else 0) = inFlight username replica := by
  rw [inFlight, ← Loop.countP_eraseIdx hIndex]
  simp only [decide_eq_true_eq]

theorem accountOf_eq {a : Account} (hEntry : replica'.state.limiter username = a.entry)
    (hNow : replica'.state.now = a.now) (hFlight : inFlight username replica' = a.inFlight)
    (hHistory : history (· = username) replica' = a.history) :
    accountOf username replica' = a := by
  simp only [accountOf, hEntry, hNow, hFlight, hHistory]

/-- A request that the limiter is not asked about `username` for leaves its
entry alone. -/
theorem checked_other {job : Job} {reply : JwksReply} {w : World}
    (hLimited : job.limited d reply ≠ some username) :
    (job.checked d reply w) username = w.limiter username := by
  cases hAsked : job.limited d reply with
  | none => rw [Job.checked_of_unlimited hAsked]
  | some other =>
      rw [Job.checked_of_limited hAsked]
      refine LimiterState.check_other _ _ ?_
      rintro rfl
      exact hLimited hAsked

variable (username) in
/-- The check of any request leaves the entry of `username` as it was, or as a
check that passes leaves it. -/
theorem checked_entry (job : Job) (reply : JwksReply) (w : World) :
    (job.checked d reply w) username = w.limiter username ∨
      ((w.limiter username).check w.now).1 = .ok () ∧
        (job.checked d reply w) username = ((w.limiter username).check w.now).2 := by
  by_cases hLimited : job.limited d reply = some username
  · rw [Job.checked_of_limited hLimited, LimiterState.check_self]
    obtain ⟨_, _, _, hCheck⟩ | ⟨_, _, _, hCheck⟩ | ⟨_, hCheck⟩ :=
      Entry.check_cases w.now (w.limiter username)
    · exact .inl (by rw [hCheck])
    · exact .inr (by rw [hCheck]; exact ⟨rfl, rfl⟩)
    · exact .inl (by rw [hCheck])
  · exact .inl (checked_other hLimited)

theorem settled_other {job : Job} {ending : Ending} {w : World}
    (hChecks : (job.plan d).checks ≠ some username) :
    ((job.plan d).settled d.settings.failedAuth ending w) username = w.limiter username := by
  cases hAsked : (job.plan d).checks with
  | none => rw [Plan.settled_of_none _ hAsked]
  | some other =>
      rw [Plan.settled_of_some _ hAsked]
      refine LimiterState.settle_other _ _ _ _ ?_
      rintro rfl
      exact hChecks hAsked

theorem simulates_stay (h : accountOf username replica' = accountOf username replica) :
    Relation.ReflTransGen (Account.Step d.settings.failedAuth) (accountOf username replica)
      (accountOf username replica') := by
  rw [h]

theorem simulates_step {a : Account} (h : accountOf username replica' = a)
    (hStep : Account.Step d.settings.failedAuth (accountOf username replica) a) :
    Relation.ReflTransGen (Account.Step d.settings.failedAuth) (accountOf username replica)
      (accountOf username replica') := by
  rw [h]
  exact .single hStep

/-- Seen from `username`, a guarded move of the replica is a step of the
account, or nothing at all. -/
theorem step_simulates {m : ReplicaMove} (hStep : ReplicaStep d replica m replica')
    (hRoom : HasRoom d username replica m) :
    Relation.ReflTransGen (Account.Step d.settings.failedAuth) (accountOf username replica)
      (accountOf username replica') := by
  cases hStep with
  | waited delay =>
      exact .single (.wait _ (by simpa [accountOf, wait] using delay.property))
  | absent hIndex => exact .refl
  | turnedAway hLeaves =>
      exact simulates_stay
        (accountOf_eq (congrFun hLeaves.limiter username) hLeaves.now rfl rfl)
  | @arrived job next =>
      refine simulates_stay (accountOf_eq rfl rfl ?_ rfl)
      simp [inFlight, accountOf]
  | @refused index reply job next refusal w' hIndex hLeaves =>
      have hFlight := inFlight_eraseIdx username hIndex
      rw [if_neg (not_runsFor_jwks _ job next), add_zero] at hFlight
      obtain hSame | ⟨hPass, hChecked⟩ :=
        checked_entry username job (reply .jwks) replica.state
      · exact simulates_stay
          (accountOf_eq ((congrFun hLeaves.limiter username).trans hSame) hLeaves.now hFlight rfl)
      · refine simulates_step (accountOf_eq ?_ hLeaves.now ?_ rfl) (.check hPass)
        · exact (congrFun hLeaves.limiter username).trans hChecked
        · exact hFlight
  | @started index reply job next spec next' w' hIndex hOpening hLeaves =>
      have hFlight := inFlight_eraseIdx username hIndex
      rw [if_neg (not_runsFor_jwks _ job next), add_zero] at hFlight
      obtain ⟨⟨caller, hCaller⟩, hPlan⟩ := job.opening_ok d hOpening
      have hLimited := Job.limited_of_authenticated hCaller
      rw [job.checks_of_opening d hPlan] at hLimited
      by_cases hUser : job.endpoint.passwordUser = some username
      · have hChecks := (job.checks_of_opening d hPlan).trans hUser
        have hPass := job.allowed_of_opening d hChecks hPlan
        simp only [Plan.allowed, hChecks, LimiterState.check_fst] at hPass
        refine simulates_step (accountOf_eq ?_ hLeaves.now ?_ rfl)
          (.admitted hPass (hRoom _ hIndex hUser hOpening))
        · rw [hLeaves.limiter, Job.checked_of_limited (hLimited.trans hUser)]
          exact LimiterState.check_self _ _ _
        · simp only [inFlight, List.countP_append, hFlight]
          simp [runsFor_child_iff, hUser, accountOf, inFlight]
      · refine simulates_stay (accountOf_eq ?_ hLeaves.now ?_ rfl)
        · rw [hLeaves.limiter]
          exact checked_other (hLimited ▸ hUser)
        · simp only [inFlight, List.countP_append, hFlight]
          simp [runsFor_child_iff, hUser, accountOf, inFlight]
  | @answered index reply job spec next w' hIndex hChecks hLeaves =>
      have hFlight := inFlight_eraseIdx username hIndex
      by_cases hUser : job.endpoint.passwordUser = some username
      · rw [if_pos (runsFor_child_iff.mpr hUser)] at hFlight
        have hEnding := seenEnding_eq (d := d) hUser (hRoom _ hIndex hUser)
        refine simulates_step (accountOf_eq ?_ hLeaves.now ?_ ?_)
          (.settle ((job.plan d).ending (reply (.child spec))) ?_)
        · rw [hLeaves.limiter, Plan.settled_of_some _ (hChecks.trans hUser)]
          exact LimiterState.settle_self _ _ _ _ _
        · simp only [accountOf, inFlight] at hFlight ⊢
          omega
        · simp [history, endings, childEnding, hUser, hEnding, accountOf]
        · simp only [accountOf]
          omega
      · rw [if_neg fun hRuns => hUser (runsFor_child_iff.mp hRuns), add_zero] at hFlight
        refine simulates_stay (accountOf_eq ?_ hLeaves.now hFlight ?_)
        · rw [hLeaves.limiter]
          exact settled_other (hChecks ▸ hUser)
        · cases hName : job.endpoint.passwordUser with
          | none => simp [history, endings, childEnding, hName, accountOf]
          | some other =>
              have hOther : other ≠ username := fun hSame => hUser (hSame ▸ hName)
              simp [history, endings, childEnding, hName, hOther, accountOf]

end Account

end Krb5TokenService.Service
