import Krb5TokenService.RateLimit.Forgotten
import Krb5TokenService.Service.Desk
import Krb5TokenService.Service.Interleaved

/-! Requests that do not bring a password of the same user have nothing to do
with each other as far as the limiter goes: given the key lists and the ends of
their children, each group of them is served as if it were alone. -/
namespace Krb5TokenService.Service

open Python EventLoop EventLoop.Task
open RateLimit Identity Minting

section Selection

variable {α : Type} {l : List α} {index : Nat} {a : α} (p : α → Bool)

theorem split_at (hAt : l[index]? = some a) :
    l = l.take index ++ a :: l.drop (index + 1) ∧
      l.eraseIdx index = l.take index ++ l.drop (index + 1) := by
  obtain ⟨hIndex, rfl⟩ := List.getElem?_eq_some_iff.mp hAt
  exact ⟨by simp, List.eraseIdx_eq_take_drop_succ l index⟩

/-- Where a selected element stands among the selected. -/
theorem filter_at (hAt : l[index]? = some a) (hSelected : p a) :
    (l.filter p)[(l.take index).countP p]? = some a ∧
      (l.eraseIdx index).filter p = (l.filter p).eraseIdx ((l.take index).countP p) := by
  obtain ⟨hSplit, hErased⟩ := split_at hAt
  have hFilter : l.filter p =
      (l.take index).filter p ++ a :: (l.drop (index + 1)).filter p := by
    conv_lhs => rw [hSplit]
    simp [hSelected]
  rw [hFilter, hErased, List.countP_eq_length_filter]
  constructor
  · simp
  · rw [List.filter_append, List.eraseIdx_append_of_length_le le_rfl]
    simp

theorem filter_eraseIdx_of_not (hAt : l[index]? = some a) (hNot : ¬ p a) :
    (l.eraseIdx index).filter p = l.filter p := by
  obtain ⟨hSplit, hErased⟩ := split_at hAt
  conv_rhs => rw [hSplit]
  simp [hErased, hNot]

end Selection

section Moves

variable (keep : Job → Prop) [DecidablePred keep]

/-- What is left of a move when only these requests are made: a request that is
resumed stands where it stands among them. -/
def keptMove (waiting : List Job) : ReplicaMove → Option ReplicaMove
  | .outside delay => some (.outside delay)
  | .start job => if keep job then some (.start job) else none
  | .resume index reply =>
      match waiting[index]? with
      | none => none
      | some job =>
          if keep job then
            some (.resume ((waiting.take index).countP fun job => decide (keep job)) reply)
          else none

/-- The same schedule with only these requests. -/
def only (d : Deployment) (replica : Replica) : List ReplicaMove → List ReplicaMove
  | [] => []
  | m :: rest =>
      (keptMove keep (replica.waiting.map Waiting.label) m).toList ++
        only d (replica.move (Job.task d) wait m) rest

end Moves

section Desks

variable (keep : Job → Prop) [DecidablePred keep] (limits : Limits)

/-- A child runs that the limiter will hear of. -/
def Desk.Busy (desk : Desk) (username : PyStr) : Prop :=
  ∃ job, ⟨job, .child⟩ ∈ desk.visits ∧ job.endpoint.passwordUser = some username

/-- On the second desk there are these requests only, and they have been served
as on the first since `earlier`. -/
structure ServedAlike (earlier : List Delivery) (desk desk' : Desk) : Prop where
  now : desk'.now = desk.now
  visits : desk'.visits = desk.visits.filter fun visit => decide (keep visit.job)
  answers : (desk.answers.filter fun delivery => decide (keep delivery.job)) =
    desk'.answers ++ earlier
  entries : ∀ job username, keep job → job.endpoint.passwordUser = some username →
    AsGood limits desk.now (desk.Busy username) (desk.limiter username) (desk'.limiter username)

namespace ServedAlike

variable {keep limits} {d : Deployment} {earlier : List Delivery} {desk desk' : Desk} {job : Job}

/-- An answer to a request of the group, on both desks. -/
theorem answer (h : ServedAlike keep limits earlier desk desk') (hKeep : keep job)
    (verdict : Except Refusal Response) :
    ServedAlike keep limits earlier (desk.answer job verdict) (desk'.answer job verdict) where
  now := h.now
  visits := h.visits
  answers := by
    have hTime : (⟨job, desk.now, answerOf verdict⟩ : Delivery) =
        ⟨job, desk'.now, answerOf verdict⟩ := by rw [h.now]
    simp [Desk.answer, hKeep, h.answers, hTime]
  entries := h.entries

/-- An answer to another request, which only the first desk has. -/
theorem answer_other (h : ServedAlike keep limits earlier desk desk') (hNot : ¬ keep job)
    (verdict : Except Refusal Response) :
    ServedAlike keep limits earlier (desk.answer job verdict) desk' where
  now := h.now
  visits := h.visits
  answers := by simp [Desk.answer, hNot, h.answers]
  entries := h.entries

theorem arrive (h : ServedAlike keep limits earlier desk desk') (hKeep : keep job) (phase : Phase)
    (hChild : phase = .child → ∀ username, job.endpoint.passwordUser = some username →
      Interchangeable limits desk.now (desk.limiter username) (desk'.limiter username)) :
    ServedAlike keep limits earlier { desk with visits := desk.visits ++ [⟨job, phase⟩] }
      { desk' with visits := desk'.visits ++ [⟨job, phase⟩] } where
  now := h.now
  visits := by simp [h.visits, hKeep]
  answers := h.answers
  entries kept username hKept hUser := by
    by_cases hMine : phase = .child ∧ job.endpoint.passwordUser = some username
    · exact .inl (hChild hMine.1 username hMine.2)
    · refine (h.entries kept username hKept hUser).of_implies ?_
      rintro ⟨other, hIn, hOther⟩
      refine ⟨other, ?_, hOther⟩
      rcases List.mem_append.mp hIn with hIn | hIn
      · exact hIn
      · cases List.mem_singleton.mp hIn
        exact absurd ⟨rfl, hOther⟩ hMine

theorem arrive_other (h : ServedAlike keep limits earlier desk desk') (hNot : ¬ keep job)
    (phase : Phase)
    (hChild : ∀ kept username, keep kept → kept.endpoint.passwordUser = some username →
      job.endpoint.passwordUser ≠ some username) :
    ServedAlike keep limits earlier { desk with visits := desk.visits ++ [⟨job, phase⟩] }
      desk' where
  now := h.now
  visits := by simp [h.visits, hNot]
  answers := h.answers
  entries kept username hKept hUser := by
    refine (h.entries kept username hKept hUser).of_implies ?_
    rintro ⟨other, hIn, hOther⟩
    refine ⟨other, ?_, hOther⟩
    rcases List.mem_append.mp hIn with hIn | hIn
    · exact hIn
    · cases List.mem_singleton.mp hIn
      exact absurd hOther (hChild kept username hKept hUser)

/-- A request leaves the second desk as well, if it is one of the group. -/
theorem erase (h : ServedAlike keep limits earlier desk desk') {index : Nat} {phase : Phase}
    (hAt : desk.visits[index]? = some ⟨job, phase⟩) (hKeep : keep job) :
    ServedAlike keep limits earlier { desk with visits := desk.visits.eraseIdx index }
      { desk' with
        visits := desk'.visits.eraseIdx
          ((desk.visits.take index).countP fun visit => decide (keep visit.job)) } where
  now := h.now
  visits := by
    rw [h.visits]
    exact ((filter_at (fun visit : Visit => decide (keep visit.job)) hAt (by simpa)).2).symm
  answers := h.answers
  entries kept username hKept hUser := by
    refine (h.entries kept username hKept hUser).of_implies ?_
    rintro ⟨other, hIn, hOther⟩
    exact ⟨other, List.mem_of_mem_eraseIdx hIn, hOther⟩

theorem erase_other (h : ServedAlike keep limits earlier desk desk') {index : Nat} {phase : Phase}
    (hAt : desk.visits[index]? = some ⟨job, phase⟩) (hNot : ¬ keep job) :
    ServedAlike keep limits earlier { desk with visits := desk.visits.eraseIdx index } desk' where
  now := h.now
  visits := by
    rw [h.visits]
    exact (filter_eraseIdx_of_not (fun visit : Visit => decide (keep visit.job)) hAt
      (by simpa)).symm
  answers := h.answers
  entries kept username hKept hUser := by
    refine (h.entries kept username hKept hUser).of_implies ?_
    rintro ⟨other, hIn, hOther⟩
    exact ⟨other, List.mem_of_mem_eraseIdx hIn, hOther⟩

/-- The limiter is changed for users of the group on both desks alike. -/
theorem limit (h : ServedAlike keep limits earlier desk desk') {limiter limiter' : LimiterState}
    (hEntries : ∀ kept username, keep kept → kept.endpoint.passwordUser = some username →
      AsGood limits desk.now (desk.Busy username) (desk.limiter username) (desk'.limiter username) →
      AsGood limits desk.now (desk.Busy username) (limiter username) (limiter' username)) :
    ServedAlike keep limits earlier { desk with limiter := limiter }
      { desk' with limiter := limiter' } where
  now := h.now
  visits := h.visits
  answers := h.answers
  entries kept username hKept hUser :=
    hEntries kept username hKept hUser (h.entries kept username hKept hUser)

section Serving

/-- A check that the limiter is asked for says the same on both desks. -/
theorem opens_alike (h : ServedAlike keep d.settings.failedAuth earlier desk desk')
    (hKeep : keep job) (reply : JwksReply) :
    job.opening d reply desk'.world = job.opening d reply desk.world := by
  have hAllowed : (job.plan d).allowed desk'.world = (job.plan d).allowed desk.world := by
    unfold Plan.allowed
    cases hChecks : (job.plan d).checks with
    | none => rfl
    | some username =>
        have hEntry := h.entries job username hKeep (job.checks_subset d hChecks)
        simp only [LimiterState.check_fst, Desk.world, h.now]
        exact hEntry.check.1
  rw [Job.opening, Job.opening, hAllowed]

/-- With its check, whatever the desks know of its user is the same. -/
theorem checked_alike (h : ServedAlike keep d.settings.failedAuth earlier desk desk')
    (hKeep : keep job) {reply : JwksReply} {username : PyStr}
    (hLimited : job.limited d reply = some username) :
    Interchangeable d.settings.failedAuth desk.now (job.checked d reply desk.world username)
      (job.checked d reply desk'.world username) := by
  have hEntry := h.entries job username hKeep (job.passwordUser_of_limited d hLimited)
  rw [Job.checked_of_limited hLimited, Job.checked_of_limited hLimited, LimiterState.check_self,
    LimiterState.check_self]
  simp only [Desk.world, h.now]
  exact hEntry.check.2

theorem check (h : ServedAlike keep d.settings.failedAuth earlier desk desk') (hKeep : keep job)
    (reply : JwksReply) :
    ServedAlike keep d.settings.failedAuth earlier
      { desk with limiter := job.checked d reply desk.world }
      { desk' with limiter := job.checked d reply desk'.world } := by
  refine h.limit fun kept username hKept hUser hEntry => ?_
  by_cases hLimited : job.limited d reply = some username
  · exact .inl (h.checked_alike hKeep hLimited)
  · rw [checked_other hLimited, checked_other hLimited]
    exact hEntry

theorem receive (h : ServedAlike keep d.settings.failedAuth earlier desk desk') (hKeep : keep job)
    (reply : JwksReply) :
    ServedAlike keep d.settings.failedAuth earlier (desk.receive d job reply)
      (desk'.receive d job reply) := by
  have hChecked := h.check hKeep reply
  unfold Desk.receive
  rw [h.opens_alike hKeep reply]
  cases hOpening : job.opening d reply desk.world with
  | error refusal => exact hChecked.answer hKeep _
  | ok _ =>
      refine hChecked.arrive hKeep .child fun _ username hUser => ?_
      obtain ⟨⟨caller, hCaller⟩, hPlan⟩ := job.opening_ok d hOpening
      have hLimited := Job.limited_of_authenticated hCaller
      rw [job.checks_of_opening d hPlan] at hLimited
      exact h.checked_alike hKeep (hLimited.trans hUser)

theorem settle (h : ServedAlike keep d.settings.failedAuth earlier desk desk') (hKeep : keep job)
    (hSettled : ∀ username, job.endpoint.passwordUser = some username →
      Interchangeable d.settings.failedAuth desk.now (desk.limiter username)
        (desk'.limiter username)) (reply : ChildReply) :
    ServedAlike keep d.settings.failedAuth earlier (desk.settle d job reply)
      (desk'.settle d job reply) := by
  refine (h.limit fun kept username hKept hUser hEntry => ?_).answer hKeep _
  by_cases hChecks : (job.plan d).checks = some username
  · rw [Plan.settled_of_some _ hChecks]
    simp only [LimiterState.settle_self, Desk.world, h.now]
    exact .inl ((hSettled username (job.checks_subset d hChecks)).settle _)
  · rw [settled_other hChecks, settled_other hChecks]
    exact hEntry

variable (hApart : ∀ other kept username, ¬ keep other → keep kept →
  kept.endpoint.passwordUser = some username → other.endpoint.passwordUser ≠ some username)

include hApart

theorem receive_other (h : ServedAlike keep d.settings.failedAuth earlier desk desk')
    (hNot : ¬ keep job) (reply : JwksReply) :
    ServedAlike keep d.settings.failedAuth earlier (desk.receive d job reply) desk' := by
  have hChecked : ServedAlike keep d.settings.failedAuth earlier
      { desk with limiter := job.checked d reply desk.world } desk' := by
    refine h.limit fun kept username hKept hUser hEntry => ?_
    rw [checked_other fun hLimited =>
      hApart job kept username hNot hKept hUser (job.passwordUser_of_limited d hLimited)]
    exact hEntry
  unfold Desk.receive
  cases job.opening d reply desk.world with
  | error refusal => exact hChecked.answer_other hNot _
  | ok _ =>
      exact hChecked.arrive_other hNot .child fun kept username => hApart job kept username hNot

theorem settle_other (h : ServedAlike keep d.settings.failedAuth earlier desk desk')
    (hNot : ¬ keep job) (reply : ChildReply) :
    ServedAlike keep d.settings.failedAuth earlier (desk.settle d job reply) desk' := by
  refine ServedAlike.answer_other (h.limit fun kept username hKept hUser hEntry => ?_) hNot _
  rw [settled_other fun hChecks =>
    hApart job kept username hNot hKept hUser (job.checks_subset d hChecks)]
  exact hEntry

/-- A move on the first desk, and on the second what is left of it. -/
theorem move (h : ServedAlike keep d.settings.failedAuth earlier desk desk') (m : ReplicaMove) :
    ServedAlike keep d.settings.failedAuth earlier (desk.move d m)
      ((keptMove keep (desk.visits.map Visit.job) m).toList.foldl (Desk.move d) desk') := by
  cases m with
  | outside delay =>
      refine ⟨congrArg (· + delay.val) h.now, h.visits, h.answers, ?_⟩
      intro kept username hKept hUser
      exact (h.entries kept username hKept hUser).later (by simpa [Desk.move] using delay.property)
  | start job =>
      by_cases hKeep : keep job
      · have hMove : keptMove keep (desk.visits.map Visit.job) (.start job) = some (.start job) :=
          if_pos hKeep
        rw [hMove]
        simp only [Option.toList_some, List.foldl_cons, List.foldl_nil, Desk.move]
        cases job.request.credentials with
        | none => exact h.answer hKeep _
        | some token => exact h.arrive hKeep .keys fun hPhase => absurd hPhase (by decide)
      · have hMove : keptMove keep (desk.visits.map Visit.job) (.start job) = none := if_neg hKeep
        rw [hMove]
        simp only [Option.toList_none, List.foldl_nil, Desk.move]
        cases job.request.credentials with
        | none => exact h.answer_other hKeep _
        | some token =>
            exact h.arrive_other hKeep .keys fun kept username => hApart job kept username hKeep
  | resume index reply =>
      simp only [Desk.move, keptMove, List.getElem?_map]
      cases hAt : desk.visits[index]? with
      | none => exact h
      | some visit =>
          obtain ⟨job, phase⟩ := visit
          simp only [Option.map_some]
          by_cases hKeep : keep job
          · rw [if_pos hKeep]
            have hErased := h.erase hAt hKeep
            have hHere := (filter_at (fun visit : Visit => decide (keep visit.job)) hAt
              (by simpa)).1
            rw [← h.visits] at hHere
            have hIndex : ((desk.visits.map Visit.job).take index).countP
                  (fun job => decide (keep job)) =
                (desk.visits.take index).countP fun visit => decide (keep visit.job) := by
              rw [← List.map_take, List.countP_map]
              rfl
            simp only [Option.toList_some, List.foldl_cons, List.foldl_nil, Desk.move, hIndex,
              hHere]
            cases phase with
            | keys => exact hErased.receive hKeep _
            | child =>
                refine hErased.settle hKeep (fun username hUser => ?_) _
                exact (h.entries job username hKeep hUser).interchangeable
                  ⟨job, List.mem_of_getElem? hAt, hUser⟩
          · rw [if_neg hKeep]
            have hErased := h.erase_other hAt hKeep
            simp only [Option.toList_none, List.foldl_nil]
            cases phase with
            | keys => exact hErased.receive_other hApart hKeep _
            | child => exact hErased.settle_other hApart hKeep _

end Serving

end ServedAlike

end Desks

section Runs

variable {keep : Job → Prop} [DecidablePred keep] {d : Deployment} {earlier : List Delivery}

theorem run_alike
    (hApart : ∀ other kept username, ¬ keep other → keep kept →
      kept.endpoint.passwordUser = some username → other.endpoint.passwordUser ≠ some username)
    {replica : Replica} {desk' : Desk} (hSettling : ∀ p ∈ replica.waiting, Settling d p)
    (moves : List ReplicaMove)
    (h : ServedAlike keep d.settings.failedAuth earlier (deskOf replica) desk') :
    ServedAlike keep d.settings.failedAuth earlier
      (deskOf (replica.run (Job.task d) wait moves)) (desk'.run d (only keep d replica moves)) := by
  induction moves generalizing replica desk' with
  | nil => exact h
  | cons m rest ih =>
      have hMove := h.move hApart m
      have hJobs : (deskOf replica).visits.map Visit.job =
          replica.waiting.map Waiting.label := List.map_map
      rw [← move_refines replica m hSettling, hJobs] at hMove
      have hRest := ih (move_settling replica m hSettling) hMove
      rw [Desk.run, ← List.foldl_append] at hRest
      exact hRest

/-- The requests that bring a password of this user. -/
def BringsPassword (username : PyStr) (job : Job) : Prop :=
  job.endpoint.passwordUser = some username

instance (username : PyStr) : DecidablePred (BringsPassword username) := fun job =>
  inferInstanceAs (Decidable (job.endpoint.passwordUser = some username))

theorem bringsPassword_apart (username : PyStr) (other kept : Job) (user : PyStr)
    (hNot : ¬ BringsPassword username other) (hKeep : BringsPassword username kept)
    (hUser : kept.endpoint.passwordUser = some user) :
    other.endpoint.passwordUser ≠ some user := by
  obtain rfl := Option.some.inj (hKeep.symm.trans hUser)
  exact hNot

end Runs

/-- In every interleaving, requests that share no user's password with the
others are served as by the same schedule without the others: given the same
replies at the same times, key lists included, they get the same responses, and
leave the same behind. -/
theorem served_as_if_alone (d : Deployment) (keep : Job → Prop) [DecidablePred keep]
    (hApart : ∀ other kept username, ¬ keep other → keep kept →
      kept.endpoint.passwordUser = some username → other.endpoint.passwordUser ≠ some username)
    (now : ℚ) (moves : List ReplicaMove) :
    ServedAlike keep d.settings.failedAuth []
      (deskOf ((freshReplica now).run (Job.task d) wait moves))
      (deskOf ((freshReplica now).run (Job.task d) wait
        (only keep d (freshReplica now) moves))) := by
  have hNone : ∀ p ∈ (freshReplica now).waiting, Settling d p := fun p hp =>
    absurd hp List.not_mem_nil
  rw [run_refines _ (only keep d (freshReplica now) moves) hNone]
  exact run_alike hApart hNone moves
    ⟨rfl, rfl, rfl, fun _ _ _ _ => .inl .refl⟩

section Cases

/-- A request of another user. -/
def otherUserJob : Job :=
  ⟨sampleEnv, sampleRequest, .keytab ⟨py "hopper", py "secret"⟩⟩

/-- Two users' children run at once, and both passwords are bad. -/
def twoUsers : List ReplicaMove :=
  [.start (sampleJob sampleEnv), .start otherUserJob,
    .resume 1 (sampleReplies "kinit: Password incorrect"),
    .resume 0 (sampleReplies "kinit: Password incorrect"),
    .resume 0 (sampleReplies "kinit: Password incorrect"),
    .resume 0 (sampleReplies "kinit: Password incorrect")]

theorem two_users_alone :
    ServedAlike (BringsPassword (py "gstark")) sampleDeployment.settings.failedAuth []
      (deskOf ((freshReplica 0).run (Job.task sampleDeployment) wait twoUsers))
      (deskOf ((freshReplica 0).run (Job.task sampleDeployment) wait
        (only (BringsPassword (py "gstark")) sampleDeployment (freshReplica 0) twoUsers))) :=
  served_as_if_alone sampleDeployment (BringsPassword (py "gstark"))
    (bringsPassword_apart (py "gstark")) 0 twoUsers

end Cases

/-- What the limiter no longer holds against a user: nothing counts, or a
lockout has run out. -/
def Forgiven (limits : Limits) (now : ℚ) (entry : Entry) : Prop :=
  Lapsed now entry ∨
    entry.lockedUntil = none ∧ ∀ t ∈ entry.failureTimes, limits.windowSeconds ≤ now - t

/-- In every interleaving, once a user is forgiven and has no password request
on the replica, later ones are served, given the same replies at the same times,
as by a limiter that knows nobody, whatever others do. -/
theorem forgiven_as_new (d : Deployment) (username : PyStr) (now : ℚ) (moves : List ReplicaMove)
    {replica : Replica} (hReached : replica = (freshReplica now).run (Job.task d) wait moves)
    (hForgiven : Forgiven d.settings.failedAuth replica.state.now
      (replica.state.limiter username))
    (hNone : ∀ w ∈ replica.waiting, ¬ BringsPassword username w.label)
    (rest : List ReplicaMove) :
    ServedAlike (BringsPassword username) d.settings.failedAuth
      ((deskOf replica).answers.filter fun delivery =>
        decide (BringsPassword username delivery.job))
      (deskOf (replica.run (Job.task d) wait rest))
      (deskOf ((freshReplica replica.state.now).run (Job.task d) wait
        (only (BringsPassword username) d replica rest))) := by
  have hSettling : ∀ p ∈ replica.waiting, Settling d p := by
    rw [hReached]
    exact run_settling _ moves fun p hp => absurd hp List.not_mem_nil
  rw [run_refines (freshReplica replica.state.now) _ fun p hp => absurd hp List.not_mem_nil]
  refine run_alike (bringsPassword_apart username) hSettling rest ⟨rfl, ?_, rfl, ?_⟩
  · refine (List.filter_eq_nil_iff.mpr fun visit hVisit => ?_).symm
    obtain ⟨w, hw, rfl⟩ := List.mem_map.mp hVisit
    exact fun hMine => hNone w hw (of_decide_eq_true hMine)
  · intro kept user hKept hUser
    obtain rfl := Option.some.inj (hKept.symm.trans hUser)
    have hIdle : ¬ (deskOf replica).Busy username := by
      rintro ⟨job, hIn, hJob⟩
      obtain ⟨w, hw, hVisit⟩ := List.mem_map.mp hIn
      obtain rfl := congrArg Visit.job hVisit
      exact hNone w hw hJob
    obtain hLapsed | ⟨hLock, hFailures⟩ := hForgiven
    · exact .inr ⟨hIdle, hLapsed, .refl⟩
    · exact .inl (.of_idle hLock hFailures)

section Cases

/-- A bad password, and then more than a window of silence. -/
def silence : List ReplicaMove :=
  [.start (sampleJob sampleEnv), .resume 0 (sampleReplies "kinit: Password incorrect"),
    .resume 0 (sampleReplies "kinit: Password incorrect"), .outside ⟨1000, by norm_num⟩]

theorem silent_user_as_new :
    ServedAlike (BringsPassword (py "gstark")) sampleDeployment.settings.failedAuth
      ((deskOf ((freshReplica 0).run (Job.task sampleDeployment) wait silence)).answers.filter
        fun delivery => decide (BringsPassword (py "gstark") delivery.job))
      (deskOf (((freshReplica 0).run (Job.task sampleDeployment) wait silence).run
        (Job.task sampleDeployment) wait twoUsers))
      (deskOf ((freshReplica ((freshReplica 0).run (Job.task sampleDeployment) wait
          silence).state.now).run (Job.task sampleDeployment) wait
        (only (BringsPassword (py "gstark")) sampleDeployment
          ((freshReplica 0).run (Job.task sampleDeployment) wait silence) twoUsers))) := by
  refine forgiven_as_new sampleDeployment (py "gstark") 0 silence rfl (.inr ⟨rfl, ?_⟩) ?_ twoUsers
  · intro t hMem
    obtain rfl := List.mem_singleton.mp hMem
    decide +kernel
  · intro w hw
    cases hw

end Cases

end Krb5TokenService.Service
