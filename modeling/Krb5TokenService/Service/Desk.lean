import Krb5TokenService.Service.Replica
import Krb5TokenService.Service.Started

/-! What a replica is for, without tasks, memory and files: requests wait for
the key list and then for their child, a limiter stands between the two, and
each is answered as its plan says. -/
namespace Krb5TokenService.Service

open Python EventLoop EventLoop.Task
open RateLimit Identity Minting

section Underway

variable (d : Deployment)

/-- Where a waiting request stands: at its first await, or at its own child,
whose end decides the rest. -/
def Underway : ReplicaWaiting → Prop
  | ⟨job, .jwks, next⟩ => job.task d = .await .jwks next
  | ⟨job, .child spec, next⟩ =>
      spec = job.childSpec d ∧ ∃ (caller : Caller) (reply : JwksReply),
        job.authentication d reply = .ok caller ∧
          ∀ (reply : ChildReply) (w : World),
            (next reply).Records World.log w (job.record d caller reply)

variable {d} {job : Job} {w : World}

theorem task_of_credentials {token : PyStr} (hToken : job.request.credentials = some token) :
    ∃ next, job.task d = .await .jwks next := by
  unfold Job.task serve mint renew keytab authenticate
  rw [hToken]
  cases job.endpoint <;> exact ⟨_, rfl⟩

theorem credentials_of_task {next : JwksReply → Action Response}
    (hTask : job.task d = .await .jwks next) : job.request.credentials ≠ none := by
  intro hNone
  obtain ⟨w', hAdvance, -⟩ := job.answers_of_none d hNone ⟨fun _ => none, 0, [], [], fun _ => none⟩
  rw [hTask] at hAdvance
  cases hAdvance

theorem start_underway (job : Job) (w : World) :
    Loop.TurnsInto (Underway d) job ((job.task d).advance w).1 := by
  cases hToken : job.request.credentials with
  | none =>
      obtain ⟨w', hAdvance, -⟩ := job.answers_of_none d hToken w
      rw [hAdvance]
      trivial
  | some token =>
      obtain ⟨next, hTask⟩ := task_of_credentials (d := d) hToken
      rw [hTask]
      exact hTask

/-- A request whose key list lets it pass starts its own child. -/
theorem child_underway {next : JwksReply → Action Response} {reply : JwksReply}
    (hTask : job.task d = .await .jwks next) (hOpening : job.opening d reply w = .ok ()) :
    ∃ caller next' w', job.authentication d reply = .ok caller ∧
      (next reply).advance w = (.waiting (.child (job.childSpec d)) next', w') ∧
      ∀ (reply : ChildReply) (w : World),
        (next' reply).Records World.log w (job.record d caller reply) := by
  obtain ⟨token, hToken⟩ := Option.ne_none_iff_exists'.mp (credentials_of_task hTask)
  let o : Outside := ⟨reply, .cancelled, fun _ => w.now, fun _ => w.limiter⟩
  have hOutset : job.outset d o w = .ok () := by
    rw [Job.outset, hToken]
    exact hOpening
  obtain ⟨caller, next', hCaller, hAdvance, next'', w', hWait, -, hRecords⟩ :=
    Job.task_pauses hOutset
  rw [hTask] at hAdvance
  cases hAdvance
  exact ⟨caller, next'', w', hCaller, hWait, hRecords⟩

theorem next_underway (p : ReplicaWaiting) (reply : Reply p.query) (w : World)
    (h : Underway d p) : Loop.TurnsInto (Underway d) p.label ((p.next reply).advance w).1 := by
  obtain ⟨job, query, next⟩ := p
  cases query with
  | jwks =>
      cases hOpening : job.opening d reply w with
      | error refusal =>
          obtain ⟨token, hToken⟩ := Option.ne_none_iff_exists'.mp (credentials_of_task h)
          obtain ⟨next', hAdvance, hServes⟩ := job.serves d hToken w
          have hServe := hServes reply w
          rw [hOpening] at hServe
          obtain ⟨w', hEnd, -⟩ := hServe
          rw [show job.task d = .await .jwks next from h] at hAdvance
          cases hAdvance
          rw [hEnd]
          trivial
      | ok _ =>
          obtain ⟨caller, next', w', hCaller, hWait, hRecords⟩ := child_underway h hOpening
          rw [hWait]
          exact ⟨rfl, caller, reply, hCaller, hRecords⟩
  | child spec =>
      obtain ⟨-, caller, -, -, hRecords⟩ := h
      obtain ⟨w', hEnd, -⟩ := hRecords reply w
      rw [hEnd]
      trivial

theorem move_underway (replica : Replica) (m : ReplicaMove)
    (h : ∀ p ∈ replica.waiting, Underway d p) :
    ∀ p ∈ (replica.move (Job.task d) wait m).waiting, Underway d p :=
  Loop.move_waiting start_underway next_underway m h

end Underway

/-- What a waiting request waits for. -/
inductive Phase where
  | keys
  | child
deriving DecidableEq

/-- A request that has come and is not yet answered. -/
structure Visit where
  job : Job
  phase : Phase

/-- A request that has been answered, and when. -/
structure Delivery where
  job : Job
  time : ℚ
  response : Response

/-- The limiter, the clock, the requests that wait, the answers so far, newest
first, and the outcomes that have been audited, oldest first. -/
structure Desk where
  limiter : LimiterState
  now : ℚ
  visits : List Visit
  answers : List Delivery
  audits : List Outcome

namespace Desk

variable (d : Deployment) (desk : Desk)

def idle (now : ℚ) : Desk := ⟨fun _ => none, now, [], [], []⟩

/-- All that a plan sees of a replica's state. -/
def world : World := ⟨desk.limiter, desk.now, [], [], fun _ => none⟩

def answer (job : Job) (verdict : Except Refusal Response) : Desk :=
  { desk with
    answers := ⟨job, desk.now, answerOf verdict⟩ :: desk.answers
    audits := desk.audits ++ (audited verdict).toList }

/-- The key list is there: the request is refused, or starts its child. -/
def receive (job : Job) (reply : JwksReply) : Desk :=
  match job.opening d reply desk.world with
  | .error refusal =>
      { desk with limiter := job.checked d reply desk.world }.answer job (.error refusal)
  | .ok () =>
      { desk with
        limiter := job.checked d reply desk.world
        visits := desk.visits ++ [⟨job, .child⟩] }

/-- The child has ended: the limiter hears of it, and the request is answered. -/
def settle (job : Job) (reply : ChildReply) : Desk :=
  { desk with
    limiter := (job.plan d).settled d.settings.failedAuth ((job.plan d).ending reply)
      desk.world }.answer job ((job.plan d).closing reply)

def move (desk : Desk) : ReplicaMove → Desk
  | .outside delay => { desk with now := desk.now + delay }
  | .start job =>
      match job.request.credentials with
      | none => desk.answer job (.error (.unauthorized (py "Not authenticated")))
      | some _ => { desk with visits := desk.visits ++ [⟨job, .keys⟩] }
  | .resume index reply =>
      match desk.visits[index]? with
      | none => desk
      | some ⟨job, .keys⟩ =>
          { desk with visits := desk.visits.eraseIdx index }.receive d job (reply .jwks)
      | some ⟨job, .child⟩ =>
          { desk with visits := desk.visits.eraseIdx index }.settle d job
            (reply (.child (job.childSpec d)))

def run (desk : Desk) (moves : List ReplicaMove) : Desk := moves.foldl (move d) desk

end Desk

section Refinement

variable {d : Deployment}

def visitOf (w : ReplicaWaiting) : Visit where
  job := w.label
  phase :=
    match w.query with
    | .jwks => .keys
    | .child _ => .child

def deliveryOf (s : ReplicaStretch) : Option Delivery :=
  match s.ended with
  | some (.ok response) => some ⟨s.label, s.found.now, response⟩
  | _ => none

theorem delivery_none (job : Job) (cause : Option ((query : Query) × Reply query)) (w : World)
    (older : List ReplicaStretch) :
    (⟨job, cause, w, none⟩ :: older).filterMap deliveryOf = older.filterMap deliveryOf := rfl

/-- A replica without all that its users do not see. -/
def deskOf (replica : Replica) : Desk where
  limiter := replica.state.limiter
  now := replica.state.now
  visits := replica.waiting.map visitOf
  answers := replica.trace.filterMap deliveryOf
  audits := audits replica.state.log

/-- Both what a waiting request does to the limiter, and which child it runs. -/
def Settling (d : Deployment) (w : ReplicaWaiting) : Prop := Conducted d w ∧ Underway d w

theorem move_settling (replica : Replica) (m : ReplicaMove)
    (h : ∀ p ∈ replica.waiting, Settling d p) :
    ∀ p ∈ (replica.move (Job.task d) wait m).waiting, Settling d p := fun p hp =>
  ⟨move_conducted replica m (fun q hq => (h q hq).1) p hp,
    move_underway replica m (fun q hq => (h q hq).2) p hp⟩

theorem opening_congr {job : Job} {reply : JwksReply} {w w' : World}
    (hLimiter : w'.limiter = w.limiter) (hNow : w'.now = w.now) :
    job.opening d reply w' = job.opening d reply w := by
  rw [Job.opening, Job.opening, Plan.allowed_congr hLimiter hNow]

theorem checked_congr {job : Job} {reply : JwksReply} {w w' : World}
    (hLimiter : w'.limiter = w.limiter) (hNow : w'.now = w.now) :
    job.checked d reply w' = job.checked d reply w := by
  rw [Job.checked, Job.checked, Plan.checked_congr hLimiter hNow, hLimiter]

/-- A stretch that begins with this key list does to the replica what the desk
does. -/
theorem receive_refines {replica : Replica} {job : Job} {next : JwksReply → Action Response}
    {reply : JwksReply} (h : Settling d ⟨job, .jwks, next⟩) :
    deskOf (replica.place job (some ⟨.jwks, reply⟩) ((next reply).advance replica.state)) =
      (deskOf replica).receive d job reply := by
  have hOpens : job.opening d reply (deskOf replica).world = job.opening d reply replica.state :=
    opening_congr rfl rfl
  have hChecks : job.checked d reply (deskOf replica).world = job.checked d reply replica.state :=
    checked_congr rfl rfl
  have hServe := h.1 reply replica.state
  unfold Desk.receive
  rw [hOpens, hChecks]
  cases hOpening : job.opening d reply replica.state with
  | error refusal =>
      rw [hOpening] at hServe
      obtain ⟨w', hAdvance, hLeaves⟩ := hServe
      rw [hAdvance]
      simp [deskOf, Desk.answer, Loop.place, hLeaves.limiter, hLeaves.now, hLeaves.audits,
        deliveryOf, answerOf]
  | ok _ =>
      rw [hOpening] at hServe
      obtain ⟨spec, next', w', hAdvance, hLeaves, -⟩ := hServe
      rw [hAdvance]
      simp [deskOf, Loop.place, hLeaves.limiter, hLeaves.now, hLeaves.audits, visitOf,
        delivery_none]

theorem settle_refines {replica : Replica} {job : Job} {spec : ChildSpec}
    {next : ChildReply → Action Response} {reply : ChildReply}
    (h : Settling d ⟨job, .child spec, next⟩) :
    deskOf (replica.place job (some ⟨.child spec, reply⟩) ((next reply).advance replica.state)) =
      (deskOf replica).settle d job reply := by
  have hSettles : (job.plan d).settled d.settings.failedAuth ((job.plan d).ending reply)
        (deskOf replica).world =
      (job.plan d).settled d.settings.failedAuth ((job.plan d).ending reply) replica.state :=
    Plan.settled_congr _ rfl rfl _
  obtain ⟨w', hAdvance, hLeaves⟩ := h.1.2 reply replica.state
  unfold Desk.settle
  rw [hSettles, hAdvance]
  simp [deskOf, Desk.answer, Loop.place, hLeaves.limiter, hLeaves.now, hLeaves.audits, deliveryOf]

/-- A move of the replica is the same move of the desk. -/
theorem move_refines (replica : Replica) (m : ReplicaMove)
    (h : ∀ p ∈ replica.waiting, Settling d p) :
    deskOf (replica.move (Job.task d) wait m) = (deskOf replica).move d m := by
  cases m with
  | outside delay => rfl
  | start job =>
      simp only [Loop.move, Desk.move]
      cases hToken : job.request.credentials with
      | none =>
          obtain ⟨w', hAdvance, hLeaves⟩ := job.answers_of_none d hToken replica.state
          rw [hAdvance]
          simp [deskOf, Desk.answer, Loop.place, hLeaves.limiter, hLeaves.now, hLeaves.audits,
            deliveryOf, answerOf]
      | some token =>
          obtain ⟨next, hTask⟩ := task_of_credentials (d := d) hToken
          rw [hTask]
          simp [deskOf, Loop.place, Task.advance, visitOf, delivery_none]
  | resume index reply =>
      simp only [Loop.move, Desk.move]
      have hVisit : (deskOf replica).visits[index]? = replica.waiting[index]?.map visitOf :=
        List.getElem?_map ..
      rw [hVisit]
      cases hIndex : replica.waiting[index]? with
      | none => rfl
      | some p =>
          have hHere := h p (List.mem_of_getElem? hIndex)
          have hLeft : (replica.waiting.eraseIdx index).map visitOf =
              (deskOf replica).visits.eraseIdx index := (List.eraseIdx_map ..).symm
          obtain ⟨job, query, next⟩ := p
          cases query with
          | jwks =>
              refine (receive_refines hHere).trans ?_
              simp only [deskOf, hLeft]
              rfl
          | child spec =>
              obtain rfl : spec = job.childSpec d := hHere.2.1
              refine (settle_refines hHere).trans ?_
              simp only [deskOf, hLeft]
              rfl

theorem run_settling (replica : Replica) (moves : List ReplicaMove)
    (h : ∀ p ∈ replica.waiting, Settling d p) :
    ∀ p ∈ (replica.run (Job.task d) wait moves).waiting, Settling d p := by
  induction moves generalizing replica with
  | nil => exact h
  | cons m rest ih => exact ih _ (move_settling replica m h)

theorem run_refines (replica : Replica) (moves : List ReplicaMove)
    (h : ∀ p ∈ replica.waiting, Settling d p) :
    deskOf (replica.run (Job.task d) wait moves) = (deskOf replica).run d moves := by
  induction moves generalizing replica with
  | nil => rfl
  | cons m rest ih =>
      refine (ih _ (move_settling replica m h)).trans ?_
      rw [move_refines replica m h]
      rfl

/-- Any schedule of requests does to a replica, as far as its users see, what
it does to the desk. -/
theorem replica_refines_desk (d : Deployment) (now : ℚ) (moves : List ReplicaMove) :
    deskOf ((freshReplica now).run (Job.task d) wait moves) = (Desk.idle now).run d moves :=
  run_refines (freshReplica now) moves fun _ hp => absurd hp List.not_mem_nil

end Refinement

end Krb5TokenService.Service
