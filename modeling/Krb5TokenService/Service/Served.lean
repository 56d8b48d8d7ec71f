import Krb5TokenService.Service.Follows

/-! The whole of one request, from its arrival to its response: the token, the
handler's plan and the framework's answer. -/
namespace Krb5TokenService.Service

open Python EventLoop EventLoop.Task Krb5TokenService.Action
open RateLimit Identity Minting

section Authentication

variable (jwt : PyJwt) (settings : Settings) (env : Env) (request : Request) {w : World}

/-- A request without a token is refused before any await. -/
theorem authenticate_gate_none (username : Option PyStr) (hNone : request.credentials = none)
    (Accepts : Caller → Prop) :
    Gate (authenticate jwt settings env request username) w
      (.error (.unauthorized (py "Not authenticated"))) Accepts w.limiter := by
  simp only [authenticate, hNone]
  exact ⟨_, _, rfl, rfl, rfl, rfl, by simp [Refusal.unauthorized]⟩

/-- With a token, the key list is awaited, and then decides. -/
theorem authenticate_awaits (username : Option PyStr) {token : PyStr}
    (hToken : request.credentials = some token) :
    ∃ next, (authenticate jwt settings env request username).advance w =
        (.waiting .jwks next, w) ∧
      ∀ (reply : JwksReply) (w₁ : World), Gate (next reply) w₁
        ((authentication jwt settings env request reply).map fun _ => ())
        (fun caller => authentication jwt settings env request reply = .ok caller) w₁.limiter := by
  simp only [authenticate, authentication, hToken]
  refine ⟨_, rfl, fun reply w₁ => ?_⟩
  cases reply with
  | unreachable => exact ⟨_, _, rfl, rfl, rfl, rfl, by simp [Refusal.failed]⟩
  | noLength => exact ⟨_, _, rfl, rfl, .rfl⟩
  | cancelled => exact ⟨_, _, rfl, rfl, .rfl⟩
  | keys keys =>
      change Gate (tryCatch (verifyWithKeys jwt settings keys token) _ >>= _) _ _ _ _
      unfold verifyWithKeys
      cases hVerdict : verdict jwt settings keys token with
      | accepted claims =>
          simp only [hVerdict, Except.map]
          exact ⟨_, w₁, rfl, rfl, .rfl⟩
      | rejected error =>
          simp only [hVerdict, Except.map]
          exact ⟨_, _, rfl, rfl, rfl, rfl, by simp [Refusal.unauthorized]⟩
      | escaped error =>
          simp only [hVerdict, Except.map]
          cases error <;> exact ⟨_, _, rfl, rfl, .rfl⟩

end Authentication

section Answers

/-- The response of a request, whichever way it ends. -/
def answerOf : Except Refusal Response → Response
  | .ok response => response
  | .error refusal => refusal.response

/-- A request that is answered within this stretch. -/
def Answers (task : Action Response) (w : World) (verdict : Except Refusal Response)
    (limiter : LimiterState) : Prop :=
  ∃ w', task.advance w = (.finished (.ok (answerOf verdict)), w') ∧
    Leaves limiter (audited verdict) w w'

/-- A request that is refused on the way to its child, or starts the child
and is then answered. -/
def Serves (task : Action Response) (w : World) (opening : Except Refusal Unit)
    (limiter : LimiterState) (closing : ChildReply → Except Refusal Response)
    (settled : ChildReply → World → LimiterState) : Prop :=
  match opening with
  | .error refusal => Answers task w (.error refusal) limiter
  | .ok () => ∃ spec next w', task.advance w = (.waiting (.child spec) next, w') ∧
      Leaves limiter none w w' ∧
      ∀ reply w₁, Answers (next reply) w₁ (closing reply) (settled reply w₁)

variable {α : Type} {handler : Action α} {w w' : World}

theorem advance_answered_finished (body : α → Body) {result : Except PyExc α}
    (h : handler.advance w = (.finished result, w')) :
    (serve.answered body handler).advance w = (.finished (.ok (respond body result)), w') := by
  rw [serve.answered, advance_tryCatch, map_eq_bind, advance_bind, h]
  cases result <;> rfl

theorem advance_answered_waiting (body : α → Body) {query : Query}
    {next : Reply query → Action α} (h : handler.advance w = (.waiting query next, w')) :
    (serve.answered body handler).advance w =
      (.waiting query fun reply => serve.answered body (next reply), w') := by
  rw [serve.answered, advance_tryCatch, map_eq_bind, advance_bind, h]
  rfl

def answer200 (body : α → Body) (value : α) : Response := ⟨200, body value, []⟩

theorem answerOf_map (body : α → Body) (verdict : Except Refusal α) :
    answerOf (verdict.map (answer200 body)) = responseOf body verdict := by
  cases verdict <;> rfl

theorem audited_map {β : Type} (f : α → β) (verdict : Except Refusal α) :
    audited (verdict.map f) = audited verdict := by
  cases verdict <;> rfl

theorem Ends.answered {verdict : Except Refusal α} {limiter : LimiterState}
    (h : Ends handler w verdict limiter) (body : α → Body) :
    Answers (serve.answered body handler) w (verdict.map (answer200 body)) limiter := by
  obtain ⟨result, w', hAdvance, hAgrees, hLeaves⟩ := h
  refine ⟨w', ?_, (audited_map (answer200 body) verdict).symm ▸ hLeaves⟩
  rw [advance_answered_finished body hAdvance, hAgrees.respond body, answerOf_map]

theorem Conducts.answered {opening : Except Refusal Unit} {limiter : LimiterState}
    {closing : ChildReply → Except Refusal α} {settled : ChildReply → World → LimiterState}
    (h : Conducts handler w opening limiter closing settled) (body : α → Body) :
    Serves (serve.answered body handler) w opening limiter
      (fun reply => (closing reply).map (answer200 body)) settled := by
  cases opening with
  | error refusal => exact Ends.answered h body
  | ok _ =>
      obtain ⟨spec, next, w', hAdvance, hLeaves, hClosing⟩ := h
      exact ⟨spec, _, w', advance_answered_waiting body hAdvance, hLeaves,
        fun reply w₁ => (hClosing reply w₁).answered body⟩

end Answers

/-- What is deployed: the settings, PyJWT and libkrb5. -/
structure Deployment where
  jwt : PyJwt
  settings : Settings
  krb5 : Krb5

/-- One POST, with what the operating system decides for it. -/
structure Job where
  env : Env
  request : Request
  endpoint : Endpoint

namespace Job

variable (d : Deployment) (job : Job)

def task : Action Response := serve d.jwt d.settings d.krb5 job.env job.request job.endpoint

def plan : Plan Response :=
  match job.endpoint with
  | .mint body => (mintPlan d.settings d.krb5 job.env body).map (answer200 .minted)
  | .renew body => (renewPlan d.settings d.krb5 job.env body).map (answer200 .minted)
  | .keytab body => (keytabPlan d.settings job.env body).map (answer200 .keytab)

def authentication (reply : JwksReply) : Except Refusal Caller :=
  Service.authentication d.jwt d.settings job.env job.request reply

/-- What happens between the key list and the child. -/
def opening (reply : JwksReply) (w : World) : Except Refusal Unit := do
  let _ ← job.authentication d reply
  (job.plan d).opening ((job.plan d).allowed w)

/-- A request that gets as far as its child is authenticated, and passes its
plan's opening. -/
theorem opening_ok {reply : JwksReply} {w : World} (h : job.opening d reply w = .ok ()) :
    (∃ caller, job.authentication d reply = .ok caller) ∧
      (job.plan d).opening ((job.plan d).allowed w) = .ok () := by
  unfold opening at h
  cases hCaller : job.authentication d reply with
  | error refusal => simp [hCaller, bind, Except.bind] at h
  | ok caller =>
      rw [hCaller] at h
      exact ⟨⟨caller, rfl⟩, h⟩

/-- The limiter once the key list is there and the child is not yet started. -/
def checked (reply : JwksReply) (w : World) : LimiterState :=
  match job.authentication d reply with
  | .error _ => w.limiter
  | .ok _ => (job.plan d).checked w

theorem answers_of_none (hNone : job.request.credentials = none) (w : World) :
    Answers (job.task d) w (.error (.unauthorized (py "Not authenticated"))) w.limiter := by
  have hRefused {α : Type} (username : Option PyStr) (rest : Caller → Action α) :
      Ends (authenticate d.jwt d.settings job.env job.request username >>= rest) w
        (.error (.unauthorized (py "Not authenticated"))) w.limiter := by
    obtain ⟨exc, w', hAdvance, hResponse, hLeaves⟩ := authenticate_gate_none (w := w) d.jwt
      d.settings job.env job.request username hNone fun _ => True
    exact ⟨.error exc, w', advance_bind_error hAdvance, hResponse, hLeaves⟩
  unfold task serve
  cases job.endpoint with
  | mint body => exact (hRefused (some body.username) _).answered Body.minted
  | renew body => exact (hRefused none _).answered Body.minted
  | keytab body => exact (hRefused (some body.username) _).answered Body.keytab

theorem handler_serves {α : Type} (username : Option PyStr) {rest : Caller → Action α}
    {handlerPlan : Plan α} (hFollows : ∀ caller, Follows d.settings (rest caller) handlerPlan)
    (body : α → Body) {token : PyStr} (hToken : job.request.credentials = some token)
    (w : World) :
    ∃ next, (serve.answered body
        (authenticate d.jwt d.settings job.env job.request username >>= rest)).advance w =
          (.waiting .jwks next, w) ∧
      ∀ (reply : JwksReply) (w₁ : World), Serves (next reply) w₁
        (do let _ ← job.authentication d reply; handlerPlan.opening (handlerPlan.allowed w₁))
        (match job.authentication d reply with
        | .error _ => w₁.limiter
        | .ok _ => handlerPlan.checked w₁)
        (handlerPlan.map (answer200 body)).closing
        fun reply => handlerPlan.settled d.settings.failedAuth (handlerPlan.ending reply) := by
  obtain ⟨next, hAdvance, hGate⟩ := authenticate_awaits (w := w) d.jwt d.settings job.env
    job.request username hToken
  refine ⟨_, advance_answered_waiting body (advance_bind_waiting hAdvance), fun reply w₁ => ?_⟩
  refine Conducts.answered ?_ body
  have hAuthentication := hGate reply w₁
  change Gate _ _ ((job.authentication d reply).map _) (fun caller =>
    job.authentication d reply = .ok caller) _ at hAuthentication
  cases hCaller : job.authentication d reply with
  | error refusal =>
      rw [hCaller] at hAuthentication
      obtain ⟨exc, w', hEnd, hResponse, hLeaves⟩ := hAuthentication
      exact ⟨.error exc, w', advance_bind_error hEnd, hResponse, hLeaves⟩
  | ok caller =>
      rw [hCaller] at hAuthentication
      obtain ⟨caller', w', hEnd, _, hLeaves⟩ := hAuthentication
      refine Conducts.of_bind hEnd hLeaves ?_
      have hRest := hFollows caller' w'
      rw [Plan.allowed_congr hLeaves.limiter hLeaves.now,
        Plan.checked_congr hLeaves.limiter hLeaves.now] at hRest
      exact hRest

/-- A request with a token awaits the key list, and then serves as its plan
says, whatever state it finds. -/
theorem serves {token : PyStr} (hToken : job.request.credentials = some token) (w : World) :
    ∃ next, (job.task d).advance w = (.waiting .jwks next, w) ∧
      ∀ (reply : JwksReply) (w₁ : World), Serves (next reply) w₁ (job.opening d reply w₁)
        (job.checked d reply w₁) (job.plan d).closing
        fun reply => (job.plan d).settled d.settings.failedAuth ((job.plan d).ending reply) := by
  unfold task serve opening checked plan
  cases job.endpoint with
  | mint body =>
      exact job.handler_serves d (some body.username)
        (fun caller => mintFor_follows d.settings d.krb5 job.env caller body) Body.minted hToken w
  | renew body =>
      exact job.handler_serves d none
        (fun caller => renewFor_follows d.settings d.krb5 job.env caller body) Body.minted hToken w
  | keytab body =>
      exact job.handler_serves d (some body.username)
        (fun caller => keytabFor_follows d.settings job.env caller body) Body.keytab hToken w

end Job

end Krb5TokenService.Service
