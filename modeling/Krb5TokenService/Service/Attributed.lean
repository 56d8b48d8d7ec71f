import Krb5TokenService.Minting.Harmless
import Krb5TokenService.Service.Served

/-! The audit lines of a handler speak of its own request: of its id, its
username, and of the subject its token names. -/
namespace Krb5TokenService.Service

open Python Python.Base64 EventLoop EventLoop.Task Krb5TokenService.Action
open RateLimit Identity Minting

/-- The audit lines of a log, in order. -/
def auditLines (log : List LogEvent) : List LogEvent :=
  log.filter fun event => event.outcome?.isSome

theorem auditLines_append (first second : List LogEvent) :
    auditLines (first ++ second) = auditLines first ++ auditLines second := List.filter_append ..

/-- The outcomes of a log are those of its audit lines. -/
theorem audits_eq_outcomes (log : List LogEvent) :
    audits log = (auditLines log).filterMap LogEvent.outcome? := by
  rw [audits, auditLines, List.filterMap_filter]
  refine List.filterMap_congr fun event _ => ?_
  cases event.outcome? <;> rfl

/-- The username that a body names, if its endpoint takes one. -/
def Endpoint.username : Endpoint → Option PyStr
  | .mint body => some body.username
  | .renew _ => none
  | .keytab body => some body.username

def Job.requestId (job : Job) : PyStr := orDefault job.request.xRequestId job.env.uuid

section Attribution

variable (d : Deployment) (job : Job) (heard : JwksReply → Prop)

/-- The subject and the `jti` of an audit line: of no one, of a token that did
not verify, or of the caller, under a key list that the request has been
given. -/
inductive Names : LogValue → Option PyStr → Prop
  | nobody (hToken : job.request.credentials = none) : Names .none none
  | unverified {token : PyStr} {reply : JwksReply} {refusal : Refusal}
      (hHeard : heard reply) (hToken : job.request.credentials = some token)
      (hRefused : job.authentication d reply = .error refusal) : Names (peekSub d.jwt token) none
  | caller {caller : Caller} {reply : JwksReply} (hHeard : heard reply)
      (hCaller : job.authentication d reply = .ok caller) :
      Names (.str caller.claims.sub) caller.claims.jti

/-- A line that speaks of this request. -/
def Attributed : LogEvent → Prop
  | .audit subject username principal jti outcome requestId =>
      Names d job heard subject jti ∧ (username = none ∨ username = job.endpoint.username) ∧
        (outcome ≠ .issued → principal = none) ∧ requestId = job.requestId
  | .line .. => False

/-- The new audit lines speak of this request. -/
def Speaks (w w' : World) : Prop :=
  ∃ said, auditLines w'.log = auditLines w.log ++ said ∧
    ∀ event ∈ said, Attributed d job heard event

/-- The lines after the first await speak of the key list that it brought. -/
def SpeaksOf : (query : Query) → Reply query → World → World → Prop
  | .jwks, keys => Speaks d job (Eq keys)
  | .child _, _ => fun _ _ => True

variable {d job heard} {w w' : World}

/-- To have been given more key lists takes nothing back. -/
theorem Names.mono {heard' : JwksReply → Prop} (hMono : ∀ reply, heard reply → heard' reply)
    {subject : LogValue} {jti : Option PyStr} (h : Names d job heard subject jti) :
    Names d job heard' subject jti := by
  cases h with
  | nobody hToken => exact .nobody hToken
  | unverified hHeard hToken hRefused => exact .unverified (hMono _ hHeard) hToken hRefused
  | caller hHeard hCaller => exact .caller (hMono _ hHeard) hCaller

theorem Speaks.mono {heard' : JwksReply → Prop} (hMono : ∀ reply, heard reply → heard' reply)
    (h : Speaks d job heard w w') : Speaks d job heard' w w' := by
  obtain ⟨said, hLog, hSaid⟩ := h
  refine ⟨said, hLog, fun event hIn => ?_⟩
  have hEvent := hSaid event hIn
  cases event with
  | line level name fields => exact hEvent
  | audit => exact ⟨hEvent.1.mono hMono, hEvent.2⟩

/-- Nothing that is audited. -/
theorem speaks_of_lines (h : auditLines w'.log = auditLines w.log) : Speaks d job heard w w' :=
  ⟨[], by rw [h, List.append_nil], fun _ hIn => absurd hIn List.not_mem_nil⟩

instance speaksPreorder : IsPreorder World (Speaks d job heard) where
  refl _ := speaks_of_lines rfl
  trans := by
    rintro w₁ w₂ w₃ ⟨said, hLog, hSaid⟩ ⟨said', hLog', hSaid'⟩
    refine ⟨said ++ said', by rw [hLog', hLog, List.append_assoc], fun event hIn => ?_⟩
    exact (List.mem_append.mp hIn).elim (hSaid event) (hSaid' event)

/-- The minting operations write no audit lines. -/
theorem speaks_harmless : Harmless (Speaks d job heard) where
  refl _ := speaks_of_lines rfl
  alloc _ _ := speaks_of_lines rfl
  update _ _ _ _ := speaks_of_lines rfl
  files _ _ := speaks_of_lines rfl
  line w level event fields := speaks_of_lines (by simp [auditLines, LogEvent.outcome?])

/-- One call of `_audit` with what belongs to this request. -/
theorem speaks_audit {subject : LogValue} {username principal jti : Option PyStr}
    {outcome : Outcome} (hNames : Names d job heard subject jti)
    (hUser : username = none ∨ username = job.endpoint.username)
    (hPrincipal : outcome ≠ .issued → principal = none) (w : World) :
    Speaks d job heard w
      { w with log := w.log ++ [.audit subject username principal jti outcome job.requestId] } := by
  refine ⟨[.audit subject username principal jti outcome job.requestId], ?_, fun event hIn => ?_⟩
  · rw [auditLines_append]
    rfl
  · obtain rfl := List.mem_singleton.mp hIn
    exact ⟨hNames, hUser, hPrincipal, rfl⟩

/-- The request id of a caller is the header's, or the fresh one. -/
theorem requestId_of_authentication {reply : JwksReply} {caller : Caller}
    (h : job.authentication d reply = .ok caller) : caller.requestId = job.requestId := by
  unfold Job.authentication authentication at h
  split at h
  · cases h
  · split at h
    · split at h
      · obtain rfl := Except.ok.inj h
        rfl
      · cases h
      · cases h
    · cases h
    · cases h
    · cases h

end Attribution

section Handlers

variable {α : Type} {d : Deployment} {job : Job} {heard : JwksReply → Prop}

/-- Building the secret's buffer says nothing. -/
theorem speaks_passwordBuffer (password : PyStr) :
    (passwordBuffer password).Keeps (Speaks d job heard) := by
  unfold passwordBuffer
  cases password.encode with
  | none => exact keeps_throw _
  | some bytes => exact speaks_harmless.keeps_newBytearray bytes

variable {reply : JwksReply} {caller : Caller} (hHeard : heard reply)
    (hCaller : job.authentication d reply = .ok caller)

include hHeard hCaller

/-- A refusal says who asked, and for whom at most. -/
theorem speaks_callerRefuse {username : Option PyStr}
    (hUser : username = none ∨ username = job.endpoint.username) (outcome : Outcome) (status : Nat)
    (detail : PyStr) :
    (caller.refuse username outcome status detail : Action α).Keeps (Speaks d job heard) := by
  refine Keeps.bind (keeps_modify fun w => ?_) fun _ => keeps_throw _
  rw [requestId_of_authentication hCaller]
  exact speaks_audit (.caller hHeard hCaller) hUser (fun _ => rfl) w

/-- A credential is issued under the caller and the principal. -/
theorem speaks_issue {username : Option PyStr} (hUser : username = job.endpoint.username)
    (principal : PyStr) : (caller.issue username principal).Keeps (Speaks d job heard) := by
  refine keeps_modify fun w => ?_
  rw [requestId_of_authentication hCaller]
  exact speaks_audit (.caller hHeard hCaller) (.inr hUser) (fun h => absurd rfl h) w

/-- A username that is refused is not repeated in the log. -/
theorem speaks_checkUsername (username : PyStr) :
    (checkUsername caller username).Keeps (Speaks d job heard) := by
  refine (keeps_ofExcept _).tryCatch fun exc => ?_
  cases exc with
  | invalidUsername value => exact speaks_callerRefuse hHeard hCaller (.inl rfl) _ _ _
  | _ => exact keeps_throw _

variable {username : PyStr} (hUser : some username = job.endpoint.username)

include hUser

theorem speaks_checkLifetimes (lifetime renewableLifetime : PyStr) :
    (checkLifetimes caller username lifetime renewableLifetime).Keeps (Speaks d job heard) := by
  refine Keeps.tryCatch ((keeps_ofExcept _).bind fun _ => keeps_ofExcept _) fun exc => ?_
  cases exc with
  | invalidLifetime value => exact speaks_callerRefuse hHeard hCaller (.inr hUser) _ _ _
  | _ => exact keeps_throw _

/-- A locked account is named in its line. -/
theorem speaks_checkAllowed : (checkAllowed caller username).Keeps (Speaks d job heard) := by
  have hCheck : (checkLimiter username).Keeps (Speaks d job heard) := fun w =>
    ⟨speaks_of_lines rfl, keeps_ofExcept _⟩
  refine hCheck.tryCatch fun exc => ?_
  cases exc with
  | rateLimited error => exact speaks_callerRefuse hHeard hCaller (.inr hUser) _ _ _
  | _ => exact keeps_throw _

/-- The except clauses of `mint` name the same caller and username. -/
theorem speaks_mintFailure (exc : PyExc) :
    (mintFailure d.settings caller username exc).Keeps (Speaks d job heard) := by
  cases exc with
  | badPassword message =>
      exact (keeps_modify fun w => speaks_of_lines rfl).bind fun _ =>
        speaks_callerRefuse hHeard hCaller (.inr hUser) _ _ _
  | badKeytab | unknownPrincipal | accountUnusable | minting =>
      exact speaks_callerRefuse hHeard hCaller (.inr hUser) _ _ _
  | _ => exact keeps_throw _

theorem speaks_keytabFailure (exc : PyExc) :
    (keytabFailure d.settings caller username exc).Keeps (Speaks d job heard) := by
  cases exc with
  | badPassword message =>
      exact (keeps_modify fun w => speaks_of_lines rfl).bind fun _ =>
        speaks_callerRefuse hHeard hCaller (.inr hUser) _ _ _
  | minting => exact speaks_callerRefuse hHeard hCaller (.inr hUser) _ _ _
  | _ => exact keeps_throw _

omit hUser

/-- `mint` once it knows its caller. -/
theorem speaks_mintFor {body : MintRequest} (hEndpoint : job.endpoint = .mint body) :
    (mintFor d.settings d.krb5 job.env body caller).Keeps (Speaks d job heard) := by
  have hUser : some body.username = job.endpoint.username := by rw [hEndpoint]; rfl
  refine (speaks_checkUsername hHeard hCaller _).bind fun _ =>
    (speaks_checkLifetimes hHeard hCaller hUser _ _).bind fun _ => Keeps.bind ?_ fun credential =>
      Keeps.bind ((speaks_harmless.keeps_mintTicket ..).tryCatch
        (speaks_mintFailure hHeard hCaller hUser)) fun minted => ?_
  · unfold mintCredential
    cases body.password with
    | some password =>
        exact (speaks_checkAllowed hHeard hCaller hUser).bind fun _ =>
          (speaks_passwordBuffer password).bind fun _ => keeps_pure _
    | none =>
        cases b64decode (body.keytabB64.getD []) with
        | none => exact speaks_callerRefuse hHeard hCaller (.inr hUser) _ _ _
        | some bytes =>
            exact (speaks_harmless.keeps_newBytearray bytes).bind fun _ => keeps_pure _
  · unfold mintSuccess
    split
    · exact (keeps_modify fun w => speaks_of_lines rfl).bind fun _ =>
        (speaks_issue hHeard hCaller hUser _).bind fun _ => keeps_pure _
    · exact (keeps_pure ()).bind fun _ =>
        (speaks_issue hHeard hCaller hUser _).bind fun _ => keeps_pure _

/-- `renew` names no username. -/
theorem speaks_renewFor {body : RenewRequest} (hEndpoint : job.endpoint = .renew body) :
    (renewFor d.settings d.krb5 job.env body caller).Keeps (Speaks d job heard) := by
  have hUser : none = job.endpoint.username := by rw [hEndpoint]; rfl
  refine Keeps.bind ?_ fun ccache => Keeps.bind
    ((speaks_harmless.keeps_renewTicket ..).tryCatch fun exc => ?_) fun minted =>
      (speaks_issue hHeard hCaller hUser _).bind fun _ => keeps_pure _
  · unfold renewCcache
    cases b64decode body.ccacheB64 with
    | none => exact speaks_callerRefuse hHeard hCaller (.inl rfl) _ _ _
    | some bytes => exact keeps_pure bytes
  · cases exc with
    | ccacheParse | ticketExpired | minting =>
        exact speaks_callerRefuse hHeard hCaller (.inl rfl) _ _ _
    | _ => exact keeps_throw _

/-- `keytab` once it knows its caller. -/
theorem speaks_keytabFor {body : KeytabRequest} (hEndpoint : job.endpoint = .keytab body) :
    (keytabFor d.settings job.env body caller).Keeps (Speaks d job heard) := by
  have hUser : some body.username = job.endpoint.username := by rw [hEndpoint]; rfl
  refine (speaks_checkUsername hHeard hCaller _).bind fun _ =>
    (speaks_checkAllowed hHeard hCaller hUser).bind fun _ =>
      (speaks_passwordBuffer _).bind fun _ =>
        Keeps.bind ((speaks_harmless.keeps_mintKeytab ..).tryCatch
          (speaks_keytabFailure hHeard hCaller hUser)) fun keytab => ?_
  exact (keeps_modify fun w => speaks_of_lines rfl).bind fun _ =>
    (speaks_issue hHeard hCaller hUser _).bind fun _ => keeps_pure _

end Handlers

section Requests

variable {α : Type} {d : Deployment} {job : Job}

/-- What every handler says before it knows its caller, and what it goes on
with. -/
theorem speaks_authenticate {username : Option PyStr}
    (hUser : username = job.endpoint.username) {rest : Caller → Action α}
    (hRest : ∀ reply caller, job.authentication d reply = .ok caller →
      (rest caller).Keeps (Speaks d job (Eq reply))) :
    (authenticate d.jwt d.settings job.env job.request username >>= rest).KeepsAfter
      (SpeaksOf d job) := by
  unfold authenticate
  cases hToken : job.request.credentials with
  | none => trivial
  | some token =>
      intro reply
      have hRefused (refusal : Refusal) (hRefusal : job.authentication d reply = .error refusal)
          (outcome : Outcome) (w : World) :
          Speaks d job (Eq reply) w { w with log := w.log ++ [.audit (peekSub d.jwt token)
            username none none outcome job.requestId] } :=
        speaks_audit (.unverified rfl hToken hRefusal) (.inr hUser) (fun _ => rfl) w
      cases reply with
      | keys keys =>
          change ((tryCatch (verifyWithKeys d.jwt d.settings keys token) _ >>= _) >>= rest).Keeps _
          cases hVerdict : verdict d.jwt d.settings keys token with
          | accepted claims =>
              simp only [verifyWithKeys, hVerdict]
              exact hRest (.keys keys) _ (by
                simp only [Job.authentication, authentication, hToken, hVerdict])
          | rejected error =>
              simp only [verifyWithKeys, hVerdict]
              refine fun w => ⟨speaks_harmless.line w _ _ _, fun w' => ⟨?_, trivial⟩⟩
              exact hRefused (.unauthorized (py "Invalid or expired token"))
                (by simp only [Job.authentication, authentication, hToken, hVerdict]) _ w'
          | escaped error =>
              simp only [verifyWithKeys, hVerdict]
              cases error <;> trivial
      | unreachable =>
          exact fun w => ⟨hRefused _ (by
            simp only [Job.authentication, authentication, hToken]; rfl) _ w, trivial⟩
      | noLength => trivial
      | cancelled => trivial

theorem speaks_answered {handler : Action α} (body : α → Body)
    (h : handler.KeepsAfter (SpeaksOf d job)) :
    (serve.answered body handler).KeepsAfter (SpeaksOf d job) :=
  (h.map _).tryCatch errorResponse

/-- What any handler says once it has been given its key list. -/
theorem speaks_task (d : Deployment) (job : Job) : (job.task d).KeepsAfter (SpeaksOf d job) := by
  unfold Job.task serve
  cases hEndpoint : job.endpoint with
  | mint body =>
      exact speaks_answered _ (speaks_authenticate (by rw [hEndpoint]; rfl)
        fun reply caller hCaller => speaks_mintFor rfl hCaller hEndpoint)
  | renew body =>
      exact speaks_answered _ (speaks_authenticate (by rw [hEndpoint]; rfl)
        fun reply caller hCaller => speaks_renewFor rfl hCaller hEndpoint)
  | keytab body =>
      exact speaks_answered _ (speaks_authenticate (by rw [hEndpoint]; rfl)
        fun reply caller hCaller => speaks_keytabFor rfl hCaller hEndpoint)

/-- A request that has been given its key list speaks of that one. -/
theorem speaks_told {next : JwksReply → Action Response} (hTask : job.task d = .await .jwks next)
    (reply : JwksReply) : (next reply).Keeps (Speaks d job (Eq reply)) := by
  have hAfter := speaks_task d job
  rw [hTask] at hAfter
  exact hAfter reply

/-- A request without a token has nothing to speak of but that. -/
theorem speaks_unasked (hToken : job.request.credentials = none) :
    (job.task d).Keeps (Speaks d job fun _ => False) := by
  have hRefuse (α : Type) (username : Option PyStr) (rest : Caller → Action α) :
      (authenticate d.jwt d.settings job.env job.request username >>= rest).Keeps
        (Speaks d job fun _ => False) := by
    unfold authenticate
    rw [hToken]
    exact fun w => ⟨speaks_audit (.nobody hToken) (.inl rfl) (fun _ => rfl) w, trivial⟩
  unfold Job.task serve
  cases job.endpoint with
  | mint body => exact ((hRefuse _ _ _).map _).tryCatch fun _ => keeps_pure _
  | renew body => exact ((hRefuse _ _ _).map _).tryCatch fun _ => keeps_pure _
  | keytab body => exact ((hRefuse _ _ _).map _).tryCatch fun _ => keeps_pure _

end Requests

end Krb5TokenService.Service
