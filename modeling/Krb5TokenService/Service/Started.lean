import Krb5TokenService.Minting.Logged
import Krb5TokenService.Service.Run

/-! A request that gets as far as its child: the arguments and the input of the
child, the file it is given, and all that the request logs, before it and
after. -/
namespace Krb5TokenService.Service

open Python Python.Base64 EventLoop EventLoop.Task Krb5TokenService.Action
open RateLimit Identity Minting

section Records

variable (caller : Caller)

def auditRecord (username principal : Option PyStr) (outcome : Outcome) : Record Unit :=
  .event (.audit (.str caller.claims.sub) username principal caller.claims.jti outcome
    caller.requestId)

def refusalRecord {α : Type} (username : Option PyStr) (outcome : Outcome) (status : Nat)
    (detail : PyStr) : Record α := do
  auditRecord caller username none outcome
  throw (.httpException status detail [])

/-- `mint`'s except clauses. -/
def mintExitRecord (username : PyStr) : PyExc → Record MintedTicket
  | .badPassword _ => refusalRecord caller (some username) .denied 400 (py "bad password")
  | .badKeytab _ => refusalRecord caller (some username) .denied 400 (py "bad keytab")
  | .unknownPrincipal _ => refusalRecord caller (some username) .denied 400 (py "unknown principal")
  | .accountUnusable detail => refusalRecord caller (some username) .denied 403 detail
  | .minting _ => refusalRecord caller (some username) .error 502 (py "Ticket minting failed.")
  | exc => throw exc

def renewExitRecord : PyExc → Record MintedTicket
  | .ccacheParse _ => refusalRecord caller none .denied 422 (py "invalid ccache")
  | .ticketExpired detail => refusalRecord caller none .denied 400 detail
  | .minting _ => refusalRecord caller none .error 502 (py "Ticket renewal failed.")
  | exc => throw exc

def keytabExitRecord (username : PyStr) : PyExc → Record Bytes
  | .badPassword _ => refusalRecord caller (some username) .denied 400 (py "bad password")
  | .minting _ => refusalRecord caller (some username) .error 502 (py "Keytab generation failed.")
  | exc => throw exc

def issueRecord {α : Type} (username : Option PyStr) (principal : PyStr) (value : α) :
    Record α := do
  auditRecord caller username (some principal) .issued
  pure value

variable (settings : Settings) (krb5 : Krb5) (env : Env)

def mintRecord (username : PyStr) (keytabMode : Bool) (reply : ChildReply) :
    Record MintResponse := do
  let minted ← tryCatch (ticketRecord settings krb5 env username keytabMode reply)
    (mintExitRecord caller username)
  issueRecord caller (some username) minted.principal (mintResponse minted)

def renewRecord (reply : ChildReply) : Record MintResponse := do
  let minted ← tryCatch (renewalRecord settings krb5 env reply) (renewExitRecord caller)
  issueRecord caller none minted.principal (mintResponse minted)

def newKeytabRecord (username : PyStr) (reply : ChildReply) : Record KeytabResponse := do
  let keytab ← tryCatch (keytabRecord settings env username reply)
    (keytabExitRecord caller username)
  issueRecord caller (some username) (username ++ py "@" ++ settings.defaultRealm)
    ⟨b64encode keytab, username ++ py "@" ++ settings.defaultRealm⟩

def answeredRecord {α : Type} (body : α → Body) (record : Record α) : Record Response :=
  tryCatch (record >>= fun value => pure (respond body (.ok value)))
    fun exc => pure (errorResponse exc)

end Records

namespace Job

variable (d : Deployment) (job : Job)

/-- The child of a request. -/
def childSpec : ChildSpec :=
  match job.endpoint with
  | .mint body => kinitSpec d.settings body.username
      (orDefault body.lifetime d.settings.defaultLifetime)
      (orDefault body.renewableLifetime d.settings.defaultRenewableLifetime)
      body.password.isNone (body.password.map fun password => password.encode.getD [] ++ [0x0A])
      job.env.tmpdir
  | .renew _ => renewSpec d.settings job.env.tmpdir
  | .keytab body => keytabSpec d.settings job.env body.username
      (body.password.encode.getD [] ++ [0x0A]) job.env.tmpdir

/-- The file that the child is given, with its contents. -/
def inputFile : Option (PyStr × Bytes) :=
  match job.endpoint with
  | .mint body =>
      match body.password with
      | some _ => none
      | none => some (job.env.tmpdir ++ py "/keytab",
          (b64decode (body.keytabB64.getD [])).getD [])
  | .renew body => some (job.env.tmpdir ++ py "/ccache", (b64decode body.ccacheB64).getD [])
  | .keytab _ => none

/-- What the request logs once its child has ended. -/
def record (caller : Caller) (reply : ChildReply) : Record Response :=
  match job.endpoint with
  | .mint body => answeredRecord .minted
      (mintRecord caller d.settings d.krb5 job.env body.username body.password.isNone reply)
  | .renew _ => answeredRecord .minted (renewRecord caller d.settings d.krb5 job.env reply)
  | .keytab body => answeredRecord .keytab
      (newKeytabRecord caller d.settings job.env body.username reply)

/-- The state in which the child is started. -/
def Given (log : List LogEvent) (found : World) : Prop :=
  found.log = log ∧
    ∀ path contents, job.inputFile = some (path, contents) → found.files path = some contents

end Job

section Passing

variable (caller : Caller) {w : World} {username lifetime renewableLifetime : PyStr}

theorem validateUsername_of_gate (h : usernameGate username = .ok ()) :
    validateUsername username = .ok () := by
  unfold usernameGate at h
  split at h
  · assumption
  · cases h

theorem checkUsername_passes (h : usernameGate username = .ok ()) :
    (checkUsername caller username).advance w = (.finished (.ok ()), w) := by
  unfold usernameGate at h
  cases hValid : validateUsername username with
  | ok _ => rw [checkUsername, hValid]; rfl
  | error exc => simp [hValid] at h

theorem checkLifetimes_passes (h : lifetimesGate lifetime renewableLifetime = .ok ()) :
    (checkLifetimes caller username lifetime renewableLifetime).advance w =
      (.finished (.ok ()), w) := by
  unfold lifetimesGate at h
  cases hFirst : validateLifetime lifetime with
  | error exc => simp [hFirst] at h
  | ok _ =>
      cases hSecond : validateLifetime renewableLifetime with
      | error exc => simp [hFirst, hSecond] at h
      | ok _ => rw [checkLifetimes, hFirst, hSecond]; rfl

theorem checkAllowed_passes (h : (w.limiter.check username w.now).1 = .ok ()) :
    (checkAllowed caller username).advance w =
      (.finished (.ok ()), { w with limiter := (w.limiter.check username w.now).2 }) := by
  rw [checkAllowed, advance_tryCatch, advance_checkLimiter, h]
  rfl

theorem passwordBuffer_passes {password : PyStr} {bytes : Bytes}
    (h : password.encode = some bytes) :
    (passwordBuffer password).advance w =
      (.finished (.ok w.heap.length), { w with heap := w.heap ++ [bytes] }) := by
  rw [passwordBuffer, h]
  rfl

end Passing

section Exits

variable (settings : Settings) (krb5 : Krb5) (env : Env) (caller : Caller) {w : World}

theorem records_refuse {α : Type} (username : Option PyStr) (outcome : Outcome) (status : Nat)
    (detail : PyStr) :
    (caller.refuse username outcome status detail : Action α).Records World.log w
      (refusalRecord caller username outcome status detail) :=
  ⟨_, rfl, rfl⟩

theorem records_mintFailure (username : PyStr) (exc : PyExc) :
    (mintFailure settings caller username exc).Records World.log w
      (mintExitRecord caller username exc) := by
  cases exc with
  | badPassword message => exact .of_bind rfl rfl (records_refuse ..)
  | badKeytab message => exact records_refuse ..
  | unknownPrincipal message => exact records_refuse ..
  | accountUnusable detail => exact records_refuse ..
  | minting message => exact records_refuse ..
  | _ => exact records_throw _

theorem records_renewFailure (exc : PyExc) :
    (renewFailure caller exc).Records World.log w (renewExitRecord caller exc) := by
  cases exc with
  | ccacheParse message => exact records_refuse ..
  | ticketExpired detail => exact records_refuse ..
  | minting message => exact records_refuse ..
  | _ => exact records_throw _

theorem records_keytabFailure (username : PyStr) (exc : PyExc) :
    (keytabFailure settings caller username exc).Records World.log w
      (keytabExitRecord caller username exc) := by
  cases exc with
  | badPassword message => exact .of_bind rfl rfl (records_refuse ..)
  | minting message => exact records_refuse ..
  | _ => exact records_throw _

theorem records_issue {α : Type} (username : Option PyStr) (principal : PyStr) (value : α) :
    (do caller.issue username principal; pure value : Action α).Records World.log w
      (issueRecord caller username principal value) :=
  ⟨_, rfl, rfl⟩

theorem records_mintSuccess (body : MintRequest) (minted : MintedTicket) :
    (mintSuccess caller body minted).Records World.log w
      (issueRecord caller (some body.username) minted.principal (mintResponse minted)) := by
  unfold mintSuccess
  cases body.password with
  | none => exact records_issue ..
  | some password => exact .of_bind rfl rfl (records_issue ..)

/-- What follows the child in `mint`. -/
theorem mint_pauses {task : Action MintedTicket} {query : Query} {Found : World → Prop}
    {records : Reply query → Record MintedTicket} (body : MintRequest)
    (h : task.Pauses World.log w query Found records) :
    (tryCatch task (mintFailure settings caller body.username) >>= mintSuccess caller body).Pauses
      World.log w query Found fun reply =>
        tryCatch (records reply) (mintExitRecord caller body.username) >>= fun minted =>
          issueRecord caller (some body.username) minted.principal (mintResponse minted) :=
  (h.tryCatch fun exc _ => records_mintFailure settings caller body.username exc).bind
    fun minted _ => records_mintSuccess caller body minted

end Exits

section Handlers

variable (settings : Settings) (krb5 : Krb5) (env : Env) (caller : Caller) {w : World}

theorem mintFor_pauses_password {body : MintRequest} {password : PyStr} {bytes : Bytes}
    (hValid : mintValid settings body = .ok ()) (hMode : body.password = some password)
    (hAllowed : (w.limiter.check body.username w.now).1 = .ok ())
    (hBytes : password.encode = some bytes) (hPrepared : Prepared env false) :
    (mintFor settings krb5 env body caller).Pauses World.log w
      (.child (kinitSpec settings body.username
        (orDefault body.lifetime settings.defaultLifetime)
        (orDefault body.renewableLifetime settings.defaultRenewableLifetime) false
        (some (bytes ++ [0x0A])) env.tmpdir))
      (fun t => t.log = w.log) (mintRecord caller settings krb5 env body.username false) := by
  obtain ⟨hUsername, hLifetimes⟩ := gates_ok_iff.mp hValid
  have hCredential : (mintCredential caller body).advance w =
      (.finished (.ok (some w.heap.length, none)),
        { w with
          limiter := (w.limiter.check body.username w.now).2
          heap := w.heap ++ [bytes] }) := by
    simp only [mintCredential, hMode]
    rw [advance_bind_ok (checkAllowed_passes caller hAllowed),
      advance_bind_ok (passwordBuffer_passes hBytes)]
    rfl
  unfold mintFor
  refine .of_bind (checkUsername_passes caller hUsername) ?_
  refine .of_bind (checkLifetimes_passes caller hLifetimes) (.of_bind hCredential ?_)
  have hTicket := mintTicket_pauses_password settings krb5 body.username
    (orDefault body.lifetime settings.defaultLifetime)
    (orDefault body.renewableLifetime settings.defaultRenewableLifetime) hPrepared w.heap.length
    (w := { w with
      limiter := (w.limiter.check body.username w.now).2
      heap := w.heap ++ [bytes] })
  have hHeap : (w.heap ++ [bytes]).getD w.heap.length [] = bytes := by simp
  rw [hHeap] at hTicket
  exact mint_pauses settings caller body (hTicket.mono fun t hFound => hFound.1)

theorem mintFor_pauses_keytab {body : MintRequest} {bytes : Bytes}
    (hValid : mintValid settings body = .ok ()) (hMode : body.password = none)
    (hBytes : b64decode (body.keytabB64.getD []) = some bytes) (hPrepared : Prepared env true) :
    (mintFor settings krb5 env body caller).Pauses World.log w
      (.child (kinitSpec settings body.username
        (orDefault body.lifetime settings.defaultLifetime)
        (orDefault body.renewableLifetime settings.defaultRenewableLifetime) true none env.tmpdir))
      (fun t => t.log = w.log ∧ t.files (env.tmpdir ++ py "/keytab") = some bytes)
      (mintRecord caller settings krb5 env body.username true) := by
  obtain ⟨hUsername, hLifetimes⟩ := gates_ok_iff.mp hValid
  have hCredential : (mintCredential caller body).advance w =
      (.finished (.ok (none, some w.heap.length)), { w with heap := w.heap ++ [bytes] }) := by
    simp only [mintCredential, hMode, hBytes]
    rfl
  unfold mintFor
  refine .of_bind (checkUsername_passes caller hUsername) ?_
  refine .of_bind (checkLifetimes_passes caller hLifetimes) (.of_bind hCredential ?_)
  have hTicket := mintTicket_pauses_keytab settings krb5 body.username
    (orDefault body.lifetime settings.defaultLifetime)
    (orDefault body.renewableLifetime settings.defaultRenewableLifetime) hPrepared w.heap.length
    (w := { w with heap := w.heap ++ [bytes] })
  have hHeap : (w.heap ++ [bytes]).getD w.heap.length [] = bytes := by simp
  rw [hHeap] at hTicket
  exact mint_pauses settings caller body hTicket

theorem renewFor_pauses {body : RenewRequest} {bytes : Bytes}
    (hBytes : b64decode body.ccacheB64 = some bytes) (hPrepared : Prepared env true)
    {info : CcacheInfo} (hInput : readCcache krb5 env.krb5Input (some bytes) = .ok info) :
    (renewFor settings krb5 env body caller).Pauses World.log w
      (.child (renewSpec settings env.tmpdir))
      (fun t => t.log = w.log ∧ t.files (env.tmpdir ++ py "/ccache") = some bytes)
      (renewRecord caller settings krb5 env) := by
  have hCcache : (renewCcache caller body).advance w = (.finished (.ok bytes), w) := by
    rw [renewCcache, hBytes]
    rfl
  unfold renewFor
  refine .of_bind hCcache ?_
  exact ((renewTicket_pauses settings krb5 hPrepared bytes hInput).tryCatch fun exc _ =>
    records_renewFailure caller exc).bind fun minted _ => records_issue ..

theorem keytabFor_pauses {body : KeytabRequest} {bytes : Bytes}
    (hUsername : usernameGate body.username = .ok ())
    (hAllowed : (w.limiter.check body.username w.now).1 = .ok ())
    (hBytes : body.password.encode = some bytes) (hPrepared : Prepared env false) :
    (keytabFor settings env body caller).Pauses World.log w
      (.child (keytabSpec settings env body.username (bytes ++ [0x0A]) env.tmpdir))
      (fun t => t.log = w.log) (newKeytabRecord caller settings env body.username) := by
  have hTicket := mintKeytab_pauses settings body.username hPrepared w.heap.length
    (w := { w with
      limiter := (w.limiter.check body.username w.now).2
      heap := w.heap ++ [bytes] })
  have hHeap : (w.heap ++ [bytes]).getD w.heap.length [] = bytes := by simp
  rw [hHeap] at hTicket
  unfold keytabFor
  refine .of_bind (checkUsername_passes caller hUsername) ?_
  refine .of_bind (checkAllowed_passes caller hAllowed) ?_
  refine .of_bind (passwordBuffer_passes hBytes) ?_
  refine ((hTicket.mono fun t hFound => hFound.1).tryCatch fun exc _ =>
    records_keytabFailure settings caller body.username exc).bind fun keytab _ => ?_
  exact .of_bind rfl rfl (records_issue ..)

end Handlers

section Whole

variable {α : Type} {w : World}

theorem answered_pauses {handler : Action α} {query : Query} {Found : World → Prop}
    {records : Reply query → Record α} (h : handler.Pauses World.log w query Found records)
    (body : α → Body) :
    (serve.answered body handler).Pauses World.log w query Found fun reply =>
      answeredRecord body (records reply) := by
  unfold serve.answered
  rw [map_eq_bind]
  exact (h.bind fun value _ => records_pure _).tryCatch fun exc _ => records_pure _

/-- A token that verifies gives its caller, and logs nothing. -/
theorem authenticate_accepts {jwt : PyJwt} {settings : Settings} {env : Env} {request : Request}
    {reply : JwksReply} {caller : Caller} (username : Option PyStr)
    (h : authentication jwt settings env request reply = .ok caller) :
    ∃ next, (authenticate jwt settings env request username).advance w =
        (.waiting .jwks next, w) ∧
      ∀ w₁, (next reply).advance w₁ = (.finished (.ok caller), w₁) := by
  unfold authentication at h
  cases hToken : request.credentials with
  | none => simp [hToken] at h
  | some token =>
      simp only [authenticate, hToken]
      refine ⟨_, rfl, fun w₁ => ?_⟩
      cases reply with
      | keys keys =>
          change (tryCatch (verifyWithKeys jwt settings keys token) _ >>= _).advance w₁ = _
          unfold verifyWithKeys
          cases hVerdict : verdict jwt settings keys token with
          | accepted claims =>
              simp only [hToken, hVerdict] at h
              rw [← Except.ok.inj h]
              rfl
          | rejected error => simp [hToken, hVerdict] at h
          | escaped error => simp [hToken, hVerdict] at h
      | _ => simp [hToken] at h

/-- A handler whose caller is known, up to its child. -/
theorem handler_pauses {jwt : PyJwt} {settings : Settings} {env : Env} {request : Request}
    {jwks : JwksReply} {caller : Caller} (username : Option PyStr)
    (hCaller : authentication jwt settings env request jwks = .ok caller)
    {rest : Caller → Action α} {spec : ChildSpec} {Found : World → Prop}
    {records : ChildReply → Record α} {w₁ : World}
    (hRest : (rest caller).Pauses World.log w₁ (.child spec) Found records) (body : α → Body) :
    ∃ next, (serve.answered body
        (authenticate jwt settings env request username >>= rest)).advance w =
          (.waiting .jwks next, w) ∧
      (next jwks).Pauses World.log w₁ (.child spec) Found fun reply =>
        answeredRecord body (records reply) := by
  obtain ⟨next, hAdvance, hAccepts⟩ := authenticate_accepts (w := w) username hCaller
  refine ⟨_, advance_answered_waiting body (advance_bind_waiting hAdvance), ?_⟩
  exact answered_pauses (.of_bind (hAccepts w₁) hRest) body

end Whole

namespace Job

variable {d : Deployment} {job : Job} {o : Outside} {w : World}

theorem task_pauses (h : job.outset d o w = .ok ()) :
    ∃ caller next, job.authentication d o.jwks = .ok caller ∧
      (job.task d).advance w = (.waiting .jwks next, w) ∧
      (next o.jwks).Pauses World.log (o.pass w) (.child (job.childSpec d))
        (job.Given w.log) (job.record d caller) := by
  obtain ⟨⟨caller, hCaller⟩, hOpening⟩ := job.outset_ok d o w h
  refine ⟨caller, ?_⟩
  unfold Job.plan at hOpening
  unfold task serve Given inputFile record
  cases hEndpoint : job.endpoint with
  | mint body =>
      simp only [hEndpoint, Plan.map] at hOpening
      cases hMode : body.password with
      | some password =>
          obtain ⟨hValid, hAllowed, ⟨bytes, hBytes⟩, hPrepared⟩ :=
            (mintPlan_opens_password hMode).mp hOpening
          have hChecks := mintPlan_checks_of_password d.settings d.krb5 job.env hValid hMode
          rw [Plan.allowed, hChecks] at hAllowed
          obtain ⟨next, hAdvance, hNext⟩ := handler_pauses (w := w) (some body.username) hCaller
            (mintFor_pauses_password d.settings d.krb5 job.env caller hValid hMode hAllowed hBytes
              hPrepared) Body.minted
          have hSpec : job.childSpec d = kinitSpec d.settings body.username
              (orDefault body.lifetime d.settings.defaultLifetime)
              (orDefault body.renewableLifetime d.settings.defaultRenewableLifetime) false
              (some (bytes ++ [0x0A])) job.env.tmpdir := by
            simp [childSpec, hEndpoint, hMode, hBytes]
          rw [hSpec]
          refine ⟨next, hCaller, hAdvance, ?_⟩
          simp only [hMode]
          refine hNext.mono fun t hLog => ?_
          exact ⟨hLog, by simp⟩
      | none =>
          obtain ⟨hValid, ⟨bytes, hBytes⟩, hPrepared⟩ := (mintPlan_opens_keytab hMode).mp hOpening
          obtain ⟨next, hAdvance, hNext⟩ := handler_pauses (w := w) (some body.username) hCaller
            (mintFor_pauses_keytab d.settings d.krb5 job.env caller (w := o.pass w) hValid hMode
              hBytes hPrepared) Body.minted
          have hSpec : job.childSpec d = kinitSpec d.settings body.username
              (orDefault body.lifetime d.settings.defaultLifetime)
              (orDefault body.renewableLifetime d.settings.defaultRenewableLifetime) true none
              job.env.tmpdir := by
            simp [childSpec, hEndpoint, hMode]
          rw [hSpec]
          refine ⟨next, hCaller, hAdvance, ?_⟩
          simp only [hMode, hBytes, Option.getD_some]
          refine hNext.mono fun t hFound => ⟨hFound.1, fun path contents hInput => ?_⟩
          obtain ⟨rfl, rfl⟩ := Prod.mk.inj (Option.some.inj hInput)
          exact hFound.2
  | renew body =>
      simp only [hEndpoint, Plan.map] at hOpening
      obtain ⟨bytes, info, hBytes, hInput, hPrepared⟩ := renewPlan_opens.mp hOpening
      obtain ⟨next, hAdvance, hNext⟩ := handler_pauses (w := w) none hCaller
        (renewFor_pauses d.settings d.krb5 job.env caller (w := o.pass w) hBytes hPrepared hInput)
        Body.minted
      have hSpec : job.childSpec d = renewSpec d.settings job.env.tmpdir := by
        simp [childSpec, hEndpoint]
      rw [hSpec]
      refine ⟨next, hCaller, hAdvance, ?_⟩
      simp only [hBytes, Option.getD_some]
      refine hNext.mono fun t hFound => ⟨hFound.1, fun path contents hInput => ?_⟩
      obtain ⟨rfl, rfl⟩ := Prod.mk.inj (Option.some.inj hInput)
      exact hFound.2
  | keytab body =>
      simp only [hEndpoint, Plan.map] at hOpening
      obtain ⟨hUsername, hAllowed, ⟨bytes, hBytes⟩, hPrepared⟩ := keytabPlan_opens.mp hOpening
      have hChecks := keytabPlan_checks_of_valid d.settings job.env hUsername
      rw [Plan.allowed, hChecks] at hAllowed
      obtain ⟨next, hAdvance, hNext⟩ := handler_pauses (w := w) (some body.username) hCaller
        (keytabFor_pauses d.settings job.env caller hUsername hAllowed hBytes hPrepared)
        Body.keytab
      have hSpec : job.childSpec d = keytabSpec d.settings job.env body.username
          (bytes ++ [0x0A]) job.env.tmpdir := by
        simp [childSpec, hEndpoint, hBytes]
      rw [hSpec]
      refine ⟨next, hCaller, hAdvance, ?_⟩
      refine hNext.mono fun t hLog => ?_
      exact ⟨hLog, by simp⟩

/-- What a run that starts its child does: it awaits the key list and the
child, in a state with the child's input in place, and the child's end decides
the response and the log. -/
theorem started (h : job.StartsChild d o w) :
    ∃ caller found, job.authentication d o.jwks = .ok caller ∧
      (job.task d).awaits o.answer w = [(.jwks, w), (.child (job.childSpec d), found)] ∧
      job.Given w.log found ∧
      (job.run d o w).1 = (job.record d caller o.child).outcome ∧
      (job.run d o w).2.log = w.log ++ (job.record d caller o.child).events := by
  obtain ⟨caller, next, hCaller, hAdvance, hPauses⟩ :=
    task_pauses ((job.runsTo d o w).child.mp h)
  obtain ⟨next', found, hWait, hFound, hRecords⟩ := hPauses
  obtain ⟨w', hEnd, hLog⟩ := hRecords o.child (o.pass found)
  refine ⟨caller, found, hCaller, ?_, hFound, ?_⟩
  · rw [awaits_of_waiting o.answer hAdvance]
    change _ :: (next o.jwks).awaits o.answer (o.pass w) = _
    rw [awaits_of_waiting o.answer hWait]
    change _ :: _ :: (next' o.child).awaits o.answer (o.pass found) = _
    rw [awaits_of_finished o.answer hEnd]
  · have hRun : job.run d o w = ((job.record d caller o.child).outcome, w') := by
      rw [run, run_of_waiting o.answer hAdvance]
      change (next o.jwks).run o.answer (o.pass w) = _
      rw [run_of_waiting o.answer hWait]
      exact run_of_finished o.answer hEnd
    rw [hRun]
    refine ⟨rfl, hLog.trans ?_⟩
    change found.log ++ _ = _
    rw [hFound.1]

/-- A child that is awaited is the request's, with its input in place. -/
theorem child_of_await {spec : ChildSpec} {found : World}
    (hAwait : (Query.child spec, found) ∈ (job.task d).awaits o.answer w) :
    spec = job.childSpec d ∧ job.StartsChild d o w ∧ job.Given w.log found := by
  have hStarts : job.StartsChild d o w := ⟨spec, found, hAwait⟩
  obtain ⟨caller, found', -, hAwaits, hGiven, -⟩ := started hStarts
  rw [hAwaits] at hAwait
  simp only [List.mem_cons, Prod.mk.injEq, reduceCtorEq, false_and, Query.child.injEq,
    List.not_mem_nil, or_false, false_or] at hAwait
  obtain ⟨rfl, rfl⟩ := hAwait
  exact ⟨rfl, hStarts, hGiven⟩

section Credentials

theorem mintExit_ok {result : Except PyExc MintedTicket} {response : MintResponse}
    (h : mintExit result = .ok response) :
    ∃ minted, result = .ok minted ∧ response = mintResponse minted := by
  cases result with
  | ok minted => exact ⟨minted, rfl, (Except.ok.inj h).symm⟩
  | error exc => cases exc <;> cases h

theorem renewExit_ok {result : Except PyExc MintedTicket} {response : MintResponse}
    (h : renewExit result = .ok response) :
    ∃ minted, result = .ok minted ∧ response = mintResponse minted := by
  cases result with
  | ok minted => exact ⟨minted, rfl, (Except.ok.inj h).symm⟩
  | error exc => cases exc <;> cases h

theorem keytabExit_ok {principal : PyStr} {result : Except PyExc Bytes}
    {response : KeytabResponse} (h : keytabExit principal result = .ok response) :
    ∃ keytab, result = .ok keytab ∧ response = ⟨b64encode keytab, principal⟩ := by
  cases result with
  | ok keytab => exact ⟨keytab, rfl, (Except.ok.inj h).symm⟩
  | error exc => cases exc <;> cases h

theorem map_ok {α : Type} {body : α → Body} {verdict : Except Refusal α} {response : Response}
    (h : verdict.map (answer200 body) = .ok response) :
    ∃ value, verdict = .ok value ∧ answer200 body value = response := by
  cases verdict with
  | ok value => exact ⟨value, rfl, Except.ok.inj h⟩
  | error refusal => cases h

variable {response : Response}

/-- A response with a credential comes from a child and its closing. -/
theorem closing_of_issued (hResponse : (job.run d o w).1 = .ok response)
    (hIssued : response.body.Issued) :
    job.StartsChild d o w ∧ (job.plan d).closing o.child = .ok response := by
  have hRun := job.runsTo d o w
  rw [hRun.response] at hResponse
  obtain rfl := Except.ok.inj hResponse
  cases hOutset : job.outset d o w with
  | error refusal =>
      rw [job.verdict_of_outset_error d o w hOutset] at hIssued
      exact absurd hIssued refusal.withheld
  | ok _ =>
      rw [job.verdict_of_outset_ok d o w hOutset] at hIssued ⊢
      refine ⟨hRun.child.mpr hOutset, ?_⟩
      cases hClosing : (job.plan d).closing o.child with
      | error refusal =>
          rw [hClosing] at hIssued
          exact absurd hIssued refusal.withheld
      | ok _ => rfl

/-- What a ticket in a response is: the bytes that the child left, and what
they parse to. -/
theorem minted_issued {minted : MintResponse}
    (hResponse : (job.run d o w).1 = .ok response) (hBody : response.body = .minted minted) :
    job.StartsChild d o w ∧
      ∃ stdout stderr contents info, o.child = .exited 0 stdout stderr (some contents) ∧
        readCcache d.krb5 job.env.krb5Output (some contents) = .ok info ∧
        minted = mintResponse (mintedTicket (contents, info)) := by
  obtain ⟨hStarts, hClosing⟩ := closing_of_issued hResponse (by rw [hBody]; trivial)
  refine ⟨hStarts, ?_⟩
  unfold Job.plan at hClosing
  cases hEndpoint : job.endpoint with
  | mint body =>
      simp only [hEndpoint, Plan.map, mintPlan] at hClosing
      obtain ⟨value, hExit, rfl⟩ := map_ok hClosing
      obtain ⟨ticket, hVerdict, rfl⟩ := mintExit_ok hExit
      obtain ⟨stdout, stderr, contents, info, hReply, hInfo, rfl⟩ := ticketVerdict_ok hVerdict
      exact ⟨stdout, stderr, contents, info, hReply, hInfo, (Body.minted.inj hBody).symm⟩
  | renew body =>
      simp only [hEndpoint, Plan.map, renewPlan] at hClosing
      obtain ⟨value, hExit, rfl⟩ := map_ok hClosing
      obtain ⟨ticket, hVerdict, rfl⟩ := renewExit_ok hExit
      obtain ⟨stdout, stderr, contents, info, hReply, hInfo, rfl⟩ := renewalVerdict_ok hVerdict
      exact ⟨stdout, stderr, contents, info, hReply, hInfo, (Body.minted.inj hBody).symm⟩
  | keytab body =>
      simp only [hEndpoint, Plan.map, keytabPlan] at hClosing
      obtain ⟨value, hExit, rfl⟩ := map_ok hClosing
      cases hBody

/-- And a keytab in a response: the bytes that `cern-get-keytab` left. -/
theorem keytab_issued {issued : KeytabResponse}
    (hResponse : (job.run d o w).1 = .ok response) (hBody : response.body = .keytab issued) :
    job.StartsChild d o w ∧
      ∃ stdout stderr contents, o.child = .exited 0 stdout stderr (some contents) ∧
        issued.keytabB64 = b64encode contents := by
  obtain ⟨hStarts, hClosing⟩ := closing_of_issued hResponse (by rw [hBody]; trivial)
  refine ⟨hStarts, ?_⟩
  unfold Job.plan at hClosing
  cases hEndpoint : job.endpoint with
  | keytab body =>
      simp only [hEndpoint, Plan.map, keytabPlan] at hClosing
      obtain ⟨value, hExit, rfl⟩ := map_ok hClosing
      obtain ⟨contents, hVerdict, rfl⟩ := keytabExit_ok hExit
      obtain ⟨stdout, stderr, hReply⟩ := keytabVerdict_ok hVerdict
      exact ⟨stdout, stderr, contents, hReply, by rw [← Body.keytab.inj hBody]⟩
  | mint body =>
      simp only [hEndpoint, Plan.map, mintPlan] at hClosing
      obtain ⟨value, hExit, rfl⟩ := map_ok hClosing
      cases hBody
  | renew body =>
      simp only [hEndpoint, Plan.map, renewPlan] at hClosing
      obtain ⟨value, hExit, rfl⟩ := map_ok hClosing
      cases hBody

end Credentials

end Job

end Krb5TokenService.Service
