import Krb5TokenService.Service.Run

/-! Every request is audited once, under an outcome that fits its response,
unless an exception escapes its handler; and exactly which inputs let one
escape. -/
namespace Krb5TokenService.Service

open Python Python.Base64 EventLoop
open RateLimit Identity Minting

/-- The handler writes one audit line: `issued` for a 200, `denied` for a 4xx
and `error` for a 5xx. -/
def AuditedOnce (before : World) (result : Except PyExc Response × World) : Prop :=
  ∃ response outcome, result.1 = .ok response ∧
    audits result.2.log = audits before.log ++ [outcome] ∧
    (outcome = .issued ↔ response.status = 200) ∧
    (outcome = .denied ↔ 400 ≤ response.status ∧ response.status < 500) ∧
    (outcome = .error ↔ 500 ≤ response.status ∧ response.status < 600)

section Unaudited

variable {α β : Type}

def Unaudited (verdict : Except Refusal α) : Prop :=
  ∃ refusal, verdict = .error refusal ∧ refusal.audited = none

theorem unaudited_iff (verdict : Except Refusal α) :
    Unaudited verdict ↔ audited verdict = none := by
  cases verdict with
  | ok value => simp [Unaudited, audited]
  | error refusal => simp [Unaudited, audited]

@[simp] theorem not_unaudited_ok (value : α) : ¬ Unaudited (.ok value : Except Refusal α) := by
  simp [Unaudited]

@[simp] theorem not_unaudited_denied {status : Nat} (detail : PyStr)
    (hStatus : 400 ≤ status ∧ status < 500) :
    ¬ Unaudited (.error (.denied status detail hStatus) : Except Refusal α) := by
  simp [Unaudited, Refusal.denied]

@[simp] theorem not_unaudited_failed (detail : PyStr) :
    ¬ Unaudited (.error (.failed detail) : Except Refusal α) := by
  simp [Unaudited, Refusal.failed]

@[simp] theorem not_unaudited_unauthorized (detail : PyStr) :
    ¬ Unaudited (.error (.unauthorized detail) : Except Refusal α) := by
  simp [Unaudited, Refusal.unauthorized]

@[simp] theorem unaudited_raised (exc : PyExc) :
    Unaudited (.error (.raised exc) : Except Refusal α) :=
  ⟨_, rfl, rfl⟩

/-- A sequence escapes at its first part, or passes it and escapes later. -/
theorem unaudited_bind {verdict : Except Refusal α} {rest : α → Except Refusal β} :
    Unaudited (verdict >>= rest) ↔
      Unaudited verdict ∨ ∃ value, verdict = .ok value ∧ Unaudited (rest value) := by
  cases verdict with
  | ok value => simp [bind, Except.bind]
  | error refusal => simp [bind, Except.bind, Unaudited]

theorem unaudited_gate {gate : Except Refusal Unit} {rest : Except Refusal β} :
    Unaudited (do gate; rest) ↔ Unaudited gate ∨ (gate = .ok () ∧ Unaudited rest) := by
  cases gate with
  | ok _ => simp [bind, Except.bind]
  | error refusal => simp [bind, Except.bind, Unaudited]

theorem unaudited_map {verdict : Except Refusal α} (f : α → β) :
    Unaudited (verdict.map f) ↔ Unaudited verdict := by
  cases verdict with
  | ok value => simp [Except.map]
  | error refusal => simp [Except.map, Unaudited]

end Unaudited

section Gates

theorem not_unaudited_usernameGate (username : PyStr) : ¬ Unaudited (usernameGate username) := by
  unfold usernameGate
  cases validateUsername username <;> simp

theorem not_unaudited_lifetimesGate (lifetime renewableLifetime : PyStr) :
    ¬ Unaudited (lifetimesGate lifetime renewableLifetime) := by
  unfold lifetimesGate
  split <;> simp

theorem not_unaudited_limiterGate (allowed : Except RateLimitedError Unit) :
    ¬ Unaudited (limiterGate allowed) := by
  cases allowed <;> simp [limiterGate]

theorem not_unaudited_base64Gate (text detail : PyStr) : ¬ Unaudited (base64Gate text detail) := by
  unfold base64Gate
  cases b64decode text <;> simp

theorem unaudited_passwordGate (password : PyStr) :
    Unaudited (passwordGate password) ↔ password.encode = none := by
  unfold passwordGate
  cases password.encode <;> simp

theorem unaudited_preparedGate (env : Env) (writesInput : Bool) :
    Unaudited (preparedGate env writesInput) ↔ ¬ Prepared env writesInput := by
  unfold preparedGate
  split <;> simp_all

end Gates

section Causes

variable (d : Deployment) (env : Env)

/-- The exceptions `verify_broker_token` does not turn into a 401. -/
def Uncaught : TokenError → Prop
  | .typeError _ | .attributeError _ => True
  | _ => False

/-- Getting the key list or verifying the token against it raises something
other than an `HTTPException`. -/
def TokenEscapes (token : PyStr) : JwksReply → Prop
  | .keys keys => ∃ error, decodeToken d.jwt d.settings keys token = .error error ∧ Uncaught error
  | .unreachable => False
  | .noLength | .cancelled => True

/-- `mint_ticket` after its child: the directory is not removed, the wait is
cancelled, or a cache that was read back does not parse. -/
def TicketEscapes (reply : ChildReply) : Prop :=
  env.rmtree ≠ none ∨ reply = .cancelled ∨
    ∃ stdout stderr ccache exc, reply = .exited 0 stdout stderr (some ccache) ∧ ccache ≠ [] ∧
      env.readBack = none ∧ readCcache d.krb5 env.krb5Output (some ccache) = .error exc

/-- `renew_ticket` after its child: its read-back catches no `OSError`, but a
cache that does not parse is taken for the caller's. -/
def RenewalEscapes (reply : ChildReply) : Prop :=
  env.rmtree ≠ none ∨ reply = .cancelled ∨
    ∃ stdout stderr output, reply = .exited 0 stdout stderr output ∧
      (env.readBack ≠ none ∨ output = none ∨
        ∃ ccache message, output = some ccache ∧ ccache ≠ [] ∧
          readCcache d.krb5 env.krb5Output (some ccache) = .error (.valueError message))

/-- `renew_ticket` on a cache of the caller's that does not parse. -/
def InputEscapes (ccache : Bytes) : Prop :=
  ∃ exc, readCcache d.krb5 env.krb5Input (some ccache) = .error exc ∧
    (env.rmtree ≠ none ∨ ∃ message, exc = .valueError message)

def KeytabEscapes (reply : ChildReply) : Prop := env.rmtree ≠ none ∨ reply = .cancelled

/-- What escapes `mint`, `renew` or `keytab` for an authenticated request. -/
def EndpointEscapes (o : Outside) (w : World) : Endpoint → Prop
  | .mint body =>
      mintValid d.settings body = .ok () ∧
        match body.password with
        | some password =>
            (w.limiter.check body.username w.now).1 = .ok () ∧
              (password.encode = none ∨ ¬ Prepared env false ∨ TicketEscapes d env o.child)
        | none =>
            b64decode (body.keytabB64.getD []) ≠ none ∧
              (¬ Prepared env true ∨ TicketEscapes d env o.child)
  | .renew body =>
      ∃ ccache, b64decode body.ccacheB64 = some ccache ∧
        (¬ Prepared env true ∨ InputEscapes d env ccache ∨
          ((∃ info, readCcache d.krb5 env.krb5Input (some ccache) = .ok info) ∧
            RenewalEscapes d env o.child))
  | .keytab body =>
      usernameGate body.username = .ok () ∧ (w.limiter.check body.username w.now).1 = .ok () ∧
        (body.password.encode = none ∨ ¬ Prepared env false ∨ KeytabEscapes env o.child)

/-- The inputs on which an exception escapes the handler unaudited. -/
def Escapes (job : Job) (o : Outside) (w : World) : Prop :=
  ∃ token, job.request.credentials = some token ∧
    (TokenEscapes d token o.jwks ∨
      ((∃ caller, job.authentication d o.jwks = .ok caller) ∧
        EndpointEscapes d job.env o (o.pass w) job.endpoint))

end Causes

section Exits

variable (d : Deployment) (env : Env)

theorem unaudited_authentication (job : Job) {token : PyStr}
    (hToken : job.request.credentials = some token) (reply : JwksReply) :
    Unaudited (job.authentication d reply) ↔ TokenEscapes d token reply := by
  simp only [Job.authentication, authentication, hToken]
  cases reply with
  | unreachable => simp [TokenEscapes]
  | noLength => simp [TokenEscapes]
  | cancelled => simp [TokenEscapes]
  | keys keys =>
      simp only [TokenEscapes, verdict]
      cases hDecode : decodeToken d.jwt d.settings keys token with
      | ok decoded => cases decoded <;> simp
      | error error => cases error <;> simp [Uncaught]

/-- A classified exit of `kinit` or of `kinit -R` has an except clause. -/
theorem not_unaudited_classified {keytabMode : Bool} {stderr : PyStr} {exc : PyExc}
    (hClass : classifierOf keytabMode stderr = some exc) : ¬ Unaudited (mintExit (.error exc)) := by
  cases keytabMode with
  | false =>
      obtain rfl | rfl | rfl | rfl := classifyPasswordStderr_cases hClass <;> simp [mintExit]
  | true =>
      obtain rfl | rfl | rfl := classifyKeytabStderr_cases hClass <;> simp [mintExit]

/-- Every error of `read_ccache` passes `mint`'s except clauses by. -/
theorem unaudited_mint_unreadable {failure : Option PyStr} {contents : Option Bytes} {exc : PyExc}
    (hRead : readCcache d.krb5 failure contents = .error exc) :
    Unaudited (mintExit (.error exc)) := by
  obtain ⟨message, rfl⟩ | ⟨message, rfl⟩ := readCcache_error hRead <;> simp [mintExit]

/-- How a non-zero exit of a child ends. -/
theorem failureVerdict_cases (classify : PyStr → Option PyExc) (unclassified : PyStr)
    (returncode : ℤ) (stderr : PyStr) :
    (∃ exc, classify stderr = some exc ∧
      failureVerdict classify unclassified returncode stderr = exc) ∨
      ∃ message, failureVerdict classify unclassified returncode stderr = .minting message := by
  unfold failureVerdict
  cases classify stderr with
  | some exc => exact .inl ⟨exc, rfl, rfl⟩
  | none => exact .inr ⟨_, rfl⟩

theorem unaudited_ticket (keytabMode : Bool) (reply : ChildReply) :
    Unaudited (mintExit (ticketVerdict d.settings d.krb5 env keytabMode reply)) ↔
      TicketEscapes d env reply := by
  cases hRemove : env.rmtree with
  | some message => simp [ticketVerdict, removed, hRemove, TicketEscapes, mintExit]
  | none =>
      simp only [ticketVerdict, removed, hRemove, TicketEscapes, ne_eq, not_true_eq_false, false_or]
      cases reply with
      | spawnFailed error => simp [kinitVerdict, childVerdict, mintExit]
      | timedOut => simp [kinitVerdict, childVerdict, mintExit]
      | cancelled => simp [kinitVerdict, childVerdict, mintExit]
      | exited returncode stdout stderr output =>
          by_cases hZero : returncode = 0
          · subst hZero
            cases hBack : env.readBack with
            | some message =>
                simp [kinitVerdict, childVerdict, outputVerdict, hBack, mintExit, bind, Except.bind]
            | none =>
                cases output with
                | none =>
                    simp [kinitVerdict, childVerdict, outputVerdict, hBack, mintExit, bind,
                      Except.bind]
                | some ccache =>
                    by_cases hEmpty : ccache = []
                    · simp [kinitVerdict, childVerdict, outputVerdict, hBack, mintExit, bind,
                        Except.bind, hEmpty]
                    · cases hRead : readCcache d.krb5 env.krb5Output (some ccache) with
                      | ok info =>
                          simp [kinitVerdict, childVerdict, outputVerdict, hBack, mintExit, bind,
                            Except.bind, hEmpty, hRead, pure, Except.pure]
                      | error exc =>
                          have hUnread := unaudited_mint_unreadable d hRead
                          simpa [kinitVerdict, childVerdict, outputVerdict, hBack, bind,
                            Except.bind, hEmpty, hRead] using hUnread
          · simp only [kinitVerdict, childVerdict, ne_eq, hZero, not_false_eq_true, if_true]
            obtain ⟨exc, hClass, hExc⟩ | ⟨message, hExc⟩ := failureVerdict_cases
              (classifierOf keytabMode) (py "kinit") returncode (stderrText stderr)
            · have hNot := not_unaudited_classified hClass
              simpa [hExc, hZero] using hNot
            · simp [hExc, hZero, mintExit]

/-- Of `read_ccache`'s errors, `renew` catches the `CcacheParseError`. -/
theorem unaudited_renew_unreadable {failure : Option PyStr} {contents : Option Bytes}
    {exc : PyExc} (hRead : readCcache d.krb5 failure contents = .error exc) :
    Unaudited (renewExit (.error exc)) ↔ ∃ message, exc = .valueError message := by
  obtain ⟨message, rfl⟩ | ⟨message, rfl⟩ := readCcache_error hRead <;> simp [renewExit]

theorem unaudited_renewal (reply : ChildReply) :
    Unaudited (renewExit (renewalVerdict d.settings d.krb5 env reply)) ↔
      RenewalEscapes d env reply := by
  cases hRemove : env.rmtree with
  | some message => simp [renewalVerdict, removed, hRemove, RenewalEscapes, renewExit]
  | none =>
      simp only [renewalVerdict, removed, hRemove, RenewalEscapes, ne_eq, not_true_eq_false,
        false_or]
      cases reply with
      | spawnFailed error => simp [kinitRenewVerdict, childVerdict, renewExit]
      | timedOut => simp [kinitRenewVerdict, childVerdict, renewExit]
      | cancelled => simp [kinitRenewVerdict, childVerdict, renewExit]
      | exited returncode stdout stderr output =>
          by_cases hZero : returncode = 0
          · subst hZero
            cases hBack : env.readBack with
            | some message =>
                simp [kinitRenewVerdict, childVerdict, renewedBytesVerdict, hBack, renewExit, bind,
                  Except.bind]
            | none =>
                cases output with
                | none =>
                    simp [kinitRenewVerdict, childVerdict, renewedBytesVerdict, hBack, renewExit,
                      bind, Except.bind]
                | some ccache =>
                    by_cases hEmpty : ccache = []
                    · simp [kinitRenewVerdict, childVerdict, renewedBytesVerdict, hBack, renewExit,
                        bind, Except.bind, hEmpty]
                    · cases hRead : readCcache d.krb5 env.krb5Output (some ccache) with
                      | ok info =>
                          simp [kinitRenewVerdict, childVerdict, renewedBytesVerdict, hBack,
                            renewExit, bind, Except.bind, hEmpty, hRead, pure, Except.pure]
                      | error exc =>
                          have hUnread := unaudited_renew_unreadable d hRead
                          simpa [kinitRenewVerdict, childVerdict, renewedBytesVerdict, hBack, bind,
                            Except.bind, hEmpty, hRead] using hUnread
          · simp only [kinitRenewVerdict, childVerdict, ne_eq, hZero, not_false_eq_true, if_true]
            obtain ⟨exc, hClass, hExc⟩ | ⟨message, hExc⟩ := failureVerdict_cases
              classifyRenewStderr (py "kinit -R") returncode (stderrText stderr)
            · obtain rfl := classifyRenewStderr_cases hClass
              simp [hExc, hZero, renewExit]
            · simp [hExc, hZero, renewExit]

theorem unaudited_ccacheGate (ccache : Bytes) :
    Unaudited (ccacheGate d.krb5 env ccache) ↔ InputEscapes d env ccache := by
  unfold ccacheGate InputEscapes
  cases hRead : readCcache d.krb5 env.krb5Input (some ccache) with
  | ok info => simp
  | error exc =>
      dsimp only
      rw [unaudited_map]
      cases hRemove : env.rmtree with
      | some message => simp [removed, hRemove, renewExit]
      | none => simpa [removed, hRemove] using unaudited_renew_unreadable d hRead

theorem unaudited_keytab (principal : PyStr) (reply : ChildReply) :
    Unaudited (keytabExit principal (keytabVerdict d.settings env reply)) ↔
      KeytabEscapes env reply := by
  cases hRemove : env.rmtree with
  | some message => simp [keytabVerdict, removed, hRemove, KeytabEscapes, keytabExit]
  | none =>
      simp only [keytabVerdict, removed, hRemove, KeytabEscapes, ne_eq, not_true_eq_false, false_or]
      cases reply with
      | spawnFailed error => simp [cernGetKeytabVerdict, childVerdict, keytabExit]
      | timedOut => simp [cernGetKeytabVerdict, childVerdict, keytabExit]
      | cancelled => simp [cernGetKeytabVerdict, childVerdict, keytabExit]
      | exited returncode stdout stderr output =>
          by_cases hZero : returncode = 0
          · simp only [cernGetKeytabVerdict, childVerdict, ne_eq, hZero, not_true_eq_false,
              if_false]
            cases hOutput : outputVerdict env (py "cern-get-keytab produced no keytab file")
                (py "cern-get-keytab produced an empty keytab file") output with
            | ok keytab => simp [keytabExit]
            | error exc =>
                obtain ⟨message, rfl⟩ := outputVerdict_error hOutput
                simp [keytabExit]
          · simp only [cernGetKeytabVerdict, childVerdict, ne_eq, hZero, not_false_eq_true, if_true]
            obtain ⟨exc, hClass, hExc⟩ | ⟨message, hExc⟩ := failureVerdict_cases
              classifyCernGetKeytabStderr (py "cern-get-keytab") returncode (stderrText stderr)
            · obtain rfl := classifyCernGetKeytabStderr_cases hClass
              simp [hExc, keytabExit]
            · simp [hExc, keytabExit]

end Exits

section Audited

variable (d : Deployment) (job : Job) (o : Outside) (w : World)

theorem not_unaudited_mintValid (body : MintRequest) : ¬ Unaudited (mintValid d.settings body) := by
  simp [mintValid, unaudited_bind, not_unaudited_usernameGate, not_unaudited_lifetimesGate]

/-- For a check whose every refusal escapes, what comes later escapes in any
case it does. -/
theorem or_of_passes {p q r : Prop} (h : ¬ p ↔ q) : p ∨ (q ∧ r) ↔ p ∨ r := by
  rw [← h]
  by_cases hp : p <;> simp [hp]

theorem unaudited_preparation {α : Type} (env : Env) (writesInput : Bool)
    (rest : Except Refusal α) :
    Unaudited (do preparedGate env writesInput; rest) ↔
      ¬ Prepared env writesInput ∨ Unaudited rest := by
  rw [unaudited_gate, unaudited_preparedGate, preparedGate_ok_iff, or_of_passes not_not]

theorem unaudited_passwordGate_bind {α : Type} (password : PyStr) (rest : Except Refusal α) :
    Unaudited (do passwordGate password; rest) ↔ password.encode = none ∨ Unaudited rest := by
  rw [unaudited_gate, unaudited_passwordGate, passwordGate_ok_iff, or_of_passes Iff.rfl]

theorem unaudited_limiterGate_bind {α : Type} (allowed : Except RateLimitedError Unit)
    (rest : Except Refusal α) :
    Unaudited (do limiterGate allowed; rest) ↔ allowed = .ok () ∧ Unaudited rest := by
  rw [unaudited_gate, limiterGate_ok_iff, or_iff_right (not_unaudited_limiterGate allowed)]

theorem unaudited_base64Gate_bind {α : Type} (text detail : PyStr) (rest : Except Refusal α) :
    Unaudited (do base64Gate text detail; rest) ↔ b64decode text ≠ none ∧ Unaudited rest := by
  rw [unaudited_gate, base64Gate_ok_iff, or_iff_right (not_unaudited_base64Gate text detail)]

/-- What escapes a plan: something before its child, or after it. -/
theorem unaudited_mint (env : Env) (w₁ : World) (body : MintRequest) :
    Unaudited (do
        (mintPlan d.settings d.krb5 env body).opening
          ((mintPlan d.settings d.krb5 env body).allowed w₁)
        (mintPlan d.settings d.krb5 env body).closing o.child) ↔
      EndpointEscapes d env o w₁ (.mint body) := by
  rw [mintPlan_opening, bind_assoc, unaudited_gate,
    or_iff_right (not_unaudited_mintValid d body), EndpointEscapes]
  refine and_congr_right fun hValid => ?_
  have hClosing : Unaudited ((mintPlan d.settings d.krb5 env body).closing o.child) ↔
      TicketEscapes d env o.child := unaudited_ticket d env body.password.isNone o.child
  cases hMode : body.password with
  | some password =>
      have hChecks := mintPlan_checks_of_password d.settings d.krb5 env hValid hMode
      have hAllowed : (mintPlan d.settings d.krb5 env body).allowed w₁ =
          (w₁.limiter.check body.username w₁.now).1 := by simp [Plan.allowed, hChecks]
      simp only [bind_assoc, unaudited_limiterGate_bind, unaudited_passwordGate_bind,
        unaudited_preparation, hClosing, hAllowed]
  | none =>
      simp only [bind_assoc, unaudited_base64Gate_bind, unaudited_preparation, hClosing]

theorem unaudited_renew (env : Env) (w₁ : World) (body : RenewRequest) :
    Unaudited (do
        (renewPlan d.settings d.krb5 env body).opening
          ((renewPlan d.settings d.krb5 env body).allowed w₁)
        (renewPlan d.settings d.krb5 env body).closing o.child) ↔
      EndpointEscapes d env o w₁ (.renew body) := by
  have hClosing : Unaudited ((renewPlan d.settings d.krb5 env body).closing o.child) ↔
      RenewalEscapes d env o.child := unaudited_renewal d env o.child
  simp only [renewPlan_opening, bind_assoc, unaudited_base64Gate_bind, unaudited_preparation]
  simp only [unaudited_gate, unaudited_ccacheGate, ccacheGate_ok_iff, hClosing, EndpointEscapes]
  cases b64decode body.ccacheB64 with
  | none => simp
  | some ccache => simp

theorem unaudited_keytabRequest (env : Env) (w₁ : World) (body : KeytabRequest) :
    Unaudited (do
        (keytabPlan d.settings env body).opening ((keytabPlan d.settings env body).allowed w₁)
        (keytabPlan d.settings env body).closing o.child) ↔
      EndpointEscapes d env o w₁ (.keytab body) := by
  rw [keytabPlan_opening, bind_assoc, unaudited_gate,
    or_iff_right (not_unaudited_usernameGate body.username), EndpointEscapes]
  refine and_congr_right fun hUser => ?_
  have hClosing : Unaudited ((keytabPlan d.settings env body).closing o.child) ↔
      KeytabEscapes env o.child := unaudited_keytab d env _ o.child
  have hChecks := keytabPlan_checks_of_valid d.settings env hUser
  have hAllowed : (keytabPlan d.settings env body).allowed w₁ =
      (w₁.limiter.check body.username w₁.now).1 := by simp [Plan.allowed, hChecks]
  simp only [bind_assoc, unaudited_limiterGate_bind, unaudited_passwordGate_bind,
    unaudited_preparation, hClosing, hAllowed]

theorem unaudited_endpoint (w₁ : World) :
    Unaudited (do
        (job.plan d).opening ((job.plan d).allowed w₁)
        (job.plan d).closing o.child) ↔
      EndpointEscapes d job.env o w₁ job.endpoint := by
  have hMap {α : Type} (plan : Plan α) (f : α → Response) :
      Unaudited (do (plan.map f).opening ((plan.map f).allowed w₁); (plan.map f).closing o.child) ↔
        Unaudited (do plan.opening (plan.allowed w₁); plan.closing o.child) := by
    rw [unaudited_gate, unaudited_gate]
    exact or_congr Iff.rfl (and_congr Iff.rfl (unaudited_map f))
  unfold Job.plan
  cases job.endpoint with
  | mint body => rw [hMap, unaudited_mint]
  | renew body => rw [hMap, unaudited_renew]
  | keytab body => rw [hMap, unaudited_keytabRequest]

/-- The outcome of a run is unaudited exactly on the inputs that let an
exception escape. -/
theorem unaudited_verdict : Unaudited (job.verdict d o w) ↔ Escapes d job o w := by
  unfold Job.verdict Job.outset Escapes
  cases hToken : job.request.credentials with
  | none => simp [unaudited_gate]
  | some token =>
      dsimp only [Job.opening]
      rw [bind_assoc, unaudited_bind, unaudited_authentication d job hToken]
      simp only [unaudited_endpoint, Option.some.injEq, exists_eq_left', exists_and_right]

end Audited

/-- What one audit line means for a request that ended with this verdict. -/
theorem auditedOnce_iff_audited {before : World} {result : Except PyExc Response × World}
    {verdict : Except Refusal Response} (hResponse : result.1 = .ok (answerOf verdict))
    (hAudits : audits result.2.log = audits before.log ++ (audited verdict).toList)
    (hOk : ∀ response, verdict = .ok response → response.status = 200) :
    AuditedOnce before result ↔ audited verdict ≠ none := by
  constructor
  · rintro ⟨_, outcome, _, hOnce, _⟩ hNone
    rw [hAudits, hNone] at hOnce
    simp at hOnce
  · intro hSome
    cases verdict with
    | ok response =>
        have hStatus := hOk response rfl
        exact ⟨response, .issued, hResponse, hAudits, by simp [hStatus]⟩
    | error refusal =>
        cases hAudited : refusal.audited with
        | none => exact absurd hAudited hSome
        | some outcome =>
            have hFits := refusal.fits
            rw [hAudited] at hFits
            refine ⟨refusal.response, outcome, hResponse, ?_, ?_⟩
            · rw [hAudits, audited, hAudited]
              rfl
            · cases outcome with
              | issued => exact hFits.elim
              | denied =>
                  obtain ⟨hLow, hHigh⟩ := hFits
                  simp
                  omega
              | error =>
                  obtain ⟨hLow, hHigh⟩ := hFits
                  simp
                  omega

/-- A run is audited once, under a fitting outcome, exactly when no input lets
an exception escape. -/
theorem audited_once_iff (d : Deployment) (job : Job) (o : Outside) (w : World) :
    AuditedOnce w (job.run d o w) ↔ ¬ Escapes d job o w := by
  have hRun := job.runsTo d o w
  rw [auditedOnce_iff_audited hRun.response hRun.audits
    fun response hOk => (job.verdict_ok d o w hOk).1, ← unaudited_verdict, unaudited_iff]

/-- A `kinit` that exits 0 and leaves bytes libkrb5 cannot read: `mint` has no
except clause for the `CcacheParseError`. -/
theorem unreadable_output_not_audited :
    ¬ AuditedOnce sampleWorld
      (Job.run sampleDeployment (sampleJob sampleEnv)
        (sampleOutside (.exited 0 [] [] (some [0x00]))) sampleWorld) := by
  have hNone : audits (Job.run sampleDeployment (sampleJob sampleEnv)
      (sampleOutside (.exited 0 [] [] (some [0x00]))) sampleWorld).2.log = [] := by decide
  rintro ⟨_, outcome, _, hOnce, _⟩
  rw [hNone] at hOnce
  cases hOnce

end Krb5TokenService.Service
