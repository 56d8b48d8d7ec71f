import Krb5TokenService.Service.Audited

/-! Where no except clause accounts for an exception, no audit line is written
and the client gets the framework's own 500; everywhere else it gets what the
handler says. -/
namespace Krb5TokenService.Service

open Python Python.Base64 EventLoop
open RateLimit Identity Minting

section Candour

variable {α β : Type}

/-- A refusal goes without an audit line exactly when the framework answers
with its own 500. -/
def Candid (verdict : Except Refusal α) : Prop :=
  ∀ refusal, verdict = .error refusal →
    (refusal.audited = none ↔ refusal.response.body = .internalServerError)

/-- No `HTTPException` of a handler's own. -/
def NotHttp (result : Except PyExc α) : Prop :=
  ∀ status detail headers, result ≠ .error (.httpException status detail headers)

theorem candid_ok (value : α) : Candid (.ok value : Except Refusal α) := fun _ h => nomatch h

theorem candid_denied {status : Nat} (detail : PyStr) (hStatus : 400 ≤ status ∧ status < 500) :
    Candid (.error (.denied status detail hStatus) : Except Refusal α) := by
  rintro refusal ⟨⟩
  simp [Refusal.denied]

theorem candid_failed (detail : PyStr) : Candid (.error (.failed detail) : Except Refusal α) := by
  rintro refusal ⟨⟩
  simp [Refusal.failed]

theorem candid_unauthorized (detail : PyStr) :
    Candid (.error (.unauthorized detail) : Except Refusal α) := by
  rintro refusal ⟨⟩
  simp [Refusal.unauthorized]

/-- An exception that no handler answers is the framework's to answer. -/
theorem candid_raised {exc : PyExc} (h : NotHttp (.error exc : Except PyExc α)) :
    Candid (.error (.raised exc) : Except Refusal β) := by
  rintro refusal ⟨⟩
  cases exc with
  | httpException status detail headers => exact absurd rfl (h status detail headers)
  | _ => simp [Refusal.raised, errorResponse]

/-- A check may go before others. -/
theorem Candid.bind {verdict : Except Refusal α} (h : Candid verdict)
    {rest : α → Except Refusal β} (hRest : ∀ value, Candid (rest value)) :
    Candid (verdict >>= rest) := by
  cases verdict with
  | ok value => exact hRest value
  | error refusal =>
      rintro refusal' ⟨⟩
      exact h refusal rfl

theorem Candid.map {verdict : Except Refusal α} (h : Candid verdict) (f : α → β) :
    Candid (verdict.map f) := by
  cases verdict with
  | ok value => exact candid_ok (f value)
  | error refusal =>
      rintro refusal' ⟨⟩
      exact h refusal rfl

/-- A username outside the alphabet is a 422, with its line. -/
theorem candid_usernameGate (username : PyStr) : Candid (usernameGate username) := by
  unfold usernameGate
  cases validateUsername username with
  | ok _ => exact candid_ok ()
  | error exc => exact candid_denied _ _

theorem candid_lifetimesGate (lifetime renewableLifetime : PyStr) :
    Candid (lifetimesGate lifetime renewableLifetime) := by
  unfold lifetimesGate
  split
  · exact candid_ok ()
  · exact candid_denied _ _

/-- A locked account is a 429, with its line. -/
theorem candid_limiterGate (allowed : Except RateLimitedError Unit) :
    Candid (limiterGate allowed) := by
  cases allowed with
  | ok _ => exact candid_ok ()
  | error exc => exact candid_denied _ _

/-- An exception of another class. -/
theorem notHttp_error {exc : PyExc}
    (h : ∀ status detail headers, exc ≠ .httpException status detail headers) :
    NotHttp (.error exc : Except PyExc α) :=
  fun status detail headers hEq => h status detail headers (Except.error.inj hEq)

/-- A password that UTF-8 cannot encode is nobody's to answer. -/
theorem candid_passwordGate (password : PyStr) : Candid (passwordGate password) := by
  unfold passwordGate
  cases password.encode with
  | none => exact candid_raised (α := Unit) (notHttp_error (by simp))
  | some bytes => exact candid_ok ()

theorem candid_base64Gate (text detail : PyStr) : Candid (base64Gate text detail) := by
  unfold base64Gate
  cases b64decode text with
  | none => exact candid_denied _ _
  | some bytes => exact candid_ok ()

/-- Nor is a private directory that cannot be made. -/
theorem candid_preparedGate (env : Env) (writesInput : Bool) :
    Candid (preparedGate env writesInput) := by
  unfold preparedGate
  split
  · exact candid_ok ()
  · exact candid_raised (α := Unit) (notHttp_error (by simp))

/-- A token that does not verify is refused with a line; a JWK that PyJWT
cannot read is not. -/
theorem candid_authentication (d : Deployment) (job : Job) (reply : JwksReply) :
    Candid (job.authentication d reply) := by
  unfold Job.authentication authentication
  split
  · exact candid_unauthorized _
  · split
    · split
      · exact candid_ok _
      · exact candid_unauthorized _
      · refine candid_raised (α := Unit) (notHttp_error fun status detail headers => ?_)
        rename_i error _
        cases error <;> simp [TokenError.toPyExc]
    · exact candid_failed _
    · exact candid_raised (α := Unit) (notHttp_error (by simp))
    · exact candid_raised (α := Unit) (notHttp_error (by simp))

section Verdicts

/-- What the removal of the private directory raises is an `OSError`. -/
theorem notHttp_removed (env : Env) {result : Except PyExc α} (h : NotHttp result) :
    NotHttp (removed env result) := by
  unfold removed
  split
  · exact h
  · exact notHttp_error (by simp)

/-- A child's end is raised as a class of the classifier, or as a
`MintingError`. -/
theorem notHttp_child {binary : PyStr} {classify : PyStr → Option PyExc} {unclassified : PyStr}
    {succeeded : Option Bytes → Except PyExc α}
    (hClasses : ∀ stderr exc, classify stderr = some exc → NotHttp (.error exc : Except PyExc α))
    (hSucceeded : ∀ output, NotHttp (succeeded output)) (reply : ChildReply) :
    NotHttp (childVerdict binary (failureVerdict classify unclassified) succeeded reply) := by
  cases reply with
  | exited returncode stdout stderr output =>
      change NotHttp (if returncode ≠ 0 then .error (failureVerdict classify unclassified
        returncode (stderrText stderr)) else succeeded output)
      split
      · obtain ⟨exc, hClass, hExc⟩ | ⟨message, hExc⟩ :=
          failureVerdict_cases classify unclassified returncode (stderrText stderr)
        · rw [hExc]
          exact hClasses _ exc hClass
        · rw [hExc]
          exact notHttp_error (by simp)
      · exact hSucceeded output
  | _ => exact notHttp_error (by simp)

theorem notHttp_outputVerdict (env : Env) (noFile emptyFile : PyStr) (output : Option Bytes) :
    NotHttp (outputVerdict env noFile emptyFile output) := by
  unfold outputVerdict
  split
  · split
    · exact notHttp_error (by simp)
    · simp [NotHttp]
  · exact notHttp_error (by simp)

theorem notHttp_bind {result : Except PyExc α} (h : NotHttp result)
    {rest : α → Except PyExc β} (hRest : ∀ a, NotHttp (rest a)) : NotHttp (result >>= rest) := by
  cases result with
  | ok a => exact hRest a
  | error exc =>
      intro status detail headers hEq
      exact h status detail headers (congrArg Except.error (Except.error.inj hEq))

theorem notHttp_readCcache (krb5 : Krb5) (failure : Option PyStr) (contents : Option Bytes) :
    NotHttp (readCcache krb5 failure contents) := by
  intro status detail headers hRead
  obtain ⟨message, hExc⟩ | ⟨message, hExc⟩ := readCcache_error hRead <;> cases hExc

/-- `mint_ticket` raises no `HTTPException`, whatever its child does. -/
theorem notHttp_ticketVerdict (settings : Settings) (krb5 : Krb5) (env : Env) (keytabMode : Bool)
    (reply : ChildReply) : NotHttp (ticketVerdict settings krb5 env keytabMode reply) := by
  unfold ticketVerdict
  rw [map_eq_pure_bind]
  refine notHttp_bind (notHttp_removed env (notHttp_child (fun stderr exc hClass => ?_)
    (fun output => ?_) reply)) fun _ => by simp [NotHttp, pure, Except.pure]
  · refine notHttp_error fun _ _ _ => ?_
    cases keytabMode with
    | false =>
        obtain rfl | rfl | rfl | rfl := classifyPasswordStderr_cases hClass <;> simp
    | true =>
        obtain rfl | rfl | rfl := classifyKeytabStderr_cases hClass <;> simp
  · exact notHttp_bind (notHttp_outputVerdict env _ _ output) fun contents =>
      notHttp_bind (notHttp_readCcache krb5 _ _) fun _ => by simp [NotHttp, pure, Except.pure]

theorem notHttp_renewalVerdict (settings : Settings) (krb5 : Krb5) (env : Env)
    (reply : ChildReply) : NotHttp (renewalVerdict settings krb5 env reply) := by
  unfold renewalVerdict
  rw [map_eq_pure_bind]
  refine notHttp_bind (notHttp_removed env (notHttp_child (fun stderr exc hClass => ?_)
    (fun output => ?_) reply)) fun _ => by simp [NotHttp, pure, Except.pure]
  · obtain rfl := classifyRenewStderr_cases hClass
    exact notHttp_error (by simp)
  · refine notHttp_bind ?_ fun contents =>
      notHttp_bind (notHttp_readCcache krb5 _ _) fun _ => by simp [NotHttp, pure, Except.pure]
    unfold renewedBytesVerdict
    split
    · exact notHttp_error (by simp)
    · exact notHttp_error (by simp)
    · split
      · exact notHttp_error (by simp)
      · simp [NotHttp]

theorem notHttp_keytabVerdict (settings : Settings) (env : Env) (reply : ChildReply) :
    NotHttp (keytabVerdict settings env reply) := by
  refine notHttp_removed env (notHttp_child (fun stderr exc hClass => ?_)
    (fun output => notHttp_outputVerdict env _ _ output) reply)
  obtain rfl := classifyCernGetKeytabStderr_cases hClass
  exact notHttp_error (by simp)

/-- The except clauses of `mint`, by the class that they meet. -/
theorem candid_mintExit {result : Except PyExc MintedTicket} (h : NotHttp result) :
    Candid (mintExit result) := by
  cases result with
  | ok minted => exact candid_ok _
  | error exc =>
      cases exc with
      | badPassword | badKeytab | unknownPrincipal | accountUnusable => exact candid_denied _ _
      | minting => exact candid_failed _
      | _ => exact candid_raised h

theorem candid_renewExit {result : Except PyExc MintedTicket} (h : NotHttp result) :
    Candid (renewExit result) := by
  cases result with
  | ok minted => exact candid_ok _
  | error exc =>
      cases exc with
      | ccacheParse | ticketExpired => exact candid_denied _ _
      | minting => exact candid_failed _
      | _ => exact candid_raised h

theorem candid_keytabExit (principal : PyStr) {result : Except PyExc Bytes} (h : NotHttp result) :
    Candid (keytabExit principal result) := by
  cases result with
  | ok keytab => exact candid_ok _
  | error exc =>
      cases exc with
      | badPassword => exact candid_denied _ _
      | minting => exact candid_failed _
      | _ => exact candid_raised h

/-- The caller's own cache is parsed inside the `try` of `renew`. -/
theorem candid_ccacheGate (krb5 : Krb5) (env : Env) (ccache : Bytes) :
    Candid (ccacheGate krb5 env ccache) := by
  unfold ccacheGate
  have hRead := notHttp_readCcache krb5 env.krb5Input (some ccache)
  cases hResult : readCcache krb5 env.krb5Input (some ccache) with
  | ok info => exact candid_ok ()
  | error exc =>
      rw [hResult] at hRead
      refine Candid.map (candid_renewExit (notHttp_removed env ?_)) _
      exact notHttp_error fun status detail headers hExc =>
        hRead status detail headers (congrArg Except.error hExc)

end Verdicts

/-- Whatever the child does, its request is candid about it. -/
theorem candid_closing (d : Deployment) (job : Job) (reply : ChildReply) :
    Candid ((job.plan d).closing reply) := by
  unfold Job.plan
  cases job.endpoint with
  | mint body => exact (candid_mintExit (notHttp_ticketVerdict _ _ _ _ _)).map _
  | renew body => exact (candid_renewExit (notHttp_renewalVerdict _ _ _ _)).map _
  | keytab body => exact (candid_keytabExit _ (notHttp_keytabVerdict _ _ _)).map _

/-- So is a request that gets no child. -/
theorem candid_opening (d : Deployment) (job : Job) (reply : JwksReply) (w : World) :
    Candid (job.opening d reply w) := by
  refine (candid_authentication d job reply).bind fun _ => ?_
  generalize (job.plan d).allowed w = allowed
  unfold Job.plan
  cases job.endpoint with
  | mint body =>
      simp only [Plan.map, mintPlan_opening]
      refine Candid.bind
        ((candid_usernameGate _).bind fun _ => candid_lifetimesGate _ _) fun _ => ?_
      cases body.password with
      | some password =>
          exact (candid_limiterGate _).bind fun _ => (candid_passwordGate _).bind fun _ =>
            candid_preparedGate _ _
      | none => exact (candid_base64Gate _ _).bind fun _ => candid_preparedGate _ _
  | renew body =>
      exact (candid_base64Gate _ _).bind fun _ => (candid_preparedGate _ _).bind fun _ =>
        candid_ccacheGate _ _ _
  | keytab body =>
      exact (candid_usernameGate _).bind fun _ => (candid_limiterGate _).bind fun _ =>
        (candid_passwordGate _).bind fun _ => candid_preparedGate _ _

end Candour

end Krb5TokenService.Service
