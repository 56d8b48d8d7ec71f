import Krb5TokenService.Minting.Frame
import Krb5TokenService.Minting.Verdict
import Krb5TokenService.RateLimit.Serial
import Krb5TokenService.Service.App

/-! What a request comes to, as values: the refusal or the value it ends with,
the outcome it is audited under, and what it asks of the limiter. A plan says
this for one handler, before its child and after. -/
namespace Krb5TokenService.Service

open Python Python.Base64 EventLoop EventLoop.Task Krb5TokenService.Action
open RateLimit Identity Minting

/-- A refused request is audited as `denied` under a 4xx and as `error` under
a 5xx, or not at all. -/
def OutcomeFits (status : Nat) : Option Outcome → Prop
  | none => True
  | some .issued => False
  | some .denied => 400 ≤ status ∧ status < 500
  | some .error => 500 ≤ status ∧ status < 600

/-- How a handler ends without a value: what the client gets, and the outcome
it is audited under, which is `none` when an exception escapes with no audit
line. No refusal carries a credential. -/
structure Refusal where
  response : Response
  audited : Option Outcome
  fits : OutcomeFits response.status audited
  withheld : ¬ response.body.Issued

namespace Refusal

def denied (status : Nat) (detail : PyStr)
    (hStatus : 400 ≤ status ∧ status < 500 := by decide) : Refusal :=
  ⟨⟨status, .detail detail, []⟩, some .denied, hStatus, id⟩

def failed (detail : PyStr) : Refusal :=
  ⟨⟨502, .detail detail, []⟩, some .error, by norm_num [OutcomeFits], id⟩

/-- An exception that no except clause of the handler accounts for. -/
def raised (exc : PyExc) : Refusal :=
  ⟨errorResponse exc, none, trivial, errorResponse_withheld exc⟩

def unauthorized (detail : PyStr) : Refusal :=
  ⟨⟨401, .detail detail, bearerChallenge⟩, some .denied, by norm_num [OutcomeFits], id⟩

end Refusal

section Verdicts

variable {α : Type}

/-- The audit line of a whole request: a value is `issued`. -/
def audited : Except Refusal α → Option Outcome
  | .ok _ => some .issued
  | .error refusal => refusal.audited

def responseOf (body : α → Body) : Except Refusal α → Response
  | .ok value => ⟨200, body value, []⟩
  | .error refusal => refusal.response

/-- What a task returned or raised is what its verdict says. -/
def Agrees : Except PyExc α → Except Refusal α → Prop
  | .ok value, .ok value' => value = value'
  | .error exc, .error refusal => errorResponse exc = refusal.response
  | _, _ => False

theorem Agrees.respond {result : Except PyExc α} {verdict : Except Refusal α}
    (h : Agrees result verdict) (body : α → Body) :
    respond body result = responseOf body verdict := by
  cases result with
  | ok value =>
      cases verdict with
      | ok value' =>
          obtain rfl : value = value' := h
          rfl
      | error refusal => exact h.elim
  | error exc =>
      cases verdict with
      | ok value' => exact h.elim
      | error refusal => exact h

end Verdicts

/-- What happens up to the child, given whether the limiter lets the request
pass; and by the child's end, the outcome and what the limiter is told. -/
structure Plan (α : Type) where
  checks : Option PyStr
  opening : Except RateLimitedError Unit → Except Refusal Unit
  closing : ChildReply → Except Refusal α
  ending : ChildReply → Ending

namespace Plan

variable {α : Type} (plan : Plan α) (limits : Limits)

/-- What the limiter says, if it is asked. -/
def allowed (w : World) : Except RateLimitedError Unit :=
  match plan.checks with
  | none => .ok ()
  | some username => (w.limiter.check username w.now).1

def checked (w : World) : LimiterState :=
  match plan.checks with
  | none => w.limiter
  | some username => (w.limiter.check username w.now).2

def settled (ending : Ending) (w : World) : LimiterState :=
  match plan.checks with
  | none => w.limiter
  | some username => w.limiter.settle limits username w.now ending

/-- The same plan with another form of its value. -/
def map {β : Type} (f : α → β) : Plan β where
  checks := plan.checks
  opening := plan.opening
  closing reply := (plan.closing reply).map f
  ending := plan.ending

variable {plan} {w w' : World}

theorem allowed_congr (hLimiter : w'.limiter = w.limiter) (hNow : w'.now = w.now) :
    plan.allowed w' = plan.allowed w := by
  rw [allowed, allowed, hLimiter, hNow]

theorem checked_congr (hLimiter : w'.limiter = w.limiter) (hNow : w'.now = w.now) :
    plan.checked w' = plan.checked w := by
  rw [checked, checked, hLimiter, hNow]

theorem settled_congr (hLimiter : w'.limiter = w.limiter) (hNow : w'.now = w.now)
    (ending : Ending) : plan.settled limits ending w' = plan.settled limits ending w := by
  rw [settled, settled, hLimiter, hNow]

theorem settled_of_none (h : plan.checks = none) (ending : Ending) :
    plan.settled limits ending = World.limiter := by
  funext w
  simp [settled, h]

theorem settled_of_some {username : PyStr} (h : plan.checks = some username) (ending : Ending) :
    plan.settled limits ending =
      fun w => w.limiter.settle limits username w.now ending := by
  funext w
  simp [settled, h]

end Plan

/-- How a handler's first part ends, with the claims or a refusal. -/
def authentication (jwt : PyJwt) (settings : Settings) (env : Env) (request : Request)
    (reply : JwksReply) : Except Refusal Caller :=
  match request.credentials with
  | none => .error (.unauthorized (py "Not authenticated"))
  | some token =>
      match reply with
      | .keys keys =>
          match verdict jwt settings keys token with
          | .accepted claims => .ok ⟨claims, orDefault request.xRequestId env.uuid⟩
          | .rejected _ => .error (.unauthorized (py "Invalid or expired token"))
          | .escaped error => .error (.raised error.toPyExc)
      | .unreachable =>
          .error (.failed (py "Unable to reach JWKS endpoint: " ++ settings.brokerJwksUrl))
      | .noLength => .error (.raised (.typeError (py "object has no len()")))
      | .cancelled => .error (.raised .cancelled)

section Gates

def usernameGate (username : PyStr) : Except Refusal Unit :=
  match validateUsername username with
  | .ok () => .ok ()
  | .error _ => .error (.denied 422 (py "invalid username"))

def lifetimesGate (lifetime renewableLifetime : PyStr) : Except Refusal Unit :=
  match validateLifetime lifetime, validateLifetime renewableLifetime with
  | .ok (), .ok () => .ok ()
  | _, _ => .error (.denied 422 (py "invalid lifetime"))

def limiterGate : Except RateLimitedError Unit → Except Refusal Unit
  | .ok () => .ok ()
  | .error exc => .error (.denied 429 (py exc.message))

def passwordGate (password : PyStr) : Except Refusal Unit :=
  match password.encode with
  | none => .error (.raised (.valueError (py "surrogates not allowed")))
  | some _ => .ok ()

def base64Gate (text detail : PyStr) : Except Refusal Unit :=
  match b64decode text with
  | none => .error (.denied 422 detail)
  | some _ => .ok ()

/-- The file-system steps before the child, none of whose errors the handlers
catch. -/
def preparedGate (env : Env) (writesInput : Bool) : Except Refusal Unit :=
  if Prepared env writesInput then .ok () else .error (.raised (.osError []))

/-- A request passes two checks in a row exactly when it passes both. -/
theorem gates_ok_iff {gate rest : Except Refusal Unit} :
    (do gate; rest) = .ok () ↔ gate = .ok () ∧ rest = .ok () := by
  cases gate with
  | ok _ => simp [bind, Except.bind]
  | error refusal => simp [bind, Except.bind]

@[simp] theorem limiterGate_ok_iff (allowed : Except RateLimitedError Unit) :
    limiterGate allowed = .ok () ↔ allowed = .ok () := by
  cases allowed <;> simp [limiterGate]

@[simp] theorem passwordGate_ok_iff (password : PyStr) :
    passwordGate password = .ok () ↔ password.encode ≠ none := by
  unfold passwordGate
  cases password.encode <;> simp

@[simp] theorem base64Gate_ok_iff (text detail : PyStr) :
    base64Gate text detail = .ok () ↔ b64decode text ≠ none := by
  unfold base64Gate
  cases b64decode text <;> simp

@[simp] theorem preparedGate_ok_iff (env : Env) (writesInput : Bool) :
    preparedGate env writesInput = .ok () ↔ Prepared env writesInput := by
  unfold preparedGate
  split <;> simp_all

end Gates

/-- `mint`'s exits once `mint_ticket` has ended. -/
def mintExit : Except PyExc MintedTicket → Except Refusal MintResponse
  | .ok minted => .ok (mintResponse minted)
  | .error (.badPassword _) => .error (.denied 400 (py "bad password"))
  | .error (.badKeytab _) => .error (.denied 400 (py "bad keytab"))
  | .error (.unknownPrincipal _) => .error (.denied 400 (py "unknown principal"))
  | .error (.accountUnusable detail) => .error (.denied 403 detail)
  | .error (.minting _) => .error (.failed (py "Ticket minting failed."))
  | .error exc => .error (.raised exc)

def renewExit : Except PyExc MintedTicket → Except Refusal MintResponse
  | .ok minted => .ok (mintResponse minted)
  | .error (.ccacheParse _) => .error (.denied 422 (py "invalid ccache"))
  | .error (.ticketExpired detail) => .error (.denied 400 detail)
  | .error (.minting _) => .error (.failed (py "Ticket renewal failed."))
  | .error exc => .error (.raised exc)

theorem renewExit_error (exc : PyExc) : ∃ refusal, renewExit (.error exc) = .error refusal := by
  cases exc <;> exact ⟨_, rfl⟩

/-- The parse of the caller's own cache, before `kinit -R`: its error takes the
way out of the directory and through the same except clauses. -/
def ccacheGate (krb5 : Krb5) (env : Env) (ccache : Bytes) : Except Refusal Unit :=
  match readCcache krb5 env.krb5Input (some ccache) with
  | .ok _ => .ok ()
  | .error exc => (renewExit (removed env (.error exc))).map fun _ => ()

/-- The gate is passed exactly by a cache that parses. -/
theorem ccacheGate_ok_iff (krb5 : Krb5) (env : Env) (ccache : Bytes) :
    ccacheGate krb5 env ccache = .ok () ↔
      ∃ info, readCcache krb5 env.krb5Input (some ccache) = .ok info := by
  unfold ccacheGate
  cases readCcache krb5 env.krb5Input (some ccache) with
  | ok info => simp
  | error exc =>
      obtain ⟨exc', hRemoved⟩ := removed_error env MintedTicket exc
      obtain ⟨refusal, hExit⟩ := renewExit_error exc'
      simp [hRemoved, hExit, Except.map]

def keytabExit (principal : PyStr) : Except PyExc Bytes → Except Refusal KeytabResponse
  | .ok keytab => .ok ⟨b64encode keytab, principal⟩
  | .error (.badPassword _) => .error (.denied 400 (py "bad password"))
  | .error (.minting _) => .error (.failed (py "Keytab generation failed."))
  | .error exc => .error (.raised exc)

/-- What a password request tells the limiter about its child. -/
def endingOf {α : Type} : Except PyExc α → Ending
  | .ok _ => .ok
  | .error (.badPassword _) => .bad
  | .error _ => .other

section

variable (settings : Settings) (krb5 : Krb5) (env : Env)

/-- The checks of `mint` that come before the limiter's. -/
def mintValid (body : MintRequest) : Except Refusal Unit := do
  usernameGate body.username
  lifetimesGate (orDefault body.lifetime settings.defaultLifetime)
    (orDefault body.renewableLifetime settings.defaultRenewableLifetime)

def mintPlan (body : MintRequest) : Plan MintResponse where
  checks := if (mintValid settings body).isOk ∧ body.password.isSome then some body.username
    else none
  opening allowed := do
    mintValid settings body
    match body.password with
    | some password =>
        limiterGate allowed
        passwordGate password
        preparedGate env false
    | none =>
        base64Gate (body.keytabB64.getD []) (py "invalid keytab_b64")
        preparedGate env true
  closing reply := mintExit (ticketVerdict settings krb5 env body.password.isNone reply)
  ending reply := endingOf (ticketVerdict settings krb5 env body.password.isNone reply)

theorem mintPlan_opening (body : MintRequest) (allowed : Except RateLimitedError Unit) :
    (mintPlan settings krb5 env body).opening allowed = (do
      mintValid settings body
      match body.password with
      | some password =>
          limiterGate allowed
          passwordGate password
          preparedGate env false
      | none =>
          base64Gate (body.keytabB64.getD []) (py "invalid keytab_b64")
          preparedGate env true) := rfl

def renewPlan (body : RenewRequest) : Plan MintResponse where
  checks := none
  opening _ := do
    base64Gate body.ccacheB64 (py "invalid ccache_b64")
    preparedGate env true
    ccacheGate krb5 env ((b64decode body.ccacheB64).getD [])
  closing reply := renewExit (renewalVerdict settings krb5 env reply)
  ending reply := endingOf (renewalVerdict settings krb5 env reply)

def keytabPlan (body : KeytabRequest) : Plan KeytabResponse where
  checks := if (usernameGate body.username).isOk then some body.username else none
  opening allowed := do
    usernameGate body.username
    limiterGate allowed
    passwordGate body.password
    preparedGate env false
  closing reply := keytabExit (body.username ++ py "@" ++ settings.defaultRealm)
    (keytabVerdict settings env reply)
  ending reply := endingOf (keytabVerdict settings env reply)

theorem renewPlan_opening (body : RenewRequest) (allowed : Except RateLimitedError Unit) :
    (renewPlan settings krb5 env body).opening allowed = (do
      base64Gate body.ccacheB64 (py "invalid ccache_b64")
      preparedGate env true
      ccacheGate krb5 env ((b64decode body.ccacheB64).getD [])) := rfl

theorem keytabPlan_opening (body : KeytabRequest) (allowed : Except RateLimitedError Unit) :
    (keytabPlan settings env body).opening allowed = (do
      usernameGate body.username
      limiterGate allowed
      passwordGate body.password
      preparedGate env false) := rfl

section Opens

variable {settings krb5 env} {allowed : Except RateLimitedError Unit}

theorem mintPlan_opens_password {body : MintRequest} {password : PyStr}
    (hMode : body.password = some password) :
    (mintPlan settings krb5 env body).opening allowed = .ok () ↔
      mintValid settings body = .ok () ∧ allowed = .ok () ∧
        (∃ bytes, password.encode = some bytes) ∧ Prepared env false := by
  simp only [mintPlan_opening, hMode, gates_ok_iff, limiterGate_ok_iff, passwordGate_ok_iff,
    preparedGate_ok_iff, Option.ne_none_iff_exists']

theorem mintPlan_opens_keytab {body : MintRequest} (hMode : body.password = none) :
    (mintPlan settings krb5 env body).opening allowed = .ok () ↔
      mintValid settings body = .ok () ∧
        (∃ keytab, b64decode (body.keytabB64.getD []) = some keytab) ∧ Prepared env true := by
  simp only [mintPlan_opening, hMode, gates_ok_iff, base64Gate_ok_iff, preparedGate_ok_iff,
    Option.ne_none_iff_exists']

/-- In both modes the text fields are checked first. -/
theorem mintPlan_opens_valid {body : MintRequest}
    (h : (mintPlan settings krb5 env body).opening allowed = .ok ()) :
    mintValid settings body = .ok () := by
  rw [mintPlan_opening, gates_ok_iff] at h
  exact h.1

theorem renewPlan_opens {body : RenewRequest} :
    (renewPlan settings krb5 env body).opening allowed = .ok () ↔
      ∃ ccache info, b64decode body.ccacheB64 = some ccache ∧
        readCcache krb5 env.krb5Input (some ccache) = .ok info ∧ Prepared env true := by
  simp only [renewPlan_opening, gates_ok_iff, base64Gate_ok_iff, preparedGate_ok_iff,
    ccacheGate_ok_iff]
  constructor
  · rintro ⟨hDecodes, hPrepared, info, hInfo⟩
    obtain ⟨ccache, hCcache⟩ := Option.ne_none_iff_exists'.mp hDecodes
    rw [hCcache, Option.getD_some] at hInfo
    exact ⟨ccache, info, hCcache, hInfo, hPrepared⟩
  · rintro ⟨ccache, info, hCcache, hInfo, hPrepared⟩
    rw [hCcache, Option.getD_some]
    exact ⟨Option.some_ne_none ccache, hPrepared, info, hInfo⟩

theorem keytabPlan_opens {body : KeytabRequest} :
    (keytabPlan settings env body).opening allowed = .ok () ↔
      usernameGate body.username = .ok () ∧ allowed = .ok () ∧
        (∃ bytes, body.password.encode = some bytes) ∧ Prepared env false := by
  simp only [keytabPlan_opening, gates_ok_iff, limiterGate_ok_iff, passwordGate_ok_iff,
    preparedGate_ok_iff, Option.ne_none_iff_exists']

end Opens

end

end Krb5TokenService.Service
